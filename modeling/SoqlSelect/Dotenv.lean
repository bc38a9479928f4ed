import SoqlSelect.Environment
import SoqlSelect.Text.Alphanumeric
import SoqlSelect.Text.Characters

/-!
# Files of variables

A file `.env` provides environment variables, one assignment to a logical line. A logical line goes on
over the end of a physical line inside quotes and after a backslash. A value may refer to variables,
which are looked up in the environment as it is after the lines before. The file is read line by line,
and the first line that cannot be read or applied decides how reading fails.
-/

namespace SoqlSelect.Dotenv

/-! ### Logical lines -/

/-- Where the scan of a logical line stands. -/
inductive Scan
  | complete
  | space
  | escape
  | double
  | doubleEscape
  | single
  | singleEscape
deriving DecidableEq

/-- What a character opens outside quotes. -/
def Scan.opening (c : Char) : Scan :=
  if c == '\\' then .escape
  else if c == '\"' then .double
  else if c == '\x27' then .single
  else .complete

def Scan.next (s : Scan) (c : Char) : Scan :=
  match s with
  | .complete => if Text.isBlank c && c != '\n' && c != '\r' then .space else opening c
  | .space => opening c
  | .escape => .complete
  | .double => if c == '\\' then .doubleEscape else if c == '\"' then .complete else .double
  | .doubleEscape => .double
  | .single => if c == '\\' then .singleEscape else if c == '\x27' then .complete else .single
  | .singleEscape => .single

/-- The line up to a comment, and where the scan stands at its end; after a comment it stands
nowhere. -/
def scanLine : Scan → List Char → List Char × Option Scan
  | s, [] => ([], some s)
  | s, c :: cs =>
    if s = .space ∧ c = '#' then ([], none)
    else
      let (kept, last) := scanLine (s.next c) cs
      (c :: kept, last)

/-- The lines of a file, each with the byte that ends it. -/
def physicalLines : List UInt8 → List (List UInt8)
  | [] => []
  | b :: bs =>
    if b = '\n'.toUInt8 then [b] :: physicalLines bs
    else match physicalLines bs with
      | [] => [[b]]
      | line :: lines => (b :: line) :: lines

/-- The text of a line, if it is UTF-8. -/
def lineText? (line : List UInt8) : Option (List Char) :=
  (String.fromUTF8? ⟨line.toArray⟩).map String.toList

/-- The line without the characters that end it. -/
def withoutNewline (line : List Char) : List Char :=
  match line.reverse with
  | '\n' :: '\r' :: rest => rest.reverse
  | '\n' :: rest => rest.reverse
  | _ => line

/-- Joins physical lines, from a logical line that has begun. The last line is missing if it is not
UTF-8 or if the file ends inside of it. -/
def joinLines (begun : List Char) (s : Scan) : List (List UInt8) → List (Option (List Char))
  | [] => if s = .complete then [] else [none]
  | bytes :: lines =>
    match lineText? bytes with
    | none => [none]
    | some line =>
      let joined := begun ++ line
      if (Text.trimStart joined).head? = some '#' then joinLines [] .complete lines
      else match scanLine s line with
        | (kept, none) => some (begun ++ kept) :: joinLines [] .complete lines
        | (_, some .complete) => some (withoutNewline joined) :: joinLines [] .complete lines
        | (_, some s) => joinLines joined s lines

/-! ### Values -/

/-- Where the reading of a value stands: in text or after a backslash, inside double quotes or not;
inside single quotes; in a name after a dollar sign, with braces or without; or after the blank that
ends the value. -/
inductive Mode
  | text (quoted : Bool)
  | escaped (quoted : Bool)
  | verbatim
  | name (quoted : Bool) (chars : List Char)
  | braced (quoted : Bool) (chars : List Char)
  | ended

/-- The character that an escape stands for. -/
def escape? (c : Char) : Option Char :=
  if c == '\\' || c == '\x27' || c == '\"' || c == '$' || c == ' ' then some c
  else if c == 'n' then some '\n'
  else none

/-- What a name in a value stands for; an unknown one stands for nothing. -/
def substitute (env : Environment) (name : List Char) : List Char :=
  ((env.get? (String.ofList name)).getD "").toList

/-- The value that the characters write. -/
def value? (env : Environment) : Mode → List Char → Option (List Char)
  | .text quoted, [] => if quoted then none else some []
  | .escaped quoted, [] => if quoted then none else some []
  | .verbatim, [] => none
  | .name quoted chars, [] => if quoted then none else some (substitute env chars)
  | .braced _ _, [] => none
  | .ended, [] => some []
  | .text quoted, c :: cs =>
    if c = '$' then value? env (.name quoted []) cs
    else if c = '\\' then value? env (.escaped quoted) cs
    else if c = '\"' then value? env (.text !quoted) cs
    else if quoted then (value? env (.text quoted) cs).map (c :: ·)
    else if c = '\x27' then value? env .verbatim cs
    else if c = ' ' ∨ c = '\t' then value? env .ended cs
    else (value? env (.text quoted) cs).map (c :: ·)
  | .escaped quoted, c :: cs =>
    (escape? c).bind fun e => (value? env (.text quoted) cs).map (e :: ·)
  | .verbatim, c :: cs =>
    if c = '\x27' then value? env (.text false) cs
    else (value? env .verbatim cs).map (c :: ·)
  | .name quoted chars, c :: cs =>
    if Text.isAlphanumeric c then value? env (.name quoted (chars ++ [c])) cs
    else if c = '\x7b' ∧ chars = [] then value? env (.braced quoted []) cs
    else if c = '$' then (value? env (.name quoted []) cs).map (substitute env chars ++ ·)
    else (value? env (.text quoted) cs).map (substitute env chars ++ c :: ·)
  | .braced quoted chars, c :: cs =>
    if c = '\x7d' then (value? env (.text quoted) cs).map (substitute env chars ++ ·)
    else value? env (.braced quoted (chars ++ [c])) cs
  | .ended, c :: cs =>
    if c = ' ' ∨ c = '\t' then value? env .ended cs
    else if c = '#' then some []
    else none

/-! ### Assignments -/

/-- A key and what follows it and its blanks. -/
def key? (cs : List Char) : Option (String × List Char) :=
  let isKeyChar := fun (c : Char) => c.isAlphanum || c == '_' || c == '.'
  if cs.head?.any fun c => c.isAlpha || c == '_' then
    some (String.ofList (cs.takeWhile isKeyChar), Text.trimStart (cs.dropWhile isKeyChar))
  else none

/-- A key and what follows its equals sign. The word `export` in front of a key is passed over. -/
def target? (cs : List Char) : Option (String × List Char) := do
  let (key, cs) ← key? cs
  match cs with
  | '=' :: cs => return (key, cs)
  | cs =>
    guard (key = "export")
    match ← key? cs with
    | (key, '=' :: cs) => return (key, cs)
    | _ => none

/-- Nothing is written but blanks or a comment. -/
def isVacant (cs : List Char) : Bool :=
  cs.isEmpty || cs.head? == some '#'

/-- The assignments of a logical line, which are one or none. -/
def lineAssignments? (env : Environment) (line : List Char) : Option (List (String × String)) :=
  let cs := Text.trimStart (Text.trimEnd line)
  if isVacant cs then some []
  else do
    let (key, cs) ← target? cs
    let cs := Text.trimStart cs
    let value ← if isVacant cs then pure [] else value? env (.text false) cs
    return [(key, String.ofList value)]

/-- Why the variables of a file cannot be provided: a line cannot be read, or a variable cannot hold the
text that a line gives it. -/
inductive Failure
  | malformed
  | unsettable
deriving DecidableEq

/-- The assignments of logical lines. A value sees what the lines before have provided. -/
def assignments (env : Environment) :
    List (Option (List Char)) → Except Failure (List (String × String))
  | [] => .ok []
  | line :: lines =>
    match line.bind (lineAssignments? env) with
    | none => .error .malformed
    | some first =>
      if first.all fun a => env.accepts a.1 a.2 then do
        let others ← assignments (env.provideAll first) lines
        return first ++ others
      else .error .unsettable

/-- The file without a byte order mark in front. -/
def withoutMark : List UInt8 → List UInt8
  | 0xEF :: 0xBB :: 0xBF :: bs => bs
  | bs => bs

/-- The logical lines of a file. -/
def logicalLines (content : ByteArray) : List (Option (List Char)) :=
  joinLines [] .complete (physicalLines (withoutMark content.data.toList))

/-- The assignments that a file makes (`dotenv`). -/
def parse (env : Environment) (content : ByteArray) : Except Failure (List (String × String)) :=
  assignments env (logicalLines content)

end SoqlSelect.Dotenv
