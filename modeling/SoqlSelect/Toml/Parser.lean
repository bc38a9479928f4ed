import SoqlSelect.Text.Reader
import SoqlSelect.Toml.Scalar

/-!
# TOML text

The text of a document, line by line: headers of tables, members with dotted keys and values, and
comments. Arrays and inline tables may go over several lines and may end in a comma; in an inline table
a line may also end beside the equals sign.
-/

namespace SoqlSelect.Toml

open Text Text.Reader

/-! ### Blanks and comments -/

def isBlank (c : Char) : Bool := c == ' ' || c == '\t'

def blanks : Reader Unit := do
  let _ ← takeWhile isBlank

/-- The end of a line, as it is written. -/
def newline : Reader (List Char) :=
  (char '\n' *> pure ['\n']) <|> (string "\r\n" *> pure ['\r', '\n'])

/-- The characters that may stand in comments and strings: no control but the tab. -/
def isPlain (c : Char) : Bool :=
  c == '\t' || (0x20 ≤ c.toNat && c.toNat != 0x7F)

def comment : Reader Unit := do
  char '#'
  let _ ← takeWhile isPlain

/-- Blanks, ends of lines and comments in any number. -/
def gap : Reader Unit := do
  let blank := do let _ ← takeWhile1 isBlank
  let lineEnd := do let _ ← newline
  let _ ← many (blank <|> lineEnd <|> comment)

/-! ### Strings -/

/-- The character with a number that has that many hexadecimal digits. -/
def codePoint (digits : Nat) : Reader Char := do
  let ds ← takeExactly digits fun c => (hexDigit? c).isSome
  let n := inBase 16 ds
  guard n.isValidChar
  return Char.ofNat n

/-- The character that an escape stands for, after the backslash. -/
def escaped : Reader Char := do
  match ← satisfy fun _ => true with
  | 'b' => return '\x08'
  | 't' => return '\t'
  | 'n' => return '\n'
  | 'f' => return '\x0c'
  | 'r' => return '\r'
  | 'e' => return '\x1b'
  | '\"' => return '\"'
  | '\\' => return '\\'
  | 'x' => codePoint 2
  | 'u' => codePoint 4
  | 'U' => codePoint 8
  | _ => failure

/-- A string on one line, with escapes. -/
def basicString : Reader (List Char) := do
  char '\"'
  let cs ← many <|
    satisfy (fun c => isPlain c && c != '\"' && c != '\\') <|> (char '\\' *> escaped)
  char '\"'
  return cs

/-- A string on one line, as it is. -/
def literalString : Reader (List Char) := do
  char '\x27'
  let cs ← takeWhile fun c => isPlain c && c != '\x27'
  char '\x27'
  return cs

/-- One or two quotes inside a string of several lines. -/
def innerQuotes (q : Char) : Reader (List Char) := do
  let qs ← takeWhile1 (· == q)
  guard (qs.length ≤ 2)
  return qs

/-- The quotes that end a string of several lines, and up to two more before them, which belong to
it. -/
def closingQuotes (q : Char) : Reader (List Char) := do
  takeExactly 3 (· == q) *> pure ()
  let more ← optional (satisfy (· == q))
  let andMore ← optional (satisfy (· == q))
  return more.toList ++ andMore.toList

/-- A backslash at the end of a line, with all blanks and ends of lines after it. -/
def lineContinuation : Reader (List Char) := do
  char '\\'
  blanks
  let _ ← newline
  let blank := do let _ ← takeWhile1 isBlank
  let lineEnd := do let _ ← newline
  let _ ← many (blank <|> lineEnd)
  return []

/-- The body of a string of several lines, up to and with the closing quotes. An end of line directly
after the opening quotes does not belong to it. -/
def multilineBody (q : Char) (piece : Reader (List Char)) : Reader (List Char) := do
  let _ ← optional newline
  let pieces ← many (piece <|> newline <|> innerQuotes q)
  let last ← closingQuotes q
  return pieces.flatten ++ last

def multilineBasicString : Reader (List Char) := do
  takeExactly 3 (· == '\"') *> pure ()
  multilineBody '\"' <|
    lineContinuation <|> (List.singleton <$> (char '\\' *> escaped)) <|>
      takeWhile1 fun c => isPlain c && c != '\"' && c != '\\'

def multilineLiteralString : Reader (List Char) := do
  takeExactly 3 (· == '\x27') *> pure ()
  multilineBody '\x27' (takeWhile1 fun c => isPlain c && c != '\x27')

def stringValue : Reader Value := do
  let cs ← multilineBasicString <|> multilineLiteralString <|> basicString <|> literalString
  return .string (String.ofList cs)

/-- The deepest nesting of arrays and inline tables, and the length of the longest path of keys. -/
def nestingLimit : Nat := 80

/-! ### Keys -/

def isBareKeyChar (c : Char) : Bool :=
  c.isAlphanum || c == '_' || c == '-'

def simpleKey : Reader String := do
  let cs ← takeWhile1 isBareKeyChar <|> basicString <|> literalString
  return String.ofList cs

/-- Keys with points between them. -/
def key : Reader (List String) := do
  let path ← sepBy1 simpleKey (blanks *> char '.' *> blanks)
  guard (path.length ≤ nestingLimit)
  return path

/-! ### Values -/

/-- The characters of values without quotes: all but blanks, ends of lines and the marks that give a
document its structure. -/
def isWordChar (c : Char) : Bool :=
  !(isBlank c || c == '\r' || c == '\n' || c == '#' || c == '=' || c == ',' || c == '[' || c == ']' ||
    c == '\x7b' || c == '\x7d')

/-- A time of day after a date and one space. -/
def spacedTime : Reader (List Char) := do
  char ' '
  let first ← satisfy Char.isDigit
  let rest ← takeWhile isWordChar
  return ' ' :: first :: rest

/-- A value without quotes. -/
def wordValue : Reader Value := do
  let word ← takeWhile1 isWordChar
  let time ← if afterDate? word = some [] then optional spacedTime else pure none
  match ofWord? (word ++ time.getD []) with
  | some v => return v
  | none => failure

/-- Items between brackets, with commas between them and maybe one at the end. -/
def listed {α : Type} (opening closing : Char) (item : Reader α) : Reader (List α) := do
  char opening
  gap
  let items ← optional (sepBy1 item (gap *> char ',' *> gap))
  gap
  if items.isSome then
    let _ ← optional (char ',')
    gap
  char closing
  return items.getD []

/-- A member of a table, with a value of the given kind and with the given space around the equals
sign. -/
def member (space : Reader Unit) (value : Reader Value) : Reader (List String × Value) := do
  let path ← key
  space
  char '='
  space
  return (path, ← value)

def inlineTable (value : Reader Value) : Reader Value := do
  let members ← listed '\x7b' '\x7d' (member gap value)
  match members.foldlM (fun t (path, v) => Table.addDotted v path t) [] with
  | some t => return .table .inline t
  | none => failure

/-- A value that is nested at most `depth` deep. -/
def value : Nat → Reader Value
  | 0 => stringValue <|> wordValue
  | depth + 1 =>
    stringValue <|> wordValue <|> (.array <$> listed '[' ']' (value depth)) <|>
      inlineTable (value depth)

/-! ### Documents -/

def header : Reader Line := do
  char '['
  blanks
  let path ← key
  blanks
  char ']'
  return .header path

def element : Reader Line := do
  string "[["
  blanks
  let path ← key
  blanks
  string "]]"
  return .element path

def line : Reader Line := do
  blanks
  let entry := do
    let (path, v) ← member blanks (value nestingLimit)
    return Line.member path v
  let content ← element <|> header <|> entry <|> pure .blank
  blanks
  let _ ← optional comment
  return content

/-- The root table of a text. A byte order mark may stand in front. -/
def parse? (text : String) : Option Table := do
  let document : Reader (List Line) := do
    let _ ← optional (char '\ufeff')
    sepBy1 line (newline *> pure ())
  Document.ofLines? (← document.run? text.toList)

end SoqlSelect.Toml
