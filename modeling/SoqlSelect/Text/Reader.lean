/-!
# Readers

A reader takes characters from the front of a text and gives a result, or fails. An alternative starts
where the reader that failed has started.
-/

namespace SoqlSelect.Text

abbrev Reader (α : Type) := StateT (List Char) Option α

namespace Reader

variable {α : Type}

/-- The next character, if it is one of those. -/
def satisfy (p : Char → Bool) : Reader Char := fun
  | c :: cs => if p c then some (c, cs) else none
  | [] => none

def char (c : Char) : Reader Unit := do
  let _ ← satisfy (· == c)

def string (s : String) : Reader Unit :=
  s.toList.forM char

/-- All following characters of a class. -/
def takeWhile (p : Char → Bool) : Reader (List Char) := fun cs =>
  some (cs.takeWhile p, cs.dropWhile p)

/-- The run of a class, which has at least one character. -/
def takeWhile1 (p : Char → Bool) : Reader (List Char) := do
  let run ← takeWhile p
  guard !run.isEmpty
  return run

/-- Exactly that number of characters of a class. -/
def takeExactly (n : Nat) (p : Char → Bool) : Reader (List Char) :=
  (List.replicate n ()).mapM fun _ => satisfy p

/-- The results of the reader one after the other, as long as it succeeds and takes something. -/
def many (r : Reader α) : Reader (List α) := fun cs => some (loop cs)
where
  loop (cs : List Char) : List α × List Char :=
    match r cs with
    | none => ([], cs)
    | some (a, rest) =>
      if rest.length < cs.length then
        let (as, after) := loop rest
        (a :: as, after)
      else ([], cs)
  termination_by cs.length

/-- Results with separators between them, at least one result. -/
def sepBy1 (r : Reader α) (separator : Reader Unit) : Reader (List α) := do
  let first ← r
  let others ← many (separator *> r)
  return first :: others

/-- What the reader gives for the whole of a text. -/
def run? (r : Reader α) (cs : List Char) : Option α :=
  match r cs with
  | some (a, []) => some a
  | _ => none

end Reader

end SoqlSelect.Text
