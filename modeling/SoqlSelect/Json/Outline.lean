import SoqlSelect.Json.Basic
import SoqlSelect.Json.Token

/-!
# JSON text

A text is read in two steps. The outline gives its structure, to any depth, with scalars as they are
spelled. The data is what the outline stands for: it exists if the nesting stays within a bound, every
number has a value and every string is made of characters.

The outline is built by a machine that takes one token after the other and keeps the containers that
are still open.
-/

namespace SoqlSelect.Json

/-- The structure of a JSON text. A string without content has escapes that make up no characters. -/
inductive Outline
  | null
  | bool (b : Bool)
  | number (l : NumberLiteral)
  | string (content : Option String)
  | array (items : List Outline)
  | object (members : List (Option String × Outline))

/-- The deepest nesting of arrays and objects in a text. -/
def nestingLimit : Nat := 127

namespace Outline

/-! ### Building -/

/-- A container that is still open, with what it has so far, the last first. A member is an object that
waits for the value of its last name. -/
inductive Frame
  | array (items : List Outline)
  | object (members : List (Option String × Outline))
  | member (members : List (Option String × Outline)) (name : Option String)

/-- What may come next. -/
inductive Phase
  | value
  | valueOrEnd
  | name
  | nameOrEnd
  | colon (name : Option String)
  | commaOrEnd
  | nothing (root : Outline)

structure Machine where
  frames : List Frame
  phase : Phase

namespace Machine

/-- A value is complete: it is the whole text or goes into the innermost container. -/
def receive (value : Outline) : List Frame → Option Machine
  | [] => some ⟨[], .nothing value⟩
  | .array items :: outer => some ⟨.array (value :: items) :: outer, .commaOrEnd⟩
  | .member members name :: outer => some ⟨.object ((name, value) :: members) :: outer, .commaOrEnd⟩
  | .object _ :: _ => none

/-- A value begins with the token. -/
def begin (frames : List Frame) : Token → Option Machine
  | .beginArray => some ⟨.array [] :: frames, .valueOrEnd⟩
  | .beginObject => some ⟨.object [] :: frames, .nameOrEnd⟩
  | .null => receive .null frames
  | .bool b => receive (.bool b) frames
  | .number l => receive (.number l) frames
  | .string content => receive (.string content) frames
  | _ => none

def step (m : Machine) (token : Token) : Option Machine :=
  match m.phase, token, m.frames with
  | .valueOrEnd, .endArray, .array items :: outer => receive (.array items.reverse) outer
  | .valueOrEnd, token, frames => begin frames token
  | .value, token, frames => begin frames token
  | .nameOrEnd, .endObject, .object members :: outer => receive (.object members.reverse) outer
  | .nameOrEnd, .string name, frames => some ⟨frames, .colon name⟩
  | .name, .string name, frames => some ⟨frames, .colon name⟩
  | .colon name, .colon, .object members :: outer => some ⟨.member members name :: outer, .value⟩
  | .commaOrEnd, .comma, .array items :: outer => some ⟨.array items :: outer, .value⟩
  | .commaOrEnd, .comma, .object members :: outer => some ⟨.object members :: outer, .name⟩
  | .commaOrEnd, .endArray, .array items :: outer => receive (.array items.reverse) outer
  | .commaOrEnd, .endObject, .object members :: outer => receive (.object members.reverse) outer
  | _, _, _ => none

/-- The outline, once nothing more may come. -/
def result? (m : Machine) : Option Outline :=
  match m.phase with
  | .nothing root => some root
  | _ => none

end Machine

/-- The outline of a text. -/
def ofText? (s : String) : Option Outline := do
  let tokens ← Token.scan? s.toList
  let m ← tokens.foldlM Machine.step ⟨[], .value⟩
  m.result?

/-! ### Data -/

mutual

/-- The data that the outline stands for, if it is nested at most `depth` deep. -/
def data? (depth : Nat) : Outline → Option Json
  | .null => some .null
  | .bool b => some (.bool b)
  | .number l => (Number.ofLiteral? l).map .number
  | .string content => content.map .string
  | .array items =>
    match depth with
    | 0 => none
    | depth + 1 => (itemData? depth items).map .array
  | .object members =>
    match depth with
    | 0 => none
    | depth + 1 => (memberData? depth members).map (.object <| Members.merge ·)

def itemData? (depth : Nat) : List Outline → Option (List Json)
  | [] => some []
  | item :: rest => do
    let first ← data? depth item
    let others ← itemData? depth rest
    return first :: others

def memberData? (depth : Nat) : List (Option String × Outline) → Option (List (String × Json))
  | [] => some []
  | (name, value) :: rest => do
    let name ← name
    let first ← data? depth value
    let others ← memberData? depth rest
    return (name, first) :: others

end

end Outline

/-- The data that a text stands for. -/
def parse? (s : String) : Option Json := do
  let outline ← Outline.ofText? s
  outline.data? nestingLimit

end SoqlSelect.Json
