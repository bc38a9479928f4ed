import SoqlSelect.Json.Outline
import SoqlSelect.Statement

/-!
# Descriptors

A descriptor is JSON for a statement: an object whose members may be missing and in any order, or an
array that gives them in a fixed order. Members of other names are passed over. The first member that
is not what it should be decides the error.

A text that describes a statement is read directly. A member may then be given once only, and what is
passed over is held to its form, but may be nested to any depth.
-/

namespace SoqlSelect

namespace Descriptor

/-! ### Members -/

def string : Json → Except DescriptorError String
  | .string s => .ok s
  | j => .error (.unexpected j .string)

def count : Json → Except DescriptorError UInt64
  | .number n =>
    match n, n.toUInt64? with
    | _, some k => .ok k
    | .int _ _, none => .error (.negativeCount (.number n))
    | .float _, none => .error (.unexpected (.number n) .count)
  | j => .error (.unexpected j .count)

def strings : Json → Except DescriptorError (List String)
  | .array items => items.mapM string
  | j => .error (.unexpected j .list)

/-- A member that may be null, which means that it is not set. -/
def optional {α : Type} (read : Json → Except DescriptorError α) :
    Json → Except DescriptorError (Option α)
  | .null => .ok none
  | j => (read j).map some

/-- Reads the members into a record that starts from its defaults. An array gives the members in the
order of the names, and may not have more. -/
def record {α : Type} (expected : Expected) (names : List String) (default : α)
    (set : α → String × Json → Except DescriptorError α) : Json → Except DescriptorError α
  | .object members => members.foldlM set default
  | .array items => do
    let result ← (names.zip items).foldlM set default
    if items.length ≤ names.length then return result
    else throw (.tooManyItems items.length)
  | j => .error (.unexpected j expected)

/-! ### Text -/

/-- The members of the given names in an outline, as data. -/
def knownMembers? (names : List String) (read : String → Json.Outline → Option Json) :
    Json.Outline → Option Json
  | .object members => do
    let members ← members.mapM fun (name, value) => name.map (·, value)
    let known := members.filter fun (name, _) => names.contains name
    guard (known.map (·.1)).Nodup
    let values ← known.mapM fun (name, value) => (read name value).map (name, ·)
    return .object values
  | .array items => do
    guard (items.length ≤ names.length)
    let values ← (names.zip items).mapM fun (name, value) => read name value
    return .array values
  | outline => outline.data? 0

end Descriptor

/-! ### Paging -/

namespace Paging

def memberNames : List String := ["skip", "limit", "page", "pageSize", "sort"]

def setMember (p : Paging) : String × Json → Except DescriptorError Paging
  | (name, j) =>
    let count := Descriptor.optional Descriptor.count j
    if name = "skip" then count.map fun n => { p with skip := n }
    else if name = "limit" then count.map fun n => { p with limit := n }
    else if name = "page" then count.map fun n => { p with page := n }
    else if name = "pageSize" then count.map fun n => { p with pageSize := n }
    else if name = "sort" then
      (Descriptor.optional Descriptor.string j).map fun s => { p with sort := s }
    else .ok p

def ofJson : Json → Except DescriptorError Paging :=
  Descriptor.record .paging memberNames {} setMember

end Paging

/-! ### Statements -/

namespace Operation

def ofJson (j : Json) : Except DescriptorError Operation :=
  (Descriptor.string j).map ofName

end Operation

namespace Statement

def memberNames : List String := ["object", "type", "query", "fields", "pagination"]

def setMember (s : Statement) : String × Json → Except DescriptorError Statement
  | (name, j) =>
    if name = "object" then (Descriptor.string j).map fun object => { s with object }
    else if name = "type" then (Operation.ofJson j).map fun operation => { s with operation }
    else if name = "query" then
      match Filter.ofJson j with
      | .ok filter => .ok { s with filter }
      | .error cause => .error (.filter cause)
    else if name = "fields" then (Descriptor.strings j).map fun fields => { s with fields }
    else if name = "pagination" then
      (Descriptor.optional Paging.ofJson j).map fun paging => { s with paging }
    else .ok s

/-- The statement that JSON data describes. -/
def ofJson : Json → Except DescriptorError Statement :=
  Descriptor.record .statement memberNames {} setMember

/-- The statement that a text describes. The descriptor itself takes one of the levels that the text may
be nested. -/
def ofText? (text : String) : Option Statement := do
  let outline ← Json.Outline.ofText? text
  let depth := Json.nestingLimit - 1
  let descriptor ← Descriptor.knownMembers? memberNames
    (fun name value =>
      if name = "pagination" then
        Descriptor.knownMembers? Paging.memberNames (fun _ member => member.data? (depth - 1)) value
      else value.data? depth)
    outline
  (ofJson descriptor).toOption

/-- The query of the statement that JSON data describes. -/
def soqlOfJson (j : Json) : Except QueryError String :=
  match ofJson j with
  | .ok s => s.soql
  | .error cause => .error (.descriptor cause)

end Statement

end SoqlSelect
