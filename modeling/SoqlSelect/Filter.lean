import SoqlSelect.Condition

/-!
# Filters

A filter restricts fields by its entries. An entry under the symbol of a connective holds an array of
expressions, each of them an object of field entries of its own; all other entries are field entries of
the filter itself. A field entry is a list of choices, an object of operators, or a scalar for equality.

The condition of a filter is the conjunction of the group of its `$and` expressions, the group of its
`$or` expressions and the group of its own field entries, in this order and as far as they are there.
-/

namespace SoqlSelect

structure Filter where
  entries : Entries := []

namespace Filter

/-- The filter with one more entry at the end. -/
def push (f : Filter) (key : String) (value : Value) : Filter :=
  { entries := f.entries ++ [(key, value)] }

/-- The filter that JSON data describes (`from_json`): an object, or nothing at all. -/
def ofJson : Json → Except Malformed Filter
  | .object members => .ok { entries := Value.entriesOfJson members }
  | .null => .ok {}
  | j => .error (.notAFilter (Value.ofJson j).shown)

/-! ### Expressions -/

/-- The comparisons of a field entry. -/
def comparisons (field : String) (value : Value) : Except QueryError (List Comparison) :=
  match Connective.ofSymbol? field with
  | some connective => .error (.malformed (.nestedConnective connective))
  | none =>
    match value.form with
    | .choices _ => (Comparison.ofValue field .isIn value).map fun c => [c]
    | .operators [] => .error (.malformed (.emptyOperators field value.shown))
    | .operators entries => entries.mapM fun (symbol, operand) => do
      Comparison.ofValue field (← Comparator.ofSymbol symbol) operand
    | .scalar v => (Comparison.ofValue field .equal v).map fun c => [c]

/-- The condition of an expression (`compile_node`): all comparisons of its entries hold. -/
def expression (entries : Entries) : Except QueryError Condition :=
  if entries.isEmpty then .error (.malformed .emptyExpression)
  else do
    let groups ← entries.mapM fun (field, value) => comparisons field value
    return .group .and (groups.flatten.map .comparison)

/-! ### Parts -/

/-- The entries of a filter by their role. -/
structure Parts where
  all : Option (List Entries) := none
  any : Option (List Entries) := none
  fields : Entries := []

/-- The expressions under a connective (`combinator_nodes`). -/
def expressions (connective : Connective) : Value → Except QueryError (List Entries)
  | .array [] => .error (.malformed (.connectiveWithoutExpression connective))
  | .array items => items.mapM fun
    | .object entries => .ok entries
    | item => .error (.malformed (.notAnExpression connective item.shown))
  | _ => .error (.malformed (.connectiveWithoutArray connective))

namespace Parts

/-- The expressions of a connective, which is given at most once (`set_once`). -/
def once (connective : Connective) (given : Option (List Entries)) (value : Value) :
    Except QueryError (List Entries) :=
  match given with
  | some _ => .error (.malformed (.repeatedConnective connective))
  | none => expressions connective value

/-- Takes one more entry. -/
def add (parts : Parts) : String × Value → Except QueryError Parts
  | (key, value) =>
    match Connective.ofSymbol? key with
    | some .and => (once .and parts.all value).map fun es => { parts with all := some es }
    | some .or => (once .or parts.any value).map fun es => { parts with any := some es }
    | none => .ok { parts with fields := parts.fields ++ [(key, value)] }

/-- The group of the expressions of a connective, if it is given (`compile_combinator`). -/
def group (connective : Connective) : Option (List Entries) → Except QueryError (List Condition)
  | none => .ok []
  | some es => do return [.group connective (← es.mapM expression)]

/-- The condition of the field entries, if there are any. -/
def fieldGroup (fields : Entries) : Except QueryError (List Condition) :=
  if fields.isEmpty then .ok [] else (expression fields).map fun c => [c]

/-- The conditions of the parts, in their fixed order. -/
def conditions (parts : Parts) : Except QueryError (List Condition) := do
  let all ← group .and parts.all
  let any ← group .or parts.any
  let fields ← fieldGroup parts.fields
  return all ++ any ++ fields

end Parts

/-! ### Condition -/

/-- The entries by their role. -/
def parts (f : Filter) : Except QueryError Parts :=
  f.entries.foldlM Parts.add {}

/-- The condition of the filter, if it restricts anything. -/
def condition (f : Filter) : Except QueryError (Option Condition) := do
  let conditions ← (← f.parts).conditions
  return if conditions.isEmpty then none else some (.group .and conditions)

/-- The clause for the condition, which is empty without one (`compile_tree`). -/
def clause (f : Filter) : Except QueryError String :=
  f.condition.map fun
    | none => ""
    | some c => "WHERE " ++ c.text

end Filter

end SoqlSelect
