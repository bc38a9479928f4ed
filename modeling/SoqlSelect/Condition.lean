import SoqlSelect.Literal

/-!
# Conditions

A condition is a comparison, or a group of conditions joined by one connective. Every group stands in
parentheses (`join_group`).
-/

namespace SoqlSelect

structure Comparison where
  field : String
  operator : Comparator
  operand : Operand
deriving DecidableEq

namespace Comparison

def text (c : Comparison) : String :=
  c.field ++ " " ++ c.operator.token ++ " " ++ c.operand.text

/-- The comparison of a field with a value (`compile_matcher`). -/
def ofValue (field : String) (operator : Comparator) (value : Value) :
    Except QueryError Comparison :=
  (Operand.ofValue field operator value).map fun operand => { field, operator, operand }

end Comparison

inductive Condition
  | comparison (c : Comparison)
  | group (connective : Connective) (parts : List Condition)

namespace Condition

mutual

def text : Condition → String
  | .comparison c => c.text
  | .group connective parts =>
    "(" ++ String.intercalate (" " ++ connective.token ++ " ") (texts parts) ++ ")"

def texts : List Condition → List String
  | [] => []
  | part :: rest => text part :: texts rest

end

@[simp] theorem texts_eq_map (parts : List Condition) : texts parts = parts.map text := by
  induction parts with
  | nil => rfl
  | cons part rest ih => simp [texts, ih]

end Condition

end SoqlSelect
