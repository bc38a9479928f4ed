import SoqlSelect.Calendar.IsoText
import SoqlSelect.Error
import SoqlSelect.Value

/-!
# Literals and operands

A literal is written bare or between single quotes. A string in the form of a date is bare when it
stands alone, and quoted in a list. An operand is one literal, or a list of literals in parentheses.
-/

namespace SoqlSelect

inductive Literal
  | bare (text : String)
  | quoted (content : String)
deriving DecidableEq

namespace Literal

/-! ### Quoting -/

/-- A character of a string literal, given the character after it. A quote gets a backslash, and so does
a backslash unless it escapes a wildcard of the pattern language. -/
def escapeChar (c : Char) (next : Option Char) : List Char :=
  if c = '\\' then
    if next = some '%' ∨ next = some '_' then ['\\'] else ['\\', '\\']
  else if c = '\x27' then ['\\', '\x27']
  else [c]

def escape : List Char → List Char
  | [] => []
  | c :: cs => escapeChar c cs.head? ++ escape cs

/-- The string literal with that content (`quote`). -/
def quote (s : String) : String :=
  String.ofList ('\x27' :: escape s.toList ++ ['\x27'])

def text : Literal → String
  | .bare text => text
  | .quoted content => quote content

end Literal

/-! ### Literals of values -/

namespace Value

/-- The literal of a value that stands alone (`format_literal`). -/
def literal? : Value → Option Literal
  | .null => some (.bare "null")
  | .bool b => some (.bare (if b then "true" else "false"))
  | .number n => some (.bare n.text)
  | .string s => some (if isIsoDate s then .bare s else .quoted s)
  | .date t => some (.bare t.text)
  | .array _ => none
  | .object _ => none

/-- The literal of a value in a list. -/
def listLiteral? : Value → Option Literal
  | .string s => some (.quoted s)
  | v => v.literal?

/-- The value of a float, which has a literal only if it is finite. -/
def ofFloat (bits : UInt64) : Except QueryError Value :=
  match Binary64.ofBits bits with
  | .ok x => .ok (.number (.float x))
  | .error other => .error (.malformed (.noLiteralForm other.text))

end Value

/-! ### Operands -/

inductive Operand
  | one (literal : Literal)
  | list (literals : List Literal)
deriving DecidableEq

namespace Operand

def text : Operand → String
  | .one literal => literal.text
  | .list literals => "(" ++ String.intercalate "," (literals.map Literal.text) ++ ")"

/-- The literal of an element of a list (`format_list`). -/
def element (field : String) (item : Value) : Except QueryError Literal :=
  match item.listLiteral? with
  | some literal => .ok literal
  | none => .error (.invalidElement field item.shown)

/-- The operand that a value is for a comparator (`format_value`). Some comparators take a list with at
least one element, and the others a value with a literal. -/
def ofValue (field : String) (operator : Comparator) (value : Value) : Except QueryError Operand :=
  let invalid := QueryError.invalidOperand field operator value.shown
  if operator.takesList then
    match value with
    | .array (item :: items) => (List.mapM (element field) (item :: items)).map .list
    | _ => .error invalid
  else
    match value.literal? with
    | some literal => .ok (.one literal)
    | none => .error invalid

end Operand

end SoqlSelect
