import SoqlSelect.Json.Printer
import SoqlSelect.Operator
import SoqlSelect.Text.Visible

/-!
# Errors of queries

Each error names its cause. Values appear in the form in which the message shows them.
-/

namespace SoqlSelect

/-! ### Malformed queries -/

/-- What is wrong with a query that cannot be compiled. -/
inductive Malformed
  | emptyExpression
  | nestedConnective (connective : Connective)
  | emptyOperators (field shown : String)
  | repeatedConnective (connective : Connective)
  | connectiveWithoutArray (connective : Connective)
  | connectiveWithoutExpression (connective : Connective)
  | notAnExpression (connective : Connective) (shown : String)
  | notAFilter (shown : String)
  | noLiteralForm (shown : String)
  | noObject
  | noFields
  | limitExceeded (limit maximum : UInt64)
deriving DecidableEq

namespace Malformed

def reason : Malformed → String
  | .emptyExpression => "query expression cannot be empty"
  | .nestedConnective c =>
    "logical operator " ++ c.symbol ++ " cannot be nested inside a query expression"
  | .emptyOperators field shown => "incorrect operator value for field " ++ field ++ ": " ++ shown
  | .repeatedConnective c => "logical operator " ++ c.symbol ++ " is specified more than once"
  | .connectiveWithoutArray c => "logical operator " ++ c.symbol ++ " must have an array value"
  | .connectiveWithoutExpression c =>
    "logical operator " ++ c.symbol ++ " must have at least one query expression"
  | .notAnExpression c shown =>
    "logical operator " ++ c.symbol ++ " expects query expressions, got " ++ shown
  | .notAFilter shown => "query must be an object, got " ++ shown
  | .noLiteralForm shown => "number " ++ shown ++ " has no literal form"
  | .noObject => "the statement object must be specified in order to define the query expression"
  | .noFields => "the fields must be specified on a select query"
  | .limitExceeded limit maximum =>
    "limit " ++ Nat.repr limit.toNat ++ " exceeds the configured maximum of " ++
      Nat.repr maximum.toNat

def message (m : Malformed) : String := "Malformed query expression: " ++ m.reason

end Malformed

/-! ### Descriptors -/

/-- What a place in a descriptor asks for. -/
inductive Expected
  | string
  | count
  | list
  | statement
  | paging
deriving DecidableEq

def Expected.text : Expected → String
  | .string => "a string"
  | .count => "u64"
  | .list => "a sequence"
  | .statement => "struct SelectStatement"
  | .paging => "struct Pagination"

/-- The way JSON data is called when it is not what was asked for. -/
def Json.described : Json → String
  | .null => "null"
  | .bool b => "boolean `" ++ (if b then "true" else "false") ++ "`"
  | .number (.int n h) => "integer `" ++ (Number.int n h).text ++ "`"
  | .number (.float x) => "floating point `" ++ (Number.float x).text ++ "`"
  | .string s => "string " ++ Text.visible s
  | .array _ => "sequence"
  | .object _ => "map"

/-- Why JSON data does not describe a statement. -/
inductive DescriptorError
  | unexpected (found : Json) (expected : Expected)
  | negativeCount (found : Json)
  | tooManyItems (count : Nat)
  | filter (cause : Malformed)

namespace DescriptorError

def message : DescriptorError → String
  | .unexpected found expected => "invalid type: " ++ found.described ++ ", expected " ++ expected.text
  | .negativeCount found =>
    "invalid value: " ++ found.described ++ ", expected " ++ Expected.count.text
  | .tooManyItems count =>
    "invalid length " ++ Nat.repr count ++ ", expected fewer elements in array"
  | .filter cause => cause.message

end DescriptorError

/-! ### All errors -/

inductive QueryError
  | malformed (cause : Malformed)
  | unknownComparator (symbol : String)
  | unknownConnective (symbol : String)
  | invalidOperand (field : String) (operator : Comparator) (shown : String)
  | invalidElement (field shown : String)
  | unsupportedOperation (name : String)
  | descriptor (cause : DescriptorError)

namespace QueryError

def message : QueryError → String
  | .malformed cause => cause.message
  | .unknownComparator symbol => "Unknown operator: invalid comparison operator " ++ symbol
  | .unknownConnective symbol => "Unknown operator: invalid logical operator " ++ symbol
  | .invalidOperand field operator shown =>
    "Invalid value for operator " ++ operator.symbol ++ " on field " ++ field ++ ": " ++ shown
  | .invalidElement field shown => "Invalid array element for field " ++ field ++ ": " ++ shown
  | .unsupportedOperation name =>
    "Unsupported operation: the operation " ++ name ++ " was not implemented yet"
  | .descriptor cause => "Serialization error: " ++ cause.message

end QueryError

/-! ### Looking up operators -/

def Comparator.ofSymbol (s : String) : Except QueryError Comparator :=
  match ofSymbol? s with
  | some c => .ok c
  | none => .error (.unknownComparator s)

def Connective.ofSymbol (s : String) : Except QueryError Connective :=
  match ofSymbol? s with
  | some c => .ok c
  | none => .error (.unknownConnective s)

end SoqlSelect
