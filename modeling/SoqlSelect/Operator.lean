/-!
# Operators

Two tables of operators: comparators relate a field to an operand, and connectives join conditions. A
filter names an operator by a symbol that begins with a dollar sign, and a query by a token. Here and in
the other modules, the names in parentheses are those that `soquery` has for the same functions.
-/

namespace SoqlSelect

/-! ### Comparators -/

inductive Comparator
  | notIn
  | isIn
  | like
  | greater
  | greaterOrEqual
  | less
  | lessOrEqual
  | equal
  | notEqual
deriving DecidableEq

namespace Comparator

/-- The table, in the order in which it is listed. -/
def all : List Comparator :=
  [.notIn, .isIn, .like, .greater, .greaterOrEqual, .less, .lessOrEqual, .equal, .notEqual]

def symbol : Comparator → String
  | .notIn => "$nin"
  | .isIn => "$in"
  | .like => "$like"
  | .greater => "$gt"
  | .greaterOrEqual => "$gte"
  | .less => "$lt"
  | .lessOrEqual => "$lte"
  | .equal => "$eq"
  | .notEqual => "$ne"

def token : Comparator → String
  | .notIn => "NOT IN"
  | .isIn => "IN"
  | .like => "LIKE"
  | .greater => ">"
  | .greaterOrEqual => ">="
  | .less => "<"
  | .lessOrEqual => "<="
  | .equal => "="
  | .notEqual => "!="

/-- The comparators that take a list of values (`is_set`). -/
def takesList : Comparator → Bool
  | .notIn | .isIn => true
  | _ => false

/-- The comparator with that symbol (`from_symbol`). -/
def ofSymbol? (s : String) : Option Comparator :=
  all.find? (·.symbol == s)

theorem mem_all (c : Comparator) : c ∈ all := by
  cases c <;> decide

theorem symbol_of_ofSymbol? {s : String} {c : Comparator} (h : ofSymbol? s = some c) :
    c.symbol = s := by
  simpa using List.find?_some h

@[simp] theorem ofSymbol?_symbol (c : Comparator) : ofSymbol? c.symbol = some c := by
  cases c <;> rfl

end Comparator

/-! ### Connectives -/

inductive Connective
  | and
  | or
deriving DecidableEq

namespace Connective

def all : List Connective := [.and, .or]

def symbol : Connective → String
  | .and => "$and"
  | .or => "$or"

def token : Connective → String
  | .and => "AND"
  | .or => "OR"

/-- The connective with that symbol (`from_symbol`). -/
def ofSymbol? (s : String) : Option Connective :=
  all.find? (·.symbol == s)

theorem symbol_of_ofSymbol? {s : String} {c : Connective} (h : ofSymbol? s = some c) :
    c.symbol = s := by
  simpa using List.find?_some h

@[simp] theorem ofSymbol?_symbol (c : Connective) : ofSymbol? c.symbol = some c := by
  cases c <;> rfl

end Connective

end SoqlSelect
