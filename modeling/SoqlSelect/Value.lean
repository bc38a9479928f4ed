import SoqlSelect.Calendar.Instant
import SoqlSelect.Json.Printer

/-!
# Filter values

The values that a filter compares fields with. They are JSON data and instants besides, and an object
is a list of entries in which a key may come again. The JSON view writes an instant as its text and
merges the entries of an object.
-/

namespace SoqlSelect

inductive Value
  | null
  | bool (b : Bool)
  | number (n : Number)
  | string (s : String)
  | date (t : Instant)
  | array (items : List Value)
  | object (entries : List (String × Value))

/-- One level of keys and values, in order. -/
abbrev Entries := List (String × Value)

namespace Value

/-! ### JSON view -/

mutual

def toJson : Value → Json
  | .null => .null
  | .bool b => .bool b
  | .number n => .number n
  | .string s => .string s
  | .date t => .string t.text
  | .array items => .array (itemsToJson items)
  | .object entries => .object (Members.merge (entriesToJson entries))

def itemsToJson : List Value → List Json
  | [] => []
  | item :: rest => toJson item :: itemsToJson rest

def entriesToJson : Entries → List (String × Json)
  | [] => []
  | (key, value) :: rest => (key, toJson value) :: entriesToJson rest

end

@[simp] theorem itemsToJson_eq_map (items : List Value) : itemsToJson items = items.map toJson := by
  induction items with
  | nil => rfl
  | cons item rest ih => simp [itemsToJson, ih]

@[simp] theorem entriesToJson_eq_map (entries : Entries) :
    entriesToJson entries = entries.map fun e => (e.1, toJson e.2) := by
  induction entries with
  | nil => rfl
  | cons entry rest ih => simp [entriesToJson, ih]

mutual

def ofJson : Json → Value
  | .null => .null
  | .bool b => .bool b
  | .number n => .number n
  | .string s => .string s
  | .array items => .array (itemsOfJson items)
  | .object members => .object (entriesOfJson members)

def itemsOfJson : List Json → List Value
  | [] => []
  | item :: rest => ofJson item :: itemsOfJson rest

def entriesOfJson : List (String × Json) → Entries
  | [] => []
  | (key, value) :: rest => (key, ofJson value) :: entriesOfJson rest

end

@[simp] theorem itemsOfJson_eq_map (items : List Json) : itemsOfJson items = items.map ofJson := by
  induction items with
  | nil => rfl
  | cons item rest ih => simp [itemsOfJson, ih]

@[simp] theorem entriesOfJson_eq_map (members : List (String × Json)) :
    entriesOfJson members = members.map fun m => (m.1, ofJson m.2) := by
  induction members with
  | nil => rfl
  | cons member rest ih => simp [entriesOfJson, ih]

/-- The compact JSON text, which stands for the value in messages. -/
def shown (v : Value) : String := v.toJson.text

/-! ### Equality -/

mutual

/-- Equality of values, with the equality of numbers. Entries are compared in order. -/
def agrees : Value → Value → Bool
  | .null, .null => true
  | .bool a, .bool b => a == b
  | .number a, .number b => a.agrees b
  | .string a, .string b => a == b
  | .date a, .date b => a == b
  | .array a, .array b => itemsAgree a b
  | .object a, .object b => entriesAgree a b
  | _, _ => false

def itemsAgree : List Value → List Value → Bool
  | [], [] => true
  | a :: as, b :: bs => agrees a b && itemsAgree as bs
  | _, _ => false

def entriesAgree : Entries → Entries → Bool
  | [], [] => true
  | (k, a) :: as, (l, b) :: bs => k == l && agrees a b && entriesAgree as bs
  | _, _ => false

end

/-! ### Forms -/

/-- The way in which the value of a field restricts it: as a list of choices, by operators, or by
equality with a scalar. -/
inductive Form
  | choices (items : List Value)
  | operators (entries : Entries)
  | scalar (v : Value)

def form : Value → Form
  | .array items => .choices items
  | .object entries => .operators entries
  | v => .scalar v

/-- Arrays and objects have no literal of their own. -/
def isCompound : Value → Bool
  | .array _ | .object _ => true
  | _ => false

end Value

end SoqlSelect
