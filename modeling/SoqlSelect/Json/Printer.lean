import SoqlSelect.Json.Basic

/-!
# Compact JSON text

No blanks, members in their order, and an escape only where a string needs one.
-/

namespace SoqlSelect.Json

/-- A character inside a string. -/
def escapeChar (c : Char) : List Char :=
  if c == '\"' then ['\\', '\"']
  else if c == '\\' then ['\\', '\\']
  else if c == '\n' then ['\\', 'n']
  else if c == '\r' then ['\\', 'r']
  else if c == '\t' then ['\\', 't']
  else if c.toNat == 0x08 then ['\\', 'b']
  else if c.toNat == 0x0C then ['\\', 'f']
  else if c.toNat < 0x20 then
    ['\\', 'u', '0', '0', Nat.digitChar (c.toNat / 16), Nat.digitChar (c.toNat % 16)]
  else [c]

/-- A string between its quotes. -/
def quoted (s : String) : String :=
  "\"" ++ String.ofList (s.toList.flatMap escapeChar) ++ "\""

mutual

/-- The compact text of the data. -/
def text : Json → String
  | .null => "null"
  | .bool b => if b then "true" else "false"
  | .number n => n.text
  | .string s => quoted s
  | .array items => "[" ++ String.intercalate "," (itemTexts items) ++ "]"
  | .object members => "\x7b" ++ String.intercalate "," (memberTexts members) ++ "\x7d"

def itemTexts : List Json → List String
  | [] => []
  | item :: rest => text item :: itemTexts rest

def memberTexts : List (String × Json) → List String
  | [] => []
  | (name, value) :: rest => (quoted name ++ ":" ++ text value) :: memberTexts rest

end

@[simp] theorem itemTexts_eq_map (items : List Json) : itemTexts items = items.map text := by
  induction items with
  | nil => rfl
  | cons item rest ih => simp [itemTexts, ih]

@[simp] theorem memberTexts_eq_map (members : List (String × Json)) :
    memberTexts members = members.map fun m => quoted m.1 ++ ":" ++ text m.2 := by
  induction members with
  | nil => rfl
  | cons member rest ih => simp [memberTexts, ih]

end SoqlSelect.Json
