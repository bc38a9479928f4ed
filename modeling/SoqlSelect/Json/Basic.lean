import SoqlSelect.Number.Basic

/-!
# JSON data

The members of an object keep their order. A collection of members in which a name is given again keeps
the first position of the name and its last value.
-/

namespace SoqlSelect

inductive Json
  | null
  | bool (b : Bool)
  | number (n : Number)
  | string (s : String)
  | array (items : List Json)
  | object (members : List (String × Json))

/-! ### Members -/

namespace Members

variable {α : Type}

/-- Gives the name the value, where the name stands already or else at the end. -/
def put (name : String) (value : α) : List (String × α) → List (String × α)
  | [] => [(name, value)]
  | (n, v) :: rest => if n = name then (n, value) :: rest else (n, v) :: put name value rest

/-- Puts the members one after the other. -/
def merge (members : List (String × α)) : List (String × α) :=
  members.foldl (fun merged (name, value) => put name value merged) []

/-- The value of the first member of that name. -/
def get? (name : String) (members : List (String × α)) : Option α :=
  (members.find? fun (n, _) => n == name).map (·.2)

/-- The names after `put` are the names before, and the new one at the end if it is new. -/
theorem map_fst_put (name : String) (value : α) (members : List (String × α)) :
    (put name value members).map (·.1) =
      if name ∈ members.map (·.1) then members.map (·.1) else members.map (·.1) ++ [name] := by
  induction members with
  | nil => simp [put]
  | cons member rest ih =>
    obtain ⟨n, v⟩ := member
    by_cases h : n = name
    · simp [put, h]
    · have h' : ¬ name = n := fun e => h e.symm
      simp only [put, h, h', if_false, List.map_cons, List.mem_cons, false_or, ih]
      split <;> simp

end Members

end SoqlSelect
