import SoqlSelect.Filter
import SoqlSelect.Proofs.Failure
import SoqlSelect.Proofs.Members

/-!
# The parts of a filter

What stands in the entries of a filter, read off them directly: the expressions under a connective, and
the field entries of the filter itself. The main statement says that the parts which are collected
entry by entry are these.
-/

namespace SoqlSelect

namespace Connective

theorem ofSymbol?_eq_some {s : String} {c : Connective} : ofSymbol? s = some c ↔ c.symbol = s := by
  constructor
  · exact symbol_of_ofSymbol?
  · rintro rfl
    exact ofSymbol?_symbol c

@[simp] theorem symbol_inj {c d : Connective} : c.symbol = d.symbol ↔ c = d := by
  constructor
  · intro h
    have hc := ofSymbol?_eq_some.mpr h
    rw [ofSymbol?_symbol] at hc
    exact (Option.some.inj hc).symm
  · rintro rfl
    rfl

theorem symbol_ne {key : String} (h : ofSymbol? key = none) (c : Connective) : c.symbol ≠ key := by
  rintro rfl
  rw [ofSymbol?_symbol] at h
  cases h

end Connective

namespace Value

def entries? : Value → Option Entries
  | .object entries => some entries
  | _ => none

def objects : Value → List Entries
  | .array items => items.filterMap entries?
  | _ => []

end Value

namespace Filter

/-- The expressions under a connective, if it is given. The first entry under its symbol counts. -/
def expressionsOf (entries : Entries) (connective : Connective) : Option (List Entries) :=
  (Members.get? connective.symbol entries).map Value.objects

/-- The entries that are under no connective. -/
def fieldsOf (entries : Entries) : Entries :=
  entries.filter fun entry => (Connective.ofSymbol? entry.1).isNone

theorem expressionsOf_cons (key : String) (value : Value) (entries : Entries) (c : Connective) :
    expressionsOf ((key, value) :: entries) c =
      if key = c.symbol then some value.objects else expressionsOf entries c := by
  rw [expressionsOf, Members.get?_cons]
  split <;> rfl

theorem expressions_eq_ok {connective : Connective} {value : Value} {es : List Entries}
    (h : expressions connective value = .ok es) : value.objects = es ∧ es ≠ [] := by
  unfold expressions at h
  split at h
  · cases h
  · rename_i items hne
    have hview : es.map some = items.map Value.entries? := by
      refine map_of_mapM h ?_
      intro item _ entries hi
      cases item <;> cases hi
      rfl
    have hfilter : (es.map some).filterMap id = es := by simp
    refine ⟨?_, ?_⟩
    · rw [← hfilter, hview, List.filterMap_map]
      rfl
    · rintro rfl
      exact hne (List.map_eq_nil_iff.mp hview.symm)
  · cases h

/-! ### Taking entries -/

namespace Parts

def given (parts : Parts) : Connective → Option (List Entries)
  | .and => parts.all
  | .or => parts.any

def take (parts : Parts) (connective : Connective) (es : List Entries) : Parts :=
  match connective with
  | .and => { parts with all := some es }
  | .or => { parts with any := some es }

@[simp] theorem given_take (parts : Parts) (c d : Connective) (es : List Entries) :
    (parts.take c es).given d = if c = d then some es else parts.given d := by
  cases c <;> cases d <;> rfl

@[simp] theorem fields_take (parts : Parts) (c : Connective) (es : List Entries) :
    (parts.take c es).fields = parts.fields := by
  cases c <;> rfl

@[simp] theorem given_fields (parts : Parts) (fields : Entries) (c : Connective) :
    ({ parts with fields } : Parts).given c = parts.given c := by
  cases c <;> rfl

theorem add_connective (parts : Parts) (c : Connective) (value : Value) :
    parts.add (c.symbol, value) = (once c (parts.given c) value).map (parts.take c) := by
  cases c <;> rfl

theorem add_field (parts : Parts) {key : String} (value : Value)
    (h : Connective.ofSymbol? key = none) :
    parts.add (key, value) = .ok { parts with fields := parts.fields ++ [(key, value)] } := by
  simp only [add, h]

/- What one more entry does: it gives a connective that was not given, or it is a field entry. -/
theorem add_eq_ok {parts after : Parts} {key : String} {value : Value}
    (h : parts.add (key, value) = .ok after) :
    (∃ c, c.symbol = key ∧ parts.given c = none ∧ value.objects ≠ [] ∧
        after = parts.take c value.objects) ∨
      (Connective.ofSymbol? key = none ∧
        after = { parts with fields := parts.fields ++ [(key, value)] }) := by
  cases hk : Connective.ofSymbol? key with
  | none =>
    rw [add_field parts value hk] at h
    exact .inr ⟨rfl, (Except.ok.inj h).symm⟩
  | some c =>
    obtain rfl := Connective.ofSymbol?_eq_some.mp hk
    rw [add_connective] at h
    obtain ⟨es, hes, rfl⟩ := map_eq_ok.mp h
    unfold once at hes
    split at hes
    · cases hes
    · rename_i hnone
      obtain ⟨rfl, hne⟩ := expressions_eq_ok hes
      exact .inl ⟨c, rfl, hnone, hne, rfl⟩

theorem given_of_foldlM {entries : Entries} {parts after : Parts}
    (h : entries.foldlM add parts = .ok after) (c : Connective) :
    after.given c = (parts.given c).or (expressionsOf entries c) := by
  induction entries generalizing parts with
  | nil =>
    cases h
    exact Option.or_none.symm
  | cons entry entries ih =>
    obtain ⟨key, value⟩ := entry
    rw [List.foldlM_cons] at h
    obtain ⟨middle, hadd, h⟩ := bind_eq_ok.mp h
    rw [ih h, expressionsOf_cons]
    rcases add_eq_ok hadd with ⟨d, rfl, hnone, _, rfl⟩ | ⟨hk, rfl⟩
    · by_cases hd : d = c
      · subst hd
        rw [given_take, if_pos rfl, if_pos rfl, hnone]
        rfl
      · rw [given_take, if_neg hd, if_neg fun hs => hd (Connective.symbol_inj.mp hs)]
    · rw [if_neg (Connective.symbol_ne hk c).symm, given_fields]

theorem fields_of_foldlM {entries : Entries} {parts after : Parts}
    (h : entries.foldlM add parts = .ok after) :
    after.fields = parts.fields ++ fieldsOf entries := by
  induction entries generalizing parts with
  | nil =>
    cases h
    exact (List.append_nil _).symm
  | cons entry entries ih =>
    obtain ⟨key, value⟩ := entry
    rw [List.foldlM_cons] at h
    obtain ⟨middle, hadd, h⟩ := bind_eq_ok.mp h
    rw [ih h]
    rcases add_eq_ok hadd with ⟨d, rfl, _, _, rfl⟩ | ⟨hk, rfl⟩
    · simp [fieldsOf]
    · simp [fieldsOf, hk]

/- A connective that is given has at least one expression. -/
theorem nonempty_of_foldlM {entries : Entries} {parts after : Parts}
    (h : entries.foldlM add parts = .ok after)
    (hparts : ∀ c, ∀ es ∈ parts.given c, es ≠ []) : ∀ c, ∀ es ∈ after.given c, es ≠ [] := by
  induction entries generalizing parts with
  | nil =>
    cases h
    exact hparts
  | cons entry entries ih =>
    obtain ⟨key, value⟩ := entry
    rw [List.foldlM_cons] at h
    obtain ⟨middle, hadd, h⟩ := bind_eq_ok.mp h
    refine ih h fun c es hes => ?_
    rcases add_eq_ok hadd with ⟨d, rfl, _, hne, rfl⟩ | ⟨_, rfl⟩
    · rw [given_take] at hes
      split at hes
      · rw [← Option.some.inj hes]
        exact hne
      · exact hparts c es hes
    · rw [given_fields] at hes
      exact hparts c es hes

end Parts

/-- The parts of a filter are what stands in its entries. -/
theorem parts_eq_ok {f : Filter} {parts : Parts} (h : f.parts = .ok parts) :
    parts = { all := expressionsOf f.entries .and, any := expressionsOf f.entries .or,
              fields := fieldsOf f.entries } := by
  have hall : parts.all = expressionsOf f.entries .and := Parts.given_of_foldlM h .and
  have hany : parts.any = expressionsOf f.entries .or := Parts.given_of_foldlM h .or
  have hfields : parts.fields = fieldsOf f.entries := Parts.fields_of_foldlM h
  rw [← hall, ← hany, ← hfields]

theorem expressionsOf_ne_nil {f : Filter} {parts : Parts} (h : f.parts = .ok parts)
    {c : Connective} {es : List Entries} (hes : expressionsOf f.entries c = some es) : es ≠ [] := by
  have hgiven : parts.given c = some es := by
    rw [Parts.given_of_foldlM h c, hes]
    cases c <;> rfl
  refine Parts.nonempty_of_foldlM h ?_ c es hgiven
  intro d ds hd
  cases d <;> cases hd

end Filter

end SoqlSelect
