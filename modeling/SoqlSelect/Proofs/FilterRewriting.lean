import SoqlSelect.Proofs.FilterParts

/-!
# Rewriting filters

A rewriting puts entries in the place of the entries of a filter. It goes over the parts of a filter if
each entry, rewritten, adds the rewriting of what the entry adds. The main statement says that such a
rewriting keeps the clause of a filter, with its error, if it keeps the conditions of its parts.
-/

namespace SoqlSelect

namespace Filter

namespace Parts

/-- The parts with every list of field entries rewritten. -/
def rewrite (g : Entries → Entries) (parts : Parts) : Parts where
  all := parts.all.map (List.map g)
  any := parts.any.map (List.map g)
  fields := g parts.fields

variable {g : Entries → Entries}

@[simp] theorem given_rewrite (parts : Parts) (c : Connective) :
    (parts.rewrite g).given c = (parts.given c).map (List.map g) := by
  cases c <;> rfl

@[simp] theorem rewrite_take (parts : Parts) (c : Connective) (es : List Entries) :
    (parts.take c es).rewrite g = (parts.rewrite g).take c (es.map g) := by
  cases c <;> rfl

/-! ### Entries -/

theorem foldlM_add_fields {entries : Entries} (h : ∀ e ∈ entries, Connective.ofSymbol? e.1 = none)
    (parts : Parts) :
    entries.foldlM add parts = .ok { parts with fields := parts.fields ++ entries } := by
  induction entries generalizing parts with
  | nil => simp [pure, Except.pure]
  | cons entry entries ih =>
    have hentry : Connective.ofSymbol? entry.1 = none := h entry List.mem_cons_self
    have hrest : ∀ e ∈ entries, Connective.ofSymbol? e.1 = none :=
      fun e he => h e (List.mem_cons_of_mem _ he)
    rw [List.foldlM_cons, add_field parts entry.2 hentry]
    refine (ih hrest { parts with fields := parts.fields ++ [entry] }).trans ?_
    rw [List.append_assoc, List.singleton_append]

/- A field entry is rewritten to field entries behind those that are there. -/
theorem add_rewrite_field {key : String} {value : Value} {entries : Entries}
    (hkey : Connective.ofSymbol? key = none) (h : ∀ e ∈ entries, Connective.ofSymbol? e.1 = none)
    (hg : ∀ fields, g (fields ++ [(key, value)]) = g fields ++ entries) (parts : Parts) :
    entries.foldlM add (parts.rewrite g) = (parts.add (key, value)).map (rewrite g) := by
  rw [foldlM_add_fields h, add_field parts value hkey]
  simp [rewrite, hg, Except.map]

/- A connective is rewritten to itself, with its expressions rewritten. -/
theorem add_rewrite_connective {c : Connective} {value value' : Value}
    (h : expressions c value' = (expressions c value).map (List.map g)) (parts : Parts) :
    [(c.symbol, value')].foldlM add (parts.rewrite g) =
      (parts.add (c.symbol, value)).map (rewrite g) := by
  have honce : once c ((parts.given c).map (List.map g)) value' =
      (once c (parts.given c) value).map (List.map g) := by
    cases parts.given c with
    | some es => rfl
    | none => exact h
  rw [List.foldlM_cons, add_connective, add_connective, given_rewrite, honce]
  cases once c (parts.given c) value with
  | error e => rfl
  | ok es => exact congrArg Except.ok (rewrite_take parts c es).symm

theorem foldlM_rewrite {top : String × Value → Entries} {entries : Entries}
    (hstep : ∀ entry ∈ entries, ∀ parts : Parts,
      (top entry).foldlM add (parts.rewrite g) = (parts.add entry).map (rewrite g)) (parts : Parts) :
    (entries.flatMap top).foldlM add (parts.rewrite g) =
      (entries.foldlM add parts).map (rewrite g) := by
  induction entries generalizing parts with
  | nil => rfl
  | cons entry entries ih =>
    have hrest : ∀ e ∈ entries, ∀ parts : Parts,
        (top e).foldlM add (parts.rewrite g) = (parts.add e).map (rewrite g) :=
      fun e he => hstep e (List.mem_cons_of_mem _ he)
    rw [List.flatMap_cons, List.foldlM_append, List.foldlM_cons, hstep entry List.mem_cons_self]
    cases parts.add entry with
    | error e => rfl
    | ok after => exact ih hrest after

/-! ### Conditions -/

theorem group_rewrite (c : Connective) {given : Option (List Entries)}
    (h : ∀ es ∈ given, ∀ entries ∈ es, expression (g entries) = expression entries) :
    group c (given.map (List.map g)) = group c given := by
  cases given with
  | none => rfl
  | some es =>
    have hes : (es.map g).mapM expression = es.mapM expression := mapM_map_congr (h es rfl)
    simp only [group, Option.map_some, hes]

theorem fieldGroup_rewrite {fields : Entries} (hempty : (g fields).isEmpty = fields.isEmpty)
    (h : expression (g fields) = expression fields) : fieldGroup (g fields) = fieldGroup fields := by
  rw [fieldGroup, fieldGroup, hempty, h]

theorem conditions_rewrite {parts : Parts}
    (hgiven : ∀ c, ∀ es ∈ parts.given c, ∀ entries ∈ es, expression (g entries) = expression entries)
    (hempty : (g parts.fields).isEmpty = parts.fields.isEmpty)
    (hfields : expression (g parts.fields) = expression parts.fields) :
    (parts.rewrite g).conditions = parts.conditions := by
  have hall : group .and (parts.all.map (List.map g)) = group .and parts.all :=
    group_rewrite .and (hgiven .and)
  have hany : group .or (parts.any.map (List.map g)) = group .or parts.any :=
    group_rewrite .or (hgiven .or)
  unfold conditions
  simp only [rewrite, hall, hany, fieldGroup_rewrite hempty hfields]

end Parts

/-- What a filter is rewritten to has the same clause, or fails with the same error. -/
theorem clause_rewrite {f : Filter} {g : Entries → Entries} {top : String × Value → Entries}
    (hnil : g [] = [])
    (hstep : ∀ entry ∈ f.entries, ∀ parts : Parts,
      (top entry).foldlM Parts.add (parts.rewrite g) = (parts.add entry).map (Parts.rewrite g))
    (hconditions : ∀ parts, f.parts = .ok parts → (parts.rewrite g).conditions = parts.conditions) :
    ({ entries := f.entries.flatMap top } : Filter).clause = f.clause := by
  have hempty : Parts.rewrite g {} = {} := by simp [Parts.rewrite, hnil]
  have hparts : ({ entries := f.entries.flatMap top } : Filter).parts =
      f.parts.map (Parts.rewrite g) := by
    have hrun := Parts.foldlM_rewrite hstep {}
    rw [hempty] at hrun
    exact hrun
  unfold clause condition
  rw [hparts]
  cases hf : f.parts with
  | error e => rfl
  | ok parts =>
    have hsame := hconditions parts hf
    simp only [Except.map, bind, Except.bind, hsame]

end Filter

end SoqlSelect
