import SoqlSelect.Proofs.ExplicitForm
import SoqlSelect.Proofs.InstantText
import SoqlSelect.Proofs.JsonNormalForm

/-!
# Filters sent as JSON

A value that is sent as JSON comes back with strings in the place of instants. A string in the place of
an instant has the same literal as long as it is taken for a date and does not stand in a list. The main
statement says that a filter which is sent so has the clause it had before, with the same error if it
has none.
-/

namespace SoqlSelect

namespace Value

def isDate : Value → Bool
  | .date _ => true
  | _ => false

/-- What a value must be for its passage: an instant with a text that is taken for a date, an array
without instants among its items, or an object without repeated keys. -/
def passes : Value → Bool
  | .date t => t.HasPlainYear && !t.isLeapSecond
  | .array items => items.all fun item => !item.isDate
  | .object entries => (entries.map (·.1)).Nodup
  | _ => true

/-- The value and all values in it pass. -/
def Passes (v : Value) : Prop := v.everywhere passes = true

theorem Passes.items {items : List Value} (h : Passes (.array items)) :
    ∀ item ∈ items, Passes item ∧ item.isDate = false := by
  obtain ⟨hdates, hitems⟩ := Bool.and_eq_true_iff.mp h
  intro item hi
  have hdate := List.all_eq_true.mp hdates item hi
  exact ⟨itemsEverywhere_iff.mp hitems item hi, by simpa using hdate⟩

theorem Passes.keys {entries : Entries} (h : Passes (.object entries)) :
    (entries.map (·.1)).Nodup :=
  of_decide_eq_true (Bool.and_eq_true_iff.mp h).1

theorem Passes.entries {entries : Entries} (h : Passes (.object entries)) :
    ∀ entry ∈ entries, Passes entry.2 :=
  entriesEverywhere_iff.mp (Bool.and_eq_true_iff.mp h).2

/-! ### Literals and operands -/

theorem Passes.viaJson_object {entries : Entries} (h : Passes (.object entries)) :
    (Value.object entries).viaJson = .object (entries.map entryViaJson) := by
  rw [Value.viaJson_object, Members.merge_eq_self h.keys]

theorem literal?_viaJson {v : Value} (h : Passes v) : v.viaJson.literal? = v.literal? := by
  cases v with
  | date t =>
    have hpass : t.HasPlainYear ∧ t.isLeapSecond = false := by
      simpa [Passes, everywhere, passes] using h
    have hiso : isIsoDate t.text = true := t.isIsoDate_text.mpr hpass
    show some (if isIsoDate t.text = true then Literal.bare t.text else .quoted t.text) = _
    rw [if_pos hiso]
    rfl
  | _ => rfl

/- A list quotes every string but no instant, so it is here that an instant does not pass. -/
theorem listLiteral?_viaJson {v : Value} (h : v.isDate = false) :
    v.viaJson.listLiteral? = v.listLiteral? := by
  cases v with
  | date t => cases h
  | _ => rfl

end Value

open Value (Passes entryViaJson viaJson)

theorem element_viaJson (field : String) {item : Value} (h : item.isDate = false) :
    Operand.element field item.viaJson = Operand.element field item := by
  rw [Operand.element, Operand.element, Value.listLiteral?_viaJson h, Value.shown_viaJson]

theorem operand_viaJson (field : String) (operator : Comparator) {v : Value} (h : Passes v) :
    Operand.ofValue field operator v.viaJson = Operand.ofValue field operator v := by
  have hshown := v.shown_viaJson
  have hliteral := Value.literal?_viaJson h
  unfold Operand.ofValue
  by_cases hl : operator.takesList = true
  · simp only [if_pos hl, hshown]
    cases v with
    | array items =>
      rw [Value.viaJson_array]
      cases items with
      | nil => rfl
      | cons item items =>
        have hitems : ((item :: items).map viaJson).mapM (Operand.element field) =
            (item :: items).mapM (Operand.element field) :=
          mapM_map_congr fun i hi => element_viaJson field (h.items i hi).2
        exact congrArg (Except.map Operand.list) hitems
    | _ => rfl
  · simp only [if_neg hl, hshown, hliteral]

namespace Filter

/-! ### Expressions -/

theorem operatorComparison_viaJson (field : String) {operator : String × Value}
    (h : Passes operator.2) :
    operatorComparison field (entryViaJson operator) = operatorComparison field operator := by
  unfold operatorComparison Comparison.ofValue
  simp only [entryViaJson, operand_viaJson field _ h]

theorem entryComparisons_viaJson {entry : String × Value} (h : Passes entry.2) :
    entryComparisons (entryViaJson entry) = entryComparisons entry := by
  obtain ⟨field, value⟩ := entry
  show comparisons field value.viaJson = comparisons field value
  cases hfield : Connective.ofSymbol? field with
  | some c => rw [comparisons_connective hfield, comparisons_connective hfield]
  | none =>
    cases value with
    | object operators =>
      cases operators with
      | nil => rfl
      | cons first others =>
        rw [Passes.viaJson_object h, List.map_cons, comparisons_operators hfield,
          comparisons_operators hfield, ← List.map_cons]
        exact mapM_map_congr fun operator ho =>
          operatorComparison_viaJson field (Passes.entries h operator ho)
    | array items =>
      have hoperand := operand_viaJson field .isIn h
      rw [Value.viaJson_array] at hoperand ⊢
      simp only [comparisons, hfield, Value.form, Comparison.ofValue, hoperand]
    | date t =>
      have hoperand : Operand.ofValue field .equal (.string t.text) =
          Operand.ofValue field .equal (.date t) := operand_viaJson field .equal h
      show comparisons field (.string t.text) = _
      simp only [comparisons, hfield, Value.form, Comparison.ofValue, hoperand]
    | _ => rfl

def entriesViaJson (entries : Entries) : Entries := entries.map entryViaJson

theorem expression_viaJson {entries : Entries} (h : ∀ entry ∈ entries, Passes entry.2) :
    expression (entriesViaJson entries) = expression entries := by
  have hlisted : listed entryComparisons (entriesViaJson entries) = listed entryComparisons entries :=
    congrArg (Except.map List.flatten) (mapM_map_congr fun e he => entryComparisons_viaJson (h e he))
  rw [expression_eq_listed, expression_eq_listed, hlisted]
  simp [entriesViaJson]

theorem expressions_viaJson (connective : Connective) {value : Value} (h : Passes value) :
    expressions connective value.viaJson =
      (expressions connective value).map (List.map entriesViaJson) := by
  cases value with
  | array items =>
    rw [Value.viaJson_array]
    cases items with
    | nil => rfl
    | cons first others =>
      rw [List.map_cons, expressions_items, expressions_items, ← List.map_cons]
      refine mapM_map fun item hi => ?_
      have hitem := (h.items item hi).1
      have hshown := item.shown_viaJson
      cases item with
      | object entries =>
        rw [Passes.viaJson_object hitem]
        rfl
      | array items =>
        rw [Value.viaJson_array] at hshown ⊢
        simp only [itemExpression, hshown]
        rfl
      | date t => cases (h.items _ hi).2
      | _ => rfl
  | _ => rfl

/-! ### Parts -/

theorem add_viaJson {entry : String × Value} (h : Passes entry.2) (parts : Parts) :
    [entryViaJson entry].foldlM Parts.add (parts.rewrite entriesViaJson) =
      (parts.add entry).map (Parts.rewrite entriesViaJson) := by
  obtain ⟨key, value⟩ := entry
  cases hkey : Connective.ofSymbol? key with
  | some c =>
    obtain rfl := Connective.ofSymbol?_eq_some.mp hkey
    exact Parts.add_rewrite_connective (expressions_viaJson c h) parts
  | none =>
    have hfields : ∀ e ∈ [entryViaJson (key, value)], Connective.ofSymbol? e.1 = none := by
      intro e he
      rw [List.mem_singleton.mp he]
      exact hkey
    exact Parts.add_rewrite_field hkey hfields (fun _ => List.map_append) parts

/- The expressions are objects in the array of the connective. -/
theorem passes_of_expressionsOf {entries : Entries} (h : ∀ entry ∈ entries, Passes entry.2)
    {c : Connective} {es : List Entries} (hes : expressionsOf entries c = some es) :
    ∀ inner ∈ es, ∀ entry ∈ inner, Passes entry.2 := by
  obtain ⟨value, hget, rfl⟩ := Option.map_eq_some_iff.mp hes
  obtain ⟨found, hfound, rfl⟩ := Option.map_eq_some_iff.mp hget
  have hvalue : Passes found.2 := h found (List.mem_of_find?_eq_some hfound)
  intro inner hinner
  cases hform : found.2 with
  | array items =>
    rw [hform] at hvalue hinner
    obtain ⟨item, hitem, hentries⟩ := List.mem_filterMap.mp hinner
    have hobject : item = .object inner := by
      cases item <;> cases hentries
      rfl
    subst hobject
    exact (hvalue.items _ hitem).1.entries
  | _ =>
    rw [hform] at hinner
    cases hinner

theorem conditions_viaJson {f : Filter} {parts : Parts} (h : ∀ entry ∈ f.entries, Passes entry.2)
    (hparts : f.parts = .ok parts) :
    (parts.rewrite entriesViaJson).conditions = parts.conditions := by
  obtain rfl := parts_eq_ok hparts
  have hfields : ∀ entry ∈ fieldsOf f.entries, Passes entry.2 :=
    fun entry he => h entry ((List.mem_filter.mp he).1)
  refine Parts.conditions_rewrite ?_ (by simp [entriesViaJson]) (expression_viaJson hfields)
  intro c es hes inner hinner
  have hgiven : expressionsOf f.entries c = some es := by
    cases c <;> exact hes
  exact expression_viaJson (passes_of_expressionsOf h hgiven inner hinner)

/-- A filter that is sent as JSON is a filter again, and it has the same clause, or fails with the same
error. -/
theorem clause_of_passed_json (f : Filter) (h : Passes (.object f.entries)) :
    ∃ g, ofJson (Value.object f.entries).toJson = .ok g ∧ g.clause = f.clause := by
  refine ⟨{ entries := entriesViaJson f.entries }, ?_, ?_⟩
  · rw [Value.toJson_object h.keys, ofJson, Value.entriesOfJson_viaJson]
    rfl
  · have hclause := clause_rewrite rfl (fun entry he => add_viaJson (h.entries entry he))
      fun _ => conditions_viaJson h.entries
    have hentries : f.entries.flatMap (fun entry => [entryViaJson entry]) =
        entriesViaJson f.entries := List.map_eq_flatMap.symm
    rw [hentries] at hclause
    exact hclause

/- The instants come back as strings, in an operator and in a field entry. -/
theorem clause_of_passed_json_instants :
    let t : Instant := ⟨1704110400, 5000000, by decide, by decide⟩
    let f : Filter := { entries :=
      [("$or", .array [.object [("Due", .object [("$gt", .date t), ("$ne", .null)])],
          .object [("Name", .array [.string "a", .string "2024-01-01"])]]),
        ("Closed", .date t)] }
    Passes (.object f.entries) ∧
      f.clause.toOption = some (
        "WHERE (((Due > 2024-01-01T12:00:00.005Z AND Due != null) OR " ++
        "(Name IN ('a','2024-01-01'))) AND (Closed = 2024-01-01T12:00:00.005Z))") ∧
      ∃ g, ofJson (Value.object f.entries).toJson = .ok g ∧ g.clause = f.clause := by
  intro t f
  have hpasses : Passes (.object f.entries) := by
    unfold Passes
    decide +kernel
  refine ⟨hpasses, ?_, clause_of_passed_json f hpasses⟩
  unfold f
  decide +kernel

end Filter

end SoqlSelect
