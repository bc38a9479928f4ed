import SoqlSelect.Proofs.FilterReading

/-!
# Symbols in filters

A key that begins with a dollar sign is a symbol. A symbol is resolved if it is in the table of its
place: a connective among the entries of a filter, a comparator in an operator object, and no symbol at
all in the place of a field. The main statement says which symbols a clause leaves unresolved: those in
the place of a field, and it writes them as fields.
-/

namespace SoqlSelect

/-- A key that begins with a dollar sign, as the symbols of both tables do. -/
def isSymbol (key : String) : Bool := key.toList.head? == some '$'

/-! ### Texts in texts -/

theorem infix_intercalate {separator text : List Char} {texts : List (List Char)}
    (h : text ∈ texts) : text <:+: separator.intercalate texts := by
  induction texts with
  | nil => cases h
  | cons first others ih =>
    cases others with
    | nil =>
      rw [List.mem_singleton.mp h]
      simp
    | cons next others =>
      rw [List.intercalate_cons_cons]
      rcases List.mem_cons.mp h with rfl | h
      · rw [List.append_assoc]
        exact (List.prefix_append _ _).isInfix
      · exact (ih h).trans (List.suffix_append _ _).isInfix

namespace Condition

theorem infix_text_group {part : Condition} {parts : List Condition} (h : part ∈ parts)
    (connective : Connective) :
    part.text.toList <:+: (Condition.group connective parts).text.toList := by
  have hmem : part.text.toList ∈ parts.map fun p => p.text.toList := List.mem_map.mpr ⟨part, h, rfl⟩
  rw [toList_text_group]
  exact (infix_intercalate hmem).trans (List.infix_append' _ _ _)

end Condition

namespace Filter

/-! ### Positions -/

/-- The entries of the expressions under the connectives. -/
def nestedEntries (f : Filter) : Entries :=
  Connective.all.flatMap fun c => ((expressionsOf f.entries c).getD []).flatten

theorem mem_nestedEntries {f : Filter} {entry : String × Value} (h : entry ∈ f.nestedEntries) :
    ∃ c es, expressionsOf f.entries c = some es ∧ ∃ entries ∈ es, entry ∈ entries := by
  obtain ⟨c, _, h⟩ := List.mem_flatMap.mp h
  obtain ⟨entries, hentries, he⟩ := List.mem_flatten.mp h
  cases hes : expressionsOf f.entries c with
  | none =>
    rw [hes] at hentries
    cases hentries
  | some es =>
    rw [hes] at hentries
    exact ⟨c, es, hes, entries, hentries, he⟩

/-- All entries in which a key stands for a field. -/
def fieldEntries (f : Filter) : Entries := f.nestedEntries ++ fieldsOf f.entries

def operatorSymbols (f : Filter) : List String :=
  f.fieldEntries.flatMap fun (_, value) => (value.entries?.getD []).map (·.1)

structure SymbolsResolved (f : Filter) : Prop where
  top : ∀ entry ∈ f.entries, isSymbol entry.1 = true → (Connective.ofSymbol? entry.1).isSome = true
  operators : ∀ symbol ∈ f.operatorSymbols,
    isSymbol symbol = true → (Comparator.ofSymbol? symbol).isSome = true
  nested : ∀ entry ∈ f.nestedEntries, isSymbol entry.1 = false

/-! ### What is written -/

/- The entry has comparisons, and all of them are written in the text. -/
def Written (text : String) (entry : String × Value) : Prop :=
  ∃ cs, comparisons entry.1 entry.2 = .ok cs ∧ ∀ c ∈ cs, c.text.toList <:+: text.toList

theorem Written.mono {text text' : String} {entry : String × Value} (h : Written text entry)
    (ht : text.toList <:+: text'.toList) : Written text' entry := by
  obtain ⟨cs, hcs, hw⟩ := h
  exact ⟨cs, hcs, fun c hc => (hw c hc).trans ht⟩

theorem written_of_expression {entries : Entries} {c : Condition} (h : expression entries = .ok c)
    {entry : String × Value} (he : entry ∈ entries) : Written c.text entry := by
  unfold expression at h
  split at h
  · cases h
  · obtain ⟨groups, hg, h⟩ := bind_eq_ok.mp h
    obtain rfl := Except.ok.inj h
    obtain ⟨cs, hcs, hentry⟩ := exists_of_mapM hg he
    refine ⟨cs, hentry, fun c hc => ?_⟩
    have hmem : Condition.comparison c ∈ groups.flatten.map Condition.comparison :=
      List.mem_map.mpr ⟨c, List.mem_flatten.mpr ⟨cs, hcs, hc⟩, rfl⟩
    exact Condition.infix_text_group hmem .and

theorem written_of_group {connective : Connective} {es : List Entries} {cs : List Condition}
    (h : Parts.group connective (some es) = .ok cs) {entries : Entries} (hentries : entries ∈ es)
    {entry : String × Value} (he : entry ∈ entries) : ∃ c ∈ cs, Written c.text entry := by
  obtain ⟨conditions, hm, h⟩ := bind_eq_ok.mp h
  obtain rfl := Except.ok.inj h
  obtain ⟨c, hc, hexpression⟩ := exists_of_mapM hm hentries
  refine ⟨_, List.mem_singleton.mpr rfl, ?_⟩
  exact (written_of_expression hexpression he).mono (Condition.infix_text_group hc connective)

theorem written_of_fieldGroup {fields : Entries} {cs : List Condition}
    (h : Parts.fieldGroup fields = .ok cs) {entry : String × Value} (he : entry ∈ fields) :
    ∃ c ∈ cs, Written c.text entry := by
  unfold Parts.fieldGroup at h
  split at h
  · rename_i hempty
    rw [List.isEmpty_iff.mp hempty] at he
    cases he
  · obtain ⟨c, hc, rfl⟩ := map_eq_ok.mp h
    exact ⟨c, List.mem_singleton.mpr rfl, written_of_expression hc he⟩

theorem written_of_conditions {f : Filter} {parts : Parts} {cs : List Condition}
    (hparts : f.parts = .ok parts) (h : parts.conditions = .ok cs) {entry : String × Value}
    (he : entry ∈ f.fieldEntries) : ∃ c ∈ cs, Written c.text entry := by
  rw [parts_eq_ok hparts] at h
  obtain ⟨all, hall, h⟩ := bind_eq_ok.mp h
  obtain ⟨any, hany, h⟩ := bind_eq_ok.mp h
  obtain ⟨own, hown, h⟩ := bind_eq_ok.mp h
  obtain rfl := Except.ok.inj h
  rcases List.mem_append.mp he with he | he
  · obtain ⟨connective, es, hes, entries, hentries, he⟩ := mem_nestedEntries he
    cases connective with
    | and =>
      rw [hes] at hall
      obtain ⟨c, hc, hw⟩ := written_of_group hall hentries he
      exact ⟨c, by simp [hc], hw⟩
    | or =>
      rw [hes] at hany
      obtain ⟨c, hc, hw⟩ := written_of_group hany hentries he
      exact ⟨c, by simp [hc], hw⟩
  · obtain ⟨c, hc, hw⟩ := written_of_fieldGroup hown he
    exact ⟨c, by simp [hc], hw⟩

theorem written_of_clause {f : Filter} {w : String} (h : f.clause = .ok w) {entry : String × Value}
    (he : entry ∈ f.fieldEntries) : Written w entry := by
  obtain ⟨condition, hc, rfl⟩ := map_eq_ok.mp h
  obtain ⟨parts, hparts, hc⟩ := bind_eq_ok.mp hc
  obtain ⟨cs, hcs, hc⟩ := bind_eq_ok.mp hc
  obtain rfl := Except.ok.inj hc
  obtain ⟨c, hc, hwritten⟩ := written_of_conditions hparts hcs he
  have hne : cs.isEmpty = false := List.isEmpty_eq_false_iff.mpr (List.ne_nil_of_mem hc)
  refine hwritten.mono ?_
  simp only [hne, Bool.false_eq_true, if_false, String.toList_append]
  exact (Condition.infix_text_group hc .and).trans (List.suffix_append _ _).isInfix

/-! ### Symbols -/

theorem isSome_of_comparisons {field : String} {entries : Entries} {cs : List Comparison}
    (h : comparisons field (.object entries) = .ok cs) {symbol : String}
    (hs : symbol ∈ entries.map (·.1)) : (Comparator.ofSymbol? symbol).isSome = true := by
  unfold comparisons at h
  split at h
  · cases h
  · cases entries with
    | nil => cases hs
    | cons first others =>
      obtain ⟨entry, hentry, rfl⟩ := List.mem_map.mp hs
      obtain ⟨c, _, hc⟩ := exists_of_mapM h hentry
      obtain ⟨operator, ho, _⟩ := bind_eq_ok.mp hc
      rw [Comparator.ofSymbol_eq_ok ho]
      rfl

theorem field_of_mem_atoms {field : String} {value : Value} {a : Atom} (h : a ∈ atoms field value) :
    a.field = field := by
  cases value with
  | object entries =>
    obtain ⟨entry, _, rfl⟩ := List.mem_map.mp h
    rfl
  | _ =>
    rw [List.mem_singleton.mp h]

theorem Written.exists_comparison {text : String} {entry : String × Value} (h : Written text entry) :
    ∃ c : Comparison, c.field = entry.1 ∧ c.text.toList <:+: text.toList := by
  obtain ⟨cs, hcs, hw⟩ := h
  have hlist := comparisons_eq_ok hcs
  obtain ⟨c, others, rfl⟩ := List.exists_cons_of_ne_nil hlist.nonempty
  have hatom : c.atom ∈ atoms entry.1 entry.2 := by
    rw [← hlist.atoms]
    exact List.mem_cons_self
  exact ⟨c, field_of_mem_atoms hatom, hw c List.mem_cons_self⟩

theorem isSome_of_operatorSymbols {f : Filter} {w : String} (h : f.clause = .ok w) {symbol : String}
    (hs : symbol ∈ f.operatorSymbols) : (Comparator.ofSymbol? symbol).isSome = true := by
  obtain ⟨⟨field, value⟩, he, hs⟩ := List.mem_flatMap.mp hs
  obtain ⟨cs, hcs, _⟩ := written_of_clause h he
  cases value with
  | object entries => exact isSome_of_comparisons hcs hs
  | _ => cases hs

/-- In a filter that has a clause, all keys of operator objects are symbols of comparators, no expression
has a connective as a key, and every key in the place of a field is written as the field of a
comparison, whether or not it is a symbol. So all symbols are resolved exactly if no such key is one. -/
theorem clause_writes_keys (f : Filter) (w : String) (h : f.clause = .ok w) :
    (∀ symbol ∈ f.operatorSymbols, (Comparator.ofSymbol? symbol).isSome = true) ∧
      (∀ entry ∈ f.fieldEntries, Connective.ofSymbol? entry.1 = none ∧
        ∃ c : Comparison, c.field = entry.1 ∧ c.text.toList <:+: w.toList) ∧
      (f.SymbolsResolved ↔ ∀ entry ∈ f.fieldEntries, isSymbol entry.1 = false) := by
  have hfield : ∀ entry ∈ f.fieldEntries, Connective.ofSymbol? entry.1 = none := by
    intro entry he
    obtain ⟨cs, hcs, _⟩ := written_of_clause h he
    exact (comparisons_eq_ok hcs).notConnective
  refine ⟨fun symbol => isSome_of_operatorSymbols h,
    fun entry he => ⟨hfield entry he, (written_of_clause h he).exists_comparison⟩, ?_, ?_⟩
  · intro hr entry he
    rcases List.mem_append.mp he with hn | ho
    · exact hr.nested entry hn
    · cases hs : isSymbol entry.1 with
      | false => rfl
      | true =>
        have hsome := hr.top entry (List.mem_filter.mp ho).1 hs
        rw [hfield entry he] at hsome
        cases hsome
  · intro hnot
    refine ⟨fun entry he hs => ?_, fun symbol hsym _ => isSome_of_operatorSymbols h hsym,
      fun entry he => hnot entry (List.mem_append_left _ he)⟩
    cases hc : Connective.ofSymbol? entry.1 with
    | some c => rfl
    | none =>
      have hown : entry ∈ fieldsOf f.entries := List.mem_filter.mpr ⟨he, by rw [hc]; rfl⟩
      rw [hnot entry (List.mem_append_right _ hown)] at hs
      cases hs

theorem clause_writes_keys_symbols_resolved :
    let f : Filter := { entries :=
      [("$or", .array [.object [("Age", .object [("$gte", .null), ("$ne", .string "$nor")])],
          .object [("Name", .array [.null])]]),
        ("Open", .bool true)] }
    (∃ w, f.clause = .ok w) ∧ f.SymbolsResolved := by
  intro f
  obtain ⟨w, hw⟩ : ∃ w, f.clause = .ok w := by
    unfold f
    exact ⟨_, rfl⟩
  refine ⟨⟨w, hw⟩, (clause_writes_keys f w hw).2.2.mpr ?_⟩
  unfold f
  decide

/-- A symbol that is in no table passes for a field, among the entries of a filter and in an
expression. -/
theorem unresolved_symbol_written :
    let f : Filter := { entries := [("$nor", .array [.number (.ofUInt64 1)])] }
    let g : Filter := { entries := [("$and", .array [.object [("$gt", .bool true)]])] }
    (f.clause = .ok "WHERE (($nor IN (1)))" ∧ ¬ f.SymbolsResolved) ∧
      g.clause = .ok "WHERE ((($gt = true)))" ∧ ¬ g.SymbolsResolved := by
  intro f g
  refine ⟨⟨?_, fun hf => ?_⟩, ?_, fun hg => ?_⟩
  · unfold f
    rfl
  · exact absurd (hf.top _ List.mem_cons_self rfl) (by decide)
  · unfold g
    rfl
  · exact absurd (hg.nested ("$gt", .bool true) List.mem_cons_self) (by decide)

end Filter

end SoqlSelect
