import SoqlSelect.Proofs.RowLimit

/-!
# Filling in defaults

Settings without a flaw fill the gaps of a statement: a limit where no window is in force, and a field to
sort by where none is named. A paging without such gaps stays as it is. The main statement says that
nothing but gaps is filled, and that a statement has none left once they are.
-/

namespace SoqlSelect

/-! ### Gaps -/

/- The settings have nothing to fill in. -/
structure Paging.Settled (d : Settings) (p : Paging) : Prop where
  window : d.defaultLimit = none ∨ p.window.active = true
  sort : d.defaultSort = none ∨ p.sortField ≠ none

theorem Settings.sort_ne_empty {d : Settings} (h : d.flaw? = none) {field : String}
    (hfield : d.defaultSort = some field) : field ≠ "" := by
  rintro rfl
  have hblank : d.defaultSort.any Text.isAllBlank = true := by
    rw [hfield]
    rfl
  unfold flaw? at h
  rw [if_pos hblank] at h
  split at h
  · cases h
  split at h
  · cases h
  split at h <;> cases h

namespace Paging

theorem elim_withDefaultLimit {p : Paging} {limit : Option UInt64}
    (h : limit = none ∨ p.window.active = true) : limit.elim p p.withDefaultLimit = p := by
  cases limit with
  | none => rfl
  | some d =>
    have hactive : p.window.active = true := h.resolve_left (Option.some_ne_none d)
    exact if_pos hactive

theorem elim_withDefaultSort {p : Paging} {sort : Option String}
    (h : sort = none ∨ p.sortField ≠ none) : sort.elim p p.withDefaultSort = p := by
  cases sort with
  | none => rfl
  | some field =>
    have hsorted : p.sortField ≠ none := h.resolve_left (Option.some_ne_none field)
    exact if_pos (Option.isSome_iff_ne_none.mpr hsorted)

theorem active_withDefaultLimit (p : Paging) {d : UInt64} (hd : 0 < d) :
    (p.withDefaultLimit d).window.active = true := by
  rw [active_window, limit_withDefaultLimit]
  apply decide_eq_true
  split
  · assumption
  · exact hd

@[simp] theorem sort_withDefaultLimit (p : Paging) (d : UInt64) :
    (p.withDefaultLimit d).sort = p.sort := by
  rcases p.withDefaultLimit_cases d with ⟨_, heq⟩ | ⟨_, _, heq⟩ | ⟨_, _, heq⟩ <;> rw [heq]

theorem sorted_withDefaultSort (p : Paging) {field : String} (h : field ≠ "") :
    (p.withDefaultSort field).sortField ≠ none := by
  rw [sortField_withDefaultSort, ← Option.isSome_iff_ne_none]
  cases hp : p.sortField with
  | none => simp [h]
  | some own =>
    have hown : own ≠ "" := by simpa using (Option.filter_eq_some_iff.mp hp).2
    simp [hown]

end Paging

namespace Translator

variable {t : Translator}

theorem effectivePaging_of_settled {p : Paging} (h : p.Settled t.settings) :
    t.effectivePaging p = p := by
  unfold effectivePaging
  rw [Paging.elim_withDefaultLimit h.window, Paging.elim_withDefaultSort h.sort]

/- It is here that a default limit of zero or an empty field would leave a gap. -/
theorem settled_effectivePaging (h : t.settings.flaw? = none) (p : Paging) :
    (t.effectivePaging p).Settled t.settings := by
  constructor
  · rw [window_effectivePaging]
    cases hd : t.settings.defaultLimit with
    | none => exact .inl rfl
    | some d => exact .inr (p.active_withDefaultLimit (Settings.default_pos h hd))
  · unfold effectivePaging
    cases hf : t.settings.defaultSort with
    | none => exact .inl rfl
    | some field => exact .inr (Paging.sorted_withDefaultSort _ (Settings.sort_ne_empty h hf))

theorem window_effectivePaging_of_settled {p : Paging}
    (h : t.settings.defaultLimit = none ∨ p.window.active = true) :
    (t.effectivePaging p).window = p.window := by
  rw [window_effectivePaging, Paging.elim_withDefaultLimit h]

theorem sort_effectivePaging_of_settled {p : Paging}
    (h : t.settings.defaultSort = none ∨ p.sortField ≠ none) : (t.effectivePaging p).sort = p.sort := by
  have hlimit : (t.settings.defaultLimit.elim p p.withDefaultLimit).sort = p.sort := by
    cases t.settings.defaultLimit with
    | none => rfl
    | some d => exact p.sort_withDefaultLimit d
  -- The field to sort by is read off the sort, so that a new limit leaves no new gap.
  rw [Paging.sortField, ← hlimit] at h
  unfold effectivePaging
  rw [Paging.elim_withDefaultSort h, hlimit]

end Translator

/-! ### Statements -/

namespace Statement

theorem sort_getD (s : Statement) : (s.paging.getD {}).sort = s.paging.bind (·.sort) := by
  cases s.paging <;> rfl

/- A paging that asks for nothing is left out, and then it is taken to be there. -/
def withPaging (s : Statement) (p : Paging) : Statement :=
  { s with paging := if p = {} then none else some p }

@[simp] theorem getD_withPaging (s : Statement) (p : Paging) : (s.withPaging p).paging.getD {} = p := by
  unfold withPaging
  split
  · rename_i h
    exact h.symm
  · rfl

@[simp] theorem withPaging_withPaging (s : Statement) (p q : Paging) :
    (s.withPaging p).withPaging q = s.withPaging q := rfl

/-- The second statement is the first with its gaps filled by the settings: what is there stays, as does
everything for which there is no default. -/
structure FilledBy (d : Settings) (s s' : Statement) : Prop where
  object : s'.object = s.object
  operation : s'.operation = s.operation
  filter : s'.filter = s.filter
  fields : s'.fields = s.fields
  window : d.defaultLimit = none ∨ s.window.active = true → s'.window = s.window
  sort : d.defaultSort = none ∨ s.sort? ≠ none → s'.paging.bind (·.sort) = s.paging.bind (·.sort)
  limitFor : s'.window.limit = d.limitFor s
  sortFor : s'.sort? = d.sortFor s

end Statement

namespace Translator

variable {t : Translator} {s s' : Statement}

theorem withDefaults_eq_ok : t.withDefaults s = .ok s' ↔
    (∀ m ∈ t.settings.maxLimit, t.settings.limitFor s ≤ m) ∧
      s.withPaging (t.effectivePaging (s.paging.getD {})) = s' := by
  unfold withDefaults
  simp only [limit_effectivePaging]
  cases t.settings.maxLimit with
  | none => simp [Statement.withPaging]
  | some m =>
    by_cases h : m < t.settings.limitFor s
    · have hnot : ¬ t.settings.limitFor s ≤ m := UInt64.not_le.mpr h
      simp [h, hnot]
    · have hle : t.settings.limitFor s ≤ m := UInt64.not_lt.mp h
      simp [h, hle, Statement.withPaging]

theorem sortFor_filter (h : t.settings.flaw? = none) (s : Statement) :
    (t.settings.sortFor s).filter (· ≠ "") = t.settings.sortFor s := by
  unfold Settings.sortFor
  cases hs : s.sort? with
  | some own =>
    have hown := s.filter_sort?
    rw [hs] at hown
    exact hown
  | none =>
    cases hf : t.settings.defaultSort with
    | none => rfl
    | some field => simp [Settings.sort_ne_empty h hf]

theorem filledBy_withPaging (h : t.settings.flaw? = none) (s : Statement) :
    s.FilledBy t.settings (s.withPaging (t.effectivePaging (s.paging.getD {}))) := by
  have hwindow : (s.withPaging (t.effectivePaging (s.paging.getD {}))).window =
      (t.effectivePaging (s.paging.getD {})).window := by
    rw [← Statement.window_getD, Statement.getD_withPaging]
  have hsort : (s.withPaging (t.effectivePaging (s.paging.getD {}))).sort? =
      (t.effectivePaging (s.paging.getD {})).sortField := by
    rw [← Statement.sortField_getD, Statement.getD_withPaging]
  refine ⟨rfl, rfl, rfl, rfl, ?_, ?_, ?_, ?_⟩
  · intro hkept
    rw [← s.window_getD] at hkept ⊢
    rw [hwindow, window_effectivePaging_of_settled hkept]
  · intro hkept
    rw [← s.sortField_getD] at hkept
    rw [← Statement.sort_getD, ← Statement.sort_getD, Statement.getD_withPaging,
      sort_effectivePaging_of_settled hkept]
  · rw [hwindow, limit_effectivePaging]
  · rw [hsort, sortField_effectivePaging, sortFor_filter h]

/-- Under settings without a flaw a statement is completed exactly if it keeps to the maximum. Only its
gaps are filled, and a statement that has been completed is completed as it is. -/
theorem withDefaults_fills_gaps (t : Translator) (h : t.settings.flaw? = none) (s : Statement) :
    ((∃ s', t.withDefaults s = .ok s') ↔
      ∀ m ∈ t.settings.maxLimit, t.settings.limitFor s ≤ m) ∧
    ∀ s', t.withDefaults s = .ok s' → s.FilledBy t.settings s' ∧ t.withDefaults s' = .ok s' := by
  refine ⟨?_, ?_⟩
  · simp [withDefaults_eq_ok]
  · intro s' hs'
    obtain ⟨hmax, rfl⟩ := withDefaults_eq_ok.mp hs'
    have hsettled : t.effectivePaging
        ((s.withPaging (t.effectivePaging (s.paging.getD {}))).paging.getD {}) =
        t.effectivePaging (s.paging.getD {}) := by
      rw [Statement.getD_withPaging]
      exact effectivePaging_of_settled (settled_effectivePaging h _)
    refine ⟨filledBy_withPaging h s, withDefaults_eq_ok.mpr ⟨?_, ?_⟩⟩
    · -- The limit of the second round is the one of a settled paging, so that of the first round.
      intro m hm
      rw [← limit_effectivePaging, hsettled, limit_effectivePaging]
      exact hmax m hm
    · rw [hsettled, Statement.withPaging_withPaging]

theorem withDefaults_fills_gaps_page_without_size :
    let t : Translator :=
      { settings := { defaultLimit := some 20, maxLimit := some 50, defaultSort := some "Name" } }
    let p : Paging := { skip := some 7, page := some 3, sort := some "" }
    let s : Statement := { object := "Lead", fields := ["Id"], paging := some p }
    let s' : Statement :=
      { s with paging := some { p with pageSize := some 20, sort := some "Name" } }
    t.settings.flaw? = none ∧ t.withDefaults s = .ok s' ∧ s.FilledBy t.settings s' ∧
      t.withDefaults s' = .ok s' := by
  intro t p s s'
  have hflaw : t.settings.flaw? = none := by decide
  have hs' : t.withDefaults s = .ok s' := by
    unfold t s' s p
    rfl
  exact ⟨hflaw, hs', (withDefaults_fills_gaps t hflaw s).2 s' hs'⟩

end Translator

end SoqlSelect
