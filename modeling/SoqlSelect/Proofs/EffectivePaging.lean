import SoqlSelect.Proofs.StatementReader
import SoqlSelect.Translator

/-!
# Statements under settings

What a statement asks for under settings, read off the statement and the settings without the steps
that fill in its paging: a limit, a number of rows to skip and a field to sort by. The main statement
says that a translator refuses a statement exactly if this limit is above the maximum, and otherwise
writes it as the statement that asks for these three. So a translator without settings adds nothing.
-/

namespace SoqlSelect

/-! ### What is asked for -/

/-- The page that the statement asks for, if its number is positive. -/
def Statement.page? (s : Statement) : Option UInt64 :=
  (s.paging.bind (·.page)).filter (0 < ·)

namespace Settings

/-- The limit of the statement, or else the default. -/
def limitFor (d : Settings) (s : Statement) : UInt64 :=
  if 0 < s.window.limit then s.window.limit else d.defaultLimit.getD 0

/-- The rows to skip. A statement that asks for a page without a size gets the default as the size. -/
def skipFor (d : Settings) (s : Statement) : UInt64 :=
  if 0 < s.window.limit then s.window.skip
  else
    match d.defaultLimit, s.page? with
    | some size, some page =>
      UInt64.ofNat (min ((page.toNat - 1) * size.toNat) 0xFFFFFFFFFFFFFFFF)
    | _, _ => s.window.skip

/-- The field of the statement, or else the default. -/
def sortFor (d : Settings) (s : Statement) : Option String :=
  s.sort?.or d.defaultSort

def pagingFor (d : Settings) (s : Statement) : Paging where
  skip := some (d.skipFor s)
  limit := some (d.limitFor s)
  sort := d.sortFor s

theorem window_pagingFor (d : Settings) (s : Statement) :
    (d.pagingFor s).window =
      { skip := d.skipFor s, limit := d.limitFor s, active := 0 < d.limitFor s } := rfl

end Settings

theorem eq_zero_of_not_pos {n : UInt64} (h : ¬ 0 < n) : n = 0 :=
  UInt64.le_zero_iff.mp (UInt64.not_lt.mp h)

theorem toNat_sub_one {n : UInt64} (h : 0 < n) : (n - 1).toNat = n.toNat - 1 :=
  UInt64.toNat_sub_of_le n 1 (UInt64.le_iff_toNat_le.mpr (UInt64.lt_iff_toNat_lt.mp h))

/-! ### Texts with the same paging -/

theorem Window.clause_congr {v w : Window} (hv : v.active = decide (0 < v.limit))
    (hw : w.active = decide (0 < w.limit)) (hlimit : v.limit = w.limit)
    (hskip : 0 < v.limit → v.skip = w.skip) : v.clause = w.clause := by
  have hactive : v.active = w.active := by rw [hv, hw, hlimit]
  by_cases h : 0 < v.limit
  · rw [clause, clause, hactive, hlimit, hskip h]
  · have hoff : v.active = false := hv.trans (decide_eq_false h)
    rw [clause, clause, ← hactive, hoff]
    rfl

namespace Statement

theorem window_getD (s : Statement) : (s.paging.getD {}).window = s.window := by
  unfold window
  cases s.paging <;> rfl

theorem sortField_getD (s : Statement) : (s.paging.getD {}).sortField = s.sort? := by
  unfold sort?
  cases s.paging <;> rfl

theorem page_getD (s : Statement) : (s.paging.getD {}).page.filter (0 < ·) = s.page? := by
  unfold page?
  cases s.paging <;> rfl

theorem filter_sort? (s : Statement) : s.sort?.filter (· ≠ "") = s.sort? := by
  rw [sort?, Option.filter_filter]
  simp only [Bool.and_self]

/- The text shows the paging by the field to sort by and the clause of the window only. -/
theorem soql_congr (s : Statement) {p q : Paging} (hsort : p.sortField = q.sortField)
    (hclause : p.window.clause = q.window.clause) :
    ({ s with paging := some p } : Statement).soql = ({ s with paging := some q } : Statement).soql := by
  have htext (w : String) :
      selectText s.object s.fields w (some p) = selectText s.object s.fields w (some q) := by
    simp only [selectText, Option.bind_some, Option.map_some, Option.getD_some, hsort, hclause]
  unfold soql
  simp only [htext]
  rfl

/- A paging that asks for nothing can be left out, or put in. -/
theorem soql_of_left_out (s : Statement) (p : Paging) :
    ({ s with paging := if p = {} then none else some p } : Statement).soql =
      ({ s with paging := some p } : Statement).soql := by
  split
  · rename_i h
    rw [h]
    rfl
  · rfl

theorem soql_of_put_in (s : Statement) :
    ({ s with paging := some (s.paging.getD {}) } : Statement).soql = s.soql := by
  obtain ⟨object, operation, filter, fields, paging⟩ := s
  cases paging <;> rfl

end Statement

/-! ### Filling in -/

namespace Paging

theorem pageAndSize_eq_some {p : Paging} {page size : UInt64} :
    p.pageAndSize = some (page, size) ↔
      p.page = some page ∧ p.pageSize = some size ∧ 0 < page ∧ 0 < size := by
  unfold pageAndSize
  split
  · rename_i page' size' hpage hsize
    rw [hpage, hsize, Option.ite_none_right_eq_some]
    constructor
    · rintro ⟨hpos, heq⟩
      obtain ⟨rfl, rfl⟩ := Prod.mk.inj (Option.some.inj heq)
      exact ⟨rfl, rfl, hpos⟩
    · rintro ⟨hpage', hsize', hpos⟩
      rw [Option.some.inj hpage', Option.some.inj hsize']
      exact ⟨hpos, rfl⟩
  · rename_i hnot
    constructor
    · intro h
      cases h
    · rintro ⟨hpage, hsize, _⟩
      exact absurd hsize (hnot page size hpage)

theorem window_of_page {p : Paging} {page size : UInt64} (h : p.pageAndSize = some (page, size)) :
    p.window = { skip := saturatingMul (page - 1) size, limit := size, active := true } := by
  rw [window, h]

theorem window_of_no_page {p : Paging} (h : p.pageAndSize = none) :
    p.window = { skip := p.skip.getD 0, limit := p.limit.getD 0, active := 0 < p.limit.getD 0 } := by
  rw [window, h]

theorem pageAndSize_of_limit_zero {p : Paging} (h : p.window.limit = 0) : p.pageAndSize = none := by
  rcases hps : p.pageAndSize with _ | ⟨page, size⟩
  · rfl
  · rw [window_of_page hps] at h
    obtain ⟨_, _, _, hsize⟩ := pageAndSize_eq_some.mp hps
    exact absurd h (UInt64.pos_iff_ne_zero.mp hsize)

/- The three ways to take a default limit: not at all, as the size of a page, and as the limit. -/
theorem withDefaultLimit_cases (p : Paging) (d : UInt64) :
    (0 < p.window.limit ∧ p.withDefaultLimit d = p) ∨
      (p.window.limit = 0 ∧ (∃ page, p.page = some page ∧ 0 < page) ∧
        p.withDefaultLimit d = { p with pageSize := some d }) ∨
      (p.window.limit = 0 ∧ p.page.filter (0 < ·) = none ∧
        p.withDefaultLimit d = { p with limit := some d }) := by
  unfold withDefaultLimit
  by_cases hlimit : 0 < p.window.limit
  · have hactive : p.window.active = true := p.active_window.trans (decide_eq_true hlimit)
    exact .inl ⟨hlimit, if_pos hactive⟩
  · have hzero : p.window.limit = 0 := eq_zero_of_not_pos hlimit
    have hactive : ¬ p.window.active = true := by
      rw [p.active_window, decide_eq_true_eq]
      exact hlimit
    rw [if_neg hactive]
    cases hp : p.page.filter (0 < ·) with
    | none =>
      have hany : p.page.any (0 < ·) = false := by
        rw [Option.any_eq_false]
        intro page hpage
        simpa using Option.filter_eq_none_iff.mp hp page hpage
      exact .inr (.inr ⟨hzero, rfl, if_neg (by simp [hany])⟩)
    | some page =>
      obtain ⟨hpage, hpos⟩ := Option.filter_eq_some_iff.mp hp
      have hpos := of_decide_eq_true hpos
      -- A page with a size would be in force already.
      have hall : p.pageSize.all (· == 0) = true := by
        rw [Option.all_eq_true]
        intro size hsize
        by_cases hz : size = 0
        · exact beq_iff_eq.mpr hz
        · have hsome := pageAndSize_eq_some.mpr ⟨hpage, hsize, hpos, UInt64.pos_iff_ne_zero.mpr hz⟩
          rw [pageAndSize_of_limit_zero hzero] at hsome
          cases hsome
      exact .inr (.inl ⟨hzero, ⟨page, hpage, hpos⟩, if_pos (by simp [hall, hpage, hpos])⟩)

theorem limit_withDefaultLimit (p : Paging) (d : UInt64) :
    (p.withDefaultLimit d).window.limit = if 0 < p.window.limit then p.window.limit else d := by
  rcases p.withDefaultLimit_cases d with ⟨h, heq⟩ | ⟨h, ⟨page, hp, hpos⟩, heq⟩ | ⟨h, _, heq⟩
  · rw [heq, if_pos h]
  · rw [heq, h, if_neg (by decide)]
    by_cases hd : 0 < d
    · have hsome : ({ p with pageSize := some d } : Paging).pageAndSize = some (page, d) :=
        pageAndSize_eq_some.mpr ⟨hp, rfl, hpos, hd⟩
      rw [window_of_page hsome]
    · -- A page of no rows is not in force, so that the limit stays what it was.
      obtain rfl : d = 0 := eq_zero_of_not_pos hd
      have hnone : ({ p with pageSize := some 0 } : Paging).pageAndSize = none := by
        simp [pageAndSize, hp]
      rw [window_of_no_page (pageAndSize_of_limit_zero h)] at h
      rw [window_of_no_page hnone]
      exact h
  · have hnone : ({ p with limit := some d } : Paging).pageAndSize = none :=
      pageAndSize_of_limit_zero (p := p) h
    rw [heq, h, if_neg (by decide), window_of_no_page hnone]
    rfl

theorem skip_withDefaultLimit {p : Paging} {d : UInt64} (hd : p.window.limit = 0 → 0 < d) :
    (p.withDefaultLimit d).window.skip =
      if 0 < p.window.limit then p.window.skip
      else
        match p.page.filter (0 < ·) with
        | some page => UInt64.ofNat (min ((page.toNat - 1) * d.toNat) 0xFFFFFFFFFFFFFFFF)
        | none => p.window.skip := by
  rcases p.withDefaultLimit_cases d with ⟨h, heq⟩ | ⟨h, ⟨page, hp, hpos⟩, heq⟩ | ⟨h, hp, heq⟩
  · rw [heq, if_pos h]
  · have hsome : ({ p with pageSize := some d } : Paging).pageAndSize = some (page, d) :=
      pageAndSize_eq_some.mpr ⟨hp, rfl, hpos, hd h⟩
    have hfilter : p.page.filter (0 < ·) = some page := by
      rw [hp, Option.filter_some, if_pos (decide_eq_true hpos)]
    rw [heq, h, if_neg (by decide), window_of_page hsome, hfilter, saturatingMul, toNat_sub_one hpos]
  · have hnone := pageAndSize_of_limit_zero h
    have hnone' : ({ p with limit := some d } : Paging).pageAndSize = none := hnone
    rw [heq, h, if_neg (by decide), window_of_no_page hnone', hp, window_of_no_page hnone]

@[simp] theorem sortField_withDefaultLimit (p : Paging) (d : UInt64) :
    (p.withDefaultLimit d).sortField = p.sortField := by
  rcases p.withDefaultLimit_cases d with ⟨_, heq⟩ | ⟨_, _, heq⟩ | ⟨_, _, heq⟩ <;> rw [heq] <;> rfl

@[simp] theorem window_withDefaultSort (p : Paging) (field : String) :
    (p.withDefaultSort field).window = p.window := by
  unfold withDefaultSort
  split <;> rfl

theorem sortField_withDefaultSort (p : Paging) (field : String) :
    (p.withDefaultSort field).sortField = (p.sortField.or (some field)).filter (· ≠ "") := by
  unfold withDefaultSort
  cases h : p.sortField with
  | none => rfl
  | some f =>
    have hf : f ≠ "" := by simpa using (Option.filter_eq_some_iff.mp h).2
    rw [Option.some_or, Option.filter_some, if_pos (decide_eq_true hf)]
    exact h

end Paging

namespace Translator

/-! ### Translators -/

theorem window_effectivePaging (t : Translator) (p : Paging) :
    (t.effectivePaging p).window = (t.settings.defaultLimit.elim p p.withDefaultLimit).window := by
  unfold effectivePaging
  cases t.settings.defaultSort with
  | none => rfl
  | some field => exact Paging.window_withDefaultSort _ field

theorem limit_effectivePaging (t : Translator) (s : Statement) :
    (t.effectivePaging (s.paging.getD {})).window.limit = t.settings.limitFor s := by
  rw [window_effectivePaging, Settings.limitFor]
  cases t.settings.defaultLimit with
  | none =>
    rw [Option.elim_none, s.window_getD]
    split
    · rfl
    · rename_i h
      exact eq_zero_of_not_pos h
  | some d => rw [Option.elim_some, Paging.limit_withDefaultLimit, s.window_getD, Option.getD_some]

theorem skip_effectivePaging {t : Translator} {s : Statement} (h : 0 < t.settings.limitFor s) :
    (t.effectivePaging (s.paging.getD {})).window.skip = t.settings.skipFor s := by
  rw [window_effectivePaging, Settings.skipFor]
  unfold Settings.limitFor at h
  cases hd : t.settings.defaultLimit with
  | none =>
    rw [Option.elim_none, s.window_getD]
    split <;> rfl
  | some d =>
    have hpos : s.window.limit = 0 → 0 < d := by
      intro hzero
      rw [hzero, hd] at h
      exact h
    rw [← s.window_getD] at hpos ⊢
    rw [Option.elim_some, Paging.skip_withDefaultLimit hpos, s.page_getD]
    cases s.page? <;> rfl

theorem sortField_effectivePaging (t : Translator) (s : Statement) :
    (t.effectivePaging (s.paging.getD {})).sortField = (t.settings.sortFor s).filter (· ≠ "") := by
  have hlimit : (t.settings.defaultLimit.elim (s.paging.getD {})
      (s.paging.getD {}).withDefaultLimit).sortField = s.sort? := by
    rw [← s.sortField_getD]
    cases t.settings.defaultLimit with
    | none => rfl
    | some d => exact Paging.sortField_withDefaultLimit _ d
  unfold effectivePaging Settings.sortFor
  cases t.settings.defaultSort with
  | none =>
    rw [Option.elim_none, hlimit, Option.or_none, s.filter_sort?]
  | some field => rw [Option.elim_some, Paging.sortField_withDefaultSort, hlimit]

/- A translator refuses a limit above the maximum before it looks at anything else. -/
theorem soql_eq (t : Translator) (s : Statement) :
    t.soql s =
      match t.settings.maxLimit.filter (· < t.settings.limitFor s) with
      | some maximum => .error (.query (.malformed (.limitExceeded (t.settings.limitFor s) maximum)))
      | none =>
        ({ s with paging := some (t.effectivePaging (s.paging.getD {})) } : Statement).soql.mapError
          .query := by
  unfold soql withDefaults
  simp only [limit_effectivePaging]
  cases t.settings.maxLimit with
  | none => exact congrArg (Except.mapError TranslatorError.query) (s.soql_of_left_out _)
  | some maximum =>
    by_cases h : maximum < t.settings.limitFor s
    · simp only [if_pos h, Option.filter_some, decide_eq_true h, if_true]
    · simp only [if_neg h, Option.filter_some, decide_eq_false h, Bool.false_eq_true, if_false]
      exact congrArg (Except.mapError TranslatorError.query) (s.soql_of_left_out _)

theorem soql_effectivePaging (t : Translator) (s : Statement) :
    ({ s with paging := some (t.effectivePaging (s.paging.getD {})) } : Statement).soql =
      ({ s with paging := some (t.settings.pagingFor s) } : Statement).soql := by
  refine s.soql_congr (t.sortField_effectivePaging s) ?_
  refine Window.clause_congr (Paging.active_window _) (Paging.active_window _) ?_ ?_
  · rw [t.limit_effectivePaging, t.settings.window_pagingFor]
  · intro h
    rw [t.limit_effectivePaging] at h
    rw [skip_effectivePaging h, t.settings.window_pagingFor]

/-- A translator refuses a statement exactly if the limit that it asks for under the settings is above
the maximum, whatever else is wrong with it, and otherwise writes it as the statement with that limit,
with the rows to skip and with the field to sort by. A translator without settings writes every
statement and every descriptor as it is. -/
theorem soql_under_settings :
    (∀ (t : Translator) (s : Statement), t.soql s =
      match t.settings.maxLimit.filter (· < t.settings.limitFor s) with
      | some maximum => .error (.query (.malformed (.limitExceeded (t.settings.limitFor s) maximum)))
      | none => ({ s with paging := some (t.settings.pagingFor s) } : Statement).soql.mapError .query) ∧
      (∀ s : Statement, ({} : Translator).soql s = s.soql.mapError .query) ∧
      ∀ j : Json, ({} : Translator).soqlOfJson j = (Statement.soqlOfJson j).mapError .query := by
  have hdefault (s : Statement) : ({} : Translator).soql s = s.soql.mapError .query := by
    rw [soql_eq]
    exact congrArg (Except.mapError TranslatorError.query) s.soql_of_put_in
  refine ⟨fun t s => ?_, hdefault, fun j => ?_⟩
  · rw [t.soql_eq, t.soql_effectivePaging]
  · unfold soqlOfJson Statement.soqlOfJson
    cases Statement.ofJson j with
    | ok s => exact hdefault s
    | error cause => rfl

end Translator

end SoqlSelect
