import SoqlSelect.Proofs.EffectivePaging
import SoqlSelect.Proofs.FilterDefects

/-!
# Limits on rows

A translator can be had from settings, from the settings that are found, or without any. The text of a
statement shows the rows that it asks for behind everything else. The main statement says that the limit
in a text of a translator is within its settings, and when a text shows none.
-/

namespace SoqlSelect

/-! ### Settings that pass the check -/

namespace Settings

/- Only the limits matter for the rows of a statement. -/
theorem limits_of_flaw? {d : Settings} (h : d.flaw? = none) :
    d.defaultLimit ≠ some 0 ∧ d.defaultExceedsMax = false := by
  unfold flaw? at h
  split at h
  · cases h
  split at h
  · cases h
  rename_i hzero
  split at h
  · cases h
  rename_i hmax
  exact ⟨hzero, Bool.eq_false_iff.mpr hmax⟩

theorem default_pos {d : Settings} (h : d.flaw? = none) {n : UInt64} (hn : d.defaultLimit = some n) :
    0 < n := by
  refine UInt64.pos_iff_ne_zero.mpr ?_
  rintro rfl
  exact (limits_of_flaw? h).1 hn

theorem default_le {d : Settings} (h : d.flaw? = none) {n m : UInt64} (hn : d.defaultLimit = some n)
    (hm : d.maxLimit = some m) : n ≤ m := by
  have hmax := (limits_of_flaw? h).2
  rw [defaultExceedsMax, hn, hm] at hmax
  exact UInt64.not_lt.mp (of_decide_eq_false hmax)

/- Without a limit of its own, a statement gets the default, which is within the maximum. -/
theorem limitFor_le {d : Settings} (h : d.flaw? = none) {s : Statement} (hs : s.window.limit = 0)
    {m : UInt64} (hm : d.maxLimit = some m) : d.limitFor s ≤ m := by
  rw [limitFor, hs, if_neg (by decide)]
  cases hn : d.defaultLimit with
  | none => exact UInt64.zero_le
  | some n => exact default_le h hn hm

theorem eq_zero_of_limitFor {d : Settings} (h : d.flaw? = none) {s : Statement}
    (hs : ¬ 0 < d.limitFor s) : d.defaultLimit = none ∧ s.window.limit = 0 := by
  unfold limitFor at hs
  split at hs
  · rename_i hpos
    exact absurd hpos hs
  · rename_i hpos
    refine ⟨?_, eq_zero_of_not_pos hpos⟩
    cases hn : d.defaultLimit with
    | none => rfl
    | some n =>
      rw [hn] at hs
      exact absurd (default_pos h hn) hs

end Settings

namespace Translator

/-- The translators that can be had: from settings, from the settings that are found, and without any. -/
inductive Constructed : Translator → Prop
  | ofSettings {d : Settings} {t : Translator} : ofSettings d = .ok t → Constructed t
  | load {place : Place} {env : Environment} {t : Translator} : load place env = .ok t → Constructed t
  | default : Constructed {}

theorem flaw?_of_ofSettings {d : Settings} {t : Translator} (h : ofSettings d = .ok t) :
    t.settings.flaw? = none := by
  unfold ofSettings at h
  split at h
  · rename_i settings hd
    obtain rfl := Except.ok.inj h
    exact Settings.checked_eq_ok hd
  · cases h

theorem Constructed.flaw? {t : Translator} (h : t.Constructed) : t.settings.flaw? = none := by
  cases h with
  | ofSettings h => exact flaw?_of_ofSettings h
  | load h =>
    unfold Translator.load at h
    split at h
    · exact flaw?_of_ofSettings h
    · cases h
  | default => rfl

end Translator

/-! ### The clause for the rows -/

/- The text of a limit or an offset behind the other clauses. -/
def countText (label : String) (count : Option Nat) : String :=
  count.elim "" fun n => label ++ n.repr

def rowsText (limit offset : Option Nat) : String :=
  countText " LIMIT " limit ++ countText " OFFSET " offset

theorem toList_countText (label : String) (count : Option Nat) :
    (countText label count).toList = clauseText (label.toList ++ Nat.toDigits 10 ·) count := by
  cases count with
  | none => rfl
  | some n =>
    show (label ++ n.repr).toList = _
    rw [String.toList_append, Nat.toList_repr]
    rfl

theorem toList_rowsText (limit offset : Option Nat) :
    (rowsText limit offset).toList = clauseText limitText limit ++ clauseText offsetText offset := by
  rw [rowsText, String.toList_append, toList_countText, toList_countText]
  rfl

namespace Statement

def withoutWindow (s : Statement) : Statement :=
  { s with paging := s.paging.map fun p => { sort := p.sort } }

theorem sort?_withoutWindow (s : Statement) : s.withoutWindow.sort? = s.sort? := by
  unfold withoutWindow sort?
  cases s.paging <;> rfl

theorem clause_withoutWindow (s : Statement) : s.withoutWindow.window.clause = "" := by
  unfold withoutWindow window
  cases s.paging <;> rfl

theorem soql_eq_append {s : Statement} {text : String} (h : s.soql = .ok text) :
    ∃ head, s.withoutWindow.soql = .ok head ∧
      text = head ++ rowsText s.window.limit? s.window.offset? := by
  obtain ⟨_, hvalid, h⟩ := bind_eq_ok.mp h
  obtain ⟨w, hw, h⟩ := bind_eq_ok.mp h
  obtain ⟨hne, htext⟩ := toList_selectText h
  obtain ⟨head, hselect⟩ := selectText_eq_ok hne s.object w s.withoutWindow.paging
  obtain ⟨_, hhead⟩ := toList_selectText hselect
  refine ⟨head, bind_eq_ok.mpr ⟨(), hvalid, bind_eq_ok.mpr ⟨w, hw, hselect⟩⟩, ?_⟩
  have hnone : behind ((s.withoutWindow.paging.map Paging.window).getD {}).clause = [] :=
    congrArg behind s.clause_withoutWindow
  have hrows : behind ((s.paging.map Paging.window).getD {}).clause =
      (rowsText s.window.limit? s.window.offset?).toList :=
    (Window.behind_clause s.active_window).trans (toList_rowsText _ _).symm
  rw [s.withoutWindow.sortField_eq, s.sort?_withoutWindow, hnone, List.append_nil] at hhead
  rw [sortField_eq, hrows] at htext
  rw [← String.toList_inj, String.toList_append, htext, hhead]
  simp only [List.append_assoc]

/- How a text shows the rows that a statement asks for: behind the text of the same statement without a
window, and in the reading of its clauses if it has API names. An offset never stands alone. -/
structure ShowsRows (s : Statement) (text : String) (limit offset : Option Nat) : Prop where
  behind : ∃ head, s.withoutWindow.soql = .ok head ∧ text = head ++ rowsText limit offset
  read : s.hasNames = true →
    (Clauses.ofText? text).map (fun c => (c.limit, c.offset)) = some (limit, offset)
  offset : limit = none → offset = none

theorem showsRows_soql {s : Statement} {text : String} (h : s.soql = .ok text) :
    s.ShowsRows text s.window.limit? s.window.offset? := by
  refine ⟨soql_eq_append h, ?_, ?_⟩
  · intro hnames
    obtain ⟨w, _, hread⟩ := ofText?_soql hnames h
    rw [hread]
    rfl
  · intro hnone
    have hlimit : ¬ 0 < s.window.limit := by simpa [Window.limit?] using hnone
    exact if_neg fun hboth => hlimit hboth.1

/-! ### Statements are not refused for their limit -/

theorem error_ne_limitExceeded (d : Defect) (limit maximum : UInt64) :
    d.error ≠ .malformed (.limitExceeded limit maximum) := by
  cases d <;> simp [Defect.error]

theorem clause_ne_limitExceeded (f : Filter) (limit maximum : UInt64) :
    f.clause ≠ .error (.malformed (.limitExceeded limit maximum)) := by
  intro h
  have hreport : failure? f.clause = firstError? f.defects := (reports_condition f).map _
  rw [failure?_eq_some.mpr h] at hreport
  obtain ⟨d, _, hd⟩ := Option.map_eq_some_iff.mp hreport.symm
  exact error_ne_limitExceeded d limit maximum hd

theorem soql_ne_limitExceeded (s : Statement) (limit maximum : UInt64) :
    s.soql ≠ .error (.malformed (.limitExceeded limit maximum)) := by
  intro h
  rcases bind_eq_error.mp h with h | ⟨_, _, h⟩
  · unfold validate at h
    split at h
    · cases h
    · split at h <;> cases h
  · rcases bind_eq_error.mp h with h | ⟨w, _, h⟩
    · exact clause_ne_limitExceeded s.filter limit maximum h
    · unfold selectText at h
      split at h <;> cases h

end Statement

/-! ### Limits in force -/

namespace Translator

theorem soql_eq_ok {t : Translator} {s : Statement} {text : String} (h : t.soql s = .ok text) :
    (∀ m ∈ t.settings.maxLimit, t.settings.limitFor s ≤ m) ∧
      ({ s with paging := some (t.settings.pagingFor s) } : Statement).soql = .ok text := by
  rw [t.soql_eq, t.soql_effectivePaging] at h
  split at h
  · cases h
  · rename_i hmax
    refine ⟨fun m hm => ?_, mapError_eq_ok.mp h⟩
    exact UInt64.not_lt.mp (by simpa using Option.filter_eq_none_iff.mp hmax m hm)

theorem soql_eq_limitExceeded {t : Translator} {s : Statement} {limit maximum : UInt64}
    (h : t.soql s = .error (.query (.malformed (.limitExceeded limit maximum)))) :
    ∃ m ∈ t.settings.maxLimit, m < t.settings.limitFor s := by
  rw [t.soql_eq] at h
  split at h
  · rename_i m hm
    obtain ⟨hm, hlt⟩ := Option.filter_eq_some_iff.mp hm
    exact ⟨m, hm, of_decide_eq_true hlt⟩
  · obtain ⟨cause, herror, hcause⟩ := mapError_eq_error.mp h
    cases hcause
    exact absurd herror (Statement.soql_ne_limitExceeded _ limit maximum)

/-- Whatever way a translator is had, its settings have no flaw. A text that it writes shows a limit from
one to the maximum, or shows none, and then there is no default and the statement asks for no limit.
A statement that asks for no limit is not refused for its limit. -/
theorem rows_within_limits {t : Translator} (ht : t.Constructed) (s : Statement) :
    t.settings.flaw? = none ∧
      (∀ text, t.soql s = .ok text → ∃ limit offset,
        ({ s with paging := some (t.settings.pagingFor s) } : Statement).ShowsRows text limit offset ∧
          (∀ n ∈ limit, 1 ≤ n ∧ ∀ m ∈ t.settings.maxLimit, n ≤ m.toNat) ∧
          (limit = none → t.settings.defaultLimit = none ∧ s.window.limit = 0)) ∧
      (s.window.limit = 0 → ∀ limit maximum,
        t.soql s ≠ .error (.query (.malformed (.limitExceeded limit maximum)))) := by
  have hflaw := ht.flaw?
  refine ⟨hflaw, fun text h => ?_, fun hzero limit maximum h => ?_⟩
  · obtain ⟨hmax, hsoql⟩ := soql_eq_ok h
    have hshown : ({ s with paging := some (t.settings.pagingFor s) } : Statement).window.limit? =
        if 0 < t.settings.limitFor s then some (t.settings.limitFor s).toNat else none := rfl
    refine ⟨_, _, Statement.showsRows_soql hsoql, ?_, ?_⟩
    · intro n hn
      rw [hshown, Option.mem_def, Option.ite_none_right_eq_some] at hn
      obtain ⟨hpos, hn⟩ := hn
      obtain rfl := Option.some.inj hn
      exact ⟨UInt64.lt_iff_toNat_lt.mp hpos, fun m hm => UInt64.le_iff_toNat_le.mp (hmax m hm)⟩
    · intro hnone
      rw [hshown] at hnone
      exact Settings.eq_zero_of_limitFor hflaw (by simpa using hnone)
  · obtain ⟨m, hm, hlt⟩ := soql_eq_limitExceeded h
    exact absurd (Settings.limitFor_le hflaw hzero hm) (UInt64.not_le.mpr hlt)

theorem rows_within_limits_default_as_size :
    let t : Translator := { settings := { defaultLimit := some 20, maxLimit := some 50 } }
    let s : Statement := { object := "Lead", fields := ["Id"], paging := some { page := some 3 } }
    let text := "SELECT Id FROM Lead LIMIT 20 OFFSET 40"
    t.Constructed ∧ t.soql s = .ok text ∧
      (∃ limit offset, ({ s with paging := some (t.settings.pagingFor s) } : Statement).ShowsRows text
        limit offset ∧ ∀ n ∈ limit, 1 ≤ n ∧ n ≤ 50) ∧
      s.window.limit = 0 ∧ ∀ limit maximum,
        t.soql s ≠ .error (.query (.malformed (.limitExceeded limit maximum))) := by
  intro t s text
  have ht : t.Constructed := .ofSettings (d := t.settings) rfl
  have htext : t.soql s = .ok text := by
    unfold t s text
    rfl
  obtain ⟨_, hrows, hrefused⟩ := rows_within_limits ht s
  obtain ⟨limit, offset, hshown, hlimit, _⟩ := hrows text htext
  exact ⟨ht, htext, ⟨limit, offset, hshown, fun n hn => ⟨(hlimit n hn).1, (hlimit n hn).2 50 rfl⟩⟩, rfl,
    hrefused rfl⟩

end Translator

end SoqlSelect
