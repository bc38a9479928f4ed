import SoqlSelect.Proofs.IsoDate
import SoqlSelect.Proofs.StringLiteral

/-!
# Strings that are written bare

A string is written without quotes if it is taken for a date. The form of a date has the digits of every
script, and a part with a digit beyond ASCII is no number, so that its range is not checked. The main
statement says exactly which strings are written bare, and that those in ASCII are dates.
-/

namespace SoqlSelect

/-- The characters of dates in ISO 8601. -/
def isIsoChar (c : Char) : Bool := c.isDigit || "-:.,+TZ ".toList.contains c

namespace IsoText

/-! ### What is checked -/

/-- The part is a number up to the limit, or no number at all. -/
def Within (limit : Nat) (ds : List Char) : Prop := ∀ n, number? ds = some n → n ≤ limit

/-- What is checked of an offset. Its minutes may begin with any digit but one of two bytes. -/
inductive CheckedOffset : List Char → Prop
  | none : CheckedOffset []
  | universal : CheckedOffset ['Z']
  | hours {sign : Char} {h : List Char} : IsSign sign → Digits 2 h → InRange 23 h →
      CheckedOffset (sign :: h)
  | minutes {sign : Char} {h colon m : List Char} : IsSign sign → Digits 2 h → InRange 23 h →
      colon = [] ∨ colon = [':'] → Digits 2 m → Within 59 m → (∀ c ∈ m.head?, c.utf8Size ≠ 2) →
      CheckedOffset (sign :: h ++ colon ++ m)

/-- What is checked of the parts. The year and the month have to be numbers; a day that is none counts as
the first of the month, and an hour that is none leaves the minute and the second unchecked. -/
structure Checked (t : IsoText) : Prop where
  day : ∃ year month, number? t.year = some year ∧ number? t.month = some month ∧
    CalendarDay year month ((number? t.day).getD 1)
  time : ∀ hour, number? t.hour = some hour → hour ≤ 23 ∧ Within 59 t.minute ∧ Within 59 t.second
  offset : CheckedOffset t.offset

/-! ### Days and times -/

theorem hasDay_iff_checked (t : IsoText) : t.hasDay = true ↔
    ∃ year month, number? t.year = some year ∧ number? t.month = some month ∧
      CalendarDay year month ((number? t.day).getD 1) := by
  constructor
  · intro h
    cases hy : number? t.year with
    | none => simp [hasDay, hy] at h
    | some year =>
      cases hm : number? t.month with
      | none => simp [hasDay, hy, hm] at h
      | some month => exact ⟨year, month, rfl, rfl, calendarDay_of_hasDay h hy hm rfl⟩
  · rintro ⟨year, month, hy, hm, hday⟩
    exact hasDay_of_calendarDay hday hy hm rfl

theorem getD_le_iff_within (limit : Nat) (ds : List Char) :
    (number? ds).getD 0 ≤ limit ↔ Within limit ds := by
  unfold Within
  cases number? ds <;> simp

theorem hasTime_iff_checked (t : IsoText) : t.hasTime = true ↔
    ∀ hour, number? t.hour = some hour → hour ≤ 23 ∧ Within 59 t.minute ∧ Within 59 t.second := by
  cases hh : number? t.hour with
  | none => simp [hasTime, hh]
  | some hour =>
    rw [hasTime_iff hh rfl rfl, getD_le_iff_within, getD_le_iff_within]
    simp

/-! ### Offsets -/

/- Minutes that no window fits count as zero, so that only a window with one character fails. -/
theorem minutes_iff {m : List Char} (hm : Digits 2 m) :
    (∃ k, ((Text.takeBytes? 2 m).elim (some 0) number?) = some k ∧ k ≤ 59) ↔
      Within 59 m ∧ ∀ c ∈ m.head?, c.utf8Size ≠ 2 := by
  obtain ⟨a, b, rfl, ha, hb⟩ := hm.exists_pair
  unfold Within
  rw [takeBytes?_two]
  by_cases hone : a.utf8Size = 1
  · by_cases hone' : b.utf8Size = 1
    · have hnumber : number? [a, b] = some (digitsValue [a, b]) := by
        simp [number?, ha.mpr hone, hb.mpr hone']
      simp [hone, hone', hnumber]
    · have hnot : b.isDigit = false := Bool.eq_false_iff.mpr fun hd => hone' (hb.mp hd)
      simp [hone, hone', number?, hnot]
  · have hnot : a.isDigit = false := Bool.eq_false_iff.mpr fun hd => hone (ha.mp hd)
    by_cases htwo : a.utf8Size = 2
    · simp [htwo, number?, hnot]
    · simp [hone, htwo, number?, hnot]

theorem checkedOffset_of_hasOffset {t : IsoText} (h : OffsetForm t.offset)
    (hin : t.hasOffset = true) : CheckedOffset t.offset := by
  generalize ho : t.offset = offset at h
  cases h with
  | none => exact .none
  | universal => exact .universal
  | @hours sign h hs hh =>
    have hcs : h.filter (· ≠ ':') = h ++ [] := by rw [List.append_nil, hh.filter_colon]
    exact .hours hs hh ((hasOffset_parts hs ho hcs hh).mp hin).1
  | @minutes sign h m hs hh hm =>
    obtain ⟨hhours, hminutes⟩ := (hasOffset_parts hs ho (filter_colon_append hh hm) hh).mp hin
    obtain ⟨hwithin, hhead⟩ := (minutes_iff hm).mp hminutes
    simpa using CheckedOffset.minutes hs hh hhours (.inl rfl) hm hwithin hhead
  | @colon sign h m hs hh hm =>
    obtain ⟨hhours, hminutes⟩ := (hasOffset_parts hs ho (filter_colon_between hh hm) hh).mp hin
    obtain ⟨hwithin, hhead⟩ := (minutes_iff hm).mp hminutes
    simpa using CheckedOffset.minutes hs hh hhours (.inr rfl) hm hwithin hhead

theorem CheckedOffset.hasOffset {t : IsoText} (h : CheckedOffset t.offset) : t.hasOffset = true := by
  generalize ho : t.offset = offset at h
  cases h with
  | none => simp [IsoText.hasOffset, ho]
  | universal => simp [IsoText.hasOffset, ho]
  | @hours sign h hs hh hhours =>
    have hcs : h.filter (· ≠ ':') = h ++ [] := by rw [List.append_nil, hh.filter_colon]
    exact (hasOffset_parts hs ho hcs hh).mpr ⟨hhours, 0, rfl, by decide⟩
  | @minutes sign h colon m hs hh hhours hcolon hm hwithin hhead =>
    have hcs : (h ++ colon ++ m).filter (· ≠ ':') = h ++ m := by
      rw [List.filter_append, List.filter_append, hh.filter_colon, hm.filter_colon]
      rcases hcolon with rfl | rfl <;> simp
    exact (hasOffset_parts hs ho hcs hh).mpr ⟨hhours, (minutes_iff hm).mpr ⟨hwithin, hhead⟩⟩

end IsoText

/-! ### Characters -/

/-- The characters of bare strings: those of ISO 8601, and the decimal digits beyond ASCII. -/
def IsDateChar (c : Char) : Prop :=
  isIsoChar c = true ∨ Text.isDecimalDigit c = true ∧ 128 ≤ c.toNat

theorem isDateChar_of_isFormChar {c : Char} (h : IsoText.isFormChar c = true) : IsDateChar c := by
  rcases Bool.or_eq_true_iff.mp h with hd | hm
  · by_cases ha : c.toNat < 128
    · left
      simp [isIsoChar, IsoText.isDigit_of_ascii hd ha]
    · exact .inr ⟨hd, Nat.le_of_not_lt ha⟩
  · left
    rw [isIsoChar, hm, Bool.or_true]

namespace IsoText

theorem Form.offset {t : IsoText} {cs : List Char} (h : Form t cs) : OffsetForm t.offset := by
  cases h with
  | month _ _ => exact .none
  | day _ _ _ => exact .none
  | time _ _ _ _ _ _ ho => exact ho

/-! ### Bare strings -/

theorem Form.checked_iff {t : IsoText} {cs : List Char} (h : Form t cs) :
    t.hasDay = true ∧ t.hasTime = true ∧ t.hasOffset = true ↔ t.Checked := by
  rw [hasDay_iff_checked, hasTime_iff_checked]
  constructor
  · rintro ⟨hday, htime, hoffset⟩
    exact ⟨hday, htime, checkedOffset_of_hasOffset h.offset hoffset⟩
  · rintro ⟨hday, htime, hoffset⟩
    exact ⟨hday, htime, hoffset.hasOffset⟩

end IsoText

theorem isIsoDate_iff_checked (s : String) :
    isIsoDate s = true ↔ ∃ t, IsoText.Form t s.toList ∧ t.Checked := by
  rw [isIsoDate_iff_form]
  exact exists_congr fun t => and_congr_right fun h => h.checked_iff

theorem lt_of_isIsoChar {c : Char} (h : isIsoChar c = true) : c.toNat < 128 := by
  rcases Bool.or_eq_true_iff.mp h with hd | hm
  · have := isDigit_iff_toNat.mp hd
    omega
  · have hall : "-:.,+TZ ".toList.all (fun c => c.toNat < 128) = true := by decide
    have hmem : c ∈ "-:.,+TZ ".toList := List.contains_iff_mem.mp hm
    exact of_decide_eq_true (List.all_eq_true.mp hall c hmem)

namespace Value

/-- A string is written bare exactly if it has the form of a date and its parts pass what is checked of
them. Its characters are those of ISO 8601 and the decimal digits of other scripts. Without these it is a
date: all its parts are in the ranges of the calendar and the clock. -/
theorem string_bare_iff (s : String) :
    ((Value.string s).literal?.map Literal.text = some s ↔
      ∃ t, IsoText.Form t s.toList ∧ t.Checked) ∧
    ((Value.string s).literal?.map Literal.text = some s →
      (∀ c ∈ s.toList, IsDateChar c) ∧
        ((∀ c ∈ s.toList, isIsoChar c = true) → IsoText.DateText s.toList)) := by
  rw [text_literal?_string]
  refine ⟨isIsoDate_iff_checked s, fun h => ?_⟩
  obtain ⟨t, hform, hday, htime, hoffset⟩ := (isIsoDate_iff_form s).mp h
  refine ⟨fun c hc => isDateChar_of_isFormChar (hform.formChars c hc), fun hchars => ?_⟩
  have hascii : IsoText.Ascii s.toList := fun c hc => lt_of_isIsoChar (hchars c hc)
  exact IsoText.dateText_of_form hform hascii hday htime hoffset

theorem string_bare_iff_arabic_day :
    let s := "2024-01-\u0660\u0665"
    (Value.string s).literal?.map Literal.text = some s ∧
      (∃ t, IsoText.Form t s.toList ∧ t.Checked) ∧ ∀ c ∈ s.toList, IsDateChar c := by
  intro s
  have hs : (Value.string s).literal?.map Literal.text = some s := by decide
  obtain ⟨hiff, hchars⟩ := string_bare_iff s
  exact ⟨hs, hiff.mp hs, (hchars hs).1⟩

/-- Digits beyond ASCII are written bare, and with such an hour so is a minute beyond the clock. -/
theorem string_bare_out_of_range :
    let s := "2024-01-01T\u096F\u096F:99:99"
    (Value.string s).literal?.map Literal.text = some s ∧
      ('\u096F' ∈ s.toList ∧ isIsoChar '\u096F' = false) ∧
      ∃ t, IsoText.Form t s.toList ∧ IsoText.number? t.minute = some 99 := by
  intro s
  have hminute : (IsoText.parse? s.toList).map (fun t => IsoText.number? t.minute) = some (some 99) := by
    decide
  obtain ⟨t, hparse, ht⟩ := Option.map_eq_some_iff.mp hminute
  exact ⟨by decide, by decide, t, IsoText.form_of_parse? hparse, ht⟩

end Value

end SoqlSelect
