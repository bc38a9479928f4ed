import SoqlSelect.Proofs.CalendarDays
import SoqlSelect.Proofs.IsoDate
import SoqlSelect.Proofs.StringLiteral

/-!
# Texts of instants

The text of an instant has the parts of a date in their places, with a sign before a year that has no
four digits. The main statement says which of these texts are taken for dates, and so for which instants
it does not matter whether a filter holds the instant or its text.
-/

namespace SoqlSelect

namespace Instant

/-- The year has four digits. -/
def HasPlainYear (t : Instant) : Prop := 0 ≤ t.date.year ∧ t.date.year ≤ 9999

instance (t : Instant) : Decidable t.HasPlainYear := inferInstanceAs (Decidable (_ ∧ _))

/-! ### Parts -/

theorem hour_le (t : Instant) : t.hour ≤ 23 := by
  unfold hour
  omega

theorem minute_le (t : Instant) : t.minute ≤ 59 := by
  unfold minute
  omega

theorem second_le (t : Instant) : t.second ≤ 60 := by
  have hnanos := t.nanos_lt
  have hleap := t.leap_at_end
  unfold second
  omega

/- A leap second follows the second 59, so that it has the number 60. -/
theorem second_le_iff (t : Instant) : t.second ≤ 59 ↔ t.isLeapSecond = false := by
  have hnanos := t.nanos_lt
  have hleap := t.leap_at_end
  unfold second isLeapSecond
  rw [decide_eq_false_iff_not]
  omega

theorem calendarDay_date {t : Instant} (h : t.HasPlainYear) :
    CalendarDay t.date.year.natAbs t.date.month t.date.day := by
  have hvalid : t.date.isValid = true := Date.isValid_ofDays _
  have hyear : (t.date.year.natAbs : Int) = t.date.year := Int.natAbs_of_nonneg h.1
  rw [← isValid_iff, hyear]
  exact hvalid

/-- The parts of the text, where the year has four digits. -/
def isoText (t : Instant) : IsoText where
  year := padded 4 t.date.year.natAbs
  month := padded 2 t.date.month
  day := padded 2 t.date.day
  hour := padded 2 t.hour
  minute := padded 2 t.minute
  second := padded 2 t.second
  offset := ['Z']

/-! ### The text -/

theorem form_chars {t : Instant} (h : t.HasPlainYear) : IsoText.Form t.isoText t.chars := by
  have hday := calendarDay_date h
  have hyear : t.date.year.natAbs ≤ 9999 := by
    obtain ⟨hlow, hhigh⟩ := h
    omega
  have hsign : yearText t.date.year = padded 4 t.date.year.natAbs := if_pos h
  have hfraction : ∀ c ∈ padded 3 t.millisecond, Text.isDecimalDigit c = true :=
    fun c hc => Text.isDecimalDigit_of_isDigit (isDigit_of_mem_padded hc)
  have hclock := IsoText.ClockForm.fraction (IsoText.digits_padded t.minute_le)
    (IsoText.digits_padded t.second_le) (.inl rfl) (padded_ne_nil 3 t.millisecond) hfraction
  have hform := IsoText.Form.time (IsoText.digits_padded hyear)
    (IsoText.digits_padded hday.month_mem.2) (IsoText.digits_padded hday.day_mem.2) (.inl rfl)
    (IsoText.digits_padded t.hour_le) hclock .universal
  unfold isoText chars
  rw [hsign]
  simpa using hform

theorem hasDay_isoText {t : Instant} (h : t.HasPlainYear) : t.isoText.hasDay = true :=
  IsoText.hasDay_of_calendarDay (calendarDay_date h) (IsoText.number?_padded 4 _)
    (IsoText.number?_padded 2 _) (IsoText.getD_number? rfl 1)

theorem hasTime_isoText (t : Instant) : t.isoText.hasTime = true ↔ t.isLeapSecond = false := by
  have hhour : IsoText.number? t.isoText.hour = some t.hour := IsoText.number?_padded 2 _
  have hminute : (IsoText.number? t.isoText.minute).getD 0 = t.minute := IsoText.getD_number? rfl 0
  have hsecond : (IsoText.number? t.isoText.second).getD 0 = t.second := IsoText.getD_number? rfl 0
  rw [IsoText.hasTime_iff hhour hminute hsecond, ← second_le_iff]
  simp [t.hour_le, t.minute_le]

theorem isIsoDate_of_plainYear {t : Instant} (h : t.HasPlainYear) :
    isIsoDate t.text = true ↔ t.isLeapSecond = false := by
  have hparse : IsoText.parse? t.text.toList = some t.isoText := by
    rw [text, String.toList_ofList]
    exact IsoText.parse?_of_form (form_chars h)
  have hoffset : t.isoText.hasOffset = true := rfl
  simp only [isIsoDate, hparse, hasDay_isoText h, hoffset, Bool.true_and, Bool.and_true, hasTime_isoText]

/- The sign is in the place of a digit. -/
theorem not_isIsoDate_of_sign {t : Instant} (h : ¬ t.HasPlainYear) : isIsoDate t.text = false := by
  have hyear : yearText t.date.year =
      (if t.date.year < 0 then '-' else '+') :: padded 4 t.date.year.natAbs := if_neg h
  have hsign : Text.isDecimalDigit (if t.date.year < 0 then '-' else '+') = false := by
    split <;> decide
  have hparse : IsoText.parse? t.text.toList = none := by
    rw [text, String.toList_ofList, chars, hyear]
    simp [IsoText.parse?, IsoText.digits?, hsign]
  simp [isIsoDate, hparse]

theorem isIsoDate_text (t : Instant) :
    isIsoDate t.text = true ↔ t.HasPlainYear ∧ t.isLeapSecond = false := by
  by_cases h : t.HasPlainYear
  · simp [isIsoDate_of_plainYear h, h]
  · simp [not_isIsoDate_of_sign h, h]

/-- The text of an instant is taken for a date exactly if its year has four digits and it is no leap
second. Exactly then the instant and the string of its text have the same literal. -/
theorem text_is_date_iff (t : Instant) :
    (isIsoDate t.text = true ↔ (0 ≤ t.date.year ∧ t.date.year ≤ 9999) ∧ t.nanos < 1000000000) ∧
      ((Value.date t).literal?.map Literal.text = (Value.string t.text).literal?.map Literal.text ↔
        (0 ≤ t.date.year ∧ t.date.year ≤ 9999) ∧ t.nanos < 1000000000) := by
  have hleap : t.isLeapSecond = false ↔ t.nanos < 1000000000 := by
    rw [isLeapSecond, decide_eq_false_iff_not, Nat.not_le]
  have hdate : isIsoDate t.text = true ↔
      (0 ≤ t.date.year ∧ t.date.year ≤ 9999) ∧ t.nanos < 1000000000 := by
    rw [isIsoDate_text, hleap]
    rfl
  refine ⟨hdate, ?_⟩
  rw [← hdate, ← Value.text_literal?_string]
  exact eq_comm

end Instant

end SoqlSelect
