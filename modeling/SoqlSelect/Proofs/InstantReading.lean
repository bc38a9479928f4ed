import SoqlSelect.Proofs.InstantText

/-!
# Instants told apart by their texts

Behind the year, the parts of the text of an instant have a fixed number of digits each, so that they can
be told apart from the end of the text. A leap second has a number of its own. The main statement says that
two instants have the same text exactly if they are the same up to the millisecond.
-/

namespace SoqlSelect

open Instant (padded)

/-! ### Numbers of fixed width -/

theorem padded_inj {width m n : Nat} (h : padded width m = padded width n) : m = n := by
  rw [← digitsValue_padded width m, h, digitsValue_padded]

/- Numbers of the same width end at the same place, so that what follows is the same too. -/
theorem mark_padded_append_inj {mark : Char} {width limit m n : Nat} {as bs : List Char} (hm : m ≤ limit)
    (hn : n ≤ limit) (h : mark :: (padded width m ++ as) = mark :: (padded width n ++ bs))
    (hlimit : (Nat.toDigits 10 limit).length ≤ width := by decide) : m = n ∧ as = bs := by
  have hlength : (padded width m).length = (padded width n).length := by
    rw [length_padded hm hlimit, length_padded hn hlimit]
  obtain ⟨hdigits, hrest⟩ := List.append_inj (List.cons.inj h).2 hlength
  exact ⟨padded_inj hdigits, hrest⟩

theorem Date.bounds_of_isValid {d : Date} (h : d.isValid = true) : d.month ≤ 12 ∧ d.day ≤ 31 := by
  simp only [isValid, Bool.and_eq_true, decide_eq_true_eq] at h
  obtain ⟨hpos, hle⟩ := h
  unfold daysInMonth at hle
  split at hle
  · split at hle <;> omega
  all_goals omega

namespace Instant

/-! ### Years -/

/- A year with a sign has no digit in the first place. -/
theorem yearText_inj {y z : Int} (h : yearText y = yearText z) : y = z := by
  have hfirst {n : Nat} {sign : Char} {cs : List Char} (hsign : sign.isDigit = false)
      (heq : padded 4 n = sign :: cs) : False := by
    have hmem : sign ∈ padded 4 n := by simp [heq]
    rw [isDigit_of_mem_padded hmem] at hsign
    cases hsign
  have hsign (year : Int) : (if year < 0 then '-' else '+').isDigit = false := by split <;> rfl
  by_cases hy : 0 ≤ y ∧ y ≤ 9999
  · rw [yearText, if_pos hy] at h
    by_cases hz : 0 ≤ z ∧ z ≤ 9999
    · rw [yearText, if_pos hz] at h
      have := padded_inj h
      omega
    · rw [yearText, if_neg hz] at h
      exact (hfirst (hsign z) h).elim
  · rw [yearText, if_neg hy] at h
    by_cases hz : 0 ≤ z ∧ z ≤ 9999
    · rw [yearText, if_pos hz] at h
      exact (hfirst (hsign y) h.symm).elim
    · rw [yearText, if_neg hz] at h
      obtain ⟨hmark, hdigits⟩ := List.cons.inj h
      have habs := padded_inj hdigits
      have hsame : y < 0 ↔ z < 0 := by
        constructor
        · intro hneg
          by_contra hpos
          rw [if_pos hneg, if_neg hpos] at hmark
          cases hmark
        · intro hneg
          by_contra hpos
          rw [if_neg hpos, if_pos hneg] at hmark
          cases hmark
      omega

/-! ### Behind the year -/

def behindYear (t : Instant) : List Char :=
  '-' :: (padded 2 t.date.month ++ '-' :: (padded 2 t.date.day ++ 'T' :: (padded 2 t.hour ++
    ':' :: (padded 2 t.minute ++ ':' :: (padded 2 t.second ++ '.' :: (padded 3 t.millisecond ++
      ['Z']))))))

theorem chars_eq (t : Instant) : t.chars = yearText t.date.year ++ t.behindYear := by
  simp [chars, behindYear]

theorem date_bounds (t : Instant) : t.date.month ≤ 12 ∧ t.date.day ≤ 31 :=
  Date.bounds_of_isValid (Date.isValid_ofDays _)

theorem millisecond_le (t : Instant) : t.millisecond ≤ 999 := by
  unfold millisecond
  omega

theorem length_behindYear (t : Instant) : t.behindYear.length = 20 := by
  have hmonth : (padded 2 t.date.month).length = 2 := length_padded t.date_bounds.1
  have hday : (padded 2 t.date.day).length = 2 := length_padded t.date_bounds.2
  have hhour : (padded 2 t.hour).length = 2 := length_padded t.hour_le
  have hminute : (padded 2 t.minute).length = 2 := length_padded t.minute_le
  have hsecond : (padded 2 t.second).length = 2 := length_padded t.second_le
  have hmilli : (padded 3 t.millisecond).length = 3 := length_padded t.millisecond_le
  simp only [behindYear, List.length_cons, List.length_append, List.length_nil, hmonth, hday, hhour,
    hminute, hsecond, hmilli]

theorem behindYear_inj {t u : Instant} (h : t.behindYear = u.behindYear) :
    (t.date.month = u.date.month ∧ t.date.day = u.date.day) ∧
      (t.hour = u.hour ∧ t.minute = u.minute ∧ t.second = u.second) ∧
        t.millisecond = u.millisecond := by
  obtain ⟨hmonth, h⟩ := mark_padded_append_inj t.date_bounds.1 u.date_bounds.1 h
  obtain ⟨hday, h⟩ := mark_padded_append_inj t.date_bounds.2 u.date_bounds.2 h
  obtain ⟨hhour, h⟩ := mark_padded_append_inj t.hour_le u.hour_le h
  obtain ⟨hminute, h⟩ := mark_padded_append_inj t.minute_le u.minute_le h
  obtain ⟨hsecond, h⟩ := mark_padded_append_inj t.second_le u.second_le h
  obtain ⟨hmilli, _⟩ := mark_padded_append_inj t.millisecond_le u.millisecond_le h
  exact ⟨⟨hmonth, hday⟩, ⟨hhour, hminute, hsecond⟩, hmilli⟩

/-! ### Instants -/

/-- The instants are the same up to the millisecond. -/
def SameMillisecond (t u : Instant) : Prop :=
  t.seconds = u.seconds ∧ t.nanos / 1000000 = u.nanos / 1000000

/- The number of a leap second belongs to no other second. -/
theorem second_inj {t u : Instant} (h : t.second = u.second) :
    t.seconds % 60 = u.seconds % 60 ∧ t.nanos / 1000000000 = u.nanos / 1000000000 := by
  have hnanos := t.nanos_lt
  have hnanos' := u.nanos_lt
  have hleap := t.leap_at_end
  have hleap' := u.leap_at_end
  unfold second at h
  omega

theorem sameMillisecond_of_text {t u : Instant} (h : t.text = u.text) : t.SameMillisecond u := by
  have hchars : yearText t.date.year ++ t.behindYear = yearText u.date.year ++ u.behindYear := by
    rw [← chars_eq, ← chars_eq]
    exact String.ofList_injective h
  have hlength : t.behindYear.length = u.behindYear.length := by
    rw [length_behindYear, length_behindYear]
  obtain ⟨hyear, hbehind⟩ := List.append_inj' hchars hlength
  have hyear := yearText_inj hyear
  obtain ⟨⟨hmonth, hday⟩, ⟨hhour, hminute, hsecond⟩, hmilli⟩ := behindYear_inj hbehind
  have hdate : t.date = u.date := by
    calc t.date = ⟨t.date.year, t.date.month, t.date.day⟩ := rfl
      _ = ⟨u.date.year, u.date.month, u.date.day⟩ := by rw [hyear, hmonth, hday]
  have hdays : t.seconds / 86400 = u.seconds / 86400 := by
    calc t.seconds / 86400 = t.date.toDays := (Date.toDays_ofDays _).symm
      _ = u.date.toDays := by rw [hdate]
      _ = u.seconds / 86400 := Date.toDays_ofDays _
  obtain ⟨hclock, hleap⟩ := second_inj hsecond
  constructor
  · unfold hour at hhour
    unfold minute at hminute
    omega
  · unfold millisecond at hmilli
    omega

theorem text_of_sameMillisecond {t u : Instant} (h : t.SameMillisecond u) : t.text = u.text := by
  obtain ⟨hseconds, hnanos⟩ := h
  have hdate : t.date = u.date := by rw [date, date, hseconds]
  have hhour : t.hour = u.hour := by rw [hour, hour, hseconds]
  have hminute : t.minute = u.minute := by rw [minute, minute, hseconds]
  have hsecond : t.second = u.second := by
    unfold second
    omega
  have hmilli : t.millisecond = u.millisecond := by
    unfold millisecond
    omega
  rw [text, text, chars, chars, hdate, hhour, hminute, hsecond, hmilli]

theorem text_eq_iff {t u : Instant} : t.text = u.text ↔ t.SameMillisecond u :=
  ⟨sameMillisecond_of_text, text_of_sameMillisecond⟩

end Instant

end SoqlSelect
