import SoqlSelect.Calendar.Date

/-!
# Days of the calendar

Every number of days is a day that the calendar has. The day of a cycle is taken apart into centuries,
spans of four years, years and days, all counted from March on, so that the leap days are the days left
over at the end of a span. The main statements say that the month and the day of the month are always in
range, with a 29th of February in leap years only, and that no two numbers have the same day.
-/

namespace SoqlSelect.Date

/-! ### Cycles -/

/-- A day of a cycle by the centuries, the spans of four years and the years before it, and by its number
in its year. A day 365 ends a span, but not a century, unless it ends the cycle. -/
structure InCycle (d century span year day : Int) : Prop where
  eq : d = 36524 * century + 1461 * span + 365 * year + day
  century_mem : 0 ≤ century ∧ century ≤ 3
  span_mem : 0 ≤ span ∧ span ≤ 24
  year_mem : 0 ≤ year ∧ year ≤ 3
  day_mem : 0 ≤ day ∧ day ≤ 365
  leap : day = 365 → year = 3 ∧ (span = 24 → century = 3)

/- The last century and the last year of a span have a day more, which the quotient would count as one
more of them. -/
theorem exists_inCycle {d : Int} (h : 0 ≤ d ∧ d < 146097) :
    ∃ century span year day, InCycle d century span year day := by
  obtain ⟨c, e, hd, hc, he, hcycle⟩ : ∃ c e, d = 36524 * c + e ∧ (0 ≤ c ∧ c ≤ 3) ∧
      (0 ≤ e ∧ e ≤ 36524) ∧ (e = 36524 → c = 3) :=
    ⟨min (d / 36524) 3, d - 36524 * min (d / 36524) 3, by omega, by omega, by omega, by omega⟩
  obtain ⟨s, f, he', hs, hf, hcentury⟩ : ∃ s f, e = 1461 * s + f ∧ (0 ≤ s ∧ s ≤ 24) ∧
      (0 ≤ f ∧ f ≤ 1460) ∧ (s = 24 → f = 1460 → e = 36524) :=
    ⟨e / 1461, e % 1461, by omega, by omega, by omega, by omega⟩
  obtain ⟨y, r, hf', hy, hr, hspan⟩ : ∃ y r, f = 365 * y + r ∧ (0 ≤ y ∧ y ≤ 3) ∧
      (0 ≤ r ∧ r ≤ 365) ∧ (r = 365 → y = 3) :=
    ⟨min (f / 365) 3, f - 365 * min (f / 365) 3, by omega, by omega, by omega, by omega⟩
  exact ⟨c, s, y, r, by omega, hc, hs, hy, hr, by omega⟩

namespace InCycle

variable {d c s y r : Int}

theorem yearOfCycle_eq (h : InCycle d c s y r) :
    (d - d / 1460 + d / 36524 - d / 146096) / 365 = 100 * c + 4 * s + y := by
  obtain ⟨hd, hc, hs, hy, hr, hleap⟩ := h
  have hcentury : d / 36524 - d / 146096 = c := by
    by_cases hlast : d = 146096
    · subst hlast
      omega
    · have hwithin : 1461 * s + 365 * y + r < 36524 := by omega
      omega
  -- The leap days so far; the last days of a span may count its leap day already.
  obtain ⟨x, hx, hx', hpos, hend⟩ : ∃ x, d / 1460 = 25 * c + s + x ∧ (0 ≤ x ∧ x ≤ 1) ∧
      (x = 1 → 0 < r) ∧ (r = 365 → x = 1) :=
    ⟨d / 1460 - 25 * c - s, by omega, by omega, by omega, by omega⟩
  have hsum : d - d / 1460 + d / 36524 - d / 146096 = 365 * (100 * c + 4 * s + y) + (r - x) := by
    omega
  have hrest : 0 ≤ r - x ∧ r - x < 365 := by omega
  rw [hsum, Int.mul_add_ediv_left _ _ (by decide), Int.ediv_eq_zero_of_lt hrest.1 hrest.2, Int.add_zero]

theorem dayOfYear_eq (h : InCycle d c s y r) :
    d - (365 * (100 * c + 4 * s + y) + (100 * c + 4 * s + y) / 4 - (100 * c + 4 * s + y) / 100) = r := by
  obtain ⟨hd, hc, hs, hy, hr, hleap⟩ := h
  have hspans : (100 * c + 4 * s + y) / 4 = 25 * c + s := by omega
  have hcenturies : (100 * c + 4 * s + y) / 100 = c := by omega
  omega

theorem isLeapYear (h : InCycle d c s y r) (hr : r = 365) (cycles : Int) :
    isLeapYear (cycles * 400 + (100 * c + 4 * s + y) + 1) = true := by
  obtain ⟨rfl, hlast⟩ := h.leap hr
  have hc := h.century_mem
  have hs := h.span_mem
  simp only [Date.isLeapYear, Bool.and_eq_true, Bool.or_eq_true, beq_iff_eq, bne_iff_ne]
  omega

end InCycle

/-! ### Years -/

/-- The day with that number in a year that begins in March. -/
def ofDayOfYear (year day : Int) : Date :=
  let month := (5 * day + 2) / 153
  { year := if month < 10 then year else year + 1,
    month := (if month < 10 then month + 3 else month - 9).toNat,
    day := (day - (153 * month + 2) / 5 + 1).toNat }

theorem ofDays_eq {n c s y r : Int} (h : InCycle ((n + epoch) % 146097) c s y r) :
    ofDays n = ofDayOfYear ((n + epoch) / 146097 * 400 + (100 * c + 4 * s + y)) r := by
  simp only [ofDays, h.yearOfCycle_eq, h.dayOfYear_eq]
  rfl

theorem isValid_ofDayOfYear {year day : Int} (h : 0 ≤ day ∧ day ≤ 365)
    (hleap : day = 365 → isLeapYear (year + 1) = true) : (ofDayOfYear year day).isValid = true := by
  unfold ofDayOfYear
  generalize hm : (5 * day + 2) / 153 = month
  by_cases hfebruary : month = 11
  · subst hfebruary
    simp only [isValid, daysInMonth, Bool.and_eq_true, decide_eq_true_eq]
    by_cases hl : isLeapYear (year + 1) = true
    · simp [hl]
      omega
    · have hday : day ≠ 365 := fun hd => hl (hleap hd)
      simp [hl]
      omega
  · have hmonth : month = 0 ∨ month = 1 ∨ month = 2 ∨ month = 3 ∨ month = 4 ∨ month = 5 ∨
        month = 6 ∨ month = 7 ∨ month = 8 ∨ month = 9 ∨ month = 10 := by omega
    rcases hmonth with rfl | rfl | rfl | rfl | rfl | rfl | rfl | rfl | rfl | rfl | rfl
    all_goals
      simp [isValid, daysInMonth]
      omega

/-- Whatever the number of days, the calendar has the day with that number. -/
theorem isValid_ofDays (n : Int) : (ofDays n).isValid = true := by
  have hcycle : 0 ≤ (n + epoch) % 146097 ∧ (n + epoch) % 146097 < 146097 := by omega
  obtain ⟨c, s, y, r, h⟩ := exists_inCycle hcycle
  rw [ofDays_eq h]
  exact isValid_ofDayOfYear h.day_mem fun hr => h.isLeapYear hr _

/- The month of a year that begins in March is read back from the calendar. -/
theorem toDays_ofDayOfYear {year day : Int} (h : 0 ≤ day ∧ day ≤ 365) :
    (ofDayOfYear year day).toDays = year / 400 * 146097 +
      (365 * (year % 400) + year % 400 / 4 - year % 400 / 100 + day) - epoch := by
  unfold ofDayOfYear toDays
  generalize hm : (5 * day + 2) / 153 = month
  have hmonth : 0 ≤ month ∧ month ≤ 11 := by omega
  have hday : 0 ≤ day - (153 * month + 2) / 5 + 1 := by omega
  by_cases hlate : month < 10
  · have hnot : ¬ (month + 3).toNat ≤ 2 := by omega
    simp only [if_pos hlate, if_neg hnot]
    have hindex : ((month + 3).toNat : Int) - 3 = month := by omega
    rw [hindex]
    omega
  · have hle : (month - 9).toNat ≤ 2 := by omega
    simp only [if_neg hlate, if_pos hle]
    have hindex : ((month - 9).toNat : Int) + 9 = month := by omega
    have hyear : year + 1 - 1 = year := by omega
    rw [hindex, hyear]
    omega

/-- A day of the calendar has the number it was taken by. -/
theorem toDays_ofDays (n : Int) : (ofDays n).toDays = n := by
  have hcycle : 0 ≤ (n + epoch) % 146097 ∧ (n + epoch) % 146097 < 146097 := by omega
  obtain ⟨c, s, y, r, h⟩ := exists_inCycle hcycle
  have hday := h.dayOfYear_eq
  have hyears : 0 ≤ 100 * c + 4 * s + y ∧ 100 * c + 4 * s + y < 400 := by
    obtain ⟨_, hc, hs, hy, _, _⟩ := h
    omega
  rw [ofDays_eq h, toDays_ofDayOfYear h.day_mem]
  generalize 100 * c + 4 * s + y = years at hday hyears
  generalize hcycles : (n + epoch) / 146097 = cycles
  have hquotient : (cycles * 400 + years) / 400 = cycles := by omega
  have hrest : (cycles * 400 + years) % 400 = years := by omega
  rw [hquotient, hrest]
  omega

end SoqlSelect.Date
