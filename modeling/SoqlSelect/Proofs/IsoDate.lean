import Mathlib.Data.List.Induction
import SoqlSelect.Calendar.Instant
import SoqlSelect.Proofs.BareText
import SoqlSelect.Proofs.OffsetWindows

/-!
# Dates in ASCII

The texts that are dates, as a grammar over numbers: every part is a number of fixed width, and the
numbers are those of the calendar and the clock. The main statement says that an ASCII text is taken for
a date exactly if the grammar has it.
-/

namespace SoqlSelect

open Instant (padded)

/-! ### The calendar -/

/-- The leap years are divisible by four, and the centuries among them by four hundred. -/
def IsLeap (year : Nat) : Prop := 4 ∣ year ∧ (100 ∣ year → 400 ∣ year)

/-- The day exists in that month of that year. -/
structure CalendarDay (year month day : Nat) : Prop where
  month_mem : 1 ≤ month ∧ month ≤ 12
  day_mem : 1 ≤ day ∧ day ≤ 31
  short_month : month = 4 ∨ month = 6 ∨ month = 9 ∨ month = 11 → day ≤ 30
  february : month = 2 → day ≤ 29
  leap_day : month = 2 → day = 29 → IsLeap year

theorem isLeapYear_iff (year : Nat) : Date.isLeapYear year = true ↔ IsLeap year := by
  simp only [Date.isLeapYear, IsLeap, Bool.and_eq_true, Bool.or_eq_true, beq_iff_eq, bne_iff_ne]
  omega

theorem isValid_iff (year month day : Nat) :
    Date.isValid { year := year, month := month, day := day } = true ↔ CalendarDay year month day := by
  simp only [Date.isValid, Bool.and_eq_true, decide_eq_true_eq]
  constructor
  · rintro ⟨hpos, hle⟩
    unfold Date.daysInMonth at hle
    split at hle
    · split at hle
      · rename_i hleap
        have hleap : IsLeap year := (isLeapYear_iff year).mp hleap
        exact ⟨by omega, by omega, by omega, by omega, fun _ _ => hleap⟩
      · constructor <;> omega
    · constructor <;> omega
    all_goals constructor <;> omega
  · rintro ⟨hmonth, hday, hshort, hfebruary, hleap⟩
    refine ⟨hday.1, ?_⟩
    unfold Date.daysInMonth
    split
    · split
      · exact hfebruary rfl
      · rename_i hcommon
        have hne : day ≠ 29 := fun h => hcommon ((isLeapYear_iff year).mpr (hleap rfl h))
        have := hfebruary rfl
        omega
    all_goals grind

/-! ### Numbers of fixed width -/

theorem length_toDigits_mono {m n : Nat} (h : m ≤ n) :
    (Nat.toDigits 10 m).length ≤ (Nat.toDigits 10 n).length := by
  have hpos : 0 < (Nat.toDigits 10 n).length := Nat.length_toDigits_pos
  rw [Nat.length_toDigits_le_iff (by decide) hpos]
  exact Nat.lt_of_le_of_lt h ((Nat.length_toDigits_le_iff (by decide) hpos).mp (Nat.le_refl _))

/- A number has its width if a limit of that width bounds it. -/
theorem length_padded {width limit n : Nat} (h : n ≤ limit)
    (hlimit : (Nat.toDigits 10 limit).length ≤ width := by decide) : (padded width n).length = width := by
  have hmono := length_toDigits_mono h
  simp only [padded, List.length_append, List.length_replicate]
  omega

@[simp] theorem padded_ne_nil (width n : Nat) : padded width n ≠ [] := by
  simp [padded]

@[simp] theorem digitsValue_padded (width n : Nat) : digitsValue (padded width n) = n := by
  show Nat.ofDigitChars 10 (padded width n) 0 = n
  simp [padded, Nat.ofDigitChars_append]

theorem toDigits_of_isDigit {c : Char} (h : c.isDigit = true) :
    Nat.toDigits 10 (c.toNat - 48) = [c] := by
  have hrange := isDigit_iff_toNat.mp h
  have hall : ∀ d, d < 10 → Nat.toDigits 10 d = [Char.ofNat (48 + d)] := by decide
  have hsum : 48 + (c.toNat - 48) = c.toNat := by omega
  rw [hall _ (by omega), hsum, Char.ofNat_toNat]

theorem digitsValue_concat (ds : List Char) (c : Char) :
    digitsValue (ds ++ [c]) = 10 * digitsValue ds + (c.toNat - 48) := by
  simp [digitsValue]

/- A digit more is a digit more on both sides. While the number is zero, there is nothing but zeros. -/
theorem padded_digitsValue {ds : List Char} (hne : ds ≠ []) (h : ∀ c ∈ ds, c.isDigit = true) :
    padded ds.length (digitsValue ds) = ds := by
  induction ds using List.reverseRecOn with
  | nil => exact absurd rfl hne
  | append_singleton ds c ih =>
    have hc : Nat.toDigits 10 (c.toNat - 48) = [c] := toDigits_of_isDigit (h c (by simp))
    have hlt : c.toNat - 48 < 10 := by
      have := isDigit_iff_toNat.mp (h c (by simp))
      omega
    rw [digitsValue_concat]
    by_cases hds : ds = []
    · subst hds
      simp [padded, digitsValue, hc]
    · have ih : padded ds.length (digitsValue ds) = ds := ih hds fun d hd => h d (by simp [hd])
      have hlength : 0 < ds.length := List.length_pos_iff.mpr hds
      by_cases hzero : digitsValue ds = 0
      · have hzeros : List.replicate ds.length '0' = ds := by
          rw [hzero] at ih
          have hsucc : ds.length = ds.length - 1 + 1 := by omega
          rw [hsucc, List.replicate_succ']
          simpa [padded] using ih
        rw [hzero]
        simp [padded, hc, hzeros]
      · have hdigits : Nat.toDigits 10 (10 * digitsValue ds + (c.toNat - 48)) =
            Nat.toDigits 10 (digitsValue ds) ++ [c] := by
          rw [← hc]
          exact (Nat.toDigits_append_toDigits (by decide) (Nat.pos_of_ne_zero hzero) hlt).symm
        have hpad : List.replicate (ds.length - (Nat.toDigits 10 (digitsValue ds)).length) '0' ++
            Nat.toDigits 10 (digitsValue ds) = ds := ih
        simp [padded, hdigits, ← List.append_assoc, hpad]

namespace IsoText

@[simp] theorem number?_padded (width n : Nat) : number? (padded width n) = some n := by
  have hall : (padded width n).all Char.isDigit = true :=
    List.all_eq_true.mpr fun _ hc => isDigit_of_mem_padded hc
  simp [number?, hall]

theorem digits_padded {width limit n : Nat} (h : n ≤ limit)
    (hlimit : (Nat.toDigits 10 limit).length ≤ width := by decide) : Digits width (padded width n) :=
  ⟨length_padded h hlimit, fun _ hc => Text.isDecimalDigit_of_isDigit (isDigit_of_mem_padded hc)⟩

/-! ### ASCII -/

def Ascii (cs : List Char) : Prop := ∀ c ∈ cs, c.toNat < 128

theorem ascii_append {as bs : List Char} : Ascii (as ++ bs) ↔ Ascii as ∧ Ascii bs :=
  List.forall_mem_append

theorem ascii_cons {c : Char} {cs : List Char} : Ascii (c :: cs) ↔ c.toNat < 128 ∧ Ascii cs :=
  List.forall_mem_cons

theorem Digits.exists_padded {width : Nat} {ds : List Char} (h : Digits (width + 1) ds) (ha : Ascii ds)
    (limit : Nat) (hlimit : width + 1 < (Nat.toDigits 10 (limit + 1)).length := by decide) :
    ∃ n, ds = padded (width + 1) n ∧ n ≤ limit := by
  have hdigits : ∀ c ∈ ds, c.isDigit = true := fun c hc => isDigit_of_ascii (h.2 c hc) (ha c hc)
  have hpadded : padded (width + 1) (digitsValue ds) = ds := by
    rw [← h.1]
    exact padded_digitsValue h.ne_nil hdigits
  refine ⟨digitsValue ds, hpadded.symm, ?_⟩
  by_contra hlarge
  -- A number beyond the limit has too many digits.
  have hmono : (Nat.toDigits 10 (limit + 1)).length ≤ _ := length_toDigits_mono (Nat.lt_of_not_le hlarge)
  have hlength := congrArg List.length hpadded
  have hds := h.1
  simp only [padded, List.length_append, List.length_replicate] at hlength
  omega

/-! ### Ranges -/

theorem calendarDay_of_hasDay {t : IsoText} (h : t.hasDay = true) {year month day : Nat}
    (hy : number? t.year = some year) (hm : number? t.month = some month)
    (hd : (number? t.day).getD 1 = day) : CalendarDay year month day := by
  rw [← isValid_iff, ← hd]
  simpa only [hasDay, hy, hm] using h

theorem hasDay_of_calendarDay {t : IsoText} {year month day : Nat} (h : CalendarDay year month day)
    (hy : number? t.year = some year) (hm : number? t.month = some month)
    (hd : (number? t.day).getD 1 = day) : t.hasDay = true := by
  rw [← isValid_iff, ← hd] at h
  simpa only [hasDay, hy, hm] using h

theorem hasTime_iff {t : IsoText} {hour minute second : Nat} (hh : number? t.hour = some hour)
    (hm : (number? t.minute).getD 0 = minute) (hs : (number? t.second).getD 0 = second) :
    t.hasTime = true ↔ hour ≤ 23 ∧ minute ≤ 59 ∧ second ≤ 59 := by
  simp only [hasTime, hh, hm, hs, Bool.and_eq_true, decide_eq_true_eq]
  omega

theorem hasOffset_hours {t : IsoText} {sign : Char} {h : Nat} (hs : IsSign sign)
    (ho : t.offset = sign :: padded 2 h) (hh : Digits 2 (padded 2 h)) :
    t.hasOffset = true ↔ h ≤ 23 := by
  have hcs : (padded 2 h).filter (· ≠ ':') = padded 2 h ++ [] := by
    rw [hh.filter_colon, List.append_nil]
  rw [hasOffset_parts hs ho hcs hh]
  simp [InRange, Text.takeBytes?]

/- The minutes are the same with and without a colon before them. -/
theorem hasOffset_minutes {t : IsoText} {sign : Char} {cs : List Char} {h m : Nat} (hs : IsSign sign)
    (ho : t.offset = sign :: cs) (hcs : cs.filter (· ≠ ':') = padded 2 h ++ padded 2 m)
    (hh : Digits 2 (padded 2 h)) (hm : Digits 2 (padded 2 m)) :
    t.hasOffset = true ↔ h ≤ 23 ∧ m ≤ 59 := by
  have hdigits : ∀ c ∈ padded 2 m, c.isDigit = true := fun _ hc => isDigit_of_mem_padded hc
  have hminutes : Text.takeBytes? 2 (padded 2 m) = some (padded 2 m) :=
    takeBytes?_of_isDigit hm hdigits
  rw [hasOffset_parts hs ho hcs hh, hminutes]
  simp [InRange]

/-! ### The grammar -/

/-- Times of day: an hour, and maybe a minute, a second and a fraction of it. -/
inductive ClockText : List Char → Prop
  | hour {h : Nat} : h ≤ 23 → ClockText (padded 2 h)
  | minute {h m : Nat} : h ≤ 23 → m ≤ 59 → ClockText (padded 2 h ++ ':' :: padded 2 m)
  | second {h m s : Nat} : h ≤ 23 → m ≤ 59 → s ≤ 59 →
      ClockText (padded 2 h ++ ':' :: padded 2 m ++ ':' :: padded 2 s)
  | fraction {h m s : Nat} {mark : Char} {ds : List Char} : h ≤ 23 → m ≤ 59 → s ≤ 59 →
      mark = '.' ∨ mark = ',' → ds ≠ [] → (∀ c ∈ ds, c.isDigit = true) →
      ClockText (padded 2 h ++ ':' :: padded 2 m ++ ':' :: padded 2 s ++ mark :: ds)

/-- Offsets from universal time, or none. -/
inductive OffsetText : List Char → Prop
  | none : OffsetText []
  | universal : OffsetText ['Z']
  | hours {sign : Char} {h : Nat} : sign = '+' ∨ sign = '-' → h ≤ 23 → OffsetText (sign :: padded 2 h)
  | minutes {sign : Char} {h m : Nat} : sign = '+' ∨ sign = '-' → h ≤ 23 → m ≤ 59 →
      OffsetText (sign :: padded 2 h ++ padded 2 m)
  | colon {sign : Char} {h m : Nat} : sign = '+' ∨ sign = '-' → h ≤ 23 → m ≤ 59 →
      OffsetText (sign :: padded 2 h ++ ':' :: padded 2 m)

/-- Months, days, and days with a time. A month has to have a first day. -/
inductive DateText : List Char → Prop
  | month {year month : Nat} : year ≤ 9999 → CalendarDay year month 1 →
      DateText (padded 4 year ++ '-' :: padded 2 month)
  | day {year month day : Nat} : year ≤ 9999 → CalendarDay year month day →
      DateText (padded 4 year ++ '-' :: padded 2 month ++ '-' :: padded 2 day)
  | time {year month day : Nat} {mark : Char} {clock offset : List Char} : year ≤ 9999 →
      CalendarDay year month day → mark = 'T' ∨ mark = ' ' → ClockText clock → OffsetText offset →
      DateText (padded 4 year ++ '-' :: padded 2 month ++ '-' :: padded 2 day ++ mark :: clock ++ offset)

/-! ### Parts in range -/

theorem offsetText_of_hasOffset {t : IsoText} (h : OffsetForm t.offset) (ha : Ascii t.offset)
    (hin : t.hasOffset = true) : OffsetText t.offset := by
  generalize ho : t.offset = offset at h ha
  cases h with
  | none => exact .none
  | universal => exact .universal
  | hours hs hh =>
    obtain ⟨n, rfl, -⟩ := hh.exists_padded (ascii_cons.mp ha).2 99
    exact .hours hs ((hasOffset_hours hs ho hh).mp hin)
  | minutes hs hh hm =>
    obtain ⟨hah, ham⟩ := ascii_append.mp (ascii_cons.mp ha).2
    obtain ⟨n, rfl, -⟩ := hh.exists_padded hah 99
    obtain ⟨k, rfl, -⟩ := hm.exists_padded ham 99
    have hrange := (hasOffset_minutes hs ho (filter_colon_append hh hm) hh hm).mp hin
    exact .minutes hs hrange.1 hrange.2
  | colon hs hh hm =>
    obtain ⟨hah, ham⟩ := ascii_append.mp (ascii_cons.mp ha).2
    obtain ⟨n, rfl, -⟩ := hh.exists_padded hah 99
    obtain ⟨k, rfl, -⟩ := hm.exists_padded (ascii_cons.mp ham).2 99
    have hrange := (hasOffset_minutes hs ho (filter_colon_between hh hm) hh hm).mp hin
    exact .colon hs hrange.1 hrange.2

theorem OffsetText.form {offset : List Char} (h : OffsetText offset) : OffsetForm offset := by
  cases h with
  | none => exact .none
  | universal => exact .universal
  | hours hs hh => exact .hours hs (digits_padded hh)
  | minutes hs hh hm => exact .minutes hs (digits_padded hh) (digits_padded hm)
  | colon hs hh hm => exact .colon hs (digits_padded hh) (digits_padded hm)

theorem OffsetText.hasOffset {t : IsoText} (h : OffsetText t.offset) : t.hasOffset = true := by
  generalize ho : t.offset = offset at h
  cases h with
  | none => simp [IsoText.hasOffset, ho]
  | universal => simp [IsoText.hasOffset, ho]
  | hours hs hh => exact (hasOffset_hours hs ho (digits_padded hh)).mpr hh
  | @minutes sign h m hs hh hm =>
    have hhours : Digits 2 (padded 2 h) := digits_padded hh
    have hminutes : Digits 2 (padded 2 m) := digits_padded hm
    have hcs := filter_colon_append hhours hminutes
    exact (hasOffset_minutes hs ho hcs hhours hminutes).mpr ⟨hh, hm⟩
  | @colon sign h m hs hh hm =>
    have hhours : Digits 2 (padded 2 h) := digits_padded hh
    have hminutes : Digits 2 (padded 2 m) := digits_padded hm
    have hcs := filter_colon_between hhours hminutes
    exact (hasOffset_minutes hs ho hcs hhours hminutes).mpr ⟨hh, hm⟩

theorem getD_number? {ds : List Char} {n : Nat} (h : ds = padded 2 n) (default : Nat) :
    (number? ds).getD default = n := by
  rw [h, number?_padded]
  rfl

theorem getD_number?_nil {ds : List Char} (h : ds = []) (default : Nat) :
    (number? ds).getD default = default := by
  rw [h]
  rfl

theorem clockText_of_hasTime {t : IsoText} {clock : List Char} (hh : Digits 2 t.hour)
    (h : ClockForm t.minute t.second clock) (ha : Ascii (t.hour ++ clock)) (hin : t.hasTime = true) :
    ClockText (t.hour ++ clock) := by
  obtain ⟨hah, hac⟩ := ascii_append.mp ha
  obtain ⟨n, hhour, -⟩ := hh.exists_padded hah 99
  have hn : number? t.hour = some n := by rw [hhour, number?_padded]
  rw [hhour]
  generalize hminute : t.minute = minute at h
  generalize hsecond : t.second = second at h
  cases h with
  | hour =>
    have hrange := (hasTime_iff hn rfl rfl).mp hin
    rw [List.append_nil]
    exact .hour hrange.1
  | minute hm =>
    obtain ⟨k, hk, -⟩ := hm.exists_padded (ascii_cons.mp hac).2 99
    subst hk
    have hrange := (hasTime_iff hn (getD_number? hminute 0) (getD_number?_nil hsecond 0)).mp hin
    exact .minute hrange.1 hrange.2.1
  | second hm hs =>
    obtain ⟨ham, has⟩ := ascii_append.mp hac
    obtain ⟨k, rfl, -⟩ := hm.exists_padded (ascii_cons.mp ham).2 99
    obtain ⟨l, rfl, -⟩ := hs.exists_padded (ascii_cons.mp has).2 99
    have hrange := (hasTime_iff hn (getD_number? hminute 0) (getD_number? hsecond 0)).mp hin
    simpa using ClockText.second hrange.1 hrange.2.1 hrange.2.2
  | fraction hm hs hmark hne hds =>
    obtain ⟨hams, had⟩ := ascii_append.mp hac
    obtain ⟨ham, has⟩ := ascii_append.mp hams
    obtain ⟨k, rfl, -⟩ := hm.exists_padded (ascii_cons.mp ham).2 99
    obtain ⟨l, rfl, -⟩ := hs.exists_padded (ascii_cons.mp has).2 99
    have hrange := (hasTime_iff hn (getD_number? hminute 0) (getD_number? hsecond 0)).mp hin
    have hdigits := fun c hc => isDigit_of_ascii (hds c hc) ((ascii_cons.mp had).2 c hc)
    simpa using ClockText.fraction hrange.1 hrange.2.1 hrange.2.2 hmark hne hdigits

theorem ClockText.form {text : List Char} (h : ClockText text) :
    ∃ hour minute second clock, text = hour ++ clock ∧ Digits 2 hour ∧
      ClockForm minute second clock ∧
      ∀ t : IsoText, t.hour = hour → t.minute = minute → t.second = second → t.hasTime = true := by
  cases h with
  | hour hh =>
    refine ⟨_, [], [], [], (List.append_nil _).symm, digits_padded hh, .hour, ?_⟩
    intro t ht hm hs
    have hn := ht ▸ number?_padded 2 _
    exact (hasTime_iff hn (getD_number?_nil hm 0) (getD_number?_nil hs 0)).mpr (by omega)
  | minute hh hm =>
    refine ⟨_, _, [], _, rfl, digits_padded hh, .minute (digits_padded hm), ?_⟩
    intro t ht hm hs
    have hn := ht ▸ number?_padded 2 _
    exact (hasTime_iff hn (getD_number? hm 0) (getD_number?_nil hs 0)).mpr (by omega)
  | second hh hm hs =>
    refine ⟨_, _, _, _, List.append_assoc .., digits_padded hh,
      .second (digits_padded hm) (digits_padded hs), ?_⟩
    intro t ht hm hs
    have hn := ht ▸ number?_padded 2 _
    exact (hasTime_iff hn (getD_number? hm 0) (getD_number? hs 0)).mpr (by omega)
  | fraction hh hm hs hmark hne hds =>
    rename_i h m s mark ds
    have hdigits := fun c hc => Text.isDecimalDigit_of_isDigit (hds c hc)
    have hform := ClockForm.fraction (digits_padded hm) (digits_padded hs) hmark hne hdigits
    refine ⟨padded 2 h, _, _, _, ?_, digits_padded hh, hform, ?_⟩
    · simp
    · intro t ht hm hs
      have hn := ht ▸ number?_padded 2 _
      exact (hasTime_iff hn (getD_number? hm 0) (getD_number? hs 0)).mpr (by omega)

/-! ### Dates -/

theorem dateText_of_form {t : IsoText} {cs : List Char} (h : Form t cs) (ha : Ascii cs)
    (hday : t.hasDay = true) (htime : t.hasTime = true) (hoffset : t.hasOffset = true) :
    DateText cs := by
  cases h with
  | month hy hm =>
    obtain ⟨hay, ham⟩ := ascii_append.mp ha
    obtain ⟨y, rfl, hyear⟩ := hy.exists_padded hay 9999
    obtain ⟨m, rfl, -⟩ := hm.exists_padded (ascii_cons.mp ham).2 99
    exact .month hyear (calendarDay_of_hasDay hday (number?_padded 4 y) (number?_padded 2 m) rfl)
  | day hy hm hd =>
    obtain ⟨haym, had⟩ := ascii_append.mp ha
    obtain ⟨hay, ham⟩ := ascii_append.mp haym
    obtain ⟨y, rfl, hyear⟩ := hy.exists_padded hay 9999
    obtain ⟨m, rfl, -⟩ := hm.exists_padded (ascii_cons.mp ham).2 99
    obtain ⟨d, rfl, -⟩ := hd.exists_padded (ascii_cons.mp had).2 99
    have hexists :=
      calendarDay_of_hasDay hday (number?_padded 4 y) (number?_padded 2 m) (getD_number? rfl 1)
    exact .day hyear hexists
  | time hy hm hd hmark hh hclock ho =>
    obtain ⟨harest, hao⟩ := ascii_append.mp ha
    obtain ⟨harest, hac⟩ := ascii_append.mp harest
    obtain ⟨harest, hah⟩ := ascii_append.mp harest
    obtain ⟨haym, had⟩ := ascii_append.mp harest
    obtain ⟨hay, ham⟩ := ascii_append.mp haym
    obtain ⟨y, rfl, hyear⟩ := hy.exists_padded hay 9999
    obtain ⟨m, rfl, -⟩ := hm.exists_padded (ascii_cons.mp ham).2 99
    obtain ⟨d, rfl, -⟩ := hd.exists_padded (ascii_cons.mp had).2 99
    have hexists :=
      calendarDay_of_hasDay hday (number?_padded 4 y) (number?_padded 2 m) (getD_number? rfl 1)
    have hclocktext := clockText_of_hasTime hh hclock
      (ascii_append.mpr ⟨(ascii_cons.mp hah).2, hac⟩) htime
    have hoffsettext := offsetText_of_hasOffset ho hao hoffset
    simpa using DateText.time hyear hexists hmark hclocktext hoffsettext

theorem DateText.form {cs : List Char} (h : DateText cs) :
    ∃ t, Form t cs ∧ t.hasDay = true ∧ t.hasTime = true ∧ t.hasOffset = true := by
  cases h with
  | month hy hd =>
    refine ⟨_, .month (digits_padded hy) (digits_padded hd.month_mem.2), ?_, rfl, rfl⟩
    exact hasDay_of_calendarDay hd (number?_padded 4 _) (number?_padded 2 _) rfl
  | day hy hd =>
    refine ⟨_, .day (digits_padded hy) (digits_padded hd.month_mem.2) (digits_padded hd.day_mem.2), ?_,
      rfl, rfl⟩
    exact hasDay_of_calendarDay hd (number?_padded 4 _) (number?_padded 2 _) (getD_number? rfl 1)
  | time hy hd hmark hclock hoffset =>
    obtain ⟨hour, minute, second, clock, rfl, hh, hform, htime⟩ := hclock.form
    have hall := Form.time (digits_padded hy) (digits_padded hd.month_mem.2) (digits_padded hd.day_mem.2)
      hmark hh hform hoffset.form
    refine ⟨_, by simpa using hall, ?_, htime _ rfl rfl rfl, OffsetText.hasOffset hoffset⟩
    exact hasDay_of_calendarDay hd (number?_padded 4 _) (number?_padded 2 _) (getD_number? rfl 1)

end IsoText

/-- An ASCII text is taken for a date exactly if it is one: a month, a day, or a day with a time and
maybe an offset, all of them in the ranges of the calendar and the clock. -/
theorem isIsoDate_iff_dateText (s : String) (hascii : ∀ c ∈ s.toList, c.toNat < 128) :
    isIsoDate s = true ↔ IsoText.DateText s.toList := by
  rw [isIsoDate_iff_form]
  constructor
  · rintro ⟨t, hform, hday, htime, hoffset⟩
    exact IsoText.dateText_of_form hform hascii hday htime hoffset
  · exact IsoText.DateText.form

theorem isIsoDate_iff_dateText_leap_day :
    let s := "2024-02-29 23:59:59,5+0530"
    let s' := "1900-02-29"
    ((∀ c ∈ s.toList, c.toNat < 128) ∧ IsoText.DateText s.toList) ∧
      (∀ c ∈ s'.toList, c.toNat < 128) ∧ ¬ IsoText.DateText s'.toList := by
  intro s s'
  have hs : ∀ c ∈ s.toList, c.toNat < 128 := by simp [s]
  have hs' : ∀ c ∈ s'.toList, c.toNat < 128 := by simp [s']
  refine ⟨⟨hs, (isIsoDate_iff_dateText s hs).mp (by decide)⟩, hs', fun h => ?_⟩
  exact absurd ((isIsoDate_iff_dateText s' hs').mpr h) (by decide)

end SoqlSelect
