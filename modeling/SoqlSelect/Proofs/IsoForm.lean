import SoqlSelect.Calendar.IsoText

/-!
# The form of dates

The form of a date as a grammar, beside the reader of its parts: which characters stand where, with the
decimal digits of every script. The main statement says that the reader finds parts in a text exactly if
the grammar puts the text together from them. What else is said about the reader follows from the grammar.
-/

namespace SoqlSelect

namespace IsoText

/-- That many decimal digits. -/
def Digits (n : Nat) (ds : List Char) : Prop :=
  ds.length = n ∧ ∀ c ∈ ds, Text.isDecimalDigit c = true

def IsSign (c : Char) : Prop := c = '+' ∨ c = '-'

/-- The text behind an hour, with the minute and the second in it. -/
inductive ClockForm : List Char → List Char → List Char → Prop
  | hour : ClockForm [] [] []
  | minute {m : List Char} : Digits 2 m → ClockForm m [] (':' :: m)
  | second {m s : List Char} : Digits 2 m → Digits 2 s → ClockForm m s (':' :: m ++ ':' :: s)
  | fraction {m s ds : List Char} {mark : Char} : Digits 2 m → Digits 2 s → mark = '.' ∨ mark = ',' →
      ds ≠ [] → (∀ c ∈ ds, Text.isDecimalDigit c = true) →
      ClockForm m s (':' :: m ++ ':' :: s ++ mark :: ds)

inductive OffsetForm : List Char → Prop
  | none : OffsetForm []
  | universal : OffsetForm ['Z']
  | hours {sign : Char} {h : List Char} : IsSign sign → Digits 2 h → OffsetForm (sign :: h)
  | minutes {sign : Char} {h m : List Char} : IsSign sign → Digits 2 h → Digits 2 m →
      OffsetForm (sign :: h ++ m)
  | colon {sign : Char} {h m : List Char} : IsSign sign → Digits 2 h → Digits 2 m →
      OffsetForm (sign :: h ++ ':' :: m)

/-- The text is put together from the parts. -/
inductive Form : IsoText → List Char → Prop
  | month {year month : List Char} : Digits 4 year → Digits 2 month →
      Form { year, month } (year ++ '-' :: month)
  | day {year month day : List Char} : Digits 4 year → Digits 2 month → Digits 2 day →
      Form { year, month, day } (year ++ '-' :: month ++ '-' :: day)
  | time {year month day hour minute second clock offset : List Char} {mark : Char} :
      Digits 4 year → Digits 2 month → Digits 2 day → mark = 'T' ∨ mark = ' ' → Digits 2 hour →
      ClockForm minute second clock → OffsetForm offset →
      Form { year, month, day, hour, minute, second, offset }
        (year ++ '-' :: month ++ '-' :: day ++ mark :: hour ++ clock ++ offset)

/-! ### Digits -/

theorem digits_of_digits? {n : Nat} {cs ds rest : List Char} (h : digits? n cs = some (ds, rest)) :
    Digits n ds ∧ cs = ds ++ rest := by
  simp only [digits?] at h
  split at h
  · rename_i hds
    obtain ⟨rfl, rfl⟩ := Prod.mk.inj (Option.some.inj h)
    exact ⟨⟨hds.1, List.all_eq_true.mp hds.2⟩, (List.take_append_drop n cs).symm⟩
  · cases h

theorem Digits.digits?_append {n : Nat} {ds : List Char} (h : Digits n ds) (rest : List Char) :
    digits? n (ds ++ rest) = some (ds, rest) := by
  have htake : (ds ++ rest).take n = ds := by simp [← h.1]
  have hdrop : (ds ++ rest).drop n = rest := by simp [← h.1]
  have hall : ds.all Text.isDecimalDigit = true := List.all_eq_true.mpr h.2
  simp [digits?, htake, hdrop, h.1, hall]

theorem Digits.digits?_eq {n : Nat} {ds : List Char} (h : Digits n ds) :
    digits? n ds = some (ds, []) := by
  simpa using h.digits?_append []

theorem Digits.ne_nil {n : Nat} {ds : List Char} (h : Digits (n + 1) ds) : ds ≠ [] := by
  rintro rfl
  have := h.1
  simp at this

/-! ### Offsets -/

theorem OffsetForm.head {cs : List Char} (h : OffsetForm cs) :
    cs = [] ∨ ∃ c rest, cs = c :: rest ∧ (c = 'Z' ∨ IsSign c) := by
  cases h with
  | none => exact .inl rfl
  | universal => exact .inr ⟨_, _, rfl, .inl rfl⟩
  | hours hs _ => exact .inr ⟨_, _, rfl, .inr hs⟩
  | minutes hs _ _ => exact .inr ⟨_, _, rfl, .inr hs⟩
  | colon hs _ _ => exact .inr ⟨_, _, rfl, .inr hs⟩

/- So an offset does not go on with what may stand before it: a minute, a second or a fraction. -/
theorem OffsetForm.head_ne {cs : List Char} (h : OffsetForm cs) {p : Char → Bool} (hz : p 'Z' = false)
    (hplus : p '+' = false) (hminus : p '-' = false) : ∀ c rest, cs = c :: rest → p c = false := by
  rintro c rest rfl
  rcases h.head with hnil | ⟨d, others, hd, hmark⟩
  · cases hnil
  · obtain ⟨rfl, -⟩ := List.cons.inj hd
    rcases hmark with rfl | rfl | rfl
    · exact hz
    · exact hplus
    · exact hminus

theorem offsetForm_of_isOffset {cs : List Char} (h : isOffset cs = true) : OffsetForm cs := by
  have hlast : ∀ {cs : List Char}, ((digits? 2 cs).map (·.2) == some []) = true → Digits 2 cs := by
    intro cs hd
    obtain ⟨⟨ds, rest⟩, hd, hr⟩ := Option.map_eq_some_iff.mp (beq_iff_eq.mp hd)
    obtain ⟨hds, rfl⟩ := digits_of_digits? hd
    rw [show rest = [] from hr, List.append_nil]
    exact hds
  unfold isOffset at h
  split at h
  · exact .universal
  · rename_i sign cs _
    obtain ⟨hsign, hmore⟩ := Bool.and_eq_true_iff.mp h
    have hs : IsSign sign := by simpa [IsSign] using hsign
    split at hmore
    · rename_i hd
      obtain ⟨hh, rfl⟩ := digits_of_digits? hd
      rw [List.append_nil]
      exact .hours hs hh
    · rename_i hd
      obtain ⟨hh, rfl⟩ := digits_of_digits? hd
      exact .colon hs hh (hlast hmore)
    · rename_i hd
      obtain ⟨hh, rfl⟩ := digits_of_digits? hd
      exact .minutes hs hh (hlast hmore)
    · cases hmore
  · cases h

theorem isOffset_sign {sign : Char} (hs : IsSign sign) (cs : List Char) :
    isOffset (sign :: cs) = match digits? 2 cs with
      | some (_, []) => true
      | some (_, ':' :: cs) => (digits? 2 cs).map (·.2) == some []
      | some (_, cs) => (digits? 2 cs).map (·.2) == some []
      | none => false := by
  rcases hs with rfl | rfl <;> rfl

theorem OffsetForm.isOffset {cs : List Char} (h : OffsetForm cs) (hne : cs ≠ []) :
    IsoText.isOffset cs = true := by
  cases h with
  | none => exact absurd rfl hne
  | universal => rfl
  | hours hs hh => simp [isOffset_sign hs, hh.digits?_eq]
  | minutes hs hh hm =>
    -- The minutes begin with a digit, so that no colon is seen.
    rename_i sign h m
    obtain ⟨c, others, rfl⟩ := List.exists_cons_of_ne_nil hm.ne_nil
    have hc : c ≠ ':' := ne_of_class (hm.2 c List.mem_cons_self) (by decide)
    rw [List.cons_append, isOffset_sign hs, hh.digits?_append]
    simp [hc, hm.digits?_eq]
  | colon hs hh hm =>
    rw [List.cons_append, isOffset_sign hs, hh.digits?_append]
    simp [hm.digits?_eq]

/-! ### Clock times -/

theorem afterFraction?_eq_some {cs rest : List Char} (h : afterFraction? cs = some rest) :
    cs = rest ∨ ∃ mark ds, (mark = '.' ∨ mark = ',') ∧ ds ≠ [] ∧
      (∀ c ∈ ds, Text.isDecimalDigit c = true) ∧ cs = mark :: ds ++ rest := by
  cases cs with
  | nil => exact .inl (Option.some.inj h)
  | cons c cs =>
    simp only [afterFraction?] at h
    split at h
    · rename_i hmark
      split at h
      · cases h
      · rename_i hne
        refine .inr ⟨c, cs.takeWhile Text.isDecimalDigit, hmark, by simpa using hne,
          List.all_eq_true.mp List.all_takeWhile, ?_⟩
        rw [← Option.some.inj h, List.cons_append, List.takeWhile_append_dropWhile]
    · exact .inl (Option.some.inj h)

theorem clockForm_of_minuteAndSecond? {cs minute second rest : List Char}
    (h : minuteAndSecond? cs = some ((minute, second), rest)) :
    ∃ clock, ClockForm minute second clock ∧ cs = clock ++ rest := by
  unfold minuteAndSecond? at h
  split at h
  · obtain ⟨⟨m, cs₁⟩, hm, hmore⟩ := Option.bind_eq_some_iff.mp h
    obtain ⟨hminute, rfl⟩ := digits_of_digits? hm
    dsimp only at hmore
    split at hmore
    · obtain ⟨⟨s, cs₂⟩, hs, hlast⟩ := Option.bind_eq_some_iff.mp hmore
      obtain ⟨hsecond, rfl⟩ := digits_of_digits? hs
      obtain ⟨last, hf, heq⟩ := Option.bind_eq_some_iff.mp hlast
      simp only [Option.pure_def, Option.some.injEq, Prod.mk.injEq] at heq
      obtain ⟨⟨rfl, rfl⟩, rfl⟩ := heq
      rcases afterFraction?_eq_some hf with rfl | ⟨mark, ds, hmark, hne, hds, rfl⟩
      · exact ⟨_, .second hminute hsecond, by simp⟩
      · exact ⟨_, .fraction hminute hsecond hmark hne hds, by simp⟩
    · simp only [Option.pure_def, Option.some.injEq, Prod.mk.injEq] at hmore
      obtain ⟨⟨rfl, rfl⟩, rfl⟩ := hmore
      exact ⟨_, .minute hminute, rfl⟩
  · simp only [Option.some.injEq, Prod.mk.injEq] at h
    obtain ⟨⟨rfl, rfl⟩, rfl⟩ := h
    exact ⟨_, .hour, rfl⟩

theorem afterFraction?_offset {cs : List Char} (h : OffsetForm cs) : afterFraction? cs = some cs := by
  cases cs with
  | nil => rfl
  | cons c rest =>
    have hc : (c == '.' || c == ',') = false :=
      h.head_ne (p := fun c => c == '.' || c == ',') rfl rfl rfl c rest rfl
    have hmark : ¬ (c = '.' ∨ c = ',') := by simpa using hc
    simp only [afterFraction?, if_neg hmark]

theorem afterFraction?_fraction {mark : Char} {ds cs : List Char} (hmark : mark = '.' ∨ mark = ',')
    (hne : ds ≠ []) (hds : ∀ c ∈ ds, Text.isDecimalDigit c = true) (h : OffsetForm cs) :
    afterFraction? (mark :: ds ++ cs) = some cs := by
  have hcs : cs.takeWhile Text.isDecimalDigit = [] ∧ cs.dropWhile Text.isDecimalDigit = cs := by
    cases cs with
    | nil => exact ⟨rfl, rfl⟩
    | cons c rest =>
      have hc : Text.isDecimalDigit c = false :=
        h.head_ne (by decide) (by decide) (by decide) c rest rfl
      simp [hc]
  have htake : (ds ++ cs).takeWhile Text.isDecimalDigit = ds := by
    rw [List.takeWhile_append_of_pos hds, hcs.1, List.append_nil]
  have hdrop : (ds ++ cs).dropWhile Text.isDecimalDigit = cs := by
    rw [List.dropWhile_append_of_pos hds, hcs.2]
  simp [afterFraction?, hmark, htake, hdrop, hne]

theorem minuteAndSecond?_offset {cs : List Char} (h : OffsetForm cs) :
    minuteAndSecond? cs = some (([], []), cs) := by
  cases cs with
  | nil => rfl
  | cons c rest =>
    have hc : (c == ':') = false := h.head_ne (p := (· == ':')) rfl rfl rfl c rest rfl
    have hcolon : c ≠ ':' := by simpa using hc
    simp [minuteAndSecond?, hcolon]

theorem minuteAndSecond?_minute {m cs : List Char} (hm : Digits 2 m) (h : OffsetForm cs) :
    minuteAndSecond? (':' :: (m ++ cs)) = some ((m, []), cs) := by
  have hcolon : ∀ c rest, cs = c :: rest → (c == ':') = false := h.head_ne rfl rfl rfl
  rw [minuteAndSecond?, hm.digits?_append]
  cases cs with
  | nil => rfl
  | cons c rest =>
    have hc : c ≠ ':' := by simpa using hcolon c rest rfl
    simp [hc]

theorem minuteAndSecond?_second {m s : List Char} (hm : Digits 2 m) (hs : Digits 2 s)
    (cs : List Char) : minuteAndSecond? (':' :: (m ++ ':' :: (s ++ cs))) =
      (afterFraction? cs).map fun rest => ((m, s), rest) := by
  rw [minuteAndSecond?, hm.digits?_append]
  cases h : afterFraction? cs with
  | none => simp [hs.digits?_append, h]
  | some rest => simp [hs.digits?_append, h]

theorem ClockForm.minuteAndSecond? {minute second clock offset : List Char}
    (h : ClockForm minute second clock) (ho : OffsetForm offset) :
    IsoText.minuteAndSecond? (clock ++ offset) = some ((minute, second), offset) := by
  cases h with
  | hour => exact minuteAndSecond?_offset ho
  | minute hm => exact minuteAndSecond?_minute hm ho
  | second hm hs =>
    have hread := minuteAndSecond?_second hm hs offset
    rw [afterFraction?_offset ho] at hread
    simpa using hread
  | fraction hm hs hmark hne hds =>
    rename_i ds mark
    have hread := minuteAndSecond?_second hm hs (mark :: ds ++ offset)
    rw [afterFraction?_fraction hmark hne hds ho] at hread
    simpa using hread

/-! ### Texts -/

theorem after?_eq_some {isMark : Char → Bool} {cs rest : List Char}
    (h : after? isMark cs = some rest) : ∃ c, isMark c = true ∧ cs = c :: rest := by
  cases cs with
  | nil => cases h
  | cons c cs =>
    simp only [after?] at h
    split at h
    · rename_i hc
      exact ⟨c, hc, by rw [Option.some.inj h]⟩
    · cases h

theorem form_of_parse? {cs : List Char} {t : IsoText} (h : parse? cs = some t) : Form t cs := by
  unfold parse? at h
  obtain ⟨⟨year, cs₁⟩, hy, h₁⟩ := Option.bind_eq_some_iff.mp h
  obtain ⟨cs₂, hy', h₂⟩ := Option.bind_eq_some_iff.mp h₁
  obtain ⟨⟨month, cs₃⟩, hm, h₃⟩ := Option.bind_eq_some_iff.mp h₂
  obtain ⟨hyear, rfl⟩ := digits_of_digits? hy
  obtain ⟨c, hc, rfl⟩ := after?_eq_some hy'
  obtain rfl := beq_iff_eq.mp hc
  obtain ⟨hmonth, rfl⟩ := digits_of_digits? hm
  dsimp only at h₃
  split at h₃
  · rename_i he
    rw [List.isEmpty_iff.mp he, List.append_nil, ← Option.some.inj h₃]
    exact .month hyear hmonth
  · obtain ⟨cs₄, hm', h₄⟩ := Option.bind_eq_some_iff.mp h₃
    obtain ⟨⟨day, cs₅⟩, hd, h₅⟩ := Option.bind_eq_some_iff.mp h₄
    obtain ⟨c, hc, rfl⟩ := after?_eq_some hm'
    obtain rfl := beq_iff_eq.mp hc
    obtain ⟨hday, rfl⟩ := digits_of_digits? hd
    dsimp only at h₅
    split at h₅
    · rename_i he
      rw [List.isEmpty_iff.mp he, List.append_nil, ← Option.some.inj h₅]
      simpa using Form.day hyear hmonth hday
    · obtain ⟨cs₆, hd', h₆⟩ := Option.bind_eq_some_iff.mp h₅
      obtain ⟨⟨hour, cs₇⟩, hh, h₇⟩ := Option.bind_eq_some_iff.mp h₆
      obtain ⟨⟨⟨minute, second⟩, offset⟩, hs, h₈⟩ := Option.bind_eq_some_iff.mp h₇
      obtain ⟨mark, hmark, rfl⟩ := after?_eq_some hd'
      obtain ⟨hhour, rfl⟩ := digits_of_digits? hh
      obtain ⟨clock, hclock, rfl⟩ := clockForm_of_minuteAndSecond? hs
      dsimp only at h₈
      split at h₈
      · rename_i ho
        have hoffset : OffsetForm offset := by
          rcases Bool.or_eq_true_iff.mp ho with ho | ho
          · rw [List.isEmpty_iff.mp ho]
            exact .none
          · exact offsetForm_of_isOffset ho
        have hmark : mark = 'T' ∨ mark = ' ' := by simpa using hmark
        rw [← Option.some.inj h₈]
        simpa using Form.time hyear hmonth hday hmark hhour hclock hoffset
      · cases h₈

theorem parse?_of_form {cs : List Char} {t : IsoText} (h : Form t cs) : parse? cs = some t := by
  cases h with
  | month hy hm => simp [parse?, hy.digits?_append, hm.digits?_eq, after?]
  | day hy hm hd => simp [parse?, hy.digits?_append, hm.digits?_append, hd.digits?_eq, after?]
  | time hy hm hd hmark hh hclock hoffset =>
    have hclock := hclock.minuteAndSecond? hoffset
    simpa [parse?, hy.digits?_append, hm.digits?_append, hd.digits?_append, hh.digits?_append, after?,
      hmark, hclock] using hoffset.isOffset

/-- The reader finds the parts exactly in the texts that are put together from them. -/
theorem parse?_eq_some_iff {cs : List Char} {t : IsoText} : parse? cs = some t ↔ Form t cs :=
  ⟨form_of_parse?, parse?_of_form⟩

/-! ### Characters -/

/-- The characters of the form: the decimal digits of every script, and the marks of ISO 8601. -/
def isFormChar (c : Char) : Bool := Text.isDecimalDigit c || "-:.,+TZ ".toList.contains c

theorem isFormChar_of_isDecimalDigit {c : Char} (h : Text.isDecimalDigit c = true) :
    isFormChar c = true := by
  simp [isFormChar, h]

theorem Digits.formChars {n : Nat} {ds : List Char} (h : Digits n ds) :
    ∀ c ∈ ds, isFormChar c = true :=
  fun c hc => isFormChar_of_isDecimalDigit (h.2 c hc)

theorem ClockForm.formChars {minute second clock : List Char} (h : ClockForm minute second clock) :
    ∀ c ∈ clock, isFormChar c = true := by
  have hcolon : isFormChar ':' = true := rfl
  cases h with
  | hour => simp
  | minute hm => exact List.forall_mem_cons.mpr ⟨hcolon, hm.formChars⟩
  | second hm hs =>
    simp only [List.forall_mem_append, List.forall_mem_cons]
    exact ⟨⟨hcolon, hm.formChars⟩, hcolon, hs.formChars⟩
  | fraction hm hs hmark hne hds =>
    rename_i ds mark
    have hmark : isFormChar mark = true := by rcases hmark with rfl | rfl <;> rfl
    simp only [List.forall_mem_append, List.forall_mem_cons]
    exact ⟨⟨⟨hcolon, hm.formChars⟩, hcolon, hs.formChars⟩, hmark,
      fun c hc => isFormChar_of_isDecimalDigit (hds c hc)⟩

theorem OffsetForm.formChars {offset : List Char} (h : OffsetForm offset) :
    ∀ c ∈ offset, isFormChar c = true := by
  have hsign {sign : Char} (hs : IsSign sign) : isFormChar sign = true := by
    rcases hs with rfl | rfl <;> rfl
  cases h with
  | none => simp
  | universal =>
    simp only [List.forall_mem_cons]
    exact ⟨rfl, by simp⟩
  | hours hs hh => exact List.forall_mem_cons.mpr ⟨hsign hs, hh.formChars⟩
  | minutes hs hh hm =>
    simp only [List.forall_mem_append, List.forall_mem_cons]
    exact ⟨⟨hsign hs, hh.formChars⟩, hm.formChars⟩
  | colon hs hh hm =>
    simp only [List.forall_mem_append, List.forall_mem_cons]
    exact ⟨⟨hsign hs, hh.formChars⟩, rfl, hm.formChars⟩

/-- A text in the form has no other characters. -/
theorem Form.formChars {t : IsoText} {cs : List Char} (h : Form t cs) :
    ∀ c ∈ cs, isFormChar c = true := by
  have hhyphen : isFormChar '-' = true := rfl
  cases h with
  | month hy hm =>
    simp only [List.forall_mem_append, List.forall_mem_cons]
    exact ⟨hy.formChars, hhyphen, hm.formChars⟩
  | day hy hm hd =>
    simp only [List.forall_mem_append, List.forall_mem_cons]
    exact ⟨⟨hy.formChars, hhyphen, hm.formChars⟩, hhyphen, hd.formChars⟩
  | time hy hm hd hmark hh hclock hoffset =>
    rename_i mark
    have hmark : isFormChar mark = true := by rcases hmark with rfl | rfl <;> rfl
    simp only [List.forall_mem_append, List.forall_mem_cons]
    exact ⟨⟨⟨⟨⟨hy.formChars, hhyphen, hm.formChars⟩, hhyphen, hd.formChars⟩, hmark, hh.formChars⟩,
      hclock.formChars⟩, hoffset.formChars⟩

end IsoText

/-- What is taken for a date has the form of one, and its parts are in range. -/
theorem isIsoDate_iff_form (s : String) : isIsoDate s = true ↔
    ∃ t, IsoText.Form t s.toList ∧ t.hasDay = true ∧ t.hasTime = true ∧ t.hasOffset = true := by
  unfold isIsoDate
  simp only [← IsoText.parse?_eq_some_iff]
  cases IsoText.parse? s.toList with
  | none => simp
  | some t => simp [and_assoc]

end SoqlSelect
