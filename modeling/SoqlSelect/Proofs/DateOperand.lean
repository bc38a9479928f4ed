import SoqlSelect.Proofs.BareStrings
import SoqlSelect.Proofs.OperandReader

/-!
# Dates as operands

A string that is taken for a date stands in a query as it is. Nothing in it is escaped, and a blank may
stand in it, so that its end has to be seen from its form alone. The main statement says that a bare
operand which is a date is read up to its end and no further, whatever follows it in a condition, and
which characters it has.
-/

namespace SoqlSelect

/-! ### The first end of an operand -/

/-- An operand may end here: the text ends, or its group does, or a connective follows. -/
def IsEnd (cs : List Char) : Prop :=
  cs = [] ∨ ")".toList <+: cs ∨ " AND ".toList <+: cs ∨ " OR ".toList <+: cs

/-- The rest is the first place of the text at which an operand may end. -/
structure FirstEnd (text rest : List Char) : Prop where
  ends : IsEnd rest
  first : ∀ before after, text = before ++ after → after ≠ [] → ¬ IsEnd (after ++ rest)

theorem isEnd_iff (cs : List Char) : IsEnd cs ↔ cs = [] ∨ endsOperand cs = true := by
  have hclose : [')'] <+: cs ↔ cs.head? = some ')' := by
    cases cs with
    | nil => simp
    | cons c cs => simp [eq_comm]
  simp [IsEnd, endsOperand, hclose, or_assoc]

theorem not_isEnd_cons (c : Char) (cs : List Char) :
    ¬ IsEnd (c :: cs) ↔ endsOperand (c :: cs) = false := by
  simp [isEnd_iff]

theorem firstEnd_nil {rest : List Char} : FirstEnd [] rest ↔ IsEnd rest := by
  refine ⟨FirstEnd.ends, fun h => ⟨h, ?_⟩⟩
  intro before after htext hne
  exact absurd (List.append_eq_nil_iff.mp htext.symm).2 hne

theorem firstEnd_cons {c : Char} {text rest : List Char} :
    FirstEnd (c :: text) rest ↔ endsOperand (c :: (text ++ rest)) = false ∧ FirstEnd text rest := by
  rw [← not_isEnd_cons]
  constructor
  · rintro ⟨hends, hfirst⟩
    refine ⟨hfirst [] (c :: text) rfl (by simp), hends, ?_⟩
    intro before after htext
    exact hfirst (c :: before) after (by rw [htext, List.cons_append])
  · rintro ⟨hc, hends, hfirst⟩
    refine ⟨hends, ?_⟩
    intro before after htext hne
    cases before with
    | nil =>
      rw [← show c :: text = after from htext]
      exact hc
    | cons d before =>
      exact hfirst before after (List.cons.inj htext).2 hne

/-- The reader of bare operands goes to the first end. -/
theorem bareOperand_eq_iff {cs text rest : List Char} :
    bareOperand cs = (text, rest) ↔ cs = text ++ rest ∧ FirstEnd text rest := by
  induction cs generalizing text with
  | nil =>
    constructor
    · intro h
      obtain ⟨rfl, rfl⟩ := Prod.mk.inj h
      exact ⟨rfl, firstEnd_nil.mpr (.inl rfl)⟩
    · rintro ⟨hcs, -⟩
      obtain ⟨rfl, rfl⟩ := List.append_eq_nil_iff.mp hcs.symm
      rfl
  | cons c cs ih =>
    unfold bareOperand
    constructor
    · intro h
      split at h
      · rename_i hc
        obtain ⟨rfl, rfl⟩ := Prod.mk.inj h
        exact ⟨rfl, firstEnd_nil.mpr ((isEnd_iff _).mpr (.inr hc))⟩
      · rename_i hc
        obtain ⟨rfl, hrest⟩ := Prod.mk.inj h
        obtain ⟨hcs, hfirst⟩ := ih.mp (Prod.ext rfl hrest)
        refine ⟨congrArg (c :: ·) hcs, firstEnd_cons.mpr ⟨?_, hfirst⟩⟩
        rw [← hcs]
        exact Bool.eq_false_iff.mpr hc
    · rintro ⟨hcs, hfirst⟩
      cases text with
      | nil =>
        obtain rfl : c :: cs = rest := hcs
        have hc := ((isEnd_iff _).mp hfirst.ends).resolve_left (by simp)
        rw [if_pos hc]
      | cons d text =>
        obtain ⟨rfl, htail⟩ := List.cons.inj hcs
        obtain ⟨hc, hfirst⟩ := firstEnd_cons.mp hfirst
        have hc : endsOperand (c :: cs) = false := by rw [htail, ← hc]; rfl
        rw [if_neg (Bool.eq_false_iff.mp hc), ih.mpr ⟨htail, hfirst⟩]

/-! ### Letters of dates -/

namespace IsoText

/- Letters are not among the digits, and not among the marks within a time of day. -/
theorem count_of_digits {ds : List Char} (h : ∀ c ∈ ds, Text.isDecimalDigit c = true) {letter : Char}
    (hl : Text.isDecimalDigit letter = false) : ds.count letter = 0 :=
  List.count_eq_zero.mpr fun hmem => ne_of_class (h letter hmem) hl rfl

theorem Digits.count_eq_zero {n : Nat} {ds : List Char} (h : Digits n ds) {letter : Char}
    (hl : Text.isDecimalDigit letter = false) : ds.count letter = 0 :=
  count_of_digits h.2 hl

theorem ClockForm.count_eq_zero {minute second clock : List Char} (h : ClockForm minute second clock)
    {letter : Char} (hl : Text.isDecimalDigit letter = false) (hcolon : ':' ≠ letter)
    (hpoint : '.' ≠ letter) (hcomma : ',' ≠ letter) : clock.count letter = 0 := by
  cases h with
  | hour => rfl
  | minute hm => simp [hm.count_eq_zero hl, hcolon]
  | second hm hs => simp [hm.count_eq_zero hl, hs.count_eq_zero hl, hcolon]
  | fraction hm hs hmark _ hds =>
    have hne : _ ≠ letter := hmark.elim (· ▸ hpoint) (· ▸ hcomma)
    simp [hm.count_eq_zero hl, hs.count_eq_zero hl, count_of_digits hds hl, hcolon, hne]

theorem OffsetForm.count_le {offset : List Char} (h : OffsetForm offset) {letter : Char}
    (hl : Text.isDecimalDigit letter = false) (hcolon : ':' ≠ letter) (hplus : '+' ≠ letter)
    (hminus : '-' ≠ letter) : offset.count letter ≤ if letter = 'Z' then 1 else 0 := by
  have hsign {sign : Char} (hs : IsSign sign) : sign ≠ letter := hs.elim (· ▸ hplus) (· ▸ hminus)
  cases h with
  | none => simp
  | universal => by_cases hz : letter = 'Z' <;> simp [hz, eq_comm]
  | hours hs hh => simp [hsign hs, hh.count_eq_zero hl]
  | minutes hs hh hm => simp [hsign hs, hh.count_eq_zero hl, hm.count_eq_zero hl]
  | colon hs hh hm => simp [hsign hs, hh.count_eq_zero hl, hm.count_eq_zero hl, hcolon]

/-- At most one letter stands between the day and the hour, and at most one in the offset. -/
theorem Form.count_le {t : IsoText} {cs : List Char} (h : Form t cs) :
    cs.count 'T' ≤ 1 ∧ cs.count 'Z' ≤ 1 := by
  have ht : Text.isDecimalDigit 'T' = false := by decide
  have hz : Text.isDecimalDigit 'Z' = false := by decide
  cases h with
  | month hy hm =>
    simp [hy.count_eq_zero ht, hm.count_eq_zero ht, hy.count_eq_zero hz, hm.count_eq_zero hz]
  | day hy hm hd =>
    simp [hy.count_eq_zero ht, hm.count_eq_zero ht, hd.count_eq_zero ht, hy.count_eq_zero hz,
      hm.count_eq_zero hz, hd.count_eq_zero hz]
  | time hy hm hd hmark hh hclock hoffset =>
    have hclockT := hclock.count_eq_zero ht (by decide) (by decide) (by decide)
    have hclockZ := hclock.count_eq_zero hz (by decide) (by decide) (by decide)
    have hoffsetT : _ ≤ 0 := hoffset.count_le ht (by decide) (by decide) (by decide)
    have hoffsetZ : _ ≤ 1 := hoffset.count_le hz (by decide) (by decide) (by decide)
    rcases hmark with rfl | rfl
    all_goals
      simp [hy.count_eq_zero, hm.count_eq_zero, hd.count_eq_zero, hh.count_eq_zero, ht, hz, hclockT,
        hclockZ]
      omega

end IsoText

/-! ### Dates -/

/-- A date that is written bare is read up to its end: no end of an operand comes before it, neither in
the date nor across its end. It has decimal digits of any script and the marks of ISO 8601, no quote,
backslash or parenthesis, and of the letters at most one `T` and one `Z`. -/
theorem isoDate_ends_where_written {s : String} {rest : List Char} (h : isIsoDate s = true)
    (hrest : IsEnd rest) :
    bareOperand (s.toList ++ rest) = (s.toList, rest) ∧ FirstEnd s.toList rest ∧
      (∀ c ∈ s.toList, Text.isDecimalDigit c = true ∨ c ∈ "-:.,+TZ ".toList) ∧
      (∀ c ∈ s.toList, c ∉ ['\x27', '\"', '\\', '(', ')']) ∧
      s.toList.count 'T' ≤ 1 ∧ s.toList.count 'Z' ≤ 1 := by
  obtain ⟨t, hform, -⟩ := (isIsoDate_iff_form s).mp h
  have hread := bareOperand_append (bare_of_isIsoDate h) ((isEnd_iff rest).mp hrest)
  have hchars : ∀ c ∈ s.toList, Text.isDecimalDigit c = true ∨ c ∈ "-:.,+TZ ".toList :=
    fun c hc => by simpa [IsoText.isFormChar] using hform.formChars c hc
  refine ⟨hread, (bareOperand_eq_iff.mp hread).2, hchars, ?_, hform.count_le⟩
  intro c hc hspecial
  have hneither : ['\x27', '\"', '\\', '(', ')'].all
      (fun c => !Text.isDecimalDigit c && !"-:.,+TZ ".toList.contains c) = true := by decide
  obtain ⟨hdigit, hmark⟩ := Bool.and_eq_true_iff.mp (List.all_eq_true.mp hneither c hspecial)
  rcases hchars c hc with hd | hm
  · rw [hd] at hdigit
    cases hdigit
  · rw [List.contains_iff_mem.mpr hm] at hmark
    cases hmark

/- The blank within the date and the one before the connective are told apart. -/
theorem isoDate_ends_where_written_arabic_fraction :
    let s := "2024-02-29 23:59:59,\u0660\u0665Z"
    let rest := " OR b = 'x')".toList
    isIsoDate s = true ∧ IsEnd rest ∧ bareOperand (s.toList ++ rest) = (s.toList, rest) ∧
      s.toList.count 'Z' ≤ 1 := by
  intro s rest
  have hs : isIsoDate s = true := by decide
  have hrest : IsEnd rest := .inr (.inr (.inr (by decide)))
  obtain ⟨hread, -, -, -, -, hz⟩ := isoDate_ends_where_written hs hrest
  exact ⟨hs, hrest, hread, hz⟩

end SoqlSelect
