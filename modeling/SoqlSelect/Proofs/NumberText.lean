import SoqlSelect.Number.Basic

/-!
# The form of numbers

The grammar of the texts of numbers: maybe a minus, digits, and maybe a fraction and an exponent. The
main statement says that every number is written by it. A float is written by the digits of its shortest
decimal, which are not all zeros, so that there is a digit before every exponent.
-/

namespace SoqlSelect

/- One or more digits of ASCII. -/
def AsciiDigits (ds : List Char) : Prop := ds ≠ [] ∧ ∀ c ∈ ds, c.isDigit = true

namespace Number

inductive FractionForm : List Char → Prop
  | none : FractionForm []
  | digits {ds : List Char} : AsciiDigits ds → FractionForm ('.' :: ds)

inductive ExponentForm : List Char → Prop
  | none : ExponentForm []
  | digits {sign : Char} {ds : List Char} : sign = '+' ∨ sign = '-' → AsciiDigits ds →
      ExponentForm ('e' :: sign :: ds)

/-- The texts of numbers without their sign. -/
inductive MagnitudeForm : List Char → Prop
  | intro {whole fraction exponent : List Char} : AsciiDigits whole → FractionForm fraction →
      ExponentForm exponent → MagnitudeForm (whole ++ (fraction ++ exponent))

inductive TextForm : List Char → Prop
  | plain {cs : List Char} : MagnitudeForm cs → TextForm cs
  | negative {cs : List Char} : MagnitudeForm cs → TextForm ('-' :: cs)

/-! ### Digits -/

theorem asciiDigits_toDigits (n : Nat) : AsciiDigits (Nat.toDigits 10 n) :=
  ⟨Nat.toDigits_ne_nil, fun _ hc => Nat.isDigit_of_mem_toDigits (by decide) (by decide) hc⟩

theorem asciiDigits_zero : AsciiDigits ['0'] := asciiDigits_toDigits 0

theorem isDigit_of_mem_zeros {n : Nat} {c : Char} (h : c ∈ List.replicate n '0') :
    c.isDigit = true := by
  rw [List.eq_of_mem_replicate h]
  rfl

theorem asciiDigits_append {as bs : List Char} (hne : as ≠ [] ∨ bs ≠ [])
    (has : ∀ c ∈ as, c.isDigit = true) (hbs : ∀ c ∈ bs, c.isDigit = true) :
    AsciiDigits (as ++ bs) := by
  refine ⟨?_, List.forall_mem_append.mpr ⟨has, hbs⟩⟩
  rw [ne_eq, List.append_eq_nil_iff]
  rintro ⟨rfl, rfl⟩
  simp at hne

/-! ### Shortest decimals -/

theorem powerOf_pos {base : Nat} (h : 0 < base) (exponent : Nat) : 0 < powerOf base exponent :=
  Nat.pow_pos h

theorem significand_pos {x : Binary64} (h : x.magnitude ≠ 0) : 0 < x.significand := by
  unfold Binary64.significand
  split
  · omega
  · unfold Binary64.hiddenBit
    omega

/- The interval around a positive number leaves out zero, which is no multiple of any unit in it. -/
theorem ne_zero_of_contains {r : Binary64.Rounding} {grid : Int} {c : Nat} (hr : 0 < r.lower)
    (h : r.contains grid c = true) : c ≠ 0 := by
  rintro rfl
  have hfactor : 0 < r.boundFactor grid :=
    Nat.mul_pos (powerOf_pos (by decide) _) (powerOf_pos (by decide) _)
  have hlower : 0 < r.lower * r.boundFactor grid := Nat.mul_pos hr hfactor
  unfold Binary64.Rounding.contains at h
  simp only [Nat.zero_mul] at h
  split at h
  · have := of_decide_eq_true (Bool.and_eq_true_iff.mp h).1
    omega
  · have := of_decide_eq_true (Bool.and_eq_true_iff.mp h).1
    omega

theorem contains_of_onGrid? {r : Binary64.Rounding} {grid : Int} {c : Nat}
    (h : r.onGrid? grid = some c) : r.contains grid c = true := by
  simp only [Binary64.Rounding.onGrid?] at h
  split at h
  · cases h
  · cases h
    assumption
  · cases h
    assumption
  · rename_i hlow hhigh
    generalize r.value * r.boundFactor grid / r.gridFactor grid = k at h hlow hhigh
    split at h
    · cases h
      exact hlow
    · split at h
      · cases h
        exact hhigh
      · -- Between two equally near points the even one is taken, which is one of them.
        cases h
        rcases Nat.mod_two_eq_zero_or_one k with heven | hodd
        · rw [heven]
          exact hlow
        · rw [hodd]
          exact hhigh

theorem shortest_cases {x : Binary64} (h : x.magnitude ≠ 0) :
    x.shortest.coefficient ≠ 0 ∨ x.shortest = ⟨0, 0⟩ := by
  have hlower : 0 < x.rounding.lower := by
    have hsignificand := significand_pos h
    simp only [Binary64.rounding]
    split <;> omega
  simp only [Binary64.shortest]
  generalize Binary64.decimalPosition _ _ = position
  cases hfound : (List.range 17).findSome? fun i =>
      (x.rounding.onGrid? (position - (i + 1 : Nat))).map fun c =>
        ({ coefficient := c, exponent := position - (i + 1 : Nat) } : Decimal) with
  | none => exact .inr rfl
  | some d =>
    left
    obtain ⟨i, _, hi⟩ := List.exists_of_findSome?_eq_some hfound
    obtain ⟨c, hc, rfl⟩ := Option.map_eq_some_iff.mp hi
    exact ne_zero_of_contains hlower (contains_of_onGrid? hc)

/-! ### Layout -/

theorem magnitudeForm_layout {digits : List Char} {exponent : Int}
    (hdigits : ∀ c ∈ digits, c.isDigit = true) (hne : digits ≠ [] ∨ exponent = 0) :
    MagnitudeForm (layout digits exponent) := by
  have hmoved (h : exponent ≠ 0) : digits ≠ [] := hne.resolve_right h
  have hdrop {n : Nat} (h : ¬(digits.drop n).isEmpty = true) : AsciiDigits (digits.drop n) :=
    ⟨by simpa using h, fun c hc => hdigits c (List.mem_of_mem_drop hc)⟩
  unfold layout
  split
  · have hwhole : AsciiDigits (digits.take 1) :=
      ⟨by simpa using hmoved (by omega), fun c hc => hdigits c (List.mem_of_mem_take hc)⟩
    have hexponent : ExponentForm ('e' :: (if exponent < 0 then '-' else '+') ::
        Nat.toDigits 10 exponent.natAbs) := by
      refine .digits ?_ (asciiDigits_toDigits _)
      split
      · exact .inr rfl
      · exact .inl rfl
    have hfraction : FractionForm (if (digits.drop 1).isEmpty then [] else '.' :: digits.drop 1) := by
      split
      · exact .none
      · rename_i hmore
        exact .digits (hdrop hmore)
    simpa using MagnitudeForm.intro hwhole hfraction hexponent
  · split
    · have hfraction : AsciiDigits (List.replicate (exponent.natAbs - 1) '0' ++ digits) :=
        asciiDigits_append (.inr (hmoved (by omega))) (fun _ => isDigit_of_mem_zeros) hdigits
      simpa using MagnitudeForm.intro asciiDigits_zero (.digits hfraction) .none
    · generalize exponent.toNat = n
      have hwhole : AsciiDigits
          (digits.take (n + 1) ++ List.replicate (n + 1 - digits.length) '0') := by
        apply asciiDigits_append
        · -- Without digits there are zeros in front of the point.
          cases digits with
          | nil => exact .inr (by simp)
          | cons d ds => exact .inl (by simp)
        · exact fun c hc => hdigits c (List.mem_of_mem_take hc)
        · exact fun _ => isDigit_of_mem_zeros
      have hfraction : AsciiDigits
          (if (digits.drop (n + 1)).isEmpty then ['0'] else digits.drop (n + 1)) := by
        split
        · exact asciiDigits_zero
        · rename_i hmore
          exact hdrop hmore
      simpa using MagnitudeForm.intro hwhole (.digits hfraction) .none

theorem stripped_ne_nil {n : Nat} (h : n ≠ 0) :
    ((Nat.toDigits 10 n).reverse.dropWhile (· == '0')).reverse ≠ [] := by
  intro hnil
  have hall : (Nat.toDigits 10 n).reverse.takeWhile (· == '0') = (Nat.toDigits 10 n).reverse := by
    have hboth := List.takeWhile_append_dropWhile (p := (· == '0')) (l := (Nat.toDigits 10 n).reverse)
    rwa [List.reverse_eq_nil_iff.mp hnil, List.append_nil] at hboth
  have hzeros : ∀ c ∈ Nat.toDigits 10 n, c = '0' := by
    intro c hc
    rw [← List.mem_reverse, ← hall] at hc
    exact beq_iff_eq.mp (List.all_eq_true.mp List.all_takeWhile c hc)
  have hdigits : Nat.toDigits 10 n = List.replicate (Nat.toDigits 10 n).length '0' :=
    List.eq_replicate_iff.mpr ⟨rfl, hzeros⟩
  have hvalue : Nat.ofDigitChars 10 (Nat.toDigits 10 n) 0 = n := by simp
  rw [hdigits] at hvalue
  simp at hvalue
  exact h hvalue.symm

theorem magnitudeForm_magnitudeText (x : Binary64) : MagnitudeForm (magnitudeText x) := by
  unfold magnitudeText
  split
  · exact .intro asciiDigits_zero (.digits asciiDigits_zero) .none
  · rename_i hx
    refine magnitudeForm_layout ?_ ?_
    · intro c hc
      have hc := (List.dropWhile_sublist _).subset (List.mem_reverse.mp hc)
      exact (asciiDigits_toDigits _).2 c (List.mem_reverse.mp hc)
    · rcases shortest_cases hx with hne | hzero
      · exact .inl (stripped_ne_nil hne)
      · rw [hzero]
        exact .inr rfl

/-- Every number is written by the grammar. -/
theorem textForm_text (n : Number) : TextForm n.text.toList := by
  cases n with
  | int n range =>
    have hdigits : MagnitudeForm (Nat.toDigits 10 n.natAbs) := by
      simpa using MagnitudeForm.intro (asciiDigits_toDigits n.natAbs) .none .none
    rw [text, String.toList_ofList, intText]
    split
    · exact .negative hdigits
    · exact .plain hdigits
  | float x =>
    rw [text, String.toList_ofList]
    split
    · exact .negative (magnitudeForm_magnitudeText x)
    · exact .plain (magnitudeForm_magnitudeText x)

/-! ### Characters -/

def isNumberChar (c : Char) : Bool := c.isDigit || "+-.e".toList.contains c

theorem numberChars_of_asciiDigits {ds : List Char} (h : AsciiDigits ds) :
    ∀ c ∈ ds, isNumberChar c = true := by
  intro c hc
  simp [isNumberChar, h.2 c hc]

theorem MagnitudeForm.numberChars {cs : List Char} (h : MagnitudeForm cs) :
    ∀ c ∈ cs, isNumberChar c = true := by
  obtain ⟨hwhole, hfraction, hexponent⟩ := h
  simp only [List.forall_mem_append]
  refine ⟨numberChars_of_asciiDigits hwhole, ?_, ?_⟩
  · cases hfraction with
    | none => simp
    | digits hds => exact List.forall_mem_cons.mpr ⟨by decide, numberChars_of_asciiDigits hds⟩
  · cases hexponent with
    | none => simp
    | digits hsign hds =>
      simp only [List.forall_mem_cons]
      refine ⟨by decide, ?_, numberChars_of_asciiDigits hds⟩
      rcases hsign with rfl | rfl <;> decide

theorem TextForm.numberChars {cs : List Char} (h : TextForm cs) :
    ∀ c ∈ cs, isNumberChar c = true := by
  cases h with
  | plain hcs => exact hcs.numberChars
  | negative hcs => exact List.forall_mem_cons.mpr ⟨by decide, hcs.numberChars⟩

end Number

end SoqlSelect
