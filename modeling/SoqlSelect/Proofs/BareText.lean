import SoqlSelect.Literal
import SoqlSelect.Proofs.IsoForm
import SoqlSelect.Proofs.NumberText

/-!
# Characters of bare literals

A literal without quotes is a word, a number, an instant, or a text in the form of a date. None of its
characters can begin or end a string literal, a group or a connective.
-/

namespace SoqlSelect

/-- The characters of bare literals: decimal digits of every script, the marks of numbers and dates, and
the letters of `null`, `true` and `false`. -/
def isBareChar (c : Char) : Bool :=
  Text.isDecimalDigit c || "+-.,: TZaeflnrstu".toList.contains c

def Bare (cs : List Char) : Prop := ∀ c ∈ cs, isBareChar c = true

theorem isBareChar_of_isDecimalDigit {c : Char} (h : Text.isDecimalDigit c = true) :
    isBareChar c = true := by
  simp [isBareChar, h]

theorem isBareChar_of_isDigit {c : Char} (h : c.isDigit = true) : isBareChar c = true :=
  isBareChar_of_isDecimalDigit (Text.isDecimalDigit_of_isDigit h)

namespace Bare

theorem nil : Bare [] := by
  intro c hc
  cases hc

theorem cons {c : Char} {cs : List Char} (hc : isBareChar c = true) (h : Bare cs) :
    Bare (c :: cs) := by
  intro d hd
  rcases List.mem_cons.mp hd with rfl | hd
  · exact hc
  · exact h d hd

theorem append {as bs : List Char} (ha : Bare as) (hb : Bare bs) : Bare (as ++ bs) := by
  intro c hc
  rcases List.mem_append.mp hc with hc | hc
  · exact ha c hc
  · exact hb c hc

theorem of_all {cs : List Char} (h : cs.all isBareChar = true) : Bare cs :=
  List.all_eq_true.mp h

theorem toDigits (n : Nat) : Bare (Nat.toDigits 10 n) := by
  intro c hc
  exact isBareChar_of_isDigit (Nat.isDigit_of_mem_toDigits (by decide) (by decide) hc)

end Bare

/-! ### Numbers and instants -/

/- The texts of numbers and instants have the digits of ASCII and some marks. -/
theorem Bare.of_marks {marks cs : List Char} (hmarks : marks.all isBareChar = true)
    (h : ∀ c ∈ cs, (c.isDigit || marks.contains c) = true) : Bare cs := by
  intro c hc
  rcases Bool.or_eq_true_iff.mp (h c hc) with hd | hm
  · exact isBareChar_of_isDigit hd
  · exact List.all_eq_true.mp hmarks c (List.contains_iff_mem.mp hm)

theorem Number.bare_text (n : Number) : Bare n.text.toList :=
  .of_marks (by decide) n.textForm_text.numberChars

theorem isDigit_of_mem_padded {width n : Nat} {c : Char} (h : c ∈ Instant.padded width n) :
    c.isDigit = true := by
  rcases List.mem_append.mp h with h | h
  · exact Number.isDigit_of_mem_zeros h
  · exact (Number.asciiDigits_toDigits n).2 c h

namespace Instant

def isClockChar (c : Char) : Bool := c.isDigit || "+-:.TZ".toList.contains c

theorem clockChars_padded (width n : Nat) : ∀ c ∈ padded width n, isClockChar c = true := by
  intro c hc
  simp [isClockChar, isDigit_of_mem_padded hc]

theorem clockChars_yearText (year : Int) : ∀ c ∈ yearText year, isClockChar c = true := by
  unfold yearText
  split
  · exact clockChars_padded 4 _
  · have hsign : isClockChar (if year < 0 then '-' else '+') = true := by split <;> decide
    exact List.forall_mem_cons.mpr ⟨hsign, clockChars_padded 4 _⟩

theorem clockChars_text (t : Instant) : ∀ c ∈ t.text.toList, isClockChar c = true := by
  have hpart {mark : Char} (hmark : isClockChar mark = true) (width n : Nat) :
      ∀ c ∈ mark :: padded width n, isClockChar c = true :=
    List.forall_mem_cons.mpr ⟨hmark, clockChars_padded width n⟩
  rw [text, String.toList_ofList, chars]
  simp only [List.forall_mem_append]
  refine ⟨⟨⟨⟨⟨⟨⟨clockChars_yearText _, ?_⟩, ?_⟩, ?_⟩, ?_⟩, ?_⟩, ?_⟩, by simp [isClockChar]⟩
  all_goals exact hpart (by decide) _ _

theorem bare_text (t : Instant) : Bare t.text.toList :=
  .of_marks (by decide) t.clockChars_text

end Instant

/-! ### Texts in the form of a date -/

theorem isBareChar_of_isFormChar {c : Char} (h : IsoText.isFormChar c = true) : isBareChar c = true := by
  rcases Bool.or_eq_true_iff.mp h with hd | hm
  · exact isBareChar_of_isDecimalDigit hd
  · have hmarks : "-:.,+TZ ".toList.all isBareChar = true := by decide
    exact List.all_eq_true.mp hmarks c (List.contains_iff_mem.mp hm)

theorem bare_of_isIsoDate {s : String} (h : isIsoDate s = true) : Bare s.toList := by
  obtain ⟨t, hform, -⟩ := (isIsoDate_iff_form s).mp h
  exact fun c hc => isBareChar_of_isFormChar (hform.formChars c hc)

/-! ### Literals -/

namespace Literal

def WellFormed : Literal → Prop
  | .bare text => Bare text.toList
  | .quoted _ => True

end Literal

namespace Value

theorem wellFormed_of_literal? {v : Value} {l : Literal} (h : v.literal? = some l) :
    l.WellFormed := by
  cases v with
  | null =>
    rw [← Option.some.inj h]
    exact .of_all (by decide)
  | bool b =>
    rw [← Option.some.inj h]
    cases b <;> exact .of_all (by decide)
  | number n =>
    rw [← Option.some.inj h]
    exact n.bare_text
  | string s =>
    rw [← Option.some.inj h]
    split
    · rename_i hs
      exact bare_of_isIsoDate hs
    · trivial
  | date t =>
    rw [← Option.some.inj h]
    exact t.bare_text
  | array items => cases h
  | object entries => cases h

theorem wellFormed_of_listLiteral? {v : Value} {l : Literal} (h : v.listLiteral? = some l) :
    l.WellFormed := by
  unfold listLiteral? at h
  split at h
  · rw [← Option.some.inj h]
    trivial
  · exact wellFormed_of_literal? h

end Value

end SoqlSelect
