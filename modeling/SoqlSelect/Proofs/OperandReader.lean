import SoqlSelect.Proofs.BareText
import SoqlSelect.Proofs.Reader
import SoqlSelect.Proofs.StringLiteral

/-!
# Reading operands

Parentheses inside of string literals do not count: a group goes up to the parenthesis that closes it
outside of all string literals. An operand is a group, a string literal, or a bare text up to the end
of its group or the next connective. The main statement says that the operand of a comparison is read
as it is written.
-/

namespace SoqlSelect

open Literal (Mode)

/-! ### Groups -/

/-- The text up to and with the parenthesis that closes the group in which the scanner stands, and the
rest. The depth counts the groups that have been opened since. -/
def closing? (depth : Nat) (mode : Mode) : List Char → Option (List Char × List Char)
  | [] => none
  | c :: cs =>
    if mode = .outside ∧ c = ')' then
      match depth with
      | 0 => some ([c], cs)
      | depth + 1 => (closing? depth .outside cs).map fun (text, rest) => (c :: text, rest)
    else
      let depth := if mode = .outside ∧ c = '(' then depth + 1 else depth
      (closing? depth (mode.next c) cs).map fun (text, rest) => (c :: text, rest)

/-- A text that the scanner passes over without closing or opening a group. -/
def Balanced (cs : List Char) : Prop :=
  ∀ (depth : Nat) (rest : List Char), closing? depth .outside (cs ++ rest) =
    (closing? depth .outside rest).map fun (text, rest) => (cs ++ text, rest)

theorem closing?_of_balanced {cs : List Char} (h : Balanced cs) (rest : List Char) :
    closing? 0 .outside (cs ++ ')' :: rest) = some (cs ++ [')'], rest) := by
  rw [h]
  simp [closing?]

/- Such a character does not change where the scanner stands. -/
def isPlain (c : Char) : Bool := c != '\x27' && c != '(' && c != ')'

namespace Balanced

theorem nil : Balanced [] := by
  intro depth rest
  simp

theorem append {as bs : List Char} (ha : Balanced as) (hb : Balanced bs) : Balanced (as ++ bs) := by
  intro depth rest
  rw [List.append_assoc, ha, hb, Option.map_map]
  simp [Function.comp_def]

theorem of_plain {cs : List Char} (h : cs.all isPlain = true) : Balanced cs := by
  induction cs with
  | nil => exact nil
  | cons c cs ih =>
    intro depth rest
    simp only [List.all_cons, isPlain, Bool.and_eq_true, bne_iff_ne] at h
    obtain ⟨⟨⟨hq, ho⟩, hc⟩, hcs⟩ := h
    have htail := ih hcs depth rest
    simp [closing?, Mode.next, hq, ho, hc, htail, Function.comp_def]

theorem of_class {p : Char → Bool} {cs : List Char} (hcs : ∀ c ∈ cs, p c = true)
    (hquote : p '\x27' = false) (hopen : p '(' = false) (hclose : p ')' = false) :
    Balanced cs := by
  refine of_plain (List.all_eq_true.mpr fun c hc => ?_)
  have hp := hcs c hc
  simp [isPlain, ne_of_class hp hquote, ne_of_class hp hopen, ne_of_class hp hclose]

theorem paren {cs : List Char} (h : Balanced cs) : Balanced ('(' :: cs ++ [')']) := by
  intro depth rest
  have hin : closing? (depth + 1) .outside (cs ++ ')' :: rest) =
      (closing? depth .outside rest).map fun (text, rest) => (cs ++ ')' :: text, rest) := by
    rw [h]
    simp [closing?, Function.comp_def]
  simp [closing?, Mode.next, hin, Function.comp_def]

theorem intercalate {separator : List Char} {texts : List (List Char)} (hs : Balanced separator)
    (h : ∀ text ∈ texts, Balanced text) : Balanced (separator.intercalate texts) := by
  induction texts with
  | nil => exact nil
  | cons text texts ih =>
    have htext := h text (by simp)
    have htexts := ih fun t ht => h t (by simp [ht])
    cases texts with
    | nil => simpa using htext
    | cons next texts =>
      rw [List.intercalate_cons_cons]
      exact (htext.append hs).append htexts

theorem closing?_of_closes {mode : Mode} {cs : List Char} (h : Literal.Closes mode cs) (depth : Nat)
    (rest : List Char) : closing? depth mode (cs ++ rest) =
      (closing? depth .outside rest).map fun (text, rest) => (cs ++ text, rest) := by
  induction h with
  | last hmode hnext => simp [closing?, hmode, hnext]
  | more hmode _ _ ih => simp [closing?, hmode, ih, Function.comp_def]

theorem quote (s : String) : Balanced (Literal.quote s).toList := by
  intro depth rest
  obtain ⟨cs, hquote, hcloses⟩ := Literal.exists_closes_quote s
  have hrest := closing?_of_closes hcloses depth rest
  simp [hquote, closing?, Mode.next, hrest, Function.comp_def]

theorem literal {l : Literal} (h : l.WellFormed) : Balanced l.text.toList := by
  cases l with
  | bare text => exact of_class h (by decide) (by decide) (by decide)
  | quoted content => exact quote content

end Balanced

/-! ### Bare operands -/

def endsOperand (cs : List Char) : Bool :=
  cs.head? == some ')' || " AND ".toList.isPrefixOf cs || " OR ".toList.isPrefixOf cs

/-- The text up to the end of the group, to the next connective or to the end, and the rest. -/
def bareOperand : List Char → List Char × List Char
  | [] => ([], [])
  | c :: cs =>
    if endsOperand (c :: cs) then ([], c :: cs)
    else ((c :: (bareOperand cs).1), (bareOperand cs).2)

theorem head?_of_endsOperand {cs : List Char} (h : endsOperand cs = true) :
    cs.head? = some ')' ∨ cs.head? = some ' ' := by
  cases cs with
  | nil => cases h
  | cons c cs =>
    simp only [endsOperand, Bool.or_eq_true, beq_iff_eq, List.isPrefixOf_iff_prefix] at h
    rcases h with (h | h) | h
    · exact .inl h
    · exact .inr (congrArg some (List.cons_prefix_cons.mp h).1.symm)
    · exact .inr (congrArg some (List.cons_prefix_cons.mp h).1.symm)

/- A blank may stand in a bare literal, and then only the letter behind it tells a connective. -/
theorem endsOperand_bare_cons {c : Char} {cs : List Char} (hc : isBareChar c = true)
    (hcs : cs.head? ≠ some 'A' ∧ cs.head? ≠ some 'O') : endsOperand (c :: cs) = false := by
  have hp : c ≠ ')' := ne_of_class hc (by decide)
  cases cs with
  | nil => simp [endsOperand, List.isPrefixOf, hp]
  | cons d ds =>
    have ha : 'A' ≠ d := fun h => hcs.1 (congrArg some h.symm)
    have ho : 'O' ≠ d := fun h => hcs.2 (congrArg some h.symm)
    simp [endsOperand, List.isPrefixOf, hp, ha, ho]

theorem bareOperand_append {cs rest : List Char} (h : Bare cs)
    (hrest : rest = [] ∨ endsOperand rest = true) : bareOperand (cs ++ rest) = (cs, rest) := by
  have hhead : rest.head? ≠ some 'A' ∧ rest.head? ≠ some 'O' := by
    rcases hrest with rfl | hrest
    · exact ⟨by simp, by simp⟩
    · rcases head?_of_endsOperand hrest with hr | hr <;> rw [hr] <;> decide
  induction cs with
  | nil =>
    rcases hrest with rfl | hrest
    · rfl
    · cases rest with
      | nil => rfl
      | cons c rest => simp [bareOperand, hrest]
  | cons c cs ih =>
    have htail := ih fun d hd => h d (by simp [hd])
    -- If `c` is a blank, the character behind it decides whether a connective begins here.
    have hnext : (cs ++ rest).head? ≠ some 'A' ∧ (cs ++ rest).head? ≠ some 'O' := by
      cases cs with
      | nil => exact hhead
      | cons d ds =>
        have hd := h d (by simp)
        have ha := ne_of_class hd (show isBareChar 'A' = false by decide)
        have ho := ne_of_class hd (show isBareChar 'O' = false by decide)
        simp [ha, ho]
    have hc := endsOperand_bare_cons (h c (by simp)) hnext
    simp [bareOperand, hc, htail]

/-! ### Operands -/

def operandReader : Text.Reader (List Char)
  | [] => some ([], [])
  | c :: cs =>
    if c = '(' then (closing? 0 .outside cs).map fun (text, rest) => (c :: text, rest)
    else if c = '\x27' then Literal.scan? (c :: cs)
    else some (bareOperand (c :: cs))

namespace Operand

def WellFormed : Operand → Prop
  | .one literal => literal.WellFormed
  | .list literals => ∀ literal ∈ literals, literal.WellFormed

theorem toList_text_list (literals : List Literal) :
    (Operand.list literals).text.toList =
      '(' :: [','].intercalate (literals.map fun l => l.text.toList) ++ [')'] := by
  simp [text, String.toList_intercalate, Function.comp_def]

theorem balanced_literals {literals : List Literal} (h : ∀ l ∈ literals, l.WellFormed) :
    Balanced ([','].intercalate (literals.map fun l => l.text.toList)) := by
  refine .intercalate (.of_plain (by decide)) ?_
  intro text ht
  obtain ⟨l, hl, rfl⟩ := List.mem_map.mp ht
  exact .literal (h l hl)

theorem balanced_text {o : Operand} (h : o.WellFormed) : Balanced o.text.toList := by
  cases o with
  | one literal => exact .literal h
  | list literals =>
    rw [toList_text_list]
    exact .paren (balanced_literals h)

theorem operandReader_bare {cs rest : List Char} (h : Bare cs)
    (hrest : rest = [] ∨ endsOperand rest = true) :
    operandReader (cs ++ rest) = some (cs, rest) := by
  have hb := bareOperand_append h hrest
  have hhead : ∀ c ∈ (cs ++ rest).head?, c ≠ '(' ∧ c ≠ '\x27' := by
    intro c hc
    cases cs with
    | nil =>
      rcases hrest with rfl | hrest
      · cases hc
      · rcases head?_of_endsOperand hrest with hr | hr <;>
          rw [List.nil_append, hr] at hc <;> rw [← Option.some.inj hc] <;> decide
    | cons d ds =>
      rw [← Option.some.inj hc]
      have hd := h d (by simp)
      exact ⟨ne_of_class hd (by decide), ne_of_class hd (by decide)⟩
  cases hcs : cs ++ rest with
  | nil =>
    obtain ⟨rfl, rfl⟩ := List.append_eq_nil_iff.mp hcs
    rfl
  | cons c tail =>
    obtain ⟨hp, hq⟩ := hhead c (by rw [hcs]; rfl)
    rw [hcs] at hb
    simp [operandReader, hp, hq, hb]

theorem takes_operandReader {o : Operand} {rest : List Char} (h : o.WellFormed)
    (hrest : rest = [] ∨ endsOperand rest = true) :
    Text.Reader.Takes operandReader o.text.toList o.text.toList rest := by
  show operandReader (o.text.toList ++ rest) = some (o.text.toList, rest)
  cases o with
  | one literal =>
    cases literal with
    | bare text => exact operandReader_bare h hrest
    | quoted content =>
      have hscan := Literal.scan?_quote content rest
      rw [Literal.toList_quote] at hscan
      show operandReader ((Literal.quote content).toList ++ rest) = _
      simpa [Operand.text, Literal.text, operandReader] using hscan
  | list literals =>
    have hclose := closing?_of_balanced (balanced_literals h) rest
    rw [toList_text_list]
    simp [operandReader, hclose]

end Operand

end SoqlSelect
