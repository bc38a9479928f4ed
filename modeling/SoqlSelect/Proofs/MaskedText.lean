import Mathlib.Data.List.Forall2
import SoqlSelect.Proofs.BareText
import SoqlSelect.Proofs.StringLiteral

/-!
# Texts without the contents of their literals

A text is masked by a placeholder in the place of every string literal. Two texts with the same mask
have the same structure, and differ in the contents of their literals only. Texts that begin and end
outside of literals can be put together, and so can their masks.
-/

namespace SoqlSelect

open Literal (Mode)

/- The mask of a text in which the scanner stands there. A text with a literal that does not end has
none. -/
def maskFrom? (placeholder : List Char) : Mode → List Char → Option (List Char)
  | .outside, [] => some []
  | _, [] => none
  | .outside, c :: cs =>
    if c = '\x27' then (maskFrom? placeholder .inside cs).map (placeholder ++ ·)
    else (maskFrom? placeholder .outside cs).map (c :: ·)
  | mode, c :: cs => maskFrom? placeholder (mode.next c) cs

/-- The text with a placeholder for every string literal, if all of them end. -/
def masked? (placeholder text : String) : Option String :=
  (maskFrom? placeholder.toList .outside text.toList).map String.ofList

/- A literal is replaced as a whole: its characters leave no trace in the mask. -/
theorem maskFrom?_of_closes (placeholder : List Char) {mode : Mode} {cs : List Char}
    (h : Literal.Closes mode cs) (more : List Char) :
    maskFrom? placeholder mode (cs ++ more) = maskFrom? placeholder .outside more := by
  have hstep {mode : Mode} (hmode : mode ≠ .outside) (c : Char) (ds : List Char) :
      maskFrom? placeholder mode (c :: ds) = maskFrom? placeholder (mode.next c) ds := by
    cases mode with
    | outside => exact absurd rfl hmode
    | inside => rfl
    | escaped => rfl
  induction h with
  | last hmode hnext => rw [List.singleton_append, hstep hmode, hnext]
  | more hmode _ _ ih => rw [List.cons_append, hstep hmode, ih]

/-! ### Masks of pieces -/

/- The piece begins and ends outside of string literals, and this is its mask. -/
def MasksTo (placeholder cs mask : List Char) : Prop :=
  ∀ more, maskFrom? placeholder .outside (cs ++ more) =
    (maskFrom? placeholder .outside more).map (mask ++ ·)

namespace MasksTo

variable {placeholder cs ds mask mask' : List Char}

theorem append (h : MasksTo placeholder cs mask) (h' : MasksTo placeholder ds mask') :
    MasksTo placeholder (cs ++ ds) (mask ++ mask') := by
  intro more
  rw [List.append_assoc, h, h', Option.map_map]
  simp [Function.comp_def]

theorem of_no_quote (h : '\x27' ∉ cs) : MasksTo placeholder cs cs := by
  intro more
  induction cs with
  | nil => simp
  | cons c cs ih =>
    obtain ⟨hc, hcs⟩ := List.ne_and_not_mem_of_not_mem_cons h
    simp only [List.cons_append, maskFrom?, if_neg hc.symm, ih hcs, Option.map_map]
    rfl

theorem quote (s : String) : MasksTo placeholder (Literal.quote s).toList placeholder := by
  intro more
  obtain ⟨cs, hquote, hcloses⟩ := Literal.exists_closes_quote s
  rw [hquote, List.cons_append, maskFrom?, if_pos rfl, maskFrom?_of_closes placeholder hcloses]

theorem masked?_eq {placeholder text : String} (h : MasksTo placeholder.toList text.toList mask) :
    masked? placeholder text = some (String.ofList mask) := by
  have hend := h []
  rw [List.append_nil] at hend
  rw [masked?, hend]
  simp [maskFrom?]

end MasksTo

/-! ### Pieces with the same mask -/

/-- Two pieces of text that begin and end outside of string literals, and are the same but for the
contents of their literals. -/
def SameOutside (cs ds : List Char) : Prop :=
  ∀ placeholder, ∃ mask, MasksTo placeholder cs mask ∧ MasksTo placeholder ds mask

namespace SameOutside

theorem append {as bs cs ds : List Char} (h : SameOutside as bs) (h' : SameOutside cs ds) :
    SameOutside (as ++ cs) (bs ++ ds) := by
  intro placeholder
  obtain ⟨mask, has, hbs⟩ := h placeholder
  obtain ⟨mask', hcs, hds⟩ := h' placeholder
  exact ⟨mask ++ mask', has.append hcs, hbs.append hds⟩

theorem of_no_quote {cs : List Char} (h : '\x27' ∉ cs) : SameOutside cs cs :=
  fun _ => ⟨cs, .of_no_quote h, .of_no_quote h⟩

theorem nil : SameOutside [] [] := of_no_quote List.not_mem_nil

theorem of_bare {cs : List Char} (h : Bare cs) : SameOutside cs cs :=
  of_no_quote fun hq => ne_of_class (h _ hq) (show isBareChar '\x27' = false by decide) rfl

theorem quote (s t : String) : SameOutside (Literal.quote s).toList (Literal.quote t).toList :=
  fun placeholder => ⟨placeholder, .quote s, .quote t⟩

theorem intercalate {α : Type} {separator : List Char} {text : α → List Char} {as bs : List α}
    (hs : '\x27' ∉ separator) (h : List.Forall₂ (fun a b => SameOutside (text a) (text b)) as bs) :
    SameOutside (separator.intercalate (as.map text)) (separator.intercalate (bs.map text)) := by
  induction h with
  | nil => exact nil
  | cons hfirst hothers ih =>
    cases hothers with
    | nil => simpa using hfirst
    | cons =>
      simp only [List.map_cons, List.intercalate_cons_cons]
      exact (hfirst.append (of_no_quote hs)).append ih

theorem paren {cs ds : List Char} (h : SameOutside cs ds) :
    SameOutside ('(' :: cs ++ [')']) ('(' :: ds ++ [')']) := by
  have hopen : SameOutside ['('] ['('] := of_no_quote (by decide)
  have hclose : SameOutside [')'] [')'] := of_no_quote (by decide)
  exact (hopen.append h).append hclose

theorem masked?_eq {text text' : String} (h : SameOutside text.toList text'.toList)
    (placeholder : String) :
    ∃ mask, masked? placeholder text = some mask ∧ masked? placeholder text' = some mask := by
  obtain ⟨mask, htext, htext'⟩ := h placeholder.toList
  exact ⟨String.ofList mask, htext.masked?_eq, htext'.masked?_eq⟩

end SameOutside

/-! ### Names without quotes -/

def NoQuote (name : String) : Prop := '\x27' ∉ name.toList

instance (name : String) : Decidable (NoQuote name) :=
  inferInstanceAs (Decidable ('\x27' ∉ name.toList))

theorem NoQuote.sameOutside {name : String} (h : NoQuote name) :
    SameOutside name.toList name.toList :=
  .of_no_quote h

end SoqlSelect
