import Mathlib.Data.List.Forall2
import SoqlSelect.Proofs.Failure
import SoqlSelect.Proofs.OperandReader

/-!
# Lists of literals

The elements of a list are joined by commas, and a string may hold commas of its own. A scanner that knows
string literals divides the text at the other commas. The main statement says that the parts which it
finds are the elements, one by one, so that the text of a list tells how long the list is and what its
elements are.
-/

namespace SoqlSelect

open Literal (Mode)

/-! ### Parts of a text -/

/-- The parts between the commas that stand outside of string literals. -/
def commaParts (mode : Mode) : List Char → List (List Char)
  | [] => [[]]
  | c :: cs =>
    if mode = .outside ∧ c = ',' then [] :: commaParts .outside cs
    else (commaParts (mode.next c) cs).modifyHead (c :: ·)

/-- The parts of a text in parentheses. -/
def listParts? (text : String) : Option (List String) :=
  match text.toList with
  | '(' :: cs =>
    if cs.getLast? = some ')' then some ((commaParts .outside cs.dropLast).map String.ofList) else none
  | _ => none

/- The piece begins and ends outside of string literals, and the scanner does not divide it. -/
def Undivided (cs : List Char) : Prop :=
  ∀ rest, commaParts .outside (cs ++ rest) = (commaParts .outside rest).modifyHead (cs ++ ·)

namespace Undivided

theorem of_no_comma {cs : List Char} (hquote : '\x27' ∉ cs) (hcomma : ',' ∉ cs) : Undivided cs := by
  intro rest
  induction cs with
  | nil =>
    show commaParts .outside rest = _
    cases commaParts .outside rest <;> rfl
  | cons c cs ih =>
    obtain ⟨hq, hquote⟩ := List.ne_and_not_mem_of_not_mem_cons hquote
    obtain ⟨hc, hcomma⟩ := List.ne_and_not_mem_of_not_mem_cons hcomma
    have hnext : Mode.next .outside c = .outside := if_neg hq.symm
    have hne : ¬ (Mode.outside = .outside ∧ c = ',') := fun h => hc h.2.symm
    rw [List.cons_append, commaParts, if_neg hne, hnext, ih hquote hcomma, List.modifyHead_modifyHead]
    rfl

theorem commaParts_of_closes {mode : Mode} {cs : List Char} (h : Literal.Closes mode cs)
    (rest : List Char) :
    commaParts mode (cs ++ rest) = (commaParts .outside rest).modifyHead (cs ++ ·) := by
  induction h with
  | last hmode hnext => simp [commaParts, hmode, hnext]
  | more hmode _ _ ih => simp [commaParts, hmode, ih, Function.comp_def]

theorem quote (s : String) : Undivided (Literal.quote s).toList := by
  intro rest
  obtain ⟨cs, hquote, hcloses⟩ := Literal.exists_closes_quote s
  simp [hquote, commaParts, Mode.next, commaParts_of_closes hcloses rest, Function.comp_def]

end Undivided

theorem commaParts_intercalate {texts : List (List Char)} (hne : texts ≠ [])
    (h : ∀ text ∈ texts, Undivided text) : commaParts .outside ([','].intercalate texts) = texts := by
  induction texts with
  | nil => exact absurd rfl hne
  | cons text texts ih =>
    have htext : Undivided text := h text List.mem_cons_self
    cases texts with
    | nil =>
      have hend := htext []
      simpa [commaParts] using hend
    | cons next texts =>
      have hrest := ih (by simp) fun t ht => h t (List.mem_cons_of_mem _ ht)
      rw [List.intercalate_cons_cons, List.append_assoc, htext, List.singleton_append, commaParts,
        if_pos ⟨rfl, rfl⟩, hrest]
      simp

theorem listParts?_paren (cs : List Char) :
    listParts? (String.ofList ('(' :: cs ++ [')'])) =
      some ((commaParts .outside cs).map String.ofList) := by
  simp [listParts?]

/-! ### Elements -/

namespace Value

/-- The text of a value in a list. A string is always quoted, also in the form of a date. -/
inductive ListedAs : Value → String → Prop
  | null : ListedAs .null "null"
  | bool (b : Bool) : ListedAs (.bool b) (if b then "true" else "false")
  | number (n : Number) : ListedAs (.number n) n.text
  | string (s : String) : ListedAs (.string s) (Literal.quote s)
  | date (t : Instant) : ListedAs (.date t) t.text

/-- Two values that the text of a list does not tell apart: equal strings, or two values with the same
literal that are no strings. -/
inductive SameInList : Value → Value → Prop
  | string (s : String) : SameInList (.string s) (.string s)
  | bare {v w : Value} {text : String} : (∀ s, v ≠ .string s) → (∀ s, w ≠ .string s) →
      v.literal? = some (.bare text) → w.literal? = some (.bare text) → SameInList v w

theorem listLiteral?_listedAs {v : Value} (h : v.isCompound = false) :
    ∃ l, v.listLiteral? = some l ∧ v.ListedAs l.text := by
  cases v with
  | null => exact ⟨_, rfl, .null⟩
  | bool b => exact ⟨_, rfl, .bool b⟩
  | number n => exact ⟨_, rfl, .number n⟩
  | string s => exact ⟨_, rfl, .string s⟩
  | date t => exact ⟨_, rfl, .date t⟩
  | array items => cases h
  | object entries => cases h

namespace ListedAs

theorem cases_string {v : Value} {text : String} (h : v.ListedAs text) :
    (∃ s, v = .string s ∧ text = Literal.quote s) ∨
      (∀ s, v ≠ .string s) ∧ v.literal? = some (.bare text) := by
  cases h with
  | string s => exact .inl ⟨s, rfl, rfl⟩
  | _ => exact .inr ⟨by simp, rfl⟩

/- The comma of a fraction stands in strings only, which are quoted here. -/
theorem undivided {v : Value} {text : String} (h : v.ListedAs text) : Undivided text.toList := by
  have hclass {p : Char → Bool} {cs : List Char} (hcs : ∀ c ∈ cs, p c = true)
      (hquote : p '\x27' = false) (hcomma : p ',' = false) : Undivided cs :=
    .of_no_comma (fun hc => ne_of_class (hcs _ hc) hquote rfl)
      (fun hc => ne_of_class (hcs _ hc) hcomma rfl)
  cases h with
  | null => exact .of_no_comma (by decide) (by decide)
  | bool b => cases b <;> exact .of_no_comma (by decide) (by decide)
  | number n => exact hclass n.textForm_text.numberChars (by decide) (by decide)
  | string s => exact .quote s
  | date t => exact hclass t.clockChars_text (by decide) (by decide)

theorem sameInList {v w : Value} {text : String} (hv : v.ListedAs text) (hw : w.ListedAs text) :
    v.SameInList w := by
  have hapart {u : Value} {s : String} (hu : u.literal? = some (.bare (Literal.quote s))) : False := by
    have hbare : Bare (Literal.quote s).toList := wellFormed_of_literal? hu
    have hquote := hbare '\x27' (by simp)
    exact ne_of_class hquote (show isBareChar '\x27' = false by decide) rfl
  rcases hv.cases_string with ⟨s, rfl, rfl⟩ | ⟨hv, hvtext⟩
  · rcases hw.cases_string with ⟨s', rfl, heq⟩ | ⟨_, hwtext⟩
    · rw [Literal.quote_inj heq]
      exact .string s'
    · exact (hapart hwtext).elim
  · rcases hw.cases_string with ⟨s', rfl, rfl⟩ | ⟨hw, hwtext⟩
    · exact (hapart hvtext).elim
    · exact .bare hv hw hvtext hwtext

end ListedAs

end Value

/-! ### Operands -/

/-- The items make a list: there is at least one, and each has a literal. -/
def Listable (items : List Value) : Prop := items ≠ [] ∧ ∀ item ∈ items, item.isCompound = false

theorem undivided_of_listedAs {items : List Value} {parts : List String}
    (h : List.Forall₂ Value.ListedAs items parts) : ∀ part ∈ parts, Undivided part.toList := by
  induction h with
  | nil => simp
  | cons hpart _ ih => exact List.forall_mem_cons.mpr ⟨hpart.undivided, ih⟩

theorem sameInList_of_listedAs {items items' : List Value} {parts : List String}
    (h : List.Forall₂ Value.ListedAs items parts) (h' : List.Forall₂ Value.ListedAs items' parts) :
    List.Forall₂ Value.SameInList items items' := by
  induction h generalizing items' with
  | nil =>
    cases h'
    exact .nil
  | cons hpart _ ih =>
    cases h' with
    | cons hpart' hrest' => exact .cons (hpart.sameInList hpart') (ih hrest')

namespace Operand

theorem mapM_element (field : String) {items : List Value}
    (h : ∀ item ∈ items, item.isCompound = false) :
    ∃ literals, items.mapM (element field) = .ok literals ∧
      List.Forall₂ Value.ListedAs items (literals.map Literal.text) := by
  induction items with
  | nil => exact ⟨[], rfl, .nil⟩
  | cons item items ih =>
    obtain ⟨l, hl, hlisted⟩ := Value.listLiteral?_listedAs (h item List.mem_cons_self)
    obtain ⟨ls, hls, hrest⟩ := ih fun i hi => h i (List.mem_cons_of_mem _ hi)
    have helement : element field item = .ok l := by rw [element, hl]
    refine ⟨l :: ls, ?_, .cons hlisted hrest⟩
    rw [List.mapM_cons, helement, hls]
    rfl

theorem listParts?_text {literals : List Literal} (hne : literals ≠ [])
    (h : ∀ part ∈ literals.map Literal.text, Undivided part.toList) :
    listParts? (Operand.list literals).text = some (literals.map Literal.text) := by
  have hparts : commaParts .outside ([','].intercalate (literals.map fun l => l.text.toList)) =
      literals.map fun l => l.text.toList := by
    apply commaParts_intercalate
    · simpa using hne
    · intro text ht
      obtain ⟨l, hl, rfl⟩ := List.mem_map.mp ht
      exact h l.text (List.mem_map_of_mem hl)
  rw [← String.ofList_toList (s := (Operand.list literals).text), toList_text_list, listParts?_paren,
    hparts, List.map_map]
  simp [Function.comp_def]

theorem ofValue_listable (field : String) {operator : Comparator} (ho : operator.takesList = true)
    {items : List Value} (h : Listable items) :
    ∃ operand parts, ofValue field operator (.array items) = .ok operand ∧
      listParts? operand.text = some parts ∧ List.Forall₂ Value.ListedAs items parts := by
  obtain ⟨hne, hscalar⟩ := h
  obtain ⟨literals, hmap, hlisted⟩ := mapM_element field hscalar
  obtain ⟨item, others, rfl⟩ := List.exists_cons_of_ne_nil hne
  have hliterals : literals ≠ [] := by
    rintro rfl
    cases hlisted
  refine ⟨.list literals, literals.map Literal.text, ?_,
    listParts?_text hliterals (undivided_of_listedAs hlisted), hlisted⟩
  simp only [ofValue, if_pos ho, hmap]
  rfl

/-- The operand of a list is a text in parentheses, and the parts between its commas are the elements in
their order: strings in quotes, and all others by their bare literals. So two lists with the same operand
are equally long, and their elements are pairwise equal strings or have the same bare literal. -/
theorem list_reads_back :
    (∀ (field : String) (operator : Comparator) (items : List Value),
      operator.takesList = true → Listable items →
      ∃ operand parts, ofValue field operator (.array items) = .ok operand ∧
        listParts? operand.text = some parts ∧ List.Forall₂ Value.ListedAs items parts) ∧
    ∀ (field field' : String) (operator operator' : Comparator) (items items' : List Value)
      (operand operand' : Operand), operator.takesList = true → operator'.takesList = true →
      Listable items → Listable items' →
      ofValue field operator (.array items) = .ok operand →
      ofValue field' operator' (.array items') = .ok operand' →
      operand.text = operand'.text → List.Forall₂ Value.SameInList items items' := by
  refine ⟨fun field operator items ho h => ofValue_listable field ho h, ?_⟩
  intro field field' operator operator' items items' operand operand' ho ho' h h' hvalue hvalue' htext
  obtain ⟨_, parts, hok, hread, hlisted⟩ := ofValue_listable field ho h
  obtain ⟨_, parts', hok', hread', hlisted'⟩ := ofValue_listable field' ho' h'
  obtain rfl := Except.ok.inj (hok.symm.trans hvalue)
  obtain rfl := Except.ok.inj (hok'.symm.trans hvalue')
  rw [htext, hread'] at hread
  obtain rfl := Option.some.inj hread
  exact sameInList_of_listedAs hlisted hlisted'

/- The first string holds what would end its literal and begin a new element, and the two instants differ
by less than a millisecond. -/
theorem list_reads_back_comma_in_string :
    let strings : List Value := [.string "a\x27,\x27b\\", .string "2024-01-01T00:00:00,5"]
    let items := strings ++ [.null, .date ⟨1709164800, 0, by decide, by decide⟩]
    let items' := strings ++ [.null, .date ⟨1709164800, 1, by decide, by decide⟩]
    let text := "(\x27a\\\x27,\\\x27b\\\\\x27,\x272024-01-01T00:00:00,5\x27,null,2024-02-29T00:00:00.000Z)"
    (Listable items ∧ Listable items') ∧
      ∃ operand operand', ofValue "Due" .isIn (.array items) = .ok operand ∧
        ofValue "Closed" .notIn (.array items') = .ok operand' ∧
        operand.text = text ∧ operand'.text = text ∧ List.Forall₂ Value.SameInList items items' ∧
        ∃ parts, listParts? text = some parts ∧ List.Forall₂ Value.ListedAs items parts := by
  intro strings items items' text
  have hitems : Listable items := by simp [Listable, items, strings, Value.isCompound]
  have hitems' : Listable items' := by simp [Listable, items', strings, Value.isCompound]
  obtain ⟨operand, parts, hok, hread, hlisted⟩ := list_reads_back.1 "Due" .isIn items rfl hitems
  obtain ⟨operand', _, hok', _, _⟩ := list_reads_back.1 "Closed" .notIn items' rfl hitems'
  have htext : (ofValue "Due" .isIn (.array items)).toOption.map Operand.text = some text := by
    unfold items strings text
    decide +kernel
  have htext' : (ofValue "Closed" .notIn (.array items')).toOption.map Operand.text = some text := by
    unfold items' strings text
    decide +kernel
  rw [hok] at htext
  rw [hok'] at htext'
  have htext : operand.text = text := Option.some.inj htext
  have htext' : operand'.text = text := Option.some.inj htext'
  have hsame := list_reads_back.2 "Due" "Closed" .isIn .notIn items items' operand operand' rfl rfl
    hitems hitems' hok hok' (htext.trans htext'.symm)
  rw [htext] at hread
  exact ⟨⟨hitems, hitems'⟩, operand, operand', hok, hok', htext, htext', hsame, parts, hread, hlisted⟩

end Operand

end SoqlSelect
