import SoqlSelect.Condition
import SoqlSelect.Proofs.OperandReader

/-!
# Reading conditions

A reader for the text of conditions, and the truth of what it reads. A group stands in parentheses and
has items joined by one connective, so a group of one item does not show which; an item is a group or
a comparison. The main statement says that a condition with named fields is read as the tree that it
is, whatever its operands hold.
-/

namespace SoqlSelect

/-! ### Names -/

def isNameChar (c : Char) : Bool :=
  c.isAlphanum || c == '_' || c == '.'

/-- An API name: one or more letters, digits, underscores or points of ASCII. -/
def isApiName (s : String) : Bool :=
  !s.toList.isEmpty && s.toList.all isNameChar

theorem isApiName_iff {s : String} :
    isApiName s = true ↔ s.toList ≠ [] ∧ ∀ c ∈ s.toList, isNameChar c = true := by
  simp [isApiName]

theorem balanced_of_isApiName {s : String} (h : isApiName s = true) : Balanced s.toList :=
  .of_class (isApiName_iff.mp h).2 (by decide) (by decide) (by decide)

/-! ### Readings -/

structure Atom where
  field : String
  token : String
  operand : String
deriving DecidableEq

inductive Reading
  | atom (a : Atom)
  | group (connective : Option Connective) (parts : List Reading)

namespace Reading

/-- The group of the parts. With one part, it does not show its connective. -/
def join (connective : Connective) (parts : List Reading) : Reading :=
  .group (if parts.length = 1 then none else some connective) parts

mutual

def holds (truth : Atom → Bool) : Reading → Bool
  | .atom a => truth a
  | .group (some .or) parts => anyHolds truth parts
  | .group (some .and) parts => allHold truth parts
  | .group none parts => allHold truth parts

def allHold (truth : Atom → Bool) : List Reading → Bool
  | [] => true
  | part :: rest => holds truth part && allHold truth rest

def anyHolds (truth : Atom → Bool) : List Reading → Bool
  | [] => false
  | part :: rest => holds truth part || anyHolds truth rest

end

@[simp] theorem allHold_eq_all (truth : Atom → Bool) (parts : List Reading) :
    allHold truth parts = parts.all (holds truth) := by
  induction parts with
  | nil => rfl
  | cons part rest ih => simp [allHold, ih]

@[simp] theorem anyHolds_eq_any (truth : Atom → Bool) (parts : List Reading) :
    anyHolds truth parts = parts.any (holds truth) := by
  induction parts with
  | nil => rfl
  | cons part rest ih => simp [anyHolds, ih]

@[simp] theorem holds_join_and (truth : Atom → Bool) (parts : List Reading) :
    (join .and parts).holds truth = parts.all (holds truth) := by
  unfold join
  split <;> exact allHold_eq_all truth parts

@[simp] theorem holds_join_or (truth : Atom → Bool) (parts : List Reading) :
    (join .or parts).holds truth = parts.any (holds truth) := by
  unfold join
  split
  · rename_i h
    obtain ⟨part, rfl⟩ := List.length_eq_one_iff.mp h
    simp [holds, allHold]
  · exact anyHolds_eq_any truth parts

end Reading

/-! ### Readers -/

open Text Text.Reader

def nameReader : Reader String := do
  let run ← takeWhile1 isNameChar
  return String.ofList run

/-- The token of a comparator, which a blank follows. -/
def tokenReader : Reader String := fun cs =>
  let found := Comparator.all.find? fun c => (c.token.toList ++ [' ']).isPrefixOf cs
  found.map fun c => (c.token, cs.drop c.token.toList.length)

def atomReader : Reader Reading := do
  let field ← nameReader
  char ' '
  let token ← tokenReader
  char ' '
  let operand ← operandReader
  return .atom { field, token, operand := String.ofList operand }

def separator (connective : Connective) : String :=
  " " ++ connective.token ++ " "

def groupOf (connective : Connective) (item : Reader Reading) : Reader Reading := do
  char '('
  let parts ← sepBy1 item (string (separator connective))
  char ')'
  return .join connective parts

def groupReader (item : Reader Reading) : Reader Reading :=
  groupOf .and item <|> groupOf .or item

/-- An item with groups up to that depth. -/
def itemReader : Nat → Reader Reading
  | 0 => atomReader
  | depth + 1 => groupReader (itemReader depth) <|> atomReader

/-- The reading of a whole clause. No text has deeper groups than it has characters. -/
def Reading.ofClause? (clause : String) : Option Reading :=
  run? (string "WHERE " *> groupReader (itemReader clause.toList.length)) clause.toList

/-! ### Comparisons -/

namespace Comparison

def atom (c : Comparison) : Atom :=
  { field := c.field, token := c.operator.token, operand := c.operand.text }

structure WellFormed (c : Comparison) : Prop where
  field : isApiName c.field = true
  operand : c.operand.WellFormed

theorem toList_text (c : Comparison) :
    c.text.toList =
      c.field.toList ++ ([' '] ++ (c.operator.token.toList ++ ([' '] ++ c.operand.text.toList))) := by
  simp [text]

end Comparison

theorem takes_nameReader {s : String} {rest : List Char} (h : isApiName s = true)
    (hrest : ∀ c ∈ rest.head?, isNameChar c = false) : Takes nameReader s.toList s rest := by
  obtain ⟨hne, hall⟩ := isApiName_iff.mp h
  have hrun := (takes_takeWhile1 hall hne hrest).bind_pure String.ofList
  rwa [String.ofList_toList] at hrun

theorem takes_tokenReader (c : Comparator) (rest : List Char) :
    Takes tokenReader c.token.toList c.token (' ' :: rest) := by
  cases c <;> rfl

theorem takes_atomReader {c : Comparison} {rest : List Char} (h : c.WellFormed)
    (hrest : endsOperand rest = true) :
    Takes atomReader c.text.toList (.atom c.atom) rest := by
  rw [Comparison.toList_text]
  refine Takes.bind (takes_nameReader h.field (head?_cons_false (by decide) _)) ?_
  refine Takes.bind (takes_char ' ' _) ?_
  refine Takes.bind (takes_tokenReader c.operator _) ?_
  refine Takes.bind (takes_char ' ' _) ?_
  have hoperand := (Operand.takes_operandReader h.operand (.inr hrest)).bind_pure fun operand =>
    Reading.atom { field := c.field, token := c.operator.token, operand := String.ofList operand }
  rwa [String.ofList_toList] at hoperand

/-! ### Groups -/

namespace Condition

mutual

def reading : Condition → Reading
  | .comparison c => .atom c.atom
  | .group connective parts => .join connective (readings parts)

def readings : List Condition → List Reading
  | [] => []
  | part :: rest => reading part :: readings rest

end

@[simp] theorem readings_eq_map (parts : List Condition) : readings parts = parts.map reading := by
  induction parts with
  | nil => rfl
  | cons part rest ih => simp [readings, ih]

inductive WellFormed : Condition → Prop
  | comparison {c : Comparison} : c.WellFormed → WellFormed (.comparison c)
  | group {connective : Connective} {parts : List Condition} :
      parts ≠ [] → (∀ part ∈ parts, WellFormed part) → WellFormed (.group connective parts)

theorem toList_text_group (connective : Connective) (parts : List Condition) :
    (Condition.group connective parts).text.toList =
      ['('] ++ ((separator connective).toList.intercalate (parts.map fun p => p.text.toList) ++
        [')']) := by
  simp [text, separator, String.toList_intercalate, Function.comp_def]

theorem balanced_separator (connective : Connective) : Balanced (separator connective).toList := by
  refine .of_plain ?_
  cases connective <;> decide

theorem balanced_texts {connective : Connective} {parts : List Condition}
    (h : ∀ part ∈ parts, Balanced part.text.toList) :
    Balanced ((separator connective).toList.intercalate (parts.map fun p => p.text.toList)) := by
  refine .intercalate (balanced_separator connective) ?_
  intro text ht
  obtain ⟨part, hp, rfl⟩ := List.mem_map.mp ht
  exact h part hp

theorem balanced_text {c : Condition} (h : WellFormed c) : Balanced c.text.toList := by
  induction h with
  | comparison hc =>
    show Balanced (Comparison.text _).toList
    rw [Comparison.toList_text]
    have blank : Balanced [' '] := .of_plain (by decide)
    have htoken (o : Comparator) : Balanced o.token.toList := .of_plain (by cases o <;> decide)
    exact (balanced_of_isApiName hc.field).append
      (blank.append ((htoken _).append (blank.append (Operand.balanced_text hc.operand))))
  | group _ _ ih =>
    rw [toList_text_group]
    exact .paren (balanced_texts ih)

theorem endsOperand_separator (connective : Connective) (more : List Char) :
    endsOperand ((separator connective).toList ++ more) = true := by
  cases connective <;> rfl

theorem not_separator_paren (connective : Connective) (rest : List Char) :
    (separator connective).toList.isPrefixOf (')' :: rest) = false := by
  cases connective <;> rfl

theorem takes_groupOf {item : Reader Reading} {connective : Connective} {parts : List Condition}
    {rest : List Char} (hne : parts ≠ [])
    (hitem : ∀ part ∈ parts, ∀ more, endsOperand more = true →
      Takes item part.text.toList part.reading more) :
    Takes (groupOf connective item) (Condition.group connective parts).text.toList
      (Condition.group connective parts).reading rest := by
  rw [toList_text_group, reading, readings_eq_map]
  have hparts : Takes (sepBy1 item (string (separator connective)))
      ((separator connective).toList.intercalate (parts.map fun p => p.text.toList))
      (parts.map reading) (')' :: rest) := by
    refine takes_sepBy1 hne hitem ?_ (endsOperand_separator connective) rfl
      (not_separator_paren connective rest)
    cases connective <;> decide
  refine Takes.bind (takes_char '(' _) (Takes.bind hparts ?_)
  exact (takes_char ')' rest).bind_pure fun _ => Reading.join connective (parts.map reading)

/- A disjunction with more than one part is not read as a conjunction: the reader of the conjunction
stops behind the first part, where no group ends. -/
theorem groupOf_and_eq_none {item : Reader Reading} {first second : Condition}
    {others : List Condition} {rest : List Char}
    (hitem : ∀ more, endsOperand more = true →
      Takes item first.text.toList first.reading more) :
    groupOf .and item
      ((Condition.group .or (first :: second :: others)).text.toList ++ rest) = none := by
  have htext : (Condition.group .or (first :: second :: others)).text.toList ++ rest =
      ['('] ++ (first.text.toList ++ ((separator .or).toList ++
        ((separator .or).toList.intercalate ((second :: others).map fun p => p.text.toList) ++
          ([')'] ++ rest)))) := by
    simp only [toList_text_group, List.map_cons, List.intercalate_cons_cons, List.append_assoc]
  rw [htext]
  generalize (separator .or).toList.intercalate _ ++ ([')'] ++ rest) = tail
  have hone : ∀ part ∈ [first], ∀ more, endsOperand more = true →
      Takes item part.text.toList part.reading more := by
    intro part hp
    rw [List.mem_singleton.mp hp]
    exact hitem
  have hfirst : Takes (sepBy1 item (string (separator .and))) first.text.toList [first.reading]
      ((separator .or).toList ++ tail) := by
    have hsep : (separator .and).toList.isPrefixOf ((separator .or).toList ++ tail) = false := rfl
    simpa using takes_sepBy1 (List.cons_ne_nil first []) hone
      (show (separator .and).toList ≠ [] by decide) (endsOperand_separator .and)
      (endsOperand_separator .or tail) hsep
  refine Takes.bind_eq_none (takes_char '(' _) (Takes.bind_eq_none hfirst ?_)
  exact bind_eq_none _ (char_eq_none (by decide) _)

theorem takes_groupReader {item : Reader Reading} {connective : Connective}
    {parts : List Condition} {rest : List Char} (hne : parts ≠ [])
    (hitem : ∀ part ∈ parts, ∀ more, endsOperand more = true →
      Takes item part.text.toList part.reading more) :
    Takes (groupReader item) (Condition.group connective parts).text.toList
      (Condition.group connective parts).reading rest := by
  cases connective with
  | and => exact (takes_groupOf hne hitem).orElse _
  | or =>
    match parts, hne, hitem with
    | [part], hne, hitem =>
      -- A group of one part is written in the same way for both connectives.
      have hand : Takes (groupOf .and item) (Condition.group .and [part]).text.toList
          (Condition.group .and [part]).reading rest := takes_groupOf hne hitem
      exact hand.orElse _
    | first :: second :: others, hne, hitem =>
      exact (takes_groupOf hne hitem).orElse_of_none (groupOf_and_eq_none (hitem first (by simp)))

theorem groupReader_comparison {item : Reader Reading} {c : Comparison} {rest : List Char}
    (h : c.WellFormed) : groupReader item (c.text.toList ++ rest) = none := by
  obtain ⟨hne, hall⟩ := isApiName_iff.mp h.field
  obtain ⟨d, ds, hd⟩ := List.exists_cons_of_ne_nil hne
  have hparen : d ≠ '(' := ne_of_class (hall d (by simp [hd])) (by decide)
  have hgroup (connective : Connective) : groupOf connective item (c.text.toList ++ rest) = none := by
    rw [Comparison.toList_text, hd]
    exact bind_eq_none _ (char_eq_none hparen _)
  show (groupOf .and item _ <|> groupOf .or item _) = none
  rw [hgroup, hgroup]
  rfl

theorem length_le_intercalate {sep text : List Char} {texts : List (List Char)} (h : text ∈ texts) :
    text.length ≤ (sep.intercalate texts).length := by
  induction texts with
  | nil => cases h
  | cons first others ih =>
    cases others with
    | nil =>
      rw [List.mem_singleton.mp h]
      simp
    | cons next others =>
      rw [List.intercalate_cons_cons, List.length_append, List.length_append]
      rcases List.mem_cons.mp h with rfl | h
      · omega
      · have := ih h
        omega

theorem length_text_part {connective : Connective} {parts : List Condition} {part : Condition}
    (h : part ∈ parts) :
    part.text.toList.length + 2 ≤ (Condition.group connective parts).text.toList.length := by
  have hmem : part.text.toList ∈ parts.map fun p => p.text.toList := List.mem_map.mpr ⟨part, h, rfl⟩
  have hle : part.text.toList.length ≤ ((separator connective).toList.intercalate
      (parts.map fun p => p.text.toList)).length := length_le_intercalate hmem
  simp only [toList_text_group, List.length_append, List.length_singleton]
  omega

theorem takes_itemReader {c : Condition} (h : WellFormed c) :
    ∀ depth, c.text.toList.length ≤ depth → ∀ rest, endsOperand rest = true →
      Takes (itemReader depth) c.text.toList c.reading rest := by
  induction h with
  | comparison hc =>
    intro depth _ rest hrest
    cases depth with
    | zero => exact takes_atomReader hc hrest
    | succ depth =>
      exact (takes_atomReader hc hrest).orElse_of_none (groupReader_comparison hc)
  | @group connective parts hne _ ih =>
    intro depth hdepth rest hrest
    cases depth with
    | zero =>
      -- A group has its parentheses at least, so its text is not that short.
      obtain ⟨part, others, rfl⟩ := List.exists_cons_of_ne_nil hne
      have : part.text.toList.length + 2 ≤
          (Condition.group connective (part :: others)).text.toList.length :=
        length_text_part List.mem_cons_self
      omega
    | succ depth =>
      refine (takes_groupReader hne fun part hp => ih part hp depth ?_).orElse _
      have : part.text.toList.length + 2 ≤ (Condition.group connective parts).text.toList.length :=
        length_text_part hp
      omega

/-- The clause of a group is read as the group. -/
theorem ofClause?_text {connective : Connective} {parts : List Condition}
    (h : WellFormed (.group connective parts)) :
    Reading.ofClause? ("WHERE " ++ (Condition.group connective parts).text) =
      some (Condition.group connective parts).reading := by
  cases h with
  | group hne hparts =>
    refine run?_of_takes ?_
    rw [String.toList_append]
    refine Takes.seqRight (takes_string "WHERE " _) (takes_groupReader hne fun part hp => ?_)
    refine takes_itemReader (hparts part hp) _ ?_
    have : part.text.toList.length + 2 ≤ (Condition.group connective parts).text.toList.length :=
      length_text_part hp
    rw [List.length_append]
    omega

end Condition

end SoqlSelect
