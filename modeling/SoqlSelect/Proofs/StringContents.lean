import SoqlSelect.Proofs.MaskedText
import SoqlSelect.Proofs.StatementReader
import SoqlSelect.Proofs.TwoRuns

/-!
# Strings and the structure of queries

Two filters that differ only in the contents of their strings are followed side by side, from their
values to the text of a query. Each step fails for both or gives texts that are the same outside of
string literals. The main statement says that strings have no influence on the structure of a query,
whatever they hold.
-/

namespace SoqlSelect

/-! ### Values that differ in strings only -/

namespace Value

def isString : Value → Bool
  | .string _ => true
  | _ => false

mutual

/-- The same value, but for the contents of strings. A string that stands alone may differ only if
neither is in the form of a date; a string in an array may differ in any way. -/
def alike : Value → Value → Bool
  | .null, .null => true
  | .bool a, .bool b => a == b
  | .number a, .number b => a == b
  | .string a, .string b => a == b || (!isIsoDate a && !isIsoDate b)
  | .date a, .date b => a == b
  | .array as, .array bs => itemsAlike as bs
  | .object as, .object bs => entriesAlike as bs
  | _, _ => false

def itemsAlike : List Value → List Value → Bool
  | [], [] => true
  | a :: as, b :: bs => (a.isString && b.isString || alike a b) && itemsAlike as bs
  | _, _ => false

def entriesAlike : Entries → Entries → Bool
  | [], [] => true
  | (k, a) :: as, (l, b) :: bs => k == l && alike a b && entriesAlike as bs
  | _, _ => false

end

mutual

/-- All keys in the value, at every depth. -/
def keys : Value → List String
  | .array items => itemsKeys items
  | .object entries => entriesKeys entries
  | _ => []

def itemsKeys : List Value → List String
  | [] => []
  | item :: rest => keys item ++ itemsKeys rest

def entriesKeys : Entries → List String
  | [] => []
  | (key, value) :: rest => key :: keys value ++ entriesKeys rest

end

end Value

/-! ### Pairs of values -/

/- Values that differ in strings only, with keys that have no quote. -/
def PairedValue (v w : Value) : Prop := v.alike w = true ∧ ∀ key ∈ v.keys, NoQuote key

def PairedItem (v w : Value) : Prop :=
  (∃ a b, v = .string a ∧ w = .string b) ∨ PairedValue v w

def PairedEntry (e f : String × Value) : Prop := e.1 = f.1 ∧ NoQuote e.1 ∧ PairedValue e.2 f.2

theorem forall₂_pairedItem {as bs : List Value} (h : Value.itemsAlike as bs = true)
    (hkeys : ∀ key ∈ Value.itemsKeys as, NoQuote key) : List.Forall₂ PairedItem as bs := by
  induction as generalizing bs with
  | nil =>
    cases bs with
    | nil => exact .nil
    | cons b bs => cases h
  | cons a as ih =>
    cases bs with
    | nil => cases h
    | cons b bs =>
      simp only [Value.itemsAlike, Bool.and_eq_true, Bool.or_eq_true] at h
      simp only [Value.itemsKeys, List.mem_append] at hkeys
      refine .cons ?_ (ih h.2 fun key hk => hkeys key (.inr hk))
      rcases h.1 with hs | ha
      · left
        cases a <;> cases hs.1
        cases b <;> cases hs.2
        exact ⟨_, _, rfl, rfl⟩
      · exact .inr ⟨ha, fun key hk => hkeys key (.inl hk)⟩

theorem forall₂_pairedEntry {es fs : Entries} (h : Value.entriesAlike es fs = true)
    (hkeys : ∀ key ∈ Value.entriesKeys es, NoQuote key) : List.Forall₂ PairedEntry es fs := by
  induction es generalizing fs with
  | nil =>
    cases fs with
    | nil => exact .nil
    | cons f fs => cases h
  | cons e es ih =>
    cases fs with
    | nil => cases h
    | cons f fs =>
      simp only [Value.entriesAlike, Bool.and_eq_true, beq_iff_eq] at h
      simp only [Value.entriesKeys, List.cons_append, List.mem_cons, List.mem_append] at hkeys
      refine .cons ⟨h.1.1, hkeys _ (.inl rfl), h.1.2, ?_⟩ (ih h.2 ?_)
      · exact fun key hk => hkeys key (.inr (.inl hk))
      · exact fun key hk => hkeys key (.inr (.inr hk))

/- The ways in which two paired values go together. -/
inductive Pairing : Value → Value → Prop
  | same {v : Value} : v.isCompound = false → Pairing v v
  | strings {a b : String} : isIsoDate a = false → isIsoDate b = false →
      Pairing (.string a) (.string b)
  | arrays {as bs : List Value} : List.Forall₂ PairedItem as bs → Pairing (.array as) (.array bs)
  | objects {es fs : Entries} : List.Forall₂ PairedEntry es fs → Pairing (.object es) (.object fs)

theorem PairedValue.pairing {v w : Value} (h : PairedValue v w) : Pairing v w := by
  obtain ⟨halike, hkeys⟩ := h
  cases v with
  | null =>
    cases w <;> cases halike
    exact .same rfl
  | bool a =>
    cases w <;> simp [Value.alike] at halike
    rw [halike]
    exact .same rfl
  | number a =>
    cases w <;> simp [Value.alike] at halike
    rw [halike]
    exact .same rfl
  | string a =>
    cases w <;> simp [Value.alike] at halike
    rcases halike with rfl | ⟨ha, hb⟩
    · exact .same rfl
    · exact .strings ha hb
  | date a =>
    cases w <;> simp [Value.alike] at halike
    rw [halike]
    exact .same rfl
  | array as =>
    cases w <;> simp [Value.alike] at halike
    exact .arrays (forall₂_pairedItem halike hkeys)
  | object es =>
    cases w <;> simp [Value.alike] at halike
    exact .objects (forall₂_pairedEntry halike hkeys)

/-! ### Literals and operands -/

def SameLiteral (l m : Literal) : Prop := SameOutside l.text.toList m.text.toList

def SameOperand (o p : Operand) : Prop := SameOutside o.text.toList p.text.toList

theorem sameLiteral_of_wellFormed {l : Literal} (h : l.WellFormed) : SameLiteral l l := by
  cases l with
  | bare text => exact .of_bare h
  | quoted content => exact .quote content content

/- Two times the same literal, or two times none. -/
theorem rel_of_wellFormed {literal? : Option Literal} (h : ∀ l ∈ literal?, l.WellFormed) :
    Option.Rel SameLiteral literal? literal? := by
  cases literal? with
  | none => exact .none
  | some l => exact .some (sameLiteral_of_wellFormed (h l rfl))

theorem rel_literal? {v w : Value} (h : Pairing v w) :
    Option.Rel SameLiteral v.literal? w.literal? := by
  cases h with
  | same _ => exact rel_of_wellFormed fun l hl => Value.wellFormed_of_literal? hl
  | @strings a b ha hb =>
    -- One in the form of a date would be bare, and the other not.
    simp only [Value.literal?, ha, hb, Bool.false_eq_true, if_false]
    exact .some (.quote a b)
  | arrays _ => exact .none
  | objects _ => exact .none

theorem rel_listLiteral? {v w : Value} (h : PairedItem v w) :
    Option.Rel SameLiteral v.listLiteral? w.listLiteral? := by
  rcases h with ⟨a, b, rfl, rfl⟩ | h
  · -- In a list every string is quoted, also one in the form of a date.
    exact .some (.quote a b)
  · cases h.pairing with
    | same _ => exact rel_of_wellFormed fun l hl => Value.wellFormed_of_listLiteral? hl
    | @strings a b _ _ => exact .some (.quote a b)
    | arrays _ => exact .none
    | objects _ => exact .none

theorem together_element {v w : Value} (field : String) (h : PairedItem v w) :
    Together SameLiteral (Operand.element field v) (Operand.element field w) := by
  have hrel := rel_listLiteral? h
  unfold Operand.element
  generalize v.listLiteral? = l, w.listLiteral? = m at hrel
  cases hrel with
  | some hlm => exact .ok hlm
  | none => exact .error

theorem sameOperand_list {ls ms : List Literal} (h : List.Forall₂ SameLiteral ls ms) :
    SameOperand (.list ls) (.list ms) := by
  unfold SameOperand
  rw [Operand.toList_text_list, Operand.toList_text_list]
  exact .paren (.intercalate (by decide) h)

theorem together_operand {v w : Value} (field : String) (operator : Comparator)
    (h : PairedValue v w) :
    Together SameOperand (Operand.ofValue field operator v) (Operand.ofValue field operator w) := by
  unfold Operand.ofValue
  by_cases hl : operator.takesList = true
  · simp only [if_pos hl]
    cases h.pairing with
    | same hv =>
      cases v with
      | array items => cases hv
      | _ => exact .error
    | strings _ _ => exact .error
    | arrays hitems =>
      cases hitems with
      | nil => exact .error
      | cons hitem hitems =>
        refine Together.map (Together.mapM (.cons hitem hitems) fun _ _ => together_element field) ?_
        exact fun _ _ => sameOperand_list
    | objects _ => exact .error
  · have hrel := rel_literal? h.pairing
    simp only [if_neg hl]
    generalize v.literal? = l, w.literal? = m at hrel
    cases hrel with
    | some hlm => exact .ok hlm
    | none => exact .error

/-! ### Comparisons and conditions -/

def SameComparison (c d : Comparison) : Prop := SameOutside c.text.toList d.text.toList

def SameCondition (c d : Condition) : Prop := SameOutside c.text.toList d.text.toList

theorem together_comparison {v w : Value} {field : String} (hfield : NoQuote field)
    (operator : Comparator) (h : PairedValue v w) :
    Together SameComparison (Comparison.ofValue field operator v)
      (Comparison.ofValue field operator w) := by
  refine (together_operand field operator h).map fun o p hop => ?_
  have blank : SameOutside [' '] [' '] := .of_no_quote (by decide)
  have htoken : NoQuote operator.token := by cases operator <;> decide
  unfold SameComparison
  rw [Comparison.toList_text, Comparison.toList_text]
  exact hfield.sameOutside.append (blank.append (htoken.sameOutside.append (blank.append hop)))

theorem together_comparisons {e f : String × Value} (h : PairedEntry e f) :
    Together (List.Forall₂ SameComparison) (Filter.comparisons e.1 e.2)
      (Filter.comparisons f.1 f.2) := by
  obtain ⟨field, v⟩ := e
  obtain ⟨field', w⟩ := f
  obtain ⟨hkey, hfield, hvalue⟩ := h
  obtain rfl : field = field' := hkey
  have hone (operator : Comparator) : Together (List.Forall₂ SameComparison)
      ((Comparison.ofValue field operator v).map fun c => [c])
      ((Comparison.ofValue field operator w).map fun c => [c]) :=
    (together_comparison hfield operator hvalue).map fun _ _ hcd => .cons hcd .nil
  unfold Filter.comparisons
  cases Connective.ofSymbol? field with
  | some connective => exact .error
  | none =>
    -- Paired values have the same form, so that both entries take the same branch.
    cases PairedValue.pairing hvalue with
    | same hv =>
      cases v with
      | array items => cases hv
      | object entries => cases hv
      | _ => exact hone .equal
    | strings _ _ => exact hone .equal
    | arrays _ => exact hone .isIn
    | objects hentries =>
      cases hentries with
      | nil => exact .error
      | cons hentry hentries =>
        refine .mapM (.cons hentry hentries) fun g g' hg => ?_
        obtain ⟨symbol, operand⟩ := g
        obtain ⟨symbol', operand'⟩ := g'
        obtain ⟨hsymbol, _, hoperand⟩ := hg
        obtain rfl : symbol = symbol' := hsymbol
        refine (Together.refl (Comparator.ofSymbol symbol)).bind ?_
        rintro operator _ rfl
        exact together_comparison hfield operator hoperand

theorem sameCondition_group {cs ds : List Condition} (connective : Connective)
    (h : List.Forall₂ SameCondition cs ds) :
    SameCondition (.group connective cs) (.group connective ds) := by
  have hseparator : NoQuote (separator connective) := by cases connective <;> decide
  unfold SameCondition
  rw [Condition.toList_text_group, Condition.toList_text_group]
  exact .paren (.intercalate hseparator h)

theorem together_expression {es fs : Entries} (h : List.Forall₂ PairedEntry es fs) :
    Together SameCondition (Filter.expression es) (Filter.expression fs) := by
  cases h with
  | nil => exact .error
  | cons hentry hentries =>
    refine (Together.mapM (.cons hentry hentries) fun _ _ => together_comparisons).bind ?_
    intro groups groups' hgroups
    refine .ok (sameCondition_group .and ?_)
    have hcomparison : ∀ c d, SameComparison c d → SameCondition (.comparison c) (.comparison d) :=
      fun _ _ hcd => hcd
    exact List.rel_map hcomparison (List.rel_flatten hgroups)

/-! ### Parts -/

open SoqlSelect.Filter (Parts)

theorem together_expressions {v w : Value} (connective : Connective) (h : PairedValue v w) :
    Together (List.Forall₂ (List.Forall₂ PairedEntry)) (Filter.expressions connective v)
      (Filter.expressions connective w) := by
  cases h.pairing with
  | same hv =>
    cases v with
    | array items => cases hv
    | _ => exact .error
  | strings _ _ => exact .error
  | objects _ => exact .error
  | arrays hitems =>
    cases hitems with
    | nil => exact .error
    | cons hitem hitems =>
      refine .mapM (.cons hitem hitems) fun item item' hpair => ?_
      rcases hpair with ⟨a, b, rfl, rfl⟩ | hpair
      · exact .error
      · cases hpair.pairing with
        | same hv =>
          cases item with
          | object entries => cases hv
          | _ => exact .error
        | strings _ _ => exact .error
        | arrays _ => exact .error
        | objects hentries => exact .ok hentries

structure PairedParts (p q : Parts) : Prop where
  given : ∀ c, Option.Rel (List.Forall₂ (List.Forall₂ PairedEntry)) (p.given c) (q.given c)
  fields : List.Forall₂ PairedEntry p.fields q.fields

theorem together_add {p q : Parts} {e f : String × Value} (hparts : PairedParts p q)
    (h : PairedEntry e f) : Together PairedParts (p.add e) (q.add f) := by
  obtain ⟨key, v⟩ := e
  obtain ⟨key', w⟩ := f
  obtain ⟨hkey, hquote, hvalue⟩ := h
  obtain rfl : key = key' := hkey
  cases hk : Connective.ofSymbol? key with
  | none =>
    rw [Parts.add_field p v hk, Parts.add_field q w hk]
    refine .ok ⟨fun c => ?_, ?_⟩
    · rw [Parts.given_fields, Parts.given_fields]
      exact hparts.given c
    · exact List.rel_append hparts.fields (.cons ⟨rfl, hquote, hvalue⟩ .nil)
  | some c =>
    obtain rfl := Connective.ofSymbol?_eq_some.mp hk
    rw [Parts.add_connective, Parts.add_connective]
    have honce : Together (List.Forall₂ (List.Forall₂ PairedEntry))
        (Parts.once c (p.given c) v) (Parts.once c (q.given c) w) := by
      have hgiven := hparts.given c
      generalize p.given c = l, q.given c = m at hgiven
      cases hgiven with
      | some _ => exact .error
      | none => exact together_expressions c hvalue
    refine honce.map fun es fs hes => ⟨fun d => ?_, ?_⟩
    · rw [Parts.given_take, Parts.given_take]
      split
      · exact .some hes
      · exact hparts.given d
    · rw [Parts.fields_take, Parts.fields_take]
      exact hparts.fields

theorem together_group {given given' : Option (List Entries)} (connective : Connective)
    (h : Option.Rel (List.Forall₂ (List.Forall₂ PairedEntry)) given given') :
    Together (List.Forall₂ SameCondition) (Parts.group connective given)
      (Parts.group connective given') := by
  cases h with
  | none => exact .ok .nil
  | some hes =>
    refine (Together.mapM hes fun _ _ => together_expression).bind fun cs ds hcs => ?_
    exact .ok (.cons (sameCondition_group connective hcs) .nil)

theorem together_fieldGroup {es fs : Entries} (h : List.Forall₂ PairedEntry es fs) :
    Together (List.Forall₂ SameCondition) (Parts.fieldGroup es) (Parts.fieldGroup fs) := by
  cases h with
  | nil => exact .ok .nil
  | cons hentry hentries =>
    exact (together_expression (.cons hentry hentries)).map fun _ _ hcd => .cons hcd .nil

theorem together_conditions {p q : Parts} (h : PairedParts p q) :
    Together (List.Forall₂ SameCondition) p.conditions q.conditions := by
  refine (together_group .and (h.given .and)).bind fun all all' hall => ?_
  refine (together_group .or (h.given .or)).bind fun any any' hany => ?_
  refine (together_fieldGroup h.fields).bind fun fields fields' hfields => ?_
  exact .ok (List.rel_append (List.rel_append hall hany) hfields)

/-! ### Statements -/

theorem together_clause {f g : Filter} (h : List.Forall₂ PairedEntry f.entries g.entries) :
    Together (fun a b => SameOutside (behind a) (behind b)) f.clause g.clause := by
  have hempty : PairedParts {} {} := ⟨fun c => by cases c <;> exact .none, .nil⟩
  have hparts : Together PairedParts f.parts g.parts :=
    .foldlM h (fun _ _ _ _ => together_add) hempty
  have hcondition : Together (Option.Rel SameCondition) f.condition g.condition := by
    refine hparts.bind fun p q hpq => (together_conditions hpq).bind fun cs ds hcs => ?_
    cases hcs with
    | nil => exact .ok .none
    | cons hcd hcs => exact .ok (.some (sameCondition_group .and (.cons hcd hcs)))
  refine hcondition.map fun c d hcd => ?_
  cases hcd with
  | none => exact .nil
  | some hcd =>
    have hlabel : "WHERE " ≠ "" := by decide
    rw [behind_append hlabel, behind_append hlabel]
    have hwhere : NoQuote " WHERE " := by decide
    exact hwhere.sameOutside.append hcd

theorem sameOutside_selection {object : String} {fields : List String} (hobject : NoQuote object)
    (hfields : ∀ field ∈ fields, NoQuote field) {more more' : List Char}
    (h : SameOutside more more') :
    SameOutside (("SELECT " ++ String.intercalate "," fields ++ " FROM " ++ object).toList ++ more)
      (("SELECT " ++ String.intercalate "," fields ++ " FROM " ++ object).toList ++ more') := by
  have hselect : NoQuote "SELECT " := by decide
  have hfrom : NoQuote " FROM " := by decide
  have hlist : SameOutside (String.intercalate "," fields).toList
      (String.intercalate "," fields).toList := by
    rw [String.toList_intercalate]
    refine .intercalate (by decide) (List.forall₂_same.mpr ?_)
    exact fun field hf => (hfields field hf).sameOutside
  rw [Statement.toList_selection, Statement.toList_selection]
  exact hselect.sameOutside.append
    (hlist.append (hfrom.sameOutside.append (hobject.sameOutside.append h)))

theorem sameOutside_sort {sort : Option String} (h : ∀ field ∈ sort, NoQuote field) :
    SameOutside (clauseText sortText sort) (clauseText sortText sort) := by
  cases sort with
  | none => exact .nil
  | some field =>
    have horder : NoQuote " ORDER BY " := by decide
    have hasc : NoQuote " ASC" := by decide
    exact horder.sameOutside.append ((h field rfl).sameOutside.append hasc.sameOutside)

theorem sameOutside_count {label : String} (hlabel : NoQuote label) (count : Option Nat) :
    SameOutside (clauseText (label.toList ++ Nat.toDigits 10 ·) count)
      (clauseText (label.toList ++ Nat.toDigits 10 ·) count) := by
  cases count with
  | none => exact .nil
  | some n => exact hlabel.sameOutside.append (.of_bare (.toDigits n))

theorem sameOutside_window (s : Statement) :
    SameOutside (behind s.window.clause) (behind s.window.clause) := by
  have hlimit : NoQuote " LIMIT " := by decide
  have hoffset : NoQuote " OFFSET " := by decide
  rw [Window.behind_clause s.active_window]
  exact (sameOutside_count hlimit s.window.limit?).append
    (sameOutside_count hoffset s.window.offset?)

namespace Statement

/-- All names in the statement: its object, its fields, the field to sort by, and the keys of its filter
at every depth. -/
def names (s : Statement) : List String :=
  s.object :: s.fields ++ s.sort?.toList ++ Value.entriesKeys s.filter.entries

theorem together_selectText {s : Statement} (hnames : ∀ name ∈ s.names, NoQuote name) {a b : String}
    (h : SameOutside (behind a) (behind b)) :
    Together (fun text text' => SameOutside text.toList text'.toList)
      (selectText s.object s.fields a s.paging) (selectText s.object s.fields b s.paging) := by
  have hsort : ∀ field ∈ s.sort?, NoQuote field := by
    intro field hf
    exact hnames field (by simp [names, Option.mem_toList.mpr hf])
  have hfields : ∀ field ∈ s.fields, NoQuote field := by
    intro field hf
    exact hnames field (by simp [names, hf])
  have hobject : NoQuote s.object := hnames s.object (by simp [names])
  by_cases hnil : s.fields = []
  · rw [hnil]
    exact .error
  · obtain ⟨text, htext⟩ := selectText_eq_ok hnil s.object a s.paging
    obtain ⟨text', htext'⟩ := selectText_eq_ok hnil s.object b s.paging
    rw [htext, htext']
    refine .ok ?_
    rw [(toList_selectText htext).2, (toList_selectText htext').2, sortField_eq]
    exact sameOutside_selection hobject hfields
      (h.append ((sameOutside_sort hsort).append (sameOutside_window s)))

theorem together_soql (s : Statement) (f : Filter) (hnames : ∀ name ∈ s.names, NoQuote name)
    (h : Value.entriesAlike s.filter.entries f.entries = true) :
    Together (fun text text' => SameOutside text.toList text'.toList) s.soql
      ({ s with filter := f } : Statement).soql := by
  have hentries : List.Forall₂ PairedEntry s.filter.entries f.entries :=
    forall₂_pairedEntry h fun key hk => hnames key (by simp [names, hk])
  refine (Together.refl s.validate).bind fun _ _ _ => ?_
  exact (together_clause hentries).bind fun _ _ => together_selectText hnames

/-- The contents of strings have no influence on the structure of a query. Two statements with names
without quotes are the same but for strings in their filters, and where a string that stands alone is
another, neither is in the form of a date. Then both have a query or none has, and the queries are one
text with a placeholder in the place of every literal. -/
theorem soql_same_outside_literals (s : Statement) (f : Filter)
    (hnames : ∀ name ∈ s.names, '\x27' ∉ name.toList)
    (halike : Value.entriesAlike s.filter.entries f.entries = true) :
    ((∃ e, s.soql = .error e) ∧ ∃ e, ({ s with filter := f } : Statement).soql = .error e) ∨
      ∃ text text', s.soql = .ok text ∧ ({ s with filter := f } : Statement).soql = .ok text' ∧
        ∀ placeholder, ∃ mask,
          masked? placeholder text = some mask ∧ masked? placeholder text' = some mask := by
  rcases (together_soql s f hnames halike).cases with
    ⟨e, e', he, he'⟩ | ⟨text, text', htext, htext', hsame⟩
  · exact .inl ⟨⟨e, he⟩, e', he'⟩
  · exact .inr ⟨text, text', htext, htext', hsame.masked?_eq⟩

/- A quote and parentheses in a string, and a date in a list in the place of another text. -/
theorem soql_same_outside_literals_group_in_string :
    let s : Statement :=
      { object := "Case"
        fields := ["COUNT(Id) n"]
        filter := { entries := [("Name", .string "a"), ("Code", .array [.string "x"])] } }
    let f : Filter :=
      { entries := [("Name", .string "') OR ("), ("Code", .array [.string "2024-01-01"])] }
    let text := "SELECT COUNT(Id) n FROM Case WHERE ((Name = 'a' AND Code IN ('x')))"
    let text' := "SELECT COUNT(Id) n FROM Case WHERE ((Name = '\\') OR (' AND Code IN ('2024-01-01')))"
    (∀ name ∈ s.names, '\x27' ∉ name.toList) ∧
      Value.entriesAlike s.filter.entries f.entries = true ∧
      s.soql = .ok text ∧ ({ s with filter := f } : Statement).soql = .ok text' ∧
      ∀ placeholder, ∃ mask,
        masked? placeholder text = some mask ∧ masked? placeholder text' = some mask := by
  intro s f text text'
  have hnames : ∀ name ∈ s.names, '\x27' ∉ name.toList := by decide
  have halike : Value.entriesAlike s.filter.entries f.entries = true := by decide
  have htext : s.soql = .ok text := by
    unfold s text
    rfl
  have htext' : ({ s with filter := f } : Statement).soql = .ok text' := by
    unfold s f text'
    rfl
  refine ⟨hnames, halike, htext, htext', ?_⟩
  rcases soql_same_outside_literals s f hnames halike with ⟨⟨e, he⟩, _⟩ | ⟨a, b, ha, hb, hmask⟩
  · rw [htext] at he
    cases he
  · rw [htext] at ha
    rw [htext'] at hb
    obtain rfl := Except.ok.inj ha
    obtain rfl := Except.ok.inj hb
    exact hmask

end Statement

end SoqlSelect
