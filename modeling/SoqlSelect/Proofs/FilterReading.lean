import SoqlSelect.Proofs.ConditionReader
import SoqlSelect.Proofs.FilterParts

/-!
# Filters and the readings of their clauses

What the clause of a filter should show, and what the filter should mean, both read off its entries
without the condition in between. The main statement says that the clause is read as it should be, and
that the reading has the meaning of the filter for every truth of the comparisons.
-/

namespace SoqlSelect

namespace Value

def literalText (v : Value) : String := (v.literal?.map Literal.text).getD ""

def elementText (v : Value) : String := (v.listLiteral?.map Literal.text).getD ""

def operandText : Value → String
  | .array items => "(" ++ String.intercalate "," (items.map elementText) ++ ")"
  | v => v.literalText

end Value

namespace Filter

/-- The token that a symbol stands for. Any other symbol stands for itself: it has no clause, so that it
is never seen in a reading. -/
def tokenOf : String → String
  | "$eq" => "="
  | "$ne" => "!="
  | "$gt" => ">"
  | "$gte" => ">="
  | "$lt" => "<"
  | "$lte" => "<="
  | "$like" => "LIKE"
  | "$in" => "IN"
  | "$nin" => "NOT IN"
  | symbol => symbol

/-- The comparisons of a field entry: one for each operator, or one for all of a list or a scalar. -/
def atoms (field : String) : Value → List Atom
  | .array items =>
    [{ field, token := "IN", operand := (Value.array items).operandText }]
  | .object entries => entries.map fun (symbol, operand) =>
    { field, token := tokenOf symbol, operand := operand.operandText }
  | v => [{ field, token := "=", operand := v.operandText }]

def expressionReading (entries : Entries) : Reading :=
  .join .and ((entries.flatMap fun (field, value) => atoms field value).map .atom)

def connectiveReading (connective : Connective) (es : List Entries) : Reading :=
  .join connective (es.map expressionReading)

def groupReadings (f : Filter) : List Reading :=
  ((expressionsOf f.entries .and).map (connectiveReading .and)).toList ++
    ((expressionsOf f.entries .or).map (connectiveReading .or)).toList ++
    if (fieldsOf f.entries).isEmpty then [] else [expressionReading (fieldsOf f.entries)]

def reading (f : Filter) : Reading := .join .and f.groupReadings

/-! ### Meaning -/

def expressionHolds (truth : Atom → Bool) (entries : Entries) : Bool :=
  entries.all fun (field, value) => (atoms field value).all truth

/-- Every expression under `$and` holds, some expression under `$or` holds, and the field entries of the
filter itself hold. -/
def holds (truth : Atom → Bool) (f : Filter) : Bool :=
  (expressionsOf f.entries .and).all (fun es => es.all (expressionHolds truth)) &&
    (expressionsOf f.entries .or).all (fun es => es.any (expressionHolds truth)) &&
    expressionHolds truth (fieldsOf f.entries)

theorem holds_expressionReading (truth : Atom → Bool) (entries : Entries) :
    (expressionReading entries).holds truth = expressionHolds truth entries := by
  rw [expressionReading, Reading.holds_join_and, List.all_map, List.all_flatMap]
  rfl

theorem holds_connectiveReading_and (truth : Atom → Bool) (es : List Entries) :
    (connectiveReading .and es).holds truth = es.all (expressionHolds truth) := by
  rw [connectiveReading, Reading.holds_join_and, List.all_map]
  simp only [Function.comp_def, holds_expressionReading]

theorem holds_connectiveReading_or (truth : Atom → Bool) (es : List Entries) :
    (connectiveReading .or es).holds truth = es.any (expressionHolds truth) := by
  rw [connectiveReading, Reading.holds_join_or, List.any_map]
  simp only [Function.comp_def, holds_expressionReading]

theorem holds_reading (truth : Atom → Bool) (f : Filter) :
    f.reading.holds truth = f.holds truth := by
  have hgiven (c : Connective) : ((expressionsOf f.entries c).map (connectiveReading c)).toList.all
      (Reading.holds truth) =
        (expressionsOf f.entries c).all fun es => (connectiveReading c es).holds truth := by
    cases expressionsOf f.entries c <;> simp
  have hown : (if (fieldsOf f.entries).isEmpty then []
      else [expressionReading (fieldsOf f.entries)]).all (Reading.holds truth) =
        expressionHolds truth (fieldsOf f.entries) := by
    cases fieldsOf f.entries with
    | nil => rfl
    | cons entry entries => simp [holds_expressionReading]
  rw [reading, Reading.holds_join_and, groupReadings, List.all_append, List.all_append, hgiven,
    hgiven, hown]
  simp only [holds_connectiveReading_and, holds_connectiveReading_or]
  rfl

end Filter

/-! ### Comparisons -/

theorem Operand.ofValue_eq_ok {field : String} {operator : Comparator} {value : Value} {o : Operand}
    (h : Operand.ofValue field operator value = .ok o) :
    o.WellFormed ∧ o.text = value.operandText := by
  unfold Operand.ofValue at h
  by_cases hl : operator.takesList = true
  · simp only [if_pos hl] at h
    split at h
    · rename_i item items
      obtain ⟨literals, hm, rfl⟩ := map_eq_ok.mp h
      have helement {v : Value} {l : Literal} (he : Operand.element field v = .ok l) :
          v.listLiteral? = some l := by
        unfold Operand.element at he
        split at he
        · rename_i l' hv
          rw [hv, Except.ok.inj he]
        · cases he
      constructor
      · intro l hl
        obtain ⟨v, _, he⟩ := mem_of_mapM hm hl
        exact Value.wellFormed_of_listLiteral? (helement he)
      · have htexts : literals.map Literal.text = (item :: items).map Value.elementText := by
          refine map_of_mapM hm fun v _ l he => ?_
          simp [Value.elementText, helement he]
        rw [Operand.text, htexts]
        rfl
    · cases h
  · simp only [if_neg hl] at h
    split at h
    · rename_i l hv
      obtain rfl := Except.ok.inj h
      refine ⟨Value.wellFormed_of_literal? hv, ?_⟩
      have htext : value.operandText = value.literalText := by
        cases value <;> first | rfl | cases hv
      rw [htext, Value.literalText, hv]
      rfl
    · cases h

theorem Comparison.ofValue_eq_ok {field : String} {operator : Comparator} {value : Value}
    {c : Comparison} (h : Comparison.ofValue field operator value = .ok c) :
    c.atom = { field, token := operator.token, operand := value.operandText } ∧
      (isApiName field = true → c.WellFormed) := by
  obtain ⟨o, ho, rfl⟩ := map_eq_ok.mp h
  obtain ⟨hw, ht⟩ := Operand.ofValue_eq_ok ho
  exact ⟨by simp [Comparison.atom, ht], fun hn => ⟨hn, hw⟩⟩

theorem Comparator.ofSymbol_eq_ok {symbol : String} {c : Comparator}
    (h : Comparator.ofSymbol symbol = .ok c) : Comparator.ofSymbol? symbol = some c := by
  unfold Comparator.ofSymbol at h
  split at h
  · rename_i c' hc
    rw [hc, Except.ok.inj h]
  · cases h

namespace Filter

/-! ### Expressions -/

@[simp] theorem tokenOf_symbol (c : Comparator) : tokenOf c.symbol = c.token := by
  cases c <;> rfl

/- What holds of the comparisons of a field entry: they are the ones that should be read, there is at
least one of them, and they are well-formed if the field has a name. -/
structure ListsEntry (field : String) (value : Value) (cs : List Comparison) : Prop where
  notConnective : Connective.ofSymbol? field = none
  atoms : cs.map Comparison.atom = atoms field value
  nonempty : cs ≠ []
  wellFormed : isApiName field = true → ∀ c ∈ cs, c.WellFormed

theorem listsEntry_singleton {field : String} {operator : Comparator} {value : Value}
    {cs : List Comparison} (hfield : Connective.ofSymbol? field = none)
    (h : (Comparison.ofValue field operator value).map (fun c => [c]) = .ok cs)
    (hatoms : Filter.atoms field value =
      [{ field, token := operator.token, operand := value.operandText }]) :
    ListsEntry field value cs := by
  obtain ⟨c, hc, rfl⟩ := map_eq_ok.mp h
  obtain ⟨ha, hw⟩ := Comparison.ofValue_eq_ok hc
  refine ⟨hfield, by rw [hatoms, ← ha]; rfl, List.cons_ne_nil c [], ?_⟩
  intro hn d hd
  rw [List.mem_singleton.mp hd]
  exact hw hn

theorem comparisons_eq_ok {field : String} {value : Value} {cs : List Comparison}
    (h : comparisons field value = .ok cs) : ListsEntry field value cs := by
  unfold comparisons at h
  split at h
  · cases h
  · rename_i hfield
    cases value with
    | array items => exact listsEntry_singleton hfield h rfl
    | object entries =>
      cases entries with
      | nil => cases h
      | cons entry entries =>
        have hentry {e : String × Value} {c : Comparison}
            (hc : (Comparator.ofSymbol e.1 >>= fun o => Comparison.ofValue field o e.2) = .ok c) :
            c.atom = { field, token := tokenOf e.1, operand := e.2.operandText } ∧
              (isApiName field = true → c.WellFormed) := by
          obtain ⟨o, ho, hc⟩ := bind_eq_ok.mp hc
          have htoken : tokenOf e.1 = o.token := by
            rw [← Comparator.symbol_of_ofSymbol? (Comparator.ofSymbol_eq_ok ho), tokenOf_symbol]
          rw [htoken]
          exact Comparison.ofValue_eq_ok hc
        have hatoms : cs.map Comparison.atom = Filter.atoms field (.object (entry :: entries)) :=
          map_of_mapM h fun e _ c hc => (hentry hc).1
        refine ⟨hfield, hatoms, ?_, ?_⟩
        · rintro rfl
          cases hatoms
        · intro hn c hc
          obtain ⟨e, _, he⟩ := mem_of_mapM h hc
          exact (hentry he).2 hn
    | null => exact listsEntry_singleton hfield h rfl
    | bool b => exact listsEntry_singleton hfield h rfl
    | number n => exact listsEntry_singleton hfield h rfl
    | string s => exact listsEntry_singleton hfield h rfl
    | date t => exact listsEntry_singleton hfield h rfl

def namesFields (entries : Entries) : Bool :=
  entries.all fun entry => (Connective.ofSymbol? entry.1).isSome || isApiName entry.1

theorem isApiName_of_namesFields {entries : Entries} (h : namesFields entries = true)
    {entry : String × Value} (he : entry ∈ entries) (hk : Connective.ofSymbol? entry.1 = none) :
    isApiName entry.1 = true := by
  have := List.all_eq_true.mp h entry he
  simpa [hk] using this

theorem expression_eq_ok {entries : Entries} {c : Condition} (h : expression entries = .ok c) :
    c.reading = expressionReading entries ∧ (namesFields entries = true → c.WellFormed) := by
  unfold expression at h
  split at h
  · cases h
  · rename_i hne
    obtain ⟨groups, hg, h⟩ := bind_eq_ok.mp h
    obtain rfl := Except.ok.inj h
    constructor
    · have hatoms : groups.map (fun cs => cs.map Comparison.atom) =
          entries.map fun entry => atoms entry.1 entry.2 :=
        map_of_mapM hg fun entry _ cs hc => (comparisons_eq_ok hc).atoms
      rw [Condition.reading, Condition.readings_eq_map, expressionReading, List.map_map,
        List.flatMap_def, ← hatoms, ← List.map_flatten, List.map_map]
      rfl
    · intro hnames
      refine .group ?_ ?_
      · -- The first entry gives a comparison already.
        obtain ⟨entry, rest, rfl⟩ := List.exists_cons_of_ne_nil (by simpa using hne)
        rw [List.mapM_cons] at hg
        obtain ⟨cs, hcs, hg⟩ := bind_eq_ok.mp hg
        obtain ⟨others, _, hg⟩ := bind_eq_ok.mp hg
        obtain rfl := Except.ok.inj hg
        have := (comparisons_eq_ok hcs).nonempty
        simp [this]
      · intro part hp
        obtain ⟨d, hd, rfl⟩ := List.mem_map.mp hp
        obtain ⟨cs, hcs, hdcs⟩ := List.mem_flatten.mp hd
        obtain ⟨entry, he, hc⟩ := mem_of_mapM hg hcs
        have hlist := comparisons_eq_ok hc
        have hname := isApiName_of_namesFields hnames he hlist.notConnective
        exact .comparison (hlist.wellFormed hname d hdcs)

/-! ### Filters -/

/-- All field keys of the filter are API names: those of its own entries and those of the expressions
under its connectives. -/
def hasNames (f : Filter) : Bool :=
  namesFields f.entries &&
    Connective.all.all fun c => ((expressionsOf f.entries c).getD []).all namesFields

theorem namesFields_of_hasNames {f : Filter} (h : f.hasNames = true) {c : Connective}
    {es : List Entries} (hes : expressionsOf f.entries c = some es) {entries : Entries}
    (he : entries ∈ es) : namesFields entries = true := by
  have hc : c ∈ Connective.all := by cases c <;> decide
  have hall := List.all_eq_true.mp (Bool.and_eq_true_iff.mp h).2 c hc
  rw [hes] at hall
  exact List.all_eq_true.mp hall entries he

theorem namesFields_fieldsOf {f : Filter} (h : f.hasNames = true) :
    namesFields (fieldsOf f.entries) = true := by
  refine List.all_eq_true.mpr fun entry he => ?_
  exact List.all_eq_true.mp (Bool.and_eq_true_iff.mp h).1 entry (List.mem_filter.mp he).1

theorem group_eq_ok {connective : Connective} {given : Option (List Entries)}
    {cs : List Condition} (h : Parts.group connective given = .ok cs) :
    cs.map Condition.reading = (given.map (connectiveReading connective)).toList ∧
      ((∀ es ∈ given, es ≠ [] ∧ ∀ entries ∈ es, namesFields entries = true) →
        ∀ c ∈ cs, c.WellFormed) := by
  cases given with
  | none =>
    cases h
    exact ⟨rfl, fun _ c hc => absurd hc (by simp)⟩
  | some es =>
    obtain ⟨conditions, hm, h⟩ := bind_eq_ok.mp h
    obtain rfl := Except.ok.inj h
    have hreadings : conditions.map Condition.reading = es.map expressionReading :=
      map_of_mapM hm fun entries _ c hc => (expression_eq_ok hc).1
    constructor
    · simp [Condition.reading, hreadings, connectiveReading]
    · intro hes c hc
      rw [List.mem_singleton.mp hc]
      obtain ⟨hne, hnames⟩ := hes es rfl
      refine .group ?_ fun part hp => ?_
      · rintro rfl
        exact hne (List.map_eq_nil_iff.mp hreadings.symm)
      · obtain ⟨entries, he, hexp⟩ := mem_of_mapM hm hp
        exact (expression_eq_ok hexp).2 (hnames entries he)

theorem fieldGroup_eq_ok {fields : Entries} {cs : List Condition}
    (h : Parts.fieldGroup fields = .ok cs) :
    cs.map Condition.reading = (if fields.isEmpty then [] else [expressionReading fields]) ∧
      (namesFields fields = true → ∀ c ∈ cs, c.WellFormed) := by
  unfold Parts.fieldGroup at h
  split at h
  · rename_i he
    cases h
    exact ⟨by simp [he], fun _ c hc => absurd hc (by simp)⟩
  · rename_i he
    obtain ⟨c, hc, rfl⟩ := map_eq_ok.mp h
    obtain ⟨hr, hw⟩ := expression_eq_ok hc
    refine ⟨by simp [he, hr], fun hn d hd => ?_⟩
    rw [List.mem_singleton.mp hd]
    exact hw hn

theorem conditions_eq_ok {f : Filter} {parts : Parts} {cs : List Condition}
    (hparts : f.parts = .ok parts) (h : parts.conditions = .ok cs) :
    cs.map Condition.reading = f.groupReadings ∧
      (f.hasNames = true → ∀ c ∈ cs, c.WellFormed) := by
  rw [parts_eq_ok hparts] at h
  obtain ⟨all, hall, h⟩ := bind_eq_ok.mp h
  obtain ⟨any, hany, h⟩ := bind_eq_ok.mp h
  obtain ⟨own, hown, h⟩ := bind_eq_ok.mp h
  obtain rfl := Except.ok.inj h
  obtain ⟨rall, wall⟩ := group_eq_ok hall
  obtain ⟨rany, wany⟩ := group_eq_ok hany
  obtain ⟨rown, wown⟩ := fieldGroup_eq_ok hown
  constructor
  · rw [List.map_append, List.map_append, rall, rany, rown]
    rfl
  · intro hnames c hc
    have hgroup (d : Connective) : ∀ es ∈ expressionsOf f.entries d,
        es ≠ [] ∧ ∀ entries ∈ es, namesFields entries = true :=
      fun es hes => ⟨expressionsOf_ne_nil hparts hes, fun _ he =>
        namesFields_of_hasNames hnames hes he⟩
    rcases List.mem_append.mp hc with hc | hc
    · rcases List.mem_append.mp hc with hc | hc
      · exact wall (hgroup .and) c hc
      · exact wany (hgroup .or) c hc
    · exact wown (namesFields_fieldsOf hnames) c hc

theorem groupReadings_eq_nil {f : Filter} : f.groupReadings = [] ↔ f.entries = [] := by
  constructor
  · intro h
    cases he : f.entries with
    | nil => rfl
    | cons entry entries =>
      obtain ⟨key, value⟩ := entry
      -- The first entry is under a connective or a field entry, and so in one of the groups.
      exfalso
      rw [groupReadings, he] at h
      simp only [List.append_eq_nil_iff, Option.toList_eq_nil_iff, Option.map_eq_none_iff] at h
      obtain ⟨⟨hand, hor⟩, hown⟩ := h
      rw [expressionsOf_cons] at hand hor
      cases hk : Connective.ofSymbol? key with
      | none => simp [fieldsOf, hk] at hown
      | some c =>
        have hs := Connective.ofSymbol?_eq_some.mp hk
        cases c with
        | and => simp [← hs] at hand
        | or => simp [← hs] at hor
  · intro h
    rw [groupReadings, h]
    rfl

/- The two cases of a clause that is there: no entries and no text, or a group that is read as it
should be. -/
theorem clause_eq_ok {f : Filter} {w : String} (h : f.clause = .ok w) :
    (f.entries = [] ∧ w = "") ∨
      (f.entries ≠ [] ∧ ∃ cs, w = "WHERE " ++ (Condition.group .and cs).text ∧
        (Condition.group .and cs).reading = f.reading ∧
        (f.hasNames = true → (Condition.group .and cs).WellFormed)) := by
  obtain ⟨condition, hc, rfl⟩ := map_eq_ok.mp h
  obtain ⟨parts, hparts, hc⟩ := bind_eq_ok.mp hc
  obtain ⟨cs, hcs, hc⟩ := bind_eq_ok.mp hc
  obtain rfl := Except.ok.inj hc
  obtain ⟨hr, hw⟩ := conditions_eq_ok hparts hcs
  have hnil : cs = [] ↔ f.entries = [] := by
    rw [← groupReadings_eq_nil, ← hr, List.map_eq_nil_iff]
  by_cases he : f.entries = []
  · left
    rw [hnil.mpr he]
    exact ⟨he, rfl⟩
  · right
    have hne : cs ≠ [] := fun hcs => he (hnil.mp hcs)
    refine ⟨he, cs, ?_, ?_, fun hnames => .group hne (hw hnames)⟩
    · simp [hne]
    · rw [Condition.reading, Condition.readings_eq_map, hr, reading]

/-- The clause of a filter is empty exactly for a filter without entries. Otherwise it is read whole, as
the groups of the filter in their order, and the reading has the meaning of the filter. -/
theorem clause_reads_as_filter (f : Filter) (w : String) (hnames : f.hasNames = true)
    (hw : f.clause = .ok w) :
    (w = "" ↔ f.entries = []) ∧
      (f.entries ≠ [] → ∃ r, Reading.ofClause? w = some r ∧ r = f.reading ∧
        ∀ truth, r.holds truth = f.holds truth) := by
  rcases clause_eq_ok hw with ⟨he, rfl⟩ | ⟨he, cs, rfl, hr, hwf⟩
  · exact ⟨by simp [he], fun hne => absurd he hne⟩
  · refine ⟨by simp [he], fun _ => ⟨f.reading, ?_, rfl, fun truth => ?_⟩⟩
    · rw [Condition.ofClause?_text (hwf hnames), hr]
    · exact holds_reading truth f

theorem clause_reads_as_filter_connective_in_operand :
    let f : Filter := { entries :=
      [("$or", .array [.object [("Name", .string "x') OR (Id = '1")],
          .object [("Due", .string "2024-02-29 10:30"),
            ("Size", .object [("$gte", .null), ("$nin", .array [.null, .string "a,b)"])])]]),
        ("Open", .bool true)] }
    f.hasNames = true ∧ ∃ w, f.clause = .ok w ∧ Reading.ofClause? w = some
      (.group (some .and)
        [.group (some .or)
          [.group none [.atom ⟨"Name", "=", "'x\\') OR (Id = \\'1'"⟩],
            .group (some .and) [.atom ⟨"Due", "=", "2024-02-29 10:30"⟩,
              .atom ⟨"Size", ">=", "null"⟩, .atom ⟨"Size", "NOT IN", "(null,'a,b)')"⟩]],
          .group none [.atom ⟨"Open", "=", "true"⟩]]) := by
  intro f
  have hnames : f.hasNames = true := by decide
  refine ⟨hnames, _, rfl, ?_⟩
  obtain ⟨r, hr, rfl, _⟩ := (Filter.clause_reads_as_filter f _ hnames rfl).2 (List.cons_ne_nil _ _)
  exact hr

end Filter

end SoqlSelect
