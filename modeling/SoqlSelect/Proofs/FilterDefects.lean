import SoqlSelect.Proofs.FilterParts

/-!
# Defects of filters

All defects of a filter are listed in a fixed order, without regard to which of them is met: first what
is wrong with the connectives, entry by entry; then the expressions under `$and`, those under `$or`, and
the field entries of the filter itself. The main statement says that the clause of a filter fails
exactly when there is a defect, and then reports the first one.
-/

namespace SoqlSelect

inductive Defect
  | repeatedConnective (connective : Connective)
  | notAnArray (connective : Connective)
  | emptyArray (connective : Connective)
  | notAnObject (connective : Connective) (item : Value)
  | emptyExpression
  | nestedConnective (connective : Connective)
  | emptyOperators (field : String) (value : Value)
  | unknownComparator (symbol : String)
  | unfitOperand (field : String) (operator : Comparator) (value : Value)
  | unfitElement (field : String) (item : Value)

namespace Defect

def error : Defect → QueryError
  | .repeatedConnective c => .malformed (.repeatedConnective c)
  | .notAnArray c => .malformed (.connectiveWithoutArray c)
  | .emptyArray c => .malformed (.connectiveWithoutExpression c)
  | .notAnObject c item => .malformed (.notAnExpression c item.shown)
  | .emptyExpression => .malformed .emptyExpression
  | .nestedConnective c => .malformed (.nestedConnective c)
  | .emptyOperators field value => .malformed (.emptyOperators field value.shown)
  | .unknownComparator symbol => .unknownComparator symbol
  | .unfitOperand field operator value => .invalidOperand field operator value.shown
  | .unfitElement field item => .invalidElement field item.shown

/-! ### Connectives -/

def ofItem (connective : Connective) (item : Value) : List Defect :=
  if item.entries?.isSome then [] else [.notAnObject connective item]

/-- A connective needs an array of objects with at least one item. -/
def ofArray (connective : Connective) : Value → List Defect
  | .array [] => [.emptyArray connective]
  | .array items => items.flatMap (ofItem connective)
  | _ => [.notAnArray connective]

def ofKey (before : List String) (key : String) (value : Value) : List Defect :=
  match Connective.ofSymbol? key with
  | none => []
  | some connective =>
    if key ∈ before then [.repeatedConnective connective] else ofArray connective value

def ofConnectives (before : List String) : Entries → List Defect
  | [] => []
  | (key, value) :: entries =>
    ofKey before key value ++ ofConnectives (key :: before) entries

/-! ### Expressions -/

def ofElement (field : String) (item : Value) : List Defect :=
  if item.isCompound then [.unfitElement field item] else []

/-- A list has to be an array with at least one element and without compound elements. -/
def ofList (field : String) (operator : Comparator) : Value → List Defect
  | .array (item :: items) => (item :: items).flatMap (ofElement field)
  | value => [.unfitOperand field operator value]

/-- Where no list is asked for, the value must not be compound. -/
def ofSingle (field : String) (operator : Comparator) (value : Value) : List Defect :=
  if value.isCompound then [.unfitOperand field operator value] else []

/-- Two symbols ask for a list and seven for a single value. There are no others. -/
def ofOperator (field symbol : String) (operand : Value) : List Defect :=
  match symbol with
  | "$in" => ofList field .isIn operand
  | "$nin" => ofList field .notIn operand
  | "$eq" => ofSingle field .equal operand
  | "$ne" => ofSingle field .notEqual operand
  | "$gt" => ofSingle field .greater operand
  | "$gte" => ofSingle field .greaterOrEqual operand
  | "$lt" => ofSingle field .less operand
  | "$lte" => ofSingle field .lessOrEqual operand
  | "$like" => ofSingle field .like operand
  | _ => [.unknownComparator symbol]

def ofField (field : String) (value : Value) : List Defect :=
  match Connective.ofSymbol? field, value with
  | some connective, _ => [.nestedConnective connective]
  | none, .object [] => [.emptyOperators field value]
  | none, .object entries => entries.flatMap fun (symbol, operand) => ofOperator field symbol operand
  | none, .array _ => ofList field .isIn value
  | none, _ => []

def ofExpression (entries : Entries) : List Defect :=
  if entries.isEmpty then [.emptyExpression]
  else entries.flatMap fun (field, value) => ofField field value

end Defect

/-- All defects of the filter, in the order in which they count. -/
def Filter.defects (f : Filter) : List Defect :=
  let under (connective : Connective) := (expressionsOf f.entries connective).getD []
  let own := fieldsOf f.entries
  Defect.ofConnectives [] f.entries ++
    ((under .and).flatMap Defect.ofExpression ++
      ((under .or).flatMap Defect.ofExpression ++
        if own.isEmpty then [] else Defect.ofExpression own))

/-! ### The first defect -/

def firstError? (defects : List Defect) : Option QueryError :=
  defects.head?.map Defect.error

@[simp] theorem firstError?_append (as bs : List Defect) :
    firstError? (as ++ bs) = (firstError? as).or (firstError? bs) := by
  cases as <;> rfl

theorem firstError?_flatMap {α : Type} (f : α → List Defect) (as : List α) :
    firstError? (as.flatMap f) = as.findSome? fun a => firstError? (f a) := by
  induction as with
  | nil => rfl
  | cons a as ih =>
    rw [List.flatMap_cons, firstError?_append, ih, List.findSome?_cons]
    cases firstError? (f a) <;> rfl

def Reports {α : Type} (x : Except QueryError α) (defects : List Defect) : Prop :=
  failure? x = firstError? defects

namespace Reports

variable {α β : Type} {x : Except QueryError α} {defects : List Defect}

theorem map (h : Reports x defects) (f : α → β) : Reports (x.map f) defects :=
  (failure?_map x f).trans h

theorem bind {f : α → Except QueryError β} {more : List Defect} (h : Reports x defects)
    (hf : ∀ a, x = .ok a → Reports (f a) more) : Reports (x >>= f) (defects ++ more) := by
  unfold Reports at h
  rw [Reports, failure?_bind hf, h, firstError?_append]

theorem mapM {f : β → Except QueryError α} {d : β → List Defect} {bs : List β}
    (h : ∀ b, Reports (f b) (d b)) : Reports (bs.mapM f) (bs.flatMap d) := by
  have hf : (fun b => failure? (f b)) = fun b => firstError? (d b) := funext h
  rw [Reports, failure?_mapM, firstError?_flatMap, hf]

end Reports

/-! ### Expressions -/

@[simp] theorem Value.literal?_eq_none {v : Value} : v.literal? = none ↔ v.isCompound = true := by
  cases v <;> simp [literal?, isCompound]

@[simp] theorem Value.listLiteral?_eq_none {v : Value} :
    v.listLiteral? = none ↔ v.isCompound = true := by
  cases v <;> simp [listLiteral?, literal?, isCompound]

/- Both literals are missing exactly for the compound values. -/
theorem reports_literal {α : Type} {found : Option Literal} {compound : Bool}
    (h : found = none ↔ compound = true) (f : Literal → α) (defect : Defect) :
    Reports
      (match found with
        | some literal => .ok (f literal)
        | none => .error defect.error)
      (if compound then [defect] else []) := by
  cases found with
  | none =>
    rw [if_pos (h.mp rfl)]
    rfl
  | some literal =>
    have hc : ¬ compound = true := by
      rw [← h]
      exact Option.some_ne_none literal
    rw [if_neg hc]
    rfl

theorem reports_element (field : String) (item : Value) :
    Reports (Operand.element field item) (Defect.ofElement field item) :=
  reports_literal Value.listLiteral?_eq_none id (.unfitElement field item)

theorem reports_list (field : String) (operator : Comparator) (value : Value)
    (hlist : operator.takesList = true) :
    Reports (Operand.ofValue field operator value) (Defect.ofList field operator value) := by
  unfold Operand.ofValue
  simp only [if_pos hlist]
  cases value with
  | array items =>
    cases items with
    | nil => rfl
    | cons item items => exact (Reports.mapM (reports_element field)).map Operand.list
  | _ => rfl

theorem reports_single (field : String) (operator : Comparator) (value : Value)
    (hlist : ¬ operator.takesList = true) :
    Reports (Operand.ofValue field operator value) (Defect.ofSingle field operator value) := by
  unfold Operand.ofValue
  simp only [if_neg hlist]
  exact reports_literal Value.literal?_eq_none Operand.one (.unfitOperand field operator value)

/- The table of symbols and the one that is written out here agree. -/
@[simp] theorem Defect.ofOperator_symbol (field : String) (operator : Comparator) (operand : Value) :
    ofOperator field operator.symbol operand =
      if operator.takesList then ofList field operator operand else ofSingle field operator operand := by
  cases operator <;> rfl

theorem Defect.ofOperator_of_unknown {symbol : String} (h : Comparator.ofSymbol? symbol = none)
    (field : String) (operand : Value) :
    ofOperator field symbol operand = [.unknownComparator symbol] := by
  have hne (operator : Comparator) : symbol ≠ operator.symbol := by
    rintro rfl
    rw [Comparator.ofSymbol?_symbol] at h
    cases h
  unfold ofOperator
  split
  · exact absurd rfl (hne .isIn)
  · exact absurd rfl (hne .notIn)
  · exact absurd rfl (hne .equal)
  · exact absurd rfl (hne .notEqual)
  · exact absurd rfl (hne .greater)
  · exact absurd rfl (hne .greaterOrEqual)
  · exact absurd rfl (hne .less)
  · exact absurd rfl (hne .lessOrEqual)
  · exact absurd rfl (hne .like)
  · rfl

theorem reports_operator (field symbol : String) (operand : Value) :
    Reports (Comparator.ofSymbol symbol >>= fun operator => Comparison.ofValue field operator operand)
      (Defect.ofOperator field symbol operand) := by
  unfold Comparator.ofSymbol
  cases h : Comparator.ofSymbol? symbol with
  | none =>
    rw [Defect.ofOperator_of_unknown h]
    rfl
  | some operator =>
    obtain rfl := Comparator.symbol_of_ofSymbol? h
    rw [Defect.ofOperator_symbol]
    by_cases hlist : operator.takesList = true
    · rw [if_pos hlist]
      exact (reports_list field operator operand hlist).map _
    · rw [if_neg hlist]
      exact (reports_single field operator operand hlist).map _

theorem reports_comparisons (field : String) (value : Value) :
    Reports (Filter.comparisons field value) (Defect.ofField field value) := by
  unfold Filter.comparisons Defect.ofField
  cases Connective.ofSymbol? field with
  | some connective => rfl
  | none =>
    cases value with
    | array items => exact ((reports_list field .isIn (.array items) rfl).map _).map _
    | object entries =>
      cases entries with
      | nil => rfl
      | cons entry entries => exact Reports.mapM fun entry => reports_operator field entry.1 entry.2
    | null => exact ((reports_single field .equal .null (by decide)).map _).map _
    | bool b => exact ((reports_single field .equal (.bool b) (by decide)).map _).map _
    | number n => exact ((reports_single field .equal (.number n) (by decide)).map _).map _
    | string s => exact ((reports_single field .equal (.string s) (by decide)).map _).map _
    | date t => exact ((reports_single field .equal (.date t) (by decide)).map _).map _

theorem reports_expression (entries : Entries) :
    Reports (Filter.expression entries) (Defect.ofExpression entries) := by
  unfold Filter.expression Defect.ofExpression
  split
  · rfl
  · have h : Reports (entries.mapM fun (field, value) => Filter.comparisons field value)
        (entries.flatMap fun (field, value) => Defect.ofField field value) :=
      Reports.mapM fun entry => reports_comparisons entry.1 entry.2
    exact (failure?_bind_pure _ _).trans h

/-! ### Connectives -/

theorem reports_expressions (connective : Connective) (value : Value) :
    Reports (Filter.expressions connective value) (Defect.ofArray connective value) := by
  cases value with
  | array items =>
    cases items with
    | nil => rfl
    | cons first others =>
      refine Reports.mapM fun item => ?_
      cases item <;> rfl
  | _ => rfl

theorem reports_add {parts : Filter.Parts} {before : List String}
    (hbefore : ∀ c : Connective, (parts.given c).isSome = true ↔ c.symbol ∈ before) (key : String)
    (value : Value) : Reports (parts.add (key, value)) (Defect.ofKey before key value) := by
  unfold Defect.ofKey
  cases hk : Connective.ofSymbol? key with
  | none =>
    rw [Filter.Parts.add_field parts value hk]
    rfl
  | some connective =>
    obtain rfl := Connective.ofSymbol?_eq_some.mp hk
    rw [Filter.Parts.add_connective]
    refine Reports.map ?_ _
    show Reports (Filter.Parts.once connective (parts.given connective) value)
      (if connective.symbol ∈ before then _ else _)
    cases hg : parts.given connective with
    | some es =>
      rw [if_pos ((hbefore connective).mp (by rw [hg]; rfl))]
      rfl
    | none =>
      have hnot : connective.symbol ∉ before := by
        rw [← hbefore, hg]
        exact Bool.false_ne_true
      rw [if_neg hnot]
      exact reports_expressions connective value

/- The invariant of the walk over the entries: the connectives that are given are those among the keys
before. -/
theorem given_add {parts after : Filter.Parts} {before : List String} {key : String} {value : Value}
    (hbefore : ∀ c : Connective, (parts.given c).isSome = true ↔ c.symbol ∈ before)
    (h : parts.add (key, value) = .ok after) (c : Connective) :
    (after.given c).isSome = true ↔ c.symbol ∈ key :: before := by
  rw [List.mem_cons]
  rcases Filter.Parts.add_eq_ok h with ⟨d, rfl, _, _, rfl⟩ | ⟨hk, rfl⟩
  · rw [Filter.Parts.given_take]
    by_cases hd : d = c
    · subst hd
      simp
    · have hs : ¬ c.symbol = d.symbol := fun hs => hd (Connective.symbol_inj.mp hs).symm
      rw [if_neg hd, hbefore]
      simp [hs]
  · rw [Filter.Parts.given_fields, hbefore]
    simp [Connective.symbol_ne hk c]

theorem reports_foldlM {entries : Entries} {parts : Filter.Parts} {before : List String}
    (hbefore : ∀ c : Connective, (parts.given c).isSome = true ↔ c.symbol ∈ before) :
    Reports (entries.foldlM Filter.Parts.add parts) (Defect.ofConnectives before entries) := by
  induction entries generalizing parts before with
  | nil => rfl
  | cons entry entries ih =>
    obtain ⟨key, value⟩ := entry
    rw [List.foldlM_cons]
    exact (reports_add hbefore key value).bind fun after h => ih (given_add hbefore h)

theorem reports_parts (f : Filter) : Reports f.parts (Defect.ofConnectives [] f.entries) := by
  refine reports_foldlM fun c => ?_
  cases c <;> simp [Filter.Parts.given]

/-! ### Filters -/

theorem reports_group (connective : Connective) (given : Option (List Entries)) :
    Reports (Filter.Parts.group connective given) ((given.getD []).flatMap Defect.ofExpression) := by
  cases given with
  | none => rfl
  | some es =>
    have h : Reports (es.mapM Filter.expression) (es.flatMap Defect.ofExpression) :=
      Reports.mapM reports_expression
    exact (failure?_bind_pure _ _).trans h

theorem reports_fieldGroup (fields : Entries) :
    Reports (Filter.Parts.fieldGroup fields)
      (if fields.isEmpty then [] else Defect.ofExpression fields) := by
  unfold Filter.Parts.fieldGroup
  split
  · rfl
  · exact (reports_expression fields).map _

theorem reports_conditions (parts : Filter.Parts) :
    Reports parts.conditions ((parts.all.getD []).flatMap Defect.ofExpression ++
      ((parts.any.getD []).flatMap Defect.ofExpression ++
        if parts.fields.isEmpty then [] else Defect.ofExpression parts.fields)) := by
  unfold Filter.Parts.conditions
  refine (reports_group .and parts.all).bind fun all _ => ?_
  refine (reports_group .or parts.any).bind fun any _ => ?_
  exact (failure?_bind_pure _ _).trans (reports_fieldGroup parts.fields)

theorem reports_condition (f : Filter) : Reports f.condition f.defects := by
  -- Behind the connectives the parts are known, so the other defects can be read off the entries.
  refine (reports_parts f).bind fun parts h => ?_
  have hconditions := reports_conditions parts
  rw [Filter.parts_eq_ok h] at hconditions ⊢
  exact (failure?_bind_pure _ _).trans hconditions

/-- The clause of a filter fails exactly if the filter has a defect, with the error of the first. -/
theorem clause_reports_first_defect (f : Filter) :
    ((∃ w, f.clause = .ok w) ↔ f.defects = []) ∧
      ∀ e, f.clause = .error e ↔ ∃ d, f.defects.head? = some d ∧ d.error = e := by
  have h : failure? f.clause = firstError? f.defects := (reports_condition f).map _
  constructor
  · rw [← failure?_eq_none, h, firstError?, Option.map_eq_none_iff, List.head?_eq_none_iff]
  · intro e
    rw [← failure?_eq_some, h, firstError?, Option.map_eq_some_iff]

end SoqlSelect
