import SoqlSelect.Proofs.FilterRewriting
import SoqlSelect.Proofs.FilterSymbols

/-!
# The explicit form of filters

A field entry may be short for others: a scalar stands for equality with it, a list for a choice among
its items, and several operators on a field for as many entries. The explicit form of a filter writes
every field entry with one operator. The main statement says that it has the clause of the filter, and
fails with the same error if there is none.
-/

namespace SoqlSelect

/-! ### Results that are put together -/

section

variable {ε α β γ : Type}

/-- The results for all items, one after the other. -/
def listed (f : α → Except ε (List γ)) (as : List α) : Except ε (List γ) :=
  (as.mapM f).map List.flatten

theorem listed_cons (f : α → Except ε (List γ)) (a : α) (as : List α) :
    listed f (a :: as) = f a >>= fun cs => (listed f as).map (cs ++ ·) := by
  rw [listed, List.mapM_cons]
  cases f a with
  | error e => rfl
  | ok cs =>
    unfold listed
    cases as.mapM f <;> rfl

theorem listed_append (f : α → Except ε (List γ)) (as bs : List α) :
    listed f (as ++ bs) = listed f as >>= fun cs => (listed f bs).map (cs ++ ·) := by
  unfold listed
  rw [List.mapM_append]
  cases as.mapM f with
  | error e => rfl
  | ok cs =>
    cases bs.mapM f with
    | error e => rfl
    | ok ds =>
      have hflatten : (cs ++ ds).flatten = cs.flatten ++ ds.flatten := List.flatten_append
      exact congrArg Except.ok hflatten

/- An item may stand for several, as long as these give together what it gives. -/
theorem listed_flatMap {g : α → List β} {f : β → Except ε (List γ)} {h : α → Except ε (List γ)}
    (hg : ∀ a, listed f (g a) = h a) (as : List α) : listed f (as.flatMap g) = listed h as := by
  induction as with
  | nil => rfl
  | cons a as ih => rw [List.flatMap_cons, listed_append, listed_cons, hg, ih]

end

namespace Filter

/-! ### Entries -/

/-- The entries with one operator that a field entry stands for. An object without operators stands for
itself. -/
def explicitEntry : String × Value → Entries
  | (field, .object []) => [(field, .object [])]
  | (field, .object operators) => operators.map fun operator => (field, .object [operator])
  | (field, .array items) => [(field, .object [(Comparator.isIn.symbol, .array items)])]
  | (field, v) => [(field, .object [(Comparator.equal.symbol, v)])]

def explicitEntries (entries : Entries) : Entries := entries.flatMap explicitEntry

theorem explicitEntry_ne_nil (entry : String × Value) : explicitEntry entry ≠ [] := by
  obtain ⟨field, value⟩ := entry
  cases value with
  | object operators => cases operators <;> simp [explicitEntry]
  | _ => simp [explicitEntry]

@[simp] theorem isEmpty_explicitEntries (entries : Entries) :
    (explicitEntries entries).isEmpty = entries.isEmpty := by
  cases entries with
  | nil => rfl
  | cons entry entries => simp [explicitEntries, explicitEntry_ne_nil entry]

theorem key_of_mem_explicitEntry {entry e : String × Value} (h : e ∈ explicitEntry entry) :
    e.1 = entry.1 := by
  obtain ⟨field, value⟩ := entry
  cases value with
  | object operators =>
    cases operators with
    | nil => rw [List.mem_singleton.mp h]
    | cons first others =>
      obtain ⟨operator, _, rfl⟩ := List.mem_map.mp h
      rfl
  | _ => rw [List.mem_singleton.mp h]

theorem form_of_mem_explicitEntry {entry e : String × Value} (h : e ∈ explicitEntry entry) :
    ∃ operators, e.2 = .object operators ∧ operators.length ≤ 1 := by
  obtain ⟨field, value⟩ := entry
  cases value with
  | object operators =>
    cases operators with
    | nil =>
      rw [List.mem_singleton.mp h]
      exact ⟨[], rfl, by simp⟩
    | cons first others =>
      obtain ⟨operator, _, rfl⟩ := List.mem_map.mp h
      exact ⟨[operator], rfl, by simp⟩
  | _ =>
    rw [List.mem_singleton.mp h]
    exact ⟨_, rfl, by simp⟩

/-! ### Comparisons -/

def entryComparisons (entry : String × Value) : Except QueryError (List Comparison) :=
  comparisons entry.1 entry.2

def operatorComparison (field : String) (operator : String × Value) : Except QueryError Comparison :=
  Comparator.ofSymbol operator.1 >>= fun c => Comparison.ofValue field c operator.2

theorem comparisons_connective {field : String} {c : Connective}
    (h : Connective.ofSymbol? field = some c) (value : Value) :
    comparisons field value = .error (.malformed (.nestedConnective c)) := by
  simp only [comparisons, h]

theorem comparisons_operators {field : String} (h : Connective.ofSymbol? field = none)
    (first : String × Value) (others : Entries) :
    comparisons field (.object (first :: others)) =
      (first :: others).mapM (operatorComparison field) := by
  simp only [comparisons, h, Value.form]
  rfl

theorem comparisons_operator {field : String} (h : Connective.ofSymbol? field = none)
    (operator : String × Value) :
    comparisons field (.object [operator]) = (operatorComparison field operator).map fun c => [c] := by
  rw [comparisons_operators h, List.mapM_cons]
  cases operatorComparison field operator <;> rfl

theorem listed_operators {field : String} (h : Connective.ofSymbol? field = none)
    (operators : Entries) :
    listed entryComparisons (operators.map fun operator => (field, .object [operator])) =
      operators.mapM (operatorComparison field) := by
  induction operators with
  | nil => rfl
  | cons operator operators ih =>
    have hfirst : entryComparisons (field, .object [operator]) =
        (operatorComparison field operator).map fun c => [c] := comparisons_operator h operator
    rw [List.map_cons, listed_cons, ih, hfirst, List.mapM_cons]
    cases operatorComparison field operator with
    | error e => rfl
    | ok c => cases operators.mapM (operatorComparison field) <;> rfl

theorem listed_singleton (entry : String × Value) :
    listed entryComparisons [entry] = entryComparisons entry := by
  rw [listed_cons]
  cases entryComparisons entry with
  | error e => rfl
  | ok cs =>
    show Except.ok (cs ++ []) = Except.ok cs
    rw [List.append_nil]

/- A connective in the place of a field is reported for the first of the entries, before any operator
is looked at. -/
theorem listed_connective {entry : String × Value} {c : Connective}
    (h : Connective.ofSymbol? entry.1 = some c) :
    listed entryComparisons (explicitEntry entry) = entryComparisons entry := by
  obtain ⟨first, others, hentries⟩ := List.exists_cons_of_ne_nil (explicitEntry_ne_nil entry)
  have hkey : first.1 = entry.1 := by
    apply key_of_mem_explicitEntry
    rw [hentries]
    exact List.mem_cons_self
  have hfirst : entryComparisons first = .error (.malformed (.nestedConnective c)) :=
    comparisons_connective (hkey.symm ▸ h) first.2
  have hentry : entryComparisons entry = .error (.malformed (.nestedConnective c)) :=
    comparisons_connective h entry.2
  rw [hentries, listed_cons, hfirst, hentry]
  rfl

theorem listed_explicitEntry (entry : String × Value) :
    listed entryComparisons (explicitEntry entry) = entryComparisons entry := by
  cases hfield : Connective.ofSymbol? entry.1 with
  | some c => exact listed_connective hfield
  | none =>
    obtain ⟨field, value⟩ := entry
    -- A list or a scalar is compared by the operator that the explicit form names.
    have hshort (c : Comparator) (hvalue : comparisons field value =
        (Comparison.ofValue field c value).map fun c => [c]) :
        listed entryComparisons [(field, .object [(c.symbol, value)])] = comparisons field value := by
      have hsymbol : operatorComparison field (c.symbol, value) = Comparison.ofValue field c value := by
        simp only [operatorComparison, Comparator.ofSymbol, Comparator.ofSymbol?_symbol]
        rfl
      rw [listed_singleton, hvalue, ← hsymbol]
      exact comparisons_operator hfield (c.symbol, value)
    cases value with
    | object operators =>
      cases operators with
      | nil => exact listed_singleton _
      | cons first others =>
        have hall := comparisons_operators hfield first others
        exact (listed_operators hfield (first :: others)).trans hall.symm
    | array items => exact hshort .isIn (by simp only [comparisons, hfield, Value.form])
    | _ => exact hshort .equal (by simp only [comparisons, hfield, Value.form])

theorem expression_eq_listed (entries : Entries) :
    expression entries = if entries.isEmpty then .error (.malformed .emptyExpression)
      else (listed entryComparisons entries).map fun cs => .group .and (cs.map .comparison) := by
  unfold expression listed
  split
  · rfl
  · show (entries.mapM entryComparisons >>= _) = _
    cases entries.mapM entryComparisons <;> rfl

@[simp] theorem expression_explicitEntries (entries : Entries) :
    expression (explicitEntries entries) = expression entries := by
  have hlisted : listed entryComparisons (explicitEntries entries) = listed entryComparisons entries :=
    listed_flatMap listed_explicitEntry entries
  rw [expression_eq_listed, expression_eq_listed, isEmpty_explicitEntries, hlisted]

/-! ### Parts -/

def explicitItem : Value → Value
  | .object entries => .object (explicitEntries entries)
  | v => v

/-- The expressions of an array in their explicit form. -/
def explicitArray : Value → Value
  | .array items => .array (items.map explicitItem)
  | v => v

/-- What an entry of a filter stands for. Under a connective only the expressions of an array are
rewritten. -/
def explicitTop (entry : String × Value) : Entries :=
  if (Connective.ofSymbol? entry.1).isSome then [(entry.1, explicitArray entry.2)]
  else explicitEntry entry

/-- The filter with an operator in every field entry. -/
def explicit (f : Filter) : Filter := { entries := f.entries.flatMap explicitTop }

def itemExpression (connective : Connective) : Value → Except QueryError Entries
  | .object entries => .ok entries
  | item => .error (.malformed (.notAnExpression connective item.shown))

theorem expressions_items (connective : Connective) (first : Value) (others : List Value) :
    expressions connective (.array (first :: others)) =
      (first :: others).mapM (itemExpression connective) := rfl

/- The first item that is no object is reported, and it is the same in the explicit form. -/
theorem mapM_explicitItem (connective : Connective) (items : List Value) :
    (items.map explicitItem).mapM (itemExpression connective) =
      (items.mapM (itemExpression connective)).map (List.map explicitEntries) :=
  mapM_map fun item _ => by cases item <;> rfl

theorem expressions_explicitArray (connective : Connective) (value : Value) :
    expressions connective (explicitArray value) =
      (expressions connective value).map (List.map explicitEntries) := by
  cases value with
  | array items =>
    cases items with
    | nil => rfl
    | cons first others =>
      rw [expressions_items, ← mapM_explicitItem]
      rfl
  | _ => rfl

/- One entry of the filter, and what it stands for in the explicit form. -/
theorem add_explicit (entry : String × Value) (parts : Parts) :
    (explicitTop entry).foldlM Parts.add (parts.rewrite explicitEntries) =
      (parts.add entry).map (Parts.rewrite explicitEntries) := by
  obtain ⟨key, value⟩ := entry
  cases hk : Connective.ofSymbol? key with
  | some c =>
    obtain rfl := Connective.ofSymbol?_eq_some.mp hk
    have htop : explicitTop (c.symbol, value) = [(c.symbol, explicitArray value)] := by
      simp [explicitTop, hk]
    rw [htop]
    exact Parts.add_rewrite_connective (expressions_explicitArray c value) parts
  | none =>
    have htop : explicitTop (key, value) = explicitEntry (key, value) := by
      simp [explicitTop, hk]
    have hfields : ∀ e ∈ explicitEntry (key, value), Connective.ofSymbol? e.1 = none := by
      intro e he
      rw [key_of_mem_explicitEntry he]
      exact hk
    rw [htop]
    exact Parts.add_rewrite_field hk hfields (fun fields => by simp [explicitEntries]) parts

theorem conditions_explicit (parts : Parts) :
    (parts.rewrite explicitEntries).conditions = parts.conditions :=
  Parts.conditions_rewrite (fun _ _ _ entries _ => expression_explicitEntries entries)
    (isEmpty_explicitEntries parts.fields) (expression_explicitEntries parts.fields)

/-! ### The form -/

theorem objects_explicitArray (value : Value) :
    (explicitArray value).objects = value.objects.map explicitEntries := by
  cases value with
  | array items =>
    induction items with
    | nil => rfl
    | cons item items ih =>
      have ih : (items.map explicitItem).filterMap Value.entries? =
          (items.filterMap Value.entries?).map explicitEntries := ih
      cases item <;>
        simp [explicitArray, explicitItem, Value.objects, Value.entries?, List.filterMap_cons, ih]
  | _ => rfl

theorem fieldsOf_explicit (entries : Entries) :
    fieldsOf (entries.flatMap explicitTop) = explicitEntries (fieldsOf entries) := by
  induction entries with
  | nil => rfl
  | cons entry entries ih =>
    have hsplit : fieldsOf (explicitTop entry ++ entries.flatMap explicitTop) =
        fieldsOf (explicitTop entry) ++ explicitEntries (fieldsOf entries) := by
      rw [← ih]
      exact List.filter_append ..
    rw [List.flatMap_cons, hsplit]
    cases hk : Connective.ofSymbol? entry.1 with
    | some c => simp [explicitTop, fieldsOf, hk]
    | none =>
      have hall : ∀ e ∈ explicitEntry entry, (Connective.ofSymbol? e.1).isNone = true := by
        intro e he
        simp [key_of_mem_explicitEntry he, hk]
      have hown : fieldsOf (explicitTop entry) = explicitEntry entry := by
        simp only [explicitTop, hk]
        exact List.filter_eq_self.mpr hall
      rw [hown]
      simp [fieldsOf, explicitEntries, hk]

theorem expressionsOf_explicit (entries : Entries) (c : Connective) :
    expressionsOf (entries.flatMap explicitTop) c =
      (expressionsOf entries c).map (List.map explicitEntries) := by
  induction entries with
  | nil => rfl
  | cons entry entries ih =>
    obtain ⟨key, value⟩ := entry
    rw [List.flatMap_cons, expressionsOf_cons]
    cases hk : Connective.ofSymbol? key with
    | some d =>
      have htop : explicitTop (key, value) = [(key, explicitArray value)] := by
        simp [explicitTop, hk]
      rw [htop, List.singleton_append, expressionsOf_cons, objects_explicitArray, ih]
      split <;> rfl
    | none =>
      have hne : key ≠ c.symbol := (Connective.symbol_ne hk c).symm
      have hkeys : ∀ e ∈ explicitTop (key, value), e.1 ≠ c.symbol := by
        intro e he
        simp only [explicitTop, hk] at he
        rw [key_of_mem_explicitEntry he]
        exact hne
      rw [if_neg hne, expressionsOf, Members.get?_append_of_ne hkeys, ← ih]
      rfl

theorem form_of_fieldEntries {f : Filter} {entry : String × Value}
    (h : entry ∈ f.explicit.fieldEntries) :
    ∃ operators, entry.2 = .object operators ∧ operators.length ≤ 1 := by
  have hform : ∀ {entries : Entries}, entry ∈ explicitEntries entries →
      ∃ operators, entry.2 = .object operators ∧ operators.length ≤ 1 := by
    intro entries he
    obtain ⟨short, _, he⟩ := List.mem_flatMap.mp he
    exact form_of_mem_explicitEntry he
  rcases List.mem_append.mp h with h | h
  · obtain ⟨c, es, hes, entries, hentries, he⟩ := mem_nestedEntries h
    have hes : (expressionsOf f.entries c).map (List.map explicitEntries) = some es :=
      (expressionsOf_explicit f.entries c).symm.trans hes
    obtain ⟨shorts, _, rfl⟩ := Option.map_eq_some_iff.mp hes
    obtain ⟨short, _, rfl⟩ := List.mem_map.mp hentries
    exact hform he
  · have h : entry ∈ explicitEntries (fieldsOf f.entries) := by
      rw [← fieldsOf_explicit]
      exact h
    exact hform h

/-- In the explicit form every field entry is an object with one operator at most, and the clause is
that of the filter, with the same text or the same error. -/
theorem clause_explicit (f : Filter) :
    f.explicit.clause = f.clause ∧
      ∀ entry ∈ f.explicit.fieldEntries,
        ∃ operators, entry.2 = .object operators ∧ operators.length ≤ 1 := by
  constructor
  · exact clause_rewrite rfl (fun entry _ => add_explicit entry) fun parts _ => conditions_explicit parts
  · intro entry h
    exact form_of_fieldEntries h

theorem clause_explicit_mixed_entries :
    let f : Filter := { entries :=
      [("Age", .object [("$gt", .null), ("$ne", .bool true)]),
        ("$or", .array [.object [("Name", .array [.string "a", .null]), ("Open", .bool true)]])] }
    let g : Filter := { entries :=
      [("Age", .object [("$gt", .null)]), ("Age", .object [("$ne", .bool true)]),
        ("$or", .array [.object [("Name", .object [("$in", .array [.string "a", .null])]),
          ("Open", .object [("$eq", .bool true)])]])] }
    g = f.explicit ∧ g.clause = f.clause ∧
      f.clause = .ok
        "WHERE (((Name IN ('a',null) AND Open = true)) AND (Age > null AND Age != true))" ∧
      ("Open", .object [("$eq", .bool true)]) ∈ f.explicit.fieldEntries ∧
      ∃ operators, Value.object [("$eq", .bool true)] = .object operators ∧ operators.length ≤ 1 := by
  intro f g
  have hg : g = f.explicit := rfl
  obtain ⟨hclause, hform⟩ := clause_explicit f
  have hmem : ("Open", .object [("$eq", .bool true)]) ∈ f.explicit.fieldEntries := by
    have hlist : f.explicit.fieldEntries =
        [("Name", .object [("$in", .array [.string "a", .null])]),
          ("Open", .object [("$eq", .bool true)]), ("Age", .object [("$gt", .null)]),
          ("Age", .object [("$ne", .bool true)])] := rfl
    rw [hlist]
    simp
  refine ⟨hg, hg ▸ hclause, ?_, hmem, hform _ hmem⟩
  unfold f
  rfl

end Filter

end SoqlSelect
