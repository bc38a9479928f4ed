import SoqlSelect.Descriptor
import SoqlSelect.Proofs.FilterParts
import SoqlSelect.Proofs.JsonView

/-!
# Reading descriptors

Which objects describe a statement, and that each of them is read as that statement. The members of a
descriptor stand in any order and among others of unknown names. A part that is the default may be left
out, and a part of a paging that is not set may be null.

The record is read member by member. After some members it has the parts that these name, and the
defaults elsewhere, which is the invariant of the reading.
-/

namespace SoqlSelect

/-! ### Members -/

/-- The members of an object. -/
def Json.members : Json → List (String × Json)
  | .object members => members
  | _ => []

namespace Members

/-- The member of the name is of the form, or there is none and the part is the default. -/
def Gives (members : List (String × Json)) (name : String) (form : Json → Prop) (isDefault : Prop) :
    Prop :=
  (∃ j, get? name members = some j ∧ form j) ∨ (get? name members = none ∧ isDefault)

/-- Lookup in the members for one part, of which there is at most one. -/
theorem get?_part {α β : Type} (name part : String) (o : Option β) (f : β → α) :
    get? name (o.toList.map fun b => (part, f b)) = if part = name then o.map f else none := by
  cases o with
  | none => simp [get?]
  | some b =>
    rw [Option.toList_some, List.map_singleton, get?_cons]
    simp [get?]

variable {members : List (String × Json)} {name : String} {form : Json → Prop} {isDefault : Prop}

theorem Gives.form_of_mem (h : Gives members name form isDefault)
    (hdistinct : (members.map (·.1)).Nodup) {j : Json} (hmem : (name, j) ∈ members) : form j := by
  have hget := get?_of_mem hdistinct hmem
  rcases h with ⟨k, hk, hform⟩ | ⟨hnone, _⟩
  · rw [hget] at hk
    cases hk
    exact hform
  · rw [hget] at hnone
    cases hnone

theorem Gives.default_of_not_mem (h : Gives members name form isDefault)
    (hmem : name ∉ members.map (·.1)) : isDefault := by
  rcases h with ⟨j, hj, _⟩ | ⟨_, hdefault⟩
  · rw [get?_of_not_mem hmem] at hj
    cases hj
  · exact hdefault

end Members

namespace Descriptor

/-! ### Parts -/

theorem strings_array (texts : List String) : strings (.array (texts.map .string)) = .ok texts := by
  rw [strings]
  induction texts with
  | nil => rfl
  | cons text rest ih =>
    rw [List.map_cons, List.mapM_cons, ih]
    rfl

theorem optional_count (n : Option UInt64) :
    optional count ((n.map fun n => Json.number (Number.ofUInt64 n)).getD .null) = .ok n := by
  cases n with
  | none => rfl
  | some n =>
    have hread : (Number.ofUInt64 n).toUInt64? = some n := by
      simp [Number.ofUInt64, Number.toUInt64?]
    simp [optional, count, hread, Except.map]

theorem optional_string (s : Option String) :
    optional string ((s.map Json.string).getD .null) = .ok s := by
  cases s <;> rfl

/-! ### Records -/

/-- Where each member puts its part in place, all members together put theirs. -/
theorem foldlM_set {α : Type} {set : α → String × Json → Except DescriptorError α}
    {partsOf : List String → α} {members : List (String × Json)}
    (hstep : ∀ seen, ∀ member ∈ members, set (partsOf seen) member = .ok (partsOf (member.1 :: seen)))
    (seen : List String) :
    members.foldlM set (partsOf seen) = .ok (partsOf ((members.map (·.1)).reverse ++ seen)) := by
  induction members generalizing seen with
  | nil => rfl
  | cons member rest ih =>
    have hrest : ∀ seen, ∀ m ∈ rest, set (partsOf seen) m = .ok (partsOf (m.1 :: seen)) :=
      fun seen m hm => hstep seen m (List.mem_cons_of_mem _ hm)
    have hall := ih hrest (member.1 :: seen)
    rw [List.foldlM_cons, hstep seen member List.mem_cons_self]
    simpa [bind, Except.bind] using hall

end Descriptor

/-! ### Pagings -/

namespace Paging

/-- The object has the members of the paging that are set. Those that are not set are null or missing. -/
structure DescribedBy (p : Paging) (members : List (String × Json)) : Prop where
  distinct : (members.map (·.1)).Nodup
  gives : ∀ name ∈ memberNames, Members.Gives members name
    (· = (Members.get? name p.toJson.members).getD .null) (Members.get? name p.toJson.members = none)

/-- The paging with its parts of those names only. -/
def partsOf (p : Paging) (names : List String) : Paging where
  skip := if "skip" ∈ names then p.skip else none
  limit := if "limit" ∈ names then p.limit else none
  page := if "page" ∈ names then p.page else none
  pageSize := if "pageSize" ∈ names then p.pageSize else none
  sort := if "sort" ∈ names then p.sort else none

theorem get?_toJson (p : Paging) :
    Members.get? "skip" p.toJson.members = p.skip.map (fun n => .number (Number.ofUInt64 n)) ∧
    Members.get? "limit" p.toJson.members = p.limit.map (fun n => .number (Number.ofUInt64 n)) ∧
    Members.get? "page" p.toJson.members = p.page.map (fun n => .number (Number.ofUInt64 n)) ∧
    Members.get? "pageSize" p.toJson.members =
      p.pageSize.map (fun n => .number (Number.ofUInt64 n)) ∧
    Members.get? "sort" p.toJson.members = p.sort.map .string := by
  simp [toJson, Json.members, Members.get?_part]

theorem setMember_partsOf {p : Paging} {name : String} {j : Json} (seen : List String)
    (h : name ∈ memberNames → j = (Members.get? name p.toJson.members).getD .null) :
    setMember (p.partsOf seen) (name, j) = .ok (p.partsOf (name :: seen)) := by
  obtain ⟨hskip, hlimit, hpage, hsize, hsort⟩ := p.get?_toJson
  by_cases hname : name ∈ memberNames
  · have hj := h hname
    simp only [memberNames, List.mem_cons, List.not_mem_nil, or_false] at hname
    rcases hname with rfl | rfl | rfl | rfl | rfl
    · rw [hj, hskip]
      simp [setMember, Descriptor.optional_count, partsOf, Except.map]
    · rw [hj, hlimit]
      simp [setMember, Descriptor.optional_count, partsOf, Except.map]
    · rw [hj, hpage]
      simp [setMember, Descriptor.optional_count, partsOf, Except.map]
    · rw [hj, hsize]
      simp [setMember, Descriptor.optional_count, partsOf, Except.map]
    · rw [hj, hsort]
      simp [setMember, Descriptor.optional_string, partsOf, Except.map]
  · simp only [memberNames, List.mem_cons, List.not_mem_nil, or_false, not_or] at hname
    obtain ⟨h₁, h₂, h₃, h₄, h₅⟩ := hname
    simp [setMember, partsOf, h₁, h₂, h₃, h₄, h₅, Ne.symm h₁, Ne.symm h₂, Ne.symm h₃, Ne.symm h₄,
      Ne.symm h₅]

theorem partsOf_eq_self {p : Paging} {names : List String}
    (h : ∀ name ∈ memberNames, name ∉ names → Members.get? name p.toJson.members = none) :
    p.partsOf names = p := by
  obtain ⟨hskip, hlimit, hpage, hsize, hsort⟩ := p.get?_toJson
  simp only [memberNames, List.forall_mem_cons, hskip, hlimit, hpage, hsize, hsort,
    Option.map_eq_none_iff] at h
  obtain ⟨h₁, h₂, h₃, h₄, h₅, _⟩ := h
  cases p
  simp only [partsOf, mk.injEq, ite_eq_left_iff]
  exact ⟨fun hn => (h₁ hn).symm, fun hn => (h₂ hn).symm, fun hn => (h₃ hn).symm,
    fun hn => (h₄ hn).symm, fun hn => (h₅ hn).symm⟩

theorem DescribedBy.ofJson {p : Paging} {members : List (String × Json)}
    (h : p.DescribedBy members) : Paging.ofJson (.object members) = .ok p := by
  have hstep : ∀ seen, ∀ member ∈ members,
      setMember (p.partsOf seen) member = .ok (p.partsOf (member.1 :: seen)) := by
    rintro seen ⟨name, j⟩ hmem
    apply setMember_partsOf
    intro hname
    exact (h.gives name hname).form_of_mem h.distinct hmem
  have hall : p.partsOf ((members.map (·.1)).reverse ++ []) = p := by
    apply partsOf_eq_self
    intro name hname hmem
    apply (h.gives name hname).default_of_not_mem
    simpa using hmem
  have hread := Descriptor.foldlM_set hstep []
  rw [hall] at hread
  exact hread

end Paging

/-! ### Statements -/

/-- The name of the operation stands for it and not for another. -/
theorem Operation.ofName_name {operation : Operation}
    (h : ∀ name, operation = .other name → name ∉ ["select", "insert", "update", "delete"]) :
    ofName operation.name = operation := by
  cases operation with
  | other text =>
    have hnot := h text rfl
    simp only [List.mem_cons, List.not_mem_nil, or_false, not_or] at hnot
    simp [name, ofName, hnot]
  | _ => rfl

namespace Statement

/-- The form of the member for the paging. -/
def PagingForm : Option Paging → Json → Prop
  | none, j => j = .null
  | some p, j => ∃ members, j = .object members ∧ p.DescribedBy members

theorem PagingForm.optional {paging : Option Paging} {j : Json} (h : PagingForm paging j) :
    Descriptor.optional Paging.ofJson j = .ok paging := by
  cases paging with
  | none =>
    rw [show j = .null from h]
    rfl
  | some p =>
    obtain ⟨members, rfl, hmembers⟩ := h
    simp [Descriptor.optional, hmembers.ofJson, Except.map]

/-- The object has the parts of the statement as its members, but may leave out defaults. -/
structure DescribedBy (s : Statement) (members : List (String × Json)) : Prop where
  distinct : (members.map (·.1)).Nodup
  object : Members.Gives members "object" (· = .string s.object) (s.object = "")
  operation : Members.Gives members "type" (· = .string s.operation.name) (s.operation = .select)
  filter : Members.Gives members "query" (· = (Value.object s.filter.entries).toJson) (s.filter = {})
  fields : Members.Gives members "fields" (· = .array (s.fields.map .string)) (s.fields = [])
  paging : Members.Gives members "pagination" (PagingForm s.paging) (s.paging = none)

/-- The statement with its parts of those names only. -/
def partsOf (s : Statement) (names : List String) : Statement where
  object := if "object" ∈ names then s.object else ""
  operation := if "type" ∈ names then s.operation else .select
  filter := if "query" ∈ names then s.filter else {}
  fields := if "fields" ∈ names then s.fields else []
  paging := if "pagination" ∈ names then s.paging else none

theorem DescribedBy.setMember_partsOf {s : Statement} {members : List (String × Json)}
    (h : s.DescribedBy members)
    (hplain : (Value.object s.filter.entries).everywhere Value.isPlain = true)
    (hoperation : ∀ name, s.operation = .other name → name ∉ ["select", "insert", "update", "delete"])
    (seen : List String) {name : String} {j : Json} (hmem : (name, j) ∈ members) :
    setMember (s.partsOf seen) (name, j) = .ok (s.partsOf (name :: seen)) := by
  by_cases hname : name ∈ memberNames
  · simp only [memberNames, List.mem_cons, List.not_mem_nil, or_false] at hname
    rcases hname with rfl | rfl | rfl | rfl | rfl
    · rw [h.object.form_of_mem h.distinct hmem]
      simp [setMember, Descriptor.string, partsOf, Except.map]
    · rw [h.operation.form_of_mem h.distinct hmem]
      simp [setMember, Operation.ofJson, Descriptor.string, Operation.ofName_name hoperation, partsOf,
        Except.map]
    · rw [h.filter.form_of_mem h.distinct hmem]
      simp [setMember, Filter.ofJson_toJson hplain, partsOf]
    · rw [h.fields.form_of_mem h.distinct hmem]
      simp [setMember, Descriptor.strings_array, partsOf, Except.map]
    · have hform := h.paging.form_of_mem h.distinct hmem
      simp [setMember, hform.optional, partsOf, Except.map]
  · simp only [memberNames, List.mem_cons, List.not_mem_nil, or_false, not_or] at hname
    obtain ⟨h₁, h₂, h₃, h₄, h₅⟩ := hname
    simp [setMember, partsOf, h₁, h₂, h₃, h₄, h₅, Ne.symm h₁, Ne.symm h₂, Ne.symm h₃, Ne.symm h₄,
      Ne.symm h₅]

theorem DescribedBy.partsOf_eq_self {s : Statement} {members : List (String × Json)}
    (h : s.DescribedBy members) {names : List String}
    (hnames : ∀ name, name ∉ names → name ∉ members.map (·.1)) : s.partsOf names = s := by
  have hobject := fun hn => h.object.default_of_not_mem (hnames _ hn)
  have hoperation := fun hn => h.operation.default_of_not_mem (hnames _ hn)
  have hfilter := fun hn => h.filter.default_of_not_mem (hnames _ hn)
  have hfields := fun hn => h.fields.default_of_not_mem (hnames _ hn)
  have hpaging := fun hn => h.paging.default_of_not_mem (hnames _ hn)
  cases s
  simp only [partsOf, mk.injEq, ite_eq_left_iff]
  exact ⟨fun hn => (hobject hn).symm, fun hn => (hoperation hn).symm, fun hn => (hfilter hn).symm,
    fun hn => (hfields hn).symm, fun hn => (hpaging hn).symm⟩

/-- A descriptor is read as the statement that it describes, and its query is the query of the
statement, text or error. The filter may hold no instant and no repeated key at any depth, and the
operation may not be another one under a known name, since the descriptor cannot tell these apart. -/
theorem ofJson_of_describedBy (s : Statement) (members : List (String × Json))
    (hplain : (Value.object s.filter.entries).everywhere Value.isPlain = true)
    (hoperation : ∀ name, s.operation = .other name → name ∉ ["select", "insert", "update", "delete"])
    (h : s.DescribedBy members) :
    ofJson (.object members) = .ok s ∧ soqlOfJson (.object members) = s.soql := by
  have hstep : ∀ seen, ∀ member ∈ members,
      setMember (s.partsOf seen) member = .ok (s.partsOf (member.1 :: seen)) :=
    fun seen _ hmem => h.setMember_partsOf hplain hoperation seen hmem
  have hall : s.partsOf ((members.map (·.1)).reverse ++ []) = s := by
    apply h.partsOf_eq_self
    intro name hname
    simpa using hname
  have hread : ofJson (.object members) = .ok s := by
    have hfold := Descriptor.foldlM_set hstep []
    rw [hall] at hfold
    exact hfold
  refine ⟨hread, ?_⟩
  rw [soqlOfJson, hread]

theorem ofJson_of_describedBy_scattered_members :
    let s : Statement :=
      { object := "Account", operation := .other "upsert", fields := [],
        filter := ⟨[("Name", .object [("$in", .array [.string "x", .null])])]⟩,
        paging := some { limit := some 5, sort := some "Id" } }
    let paging : List (String × Json) :=
      [("sort", .string "Id"), ("skip", .null), ("total", .bool true), ("limit", .number (.ofUInt64 5))]
    let members : List (String × Json) :=
      [("note", .array []), ("pagination", .object paging), ("type", .string "upsert"),
        ("query", .object [("Name", .object [("$in", .array [.string "x", .null])])]),
        ("object", .string "Account")]
    (Value.object s.filter.entries).everywhere Value.isPlain = true ∧
      (∀ name, s.operation = .other name → name ∉ ["select", "insert", "update", "delete"]) ∧
      s.DescribedBy members ∧ ofJson (.object members) = .ok s ∧
      soqlOfJson (.object members) = s.soql := by
  intro s paging members
  have hplain : (Value.object s.filter.entries).everywhere Value.isPlain = true := by decide
  have hoperation : ∀ name, s.operation = .other name →
      name ∉ ["select", "insert", "update", "delete"] := by
    intro name hname
    cases hname
    decide
  have hpaging : PagingForm s.paging (.object paging) := by
    refine ⟨paging, rfl, by decide, ?_⟩
    simp only [Paging.memberNames, List.forall_mem_cons]
    exact ⟨.inl ⟨_, rfl, rfl⟩, .inl ⟨_, rfl, rfl⟩, .inr ⟨rfl, rfl⟩, .inr ⟨rfl, rfl⟩,
      .inl ⟨_, rfl, rfl⟩, by simp⟩
  have hdescribed : s.DescribedBy members :=
    { distinct := by decide
      object := .inl ⟨_, rfl, rfl⟩
      operation := .inl ⟨_, rfl, rfl⟩
      filter := .inl ⟨_, rfl, rfl⟩
      fields := .inr ⟨rfl, rfl⟩
      paging := .inl ⟨_, rfl, hpaging⟩ }
  exact ⟨hplain, hoperation, hdescribed,
    ofJson_of_describedBy s members hplain hoperation hdescribed⟩

end Statement

end SoqlSelect
