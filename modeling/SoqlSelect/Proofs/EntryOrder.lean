import SoqlSelect.Proofs.FilterDefects

/-!
# The order of entries

Where the connectives stand among the entries of a filter does not matter, as long as the entries of each
role keep their order. The main statement says that two filters with the same entries of each role have
the same clause or the same error. The one exception is a filter in which both connectives are given in a
wrong way: which of the two is reported depends on which comes first.
-/

namespace SoqlSelect

theorem Connective.eq_of_ne {c d e : Connective} (hc : c ≠ e) (hd : d ≠ e) : c = d := by
  cases c <;> cases d <;> cases e <;> simp_all

/-! ### Defects of a connective -/

namespace Defect

/-- The connective whose entries have the defect. -/
def connective? : Defect → Option Connective
  | .repeatedConnective c | .notAnArray c | .emptyArray c | .notAnObject c _ => some c
  | _ => none

theorem connective?_of_mem_ofArray {c : Connective} {value : Value} {d : Defect}
    (h : d ∈ ofArray c value) : d.connective? = some c := by
  unfold ofArray at h
  split at h
  · rw [List.mem_singleton.mp h]
    rfl
  · obtain ⟨item, _, hd⟩ := List.mem_flatMap.mp h
    unfold ofItem at hd
    split at hd
    · cases hd
    · rw [List.mem_singleton.mp hd]
      rfl
  · rw [List.mem_singleton.mp h]
    rfl

theorem connective?_of_mem_ofKey {before : List String} {key : String} {value : Value} {d : Defect}
    (h : d ∈ ofKey before key value) :
    ∃ c, Connective.ofSymbol? key = some c ∧ d.connective? = some c := by
  unfold ofKey at h
  split at h
  · cases h
  · rename_i c hk
    refine ⟨c, hk, ?_⟩
    split at h
    · rw [List.mem_singleton.mp h]
      rfl
    · exact connective?_of_mem_ofArray h

theorem connective?_of_mem_ofConnectives {before : List String} {entries : Entries} {d : Defect}
    (h : d ∈ ofConnectives before entries) : ∃ c, d.connective? = some c := by
  induction entries generalizing before with
  | nil => cases h
  | cons entry entries ih =>
    rcases List.mem_append.mp h with h | h
    · obtain ⟨c, _, hd⟩ := connective?_of_mem_ofKey h
      exact ⟨c, hd⟩
    · exact ih h

theorem ofKey_congr {before before' : List String} {key : String} (value : Value)
    (h : key ∈ before ↔ key ∈ before') : ofKey before key value = ofKey before' key value := by
  simp only [ofKey, h]

end Defect

namespace Filter

/-! ### Roles -/

/-- The entries under a connective, or the field entries. -/
def ofRole (role : Option Connective) (entries : Entries) : Entries :=
  entries.filter fun entry => Connective.ofSymbol? entry.1 = role

/-- The entries of each role are the same and in the same order. So the entries of the one filter are a
permutation of those of the other. -/
def Rearranged (f g : Filter) : Prop :=
  ∀ role, ofRole role f.entries = ofRole role g.entries

/-- What is wrong with the entries under a connective, without regard to the others. -/
def connectiveDefects (f : Filter) (c : Connective) : List Defect :=
  Defect.ofConnectives [] (ofRole (some c) f.entries)

theorem fieldsOf_eq_ofRole (entries : Entries) : fieldsOf entries = ofRole none entries := by
  unfold fieldsOf ofRole
  congr 1
  funext entry
  cases Connective.ofSymbol? entry.1 <;> simp

theorem expressionsOf_ofRole (entries : Entries) (c : Connective) :
    expressionsOf entries c = expressionsOf (ofRole (some c) entries) c := by
  induction entries with
  | nil => rfl
  | cons entry entries ih =>
    obtain ⟨key, value⟩ := entry
    rw [expressionsOf_cons]
    by_cases hk : Connective.ofSymbol? key = some c
    · have hkey : key = c.symbol := (Connective.ofSymbol?_eq_some.mp hk).symm
      have hrole : ofRole (some c) ((key, value) :: entries) =
          (key, value) :: ofRole (some c) entries := by simp [ofRole, hk]
      rw [hrole, expressionsOf_cons, if_pos hkey, if_pos hkey]
    · have hkey : ¬ key = c.symbol := fun h => hk (Connective.ofSymbol?_eq_some.mpr h.symm)
      have hrole : ofRole (some c) ((key, value) :: entries) = ofRole (some c) entries := by
        simp [ofRole, hk]
      rw [hrole, if_neg hkey, ih]

/- The defects are the same whether the other entries are there or not. The keys before an entry matter
only as far as they are the key of the connective. -/
theorem filter_ofConnectives {entries : Entries} {c : Connective} {before before' : List String}
    (h : c.symbol ∈ before ↔ c.symbol ∈ before') :
    (Defect.ofConnectives before entries).filter (fun d => d.connective? = some c) =
      Defect.ofConnectives before' (ofRole (some c) entries) := by
  induction entries generalizing before before' with
  | nil => rfl
  | cons entry entries ih =>
    obtain ⟨key, value⟩ := entry
    rw [Defect.ofConnectives, List.filter_append]
    by_cases hk : Connective.ofSymbol? key = some c
    · obtain rfl := Connective.ofSymbol?_eq_some.mp hk
      have hrole : ofRole (some c) ((c.symbol, value) :: entries) =
          (c.symbol, value) :: ofRole (some c) entries := by simp [ofRole, hk]
      have hown : (Defect.ofKey before c.symbol value).filter (fun d => d.connective? = some c) =
          Defect.ofKey before' c.symbol value := by
        rw [← Defect.ofKey_congr value h]
        refine List.filter_eq_self.mpr fun d hd => ?_
        obtain ⟨e, he, hconnective⟩ := Defect.connective?_of_mem_ofKey hd
        rw [hk] at he
        simp [hconnective, he]
      have hrest : c.symbol ∈ c.symbol :: before ↔ c.symbol ∈ c.symbol :: before' := by simp
      rw [hrole, Defect.ofConnectives, hown, ih hrest]
    · have hrole : ofRole (some c) ((key, value) :: entries) = ofRole (some c) entries := by
        simp [ofRole, hk]
      have hother : (Defect.ofKey before key value).filter (fun d => d.connective? = some c) = [] := by
        refine List.filter_eq_nil_iff.mpr fun d hd => ?_
        obtain ⟨e, he, hconnective⟩ := Defect.connective?_of_mem_ofKey hd
        rw [he] at hk
        simpa [hconnective] using hk
      have hkey : ¬ c.symbol = key := fun hs => hk (Connective.ofSymbol?_eq_some.mpr hs)
      have hrest : c.symbol ∈ key :: before ↔ c.symbol ∈ before' := by simp [hkey, h]
      rw [hrole, hother, List.nil_append, ih hrest]

theorem connectiveDefects_eq_filter (f : Filter) (c : Connective) :
    f.connectiveDefects c =
      (Defect.ofConnectives [] f.entries).filter (fun d => d.connective? = some c) :=
  (filter_ofConnectives Iff.rfl).symm

/-! ### Clauses -/

/- A filter with a defect of a connective reports the first defect of one of the connectives. -/
theorem clause_of_connectiveDefects {f : Filter} {c : Connective} (h : f.connectiveDefects c ≠ []) :
    ∃ c d, (f.connectiveDefects c).head? = some d ∧ f.clause = .error d.error := by
  have hne : Defect.ofConnectives [] f.entries ≠ [] := by
    intro hnil
    rw [connectiveDefects_eq_filter, hnil] at h
    exact h rfl
  obtain ⟨d, others, hd⟩ := List.exists_cons_of_ne_nil hne
  obtain ⟨e, he⟩ : ∃ e, d.connective? = some e := by
    apply Defect.connective?_of_mem_ofConnectives
    rw [hd]
    exact List.mem_cons_self
  refine ⟨e, d, ?_, ?_⟩
  · rw [connectiveDefects_eq_filter, hd]
    simp [he]
  · have hreport : failure? f.parts = some d.error := by
      have := reports_parts f
      rw [Reports, hd] at this
      exact this
    have hparts : f.parts = .error d.error := failure?_eq_some.mp hreport
    unfold clause condition
    rw [hparts]
    rfl

theorem parts_of_no_connectiveDefects {f : Filter} (h : ∀ c, f.connectiveDefects c = []) :
    f.parts = .ok { all := expressionsOf f.entries .and, any := expressionsOf f.entries .or,
                    fields := fieldsOf f.entries } := by
  have hnil : Defect.ofConnectives [] f.entries = [] := by
    refine List.eq_nil_iff_forall_not_mem.mpr fun d hd => ?_
    obtain ⟨c, hc⟩ := Defect.connective?_of_mem_ofConnectives hd
    have hmem : d ∈ f.connectiveDefects c := by
      rw [connectiveDefects_eq_filter]
      exact List.mem_filter.mpr ⟨hd, by simp [hc]⟩
    rw [h c] at hmem
    cases hmem
  have hreport := reports_parts f
  rw [Reports, hnil] at hreport
  obtain ⟨parts, hparts⟩ := failure?_eq_none.mp hreport
  rw [hparts, parts_eq_ok hparts]

namespace Rearranged

variable {f g : Filter}

theorem connectiveDefects_eq (h : Rearranged f g) (c : Connective) :
    f.connectiveDefects c = g.connectiveDefects c := by
  rw [connectiveDefects, connectiveDefects, h (some c)]

theorem expressionsOf_eq (h : Rearranged f g) (c : Connective) :
    expressionsOf f.entries c = expressionsOf g.entries c := by
  rw [expressionsOf_ofRole, h (some c), ← expressionsOf_ofRole]

theorem fieldsOf_eq (h : Rearranged f g) : fieldsOf f.entries = fieldsOf g.entries := by
  rw [fieldsOf_eq_ofRole, h none, ← fieldsOf_eq_ofRole]

theorem clause_eq (h : Rearranged f g)
    (hone : f.connectiveDefects .and = [] ∨ f.connectiveDefects .or = []) : f.clause = g.clause := by
  by_cases hnone : ∀ c, f.connectiveDefects c = []
  · have hf := parts_of_no_connectiveDefects hnone
    have hg : g.parts = _ :=
      parts_of_no_connectiveDefects fun c => (h.connectiveDefects_eq c).symm.trans (hnone c)
    unfold clause condition
    rw [hf, hg, h.expressionsOf_eq, h.expressionsOf_eq, h.fieldsOf_eq]
  · obtain ⟨c, hc⟩ := Classical.not_forall.mp hnone
    obtain ⟨cf, df, hdf, hf⟩ := clause_of_connectiveDefects hc
    obtain ⟨cg, dg, hdg, hg⟩ := clause_of_connectiveDefects (h.connectiveDefects_eq c ▸ hc)
    rw [← h.connectiveDefects_eq] at hdg
    -- Only one connective has defects, so both filters report the same one.
    obtain ⟨e, he⟩ : ∃ e, f.connectiveDefects e = [] := hone.elim (⟨.and, ·⟩) (⟨.or, ·⟩)
    have hne : ∀ {c d}, (f.connectiveDefects c).head? = some d → c ≠ e := by
      rintro c d hd rfl
      rw [he] at hd
      cases hd
    have hsame : cf = cg := Connective.eq_of_ne (hne hdf) (hne hdg)
    subst hsame
    rw [hdf] at hdg
    rw [hf, hg, Option.some.inj hdg]

end Rearranged

/-- Two filters that differ in the position of their connectives have a clause together, and it is the
same. They fail with the same error too, unless both connectives have defects; then each filter reports
the first defect of one of the two. -/
theorem clause_of_rearranged (f g : Filter) (h : Rearranged f g) :
    (∀ w, f.clause = .ok w ↔ g.clause = .ok w) ∧
      (f.connectiveDefects .and = [] ∨ f.connectiveDefects .or = [] → f.clause = g.clause) ∧
      (f.connectiveDefects .and ≠ [] → f.connectiveDefects .or ≠ [] → ∀ k, k = f ∨ k = g →
        ∃ c d, (f.connectiveDefects c).head? = some d ∧ k.clause = .error d.error) := by
  have hboth : f.connectiveDefects .and ≠ [] → ∀ k, k = f ∨ k = g →
      ∃ c d, (f.connectiveDefects c).head? = some d ∧ k.clause = .error d.error := by
    rintro hand k (rfl | rfl)
    · exact clause_of_connectiveDefects hand
    · have hg := clause_of_connectiveDefects (h.connectiveDefects_eq .and ▸ hand)
      simpa only [h.connectiveDefects_eq] using hg
  refine ⟨fun w => ?_, h.clause_eq, fun hand _ => hboth hand⟩
  by_cases hand : f.connectiveDefects .and = []
  · rw [h.clause_eq (.inl hand)]
  · obtain ⟨_, _, _, hf⟩ := hboth hand f (.inl rfl)
    obtain ⟨_, _, _, hg⟩ := hboth hand g (.inr rfl)
    rw [hf, hg]
    constructor <;> intro hw <;> cases hw

/- Two connectives in the other order, around the same field entries; and two that are both wrong. -/
theorem clause_of_rearranged_connectives_moved :
    let f : Filter := { entries :=
      [("$or", .array [.object [("A", .null)]]), ("B", .null), ("$and", .array [.object [("C", .null)]]),
        ("D", .bool true)] }
    let g : Filter := { entries :=
      [("B", .null), ("$and", .array [.object [("C", .null)]]), ("D", .bool true),
        ("$or", .array [.object [("A", .null)]])] }
    let f' : Filter := { entries := [("$or", .null), ("$and", .array [])] }
    let g' : Filter := { entries := [("$and", .array []), ("$or", .null)] }
    (Rearranged f g ∧ f.connectiveDefects .and = [] ∧
      f.clause = .ok "WHERE (((C = null)) AND ((A = null)) AND (B = null AND D = true))" ∧
      f.clause = g.clause) ∧
      Rearranged f' g' ∧ f'.connectiveDefects .and ≠ [] ∧ f'.connectiveDefects .or ≠ [] ∧
        ∃ c d, (f'.connectiveDefects c).head? = some d ∧ g'.clause = .error d.error := by
  intro f g f' g'
  have hfg : Rearranged f g := by
    rintro (_ | _ | _) <;> rfl
  have hfg' : Rearranged f' g' := by
    rintro (_ | _ | _) <;> rfl
  have hand : f.connectiveDefects .and = [] := rfl
  have hand' : f'.connectiveDefects .and ≠ [] := List.cons_ne_nil _ _
  have hor' : f'.connectiveDefects .or ≠ [] := List.cons_ne_nil _ _
  refine ⟨⟨hfg, hand, ?_, (clause_of_rearranged f g hfg).2.1 (.inl hand)⟩, hfg', hand', hor',
    (clause_of_rearranged f' g' hfg').2.2 hand' hor' g' (.inr rfl)⟩
  unfold f
  rfl

end Filter

end SoqlSelect
