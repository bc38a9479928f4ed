import SoqlSelect.Json.Basic

/-!
# Members of objects

Members are looked up by their name, and the first of a name counts. When they are merged, a name keeps
its first place and takes its last value. The main statements give the names of merged members and the
value of each, which together tell them completely.
-/

namespace SoqlSelect.Members

variable {α β : Type}

/-! ### Looking up -/

@[simp] theorem get?_cons (name : String) (member : String × α) (members : List (String × α)) :
    get? name (member :: members) = if member.1 = name then some member.2 else get? name members := by
  by_cases h : member.1 = name <;> simp [get?, h]

@[simp] theorem get?_append (name : String) (as bs : List (String × α)) :
    get? name (as ++ bs) = (get? name as).or (get? name bs) := by
  simp only [get?, List.find?_append, Option.map_or]

theorem get?_of_not_mem {name : String} {members : List (String × α)}
    (h : name ∉ members.map (·.1)) : get? name members = none := by
  induction members with
  | nil => rfl
  | cons member rest ih =>
    simp only [List.map_cons, List.mem_cons, not_or] at h
    rw [get?_cons, if_neg (Ne.symm h.1), ih h.2]

theorem get?_append_of_ne {name : String} {as bs : List (String × α)} (h : ∀ a ∈ as, a.1 ≠ name) :
    get? name (as ++ bs) = get? name bs := by
  have hnot : name ∉ as.map (·.1) := by
    intro hmem
    obtain ⟨a, ha, hname⟩ := List.mem_map.mp hmem
    exact h a ha hname
  rw [get?_append, get?_of_not_mem hnot, Option.none_or]

theorem mem_of_get? {name : String} {value : α} {members : List (String × α)}
    (h : get? name members = some value) : (name, value) ∈ members := by
  obtain ⟨member, hfind, rfl⟩ := Option.map_eq_some_iff.mp h
  have hname : member.1 = name := by simpa using List.find?_some hfind
  rw [← hname]
  exact List.mem_of_find?_eq_some hfind

theorem exists_get?_of_mem {name : String} {members : List (String × α)}
    (h : name ∈ members.map (·.1)) : ∃ value, get? name members = some value := by
  induction members with
  | nil => cases h
  | cons member rest ih =>
    rw [get?_cons]
    split
    · exact ⟨_, rfl⟩
    · rename_i hne
      rcases List.mem_cons.mp h with heq | hrest
      · exact absurd heq.symm hne
      · exact ih hrest

theorem get?_of_mem {members : List (String × α)} {name : String} {value : α}
    (hdistinct : (members.map (·.1)).Nodup) (h : (name, value) ∈ members) :
    get? name members = some value := by
  induction members with
  | nil => cases h
  | cons member rest ih =>
    rw [List.map_cons, List.nodup_cons] at hdistinct
    rw [get?_cons]
    rcases List.mem_cons.mp h with rfl | hrest
    · simp
    · have hne : member.1 ≠ name := by
        intro heq
        apply hdistinct.1
        rw [heq]
        exact List.mem_map_of_mem hrest
      simp [hne, ih hdistinct.2 hrest]

/- The names in their order and the value of each name are all there is to members with distinct names. -/
theorem eq_of_get? {as bs : List (String × α)} (hnames : as.map (·.1) = bs.map (·.1))
    (hnodup : (as.map (·.1)).Nodup) (h : ∀ name ∈ as.map (·.1), get? name as = get? name bs) :
    as = bs := by
  induction as generalizing bs with
  | nil => exact (List.map_eq_nil_iff.mp hnames.symm).symm
  | cons a as ih =>
    cases bs with
    | nil => cases hnames
    | cons b bs =>
      obtain ⟨hname, hnames⟩ := List.cons.inj hnames
      have hname : a.1 = b.1 := hname
      obtain ⟨hfirst, hnodup⟩ := List.nodup_cons.mp hnodup
      have hvalue : a.2 = b.2 := by
        have hget := h a.1 List.mem_cons_self
        rw [get?_cons, get?_cons, if_pos rfl, if_pos hname.symm] at hget
        exact Option.some.inj hget
      have hrest : as = bs := by
        refine ih hnames hnodup fun name hmem => ?_
        have hne : a.1 ≠ name := by
          rintro rfl
          exact hfirst hmem
        have hget := h name (List.mem_cons_of_mem _ hmem)
        rwa [get?_cons, get?_cons, if_neg hne, if_neg (hname ▸ hne)] at hget
      rw [hrest, Prod.ext hname hvalue]

/-! ### Putting a member -/

theorem put_of_not_mem {name : String} {members : List (String × α)} (value : α)
    (h : name ∉ members.map (·.1)) : put name value members = members ++ [(name, value)] := by
  induction members with
  | nil => rfl
  | cons member members ih =>
    simp only [List.map_cons, List.mem_cons, not_or] at h
    have hne : ¬ member.1 = name := fun he => h.1 he.symm
    simp [put, hne, ih h.2]

@[simp] theorem get?_put (name key : String) (value : α) (members : List (String × α)) :
    get? name (put key value members) = if key = name then some value else get? name members := by
  induction members with
  | nil => simp [put]
  | cons member rest ih =>
    obtain ⟨n, v⟩ := member
    by_cases hkey : n = key
    · subst hkey
      simp only [put, if_true, get?_cons]
      split <;> rfl
    · simp only [put, if_neg hkey, get?_cons, ih]
      by_cases hname : n = name
      · have hne : key ≠ name := fun h => hkey (hname.trans h.symm)
        simp [hname, hne]
      · simp [hname]

theorem nodup_put {members : List (String × α)} (h : (members.map (·.1)).Nodup) (name : String)
    (value : α) : ((put name value members).map (·.1)).Nodup := by
  rw [map_fst_put]
  split
  · exact h
  · rename_i hnew
    rw [List.nodup_append]
    refine ⟨h, by simp, ?_⟩
    intro a ha b hb heq
    rw [List.mem_singleton.mp hb] at heq
    exact hnew (heq ▸ ha)

theorem put_map (f : α → β) (name : String) (value : α) (members : List (String × α)) :
    put name (f value) (members.map fun m => (m.1, f m.2)) =
      (put name value members).map fun m => (m.1, f m.2) := by
  induction members with
  | nil => rfl
  | cons member rest ih =>
    simp only [List.map_cons, put, ih]
    split <;> rfl

/-! ### Merging -/

/- The members are put to those that have been merged so far. -/
def mergeInto (merged members : List (String × α)) : List (String × α) :=
  members.foldl (fun merged member => put member.1 member.2 merged) merged

theorem mergeInto_cons (merged members : List (String × α)) (member : String × α) :
    mergeInto merged (member :: members) = mergeInto (put member.1 member.2 merged) members := rfl

theorem merge_eq_mergeInto (members : List (String × α)) : merge members = mergeInto [] members := rfl

theorem mergeInto_of_nodup {merged members : List (String × α)}
    (h : ((merged ++ members).map (·.1)).Nodup) : mergeInto merged members = merged ++ members := by
  induction members generalizing merged with
  | nil => exact (List.append_nil merged).symm
  | cons member members ih =>
    have hnew : member.1 ∉ merged.map (·.1) := by
      rw [List.map_append, List.map_cons] at h
      intro hmem
      exact (List.nodup_append.mp h).2.2 _ hmem _ List.mem_cons_self rfl
    have hrest : ((merged ++ [member] ++ members).map (·.1)).Nodup := by simpa using h
    rw [mergeInto_cons, put_of_not_mem member.2 hnew, ih hrest]
    simp

theorem get?_mergeInto (name : String) (merged members : List (String × α)) :
    get? name (mergeInto merged members) = (get? name members.reverse).or (get? name merged) := by
  induction members generalizing merged with
  | nil => rfl
  | cons member members ih =>
    rw [mergeInto_cons, ih, get?_put, List.reverse_cons, get?_append, get?_cons, Option.or_assoc]
    split <;> rfl

theorem nodup_mergeInto {merged : List (String × α)} (h : (merged.map (·.1)).Nodup)
    (members : List (String × α)) : ((mergeInto merged members).map (·.1)).Nodup := by
  induction members generalizing merged with
  | nil => exact h
  | cons member members ih => exact ih (nodup_put h member.1 member.2)

theorem eraseDups_of_nodup {names : List String} (h : names.Nodup) : names.eraseDups = names := by
  induction names with
  | nil => rfl
  | cons name names ih =>
    obtain ⟨hname, hnames⟩ := List.nodup_cons.mp h
    have hfilter : names.filter (fun n => !n == name) = names := by
      apply List.filter_eq_self.mpr
      intro n hn
      have hne : n ≠ name := fun heq => hname (heq ▸ hn)
      simpa using hne
    rw [List.eraseDups_cons, hfilter, ih hnames]

theorem map_fst_mergeInto {merged : List (String × α)} (h : (merged.map (·.1)).Nodup)
    (members : List (String × α)) :
    (mergeInto merged members).map (·.1) = ((merged ++ members).map (·.1)).eraseDups := by
  induction members generalizing merged with
  | nil =>
    rw [List.append_nil]
    exact (eraseDups_of_nodup h).symm
  | cons member members ih =>
    rw [mergeInto_cons, ih (nodup_put h member.1 member.2), List.map_append, map_fst_put,
      List.map_append, List.map_cons]
    split
    · -- A name that stands already is no new one among those that follow.
      rename_i hold
      rw [List.eraseDups_append, List.eraseDups_append, List.cons_removeAll]
      simp [hold]
    · rw [List.append_assoc, List.singleton_append]

theorem mergeInto_map (f : α → β) (merged members : List (String × α)) :
    mergeInto (merged.map fun m => (m.1, f m.2)) (members.map fun m => (m.1, f m.2)) =
      (mergeInto merged members).map fun m => (m.1, f m.2) := by
  induction members generalizing merged with
  | nil => rfl
  | cons member members ih => rw [List.map_cons, mergeInto_cons, mergeInto_cons, ← ih, ← put_map]

theorem merge_eq_self {members : List (String × α)} (h : (members.map (·.1)).Nodup) :
    merge members = members :=
  mergeInto_of_nodup h

@[simp] theorem get?_merge (name : String) (members : List (String × α)) :
    get? name (merge members) = get? name members.reverse := by
  rw [merge_eq_mergeInto, get?_mergeInto, show get? name ([] : List (String × α)) = none from rfl,
    Option.or_none]

theorem nodup_merge (members : List (String × α)) : ((merge members).map (·.1)).Nodup := by
  apply nodup_mergeInto
  exact List.nodup_nil

@[simp] theorem map_fst_merge (members : List (String × α)) :
    (merge members).map (·.1) = (members.map (·.1)).eraseDups := by
  apply map_fst_mergeInto
  exact List.nodup_nil

/- It does not matter whether values change before they are merged or after. -/
theorem merge_map (f : α → β) (members : List (String × α)) :
    merge (members.map fun m => (m.1, f m.2)) = (merge members).map fun m => (m.1, f m.2) :=
  mergeInto_map f [] members

theorem mem_of_mem_merge {member : String × α} {members : List (String × α)}
    (h : member ∈ merge members) : member ∈ members := by
  have hget := get?_of_mem (nodup_merge members) h
  rw [get?_merge] at hget
  exact List.mem_reverse.mp (mem_of_get? hget)

end SoqlSelect.Members
