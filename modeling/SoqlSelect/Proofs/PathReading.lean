import Mathlib.Data.List.Forall2
import SoqlSelect.FileTree

/-!
# What a path reads

Two trees agree but for a name if they show the same wherever one gets without that name. A path that
does not have the name in it leads to the same in both, and reads the same text or fails for the same
reason.
-/

namespace SoqlSelect

/-! ### Trees that agree -/

namespace FileTree

/-- What is found behind the names, one after the other. -/
def at? : FileTree → List String → Option FileTree
  | tree, [] => some tree
  | tree, name :: names => (tree.entry? name).bind (at? · names)

/-- What shows of a tree before one looks into it. -/
def outline : FileTree → FileTree
  | .directory _ => .directory []
  | tree => tree

@[simp] theorem isDirectory_outline (t : FileTree) : t.outline.isDirectory = t.isDirectory := by
  cases t <;> rfl

@[simp] theorem enter_outline (t : FileTree) : t.outline.enter = t.enter := by
  cases t <;> rfl

@[simp] theorem content?_outline (t : FileTree) : t.outline.content? = t.content? := by
  cases t <;> rfl

@[simp] theorem text_outline (t : FileTree) : t.outline.text = t.text := by
  cases t <;> rfl

/-- The trees show the same directories and the same files behind all names but this one. -/
def AgreesBut (name : String) (t u : FileTree) : Prop :=
  ∀ names, name ∉ names → (t.at? names).map outline = (u.at? names).map outline

namespace AgreesBut

variable {name : String} {t u : FileTree}

theorem refl (t : FileTree) : t.AgreesBut name t := fun _ _ => rfl

theorem outline_eq (h : t.AgreesBut name u) : t.outline = u.outline :=
  Option.some.inj (h [] (by simp))

theorem isDirectory_eq (h : t.AgreesBut name u) : t.isDirectory = u.isDirectory := by
  rw [← isDirectory_outline, h.outline_eq, isDirectory_outline]

theorem enter_eq (h : t.AgreesBut name u) : t.enter = u.enter := by
  rw [← enter_outline, h.outline_eq, enter_outline]

theorem content?_eq (h : t.AgreesBut name u) : t.content? = u.content? := by
  rw [← content?_outline, h.outline_eq, content?_outline]

theorem text_eq (h : t.AgreesBut name u) : t.text = u.text := by
  rw [← text_outline, h.outline_eq, text_outline]

theorem entry? (h : t.AgreesBut name u) {n : String} (hn : n ≠ name) :
    (t.entry? n = none ∧ u.entry? n = none) ∨
      ∃ t' u', t.entry? n = some t' ∧ u.entry? n = some u' ∧ t'.AgreesBut name u' := by
  have hnames {names : List String} (hnot : name ∉ names) : name ∉ n :: names := by
    simp [hn.symm, hnot]
  have hhere := h [n] (hnames (by simp))
  cases ht : t.entry? n with
  | none =>
    cases hu : u.entry? n with
    | none => exact .inl ⟨rfl, rfl⟩
    | some u' => simp [at?, ht, hu] at hhere
  | some t' =>
    cases hu : u.entry? n with
    | none => simp [at?, ht, hu] at hhere
    | some u' =>
      refine .inr ⟨t', u', rfl, rfl, fun names hnot => ?_⟩
      simpa [at?, ht, hu] using h (n :: names) (hnames hnot)

/-- Directories agree but for a name if they differ in entries of that name only. -/
theorem directory {entries entries' : List (String × FileTree)}
    (h : entries.filter (·.1 ≠ name) = entries'.filter (·.1 ≠ name)) :
    AgreesBut name (.directory entries) (.directory entries') := by
  have hfind {n : String} (hn : n ≠ name) (entries : List (String × FileTree)) :
      (entries.filter (·.1 ≠ name)).find? (·.1 == n) = entries.find? (·.1 == n) := by
    rw [List.find?_filter]
    refine congrArg (List.find? · entries) (funext fun e => ?_)
    by_cases he : e.1 = n <;> simp [he, hn]
  intro names hnames
  cases names with
  | nil => rfl
  | cons n names =>
    have hn : n ≠ name := fun hn => hnames (by simp [hn])
    have hentry : FileTree.entry? n (.directory entries) = FileTree.entry? n (.directory entries') := by
      show (entries.find? (·.1 == n)).map (·.2) = (entries'.find? (·.1 == n)).map (·.2)
      rw [← hfind hn entries, ← hfind hn entries', h]
    rw [at?, at?, hentry]

end AgreesBut

end FileTree

namespace Place

/-! ### Relative paths -/

theorem follow_relative (p : Place) (path : String) (hnul : path.toList.contains '\x00' = false)
    (hne : path ≠ "") (hsize : path.utf8ByteSize ≤ pathLimit) (hhead : path.toList.head? ≠ some '/') :
    p.follow path = (names path).foldlM step p := by
  unfold follow
  rw [hnul, if_neg Bool.false_ne_true, if_neg hne, if_neg (Nat.not_lt.mpr hsize), if_neg hhead]

/- Where nothing can be looked up both sides fail, at the dot already. -/
theorem steps_dot (p : Place) {name : String} (hname : name ≠ "") :
    [".", name].foldlM step p = p.step name := by
  simp only [List.foldlM_cons, List.foldlM_nil, bind_pure]
  cases henter : p.here.enter with
  | error cause =>
    have hstep {n : String} (hn : n ≠ "") : p.step n = .error cause := by
      simp only [step, if_neg hn, henter]
      rfl
    rw [hstep hname, hstep (by decide)]
    rfl
  | ok =>
    have hdot : p.step "." = .ok p := by
      simp only [step, henter]
      rfl
    rw [hdot]
    rfl

/-- A name in its proper sense leads on exactly if there is an entry of that name. -/
theorem isOk_step (p : Place) {name : String} (hname : name ≠ "" ∧ name ≠ "." ∧ name ≠ "..")
    (hsize : name.utf8ByteSize ≤ nameLimit) : (p.step name).isOk = (p.here.entry? name).isSome := by
  obtain ⟨hempty, hdot, hdots⟩ := hname
  simp only [step, child?, hempty, hdot, hdots, Nat.not_lt.mpr hsize, if_false]
  cases p.here with
  | directory entries => cases FileTree.entry? name (.directory entries) <;> rfl
  | _ => rfl

/-! ### Places that agree -/

/-- The places agree but for a name, and so do the directories above them. -/
structure AgreesBut (name : String) (p q : Place) : Prop where
  here : p.here.AgreesBut name q.here
  above : List.Forall₂ (FileTree.AgreesBut name) p.above q.above

/-- Both ways fail for the same reason, or lead to places that agree. -/
inductive SameEnd (name : String) : Except FileError Place → Except FileError Place → Prop
  | place {p q : Place} : p.AgreesBut name q → SameEnd name (.ok p) (.ok q)
  | failure (cause : FileError) : SameEnd name (.error cause) (.error cause)

namespace SameEnd

variable {name : String} {x y : Except FileError Place}

theorem bind {f : Place → Except FileError Place} (h : SameEnd name x y)
    (hf : ∀ p q : Place, p.AgreesBut name q → SameEnd name (f p) (f q)) :
    SameEnd name (x >>= f) (y >>= f) := by
  cases h with
  | place hend => exact hf _ _ hend
  | failure cause => exact .failure cause

theorem bind_eq {α : Type} {f : Place → Except FileError α} (h : SameEnd name x y)
    (hf : ∀ p q : Place, p.AgreesBut name q → f p = f q) : (x >>= f) = (y >>= f) := by
  cases h with
  | place hend => exact hf _ _ hend
  | failure cause => rfl

end SameEnd

namespace AgreesBut

variable {name : String} {p q : Place}

theorem refl (p : Place) : p.AgreesBut name p :=
  ⟨.refl _, List.forall₂_same.mpr fun t _ => .refl t⟩

theorem root (h : p.AgreesBut name q) : p.root.AgreesBut name q.root := by
  have hlast {ts us : List FileTree} (htrees : List.Forall₂ (FileTree.AgreesBut name) ts us)
      {t u : FileTree} (htree : t.AgreesBut name u) :
      (ts.getLastD t).AgreesBut name (us.getLastD u) := by
    induction htrees generalizing t u with
    | nil => exact htree
    | cons hfirst _ ih =>
      rw [List.getLastD_cons, List.getLastD_cons]
      exact ih hfirst
  exact ⟨hlast h.above h.here, .nil⟩

theorem parent (h : p.AgreesBut name q) : p.parent.AgreesBut name q.parent := by
  obtain ⟨here, above⟩ := p
  obtain ⟨here', above'⟩ := q
  cases h.above with
  | nil => exact ⟨h.here, .nil⟩
  | cons htree habove => exact ⟨htree, habove⟩

theorem child (h : p.AgreesBut name q) {n : String} (hn : n ≠ name) : SameEnd name
    ((p.child? n).elim (.error .notFound) .ok) ((q.child? n).elim (.error .notFound) .ok) := by
  unfold child?
  rcases h.here.entry? hn with ⟨hp, hq⟩ | ⟨t, u, hp, hq, htree⟩
  · rw [hp, hq]
    exact .failure _
  · rw [hp, hq]
    exact .place ⟨htree, .cons h.here h.above⟩

theorem step (h : p.AgreesBut name q) {n : String} (hn : n ≠ name) :
    SameEnd name (p.step n) (q.step n) := by
  unfold Place.step
  rw [h.here.isDirectory_eq, h.here.enter_eq]
  split
  · split
    · exact .place h
    · exact .failure _
  · cases q.here.enter with
    | error cause => exact .failure cause
    | ok =>
      dsimp only [bind, Except.bind]
      split
      · exact .place h
      split
      · exact .place h.parent
      split
      · exact .failure _
      · exact h.child hn

theorem steps (h : p.AgreesBut name q) {names : List String} (hnames : name ∉ names) :
    SameEnd name (names.foldlM Place.step p) (names.foldlM Place.step q) := by
  induction names generalizing p q with
  | nil => exact .place h
  | cons n names ih =>
    obtain ⟨hn, hrest⟩ := not_or.mp (mt List.mem_cons.mpr hnames)
    rw [List.foldlM_cons, List.foldlM_cons]
    exact (h.step (Ne.symm hn)).bind fun p' q' hnext => ih hnext hrest

theorem follow (h : p.AgreesBut name q) {path : String} (hpath : name ∉ names path) :
    SameEnd name (p.follow path) (q.follow path) := by
  unfold Place.follow
  split
  · exact .failure _
  split
  · exact .failure _
  split
  · exact .failure _
  dsimp only
  split
  · exact h.root.steps hpath
  · exact h.steps hpath

/-- A path without the name reads the same. -/
theorem read_eq (h : p.AgreesBut name q) {path : String} (hpath : name ∉ names path) :
    p.read path = q.read path :=
  (h.follow hpath).bind_eq fun _ _ hend => hend.here.text_eq

/-- The nearest file of another name reads the same. -/
theorem nearest?_eq (h : p.AgreesBut name q) {n : String} (hn : n ≠ name) :
    p.nearest? n = q.nearest? n := by
  have hupward : List.Forall₂ (FileTree.AgreesBut name) (p.here :: p.above) (q.here :: q.above) :=
    .cons h.here h.above
  have henter {ts us : List FileTree} (htrees : List.Forall₂ (FileTree.AgreesBut name) ts us) :
      ts.forM FileTree.enter = us.forM FileTree.enter := by
    induction htrees with
    | nil => rfl
    | cons htree _ ih => rw [List.forM, List.forM, htree.enter_eq, ih]
  have hentry {t u : FileTree} (htree : t.AgreesBut name u) :
      (t.entry? n).bind FileTree.content? = (u.entry? n).bind FileTree.content? := by
    rcases htree.entry? hn with ⟨ht, hu⟩ | ⟨t', u', ht, hu, hcontent⟩
    · rw [ht, hu]
    · rw [ht, hu]
      exact hcontent.content?_eq
  have hfind {ts us : List FileTree} (htrees : List.Forall₂ (FileTree.AgreesBut name) ts us) :
      ts.findSome? (fun t => (t.entry? n).bind FileTree.content?) =
        us.findSome? fun u => (u.entry? n).bind FileTree.content? := by
    induction htrees with
    | nil => rfl
    | cons htree _ ih => rw [List.findSome?_cons, List.findSome?_cons, hentry htree, ih]
  simp only [nearest?, henter (List.rel_reverse hupward), hfind hupward]

end AgreesBut

end Place

end SoqlSelect
