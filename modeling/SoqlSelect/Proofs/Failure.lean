import SoqlSelect.Error

/-!
# Failure of computations

A computation that is put together from others fails as the first of them that fails. The laws give the
failure of a sequence and of a list of computations, and what its results are when there is none.
-/

namespace SoqlSelect

variable {ε α β γ : Type}

/-- The error of a computation that fails. -/
def failure? : Except ε α → Option ε
  | .ok _ => none
  | .error e => some e

theorem failure?_eq_some {x : Except ε α} {e : ε} : failure? x = some e ↔ x = .error e := by
  cases x <;> simp [failure?]

theorem failure?_eq_none {x : Except ε α} : failure? x = none ↔ ∃ a, x = .ok a := by
  cases x <;> simp [failure?]

/-! ### Sequences -/

theorem map_eq_ok {x : Except ε α} {f : α → β} {b : β} :
    x.map f = .ok b ↔ ∃ a, x = .ok a ∧ f a = b := by
  cases x <;> simp [Except.map]

theorem bind_eq_ok {x : Except ε α} {f : α → Except ε β} {b : β} :
    (x >>= f) = .ok b ↔ ∃ a, x = .ok a ∧ f a = .ok b := by
  cases x <;> simp [bind, Except.bind]

theorem bind_eq_error {x : Except ε α} {f : α → Except ε β} {e : ε} :
    (x >>= f) = .error e ↔ x = .error e ∨ ∃ a, x = .ok a ∧ f a = .error e := by
  cases x <;> simp [bind, Except.bind]

theorem mapError_eq_ok {x : Except ε α} {f : ε → γ} {a : α} : x.mapError f = .ok a ↔ x = .ok a := by
  cases x with
  | error e => constructor <;> intro h <;> cases h
  | ok b =>
    show Except.ok b = .ok a ↔ _
    rw [Except.ok.injEq, Except.ok.injEq]

theorem mapError_eq_error {x : Except ε α} {f : ε → γ} {e : γ} :
    x.mapError f = .error e ↔ ∃ cause, x = .error cause ∧ f cause = e := by
  constructor
  · intro h
    cases x with
    | error cause => exact ⟨cause, rfl, Except.error.inj h⟩
    | ok a => cases h
  · rintro ⟨cause, rfl, rfl⟩
    rfl

@[simp] theorem failure?_map (x : Except ε α) (f : α → β) : failure? (x.map f) = failure? x := by
  cases x <;> rfl

@[simp] theorem failure?_bind_pure (x : Except ε α) (f : α → β) :
    failure? (x >>= fun a => pure (f a)) = failure? x := by
  cases x <;> rfl

theorem failure?_bind {x : Except ε α} {f : α → Except ε β} {o : Option ε}
    (h : ∀ a, x = .ok a → failure? (f a) = o) : failure? (x >>= f) = (failure? x).or o := by
  cases x with
  | error e => rfl
  | ok a => exact h a rfl

/-! ### Lists -/

theorem failure?_mapM (f : α → Except ε β) (as : List α) :
    failure? (as.mapM f) = as.findSome? fun a => failure? (f a) := by
  induction as with
  | nil => rfl
  | cons a as ih =>
    rw [List.mapM_cons, failure?_bind fun b _ => failure?_bind_pure (as.mapM f) (b :: ·), ih,
      List.findSome?_cons]
    cases failure? (f a) <;> rfl

theorem mem_of_mapM {f : α → Except ε β} {as : List α} {bs : List β} (h : as.mapM f = .ok bs)
    {b : β} (hb : b ∈ bs) : ∃ a ∈ as, f a = .ok b := by
  induction as generalizing bs with
  | nil =>
    cases h
    cases hb
  | cons a as ih =>
    rw [List.mapM_cons] at h
    obtain ⟨b', hb', h⟩ := bind_eq_ok.mp h
    obtain ⟨bs', hbs', h⟩ := bind_eq_ok.mp h
    cases h
    rcases List.mem_cons.mp hb with rfl | hb
    · exact ⟨a, by simp, hb'⟩
    · obtain ⟨a', ha', hf⟩ := ih hbs' hb
      exact ⟨a', by simp [ha'], hf⟩

theorem exists_of_mapM {f : α → Except ε β} {as : List α} {bs : List β} (h : as.mapM f = .ok bs)
    {a : α} (ha : a ∈ as) : ∃ b ∈ bs, f a = .ok b := by
  induction as generalizing bs with
  | nil => cases ha
  | cons a' as ih =>
    rw [List.mapM_cons] at h
    obtain ⟨b', hb', h⟩ := bind_eq_ok.mp h
    obtain ⟨bs', hbs', h⟩ := bind_eq_ok.mp h
    cases h
    rcases List.mem_cons.mp ha with rfl | ha
    · exact ⟨b', by simp, hb'⟩
    · obtain ⟨b, hb, hf⟩ := ih hbs' ha
      exact ⟨b, by simp [hb], hf⟩

theorem mapM_map {δ : Type} {f : β → Except ε γ} {f' : α → Except ε δ} {g : α → β} {k : δ → γ}
    {as : List α} (h : ∀ a ∈ as, f (g a) = (f' a).map k) :
    (as.map g).mapM f = (as.mapM f').map (List.map k) := by
  induction as with
  | nil => rfl
  | cons a as ih =>
    have hrest := ih fun a' ha' => h a' (List.mem_cons_of_mem _ ha')
    rw [List.map_cons, List.mapM_cons, List.mapM_cons, h a List.mem_cons_self, hrest]
    cases f' a with
    | error e => rfl
    | ok d => cases as.mapM f' <;> rfl

theorem mapM_map_congr {f : β → Except ε γ} {f' : α → Except ε γ} {g : α → β} {as : List α}
    (h : ∀ a ∈ as, f (g a) = f' a) : (as.map g).mapM f = as.mapM f' := by
  have hid : ∀ a ∈ as, f (g a) = (f' a).map id := by
    intro a ha
    rw [h a ha]
    cases f' a <;> rfl
  rw [mapM_map hid]
  cases as.mapM f' with
  | error e => rfl
  | ok bs => exact congrArg Except.ok (List.map_id bs)

/- The results may be known in a view only, such as the reading of a condition. -/
theorem map_of_mapM {f : α → Except ε β} {as : List α} {bs : List β} (h : as.mapM f = .ok bs)
    {view : β → γ} {g : α → γ} (hg : ∀ a ∈ as, ∀ b, f a = .ok b → view b = g a) :
    bs.map view = as.map g := by
  induction as generalizing bs with
  | nil =>
    cases h
    rfl
  | cons a as ih =>
    rw [List.mapM_cons] at h
    obtain ⟨b, hb, h⟩ := bind_eq_ok.mp h
    obtain ⟨bs', hbs', h⟩ := bind_eq_ok.mp h
    cases h
    have htail := ih hbs' fun a' ha' => hg a' (by simp [ha'])
    rw [List.map_cons, List.map_cons, hg a (by simp) b hb, htail]

end SoqlSelect
