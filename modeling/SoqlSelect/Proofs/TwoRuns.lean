import Mathlib.Data.List.Forall2
import SoqlSelect.Proofs.Failure

/-!
# Two runs

Two computations run together when both fail, for whatever reason each, or both succeed with results
that are related. What is put together from such pairs step by step runs together again; a relation
that each round of a loop keeps is kept by the loop.
-/

namespace SoqlSelect

variable {ε α β γ δ : Type}

/-- Both computations fail, or both succeed with related results. -/
def Together (R : α → β → Prop) : Except ε α → Except ε β → Prop
  | .ok a, .ok b => R a b
  | .error _, .error _ => True
  | _, _ => False

namespace Together

variable {R : α → β → Prop} {S : γ → δ → Prop} {x : Except ε α} {y : Except ε β}

theorem ok {a : α} {b : β} (h : R a b) : Together (ε := ε) R (.ok a) (.ok b) := h

theorem error {e e' : ε} : Together R (.error e) (.error e') := trivial

theorem refl (x : Except ε α) : Together (· = ·) x x := by
  cases x with
  | error e => exact error
  | ok a => exact ok rfl

theorem cases (h : Together R x y) :
    (∃ e e', x = .error e ∧ y = .error e') ∨ ∃ a b, x = .ok a ∧ y = .ok b ∧ R a b := by
  cases x with
  | error e =>
    cases y with
    | error e' => exact .inl ⟨e, e', rfl, rfl⟩
    | ok b => cases h
  | ok a =>
    cases y with
    | error e' => cases h
    | ok b => exact .inr ⟨a, b, rfl, rfl, h⟩

theorem map {f : α → γ} {g : β → δ} (h : Together R x y) (hfg : ∀ a b, R a b → S (f a) (g b)) :
    Together S (x.map f) (y.map g) := by
  rcases h.cases with ⟨e, e', rfl, rfl⟩ | ⟨a, b, rfl, rfl, hab⟩
  · exact error
  · exact hfg a b hab

theorem bind {f : α → Except ε γ} {g : β → Except ε δ} (h : Together R x y)
    (hfg : ∀ a b, R a b → Together S (f a) (g b)) : Together S (x >>= f) (y >>= g) := by
  rcases h.cases with ⟨e, e', rfl, rfl⟩ | ⟨a, b, rfl, rfl, hab⟩
  · exact error
  · exact hfg a b hab

/-! ### Loops -/

variable {P : γ → δ → Prop} {cs : List γ} {ds : List δ}

theorem mapM {f : γ → Except ε α} {g : δ → Except ε β} (h : List.Forall₂ P cs ds)
    (hfg : ∀ c d, P c d → Together R (f c) (g d)) :
    Together (List.Forall₂ R) (cs.mapM f) (ds.mapM g) := by
  induction h with
  | nil => exact ok .nil
  | cons hcd _ ih =>
    rw [List.mapM_cons, List.mapM_cons]
    refine (hfg _ _ hcd).bind fun a b hab => ih.bind fun as bs hrest => ?_
    exact ok (.cons hab hrest)

theorem foldlM {f : α → γ → Except ε α} {g : β → δ → Except ε β} (h : List.Forall₂ P cs ds)
    (hfg : ∀ a b c d, R a b → P c d → Together R (f a c) (g b d)) {a : α} {b : β} (hab : R a b) :
    Together R (cs.foldlM f a) (ds.foldlM g b) := by
  induction h generalizing a b with
  | nil => exact ok hab
  | cons hcd _ ih =>
    rw [List.foldlM_cons, List.foldlM_cons]
    exact (hfg a b _ _ hab hcd).bind fun a' b' hab' => ih hab'

end Together

end SoqlSelect
