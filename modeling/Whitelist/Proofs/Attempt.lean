import Mathlib.Data.List.Forall2
import Whitelist.Store.Basic

/-!
# What comes of an attempt

An attempt is put together from a few pieces: an answer, a refusal, a look at the state, a change of
it, and one attempt after another. This file says what comes of each piece on a given state, so that
no later proof has to open the monad.

## What is here

* `on_pure`, `on_throw`, `on_get`, `on_modify`, `on_liftM`, `on_of` — the single pieces.
* `on_bind` — one attempt after another. A refusal keeps what was done to the state before it;
  `on_bind_ok` is the case without one.
* `on_mapM` — a loop that leaves the state as it is. `on_mapM_of_keeps` is one of which only so much
  is known as every round of it keeps.
-/

set_option autoImplicit false
namespace Whitelist
namespace Attempt

variable {σ α β : Type}

@[simp] theorem on_pure (a : α) (s : σ) : (pure a : Attempt σ α).on s = (.ok a, s) := rfl

@[simp] theorem on_throw (f : Fault) (s : σ) : (throw f : Attempt σ α).on s = (.error f, s) := rfl

@[simp] theorem on_get (s : σ) : (get : Attempt σ σ).on s = (.ok s, s) := rfl

@[simp] theorem on_modify (f : σ → σ) (s : σ) :
    (modify f : Attempt σ PUnit).on s = (.ok ⟨⟩, f s) := rfl

@[simp] theorem on_of (f : σ → Except Fault α × σ) (s : σ) : (Attempt.of f).on s = f s := rfl

@[simp] theorem on_liftM (e : Except Fault α) (s : σ) :
    (liftM e : Attempt σ α).on s = (e, s) := by
  cases e <;> rfl

/-- The second attempt starts where the first one left the state, unless the first was refused. -/
theorem on_bind (x : Attempt σ α) (k : α → Attempt σ β) (s : σ) :
    (x >>= k).on s = match x.on s with
      | (.ok a, t) => (k a).on t
      | (.error f, t) => (.error f, t) := by
  show (match x.on s with | (a, t) => (ExceptT.bindCont k a : StateM σ (Except Fault β)) t) = _
  rcases x.on s with ⟨_ | a, t⟩ <;> rfl

theorem on_bind_ok {x : Attempt σ α} {k : α → Attempt σ β} {s t : σ} {a : α}
    (h : x.on s = (.ok a, t)) : (x >>= k).on s = (k a).on t := by
  rw [on_bind, h]

/-- A loop over attempts that leave the state as it is. -/
theorem on_mapM {f : α → Attempt σ β} {g : α → β} {s : σ} (hf : ∀ a, (f a).on s = (.ok (g a), s))
    (l : List α) : (l.mapM f).on s = (.ok (l.map g), s) := by
  induction l with
  | nil => rfl
  | cons a rest ih =>
    rw [List.mapM_cons, on_bind_ok (hf a), on_bind_ok ih]
    rfl

/-- A loop over attempts that are never refused where the state is as it has to be, and that leave
it so. -/
theorem on_mapM_of_keeps {f : α → Attempt σ β} {P : σ → Prop} {R : α → β → Prop}
    (hf : ∀ a s, P s → ∃ b t, (f a).on s = (.ok b, t) ∧ R a b ∧ P t) (l : List α) {s : σ}
    (hs : P s) : ∃ bs t, (l.mapM f).on s = (.ok bs, t) ∧ List.Forall₂ R l bs ∧ P t := by
  induction l generalizing s with
  | nil => exact ⟨[], s, rfl, .nil, hs⟩
  | cons a rest ih =>
    obtain ⟨b, t, hon, hab, ht⟩ := hf a s hs
    obtain ⟨bs, u, hrest, hbs, hu⟩ := ih ht
    refine ⟨b :: bs, u, ?_, .cons hab hbs, hu⟩
    rw [List.mapM_cons, on_bind_ok hon, on_bind_ok hrest]
    rfl

end Attempt
end Whitelist
