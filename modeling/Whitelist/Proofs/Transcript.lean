import Whitelist.Proofs.Attempt

/-!
# What a store is asked and what it answers

Much of what is said about the console is about the calls that a store gets from it, and about what
was answered to them before. So the calls are written down here together with their answers. A store
that does so answers as before; what the console does over it is what it does over the store itself,
and the transcript tells which calls that took.

## What is here

* `Exchange`, `RuleStore.transcribed` — a call with its answer, and a store that writes all of them
  down.
* `Transcribes` — an attempt over such a store comes to what it comes to otherwise, and adds a
  certain piece to the transcript: `Transcribes.answer` for one call, `Transcribes.bind` for one
  attempt after another.
* `CallsOnly` — an attempt makes calls of one kind only.
-/

set_option autoImplicit false
namespace Whitelist

variable {σ α β : Type}

/-- A call to a store with what it was answered. -/
structure Exchange where
  call : StoreCall
  answer : Except Fault call.Answer

/-- The same store, with all calls so far and their answers written down, the latest last. -/
def RuleStore.transcribed (store : RuleStore σ) : RuleStore (σ × List Exchange) where
  answer call := .of fun (state, log) =>
    let (outcome, state) := (store.answer call).on state
    (outcome, (state, log ++ [⟨call, outcome⟩]))

/-- From every state, `noted` comes to what `plain` comes to, and what it adds to the transcript
goes with that outcome as `adds` says. -/
def Transcribes (plain : Attempt σ α) (noted : Attempt (σ × List Exchange) α)
    (adds : List Exchange → Except Fault α → Prop) : Prop :=
  ∀ (s : σ) (log : List Exchange), ∃ more,
    noted.on (s, log) = ((plain.on s).1, ((plain.on s).2, log ++ more)) ∧ adds more (plain.on s).1

namespace Transcribes

variable {plain : Attempt σ α} {noted : Attempt (σ × List Exchange) α}
  {adds weaker : List Exchange → Except Fault α → Prop}

theorem mono (h : Transcribes plain noted adds)
    (hadds : ∀ more outcome, adds more outcome → weaker more outcome) :
    Transcribes plain noted weaker := by
  intro s log
  obtain ⟨more, hon, hmore⟩ := h s log
  exact ⟨more, hon, hadds more _ hmore⟩

/-- A call adds itself. -/
theorem answer (store : RuleStore σ) (call : StoreCall) :
    Transcribes (store.answer call) (store.transcribed.answer call)
      fun more outcome => more = [⟨call, outcome⟩] := by
  intro s log
  exact ⟨_, rfl, rfl⟩

theorem pure (a : α) :
    Transcribes (σ := σ) (Pure.pure a) (Pure.pure a) fun more outcome =>
      more = [] ∧ outcome = .ok a := by
  intro s log
  refine ⟨[], ?_, rfl, rfl⟩
  simp

/-- What comes to a fault at once, on both sides, adds nothing. -/
theorem of_refused {fault : Fault} (hplain : ∀ s, plain.on s = (.error fault, s))
    (hnoted : ∀ s, noted.on s = (.error fault, s)) :
    Transcribes plain noted fun more _ => more = [] := by
  intro s log
  refine ⟨[], ?_, rfl⟩
  rw [hplain, hnoted, List.append_nil]

/-- Attempts that come to the same add the same. -/
theorem congr {plain' : Attempt σ α} {noted' : Attempt (σ × List Exchange) α}
    (h : Transcribes plain' noted' adds) (hplain : ∀ s, plain.on s = plain'.on s)
    (hnoted : ∀ s, noted.on s = noted'.on s) : Transcribes plain noted adds := by
  intro s log
  obtain ⟨more, hon, hmore⟩ := h s log
  refine ⟨more, ?_, ?_⟩
  · rw [hnoted, hplain, hon]
  · rw [hplain]
    exact hmore

/-- One attempt after another: where the first is refused its piece is all there is, and otherwise
the piece of the second follows it. -/
theorem bind {k : α → Attempt σ β} {k' : α → Attempt (σ × List Exchange) β}
    {addsNext : α → List Exchange → Except Fault β → Prop} (hx : Transcribes plain noted adds)
    (hk : ∀ a, Transcribes (k a) (k' a) (addsNext a)) :
    Transcribes (plain >>= k) (noted >>= k') fun more outcome =>
      (∃ fault, outcome = .error fault ∧ adds more (.error fault))
        ∨ ∃ a first second, more = first ++ second ∧ adds first (.ok a)
          ∧ addsNext a second outcome := by
  intro s log
  obtain ⟨first, hon, hfirst⟩ := hx s log
  rw [Attempt.on_bind, Attempt.on_bind, hon]
  rcases hplain : plain.on s with ⟨fault | a, t⟩
  · rw [hplain] at hfirst
    exact ⟨first, rfl, .inl ⟨fault, rfl, hfirst⟩⟩
  · rw [hplain] at hfirst
    obtain ⟨second, hnext, hsecond⟩ := hk a t (log ++ first)
    refine ⟨first ++ second, ?_, .inr ⟨a, first, second, rfl, hfirst, hsecond⟩⟩
    dsimp only
    rw [hnext, List.append_assoc]

end Transcribes

/-! ## Calls of one kind -/

/-- An attempt makes only calls of a kind, over whatever it is answered. -/
def CallsOnly (kind : StoreCall → Prop) (plain : Attempt σ α)
    (noted : Attempt (σ × List Exchange) α) : Prop :=
  Transcribes plain noted fun more _ => ∀ entry ∈ more, kind entry.call

namespace CallsOnly

variable {kind : StoreCall → Prop}

theorem answer (store : RuleStore σ) {call : StoreCall} (hcall : kind call) :
    CallsOnly kind (store.answer call) (store.transcribed.answer call) := by
  refine (Transcribes.answer store call).mono ?_
  rintro more outcome rfl entry hentry
  rw [List.mem_singleton.mp hentry]
  exact hcall

theorem pure (a : α) : CallsOnly (σ := σ) kind (Pure.pure a) (Pure.pure a) := by
  refine (Transcribes.pure a).mono ?_
  rintro more outcome ⟨rfl, -⟩ entry hentry
  cases hentry

/-- What two attempts keep to, both together keep to. -/
theorem bind {plain : Attempt σ α} {noted : Attempt (σ × List Exchange) α}
    {k : α → Attempt σ β} {k' : α → Attempt (σ × List Exchange) β}
    (hx : CallsOnly kind plain noted) (hk : ∀ a, CallsOnly kind (k a) (k' a)) :
    CallsOnly kind (plain >>= k) (noted >>= k') := by
  refine (Transcribes.bind hx hk).mono ?_
  rintro more outcome (⟨fault, -, hmore⟩ | ⟨a, first, second, rfl, hfirst, hsecond⟩)
  · exact hmore
  · intro entry hentry
    rcases List.mem_append.mp hentry with hentry | hentry
    · exact hfirst entry hentry
    · exact hsecond entry hentry

end CallsOnly
end Whitelist
