import Whitelist.Proofs.Action.Submission
import Whitelist.Proofs.Wire.RoundTrip

/-!
# Sending and loading a list of actions

A list is sent without the numbers of its rows, and the numbers are made again when it is loaded. So
nothing is lost by sending a list and opening an editor on what was sent, nor on what is read back
from the text that was sent; and a list that is loaded and sent again is what it was. Only a list
with a row that is not complete cannot be sent, and the refusal names the first of them.

## What is here

* `Reached`, `Reached.exists_ofSaved` — the editors that edits lead to. Each of them is the editor
  on some list.
* `Sends`, `sends_of_submission` — what is true of a list that an editor sends.
* `submission_ofSaved`, `RefusedAt` — what comes of sending a list that was loaded.
* `sent_and_reloaded` — both directions.
-/

set_option autoImplicit false
namespace Whitelist
namespace ActionEditor

open Wire

variable {editor : ActionEditor} {saved sent : List Action}

/-! ## Editors that are reached -/

/-- The editors that one comes to from an empty list, or from one that was stored, by edits and
reloads, whether they are made or refused. -/
inductive Reached : ActionEditor → Prop
  | new : Reached {}
  | saved (actions : List Action) : Reached (ofSaved actions)
  | step {editor : ActionEditor} (h : Reached editor) (step : Step) :
      Reached (next Step.on editor step)

/-- No edit puts the numbers into disorder: one could always have loaded the list. -/
theorem Reached.exists_ofSaved (h : Reached editor) : ∃ rows, editor = ofSaved rows := by
  induction h with
  | new => exact ⟨[], rfl⟩
  | saved actions => exact ⟨actions, rfl⟩
  | step _ step ih =>
    obtain ⟨rows, rfl⟩ := ih
    obtain ⟨rows', hnext, -⟩ := step.effect rows
    exact ⟨rows', hnext⟩

/-! ## What is sent -/

/-- An editor sends a list: its rows in order, without their numbers. The text of the list is read
back as the list, and loading the list gives the editor again. -/
structure Sends (editor : ActionEditor) (sent : List Action) : Prop where
  rows : sent = editor.items.map (·.action)
  /-- No number is written. -/
  unnumbered : ∀ action ∈ sent, ∃ members, action.toJson = .obj members ∧ ∀ m ∈ members, m.1 ≠ "idx"
  text : (Json.ofText? (ofList Action.toJson sent).toText).bind (asList Action.ofJson?) = some sent
  pretty : (Json.ofText? (ofList Action.toJson sent).pretty).bind (asList Action.ofJson?)
    = some sent
  reloaded : ofSaved sent = editor

/-- The number of a row is not among the fields of an action. -/
theorem ne_idx_of_mem_toMembers {action : Action} {m : String × Json} (h : m ∈ action.toMembers) :
    m.1 ≠ "idx" := by
  have hnone : action.toMembers.filter (fun m => m.1 = "idx") = [] := by
    rw [Action.toMembers_eq, filter_written (· = "idx")]
    rfl
  intro hidx
  exact List.filter_eq_nil_iff.mp hnone m h (decide_eq_true hidx)

theorem sends_of_submission (h : Reached editor) (hsent : editor.submission = .ok sent) :
    Sends editor sent := by
  obtain ⟨rows, rfl⟩ := h.exists_ofSaved
  obtain rfl := eq_of_submission hsent
  obtain ⟨htext, hpretty⟩ := ofText?_written (ofList Action.toJson) (asList Action.ofJson?) sent
    (by decide)
  exact ⟨(actions_ofSaved sent).symm, fun action _ => ⟨_, rfl, fun _ => ne_idx_of_mem_toMembers⟩,
    htext, hpretty, rfl⟩

/-! ## Lists that were loaded -/

theorem submission_of_complete (hall : ∀ action ∈ saved, action.check = .ok ()) :
    (ofSaved saved).submission = .ok saved := by
  have hitems : ∀ item ∈ (ofSaved saved).items, item.action.check = .ok () := fun item hitem =>
    hall _ (action_mem_of_mem hitem)
  rw [submission, submit_of_complete hitems]
  exact congrArg Except.ok (actions_ofSaved saved)

theorem items_ofSaved_append (before rest : List Action) (action : Action) :
    ∃ later, (ofSaved (before ++ action :: rest)).items
      = (ofSaved before).items ++ ⟨.ofNat before.length + 1, action⟩ :: later := by
  show ∃ later, number (before ++ action :: rest) = number before ++ _ :: later
  rw [number, number, List.mapIdx_append, List.mapIdx_cons, Nat.zero_add]
  exact ⟨_, rfl⟩

/-- The first action that is not complete is the one that is reported. -/
theorem submission_of_incomplete {before rest : List Action} {action : Action} {e : ActionError}
    (hbefore : ∀ b ∈ before, b.check = .ok ()) (he : action.check = .error e) :
    (ofSaved (before ++ action :: rest)).submission
      = .error (SubmissionError.fault ⟨.ofNat before.length + 1, e⟩) := by
  obtain ⟨later, hitems⟩ := items_ofSaved_append before rest action
  have hcomplete : ∀ b ∈ (ofSaved before).items, b.action.check = .ok () := fun b hb =>
    hbefore _ (action_mem_of_mem hb)
  rw [submission, hitems, submit_of_incomplete hcomplete he]

/-- Where not every action is complete there is a first that is not. -/
theorem exists_incomplete (h : ¬ ∀ action ∈ saved, action.check = .ok ()) :
    ∃ before action rest e, saved = before ++ action :: rest
      ∧ (∀ b ∈ before, b.check = .ok ()) ∧ action.check = .error e := by
  have hsome : (saved.find? fun action => action.check ≠ .ok ()).isSome := by
    rw [List.find?_isSome]
    simpa using h
  obtain ⟨action, hfirst⟩ := Option.isSome_iff_exists.mp hsome
  obtain ⟨hcheck, before, rest, hsaved, hbefore⟩ := List.find?_eq_some_iff_append.mp hfirst
  have hcomplete : ∀ b ∈ before, b.check = .ok () := by simpa using hbefore
  cases he : action.check with
  | ok => simp [he] at hcheck
  | error e => exact ⟨before, action, rest, e, hsaved, hcomplete, he⟩

/-- A list is sent if and only if every action of it is complete. -/
theorem submission_ofSaved : (∃ sent, (ofSaved saved).submission = .ok sent)
    ↔ ∀ action ∈ saved, action.check = .ok () := by
  constructor
  · rintro ⟨sent, hsent⟩
    by_contra hnot
    obtain ⟨before, action, rest, e, rfl, hbefore, he⟩ := exists_incomplete hnot
    rw [submission_of_incomplete hbefore he] at hsent
    cases hsent
  · intro hall
    exact ⟨saved, submission_of_complete hall⟩

/-- A list cannot be sent because of the action at a place: it is the first that is not complete,
and the refusal names the place, counted from 1. -/
structure RefusedAt (saved : List Action) (i : Nat) (action : Action) (e : ActionError) : Prop where
  stands : saved[i]? = some action
  incomplete : action.check = .error e
  first : ∀ j < i, ∀ before, saved[j]? = some before → before.check = .ok ()
  fault : (ofSaved saved).submission = .error (.validation s!"action #{i + 1}: {e.message}")

theorem exists_refusedAt (hfew : saved.length < 2 ^ 32)
    (h : ¬ ∀ action ∈ saved, action.check = .ok ()) : ∃ i action e, RefusedAt saved i action e := by
  obtain ⟨before, action, rest, e, rfl, hbefore, he⟩ := exists_incomplete h
  refine ⟨before.length, action, e, ?_, he, fun j hj b hb => ?_, ?_⟩
  · rw [List.getElem?_append_right (Nat.le_refl _), Nat.sub_self]
    rfl
  · rw [List.getElem?_append_left hj] at hb
    exact hbefore b (List.mem_of_getElem? hb)
  · have hnumber : (UInt32.ofNat before.length + 1).toNat = before.length + 1 := by
      rw [List.length_append, List.length_cons] at hfew
      exact toNat_number (by omega)
    rw [submission_of_incomplete hbefore he, ← hnumber]
    rfl

/-- **Sending and loading undo one another.** Whatever an editor sends, after any steps, is its rows
in order without their numbers; the text that goes out is read back as that list, and an editor
opened on it is the one that was there. The other way round, an editor opened on any list sends that
list, if every action of it is complete for its type; otherwise it is refused for the first that is
not, by its place. -/
theorem sent_and_reloaded :
    (∀ editor sent, Reached editor → editor.submission = .ok sent → Sends editor sent)
      ∧ ∀ saved : List Action,
        ((∃ sent, (ofSaved saved).submission = .ok sent) ↔ ∀ action ∈ saved, action.check = .ok ())
          ∧ (∀ sent, (ofSaved saved).submission = .ok sent → sent = saved)
          ∧ (saved.length < 2 ^ 32 → (¬ ∀ action ∈ saved, action.check = .ok ()) →
            ∃ i action e, RefusedAt saved i action e) := by
  refine ⟨fun editor sent => sends_of_submission, fun saved => ⟨submission_ofSaved, ?_, ?_⟩⟩
  · exact fun sent => eq_of_submission
  · exact exists_refusedAt

/-- A callback is filled in, sent and loaded again. A list in which nothing but the first action is
filled in is refused for the second. -/
theorem sent_and_reloaded_callback :
    Sends (next Step.on (next Step.on {} (.edit (.append [.realtime])))
        (.edit (.replace 1 callback))) [⟨.realtime, callback⟩]
      ∧ (ofSaved [⟨.realtime, callback⟩]).submission = .ok [⟨.realtime, callback⟩]
      ∧ RefusedAt [⟨.realtime, callback⟩, ⟨.timing, {}⟩, ⟨.timing, {}⟩] 1 ⟨.timing, {}⟩
        ⟨.timing, .channelRequired⟩ := by
  obtain ⟨hsends, hsaved⟩ := sent_and_reloaded
  refine ⟨?_, ?_, ?_⟩
  · have hreached : Reached (next Step.on (next Step.on {} (.edit (.append [.realtime])))
        (.edit (.replace 1 callback))) := (Reached.new.step _).step _
    exact hsends _ _ hreached (by decide +kernel)
  · obtain ⟨hsent, heq, -⟩ := hsaved [⟨.realtime, callback⟩]
    obtain ⟨sent, hsubmission⟩ := hsent.mpr (by decide +kernel)
    rwa [heq sent hsubmission] at hsubmission
  · obtain ⟨-, -, hrefused⟩ := hsaved [⟨.realtime, callback⟩, ⟨.timing, {}⟩, ⟨.timing, {}⟩]
    obtain ⟨i, action, e, h⟩ := hrefused (by decide) (by decide +kernel)
    have hone : i = 1 := by
      rcases Nat.lt_trichotomy i 1 with hlt | rfl | hgt
      · obtain rfl : i = 0 := by omega
        obtain rfl := Option.some_inj.mp h.stands
        have hcomplete : Action.check ⟨.realtime, callback⟩ = .ok () := by decide +kernel
        rw [h.incomplete] at hcomplete
        cases hcomplete
      · rfl
      · exact absurd (h.first 1 hgt ⟨.timing, {}⟩ rfl) (by decide +kernel)
    subst hone
    obtain rfl := Option.some_inj.mp h.stands
    obtain rfl : e = ⟨.timing, .channelRequired⟩ := (Except.error.inj h.incomplete).symm
    exact h

end ActionEditor
end Whitelist
