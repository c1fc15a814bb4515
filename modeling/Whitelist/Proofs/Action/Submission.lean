import Whitelist.Proofs.Action.Rows

/-!
# Rows that are filled in can be sent

A row comes into the list with nothing filled in, and its fields are checked whenever they are
replaced. So a row that has anything filled in is complete for its type, and stays so wherever it
goes when other rows are removed, when the list is sent and loaded again, and when an edit fails.
What stands in the way of sending the list is a row with nothing filled in, and nothing else.

## What is here

* `Step`, `Step.on` — the edits, and a reload.
* `Step.follow`, `follow` — where a row stands after a step, and after some steps.
* `submit_of_complete`, `submit_of_incomplete` — what is sent, and which row a refusal names.
* `Effect`, `Step.effect` — all that a step can do to the rows. What follows about steps is proved
  by going through the cases of `Effect`.
* `Sound`, `Continues` — what holds of all rows, and what holds of a row after some steps.
* `RefusedFor` — the row for which a list is not sent.
* `edited`, `sent_iff_configured` — runs from an empty list, and what holds of all of them.

The editor shows rows with numbers; the statements follow rows by their places. `ofSaved` makes an
editor of a list of actions, and every step from such an editor leads to such an editor again
(`Step.effect`), so a run of edits is a run on plain lists of actions, and `Effect` says in four
cases what can become of such a list and of the place of each row.

`smallest_not_named` is about the word `smallest`. Numbers are words of 32 bits, so in a list of
more than `2 ^ 32 - 1` rows they start again. Such a list is built by recursion, like the runs of
`Proofs.Store.Ids`; nothing evaluates it.
-/

set_option autoImplicit false
namespace Whitelist

/-! ## Fields that are complete

An edit checks the fields that it puts in, by the same check as sending does, which is why a row
cannot become half filled in. `isConfigured` only asks whether there is anything in the row. -/

/-- An action without any fields is not complete, whatever its type: it lacks a channel. -/
theorem Action.isConfigured_of_check {action : Action} (h : action.check = .ok ()) :
    action.isConfigured = true := by
  rw [isConfigured, Bool.not_eq_true', ActionFields.isEmpty, decide_eq_false_iff_not]
  intro hempty
  rw [check, hempty] at h
  cases h

theorem Action.isConfigured_eq_false_iff {action : Action} :
    action.isConfigured = false ↔ action.fields = {} := by
  rw [isConfigured, Bool.not_eq_false', ActionFields.isEmpty, decide_eq_true_iff]

namespace ActionEditor

/-! ## Steps

A reload is a step as well. It may only happen where the list can be sent, and numbers the rows
anew. -/

/-- Something done to an editor: an edit, or a reload, which opens it on the list as it is sent. -/
inductive Step where
  | edit (edit : Edit)
  | reload

/-- What a step makes of an editor. -/
def Step.on : Step → ActionEditor → Except Fault ActionEditor
  | edit e, editor => e.on editor
  | reload, editor => editor.submission.map ofSaved

/-- Where the row at a place, counted from 0, stands once the row at place `k` was removed. -/
def closeGap (k i : Nat) : Option Nat :=
  if i < k then some i else if i = k then none else some (i - 1)

/-- Where the row at a place stands after a step, if it is still there. -/
def Step.follow (editor : ActionEditor) : Step → Nat → Option Nat
  | edit (.remove idx) =>
    match editor.position idx with
    | .ok k => closeGap k
    | .error _ => some
  | _ => some

/-- Where the row at a place stands after some steps, if it is still there. -/
def follow : ActionEditor → List Step → Nat → Option Nat
  | _, [], i => some i
  | editor, step :: rest, i => (step.follow editor i).bind (follow (next Step.on editor step) rest)

/-! ## Sending

Sending goes through the rows in order and stops at the first that is not complete. -/

theorem submit_of_complete {items : List ActionItem}
    (h : ∀ item ∈ items, item.action.check = .ok ()) :
    submit items = .ok (items.map (·.action)) := by
  induction items with
  | nil => rfl
  | cons item rest ih =>
    rw [submit, h item List.mem_cons_self, ih fun i hi => h i (List.mem_cons_of_mem _ hi)]
    rfl

/-- The first row that is not complete is the one that is reported. -/
theorem submit_of_incomplete {before rest : List ActionItem} {item : ActionItem} {e : ActionError}
    (h : ∀ b ∈ before, b.action.check = .ok ()) (he : item.action.check = .error e) :
    submit (before ++ item :: rest) = .error ⟨item.idx, e⟩ := by
  induction before with
  | nil => rw [List.nil_append, submit, he]
  | cons b before ih =>
    rw [List.cons_append, submit, h b List.mem_cons_self,
      ih fun i hi => h i (List.mem_cons_of_mem _ hi)]
    rfl

/-- What is sent is the rows as they stand. -/
theorem eq_of_submit {items : List ActionItem} {actions : List Action}
    (h : submit items = .ok actions) : actions = items.map (·.action) := by
  induction items generalizing actions with
  | nil =>
    cases h
    rfl
  | cons item rest ih =>
    rw [submit] at h
    split at h
    · cases h
    · cases hrest : submit rest with
      | error e =>
        rw [hrest] at h
        cases h
      | ok l =>
        rw [hrest] at h
        cases h
        rw [ih hrest, List.map_cons]

/-- Sending succeeds with the rows as they stand, or not at all. -/
theorem eq_of_submission {rows actions : List Action}
    (h : (ofSaved rows).submission = .ok actions) : actions = rows := by
  rw [submission] at h
  split at h
  · cases h
    exact (eq_of_submit ‹submit _ = _›).trans (actions_ofSaved rows)
  · cases h

/-! ## What a step can do

Each case of `Effect` comes with a map of places: where a row that stood at a place stands now, or
that it is gone. -/

variable {rows rows' : List Action} {places : Nat → Option Nat}

/-- Everything that a step can do to the rows, with the places to which it brings them. -/
inductive Effect (rows : List Action) : List Action → (Nat → Option Nat) → Prop
  | kept : Effect rows rows some
  | appended (types : List ActionType) :
      Effect rows (rows ++ types.map fun t => { actionType := t }) some
  | replaced {k : Nat} {action : Action} {fields : ActionFields} (hrow : rows[k]? = some action)
      (hcheck : fields.check action.actionType = .ok ()) :
      Effect rows (rows.set k { action with fields }) some
  | removed (k : Nat) : Effect rows (rows.eraseIdx k) (closeGap k)

theorem Effect.of_edit (rows : List Action) (e : Edit) :
    ∃ rows', next Step.on (ofSaved rows) (.edit e) = ofSaved rows'
      ∧ Effect rows rows' ((Step.edit e).follow (ofSaved rows)) := by
  cases e with
  | append types => exact ⟨_, append_ofSaved rows types, .appended types⟩
  | replace idx fields =>
    have hon := replace_ofSaved rows idx fields
    cases hrow : rows[placeOf idx]? with
    | none =>
      rw [hrow] at hon
      exact ⟨rows, next_of_error hon, .kept⟩
    | some action =>
      simp only [hrow] at hon
      cases hcheck : fields.check action.actionType with
      | error e =>
        rw [hcheck] at hon
        exact ⟨rows, next_of_error hon, .kept⟩
      | ok =>
        rw [hcheck] at hon
        exact ⟨_, next_of_ok hon, .replaced hrow hcheck⟩
  | remove idx =>
    have hon := remove_ofSaved rows idx
    have hposition := position_ofSaved rows idx
    rw [Step.follow]
    cases hrow : rows[placeOf idx]? with
    | none =>
      rw [hrow] at hon hposition
      rw [hposition]
      exact ⟨rows, next_of_error hon, .kept⟩
    | some action =>
      rw [hrow] at hon hposition
      rw [hposition]
      exact ⟨_, next_of_ok hon, .removed _⟩

/-- **A step does nothing to the rows but what `Effect` says.** -/
theorem Step.effect (rows : List Action) (step : Step) :
    ∃ rows', next Step.on (ofSaved rows) step = ofSaved rows'
      ∧ Effect rows rows' (step.follow (ofSaved rows)) := by
  cases step with
  | edit e => exact Effect.of_edit rows e
  | reload =>
    refine ⟨rows, ?_, .kept⟩
    cases hsent : (ofSaved rows).submission with
    | error f => exact next_of_error (congrArg (Except.map ofSaved) hsent)
    | ok actions =>
      rw [eq_of_submission hsent] at hsent
      exact next_of_ok (congrArg (Except.map ofSaved) hsent)

/-! ## Rows through a run

`Sound` is a property of all rows and an invariant by itself. `Continues` is about one row and needs
its way through the run, which is `follow`. -/

/-- Every row is complete for its type, or has nothing filled in. -/
def Sound (rows : List Action) : Prop :=
  ∀ action ∈ rows, action.fields = {} ∨ action.check = .ok ()

/-- No step leaves a row half filled in. -/
theorem Effect.sound (h : Effect rows rows' places) (hs : Sound rows) : Sound rows' := by
  intro action haction
  cases h with
  | kept => exact hs action haction
  | appended types =>
    rcases List.mem_append.mp haction with hold | hnew
    · exact hs action hold
    · obtain ⟨t, -, rfl⟩ := List.mem_map.mp hnew
      exact .inl rfl
  | replaced hrow hcheck =>
    rcases List.mem_or_eq_of_mem_set haction with hold | rfl
    · exact hs action hold
    · exact .inr hcheck
  | removed k => exact hs action (List.mem_of_mem_eraseIdx haction)

/-- What an earlier row has become: it is of the same type and, if anything was filled in, still
has something filled in. -/
structure Continues (earlier later : Action) : Prop where
  actionType : later.actionType = earlier.actionType
  configured : earlier.isConfigured = true → later.isConfigured = true

theorem Continues.refl (action : Action) : Continues action action := ⟨rfl, fun h => h⟩

theorem Continues.trans {a b c : Action} (h : Continues a b) (h' : Continues b c) :
    Continues a c where
  actionType := h'.actionType.trans h.actionType
  configured hc := h'.configured (h.configured hc)

/-- A row that is not removed stands where `closeGap` says. -/
theorem getElem?_eraseIdx_of_closeGap {k i j : Nat} (h : closeGap k i = some j) :
    (rows.eraseIdx k)[j]? = rows[i]? := by
  rw [List.getElem?_eraseIdx]
  rw [closeGap] at h
  split at h
  · cases h
    rw [if_pos ‹_›]
  · split at h
    · cases h
    · cases h
      rw [if_neg (by omega)]
      congr 1
      omega

/-- The row that a step brings to a place is the one that it takes from where it was. -/
theorem Effect.continues (h : Effect rows rows' places) {i j : Nat} {action : Action}
    (hrow : rows[i]? = some action) (hplace : places i = some j) :
    ∃ action', rows'[j]? = some action' ∧ Continues action action' := by
  cases h with
  | kept =>
    cases hplace
    exact ⟨action, hrow, .refl action⟩
  | appended types =>
    cases hplace
    obtain ⟨hlt, -⟩ := List.getElem?_eq_some_iff.mp hrow
    exact ⟨action, by rw [List.getElem?_append_left hlt, hrow], .refl action⟩
  | @replaced k old fields hold hcheck =>
    cases hplace
    by_cases hk : k = i
    · obtain rfl := hk
      obtain ⟨hlt, -⟩ := List.getElem?_eq_some_iff.mp hrow
      obtain rfl : old = action := Option.some_inj.mp (hold.symm.trans hrow)
      refine ⟨_, List.getElem?_set_self hlt, rfl, fun _ => ?_⟩
      exact Action.isConfigured_of_check hcheck
    · exact ⟨action, by rw [List.getElem?_set_ne hk, hrow], .refl action⟩
  | removed k => exact ⟨action, (getElem?_eraseIdx_of_closeGap hplace).trans hrow, .refl action⟩

theorem exists_sound_after (hs : Sound rows) (steps : List Step) :
    ∃ rows', after Step.on (ofSaved rows) steps = ofSaved rows' ∧ Sound rows' := by
  induction steps generalizing rows with
  | nil => exact ⟨rows, rfl, hs⟩
  | cons step rest ih =>
    obtain ⟨next, hnext, heffect⟩ := step.effect rows
    rw [after_cons, hnext]
    exact ih (heffect.sound hs)

theorem continues_after {steps : List Step} {i j : Nat} {action : Action}
    (hrow : rows[i]? = some action) (hfollow : follow (ofSaved rows) steps i = some j) :
    ∃ action', (after Step.on (ofSaved rows) steps).actions[j]? = some action'
      ∧ Continues action action' := by
  induction steps generalizing rows i action with
  | nil =>
    cases hfollow
    exact ⟨action, by rw [after_nil, actions_ofSaved, hrow], .refl action⟩
  | cons step rest ih =>
    obtain ⟨rows', hnext, heffect⟩ := step.effect rows
    obtain ⟨m, hplace, hrest⟩ := Option.bind_eq_some_iff.mp hfollow
    obtain ⟨middle, hmiddle, hstep⟩ := heffect.continues hrow hplace
    rw [hnext] at hrest
    obtain ⟨action', hlast, hlater⟩ := ih hmiddle hrest
    exact ⟨action', by rw [after_cons, hnext, hlast], hstep.trans hlater⟩

/-! ## Which row stands in the way

Places and numbers go in the same order as long as the numbers do not come again, and so the first
row is the one with the smallest number. -/

/-- A row of the editor is one of the actions that it was made of. -/
theorem action_mem_of_mem {item : ActionItem} (h : item ∈ (ofSaved rows).items) :
    item.action ∈ rows := by
  rw [← actions_ofSaved rows]
  exact List.mem_map_of_mem h

/-- In a sound list a row with anything filled in passes its check. -/
theorem Sound.check_of_isConfigured (hs : Sound rows) {item : ActionItem}
    (h : item ∈ (ofSaved rows).items) (hconfigured : item.action.isConfigured = true) :
    item.action.check = .ok () := by
  refine (hs _ (action_mem_of_mem h)).resolve_left fun hempty => ?_
  rw [Action.isConfigured_eq_false_iff.mpr hempty] at hconfigured
  cases hconfigured

/-- So a list without empty rows can be sent as it stands. -/
theorem Sound.submission_of_configured (hs : Sound rows)
    (hall : ∀ item ∈ (ofSaved rows).items, item.action.isConfigured = true) :
    (ofSaved rows).submission = .ok (ofSaved rows).actions := by
  have hcomplete (item : ActionItem) (hitem : item ∈ (ofSaved rows).items) :
      item.action.check = .ok () := hs.check_of_isConfigured hitem (hall item hitem)
  rw [submission, submit_of_complete hcomplete]
  rfl

/-- A list is not sent for the sake of this row. It is the first with nothing filled in; unless the
list is so long that numbers come again, it also has the smallest number of all such rows. -/
structure RefusedFor (item : ActionItem) (editor : ActionEditor) : Prop where
  first : editor.items.find? (fun i => !i.action.isConfigured) = some item
  smallest : editor.length < 2 ^ 32 →
    ∀ other ∈ editor.items, other.action.isConfigured = false → item.idx ≤ other.idx
  fault : editor.submission = .error (.validation
    (s!"action #{item.idx}: {item.action.actionType.name} action: "
      ++ "notification channel is required"))

/-- In a list that is not too long, numbers only grow. -/
theorem pairwise_idx (hfew : rows.length < 2 ^ 32) :
    (ofSaved rows).items.Pairwise fun a b => a.idx < b.idx := by
  refine List.pairwise_iff_getElem.mpr fun i j hi hj hij => ?_
  rw [← length, length_ofSaved] at hj
  simp only [ofSaved, number, List.getElem_mapIdx, UInt32.lt_iff_toNat_lt]
  rw [toNat_number (by omega), toNat_number (by omega)]
  omega

theorem Sound.refusedFor (hs : Sound rows) {item : ActionItem}
    (hfirst : (ofSaved rows).items.find? (fun i => !i.action.isConfigured) = some item) :
    RefusedFor item (ofSaved rows) := by
  obtain ⟨hempty, before, rest, hitems, hbefore⟩ := List.find?_eq_some_iff_append.mp hfirst
  rw [Bool.not_eq_true'] at hempty
  have hfilled (b : ActionItem) (hb : b ∈ before) : b.action.isConfigured = true := by
    simpa using hbefore b hb
  refine ⟨hfirst, fun hfew other hother hun => ?_, ?_⟩
  · rw [length_ofSaved] at hfew
    have hgrow := pairwise_idx hfew
    rw [hitems, List.pairwise_append, List.pairwise_cons] at hgrow
    rw [hitems, List.mem_append, List.mem_cons] at hother
    rcases hother with hb | rfl | hr
    · rw [hfilled other hb] at hun
      cases hun
    · exact UInt32.le_refl _
    · exact UInt32.le_of_lt (hgrow.2.1.1 other hr)
  · have hcheck : item.action.check = .error ⟨item.action.actionType, .channelRequired⟩ := by
      rw [Action.check, Action.isConfigured_eq_false_iff.mp hempty]
      rfl
    have hcomplete (b : ActionItem) (hb : b ∈ before) : b.action.check = .ok () :=
      hs.check_of_isConfigured (by simp [hitems, hb]) (hfilled b hb)
    rw [submission, hitems, submit_of_incomplete hcomplete hcheck]
    simp only [SubmissionError.fault, ActionError.message, ActionReason.text, String.append_assoc]
    rfl

/-! ## Whole runs

A run starts from the empty list. A refused edit leaves the editor as it was and is part of the run.
-/

/-- The editor after some steps from an empty list. -/
def edited (steps : List Step) : ActionEditor := after Step.on {} steps

theorem exists_sound_edited (steps : List Step) :
    ∃ rows, edited steps = ofSaved rows ∧ Sound rows := by
  have hempty : Sound [] := fun _ h => by cases h
  rw [edited, ← ofSaved_nil]
  exact exists_sound_after hempty steps

theorem continues_edited {before rest : List Step} {i j : Nat} {item : ActionItem}
    (hitem : (edited before).items[i]? = some item)
    (hfollow : follow (edited before) rest i = some j) :
    ∃ later, (edited (before ++ rest)).items[j]? = some later
      ∧ Continues item.action later.action := by
  obtain ⟨rows, hbefore, -⟩ := exists_sound_edited before
  rw [hbefore] at hitem hfollow
  have hrow : rows[i]? = some item.action := by
    rw [← actions_ofSaved rows, actions, List.getElem?_map, hitem]
    rfl
  obtain ⟨action, hlater, hcontinues⟩ := continues_after hrow hfollow
  rw [← hbefore, edited, ← after_append, actions, List.getElem?_map,
    Option.map_eq_some_iff] at hlater
  obtain ⟨later, hlater, rfl⟩ := hlater
  exact ⟨later, hlater, hcontinues⟩

/-- **What is filled in can be sent.** After any steps from an empty editor, whether they were made
or refused, every row has nothing filled in or is complete for its type; a row that once had
something filled in has so wherever the steps after that brought it; and the list can be sent as it
stands if and only if every row has something filled in. Otherwise it is refused for the first row
without, which lacks its channel. -/
theorem sent_iff_configured (steps : List Step) :
    (∀ item ∈ (edited steps).items, item.action.fields = {} ∨ item.action.check = .ok ())
      ∧ (∀ before rest, steps = before ++ rest →
        ∀ i j item, (edited before).items[i]? = some item →
          follow (edited before) rest i = some j →
          ∃ later, (edited steps).items[j]? = some later ∧ Continues item.action later.action)
      ∧ ((edited steps).submission = .ok (edited steps).actions
        ↔ ∀ item ∈ (edited steps).items, item.action.isConfigured = true)
      ∧ ((¬ ∀ item ∈ (edited steps).items, item.action.isConfigured = true) →
        ∃ item, RefusedFor item (edited steps)) := by
  obtain ⟨rows, hrows, hs⟩ := exists_sound_edited steps
  have hrefused (h : ¬ ∀ item ∈ (edited steps).items, item.action.isConfigured = true) :
      ∃ item, RefusedFor item (edited steps) := by
    simp only [not_forall, Bool.not_eq_true] at h
    obtain ⟨item, hitem, hun⟩ := h
    have hsome : ((edited steps).items.find? fun i => !i.action.isConfigured).isSome :=
      List.find?_isSome.mpr ⟨item, hitem, by rw [hun]; rfl⟩
    obtain ⟨first, hfirst⟩ := Option.isSome_iff_exists.mp hsome
    rw [hrows] at hfirst ⊢
    exact ⟨first, hs.refusedFor hfirst⟩
  refine ⟨fun item hitem => ?_, ?_, ⟨fun hsent => ?_, fun hall => ?_⟩, hrefused⟩
  · rw [hrows] at hitem
    exact hs _ (action_mem_of_mem hitem)
  · rintro before rest rfl i j item hitem hfollow
    exact continues_edited hitem hfollow
  · by_contra h
    obtain ⟨item, hitem⟩ := hrefused h
    rw [hitem.fault] at hsent
    cases hsent
  · rw [hrows] at hall ⊢
    exact hs.submission_of_configured hall

/-! ## Lists in which numbers come again -/

/-- A row with nothing filled in. -/
def blankRow : Action := { actionType := .realtime }

/-- Such rows, put into an empty list. -/
theorem edited_append_blank (n : Nat) :
    edited [.edit (.append (.replicate n .realtime))] = ofSaved (.replicate n blankRow) := by
  have happend := append_ofSaved [] (.replicate n .realtime)
  rw [List.map_replicate, List.nil_append, ofSaved_nil] at happend
  exact happend

/-- However many they are, the first one is reported. -/
theorem refusedFor_blank (n : Nat) :
    RefusedFor ⟨1, blankRow⟩ (ofSaved (.replicate (n + 1) blankRow)) := by
  have hs : Sound (.replicate (n + 1) blankRow) := fun action haction =>
    .inl (congrArg Action.fields (List.eq_of_mem_replicate haction))
  refine hs.refusedFor ?_
  rw [List.replicate_succ, ofSaved, number, List.mapIdx_cons]
  rfl

/-- The row at place `n`, counted from 0. -/
theorem blank_mem_items (n : Nat) :
    ⟨.ofNat n + 1, blankRow⟩ ∈ (ofSaved (.replicate (n + 1) blankRow)).items := by
  refine List.mem_of_getElem? (i := n) ?_
  rw [getElem?_items_ofSaved, List.getElem?_replicate_of_lt (Nat.lt_succ_self n)]
  rfl

/-- The last of `2 ^ 32` rows has the number 0, which is smaller than the number that the refusal
names. So `RefusedFor.smallest` cannot do without its bound. -/
theorem smallest_not_named :
    ¬ ∀ steps : List Step, (¬ ∀ item ∈ (edited steps).items, item.action.isConfigured = true) →
      ∃ item ∈ (edited steps).items, item.action.isConfigured = false
        ∧ (∀ other ∈ (edited steps).items, other.action.isConfigured = false →
          item.idx ≤ other.idx)
        ∧ (edited steps).submission = .error (.validation
          (s!"action #{item.idx}: {item.action.actionType.name} action: "
            ++ "notification channel is required")) := by
  intro hall
  obtain ⟨n, hn⟩ : ∃ n, n + 1 = 2 ^ 32 := ⟨2 ^ 32 - 1, by decide⟩
  have hlast := blank_mem_items n
  have hzero : UInt32.ofNat n + 1 = 0 := by
    rw [← UInt32.ofNat_one, ← UInt32.ofNat_add, hn]
    rfl
  rw [hzero] at hlast
  have hclaim := hall [.edit (.append (.replicate (n + 1) .realtime))]
  rw [edited_append_blank] at hclaim
  obtain ⟨item, hitem, -, hsmallest, hnamed⟩ := hclaim fun hfull =>
    absurd (hfull _ hlast) (by decide)
  -- The smallest number is 0, but the refusal names the first row, which has the number 1.
  have hidx : item.idx = 0 := UInt32.le_zero_iff.mp (hsmallest _ hlast rfl)
  have haction : item.action = blankRow := List.eq_of_mem_replicate (action_mem_of_mem hitem)
  rw [(refusedFor_blank n).fault, hidx, haction] at hnamed
  exact absurd hnamed (by decide +kernel)

example : (edited [.edit (.append [.realtime, .timing]), .edit (.replace 1 callback),
      .reload]).submission
    = .error (.validation "action #2: timing action: notification channel is required") := by
  decide +kernel

end ActionEditor
end Whitelist
