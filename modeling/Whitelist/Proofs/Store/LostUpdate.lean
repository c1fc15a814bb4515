import Whitelist.Proofs.Store.Ids

/-!
# Updates behind an old snapshot

A caller reads a record, edits it, and saves it behind the snapshot that was read. Both the gateway
and the store look only at who holds the lock: the gateway at the lock in the snapshot, the store at
the lease as it is now. Neither compares the record with what was read. This keeps two users apart
who would edit at the same time; it does not notice that the lease went to somebody else and came
back in the meantime.

## What is here

* `Edit` — a record that is read, and later saved behind what was read.
* `NoLostUpdate` — in no edit is the record changed by another user. It fails under both policies:
  the lease is handed over and handed back.
* `Gains` — a step at which a user comes to hold a lease. Nothing brings that about but a request or
  a creation by that user.
* `gained_again_after_change` — what holds: after every change by another user the editor has taken
  the lease anew. So an editor who takes the lease before reading, and not again, loses no update.

The positive half is a fact about leases, not about snapshots. If somebody else has changed the
record, then at that moment the editor did not hold the lease (`ChangedBy.owner_ne`); at the moment
of the save the editor did (`owner?_of_guardedSave`); so there is a step in between at which the
editor gained it (`exists_gains`), and that step was the editor's own (`Gains.taken`).
-/

set_option autoImplicit false
namespace Whitelist
namespace MemoryStore

/-! ## Edits

An edit is a stretch of a run with a reading at its start and a save at its end, whatever happens in
between. -/

/-- The run with a caller's reading of a record and more steps after it. -/
def Run.reading (run : Run) (x : Caller) (id : Int64) (steps : List Step) : Run :=
  run.followedBy (.ask x (.getRecord id) :: steps)

/-- After a run a caller reads a record, other steps follow, and then the caller's update behind the
snapshot goes through. -/
structure Edit (run : Run) (x : Caller) (id : Int64) (snapshot : RuleRecord)
    (content : RuleContent) (steps : List Step) : Prop where
  read : ((getRecord x id).on run.store).1 = .ok snapshot
  saved : ∃ answer, ((Step.guardedSave x ⟨some id, content⟩ (some snapshot)).on
    (run.reading x id steps).store).1 = .ok answer

/-- A step taken by a caller changes or removes a record. -/
structure ChangedBy (y : Caller) (id : Int64) (s : MemoryStore) (step : Step) : Prop where
  asked : ∃ call, step.request? = some (y, call)
  changed : (step.on s).2.rules.find? id ≠ s.rules.find? id

/-- At this step a user comes to hold the live lease of a record. -/
structure Gains (user : String) (id : Int64) (s : MemoryStore) (step : Step) : Prop where
  before : s.owner? id ≠ some user
  after : (step.on s).2.owner? id = some user

theorem Run.store_reading_append (run : Run) (x : Caller) (id : Int64) (l m : List Step) :
    (run.reading x id (l ++ m)).store = (run.reading x id l).store.after m := by
  rw [reading, reading, store_followedBy, store_followedBy, ← List.cons_append, after_append]

/-! ## Handing the lease over and back

The counterexample needs two users and a handful of steps, under either policy. -/

/-- Whoever saves behind a snapshot overwrites nothing that another user has done since. -/
def NoLostUpdate (policy : LockPolicy) : Prop :=
  ∀ (run : Run) (x y : Caller) (id : Int64) (snapshot : RuleRecord) (content : RuleContent)
    (l m : List Step) (step : Step), run.policy = policy → run.NeverExpires →
    Edit run x id snapshot content (l ++ step :: m) →
    ChangedBy y id (run.reading x id l).store step → y.userId = x.userId

/-- Alice gives the lease back, and Bob takes it. -/
def handedOver : List Step := [.ask alice (.releaseLock 1), .ask bob (.grabLock 1)]

/-- Bob gives the lease back, and Alice takes it. -/
def handedBack : List Step := [.ask bob (.releaseLock 1), .ask alice (.grabLock 1)]

/-- What Bob does in between; Alice's update undoes it. -/
def disabling : Step := .ask bob (.setEnabled 1 false)

theorem edit_handedBack (policy : LockPolicy) : Edit (drafted policy) alice 1 (draftedRecord alice)
    draft (handedOver ++ disabling :: handedBack) where
  read := by cases policy <;> rfl
  saved := by cases policy <;> exact ⟨1, rfl⟩

theorem changedBy_disabling (policy : LockPolicy) :
    ChangedBy bob 1 ((drafted policy).reading alice 1 handedOver).store disabling where
  asked := ⟨_, rfl⟩
  changed := by cases policy <;> decide

theorem not_noLostUpdate (policy : LockPolicy) : ¬ NoLostUpdate policy := by
  intro h
  have hsame := h (drafted policy) alice bob 1 (draftedRecord alice) draft handedOver handedBack
    disabling rfl (.inl rfl) (edit_handedBack policy) (changedBy_disabling policy)
  exact absurd hsame (by decide)

/-- **Under both policies a save can overwrite what another user has done since the snapshot**, in a
store whose leases never run out and with nobody but Alice and Bob. -/
theorem handing_back_loses_update : ¬ NoLostUpdate .grab ∧ ¬ NoLostUpdate .exclusive :=
  ⟨not_noLostUpdate .grab, not_noLostUpdate .exclusive⟩

/-! ## Who gains a lease

A step gains a lease if the user holds it after the step and did not before. -/

variable {s t : MemoryStore} {step : Step} {id : Int64} {user : String}

theorem Gains.taken (h : Gains user id s step) : ∃ caller d,
    (step.event s).deed? = some d ∧ d.Takes caller id ∧ caller.userId = user := by
  obtain ⟨holder, hholder, rfl⟩ := Option.map_eq_some_iff.mp h.after
  rcases (step.effect s).holder_of hholder with ⟨caller, d, hdeed, htakes, rfl⟩ | hold
  · exact ⟨caller, d, hdeed, htakes, rfl⟩
  · exact absurd (congrArg (Option.map LockHolder.owner) hold) h.before

/-- Between not holding a lease and holding it there is a step that gains it. -/
theorem exists_gains {steps : List Step} (hbefore : s.owner? id ≠ some user)
    (hafter : (s.after steps).owner? id = some user) :
    ∃ l gain m, steps = l ++ gain :: m ∧ Gains user id (s.after l) gain := by
  induction steps generalizing s with
  | nil => exact absurd hafter hbefore
  | cons step rest ih =>
    by_cases hnow : (step.on s).2.owner? id = some user
    · exact ⟨[], step, rest, rfl, hbefore, hnow⟩
    · obtain ⟨l, gain, m, rfl, hgain⟩ := ih hnow hafter
      exact ⟨step :: l, gain, m, rfl, hgain⟩

theorem Deed.Takes.caller_eq {caller : Caller} {d : Deed} (h : d.Takes caller id) :
    d.caller = caller := by
  rcases h with rfl | ⟨content, rfl⟩ <;> rfl

/-- Whoever changes a record leaves no other user with its lease, or has created it anew. -/
theorem ChangedBy.owner_ne {y : Caller} (h : ChangedBy y id s step) (hother : y.userId ≠ user) :
    (step.on s).2.owner? id ≠ some user
      ∨ ∃ content, (step.event s).deed? = some (.create y id content) := by
  have heffect := step.effect s
  obtain ⟨call, hreq⟩ := h.asked
  rcases heffect.changes h.changed with
    ⟨caller, call', rule, hreq', -, -, howner⟩ | ⟨caller, content, hreq', hdeed, -⟩
  · obtain rfl := Step.caller_unique hreq hreq'
    have hbefore : s.owner? id ≠ some user := by
      rw [howner, Ne, Option.some_inj]
      exact hother
    refine .inl fun hafter => ?_
    obtain ⟨x, d, hdeed, htakes, hx⟩ := Gains.taken ⟨hbefore, hafter⟩
    rw [hdeed] at heffect
    have hcaller : x = caller := htakes.caller_eq.symm.trans (heffect.caller_eq hreq)
    exact hother (hcaller ▸ hx)
  · obtain rfl := Step.caller_unique hreq hreq'
    exact .inr ⟨content, hdeed⟩

/-! ## What an edit tells

The snapshot says that the lock is the editor's, or the gateway would have refused the save. -/

theorem existing?_of_getRecord {x : Caller} {snapshot : RuleRecord}
    (h : ((getRecord x id).on s).1 = .ok snapshot) : ∃ rule, s.existing? x id = some rule := by
  obtain ⟨rule, hseen, -⟩ := getRecord_eq_ok_iff.mp h
  exact ⟨rule, hseen⟩

theorem Effect.of_update {caller : Caller} {content : RuleContent}
    (h : Effect s step (some (.update caller id content)) t) :
    step.request? = some (caller, .saveRecord ⟨some id, content⟩)
      ∧ s.owner? id = some caller.userId := by
  cases h with
  | updated hreq hseen howner => exact ⟨hreq, howner⟩

/-- An update that goes through is made by the owner of the lease. -/
theorem owner?_of_guardedSave {x : Caller} {content : RuleContent} {current : Option RuleRecord}
    {answer : Int64}
    (h : ((Step.guardedSave x ⟨some id, content⟩ current).on s).1 = .ok answer) :
    s.owner? id = some x.userId := by
  have heffect := (Step.guardedSave x ⟨some id, content⟩ current).effect s
  have hdeed : ((Step.guardedSave x ⟨some id, content⟩ current).event s).deed?
      = some (.update x answer content) := by
    show ((Step.guardedSave x ⟨some id, content⟩ current).on s).1.toOption.bind _ = _
    rw [h]
    rfl
  rw [hdeed] at heffect
  obtain ⟨hreq, howner⟩ := heffect.of_update
  cases hreq
  exact howner

/-- **Where another user has changed the record since it was read, the editor has taken the lease
anew.** Nothing in a save tells an old snapshot from a new one, but the lease does part the edits of
two users: after the change the editor did not hold it, and before the save a request of the editor
gained it. Only where more than `2 ^ 64` records were created, and ids issued again, may it have
come with a new record instead. -/
theorem gained_again_after_change (run : Run) (x y : Caller) (id : Int64) (snapshot : RuleRecord)
    (content : RuleContent) (l m : List Step) (step : Step)
    (hedit : Edit run x id snapshot content (l ++ step :: m))
    (hchange : ChangedBy y id (run.reading x id l).store step) (hother : y.userId ≠ x.userId) :
    (∃ m₁ grab m₂ caller, m = m₁ ++ grab :: m₂
        ∧ Gains x.userId id (run.reading x id (l ++ step :: m₁)).store grab
        ∧ (grab.event (run.reading x id (l ++ step :: m₁)).store).deed? = some (.grab caller id)
        ∧ caller.userId = x.userId)
      ∨ 2 ^ 64 < creations (run.reading x id (l ++ step :: m)).events := by
  obtain ⟨rule, hseen⟩ := existing?_of_getRecord hedit.read
  have hstored := ((existing?_eq_some_iff ..).mp hseen).1
  -- A creation of the record after it was read would issue its id again.
  have hcreated {l' m' : List Step} {st : Step} {caller : Caller} {c : RuleContent}
      (hsteps : l ++ step :: m = l' ++ st :: m')
      (hdeed : (st.event (run.reading x id l').store).deed? = some (.create caller id c)) :
      2 ^ 64 < creations (run.reading x id (l ++ step :: m)).events := by
    rw [Run.reading, Run.store_followedBy] at hdeed
    rw [hsteps]
    exact Run.reissued hstored (mem_deeds_history hdeed)
  rcases hchange.owner_ne hother with hlost | ⟨c, hdeed⟩
  · obtain ⟨answer, hsaved⟩ := hedit.saved
    have howner := owner?_of_guardedSave hsaved
    rw [Run.store_reading_append, after_cons] at howner
    obtain ⟨m₁, gain, m₂, rfl, hgain⟩ := exists_gains hlost howner
    have hstore : (run.reading x id (l ++ step :: m₁)).store
        = (step.on (run.reading x id l).store).2.after m₁ := by
      rw [Run.store_reading_append, after_cons]
    rw [← hstore] at hgain
    obtain ⟨caller, d, hdeed, rfl | ⟨c, rfl⟩, hcaller⟩ := hgain.taken
    · exact .inl ⟨m₁, gain, m₂, caller, rfl, hgain, hdeed, hcaller⟩
    · have hsplit : l ++ step :: (m₁ ++ gain :: m₂) = (l ++ step :: m₁) ++ gain :: m₂ := by
        rw [List.append_assoc, List.cons_append]
      exact .inr (hcreated hsplit hdeed)
  · exact .inr (hcreated rfl hdeed)

/-- Alice's save goes through only because she has taken the lease back. -/
theorem gained_again_handedBack :
    Edit (drafted .exclusive) alice 1 (draftedRecord alice) draft
        (handedOver ++ disabling :: handedBack)
      ∧ ChangedBy bob 1 ((drafted .exclusive).reading alice 1 handedOver).store disabling
      ∧ bob.userId ≠ alice.userId
      ∧ ∃ m₁ grab m₂ caller, handedBack = m₁ ++ grab :: m₂
        ∧ Gains alice.userId 1
          ((drafted .exclusive).reading alice 1 (handedOver ++ disabling :: m₁)).store grab
        ∧ (grab.event ((drafted .exclusive).reading alice 1
          (handedOver ++ disabling :: m₁)).store).deed? = some (.grab caller 1)
        ∧ caller.userId = alice.userId := by
  have hedit := edit_handedBack .exclusive
  have hchange := changedBy_disabling .exclusive
  have hother : bob.userId ≠ alice.userId := by decide
  refine ⟨hedit, hchange, hother, ?_⟩
  rcases gained_again_after_change (drafted .exclusive) alice bob 1 (draftedRecord alice) draft
    handedOver handedBack disabling hedit hchange hother with h | hfull
  · exact h
  · exact absurd hfull (by decide)

end MemoryStore
end Whitelist
