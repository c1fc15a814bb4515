import Whitelist.Console.Gateway
import Whitelist.Proofs.Attempt

/-!
# What the gateway asks of a store

A change that goes through the gateway comes to one call to the store, or to none. Which of the two
it is follows from the form and the snapshot alone; what the store would have answered has no say in
it. So this is said for all stores at once, and the calls that they get are what is observed.

## What is here

* `Operation` — something done through the calls of a store.
* `Relays`, `Withholds` — an operation makes one call and hands on its answer, or makes none and
  fails.
* `Gated` — an operation relays its call exactly where it is admitted, and else withholds it.
* `guarded_on` — a call behind a snapshot.
* `SaveAdmitted`, `SaveRefused` — which saves reach the store, and with which fault the others fail.
* `save_on_of_admitted`, `save_on_of_refused`, `save_on` — what comes of a save.
* `calls_behind_lock` — the three operations of the gateway.
-/

set_option autoImplicit false
namespace Whitelist

theorem RuleForm.validate_of_check {form : RuleForm} (h : form.check = .ok ())
    (order : LineOrder) : form.validate order = .ok () := by
  rw [validate, h]

namespace Console

open Attempt

/-! ## One call or none -/

/-- Something that is done through the calls of a store, in the same way over every store. -/
abbrev Operation (α : Type) : Type 1 := ∀ σ : Type, RuleStore σ → Attempt σ α

/-- Whatever the store and its state, the operation makes this one call, and what the store answers
to it is what comes of the operation. -/
def Relays (call : StoreCall) (operation : Operation call.Answer) : Prop :=
  ∀ (σ : Type) (store : RuleStore σ) (s : σ) (calls : List StoreCall),
    (operation _ store.recorded).on (s, calls)
      = (((store.answer call).on s).1, ((store.answer call).on s).2, calls ++ [call])

/-- Whatever the store and its state, the operation makes no call and fails with this fault. -/
def Withholds {α : Type} (fault : Fault) (operation : Operation α) : Prop :=
  ∀ (σ : Type) (store : RuleStore σ) (s : σ) (calls : List StoreCall),
    (operation _ store.recorded).on (s, calls) = (.error fault, s, calls)

/-- The operation relays its call exactly where it is admitted, and withholds it with exactly the
faults that are given for that; and one of the two it does. -/
structure Gated (admitted : Prop) (refusal : Fault → Prop) (call : StoreCall)
    (operation : Operation call.Answer) : Prop where
  relays : Relays call operation ↔ admitted
  withholds : ∀ fault, Withholds fault operation ↔ refusal fault
  decided : Relays call operation ∨ ∃ fault, Withholds fault operation

variable {call : StoreCall} {operation : Operation call.Answer} {fault fault' : Fault}

/-- A store that refuses everything. Any store would do to tell operations apart. -/
def closedStore : RuleStore Unit where
  answer _ := throw (.transport "closed")

theorem Relays.not_withholds (h : Relays call operation) : ¬ Withholds fault operation := by
  intro h'
  have hlog := congrArg (·.2.2) ((h _ closedStore () []).symm.trans (h' _ closedStore () []))
  cases hlog

theorem Withholds.fault_unique {α : Type} {operation : Operation α}
    (h : Withholds fault operation) (h' : Withholds fault' operation) : fault' = fault := by
  have hanswer := congrArg Prod.fst ((h' _ closedStore () []).symm.trans (h _ closedStore () []))
  exact Except.error.inj hanswer

/-- It is enough to know what comes of an operation over every store: stores that write down their
calls are among them. -/
theorem Gated.of_on {admitted : Prop} {refusal : Fault → Prop}
    (hadmitted : admitted → ∀ (σ : Type) (store : RuleStore σ) (s : σ),
      (operation σ store).on s = (store.answer call).on s)
    (hrefused : ∀ fault, refusal fault → ∀ (σ : Type) (store : RuleStore σ) (s : σ),
      (operation σ store).on s = (.error fault, s))
    (htotal : admitted ∨ ∃ fault, refusal fault) : Gated admitted refusal call operation := by
  have hrelays (h : admitted) : Relays call operation := fun _ store s calls =>
    hadmitted h _ store.recorded (s, calls)
  have hwithholds (fault : Fault) (h : refusal fault) : Withholds fault operation :=
    fun _ store s calls => hrefused fault h _ store.recorded (s, calls)
  refine ⟨⟨fun h => ?_, hrelays⟩, fun fault => ⟨fun h => ?_, hwithholds fault⟩, ?_⟩
  · rcases htotal with hadm | ⟨fault, href⟩
    · exact hadm
    · exact absurd (hwithholds fault href) h.not_withholds
  · rcases htotal with hadm | ⟨fault', href⟩
    · exact absurd h (hrelays hadm).not_withholds
    · rwa [← h.fault_unique (hwithholds fault' href)]
  · exact htotal.imp hrelays fun ⟨fault, href⟩ => ⟨fault, hwithholds fault href⟩

/-! ## Behind a snapshot -/

theorem guarded_on {σ α : Type} (record : RuleRecord) (action : Attempt σ α) (s : σ) :
    (guarded record action).on s
      = if record.isEditable then action.on s else (.error record.notEditable, s) := by
  rw [guarded]
  split <;> rfl

theorem guarded_on_of_held {σ α : Type} {record : RuleRecord} (action : Attempt σ α) (s : σ)
    (h : record.lock.isLockHolder = true) : (guarded record action).on s = action.on s := by
  have heditable : record.isEditable = true := h
  rw [guarded_on, if_pos heditable]

theorem guarded_on_of_other {σ α : Type} {record : RuleRecord} (action : Attempt σ α) (s : σ)
    (h : record.lock.isLockHolder = false) :
    (guarded record action).on s = (.error (.lockNotHeld record.id record.lock.holderName), s) := by
  have hlocked : ¬ record.isEditable = true := Bool.eq_false_iff.mp h
  rw [guarded_on, if_neg hlocked]
  rfl

/-- A guarded call is admitted by the lock in the snapshot, and refused with the record and the
holder that the snapshot names. -/
theorem gated_guarded (record : RuleRecord) (call : StoreCall) :
    Gated (record.lock.isLockHolder = true)
      (fun fault => record.lock.isLockHolder = false
        ∧ fault = .lockNotHeld record.id record.lock.holderName)
      call fun _ store => guarded record (store.answer call) := by
  refine .of_on (fun hheld _ _ s => ?_) (fun fault hrefused _ _ s => ?_) ?_
  · exact guarded_on_of_held _ s hheld
  · obtain ⟨hother, rfl⟩ := hrefused
    exact guarded_on_of_other _ s hother
  · cases record.lock.isLockHolder with
    | true => exact .inl rfl
    | false => exact .inr ⟨_, rfl, rfl⟩

/-! ## Saving -/

variable {form : RuleForm} {current : Option RuleRecord}

/-- A save that is to reach the store: the form is right, and it creates a record or comes with a
snapshot of the record that it names, which says that the caller holds the lock. -/
inductive SaveAdmitted (form : RuleForm) (current : Option RuleRecord) : Prop
  | creation (hcheck : form.check = .ok ()) (hid : form.id = none)
  | update {record : RuleRecord} (hcheck : form.check = .ok ()) (hcurrent : current = some record)
      (hid : form.id = some record.id) (hheld : record.lock.isLockHolder = true)

/-- Why another save does not reach the store. What is wrong with the form comes first, with its
fields in the order in which they happen to be named. -/
inductive SaveRefused (form : RuleForm) (current : Option RuleRecord) (order : LineOrder) :
    Fault → Prop
  | invalid {e : FormError} (hcheck : form.check = .error e) :
      SaveRefused form current order (e.fault order)
  | notLocked {record : RuleRecord} (hcheck : form.check = .ok ())
      (hcurrent : current = some record) (hid : form.id = some record.id)
      (hheld : record.lock.isLockHolder = false) :
      SaveRefused form current order (.lockNotHeld record.id record.lock.holderName)
  | noSnapshot {id : Int64} (hcheck : form.check = .ok ()) (hid : form.id = some id)
      (hcurrent : ∀ record, current = some record → record.id ≠ id) :
      SaveRefused form current order
        (.illegalArgument s!"update of record {id} requires its current snapshot")

theorem admitted_or_refused (form : RuleForm) (current : Option RuleRecord) (order : LineOrder) :
    SaveAdmitted form current ∨ ∃ fault, SaveRefused form current order fault := by
  cases hcheck : form.check with
  | error e => exact .inr ⟨_, .invalid hcheck⟩
  | ok =>
    cases hid : form.id with
    | none => exact .inl (.creation hcheck hid)
    | some id =>
      by_cases hsnapshot : ∃ record, current = some record ∧ record.id = id
      · obtain ⟨record, hcurrent, rfl⟩ := hsnapshot
        cases hheld : record.lock.isLockHolder with
        | true => exact .inl (.update hcheck hcurrent hid hheld)
        | false => exact .inr ⟨_, .notLocked hcheck hcurrent hid hheld⟩
      · exact .inr ⟨_, .noSnapshot hcheck hid fun record hcurrent hrecord =>
          hsnapshot ⟨record, hcurrent, hrecord⟩⟩

section Save

variable {σ : Type} (store : RuleStore σ) (s : σ) {order : LineOrder}

theorem save_on_of_invalid {e : FormError} (hcheck : form.check = .error e) :
    (save store form current order).on s = (.error (e.fault order), s) := by
  have hvalid : form.validate order = .error (e.fault order) := by
    rw [RuleForm.validate, hcheck]
  unfold save
  rw [on_bind, on_liftM, hvalid]

/-- With a right form there are no fields to name, in any order. -/
theorem save_eq_of_check (hcheck : form.check = .ok ()) (order' : LineOrder) :
    save store form current order = save store form current order' := by
  unfold save
  rw [RuleForm.validate_of_check hcheck, RuleForm.validate_of_check hcheck]

/-- With a snapshot of the very record that a right form names, its lock decides. -/
theorem save_on_of_snapshot {record : RuleRecord} (hcheck : form.check = .ok ())
    (hcurrent : current = some record) (hid : form.id = some record.id) :
    (save store form current order).on s = (guarded record (store.saveRecord form)).on s := by
  subst hcurrent
  unfold save
  rw [on_bind, on_liftM, RuleForm.validate_of_check hcheck, hid]
  show (if record.id = record.id then _ else _ : Attempt σ Int64).on s = _
  rw [if_pos rfl]

theorem save_on_of_admitted (h : SaveAdmitted form current) :
    (save store form current order).on s = (store.saveRecord form).on s := by
  cases h with
  | creation hcheck hid =>
    unfold save
    rw [on_bind, on_liftM, RuleForm.validate_of_check hcheck, hid]
  | @update record hcheck hcurrent hid hheld =>
    rw [save_on_of_snapshot store s hcheck hcurrent hid, guarded_on_of_held _ s hheld]

theorem save_on_of_refused (h : SaveRefused form current order fault) :
    (save store form current order).on s = (.error fault, s) := by
  cases h with
  | invalid hcheck => exact save_on_of_invalid store s hcheck
  | @notLocked record hcheck hcurrent hid hheld =>
    rw [save_on_of_snapshot store s hcheck hcurrent hid]
    exact guarded_on_of_other _ s hheld
  | @noSnapshot id hcheck hid hcurrent =>
    unfold save
    rw [on_bind, on_liftM, RuleForm.validate_of_check hcheck, hid]
    cases current with
    | none => rfl
    | some record =>
      show (if record.id = id then _ else _ : Attempt σ Int64).on s = _
      rw [if_neg (hcurrent record rfl)]
      rfl

/-- A save through the gateway is refused by itself, and then the store is not asked, or it is what
the store makes of the form. -/
theorem save_on (form : RuleForm) (current : Option RuleRecord) (order : LineOrder) :
    (∃ fault, (save store form current order).on s = (.error fault, s))
      ∨ (save store form current order).on s = (store.saveRecord form).on s := by
  rcases admitted_or_refused form current order with hadmitted | ⟨fault, hrefused⟩
  · exact .inr (save_on_of_admitted store s hadmitted)
  · exact .inl ⟨fault, save_on_of_refused store s hrefused⟩

end Save

theorem gated_save (form : RuleForm) (current : Option RuleRecord) (order : LineOrder) :
    Gated (SaveAdmitted form current) (SaveRefused form current order) (.saveRecord form)
      fun _ store => save store form current order :=
  .of_on (fun h _ store s => save_on_of_admitted store s h)
    (fun _ h _ store s => save_on_of_refused store s h) (admitted_or_refused form current order)

/-! ## The gateway -/

/-- **The gateway makes no call without an affirmed lock.** Over every store, whatever it answers
and from any state of it: enabling, disabling and deleting make one call, on the record of the
snapshot, exactly where the snapshot says that the caller holds its lock; otherwise they make none,
and the fault names the record and the holder of the snapshot. A save makes its one call exactly
where it is admitted, and otherwise none, with the fault that its form or its snapshot gives, in
whatever order that names the fields of the form. The answer to a call that is made is handed on as
it is. -/
theorem calls_behind_lock :
    (∀ (record : RuleRecord) (enabled : Bool),
        Gated (record.lock.isLockHolder = true)
          (fun fault => record.lock.isLockHolder = false
            ∧ fault = .lockNotHeld record.id record.lock.holderName)
          (.setEnabled record.id enabled) fun _ store => setEnabled store record enabled)
      ∧ (∀ record : RuleRecord,
        Gated (record.lock.isLockHolder = true)
          (fun fault => record.lock.isLockHolder = false
            ∧ fault = .lockNotHeld record.id record.lock.holderName)
          (.deleteRecord record.id) fun _ store => delete store record)
      ∧ ∀ (form : RuleForm) (current : Option RuleRecord) (order : LineOrder),
        Gated (SaveAdmitted form current) (SaveRefused form current order) (.saveRecord form)
          fun _ store => save store form current order :=
  ⟨fun record enabled => gated_guarded record (.setEnabled record.id enabled),
    fun record => gated_guarded record (.deleteRecord record.id), gated_save⟩

end Console
end Whitelist
