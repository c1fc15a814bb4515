import Whitelist.Proofs.Remote.Faults

/-!
# What the answer to a grab tells

A server answers a grab with the lock state, as an object, or with something that tells none; then
the record is read for it. Which object is a lock state is left to the reader of lock states, and to
that reader every member has a default: an object that does not say who holds the lock is taken to
say that the caller does not.

## What is here

* `Json.nodup_collapseMembers`, `Wire.slot_of_nodup` — an object in which no name is repeated, and
  what it has for a field.
* `NamesHolder`, `statusIn_eq_some_iff` — the objects that are taken for a lock state, and for
  which.
* `read_of_attempts`, `read_of_content`, `nodup_of_received` — what a grab is answered with was read
  from a body, so it repeats no name.
* `grabLock_on_received` — a grab goes by the content of its answer.
* `grab_goes_by_object` — the same, content by content; `empty_object_taken_for_no` is a lock state
  that no server has told.

The content of the answer is kept as it was read (`Envelope Json`), because whether it is an object
decides how the grab goes on. Reading a body collapses repeated members, the last one winning, so
that an object that comes out of a body has each name once (`nodup_of_received`). On such objects a
slot is simply the value of a name, if there is one, and the reader of lock states can be described
by its two fields (`statusIn_eq_some_iff`).

Both fields have a default. It is the default that makes the empty object a lock state, one that
says that the caller does not hold the lock.
-/

set_option autoImplicit false
namespace Whitelist

/-! ## Objects in which no name is repeated

Without this the fields could not be looked up by name: a field that is given twice cannot be read
at all. -/

theorem Json.mem_names_of_collapse {name : String} {members : List (String × Json)}
    (h : name ∈ (collapseMembers members).map Prod.fst) : name ∈ members.map Prod.fst := by
  induction members with
  | nil => exact h
  | cons m rest ih =>
    rw [collapseMembers] at h
    split at h
    · exact List.mem_cons_of_mem _ (ih h)
    · rcases List.mem_cons.mp h with rfl | h
      · exact List.mem_cons_self
      · exact List.mem_cons_of_mem _ (ih h)

/-- Of several members of one name the last is kept. -/
theorem Json.nodup_collapseMembers (members : List (String × Json)) :
    ((collapseMembers members).map Prod.fst).Nodup := by
  induction members with
  | nil => exact .nil
  | cons m rest ih =>
    rw [collapseMembers]
    split
    · exact ih
    · rename_i hlast
      refine List.nodup_cons.mpr ⟨fun hmem => hlast ?_, ih⟩
      obtain ⟨other, hother, hname⟩ := List.mem_map.mp (mem_names_of_collapse hmem)
      exact List.any_eq_true.mpr ⟨other, hother, decide_eq_true hname⟩

namespace Wire

variable {members : List (String × Json)} {found : Option Json}

/-- The one member of a name, if there is one. -/
theorem filter_of_nodup (h : (members.map Prod.fst).Nodup) (name : String) :
    members.filter (fun m => decide (m.1 ∈ [name]))
      = (members.lookup name).toList.map (name, ·) := by
  induction members with
  | nil => rfl
  | cons m rest ih =>
    obtain ⟨hfirst, hrest⟩ := List.nodup_cons.mp h
    rw [List.lookup_cons]
    by_cases hname : m.1 = name
    · obtain ⟨found, value⟩ := m
      obtain rfl : found = name := hname
      have hnone : rest.filter (fun m => decide (m.1 ∈ [found])) = [] :=
        List.filter_eq_nil_iff.mpr fun other hother hsame => hfirst
          (List.mem_map.mpr ⟨other, hother, List.mem_singleton.mp (of_decide_eq_true hsame)⟩)
      rw [List.filter_cons_of_pos (by simp), hnone]
      simp
    · have hother : (name == m.1) = false := beq_eq_false_iff_ne.mpr (Ne.symm hname)
      rw [List.filter_cons_of_neg (by simpa using hname), ih hrest, hother]

/-- What an object has for a field. -/
def slotIn (found : Option Json) : Slot := found.elim .absent .given

/-- The slot of a field with one name. -/
theorem slot_of_nodup (h : (members.map Prod.fst).Nodup) (name : String) :
    slot members [name] = some (slotIn (members.lookup name)) := by
  rw [slot, filter_of_nodup h name]
  cases members.lookup name <;> rfl

/-- A flag may be missing, and has its default then. -/
theorem withDefault_asBool_iff {b fallback : Bool} :
    withDefault fallback asBool (slotIn found) = some b
      ↔ found = some (.bool b) ∨ found = none ∧ b = fallback := by
  cases found with
  | none => simp [slotIn, withDefault, eq_comm]
  | some value => cases value <;> simp [slotIn, withDefault, asBool]

/-- A text may be missing or null, and is none then. -/
theorem optionalOrNone_asString_iff {text : Option String} :
    optionalOrNone asString (slotIn found) = some text
      ↔ found = some (ofOptional .str text) ∨ found = none ∧ text = none := by
  cases found with
  | none => simp [slotIn, optionalOrNone, withDefault, eq_comm]
  | some value =>
    cases value <;> cases text <;>
      simp [slotIn, optionalOrNone, withDefault, nullable, asString, ofOptional]

/-- A field that is given was read from its value. -/
theorem read_of_optional {α : Type} {read : Json → Option α} {slot : Slot} {a : α}
    (h : optional read slot = some (some a)) : ∃ value, read value = some a := by
  cases slot with
  | given value =>
    have hnullable : nullable read value = some (some a) := h
    unfold nullable at hnullable
    split at hnullable
    · cases hnullable
    · obtain ⟨b, hread, hb⟩ := Option.map_eq_some_iff.mp hnullable
      exact ⟨_, hread.trans hb⟩
  | absent => cases h
  | cut => cases h

end Wire

namespace Remote

open Client Wire

variable {τ α β : Type} {settings : ClientSettings} {transport : Transport τ}

/-! ## Objects that are taken for a lock state -/

/-- The object tells the name of the holder: a text, or null, or nothing at all, for none. -/
def NamesHolder (members : List (String × Json)) (name : Option String) : Prop :=
  members.lookup "lockHolderName" = some (ofOptional .str name)
    ∨ members.lookup "lockHolderName" = none ∧ name = none

/-- An object is taken for a lock state unless it has something else for one of the two fields. -/
theorem statusIn_eq_some_iff {members : List (String × Json)}
    (h : (members.map Prod.fst).Nodup) {status : LockStatus} :
    statusIn (some (.obj members)) = some status
      ↔ (members.lookup "isLockHolder" = some (.bool status.isLockHolder)
          ∨ members.lookup "isLockHolder" = none ∧ status.isLockHolder = false)
        ∧ NamesHolder members status.holderName := by
  have hslots : slots LockStatus.layout (.obj members)
      = some [slotIn (members.lookup "isLockHolder"),
          slotIn (members.lookup "lockHolderName")] := by
    show List.mapM (slot members) [["isLockHolder"], ["lockHolderName"]] = _
    simp [slot_of_nodup h]
  have hstatus : statusIn (some (.obj members)) = LockStatus.ofSlots
      (slotIn (members.lookup "isLockHolder")) (slotIn (members.lookup "lockHolderName")) := by
    rw [statusIn, LockStatus.ofJson?, hslots]
    rfl
  rw [hstatus, NamesHolder, ← withDefault_asBool_iff, ← optionalOrNone_asString_iff,
    LockStatus.ofSlots]
  obtain ⟨isLockHolder, holderName⟩ := status
  cases withDefault false asBool (slotIn (members.lookup "isLockHolder")) with
  | none => simp
  | some b =>
    cases optionalOrNone asString (slotIn (members.lookup "lockHolderName")) <;> simp

/-! ## What a grab is answered with

These lemmas go back from what a call has made of an answer to the body of that answer. -/

/-- What a request brings was read from a body. -/
theorem read_of_attempts {read : Json → Option α} {ask : Ask} {left : Nat}
    {lastError : Option HttpError} {link later : Link τ} {a : α}
    (h : (attempts settings transport read ask left lastError).on link = (.ok a, later)) :
    ∃ json, read json = some a := by
  have haccept {request : Request} {response : Response}
      (hok : accept read request response = .ok a) : ∃ json, read json = some a := by
    rw [accept] at hok
    split at hok
    · obtain ⟨json, -, hread⟩ := Option.bind_eq_some_iff.mp ((decode_eq_ok request).mp hok)
      exact ⟨json, hread⟩
    · cases hok
  induction left generalizing link lastError with
  | zero =>
    rw [attempts_on_zero] at h
    cases h
  | succ left ih =>
    rw [attempts_on_succ] at h
    split at h
    · cases h
    · split at h
      · exact ih h
      · split at h
        · split at h
          · cases h
          · exact ih h
        · exact haccept (Prod.ext_iff.mp h).1

/-- The content of an envelope was read from a value. -/
theorem read_of_content {read : Json → Option α} {json : Json} {envelope : Envelope α} {a : α}
    (h : Envelope.ofJson? read json = some envelope) (hcontent : envelope.content = some a) :
    ∃ value, read value = some a := by
  rw [Envelope.ofJson?] at h
  obtain ⟨found, -, h⟩ := Option.bind_eq_some_iff.mp h
  split at h
  · obtain ⟨code, -, h⟩ := Option.bind_eq_some_iff.mp h
    obtain ⟨message, -, h⟩ := Option.bind_eq_some_iff.mp h
    obtain ⟨content, hslot, h⟩ := Option.bind_eq_some_iff.mp h
    obtain rfl := Option.some_inj.mp h
    obtain rfl : content = some a := hcontent
    exact read_of_optional hslot
  · cases h

/-- What a grab is answered with repeats no name, if it is an object. -/
theorem nodup_of_received {id : Int64} {link between : Link τ} {envelope : Envelope Json}
    (h : (grabbing id).received settings transport link = (.ok envelope, between))
    {members : List (String × Json)} (hcontent : envelope.content = some (.obj members)) :
    (members.map Prod.fst).Nodup := by
  obtain ⟨json, hread⟩ := read_of_attempts h
  obtain ⟨value, hvalue⟩ := read_of_content hread hcontent
  have hcollapse : anyValue value = some (.obj members) := hvalue
  rw [anyValue] at hcollapse
  split at hcollapse
  · cases value with
    | obj written =>
      obtain rfl := Json.obj.inj (Option.some_inj.mp hcollapse)
      exact Json.nodup_collapseMembers written
    | _ => cases Option.some_inj.mp hcollapse
  · cases hcollapse

/-! ## Grabs

A grab is two requests at most. The second one reads the record, and is made only where the content
of the first answer was taken for no lock state. -/

/-- **A grab goes by the content of its answer**: it is the lock state that this is taken for, and
where it is taken for none, the record is read once. -/
theorem grabLock_on_received {id : Int64} {link between : Link τ} {envelope : Envelope Json}
    (h : (grabbing id).received settings transport link = (.ok envelope, between))
    (hcode : envelope.code = Envelope.successCode) :
    ((store settings transport).answer (.grabLock id)).on link
      = match statusIn envelope.content with
        | some status => (.ok status, between)
        | none =>
          ((((store settings transport).answer (.getRecord id)).on between).1.map (·.lock),
            (((store settings transport).answer (.getRecord id)).on between).2) := by
  have hsettle : (grabbing id).settle envelope = .ok (statusIn envelope.content) := by
    have hsuccess : envelope.isSuccess = true := decide_eq_true hcode
    rw [Endpoint.settle, contentOf, if_pos hsuccess]
    rfl
  have hgrab : (attempt ((grabbing id).dialog settings transport)).on link
      = (.ok (statusIn envelope.content), between) := by
    rw [attempt_dialog_on, h]
    show ((grabbing id).settle envelope |>.mapError ClientError.fault, between) = _
    rw [hsettle]
    rfl
  rw [grabLock_on, hgrab]
  cases statusIn envelope.content with
  | none => exact attempt_reading_on id (·.lock) between
  | some status => rfl

/-- **A grab tells what an object tells, and takes its silence for a no.** Where the answer says
success and its content is an object, the grab reports what that object says of the lock, without
another request. An object that does not say who holds the lock is taken to say that the caller does
not; nothing is asked about it. Only where the content is no object, or has something else for one
of the two fields, is the record read, once, and the lock state reported is that of the record. -/
theorem grab_goes_by_object (settings : ClientSettings) (transport : Transport τ)
    (link between : Link τ) (id : Int64) (envelope : Envelope Json)
    (hgrab : (grabbing id).received settings transport link = (.ok envelope, between))
    (hcode : envelope.code = 200) :
    let grab := ((store settings transport).answer (.grabLock id)).on link
    let read := ((store settings transport).answer (.getRecord id)).on between
    (∀ members b name, envelope.content = some (.obj members) →
        members.lookup "isLockHolder" = some (.bool b) → NamesHolder members name →
        grab = (.ok ⟨b, name⟩, between))
      ∧ (∀ members name, envelope.content = some (.obj members) →
        members.lookup "isLockHolder" = none → NamesHolder members name →
        grab = (.ok ⟨false, name⟩, between))
      ∧ ((∀ members name, envelope.content = some (.obj members) → NamesHolder members name →
          ∃ value, members.lookup "isLockHolder" = some value ∧ ∀ b, value ≠ .bool b) →
        grab = (read.1.map (·.lock), read.2)) := by
  intro grab read
  have hon : grab = match statusIn envelope.content with
      | some status => (.ok status, between)
      | none => (read.1.map (·.lock), read.2) := grabLock_on_received hgrab hcode
  have told {members : List (String × Json)} {status : LockStatus}
      (hcontent : envelope.content = some (.obj members))
      (hholder : members.lookup "isLockHolder" = some (.bool status.isLockHolder)
        ∨ members.lookup "isLockHolder" = none ∧ status.isLockHolder = false)
      (hname : NamesHolder members status.holderName) : grab = (.ok status, between) := by
    have hnodup := nodup_of_received hgrab hcontent
    have hstatus : statusIn envelope.content = some status := by
      rw [hcontent]
      exact (statusIn_eq_some_iff hnodup).mpr ⟨hholder, hname⟩
    rw [hon, hstatus]
  refine ⟨fun members b name hcontent hholder hname => told hcontent (.inl hholder) hname,
    fun members name hcontent hsilent hname => told hcontent (.inr ⟨hsilent, rfl⟩) hname,
    fun hother => ?_⟩
  have hnone : statusIn envelope.content = none := by
    cases hcontent : envelope.content with
    | none => rfl
    | some content =>
      cases content with
      | obj members =>
        rw [Option.eq_none_iff_forall_ne_some]
        intro status hstatus
        obtain ⟨hholder, hname⟩ :=
          (statusIn_eq_some_iff (nodup_of_received hgrab hcontent)).mp hstatus
        obtain ⟨value, hvalue, hnot⟩ := hother members _ hcontent hname
        rw [hvalue] at hholder
        rcases hholder with hbool | ⟨hsilent, -⟩
        · exact hnot _ (Option.some_inj.mp hbool)
        · cases hsilent
      | _ => rfl
  rw [hon, hnone]

/-- The record after a grab: the caller holds its lock. -/
def grabbed : RuleRecord := { id := 7, lock := .heldByCaller "Alice" }

/-- A grab that is answered with this content, and the record behind it. -/
def grabAnswered (content : Json) : Transport.Script :=
  { answers := [some ⟨200, successText none content⟩,
      some ⟨200, successText none grabbed.toJson⟩] }

/-- What comes of a request to the one server, if it is answered with this content. -/
theorem received_oneServer (endpoint : Endpoint α β) {content : Json} {a : Option α}
    {rest : List (Option Response)} {request : Request}
    (hrequest : requestTo oneServer endpoint.ask none (serverAhead oneServer {} 0) = .ok request)
    (hread : nullable endpoint.read content = some a) (hexact : content.Exact contentLevels)
    (received : List Request) :
    endpoint.received oneServer Transport.scripted
        ⟨{}, ⟨some ⟨200, successText none content⟩ :: rest, received⟩⟩
      = (.ok ⟨Envelope.successCode, none, a⟩, ⟨{}, ⟨rest, received ++ [request]⟩⟩) := by
  have htoken (network : Transport.Script) :
      (ensureToken oneServer Transport.scripted).on ⟨{}, network⟩ = (.ok none, ⟨{}, network⟩) :=
    ensureToken_on_of_not_logsIn rfl
  rw [← accept_successText hread hexact request]
  exact attempts_on_answered (htoken _) hrequest rfl (by simp [oneServer, ClientSettings.logsIn])

/-- The server answers the grab with an empty object. -/
theorem received_emptyObject : ∃ request,
    (grabbing 7).received oneServer Transport.scripted ⟨{}, grabAnswered (.obj [])⟩
      = (.ok ⟨Envelope.successCode, none, some (.obj [])⟩,
        ⟨{}, ⟨[some ⟨200, successText none grabbed.toJson⟩], [request]⟩⟩) := by
  have hok : (requestTo oneServer (askOf (.grabLock 7)) none (serverAhead oneServer {} 0)).isOk
      = true := by decide +kernel
  have hexact : (Json.obj []).Exact contentLevels := .obj nofun
  obtain ⟨request, hrequest⟩ := exists_of_isOk hok
  exact ⟨request, received_oneServer (grabbing 7) hrequest rfl hexact []⟩

/-- That is taken for a no. -/
theorem grab_goes_by_object_empty : ∃ between,
    (grabbing 7).received oneServer Transport.scripted ⟨{}, grabAnswered (.obj [])⟩
        = (.ok ⟨Envelope.successCode, none, some (.obj [])⟩, between)
      ∧ ((store oneServer Transport.scripted).answer (.grabLock 7)).on
          ⟨{}, grabAnswered (.obj [])⟩
        = (.ok ⟨false, none⟩, between) := by
  obtain ⟨request, hgrab⟩ := received_emptyObject
  obtain ⟨-, hsilent, -⟩ := grab_goes_by_object oneServer Transport.scripted _ _ 7 _ hgrab rfl
  exact ⟨_, hgrab, hsilent [] none rfl rfl (.inr ⟨rfl, rfl⟩)⟩

/-- That an object says nothing of the lock is not enough for the record to be read. -/
theorem empty_object_taken_for_no :
    ¬ ∀ (settings : ClientSettings) (σ : Type) (transport : Transport σ) (link between : Link σ)
      (id : Int64) (envelope : Envelope Json),
      (grabbing id).received settings transport link = (.ok envelope, between) →
      envelope.code = 200 →
      (∃ members b, envelope.content = some (.obj members)
          ∧ members.lookup "isLockHolder" = some (.bool b))
        ∨ ((store settings transport).answer (.grabLock id)).on link
          = ((((store settings transport).answer (.getRecord id)).on between).1.map (·.lock),
            (((store settings transport).answer (.getRecord id)).on between).2) := by
  intro hall
  have hok : (requestTo oneServer (askOf (.getRecord 7)) none (serverAhead oneServer {} 0)).isOk
      = true := by decide +kernel
  obtain ⟨second, hsecond⟩ := exists_of_isOk hok
  obtain ⟨first, hgrab⟩ := received_emptyObject
  have hrecord : ((store oneServer Transport.scripted).answer (.getRecord 7)).on
      ⟨{}, ⟨[some ⟨200, successText none grabbed.toJson⟩], [first]⟩⟩
      = (.ok grabbed, ⟨{}, ⟨[], [first, second]⟩⟩) := by
    rw [answer_eq (.getRecord 7) nofun, attempt_dialog_on,
      received_oneServer (endpointOf (.getRecord 7)) hsecond
        (nullable_write RuleRecord.toJson RuleRecord.ofJson? grabbed)
        (exact_contentFor (.getRecord 7) grabbed) [first]]
    rfl
  rcases hall oneServer _ Transport.scripted _ _ 7 _ hgrab rfl
    with ⟨members, b, hobj, hstated⟩ | hread
  · obtain rfl : [] = members := Json.obj.inj (Option.some_inj.mp hobj)
    cases hstated
  · rw [grabLock_on_received hgrab rfl, hrecord] at hread
    have hsame : (.ok ⟨false, none⟩ : Except Fault LockStatus) = .ok grabbed.lock :=
      (Prod.ext_iff.mp hread).1
    exact absurd (Except.ok.inj hsame) (by decide)

end Remote
end Whitelist
