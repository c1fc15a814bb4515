import Mathlib.Data.List.Basic
import Whitelist.CommandLine.Run
import Whitelist.Proofs.Console.Gateway
import Whitelist.Proofs.Store.Run
import Whitelist.Proofs.Transcript

/-!
# What a command asks of a store

A command is carried out over a store that may answer anything. Most commands only read. Those that
change a record read it first, and whatever stops them on the way, be it an item that cannot be
read, a file that is not there, a form that is not right or a lock that somebody else holds, stops
them before the one call that changes something.

## What is here

* `items_numbered` — the items of a form are the given texts, numbered 1, 2, 3, … in order.
* `Command.record?`, `Makes` — the record that a command names, and the change that it is to make.
* `Trail` — the transcripts that a command may leave. `run_trail` says that there are no others.
* `changes_behind_snapshot` — at most one change, and only behind a fresh snapshot that affirms the
  lock.

A store that writes its calls down (`RuleStore.transcribed`) stands beside the plain one, and
`Transcribes` says that the two go through the same answers while the first leaves a list of
exchanges. A command is put together by `bind` from calls, and `Transcribes.bind` puts its
transcript together in the same way, so that the proof goes through the commands as they are
written. Nothing is assumed of the store: it may answer one call in one way and the next in another,
and it may refuse anything.

Only `save`, `enable`, `disable` and `delete` change records. The first of these is the one with a
choice in it, since a form without an id creates a record and reads none.
-/

set_option autoImplicit false
namespace Whitelist.CommandLine

variable {σ α : Type}

/-! ## Items

The commands take config items as texts, and their ids from the order of the texts. An item that
cannot be read spoils the whole form, before any call. -/

/-- The text can be read as a config item, under whatever id. -/
def IsItem (text : String) : Prop := ∃ id item, ConfigItem.ofText id text = .ok item

/-- An item has the id that it is read with. -/
theorem id_of_ofText {id : UInt32} {text : String} {item : ConfigItem}
    (h : ConfigItem.ofText id text = .ok item) : item.id = id := by
  unfold ConfigItem.ofText at h
  dsimp only at h
  split at h
  · cases h
  · rename_i key operator value _
    cases hname : Operator.ofName (.ofList (Text.trim operator)) with
    | error fault =>
      rw [hname] at h
      cases h
    | ok op =>
      rw [hname] at h
      cases h
      rfl

/-- Each text is read with its number. -/
theorem itemsFrom_eq_ok {texts : List String} {n : Nat} {items : List ConfigItem}
    (h : itemsFrom (.ofNat n) texts = .ok items) :
    (texts.zipIdx n).map (fun (text, number) => ConfigItem.ofText (.ofNat number) text)
      = items.map .ok := by
  induction texts generalizing n items with
  | nil =>
    cases h
    rfl
  | cons text rest ih =>
    have hnext : UInt32.ofNat n + 1 = .ofNat (n + 1) := (UInt32.ofNat_add n 1).symm
    rw [itemsFrom, hnext] at h
    cases hitem : ConfigItem.ofText (.ofNat n) text with
    | error fault =>
      rw [hitem] at h
      cases h
    | ok item =>
      cases hothers : itemsFrom (.ofNat (n + 1)) rest with
      | error fault =>
        rw [hitem, hothers] at h
        cases h
      | ok others =>
        rw [hitem, hothers] at h
        cases h
        rw [List.zipIdx_cons, List.map_cons, List.map_cons, ih hothers]
        exact congrArg (· :: _) hitem

/-- The ids of items that were read so are the numbers. -/
theorem map_id_of_numbered {texts : List String} {n : Nat} {items : List ConfigItem}
    (h : (texts.zipIdx n).map (fun (text, number) => ConfigItem.ofText (.ofNat number) text)
      = items.map .ok) :
    items.map (·.id) = (List.range' n texts.length).map .ofNat := by
  induction texts generalizing n items with
  | nil =>
    simp at h
    simp [h]
  | cons text rest ih =>
    cases items with
    | nil => simp at h
    | cons item others =>
      simp only [List.zipIdx_cons, List.map_cons, List.cons.injEq] at h
      simp [List.range'_succ, id_of_ofText h.1, ih h.2]

/-- The items of a form are the given texts, read in order with the ids 1, 2, 3, … -/
theorem items_numbered {files : Files} {draft : Draft} {form : RuleForm}
    (h : draft.form files = .ok form) :
    form.id = draft.id
      ∧ (draft.items.zipIdx 1).map
          (fun (text, number) => ConfigItem.ofText (.ofNat number) text)
        = form.content.items.map .ok := by
  rw [Draft.form] at h
  cases hitems : itemsFrom 1 draft.items with
  | error fault =>
    rw [hitems] at h
    cases h
  | ok items =>
    rw [hitems] at h
    cases hpolicy : policyOf files draft.policyFile with
    | error e =>
      simp [hpolicy, Except.map] at h
    | ok policy =>
      simp only [hpolicy, Except.map, Except.ok.injEq] at h
      subst h
      exact ⟨rfl, itemsFrom_eq_ok hitems⟩

/-- A draft with a text that is no item has no form. -/
theorem isItem_of_form {files : Files} {draft : Draft} {form : RuleForm}
    (h : draft.form files = .ok form) : ∀ text ∈ draft.items, IsItem text := by
  intro text htext
  obtain ⟨-, hitems⟩ := items_numbered h
  rw [← List.zipIdx_map_fst 1 draft.items] at htext
  obtain ⟨⟨_, number⟩, hpair, rfl⟩ := List.mem_map.mp htext
  have hread := List.mem_map_of_mem
    (f := fun (text, number) => ConfigItem.ofText (.ofNat number) text) hpair
  rw [hitems] at hread
  obtain ⟨item, -, hitem⟩ := List.mem_map.mp hread
  exact ⟨_, item, hitem.symm⟩

/-! ## Changes

`Makes` says which change a command stands for, given the snapshot that it was made behind. It
carries the form that was read from the draft together with the check that it has passed, so that a
trail with a save in it is evidence of both. -/

/-- The record that is named on the command line. -/
def Command.record? : Command → Option Int64
  | display id | grab id | release id | enable id | disable id | delete id => some id
  | save draft => draft.id
  | groups .. | codes | detail .. | operators | actions _ => none

variable {files : Files} {command : Command}

/-- The call by which a command changes something: behind the record that it has read, or without
one, to create one. A form is sent only if it is right. -/
inductive Makes (files : Files) : Command → Option RuleRecord → StoreCall → Prop
  | enable {id : Int64} (record : RuleRecord) :
      Makes files (.enable id) (some record) (.setEnabled record.id true)
  | disable {id : Int64} (record : RuleRecord) :
      Makes files (.disable id) (some record) (.setEnabled record.id false)
  | delete {id : Int64} (record : RuleRecord) :
      Makes files (.delete id) (some record) (.deleteRecord record.id)
  | update {draft : Draft} {form : RuleForm} {record : RuleRecord}
      (hform : draft.form files = .ok form) (hcheck : form.check = .ok ())
      (hid : form.id = some record.id) : Makes files (.save draft) (some record) (.saveRecord form)
  | create {draft : Draft} {form : RuleForm} (hform : draft.form files = .ok form)
      (hcheck : form.check = .ok ()) (hid : form.id = none) :
      Makes files (.save draft) none (.saveRecord form)

/-- The transcripts that a command may leave: nothing changes, a record is created, or the record
that the command names is read, found to be locked for the caller, and changed. -/
inductive Trail (files : Files) (command : Command) : List Exchange → Prop
  | reading {log : List Exchange} (hreads : ∀ entry ∈ log, entry.call.isMutation = false) :
      Trail files command log
  | created {change : Exchange} (hmakes : Makes files command none change.call) :
      Trail files command [change]
  | changed {id : Int64} {record : RuleRecord} {change : Exchange}
      (hnamed : command.record? = some id) (hheld : record.lock.isLockHolder = true)
      (hmakes : Makes files command (some record) change.call) :
      Trail files command [⟨.getRecord id, .ok record⟩, change]

/-- A change that a guard lets through is one call, behind a record with the lock; and otherwise
there is none. -/
def Guarded (files : Files) (command : Command) (record : RuleRecord) (log : List Exchange) :
    Prop :=
  log = [] ∨ ∃ change : Exchange, log = [change] ∧ record.lock.isLockHolder = true
    ∧ Makes files command (some record) change.call

/-- Enabling, disabling and deleting go through one guard, which looks at nothing but the snapshot.
-/
theorem transcribes_guarded (store : RuleStore σ) {record : RuleRecord} {call : StoreCall}
    (hmakes : Makes files command (some record) call) :
    Transcribes (Console.guarded record (store.answer call))
      (Console.guarded record (store.transcribed.answer call))
      fun more _ => Guarded files command record more := by
  cases hheld : record.lock.isLockHolder with
  | true =>
    refine ((Transcribes.answer store call).congr
      (fun s => Console.guarded_on_of_held _ s hheld)
      (fun s => Console.guarded_on_of_held _ s hheld)).mono ?_
    rintro more outcome rfl
    exact .inr ⟨_, rfl, hheld, hmakes⟩
  | false =>
    refine (Transcribes.of_refused (fun s => Console.guarded_on_of_other _ s hheld)
      (fun s => Console.guarded_on_of_other _ s hheld)).mono ?_
    rintro more outcome rfl
    exact .inl rfl

/-- A save that is admitted is one call. -/
theorem transcribes_save (store : RuleStore σ) (form : RuleForm) (current : Option RuleRecord)
    (order : LineOrder) :
    Transcribes (Console.save store form current order)
      (Console.save store.transcribed form current order)
      fun more outcome => more = []
        ∨ Console.SaveAdmitted form current ∧ more = [⟨.saveRecord form, outcome⟩] := by
  rcases Console.admitted_or_refused form current order with hadmitted | ⟨fault, hrefused⟩
  · refine ((Transcribes.answer store (.saveRecord form)).congr
      (fun s => Console.save_on_of_admitted store s hadmitted)
      (fun s => Console.save_on_of_admitted store.transcribed s hadmitted)).mono ?_
    intro more outcome hmore
    exact .inr ⟨hadmitted, hmore⟩
  · refine (Transcribes.of_refused (fun s => Console.save_on_of_refused store s hrefused)
      (fun s => Console.save_on_of_refused store.transcribed s hrefused)).mono ?_
    intro more outcome hmore
    exact .inl hmore

/-- A save with an id, behind a record that was read. -/
theorem transcribes_update (store : RuleStore σ) {draft : Draft} {form : RuleForm}
    (hform : draft.form files = .ok form) {id : Int64} (hid : form.id = some id)
    (record : RuleRecord) (order : LineOrder) :
    Transcribes (Console.save store form (some record) order)
      (Console.save store.transcribed form (some record) order)
      fun more _ => Guarded files (.save draft) record more := by
  refine (transcribes_save store form (some record) order).mono ?_
  rintro more outcome (rfl | ⟨hadmitted, rfl⟩)
  · exact .inl rfl
  · cases hadmitted with
    | creation hcheck hnone =>
      rw [hid] at hnone
      cases hnone
    | update hcheck hcurrent hrecord hheld =>
      obtain rfl := Option.some_inj.mp hcurrent
      exact .inr ⟨_, rfl, hheld, .update hform hcheck hrecord⟩

/-- A save without an id. -/
theorem transcribes_create (store : RuleStore σ) {draft : Draft} {form : RuleForm}
    (hform : draft.form files = .ok form) (hid : form.id = none) (order : LineOrder) :
    Transcribes (Console.save store form none order)
      (Console.save store.transcribed form none order)
      fun more _ => Trail files (.save draft) more := by
  refine (transcribes_save store form none order).mono ?_
  rintro more outcome (rfl | ⟨hadmitted, rfl⟩)
  · exact .reading (by simp)
  · cases hadmitted with
    | creation hcheck _ => exact .created (.create hform hcheck hid)
    | update _ hcurrent => cases hcurrent

/-- Whatever is done behind a record that is read first: if the record is refused, nothing is
done. -/
theorem transcribes_behind (store : RuleStore σ) {id : Int64}
    (hnamed : command.record? = some id) {change : RuleRecord → Attempt σ α}
    {change' : RuleRecord → Attempt (σ × List Exchange) α}
    (hchange : ∀ record, Transcribes (change record) (change' record)
      fun more _ => Guarded files command record more) :
    Transcribes (store.getRecord id >>= change) (store.transcribed.getRecord id >>= change')
      fun more _ => Trail files command more := by
  have hreading (answer : Except Fault RuleRecord) :
      ∀ entry ∈ [(⟨.getRecord id, answer⟩ : Exchange)], entry.call.isMutation = false := by
    intro entry hentry
    rw [List.mem_singleton.mp hentry]
    rfl
  refine ((Transcribes.answer store (.getRecord id)).bind hchange).mono ?_
  rintro more outcome (⟨fault, -, rfl⟩ | ⟨record, first, second, rfl, rfl, hsecond⟩)
  · exact .reading (hreading _)
  · rcases hsecond with rfl | ⟨change, rfl, hheld, hmakes⟩
    · exact .reading (hreading _)
    · exact .changed hnamed hheld hmakes

/-! ## Commands that only read

The walk through the pages of options has no bound that is known beforehand, so its lemma is by the
recursion of the walk. -/

/-- The call changes nothing. -/
def IsReading (call : StoreCall) : Prop := call.isMutation = false

/-- Calls that change nothing leave a trail of any command. -/
theorem trail_of_reading {plain : Attempt σ α} {noted : Attempt (σ × List Exchange) α}
    (h : CallsOnly IsReading plain noted) :
    Transcribes plain noted fun more _ => Trail files command more := by
  refine h.mono ?_
  intro more outcome hmore
  exact .reading hmore

/-- The upper level asks for groups and does nothing else. -/
theorem listGroups_reads (store : RuleStore σ) (filter : GroupQuery) (page size : UInt64) :
    CallsOnly IsReading (Console.listGroups store filter page size)
      (Console.listGroups store.transcribed filter page size) := by
  unfold Console.listGroups
  exact .bind (.answer store rfl) fun _ => .pure _

/-- The lower level asks for records and does nothing else. -/
theorem listDetail_reads (store : RuleStore σ) (code : String) (name : Option String)
    (page size : UInt64) :
    CallsOnly IsReading (Console.listDetail store code name page size)
      (Console.listDetail store.transcribed code name page size) := by
  unfold Console.listDetail
  exact .bind (.answer store rfl) fun _ => .pure _

/-- The walk through the pages only reads, however many pages there are. -/
theorem optionsFrom_reads (store : RuleStore σ) (size page : UInt64)
    (found : List Console.CodeOption) :
    CallsOnly IsReading (Console.optionsFrom store size page found)
      (Console.optionsFrom store.transcribed size page found) := by
  induction page, found using Console.optionsFrom.induct with
  | case1 page found ih =>
    rw [Console.optionsFrom, Console.optionsFrom]
    refine .bind (listGroups_reads store {} page size) ?_
    intro answer
    dsimp only
    split
    · exact .pure _
    · rename_i hmore
      exact ih answer hmore

/-! ## All commands

`RunsAs` is what a command line sees of `Transcribes`: exit code and output instead of an answer. -/

/-- Over a store that writes its calls down, the run reports the same and leaves the same store, and
what was written down is as `P` says. -/
def RunsAs (plain : Run σ) (noted : Run (σ × List Exchange)) (P : List Exchange → Prop) : Prop :=
  ∀ s : σ, ∃ log, noted.run (s, []) = ((plain.run s).1, ((plain.run s).2, log)) ∧ P log

/-- Printing an answer, or a fault, adds no calls. -/
theorem runsAs_printed {P : List Exchange → Prop} {plain : Attempt σ α}
    {noted : Attempt (σ × List Exchange) α} (h : Transcribes plain noted fun more _ => P more)
    (write : α → List String) : RunsAs (printed write plain) (printed write noted) P := by
  intro s
  obtain ⟨more, hon, hmore⟩ := h s []
  refine ⟨more, ?_, hmore⟩
  show printed write noted (s, []) = ((printed write plain s).1, ((printed write plain s).2, more))
  rw [List.nil_append] at hon
  unfold printed
  rw [hon]
  rcases plain.on s with ⟨_ | _, _⟩ <;> rfl

/-- Neither does a report that is made without a store. -/
theorem runsAs_reported (report : Report) :
    RunsAs (σ := σ) (reported report) (reported report) (Trail files command) := by
  intro s
  exact ⟨[], rfl, .reading (by simp)⟩

/-- A command that asks for one thing. -/
theorem runsAs_asked (store : RuleStore σ) (call : StoreCall) (hreads : IsReading call)
    (write : call.Answer → List String) :
    RunsAs (printed write (store.answer call)) (printed write (store.transcribed.answer call))
      (Trail files command) :=
  runsAs_printed (trail_of_reading (.answer store hreads)) write

/-- **Every command leaves a trail**, whatever the store answers. -/
theorem run_trail (store : RuleStore σ) (pageSize : UInt64) (files : Files) (order : LineOrder)
    (command : Command) :
    RunsAs (command.run store pageSize files order)
      (command.run store.transcribed pageSize files order) (Trail files command) := by
  cases command with
  | groups codes page size =>
    exact runsAs_printed (trail_of_reading (listGroups_reads store _ _ _)) _
  | codes => exact runsAs_printed (trail_of_reading (optionsFrom_reads store _ _ _)) _
  | detail code name page size =>
    exact runsAs_printed (trail_of_reading (listDetail_reads store _ _ _ _)) _
  | display id => exact runsAs_asked store (.getRecord id) rfl _
  | grab id => exact runsAs_asked store (.grabLock id) rfl _
  | release id => exact runsAs_asked store (.releaseLock id) rfl _
  | operators => exact runsAs_asked store .operators rfl _
  | enable id =>
    refine runsAs_printed (transcribes_behind store rfl ?_) _
    intro record
    exact transcribes_guarded store (.enable record)
  | disable id =>
    refine runsAs_printed (transcribes_behind store rfl ?_) _
    intro record
    exact transcribes_guarded store (.disable record)
  | delete id =>
    refine runsAs_printed (transcribes_behind store rfl ?_) _
    intro record
    exact transcribes_guarded store (.delete record)
  | actions path => exact runsAs_reported _
  | save draft =>
    rw [Command.run, Command.run]
    cases hform : draft.form files with
    | error e => exact runsAs_reported _
    | ok form =>
      refine runsAs_printed ?_ _
      unfold saveForm
      cases hid : form.id with
      | none => exact transcribes_create store hform hid order
      | some id =>
        have hnamed : (Command.save draft).record? = some id :=
          (items_numbered hform).1.symm.trans hid
        refine transcribes_behind store hnamed ?_
        intro record
        exact transcribes_update store hform hid record order

/-! ## What a trail says -/

/-- What a command changes without a snapshot is a record that it creates. -/
theorem Makes.target?_of_none {call : StoreCall} (h : Makes files command none call) :
    call.target? = none := by
  cases h with
  | create _ _ hid => exact hid

/-- What a command changes behind a snapshot is the record of the snapshot. -/
theorem Makes.target?_of_some {record : RuleRecord} {call : StoreCall}
    (h : Makes files command (some record) call) : call.target? = some record.id := by
  cases h with
  | update _ _ hid => exact hid
  | _ => rfl

/-- A form that is sent is a right form of the draft. -/
theorem Makes.of_save {draft : Draft} {current : Option RuleRecord} {call : StoreCall}
    (h : Makes files (.save draft) current call) :
    ∃ form, draft.form files = .ok form ∧ form.check = .ok () := by
  cases h with
  | update hform hcheck _ => exact ⟨_, hform, hcheck⟩
  | create hform hcheck _ => exact ⟨_, hform, hcheck⟩

/-- Only a draft leads to a form that is sent, and its texts are the items of the form. -/
theorem Makes.draft {form : RuleForm} {current : Option RuleRecord}
    (h : Makes files command current (.saveRecord form)) :
    ∃ draft, command = .save draft ∧ draft.form files = .ok form := by
  cases h with
  | update hform _ _ => exact ⟨_, rfl, hform⟩
  | create hform _ _ => exact ⟨_, rfl, hform⟩

theorem Makes.isMutation {current : Option RuleRecord} {call : StoreCall}
    (h : Makes files command current call) : call.isMutation = true := by
  cases h <;> rfl

namespace Trail

variable {log : List Exchange}

/-- A change in a trail is the one that the command is to make. -/
theorem makes (h : Trail files command log) {entry : Exchange} (hentry : entry ∈ log)
    (hchanges : entry.call.isMutation = true) :
    ∃ current, Makes files command current entry.call := by
  cases h with
  | reading hreads =>
    rw [hreads entry hentry] at hchanges
    cases hchanges
  | created hmakes =>
    rw [List.mem_singleton.mp hentry]
    exact ⟨_, hmakes⟩
  | changed _ _ hmakes =>
    rcases List.mem_cons.mp hentry with rfl | hentry
    · cases hchanges
    · rw [List.mem_singleton.mp hentry]
      exact ⟨_, hmakes⟩

theorem count_le (h : Trail files command log) :
    log.countP (fun entry => entry.call.isMutation) ≤ 1 := by
  cases h with
  | reading hreads =>
    have hnone : log.countP (fun entry => entry.call.isMutation) = 0 := by
      rw [List.countP_eq_zero]
      intro entry hentry
      simp [hreads entry hentry]
    omega
  | created hmakes =>
    rw [List.countP_singleton]
    split <;> omega
  | changed hnamed hheld hmakes =>
    rw [List.countP_cons_of_neg (by simp [StoreCall.isMutation]), List.countP_singleton]
    split <;> omega

/-- Behind which record a change in a trail is made. -/
theorem behind (h : Trail files command log) {before after : List Exchange} {change : Exchange}
    {target : Int64} (hlog : log = before ++ change :: after)
    (htarget : change.call.target? = some target) :
    ∃ earlier id record, before = earlier ++ [⟨.getRecord id, .ok record⟩]
      ∧ command.record? = some id ∧ record.lock.isLockHolder = true ∧ record.id = target := by
  have hentry : change ∈ log := by simp [hlog]
  cases h with
  | reading hreads =>
    have hreading := hreads change hentry
    cases hcall : change.call <;> simp_all [StoreCall.target?, StoreCall.isMutation]
  | created hmakes =>
    rw [List.mem_singleton.mp hentry, hmakes.target?_of_none] at htarget
    cases htarget
  | @changed id record made hnamed hheld hmakes =>
    rcases List.mem_cons.mp hentry with rfl | hentry
    · cases htarget
    · obtain rfl := List.mem_singleton.mp hentry
      have hid := Option.some_inj.mp (hmakes.target?_of_some.symm.trans htarget)
      refine ⟨[], id, record, ?_, hnamed, hheld, hid⟩
      -- The change is the second of two entries, as the first one changes nothing.
      cases before with
      | nil =>
        injection hlog with hfirst _
        subst hfirst
        cases htarget
      | cons first before =>
        injection hlog with hfirst hrest
        cases before with
        | nil =>
          rw [hfirst]
          rfl
        | cons second before => simp at hrest

end Trail

/-! ## The command line -/

/-- **A command changes at most one record, and only behind a fresh snapshot.** Whatever the store
answers, whatever the command was given and in whatever order a wrong form has its fields named: the
run makes at most one call that changes anything. If
that call is for a record that there is already, the call just before it has read the record that
the command line names, the answer says that the caller holds the lock, and the change is made to
the record of that answer. A draft with a text that is no item, or with a form that is not right,
changes nothing. And the items of a form that is saved are the given texts, read with the ids
1, 2, 3, … -/
theorem changes_behind_snapshot (store : RuleStore σ) (pageSize : UInt64) (files : Files)
    (order : LineOrder) (command : Command) (s : σ) : ∃ log,
      (command.run store.transcribed pageSize files order).run (s, [])
        = (((command.run store pageSize files order).run s).1,
          ((command.run store pageSize files order).run s).2, log)
      ∧ log.countP (fun entry => entry.call.isMutation) ≤ 1
      ∧ (∀ before change after target, log = before ++ change :: after →
        change.call.target? = some target →
        ∃ earlier id record, before = earlier ++ [⟨.getRecord id, .ok record⟩]
          ∧ command.record? = some id ∧ record.lock.isLockHolder = true ∧ record.id = target)
      ∧ (∀ draft, command = .save draft →
        (∃ text ∈ draft.items, ¬ IsItem text)
          ∨ (∃ form e, draft.form files = .ok form ∧ form.check = .error e) →
        ∀ entry ∈ log, entry.call.isMutation = false)
      ∧ ∀ entry ∈ log, ∀ form, entry.call = .saveRecord form → ∃ draft, command = .save draft
        ∧ (draft.items.zipIdx 1).map
            (fun (text, number) => ConfigItem.ofText (.ofNat number) text)
          = form.content.items.map .ok
        ∧ form.content.items.map (·.id) = (List.range' 1 draft.items.length).map .ofNat := by
  obtain ⟨log, hrun, htrail⟩ := run_trail store pageSize files order command s
  refine ⟨log, hrun, htrail.count_le, fun before change after target => htrail.behind, ?_, ?_⟩
  · rintro draft rfl hwrong entry hentry
    by_contra hchanges
    obtain ⟨current, hmakes⟩ := htrail.makes hentry (by simpa using hchanges)
    obtain ⟨form, hform, hcheck⟩ := hmakes.of_save
    rcases hwrong with ⟨text, htext, hnone⟩ | ⟨form', e, hform', hfails⟩
    · exact hnone (isItem_of_form hform text htext)
    · rw [hform] at hform'
      cases hform'
      rw [hcheck] at hfails
      cases hfails
  · intro entry hentry form hcall
    obtain ⟨current, hmakes⟩ := htrail.makes hentry (by rw [hcall]; rfl)
    rw [hcall] at hmakes
    obtain ⟨draft, hdraft, hform⟩ := hmakes.draft
    obtain ⟨-, hitems⟩ := items_numbered hform
    exact ⟨draft, hdraft, hitems, map_id_of_numbered hitems⟩

end Whitelist.CommandLine
