import Whitelist.Proofs.Wire.RoundTrip

/-!
# What one type writes and another reads

A form and a record have their content in common, a row and an action all but the number of the row.
Each writes what the other can read: a form with an id is read as a record that nobody has locked
and of which nothing else is known, and a row is read as its action.

## What is here

* `RuleForm.asRecord?`, `RuleForm.read_record` — the record that a form speaks of, and that it is
  read.
* `ActionItem.read_action`, `ActionItem.action_toJson` — rows read as actions, and what is written
  of their actions.
* `siblings_read` — all of it, from texts too.
-/

set_option autoImplicit false
namespace Whitelist

open Wire

/-! ## Forms as records -/

namespace RuleForm

/-- The fields of a record that a form says nothing of. -/
def unsaid : List Field :=
  [("isLockHolder", none), ("lockHolderName", none), ("tenantId", none), ("tenantName", none),
    ("creatorName", none), ("gmtCreate", none), ("gmtModified", none)]

/-- A form writes no member for them. -/
theorem toJson_eq_unsaid (form : RuleForm) :
    form.toJson = .obj (written (form.wireFields ++ unsaid)) := by
  rw [toJson_eq, written_append]
  simp [unsaid, written]

theorem finds_record (form : RuleForm) :
    Finds RuleRecord.layout (form.wireFields ++ unsaid) (form.wireFields ++ unsaid) := rfl

/-- The record that a form speaks of: nobody has locked it, and nothing is known of it but its id
and its content. -/
def asRecord? (form : RuleForm) : Option RuleRecord :=
  form.id.map fun id =>
    { id, content := form.content, lock := .unlocked, tenantId := none, tenantName := none,
      creatorName := none, createdAt := none, modifiedAt := none }

/-- A form is read as the record that it speaks of, and not at all where it has no id. -/
theorem read_record (form : RuleForm) : RuleRecord.ofJson? form.toJson = form.asRecord? := by
  have hslots : memberSlots RuleRecord.layout form.toJson
      = some ((form.wireFields ++ unsaid).map slotOf) := by
    rw [toJson_eq_unsaid]
    exact memberSlots_written form.finds_record rfl
  obtain ⟨_ | id, content⟩ := form
  · rw [RuleRecord.ofJson?, hslots]
    rfl
  · refine bind_of_some hslots ?_
    refine bind_of_some (required_slotOf _ _) ?_
    refine bind_of_some (withDefault_slotOf _ _ _) ?_
    refine bind_of_some (withDefault_slotOf _ _ _) ?_
    refine bind_of_some (optionalOrNone_slotOf _ _) ?_
    refine bind_of_some (withDefault_slotOf _ _ _) ?_
    refine bind_of_some (withDefault_slotOf _ _ _) ?_
    refine bind_of_some (withDefault_unlessEmpty _ _) ?_
    refine bind_of_some (optionalOrNone_slotOf _ _) ?_
    exact bind_of_some (optionalOrNone_slotOf _ _) rfl

end RuleForm

/-! ## Rows as actions -/

namespace ActionItem

theorem finds_action (item : ActionItem) :
    Finds Action.layout item.wireFields item.action.wireFields := rfl

/-- A row is read as its action: the number of the row is no field of an action. -/
theorem read_action (item : ActionItem) : Action.ofJson? item.toJson = some item.action := by
  rw [toJson_eq]
  refine bind_of_some (memberSlots_written_of_readable item.finds_action rfl) ?_
  refine bind_of_some (required_slotOf _ _) ?_
  exact bind_of_some item.action.fields.ofSlots_wireFields rfl

/-- An action is written as its row without the number. -/
theorem action_toJson (item : ActionItem) : ∃ members, item.toJson = .obj members
    ∧ item.action.toJson = .obj (members.filter fun m => m.1 ≠ "idx") := by
  refine ⟨_, item.toJson_eq, ?_⟩
  rw [Action.toJson_eq, filter_written fun name => decide (name ≠ "idx")]
  rfl

end ActionItem

/-! ## From texts -/

/-- **Siblings read each other.** A form with an id is read as a record with the same id and
content, which nobody has locked and of which no tenant, creator or time is known; a form without
one is read as no record. A row is read as its action, and what is written of the action is what is
written of the row without its number. The same goes for texts, on one line or over lines. -/
theorem siblings_read :
    (∀ form : RuleForm, RuleRecord.ofJson? form.toJson = form.asRecord?
      ∧ WireType.record.ofText? form.toJson.toText = form.asRecord?
      ∧ WireType.record.ofText? form.toJson.pretty = form.asRecord?)
    ∧ ∀ item : ActionItem, Action.ofJson? item.toJson = some item.action
      ∧ WireType.action.ofText? item.toJson.toText = some item.action
      ∧ WireType.action.ofText? item.toJson.pretty = some item.action
      ∧ ∃ members, item.toJson = .obj members
        ∧ item.action.toJson = .obj (members.filter fun m => m.1 ≠ "idx") := by
  constructor
  · intro form
    have hexact : form.toJson.Exact 3 := Writes.exact form
    obtain ⟨htext, hpretty⟩ := WireType.record.ofText?_of_exact hexact (by decide)
    exact ⟨form.read_record, htext.trans form.read_record, hpretty.trans form.read_record⟩
  · intro item
    have hexact : item.toJson.Exact 2 := Writes.exact item
    obtain ⟨htext, hpretty⟩ := WireType.action.ofText?_of_exact hexact (by decide)
    exact ⟨item.read_action, htext.trans item.read_action, hpretty.trans item.read_action,
      item.action_toJson⟩

end Whitelist
