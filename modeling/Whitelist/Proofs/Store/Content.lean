import Whitelist.Proofs.Store.Run

/-!
# Stored content passes its check

Content comes into the store by way of a form, and a form is checked before it creates or changes a
record. Enabling and disabling a record change nothing that the check looks at. So whatever a record
holds could have been sent as a form, and can be sent once more.

## What is here

* `AllChecked` — the content of every record passes the check; `Run.allChecked` says that it does in
  every run.
* `saveBack_on` — what comes of saving the content of a record as it stands.
* `saved_back_as_stored` — in every run, it changes the time of the last change and nothing else.
-/

set_option autoImplicit false
namespace Whitelist
namespace MemoryStore

variable {s t : MemoryStore} {step : Step} {deed : Option Deed} {id : Int64} {rule : StoredRule}

/-- Every record has content that passes the check on forms. -/
def AllChecked (s : MemoryStore) : Prop :=
  ∀ id rule, s.rules.find? id = some rule → RuleForm.checkContent rule.content = .ok ()

theorem AllChecked.modify {f : StoredRule → StoredRule} (hs : AllChecked s)
    (hrules : t.rules = s.rules.modify id f)
    (hf : ∀ rule, RuleForm.checkContent rule.content = .ok () →
      RuleForm.checkContent (f rule).content = .ok ()) : AllChecked t := by
  intro k rule hrule
  rw [hrules, Table.find?_modify] at hrule
  split at hrule
  · obtain ⟨old, hold, rfl⟩ := Option.map_eq_some_iff.mp hrule
    exact hf old (hs _ old hold)
  · exact hs k rule hrule

/-- Content is put into the store only if it passes the check, and whether a record is enabled makes
no difference to the check. -/
theorem Effect.allChecked (h : Effect s step deed t) (hs : AllChecked s) : AllChecked t := by
  cases h with
  | read looks => simpa [AllChecked] using hs
  | grabbed => exact hs
  | released => exact hs
  | enabled => exact hs.modify rfl fun _ hold => hold
  | updated hreq hseen howner hcheck => exact hs.modify rfl fun _ _ => hcheck
  | deleted =>
    intro k rule hrule
    rw [removed_rules, Table.find?_erase] at hrule
    split at hrule
    · cases hrule
    · exact hs k rule hrule
  | created hreq hcheck =>
    intro k rule hrule
    rw [added_rules, Table.find?_insert] at hrule
    split at hrule
    · cases hrule
      exact hcheck
    · exact hs k rule hrule
  | namedRule => exact hs
  | namedTenant => exact hs
  | purged => exact hs
  | renewed => exact hs
  | elapsed => exact hs
  | reordered => exact hs

theorem Run.allChecked (run : Run) : AllChecked run.store := by
  have hstart : AllChecked (start run.policy run.term run.clock) := fun _ _ h => by cases h
  exact holds_after hstart (fun t step => (step.effect t).allChecked) run.steps

/-! ## Saving what is stored -/

/-- The form with which a record's own content is saved under its id. -/
def formOf (id : Int64) (rule : StoredRule) : RuleForm := ⟨some id, rule.content⟩

/-- Content that passes its check is saved by whoever sees the record and holds its live lease. -/
theorem saveBack_on {caller : Caller} (hcheck : (formOf id rule).check = .ok ())
    (hseen : s.existing? caller id = some rule) (howner : s.owner? id = some caller.userId) :
    ((session caller).saveRecord (formOf id rule)).on s
      = (.ok id, (s.tick.rewritten id fun _ => rule.content).renewedFor caller id) := by
  refine (saveRecord_on caller s (formOf id rule)).trans ?_
  rw [RuleForm.validate_of_check hcheck]
  refine (update_on caller id s rule.content).trans ?_
  simp only [hseen, howner, if_true]

/-- Of the records, only the one that is saved as it stands becomes another, and only in its
time. -/
theorem find?_saveBack (hstored : s.rules.find? id = some rule) (caller : Caller) (k : Int64) :
    ((s.tick.rewritten id fun _ => rule.content).renewedFor caller id).rules.find? k
      = if k = id then some { rule with modifiedAt := s.tick.clock.now } else s.rules.find? k := by
  simp only [renewedFor_rules, tick_rules, rewritten_rules, Table.find?_modify, hstored]
  rfl

/-- **A record can be saved as it stands.** In every run, with whatever forms records were created
and changed, the content of every stored record passes the check on forms. So whoever sees a record
and holds its live lease can save its own content under its id, and that changes the time of the
record's last change, and nothing else in any record. -/
theorem saved_back_as_stored (run : Run) (id : Int64) (rule : StoredRule)
    (hstored : run.store.rules.find? id = some rule) :
    (∀ target, (RuleForm.mk target rule.content).check = .ok ())
      ∧ ∀ caller : Caller, caller.canSee rule.tenantId = true →
        run.store.owner? id = some caller.userId →
        ∃ saved, ((session caller).saveRecord (formOf id rule)).on run.store = (.ok id, saved)
          ∧ ∀ k, saved.rules.find? k
            = if k = id then some { rule with modifiedAt := run.store.tick.clock.now }
              else run.store.rules.find? k := by
  have hcheck := run.allChecked id rule hstored
  refine ⟨fun _ => hcheck, fun caller hsee howner => ?_⟩
  have hseen : run.store.existing? caller id = some rule :=
    (existing?_eq_some_iff ..).mpr ⟨hstored, hsee⟩
  exact ⟨_, saveBack_on hcheck hseen howner, find?_saveBack hstored caller⟩

/-- Alice has created her record and disabled it. -/
def disabled : Run := (drafted .grab).followedBy [.ask alice (.setEnabled 1 false)]

/-- The record as it is stored then. -/
def disabledRule : StoredRule :=
  { draftedRule with content := { draft with enabled := false }, modifiedAt := 3 }

/-- Then she saves it as it stands. -/
theorem saved_back_as_stored_disabled :
    disabled.store.rules.find? 1 = some disabledRule
      ∧ alice.canSee disabledRule.tenantId = true
      ∧ disabled.store.owner? 1 = some alice.userId
      ∧ ∃ saved, ((session alice).saveRecord (formOf 1 disabledRule)).on disabled.store
          = (.ok 1, saved)
        ∧ saved.rules.find? 1 = some { disabledRule with modifiedAt := 5 } := by
  have hstored : disabled.store.rules.find? 1 = some disabledRule := by decide
  have howner : disabled.store.owner? 1 = some alice.userId := by decide
  have hnow : disabled.store.tick.clock.now = 5 := by decide
  obtain ⟨-, hsave⟩ := saved_back_as_stored disabled 1 disabledRule hstored
  obtain ⟨saved, hon, hrules⟩ := hsave alice rfl howner
  rw [hnow] at hrules
  exact ⟨hstored, rfl, howner, saved, hon, hrules 1⟩

end MemoryStore
end Whitelist
