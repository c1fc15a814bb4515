import Whitelist.Proofs.Rule.LineOrder
import Whitelist.Proofs.Store.LockState

/-!
# Who is in the way of a creation

Two records of one type may not have one name. A creation is therefore compared with all records,
also with those that its caller does not see: a record of another tenant may be in the way of it,
and the refusal tells the caller that there is such a record. Nothing else that a caller does not
see has a say in a creation.

## What is here

* `SameRecords` — two stores have the same records as far as a caller sees.
* `creation` — what comes of a creation, but for the id of the new record.
* `showsNamesake`, `hidesNamesake` — whether there is a record of that type and name among those
  that the caller sees, and among the others.
* `creation_of_sameRecords` — two stores with the same records for a caller differ in what comes of
  a creation exactly where nothing but the others decides, and decides differently.
* `foreign_namesake_blocks` — they may differ.
-/

set_option autoImplicit false
namespace Whitelist
namespace MemoryStore

variable (caller : Caller) (content : RuleContent)

/-- A caller sees the same records in both stores. -/
def SameRecords (s t : MemoryStore) : Prop := ∀ id, t.existing? caller id = s.existing? caller id

/-- What comes of a creation; that there is a new record, but not its id. -/
def creation (s : MemoryStore) : Except Fault Unit :=
  ((saveRecord caller ⟨none, content⟩).on s).1.map fun _ => ()

/-- Whether a record has the type and the name of some content. -/
def isNamesake (rule : StoredRule) : Bool :=
  rule.content.ruleType = content.ruleType && rule.content.name = content.name

/-- Whether the caller sees a record of this type and name. -/
def showsNamesake (s : MemoryStore) : Bool :=
  (s.visible caller).any fun (_, rule) => isNamesake content rule

/-- Whether there is a record of this type and name that the caller does not see. -/
def hidesNamesake (s : MemoryStore) : Bool :=
  s.rules.entries.any fun (_, rule) => !caller.canSee rule.tenantId && isNamesake content rule

variable {caller content} {s t : MemoryStore}

/-- A record in the way of a creation is one that the caller sees or one that the caller does not
see. -/
theorem hasNamesake_eq (caller : Caller) (s : MemoryStore) :
    s.hasNamesake content = (s.showsNamesake caller content || s.hidesNamesake caller content) := by
  rw [Bool.eq_iff_iff, Bool.or_eq_true, showsNamesake, hidesNamesake, visible, hasNamesake,
    List.any_reverse, List.any_filter, List.any_eq_true, List.any_eq_true, List.any_eq_true,
    ← exists_or]
  refine exists_congr fun e => ?_
  cases h : caller.canSee e.2.tenantId <;> simp [h, isNamesake]

/-- What the caller sees of namesakes follows from what the caller sees. -/
theorem SameRecords.showsNamesake_eq (h : SameRecords caller s t) :
    t.showsNamesake caller content = s.showsNamesake caller content := by
  have hmem (e : Int64 × StoredRule) : e ∈ t.visible caller ↔ e ∈ s.visible caller := by
    rw [mem_visible_iff, mem_visible_iff, h e.1]
  rw [Bool.eq_iff_iff, showsNamesake, showsNamesake, List.any_eq_true, List.any_eq_true]
  exact exists_congr fun e => and_congr_left fun _ => hmem e

/-- A form that is wrong is refused for what is wrong with it, in the order of the store. -/
theorem creation_of_invalid {e : FormError} (h : (RuleForm.mk none content).check = .error e)
    (s : MemoryStore) : s.creation caller content = .error (e.fault s.lineOrder) := by
  rw [creation, saveRecord_on, RuleForm.validate, h]
  rfl

/-- Any other form is refused only for a namesake. -/
theorem creation_of_valid (h : (RuleForm.mk none content).check = .ok ()) (s : MemoryStore) :
    s.creation caller content =
      if s.showsNamesake caller content || s.hidesNamesake caller content then
        .error (nameTaken content)
      else .ok () := by
  rw [creation, saveRecord_on, RuleForm.validate, h]
  show ((create caller content).on s).1.map _ = _
  rw [create_on, hasNamesake_eq caller]
  split <;> rfl

/-- Whether there is a namesake shows in the answer, in whatever order lines are compared. -/
theorem upToLines_namesake_iff {p q : Bool} :
    UpToLines (if p then .error (nameTaken content) else .ok ())
      (if q then .error (nameTaken content) else .ok ()) ↔ p = q := by
  refine ⟨fun h => ?_, fun h => h ▸ .refl _⟩
  cases p <;> cases q <;> first | rfl | cases h

/-- **Only a hidden namesake makes a difference, and it does.** Two stores in which a caller sees
the same records answer the same creation alike, with a record or with the same refusal, if and only
if the form is wrong, or the caller sees a namesake, or both stores have a namesake that the caller
does not see, or neither has. Where the form is right and the caller sees no namesake, a hidden one
blocks the creation, and shows through the refusal. -/
theorem creation_of_sameRecords (caller : Caller) (content : RuleContent) (s t : MemoryStore)
    (h : SameRecords caller s t) :
    (SameAnswer s.lineOrder t.lineOrder (s.creation caller content) (t.creation caller content) ↔
        (RuleForm.mk none content).check ≠ .ok () ∨ s.showsNamesake caller content = true
          ∨ t.hidesNamesake caller content = s.hidesNamesake caller content)
      ∧ ((RuleForm.mk none content).check = .ok () → s.showsNamesake caller content = false →
        s.creation caller content = if s.hidesNamesake caller content then
          .error (nameTaken content) else .ok ()) := by
  cases hcheck : (RuleForm.mk none content).check with
  | error e =>
    rw [creation_of_invalid hcheck, creation_of_invalid hcheck]
    exact ⟨⟨fun _ => .inl nofun, fun _ => e.sameAnswer_error _ _⟩, nofun⟩
  | ok =>
    rw [creation_of_valid hcheck, creation_of_valid hcheck, h.showsNamesake_eq]
    refine ⟨⟨fun hsame => .inr ?_, fun hor => .of_eq ?_⟩, fun _ hshown => by rw [hshown]; rfl⟩
    · have hdecided := upToLines_namesake_iff.mp hsame.upToLines
      cases hshown : s.showsNamesake caller content with
      | true => exact .inl rfl
      | false =>
        rw [hshown, Bool.false_or, Bool.false_or] at hdecided
        exact .inr hdecided.symm
    · rcases hor with hwrong | hshown | hhidden
      · exact absurd rfl hwrong
      · rw [hshown, Bool.true_or, Bool.true_or]
      · rw [hhidden]

/-- Alice's record, which belongs to a tenant. -/
def tenantDrafted : MemoryStore :=
  (start .grab none {}).after [.ask { alice with tenantId := some 1 } (.saveRecord ⟨none, draft⟩)]

/-- Bob, of another tenant, sees no record, with Alice's in the store as without it. -/
theorem sameRecords_tenantDrafted :
    SameRecords { bob with tenantId := some 2 } (start .grab none {}) tenantDrafted := by
  intro id
  by_cases hid : id = 1
  · rw [hid]
    decide
  · rw [existing?, existing?]
    show Option.filter _ ((Table.empty.insert 1 _).find? id) = _
    rw [Table.find?_insert, if_neg hid]
    rfl

/-- Bob can give the name of Alice's record to his own only where hers is not there. -/
theorem creation_of_sameRecords_tenantDrafted :
    SameRecords { bob with tenantId := some 2 } (start .grab none {}) tenantDrafted
      ∧ (RuleForm.mk none draft).check = .ok ()
      ∧ (start .grab none {}).showsNamesake { bob with tenantId := some 2 } draft = false
      ∧ (start .grab none {}).creation { bob with tenantId := some 2 } draft = .ok ()
      ∧ tenantDrafted.creation { bob with tenantId := some 2 } draft ≠ .ok () := by
  have hvalid : (RuleForm.mk none draft).check = .ok () := by decide
  have hshown :
      (start .grab none {}).showsNamesake { bob with tenantId := some 2 } draft = false := by
    decide
  obtain ⟨hiff, hcreated⟩ := creation_of_sameRecords { bob with tenantId := some 2 } draft
    (start .grab none {}) tenantDrafted sameRecords_tenantDrafted
  have hempty := hcreated hvalid hshown
  refine ⟨sameRecords_tenantDrafted, hvalid, hshown, hempty, fun hok => ?_⟩
  rcases hiff.mp (.of_eq (hempty.trans hok.symm)) with hwrong | hseen | hhidden
  · exact hwrong hvalid
  · exact absurd hseen (by decide)
  · exact absurd hhidden (by decide)

/-- A record that its caller does not see may block a creation. -/
theorem foreign_namesake_blocks :
    ¬ ∀ (caller : Caller) (content : RuleContent) (s t : MemoryStore), caller.tenantId.isSome →
      SameRecords caller s t →
      UpToLines (s.creation caller content) (t.creation caller content) := by
  intro hall
  have halike := hall { bob with tenantId := some 2 } draft _ _ rfl sameRecords_tenantDrafted
  have hcreated :
      (start .grab none {}).creation { bob with tenantId := some 2 } draft = .ok () := by
    decide
  have hrefused : tenantDrafted.creation { bob with tenantId := some 2 } draft
      = .error (nameTaken draft) := by decide
  rw [hcreated, hrefused] at halike
  cases halike

end MemoryStore
end Whitelist
