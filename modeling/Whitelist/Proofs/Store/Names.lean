import Mathlib.Data.List.Induction
import Mathlib.Logic.Function.Basic
import Whitelist.Proofs.Store.Run

/-!
# Names of rules

A record cannot be created under a name that another record of its type has. An update is not
compared with the other records: whoever holds the lease of a record may give it a name that is
taken. Nothing else in a run writes names, so they are unique for as long as no update takes one,
and no longer.

## What is here

* `label?`, `UniqueNames` — the type and the name of a record, and that no two records have both in
  common.
* `relabelled`, `Effect.labels` — what a step does to types and names.
* `Effect.uniqueNames_iff` — whether a step leaves names unique.
* `unique_unless_taken` — names are unique throughout a run exactly if no update takes one.
* `rename_repeats_name` — an update may take one.

Names belong to types, and a creation is compared with all records of its type, those of other
tenants included. The proof looks at nothing of a record but this pair (`label?`), as a function of
ids. On such functions a creation and an update are `Function.update`, and uniqueness is
injectivity.
-/

set_option autoImplicit false
namespace Whitelist

/-- The type and the name of a rule, by which a creation is compared with the records. -/
def RuleContent.label (content : RuleContent) : RuleType × String :=
  (content.ruleType, content.name)

namespace MemoryStore

/-- The type and the name of the record at an id. -/
def label? (s : MemoryStore) (id : Int64) : Option (RuleType × String) :=
  (s.rules.find? id).map fun rule => rule.content.label

/-- No two records have the same type and the same name. -/
def UniqueNames (s : MemoryStore) : Prop :=
  ∀ i k label, s.label? i = some label → s.label? k = some label → i = k

/-- A type and a name are those of a record at another id. -/
def IsTaken (s : MemoryStore) (id : Int64) (label : RuleType × String) : Prop :=
  ∃ k, k ≠ id ∧ s.label? k = some label

variable {s t : MemoryStore} {step : Step} {deed : Option Deed} {id : Int64} {caller : Caller}
  {content : RuleContent} {label : RuleType × String}

/-! ## What a step does to names

A change of the flag keeps the name, a deletion frees it, and leases have no names of rules. -/

/-- Types and names after something was done. -/
def relabelled (labels : Int64 → Option (RuleType × String)) :
    Option Deed → Int64 → Option (RuleType × String)
  | some (.update _ id content) => Function.update labels id (some content.label)
  | some (.create _ id content) => Function.update labels id (some content.label)
  | some (.delete _ id) => Function.update labels id none
  | _ => labels

theorem label?_of_rules (h : t.rules = s.rules) : t.label? = s.label? := by
  funext k
  rw [label?, label?, h]

/-- **Types and names are written by creations and updates only.** -/
theorem Effect.labels (h : Effect s step deed t) : t.label? = relabelled s.label? deed := by
  cases h with
  | read looks => exact label?_of_rules (iterate_tick_rules ..)
  | grabbed => exact label?_of_rules rfl
  | released => exact label?_of_rules rfl
  | enabled =>
    funext k
    show ((s.rules.modify _ _).find? k).map _ = (s.rules.find? k).map _
    rw [Table.find?_modify]
    split
    · rename_i hk
      rw [hk, Option.map_map]
      rfl
    · rfl
  | updated hreq hseen =>
    have hstored := find?_of_existing? hseen
    funext k
    show ((s.rules.modify _ _).find? k).map _ = Function.update s.label? _ _ k
    rw [Table.find?_modify, Function.update_apply, hstored]
    split <;> rfl
  | deleted =>
    funext k
    show ((s.rules.erase _).find? k).map _ = Function.update s.label? _ _ k
    rw [Table.find?_erase, Function.update_apply]
    split <;> rfl
  | created =>
    funext k
    show ((s.rules.insert _ _).find? k).map _ = Function.update s.label? _ _ k
    rw [Table.find?_insert, Function.update_apply]
    split <;> rfl
  | namedRule => rfl
  | namedTenant => rfl
  | purged => rfl
  | renewed => rfl
  | elapsed => rfl
  | reordered => rfl

/-- A creation is refused where any record has the type and the name. -/
theorem Effect.not_isTaken_of_create (h : Effect s step (some (.create caller id content)) t) :
    ¬ s.IsTaken id content.label := by
  cases h with
  | created hreq hcheck hnew =>
    rintro ⟨k, -, hlabel⟩
    obtain ⟨rule, hrule, heq⟩ := Option.map_eq_some_iff.mp hlabel
    obtain ⟨htype, hname⟩ := Prod.mk.injEq .. ▸ heq
    refine Bool.eq_false_iff.mp hnew (List.any_eq_true.mpr ⟨(k, rule), ?_, ?_⟩)
    · exact (Table.mem_entries_iff ..).mpr hrule
    · simp [htype, hname]

/-! ## Whether names stay unique

An update may write any type and any name, its own old ones among them. -/

/-- Where a record is given a type and a name, they stay unique exactly if no other record has
them. -/
theorem UniqueNames.update_iff (hs : UniqueNames s)
    (ht : t.label? = Function.update s.label? id (some label)) :
    UniqueNames t ↔ ¬ s.IsTaken id label := by
  constructor
  · rintro hunique ⟨k, hk, hlabel⟩
    refine hk (hunique k id label ?_ ?_)
    · rw [ht, Function.update_of_ne hk, hlabel]
    · rw [ht, Function.update_self]
  · intro hfree i k l hi hk
    rw [ht, Function.update_apply] at hi hk
    split at hi <;> split at hk
    · simp_all
    · cases hi
      exact absurd ⟨k, ‹_›, hk⟩ hfree
    · cases hk
      exact absurd ⟨i, ‹_›, hi⟩ hfree
    · exact hs i k l hi hk

theorem UniqueNames.erase (hs : UniqueNames s) (ht : t.label? = Function.update s.label? id none) :
    UniqueNames t := by
  intro i k l hi hk
  rw [ht, Function.update_apply] at hi hk
  split at hi <;> split at hk
  · simp_all
  · cases hi
  · cases hk
  · exact hs i k l hi hk

/-- An update gives a record a type and a name that another record has. -/
def TakesName (s : MemoryStore) (deed : Option Deed) : Prop :=
  ∃ caller id content, deed = some (.update caller id content) ∧ s.IsTaken id content.label

/-- A step leaves names unique unless it is an update that takes one. -/
theorem Effect.uniqueNames_iff (h : Effect s step deed t) (hs : UniqueNames s) :
    UniqueNames t ↔ ¬ s.TakesName deed := by
  have hlabels := h.labels
  have spared (hunique : UniqueNames t)
      (hother : ∀ caller id content, deed ≠ some (.update caller id content)) :
      UniqueNames t ↔ ¬ s.TakesName deed :=
    iff_of_true hunique fun ⟨caller, id, content, hdeed, _⟩ => hother caller id content hdeed
  have kept (hsame : t.label? = s.label?) : UniqueNames t := by
    intro i k l
    rw [hsame]
    exact hs i k l
  cases deed with
  | none => exact spared (kept hlabels) (by simp)
  | some d =>
    cases d with
    | grab caller id => exact spared (kept hlabels) (by simp)
    | release caller id => exact spared (kept hlabels) (by simp)
    | enable caller id enabled => exact spared (kept hlabels) (by simp)
    | update caller id content =>
      rw [hs.update_iff hlabels]
      refine not_congr ⟨fun htaken => ⟨caller, id, content, rfl, htaken⟩, ?_⟩
      rintro ⟨_, _, _, hdeed, htaken⟩
      cases hdeed
      exact htaken
    | delete caller id => exact spared (hs.erase hlabels) (by simp)
    | create caller id content =>
      exact spared ((hs.update_iff hlabels).mpr h.not_isTaken_of_create) (by simp)

/-! ## Whole runs

Once a name occurs twice, it may become unique again by a later update or deletion. The theorem is
therefore about all stores of a run, not about its last. -/

theorem uniqueNames_start (policy : LockPolicy) (term : Option Nat) (clock : Clock) :
    UniqueNames (start policy term clock) := fun _ _ _ h => by cases h

/-- **Names are unique until an update takes one.** In a run, no two records have the same type and
the same name at any time, if and only if no update gives a record the type and the name of another
one. Creations are compared with all records, and nothing else writes a type or a name; updates are
not compared with any, and an update that takes a name leaves two records with it. -/
theorem unique_unless_taken (run : Run) :
    (∀ (before : Run) (rest : List Step), run = before.followedBy rest → UniqueNames before.store)
      ↔ ∀ (before : Run) (step : Step) (rest : List Step),
        run = before.followedBy (step :: rest) →
        ¬ before.store.TakesName (step.event before.store).deed? := by
  constructor
  · intro hunique before step rest hrun
    have hafter : run = (before.followedBy [step]).followedBy rest := by
      rw [hrun, Run.followedBy, Run.followedBy, Run.followedBy, List.append_assoc]
      rfl
    have hnext := hunique _ _ hafter
    rw [Run.store_followedBy] at hnext
    exact ((step.effect before.store).uniqueNames_iff (hunique before _ hrun)).mp hnext
  · rintro hfree ⟨policy, term, clock, steps⟩ rest hrun
    induction steps using List.reverseRecOn generalizing rest with
    | nil => exact uniqueNames_start policy term clock
    | append_singleton steps step ih =>
      have hbefore : run = (Run.mk policy term clock steps).followedBy (step :: rest) := by
        rw [hrun, Run.followedBy, Run.followedBy, List.append_assoc]
        rfl
      have hnext := ((step.effect _).uniqueNames_iff (ih _ hbefore)).mpr (hfree _ _ _ hbefore)
      show UniqueNames ((Run.mk policy term clock steps).followedBy [step]).store
      rwa [Run.store_followedBy]

/-- Alice creates a second record and then gives it the name of her first one. -/
def renamed : Run :=
  (drafted .grab).followedBy [.ask alice (.saveRecord ⟨none, { draft with name := "other" }⟩),
    .ask alice (.saveRecord ⟨some 2, draft⟩)]

/-- An update may give a record a name that another record of its type has. -/
theorem rename_repeats_name :
    (∀ step ∈ renamed.steps, ∃ caller call, step = .ask caller call)
      ∧ ¬ UniqueNames renamed.store := by
  refine ⟨by simp [renamed, drafted, Run.followedBy], fun hunique => ?_⟩
  have hfirst : renamed.store.label? 1 = some draft.label := by decide
  have hsecond : renamed.store.label? 2 = some draft.label := by decide
  exact absurd (hunique 1 2 draft.label hfirst hsecond) (by decide)

end MemoryStore
end Whitelist
