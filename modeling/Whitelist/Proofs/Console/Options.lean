import Mathlib.Data.List.Perm.Subperm
import Mathlib.Data.Nat.Find
import Whitelist.Proofs.Console.Normalized

/-!
# Gathering the rule codes page by page

The options for a filter are gathered from all pages of the upper level, and the walk ends at the
last page that a page speaks of. A page speaks of fewer rows than the store has where some of its
own were merged away. Over a store that answers with slices of a list it is said here exactly which
rows a walk comes to. Where no scope has two rows in the list, it comes to all. Where the global
scope has two, under its two codes, and both are on one full page with just one row left behind it,
the page speaks of no other page, and the walk never comes to that row.

## What is here

* `EndsAt` — nothing is to be had behind a page. `optionsFrom_on_last` and `optionsFrom_on_next` are
  what becomes of a walk there and elsewhere.
* `optionsFrom_of_pages` — where the store stays as it is, the options follow from the pages.
* `slice`, `Slices` — stores that answer with slices of a list.
* `LastRead`, `optionsFrom_on`, `ruleCodeOptions_on` — where the walk ends, and what it has gathered
  by then.
* `mem_codes_gathered` — the options are those of the rows that the walk has come to.
* `ruleCodeOptions_of_nodup` — where no scope has two rows, there is an option for each.
* `Overlooked`, `options_of_slices` — the one row that may have no option.
* `slices_without_option` — there is a list with such a row.

How many pages there are is not known to the walk beforehand. Each page speaks of a total, and the
console corrects that total by the rows it has merged away on this page, which is where the last
page may disappear. `LastRead` puts the test that ends the walk into numbers, and the statements on
what is gathered follow from where it is first true.

The induction of `optionsFrom_on` runs against the grain, as the walk counts up and has no bound of
its own. It is on the number of pages up to the first one at which the walk ends, and
`exists_lastRead` says that there is one.
-/

set_option autoImplicit false
namespace Whitelist.Console

open RuleGroup

variable {σ : Type} {store : RuleStore σ} {holds : σ → Prop} {rows groups : List RuleGroup}
  {size : UInt64} {s : σ}

/-! ## One page of a walk

The numbers of pages are words. Where another page is asked for there is a next word, because the
number of the page is then smaller than that of the pages available. -/

/-- Nothing is to be had behind this page. -/
def EndsAt (number : UInt64) (page : Page RuleGroup) : Prop :=
  page.items.isEmpty ∨ page.pagesAvailable ≤ number

section OnePage

variable {number : UInt64} {found : List CodeOption} {page : Page RuleGroup} {t : σ}

/-- Where another page is asked for, there is a word for its number. -/
theorem toNat_add_one_of_not_endsAt (hmore : ¬ EndsAt number page) :
    (number + 1).toNat = number.toNat + 1 :=
  toNat_add_one_of_lt (UInt64.not_le.mp fun hle => hmore (.inr hle))

theorem optionsFrom_on_refused {fault : Fault}
    (hpage : (listGroups store {} number size).on s = (.error fault, t)) :
    (optionsFrom store size number found).on s = (.error fault, t) := by
  rw [optionsFrom, Attempt.on_bind, hpage]

theorem optionsFrom_on_last (hpage : (listGroups store {} number size).on s = (.ok page, t))
    (hends : EndsAt number page) :
    (optionsFrom store size number found).on s = (.ok (page.items.foldl addOption found), t) := by
  rw [EndsAt] at hends
  rw [optionsFrom, Attempt.on_bind_ok hpage, dif_pos hends]
  rfl

theorem optionsFrom_on_next (hpage : (listGroups store {} number size).on s = (.ok page, t))
    (hmore : ¬ EndsAt number page) :
    (optionsFrom store size number found).on s
      = (optionsFrom store size (number + 1) (page.items.foldl addOption found)).on t := by
  rw [EndsAt] at hmore
  rw [optionsFrom, Attempt.on_bind_ok hpage, dif_neg hmore]

end OnePage

/-! ## Stores that stay as they are -/

/-- Where the upper level leaves the state as it is, the options follow from its pages alone. -/
theorem optionsFrom_of_pages (store : RuleStore σ) (pages : UInt64 → Page RuleGroup)
    (size page : UInt64) (found : List CodeOption) : ∃ options, ∀ s,
      (∀ number, (listGroups store {} number size).on s = (.ok (pages number), s)) →
        (optionsFrom store size page found).on s = (.ok options, s) := by
  induction page, found using optionsFrom.induct with
  | case1 page found ih =>
    by_cases hends : EndsAt page (pages page)
    · exact ⟨_, fun s hpages => optionsFrom_on_last (hpages page) hends⟩
    · obtain ⟨options, hoptions⟩ := ih (pages page) hends
      refine ⟨options, fun s hpages => ?_⟩
      rw [optionsFrom_on_next (hpages page) hends]
      exact hoptions s hpages

/-! ## Stores that answer with slices of a list

A store answers with the rows that stand at certain places in a list, and with the length of the
list. What it does with its state is left open, except that it goes on answering so. -/

/-- The rows of a list on the page after `n` others. -/
def slice (rows : List RuleGroup) (size n : Nat) : List RuleGroup :=
  (rows.drop (n * size)).take size

/-- As long as its state is as it has to be, the store answers a query for all groups with the
length of the list and with the slice that is wanted of it. -/
def Slices (store : RuleStore σ) (holds : σ → Prop) (rows : List RuleGroup) : Prop :=
  ∀ (number size : UInt64) (s : σ), number ≠ 0 → size ≠ 0 → holds s → ∃ answer t,
    (store.listGroups {} number size).on s = (.ok answer, t) ∧ holds t
      ∧ answer.totalCount.toNat = rows.length
      ∧ answer.items = slice rows size.toNat (number.toNat - 1)

/-- All slices up to one of them are the list up to there. -/
theorem flatMap_slice (rows : List RuleGroup) (size count : Nat) :
    (List.range count).flatMap (slice rows size) = rows.take (count * size) :=
  flatMap_range_take rows size count

theorem slice_sublist (rows : List RuleGroup) (size n : Nat) : (slice rows size n).Sublist rows :=
  (List.take_sublist ..).trans (List.drop_sublist ..)

/-- A store that answers with pages of a list, where words have room for its length, answers with
slices of it. -/
theorem slices_of_paginate (hlength : rows.length < 2 ^ 64)
    (hanswer : ∀ (number size : UInt64) (s : σ), holds s → ∃ t,
      (store.listGroups {} number size).on s = (.ok (paginate rows number size), t) ∧ holds t) :
    Slices store holds rows := by
  intro number size s hnumber hsize hs
  obtain ⟨t, hpage, ht⟩ := hanswer number size s hs
  have hfirst := toNat_pos hnumber
  have hmax : (max number 1).toNat = number.toNat := by
    rw [UInt64.toNat_max, UInt64.toNat_one]
    omega
  refine ⟨_, t, hpage, ht, ?_, ?_⟩
  · rw [paginate_totalCount]
    exact UInt64.toNat_ofNat_of_lt' hlength
  · rw [paginate_items hlength hsize, hmax, slice]

/-! ## Where the walk ends -/

/-- The rows of a slice that are merged away. -/
def mergedAway (rows : List RuleGroup) (size n : Nat) : Nat :=
  (slice rows size n).length - (normalizeGroups (slice rows size n)).length

/-- The page after `n` others speaks of no page behind it. -/
def LastRead (rows : List RuleGroup) (size n : Nat) : Prop :=
  rows.length - mergedAway rows size n ≤ (n + 1) * size

/-- A page of the upper level over such a store: its rows, and whether it speaks of another one. -/
theorem listGroups_on_slice (hstore : Slices store holds rows) (hsize : size ≠ 0) (hs : holds s)
    {number : UInt64} {n : Nat} (hnumber : number.toNat = n + 1) :
    ∃ page t, (listGroups store {} number size).on s = (.ok page, t) ∧ holds t
      ∧ page.items = normalizeGroups (slice rows size.toNat n)
      ∧ (page.pagesAvailable ≤ number ↔ LastRead rows size.toNat n) := by
  have hpos := toNat_pos hsize
  have hne : number ≠ 0 := fun h => by
    rw [h] at hnumber
    cases hnumber
  obtain ⟨answer, t, hanswer, ht, htotal, hitems⟩ := hstore number size s hne hsize hs
  rw [hnumber, Nat.add_sub_cancel] at hitems
  refine ⟨_, t, listGroups_on_ok hanswer, ht, congrArg normalizeGroups hitems, ?_⟩
  have hminus : (minus answer.totalCount (mergedAway rows size.toNat n)).toNat
      = rows.length - mergedAway rows size.toNat n := by
    rw [toNat_minus, htotal]
  show pageCount (minus answer.totalCount
    (answer.items.length - (normalizeGroups answer.items).length)) size ≤ number ↔ _
  rw [hitems, UInt64.le_iff_toNat_le, hnumber]
  show (pageCount (minus answer.totalCount (mergedAway rows size.toNat n)) size).toNat ≤ n + 1 ↔ _
  rw [toNat_pageCount hsize, hminus, LastRead, ← Nat.lt_succ_iff, Nat.div_lt_iff_lt_mul hpos,
    Nat.succ_mul (n + 1)]
  omega

/-- An empty page speaks of no page behind it either. -/
theorem lastRead_of_isEmpty {n : Nat}
    (h : (normalizeGroups (slice rows size.toNat n)).isEmpty = true) (hsize : size ≠ 0) :
    LastRead rows size.toNat n := by
  have hpos := toNat_pos hsize
  have hnil := normalizeGroups_eq_nil_iff.mp (List.isEmpty_iff.mp h)
  rw [slice, List.take_eq_nil_iff, List.drop_eq_nil_iff] at hnil
  rw [LastRead, Nat.succ_mul]
  omega

/-! ## What the walk gathers -/

/-- The rows that the first pages show, as many as are counted. -/
def shown (rows : List RuleGroup) (size count : Nat) : List RuleGroup :=
  (List.range count).flatMap fun n => normalizeGroups (slice rows size n)

/-- **A walk gathers what its pages show**, from where it is to the first page that speaks of no
other page. -/
theorem optionsFrom_on (hstore : Slices store holds rows) (hsize : size ≠ 0) {k n : Nat}
    (hlast : LastRead rows size.toNat (n + k))
    (hbefore : ∀ m, n ≤ m → m < n + k → ¬ LastRead rows size.toNat m) {number : UInt64}
    (hnumber : number.toNat = n + 1) (found : List CodeOption) (hs : holds s) :
    ∃ t, (optionsFrom store size number found).on s
        = (.ok (((List.range' n (k + 1)).flatMap fun m =>
            normalizeGroups (slice rows size.toNat m)).foldl addOption found), t)
      ∧ holds t := by
  -- On the number of pages that are left; the first of them is read in either case.
  induction k generalizing n number found s with
  | zero =>
    obtain ⟨page, t, hpage, ht, hitems, hend⟩ := listGroups_on_slice hstore hsize hs hnumber
    refine ⟨t, ?_, ht⟩
    rw [optionsFrom_on_last hpage (.inr (hend.mpr hlast)), hitems]
    simp
  | succ k ih =>
    obtain ⟨page, t, hpage, ht, hitems, hend⟩ := listGroups_on_slice hstore hsize hs hnumber
    have hmore : ¬ LastRead rows size.toNat n := hbefore n (Nat.le_refl n) (by omega)
    have hgoes : ¬ EndsAt number page := by
      rintro (hempty | hle)
      · exact hmore (lastRead_of_isEmpty (hitems ▸ hempty) hsize)
      · exact hmore (hend.mp hle)
    have hnext : (number + 1).toNat = n + 1 + 1 := by
      rw [toNat_add_one_of_not_endsAt hgoes, hnumber]
    have hshift : n + 1 + k = n + (k + 1) := by omega
    obtain ⟨u, hrest, hu⟩ := ih (hshift ▸ hlast) (fun m hm hlt => hbefore m (by omega) (by omega))
      hnext (page.items.foldl addOption found) ht
    refine ⟨u, ?_, hu⟩
    rw [optionsFrom_on_next hpage hgoes, hrest, hitems, ← List.foldl_append]
    rfl

/-- A page that lies behind all rows speaks of no page behind it. -/
theorem exists_lastRead (rows : List RuleGroup) {size : Nat} (hpos : 0 < size) :
    ∃ n, LastRead rows size n := by
  refine ⟨rows.length, ?_⟩
  have := Nat.le_mul_of_pos_right (rows.length + 1) hpos
  rw [LastRead]
  omega

/-- The options are gathered from the pages up to the first one that speaks of no other page. -/
theorem ruleCodeOptions_on (hstore : Slices store holds rows) (size : UInt64) (hs : holds s) :
    ∃ k t, LastRead rows (max size 1).toNat k
      ∧ (∀ n < k, ¬ LastRead rows (max size 1).toNat n)
      ∧ (ruleCodeOptions store size).on s
        = (.ok ((shown rows (max size 1).toNat (k + 1)).foldl addOption []), t)
      ∧ holds t := by
  have hsize := max_one_ne_zero size
  have hpos := toNat_pos hsize
  classical
  have hend := exists_lastRead rows hpos
  obtain ⟨t, hwalk, ht⟩ := optionsFrom_on (n := 0) hstore hsize (k := Nat.find hend)
    (by simpa using Nat.find_spec hend)
    (fun m _ hm => Nat.find_min hend (by simpa using hm)) (UInt64.toNat_one) [] hs
  refine ⟨Nat.find hend, t, Nat.find_spec hend, fun n hn => Nat.find_min hend hn, ?_, ht⟩
  rw [ruleCodeOptions, hwalk, shown, List.range_eq_range']

/-! ## Gathering options

Options are gathered by their codes, the first one of a code staying. -/

/-- A rule code to choose, made of a row. -/
def optionOf (group : RuleGroup) : CodeOption := ⟨group.code, group.displayName⟩

section AddOption

variable {options : List CodeOption} {group : RuleGroup} {code : String}

theorem addOption_of_mem (h : group.code ∈ options.map (·.code)) :
    addOption options group = options := by
  rw [addOption, if_pos (by simpa using h)]

theorem addOption_of_notMem (h : group.code ∉ options.map (·.code)) :
    addOption options group = options ++ [optionOf group] := by
  rw [addOption, if_neg (by simpa using h)]
  rfl

theorem mem_codes_foldl_addOption (groups : List RuleGroup) (options : List CodeOption) :
    code ∈ (groups.foldl addOption options).map (·.code)
      ↔ code ∈ options.map (·.code) ∨ code ∈ groups.map (·.code) := by
  induction groups generalizing options with
  | nil => simp
  | cons g rest ih =>
    rw [List.foldl_cons, ih, List.map_cons, List.mem_cons, ← or_assoc]
    refine or_congr_left ?_
    by_cases h : g.code ∈ options.map (·.code)
    · rw [addOption_of_mem h]
      exact ⟨.inl, fun hcode => hcode.elim id fun he => he ▸ h⟩
    · rw [addOption_of_notMem h, List.map_append, List.mem_append]
      exact or_congr_right List.mem_singleton

/-- No code is offered twice. -/
theorem nodup_codes_foldl_addOption (groups : List RuleGroup)
    (hnodup : (options.map (·.code)).Nodup) :
    ((groups.foldl addOption options).map (·.code)).Nodup := by
  induction groups generalizing options with
  | nil => exact hnodup
  | cons g rest ih =>
    refine ih ?_
    by_cases h : g.code ∈ options.map (·.code)
    · rwa [addOption_of_mem h]
    · rw [addOption_of_notMem h, List.map_append]
      exact hnodup.append (List.nodup_singleton _) (List.disjoint_singleton.mpr h)

/-- Where no code occurs twice, each row has its own option. -/
theorem foldl_addOption_of_nodup (groups : List RuleGroup) (options : List CodeOption)
    (hnodup : (options.map (·.code) ++ groups.map (·.code)).Nodup) :
    groups.foldl addOption options = options ++ groups.map optionOf := by
  induction groups generalizing options with
  | nil => simp
  | cons g rest ih =>
    have hnew : g.code ∉ options.map (·.code) := fun h =>
      List.disjoint_of_nodup_append hnodup h List.mem_cons_self
    have hnext : ((options ++ [optionOf g]).map (·.code) ++ rest.map (·.code)).Nodup := by
      rw [List.map_append, List.append_assoc]
      exact hnodup
    rw [List.foldl_cons, addOption_of_notMem hnew, ih _ hnext, List.append_assoc]
    rfl

end AddOption

/-! ## The rows that the walk comes to -/

/-- The codes of the rows that are shown are those of the scopes of the rows up to there. -/
theorem mem_codes_shown {size count : Nat} {code : String} :
    code ∈ (shown rows size count).map (·.code)
      ↔ ∃ row ∈ rows.take (count * size), row.scope.code = code := by
  rw [← flatMap_slice, shown, List.map_flatMap]
  simp only [List.mem_flatMap, mem_codes_normalizeGroups]
  constructor
  · rintro ⟨n, hn, row, hrow, hcode⟩
    exact ⟨row, ⟨n, hn, hrow⟩, hcode⟩
  · rintro ⟨row, ⟨n, hn, hrow⟩, hcode⟩
    exact ⟨n, hn, row, hrow, hcode⟩

/-- The options of the pages that the walk has come to are those of the rows up to there. -/
theorem mem_codes_gathered {size count : Nat} {code : String} :
    code ∈ ((shown rows size count).foldl addOption []).map (·.code)
      ↔ ∃ row ∈ rows.take (count * size), row.scope.code = code := by
  rw [mem_codes_foldl_addOption, mem_codes_shown]
  exact or_iff_right List.not_mem_nil

theorem scope_eq_of_code_eq {row row' : RuleGroup} (h : row'.scope.code = row.scope.code) :
    row'.scope = row.scope := by
  have hread := congrArg Scope.ofCode h
  rwa [RuleGroup.scope, RuleGroup.scope, Scope.ofCode_code_ofCode, Scope.ofCode_code_ofCode]
    at hread

/-! ## Rows of different scopes -/

theorem mergedAway_eq_zero {size n : Nat} (h : (scopes (slice rows size n)).Nodup) :
    mergedAway rows size n = 0 := by
  rw [mergedAway, length_normalizeGroups_eq_iff.mpr h, Nat.sub_self]

/-- The canonical codes of different scopes are different. -/
theorem nodup_codes_canonical (hnodup : (scopes groups).Nodup) :
    ((groups.map canonical).map (·.code)).Nodup := by
  refine List.Nodup.of_map Scope.ofCode ?_
  rw [List.map_map, List.map_map]
  exact (List.map_congr_left fun g _ => scope_canonical g) ▸ hnodup

/-- **Where no scope has two rows and the global one is in front, each row has an option**, in order
and under the code and label that the upper level shows, whatever the size of a page. -/
theorem ruleCodeOptions_of_nodup (hstore : Slices store holds rows) (hnodup : (scopes rows).Nodup)
    (hfirst : GlobalsFirst rows) (size : UInt64) (hs : holds s) :
    ∃ t, (ruleCodeOptions store size).on s
        = (.ok (rows.map fun row => optionOf (canonical row)), t) ∧ holds t := by
  obtain ⟨k, t, hlast, -, hoptions, ht⟩ := ruleCodeOptions_on hstore size hs
  refine ⟨t, ?_, ht⟩
  generalize (max size 1).toNat = size at hlast hoptions
  have hslice (n : Nat) := slice_sublist rows size n
  have hall : rows.take ((k + 1) * size) = rows := by
    rw [LastRead, mergedAway_eq_zero (hnodup.sublist ((hslice k).map _)), Nat.sub_zero] at hlast
    exact List.take_of_length_le hlast
  have hshown : shown rows size (k + 1) = rows.map canonical := by
    rw [← congrArg (List.map canonical) hall, ← flatMap_slice, List.map_flatMap]
    exact List.flatMap_congr fun n _ => normalizeGroups_eq_map (hnodup.sublist ((hslice n).map _))
      (hfirst.sublist (hslice n))
  have hcodes := nodup_codes_canonical hnodup
  rw [hoptions, hshown, foldl_addOption_of_nodup _ [] hcodes]
  show (Except.ok ((rows.map canonical).map optionOf), t) = _
  rw [List.map_map]
  rfl

/-! ## The global scope under two codes

This is the only way in which different codes can be of one scope, so at most one row of a page is
merged away, and the walk can end at most one row early. -/

/-- Codes of the same scope are the same, but for the two of the global scope. -/
theorem eq_or_global_of_ofCode_eq {x y : String} (h : Scope.ofCode x = Scope.ofCode y) :
    x = y ∨ isGlobalCode x = true ∧ isGlobalCode y = true := by
  unfold Scope.ofCode at h
  split at h <;> split at h
  · exact .inr ⟨‹_›, ‹_›⟩
  · cases h
  · cases h
  · exact .inl (Scope.rule.inj h)

theorem eq_or_eq_of_isGlobalCode {x : String} (h : isGlobalCode x = true) :
    x = globalCode ∨ x = legacyGlobalCode := by
  simpa [isGlobalCode] using h

/-- Different codes are of different scopes, unless both codes of the global scope are there. -/
theorem nodup_scopes_of_codes (hcodes : (groups.map (·.code)).Nodup)
    (hapart : ¬ (globalCode ∈ groups.map (·.code) ∧ legacyGlobalCode ∈ groups.map (·.code))) :
    (scopes groups).Nodup := by
  have hscopes : scopes groups = (groups.map (·.code)).map Scope.ofCode := by
    rw [List.map_map]
    rfl
  rw [hscopes]
  refine hcodes.map_on fun x hx y hy h => ?_
  rcases eq_or_global_of_ofCode_eq h with heq | ⟨hgx, hgy⟩
  · exact heq
  · rcases eq_or_eq_of_isGlobalCode hgx with rfl | rfl <;>
      rcases eq_or_eq_of_isGlobalCode hgy with rfl | rfl
    · rfl
    · exact absurd ⟨hx, hy⟩ hapart
    · exact absurd ⟨hy, hx⟩ hapart
    · rfl

/-- Where both codes of the global scope are there, something is merged. -/
theorem length_normalizeGroups_lt (hglobal : globalCode ∈ groups.map (·.code))
    (hlegacy : legacyGlobalCode ∈ groups.map (·.code)) :
    (normalizeGroups groups).length < groups.length := by
  have hle : (normalizeGroups groups).length ≤ groups.length :=
    Nat.le_trans (Nat.le_of_eq (globalFirst_perm (gather canonical groups)).length_eq)
      (length_gather_le scope_canonical groups)
  refine Nat.lt_of_le_of_ne hle fun heq => ?_
  obtain ⟨a, ha, hacode⟩ := List.mem_map.mp hglobal
  obtain ⟨b, hb, hbcode⟩ := List.mem_map.mp hlegacy
  have hscope : a.scope = b.scope := by
    rw [RuleGroup.scope, RuleGroup.scope, hacode, hbcode]
    decide
  have hsame := List.inj_on_of_nodup_map (length_normalizeGroups_eq_iff.mp heq) ha hb hscope
  rw [hsame, hbcode] at hacode
  exact absurd hacode (by decide)

/-- Where no code occurs twice, not more than one row is merged away. -/
theorem length_le_length_normalizeGroups (hcodes : (groups.map (·.code)).Nodup) :
    groups.length ≤ (normalizeGroups groups).length + 1 := by
  have hlegacy : groups.countP (fun g => g.code = legacyGlobalCode) ≤ 1 := by
    have hcount := List.nodup_iff_count_le_one.mp hcodes legacyGlobalCode
    rwa [List.count, List.countP_map] at hcount
  -- The rows without the older code are of different scopes, and all of these are shown.
  have hkept : (groups.filter fun g => ¬ g.code = legacyGlobalCode).length
      ≤ (normalizeGroups groups).length := by
    have hsublist := List.filter_sublist (l := groups) (p := fun g => ¬ g.code = legacyGlobalCode)
    have hnodup := nodup_scopes_of_codes (hcodes.sublist (hsublist.map _)) fun h => by
      obtain ⟨g, hg, hcode⟩ := List.mem_map.mp h.2
      exact of_decide_eq_true (List.mem_filter.mp hg).2 hcode
    have hsubperm : (scopes _).Subperm (scopes (normalizeGroups groups)) :=
      hnodup.subperm fun _ hscope =>
        mem_scopes_normalizeGroups.mpr ((hsublist.map RuleGroup.scope).subset hscope)
    simpa only [scopes, List.length_map] using hsubperm.length_le
  have hsplit := @List.length_eq_countP_add_countP _ (fun g => decide (g.code = legacyGlobalCode))
    groups
  rw [← List.countP_eq_length_filter] at hkept
  simp only [decide_eq_true_eq] at hsplit
  omega

/-- The row is the only one behind a page, and the page has both codes of the global scope. -/
def Overlooked (rows : List RuleGroup) (size : Nat) (row : RuleGroup) : Prop :=
  ∃ n, rows.drop ((n + 1) * size) = [row]
    ∧ globalCode ∈ (slice rows size n).map (·.code)
    ∧ legacyGlobalCode ∈ (slice rows size n).map (·.code)

theorem take_succ_mul (rows : List RuleGroup) (size n : Nat) :
    rows.take ((n + 1) * size) = rows.take (n * size) ++ slice rows size n := by
  rw [Nat.succ_mul, List.take_add, slice]

/-- Where no code occurs twice, a row that the walk has not come to is overlooked. -/
theorem overlooked_of_lastRead {size n : Nat} (hcodes : (rows.map (·.code)).Nodup)
    (hlast : LastRead rows size n) {row : RuleGroup} (hrow : row ∈ rows)
    (hunread : row ∉ rows.take ((n + 1) * size)) : Overlooked rows size row := by
  have hmore : (n + 1) * size < rows.length := by
    refine Nat.lt_of_not_le fun hle => hunread ?_
    rwa [List.take_of_length_le hle]
  have hslice := hcodes.sublist ((slice_sublist rows size n).map _)
  have hmerged := length_le_length_normalizeGroups hslice
  rw [LastRead, mergedAway] at hlast
  obtain ⟨last, hrest⟩ : ∃ last, rows.drop ((n + 1) * size) = [last] := by
    rw [← List.length_eq_one_iff, List.length_drop]
    omega
  have hlastrow : row = last := by
    rw [← List.take_append_drop ((n + 1) * size) rows, hrest] at hrow
    exact List.mem_singleton.mp ((List.mem_append.mp hrow).resolve_left hunread)
  refine ⟨n, hlastrow ▸ hrest, ?_⟩
  by_contra hapart
  rw [length_normalizeGroups_eq_iff.mpr (nodup_scopes_of_codes hslice hapart)] at hlast
  omega

/-- The page before an overlooked row speaks of no page behind it, and no row up to there is of the
scope of that row. -/
theorem Overlooked.lastRead {size : Nat} {row : RuleGroup} (h : Overlooked rows size row)
    (hcodes : (rows.map (·.code)).Nodup) :
    ∃ n, LastRead rows size n ∧ ∀ row' ∈ rows.take ((n + 1) * size), row'.scope ≠ row.scope := by
  obtain ⟨n, hrest, hglobal, hlegacy⟩ := h
  have hlength := congrArg List.length hrest
  rw [List.length_drop, List.length_singleton] at hlength
  refine ⟨n, ?_, fun row' hrow' hscope => ?_⟩
  · have hmerged := length_normalizeGroups_lt hglobal hlegacy
    rw [LastRead, mergedAway]
    omega
  · rw [← List.take_append_drop ((n + 1) * size) rows, hrest, List.map_append] at hcodes
    have hcode : row.code ∉ (rows.take ((n + 1) * size)).map (·.code) := fun h =>
      List.disjoint_of_nodup_append hcodes h List.mem_cons_self
    have hpage : (slice rows size n).map (·.code) ⊆ (rows.take ((n + 1) * size)).map (·.code) := by
      rw [take_succ_mul, List.map_append]
      exact List.subset_append_right ..
    rcases eq_or_global_of_ofCode_eq hscope with heq | ⟨-, hrow⟩
    · exact hcode (List.mem_map.mpr ⟨row', hrow', heq⟩)
    · rcases eq_or_eq_of_isGlobalCode hrow with heq | heq
      · exact hcode (hpage (heq ▸ hglobal))
      · exact hcode (hpage (heq ▸ hlegacy))

/-- **Each scope has an option but that of an overlooked row.** Over a store that answers with
slices of a list in which no code occurs twice, all codes are gathered, whatever the size of a page,
unless the global scope has rows under both of its codes, one full page has both of them, and one
single row stands behind that page. There is no option for that row then. No code is offered twice,
and none that is not in the list. -/
theorem options_of_slices (hstore : Slices store holds rows)
    (hcodes : (rows.map (·.code)).Nodup) (size : UInt64) (hs : holds s) :
    ∃ options t, (ruleCodeOptions store size).on s = (.ok options, t)
      ∧ (options.map (·.code)).Nodup
      ∧ (∀ option ∈ options, ∃ row ∈ rows, row.scope.code = option.code)
      ∧ ∀ row ∈ rows, (∃ option ∈ options, option.code = row.scope.code)
          ↔ ¬ Overlooked rows (max size 1).toNat row := by
  obtain ⟨k, t, hlast, hbefore, hoptions, -⟩ := ruleCodeOptions_on hstore size hs
  generalize (max size 1).toNat = size at *
  refine ⟨_, t, hoptions, nodup_codes_foldl_addOption _ .nil, fun option hoption => ?_,
    fun row hrow => ?_⟩
  · obtain ⟨row, hrow, hcode⟩ := mem_codes_gathered.mp (List.mem_map_of_mem hoption)
    exact ⟨row, List.mem_of_mem_take hrow, hcode⟩
  · rw [← List.mem_map, mem_codes_gathered]
    constructor
    · rintro ⟨row', hrow', hcode⟩ hoverlooked
      obtain ⟨n, hn, hnone⟩ := hoverlooked.lastRead hcodes
      have hle : (k + 1) * size ≤ (n + 1) * size :=
        Nat.mul_le_mul_right _ (Nat.succ_le_succ (Nat.le_of_not_lt fun hlt => hbefore n hlt hn))
      exact hnone row' (List.take_subset_take_left rows hle hrow') (scope_eq_of_code_eq hcode)
    · intro hseen
      by_contra hunread
      exact hseen (overlooked_of_lastRead hcodes hlast hrow fun h => hunread ⟨row, h, rfl⟩)

/-! ## A page that hides the row behind it -/

/-- A store of nothing but groups: these, page by page, to whatever query. -/
def listing (rows : List RuleGroup) : RuleStore Unit where
  answer
    | .listGroups _ number size => return paginate rows number size
    | .grabLock id => throw (.noSuchRule id)
    | .releaseLock id => throw (.noSuchRule id)
    | .listRecords _ number size => return paginate [] number size
    | .getRecord id => throw (.noSuchRule id)
    | .setEnabled id _ => throw (.noSuchRule id)
    | .deleteRecord id => throw (.noSuchRule id)
    | .saveRecord form => throw (.noSuchRule (form.id.getD 0))
    | .operators => return Operator.all

theorem slices_listing (hlength : rows.length < 2 ^ 64) :
    Slices (listing rows) (fun _ => True) rows :=
  slices_of_paginate hlength fun _ _ s _ => ⟨s, rfl, trivial⟩

/-- Both codes of the global scope, and one rule. -/
def apart : List RuleGroup :=
  [{ code := legacyGlobalCode, count := 1 }, { code := globalCode, count := 1 },
    { code := "R1", count := 1 }]

/-- With two rows to a page, the rule stands alone behind the merged rows and has no option. With
one row to a page nothing is merged, and it has one. -/
theorem options_of_slices_apart :
    Slices (listing apart) (fun _ => True) apart ∧ (apart.map (·.code)).Nodup
      ∧ (∃ options t, (ruleCodeOptions (listing apart) 2).on () = (.ok options, t)
        ∧ ¬ ∃ option ∈ options, option.code = "R1")
      ∧ ∃ options t, (ruleCodeOptions (listing apart) 1).on () = (.ok options, t)
        ∧ ∃ option ∈ options, option.code = "R1" := by
  have hstore : Slices (listing apart) (fun _ => True) apart := slices_listing (by decide)
  have hcodes : (apart.map (·.code)).Nodup := by decide
  have hrule : { code := "R1", count := 1 } ∈ apart := by decide
  refine ⟨hstore, hcodes, ?_, ?_⟩
  · obtain ⟨options, t, hanswer, -, -, hoptions⟩ := options_of_slices hstore hcodes 2 trivial
    refine ⟨options, t, hanswer, fun h => (hoptions _ hrule).mp h ⟨0, ?_⟩⟩
    decide
  · obtain ⟨options, t, hanswer, -, -, hoptions⟩ := options_of_slices hstore hcodes 1 trivial
    refine ⟨options, t, hanswer, (hoptions _ hrule).mpr ?_⟩
    -- The rule is alone behind the second page, and that page has one code only.
    rintro ⟨n, hrest, -, hlegacy⟩
    have hlength : 3 - (n + 1) * 1 = 1 := by
      have := congrArg List.length hrest
      rwa [List.length_drop] at this
    obtain rfl : n = 1 := by omega
    exact absurd hlegacy (by decide)

/-- Being answered with slices is not enough for an option for each row. -/
theorem slices_without_option :
    ¬ ∀ (σ : Type) (store : RuleStore σ) (holds : σ → Prop) (rows : List RuleGroup) (size : UInt64)
      (s : σ), Slices store holds rows → (rows.map (·.code)).Nodup → size ≠ 0 → holds s →
        ∃ options t, (ruleCodeOptions store size).on s = (.ok options, t)
          ∧ ∀ row ∈ rows, ∃ option ∈ options, option.code = row.scope.code := by
  intro hall
  obtain ⟨options, t, hanswer, hoptions⟩ := hall Unit (listing apart) (fun _ => True) apart 2 ()
    (slices_listing (by decide)) (by decide) (by decide) trivial
  -- The first page has the two merged rows, and speaks of no other page.
  have hpage : (listGroups (listing apart) {} 1 2).on ()
      = (.ok ⟨2, 1, 1, [⟨globalCode, globalDisplayName, 2⟩]⟩, ()) := by decide
  have hmax : max (2 : UInt64) 1 = 2 := by decide
  rw [ruleCodeOptions, hmax, optionsFrom, Attempt.on_bind_ok hpage,
    dif_pos (.inr (UInt64.le_refl 1))] at hanswer
  cases hanswer
  exact absurd (hoptions { code := "R1", count := 1 } (by decide)) (by decide)

end Whitelist.Console
