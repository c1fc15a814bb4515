import Whitelist.Proofs.Console.Options
import Whitelist.Proofs.Page.Division
import Whitelist.Proofs.Transcript

/-!
# The walk through the pages of options

The options are gathered page by page, and whether there is another page is said by each page anew.
A store may say anything: more rows with each page, no rows at all, the same rows again. So the walk
is followed here over what it was answered. It goes on only while a page speaks of a page behind it,
and pages are numbered by words, so it comes to an end; how soon it does depends on the largest
total that it was told.

## What is here

* `Walk` — the answers to a walk, and what it comes to. `optionsFrom_transcribes` says that the walk
  asks for one page after the other and goes on as `Walk` says.
* `Walk.length_le` — how many answers there are.
* `Gathers`, `Walk.gathers` — what comes of them.
* `ruleCodeOptions_ends` — all this for the walk from page 1.
-/

set_option autoImplicit false
namespace Whitelist.Console

variable {σ : Type} {size number : UInt64} {found : List CodeOption}
  {answers : List (Except Fault (Page RuleGroup))} {outcome : Except Fault (List CodeOption)}

/-! ## One page after the other -/

/-- A walk from the page of this number on, with these options found before: the answers that it
gets, and what it comes to. -/
inductive Walk (size : UInt64) : UInt64 → List CodeOption →
    List (Except Fault (Page RuleGroup)) → Except Fault (List CodeOption) → Prop
  /-- A page is refused. -/
  | refused {number : UInt64} {found : List CodeOption} {fault : Fault} :
      Walk size number found [.error fault] (.error fault)
  /-- There is a page, and nothing behind it. -/
  | last {number : UInt64} {found : List CodeOption} {answer : Page RuleGroup}
      (hends : EndsAt number (upperPage size answer)) :
      Walk size number found [.ok answer]
        (.ok ((upperPage size answer).items.foldl addOption found))
  /-- There is a page, and another one is asked for. -/
  | next {number : UInt64} {found : List CodeOption} {answer : Page RuleGroup}
      {answers : List (Except Fault (Page RuleGroup))} {outcome : Except Fault (List CodeOption)}
      (hmore : ¬ EndsAt number (upperPage size answer))
      (hrest : Walk size (number + 1) ((upperPage size answer).items.foldl addOption found)
        answers outcome) :
      Walk size number found (.ok answer :: answers) outcome

/-- The calls for one page after the other, from the first number on, with their answers. -/
def asked (size : UInt64) (first : Nat) (answers : List (Except Fault (Page RuleGroup))) :
    List Exchange :=
  answers.mapIdx fun n answer => ⟨.listGroups {} (.ofNat (first + n)) size, answer⟩

theorem asked_cons {first : Nat} (answer : Except Fault (Page RuleGroup)) :
    asked size first (answer :: answers)
      = asked size first [answer] ++ asked size (first + 1) answers := by
  have hshift (n : Nat) : first + (n + 1) = first + 1 + n := by omega
  rw [asked, List.mapIdx_cons, asked, asked, List.mapIdx_cons]
  show _ :: _ = _ :: _
  congr 2
  funext n later
  rw [hshift]

theorem asked_singleton (answer : Except Fault (Page RuleGroup)) :
    asked size number.toNat [answer] = [⟨.listGroups {} number size, answer⟩] := by
  show [(⟨.listGroups {} (.ofNat number.toNat) size, answer⟩ : Exchange)] = _
  rw [UInt64.ofNat_toNat]

/-- A page of the upper level takes one call. -/
theorem listGroups_transcribes (store : RuleStore σ) (number size : UInt64) :
    Transcribes (listGroups store {} number size) (listGroups store.transcribed {} number size)
      fun more outcome => ∃ answer : Except Fault (Page RuleGroup),
        more = [⟨.listGroups {} number size, answer⟩] ∧ outcome = answer.map (upperPage size) := by
  refine (Transcribes.bind (.answer store (.listGroups {} number size))
    fun answer => .pure (upperPage size answer)).mono ?_
  rintro more outcome (⟨fault, rfl, rfl⟩ | ⟨answer, first, second, rfl, rfl, rfl, rfl⟩)
  · exact ⟨.error fault, rfl, rfl⟩
  · exact ⟨.ok answer, rfl, rfl⟩

/-- A walk asks for one page after the other. -/
theorem optionsFrom_transcribes (store : RuleStore σ) (size number : UInt64)
    (found : List CodeOption) :
    Transcribes (optionsFrom store size number found)
      (optionsFrom store.transcribed size number found)
      fun more outcome => ∃ answers, more = asked size number.toNat answers
        ∧ Walk size number found answers outcome := by
  induction number, found using optionsFrom.induct with
  | case1 number found ih =>
    intro s log
    obtain ⟨more, hnoted, answer, rfl, hanswer⟩ := listGroups_transcribes store number size s log
    rcases hplain : (listGroups store {} number size).on s with ⟨outcome, t⟩
    rw [hplain] at hnoted hanswer
    rw [← asked_singleton] at hnoted
    cases answer with
    | error fault =>
      cases hanswer
      rw [optionsFrom_on_refused hplain, optionsFrom_on_refused hnoted]
      exact ⟨_, rfl, _, rfl, .refused⟩
    | ok answer =>
      cases hanswer
      by_cases hends : EndsAt number (upperPage size answer)
      · rw [optionsFrom_on_last hplain hends, optionsFrom_on_last hnoted hends]
        exact ⟨_, rfl, _, rfl, .last hends⟩
      · rw [optionsFrom_on_next hplain hends, optionsFrom_on_next hnoted hends]
        obtain ⟨later, hlater, answers, rfl, hrest⟩ := ih _ hends t _
        refine ⟨asked size number.toNat (.ok answer :: answers), hlater.trans ?_, _, rfl,
          .next hends hrest⟩
        rw [toNat_add_one_of_not_endsAt hends, List.append_assoc, ← asked_cons]

/-! ## How long it takes -/

/-- More rows have no fewer pages. -/
theorem ceilDiv_mono {rows more : Nat} (hle : rows ≤ more) (size : Nat) :
    rows ⌈/⌉ size ≤ more ⌈/⌉ size := by
  rw [Nat.ceilDiv_eq_add_pred_div, Nat.ceilDiv_eq_add_pred_div]
  exact Nat.div_le_div_right (by omega)

/-- The upper level speaks of no more pages than the store, for it has no more rows. -/
theorem toNat_pagesAvailable_upperPage_le (size : UInt64) (answer : Page RuleGroup) :
    (upperPage size answer).pagesAvailable.toNat ≤ answer.totalCount.toNat ⌈/⌉ size.toNat := by
  show (pageCount (minus _ _) size).toNat ≤ _
  rw [toNat_pageCount_eq_ceilDiv, toNat_minus]
  exact ceilDiv_mono (Nat.sub_le ..) size.toNat

/-- The walk asks for another page only where it is told of one, so it never asks for a page behind
those that the largest total speaks of. -/
theorem Walk.length_le (h : Walk size number found answers outcome) {total : Nat}
    (htotal : ∀ page, .ok page ∈ answers → page.totalCount.toNat ≤ total) :
    number.toNat + answers.length ≤ max number.toNat (total ⌈/⌉ size.toNat) + 1 := by
  -- On the walk: each answer but the last counts the number of the page up by one, and that only
  -- where the page was told to be there.
  induction h with
  | refused => simp
  | last => simp
  | @next number found answer answers outcome hmore hrest ih =>
    have hlater := ih fun page hpage => htotal page (List.mem_cons_of_mem _ hpage)
    rw [toNat_add_one_of_not_endsAt hmore] at hlater
    have hpage : number.toNat < (upperPage size answer).pagesAvailable.toNat :=
      UInt64.lt_iff_toNat_lt.mp (UInt64.not_le.mp fun hle => hmore (.inr hle))
    have htold := toNat_pagesAvailable_upperPage_le size answer
    have hlargest := ceilDiv_mono (htotal answer List.mem_cons_self) size.toNat
    rw [List.length_cons]
    omega

/-! ## What comes of it -/

/-- What the answers to a walk come to: the first refusal, or options for the scopes of all rows
that were received, each code once. -/
inductive Gathers : List (Except Fault (Page RuleGroup)) → Except Fault (List CodeOption) → Prop
  | refused (pages : List (Page RuleGroup)) (fault : Fault) :
      Gathers (pages.map .ok ++ [.error fault]) (.error fault)
  | options {pages : List (Page RuleGroup)} {options : List CodeOption}
      (hnodup : (options.map (·.code)).Nodup)
      (hcodes : ∀ code, code ∈ options.map (·.code)
        ↔ ∃ page ∈ pages, ∃ row ∈ page.items, row.scope.code = code) :
      Gathers (pages.map .ok) (.ok options)

/-- The rows of the pages that a walk receives, as they are shown. -/
def received (pages : List (Page RuleGroup)) : List RuleGroup :=
  pages.flatMap fun page => normalizeGroups page.items

theorem received_cons (page : Page RuleGroup) (pages : List (Page RuleGroup)) :
    received (page :: pages) = normalizeGroups page.items ++ received pages := List.flatMap_cons

theorem mem_codes_received {pages : List (Page RuleGroup)} {code : String} :
    code ∈ (received pages).map (·.code)
      ↔ ∃ page ∈ pages, ∃ row ∈ page.items, row.scope.code = code := by
  rw [received, List.map_flatMap]
  simp only [List.mem_flatMap, mem_codes_normalizeGroups]

/-- The walk is over with the first refusal, and without one it has an option for each code that it
was shown. -/
theorem Walk.refused_or_options (h : Walk size number found answers outcome) :
    (∃ (pages : List (Page RuleGroup)) (fault : Fault),
        answers = pages.map .ok ++ [.error fault] ∧ outcome = .error fault)
      ∨ ∃ pages : List (Page RuleGroup), answers = pages.map .ok
        ∧ outcome = .ok ((received pages).foldl addOption found) := by
  induction h with
  | @refused _ _ fault => exact .inl ⟨[], fault, rfl, rfl⟩
  | @last _ found answer =>
    refine .inr ⟨[answer], rfl, ?_⟩
    rw [received_cons, List.foldl_append]
    rfl
  | @next _ found answer _ _ _ _ ih =>
    rcases ih with ⟨pages, fault, rfl, rfl⟩ | ⟨pages, rfl, rfl⟩
    · exact .inl ⟨answer :: pages, fault, rfl, rfl⟩
    · refine .inr ⟨answer :: pages, rfl, ?_⟩
      rw [received_cons, List.foldl_append]
      rfl

theorem Walk.gathers (h : Walk size number [] answers outcome) : Gathers answers outcome := by
  rcases h.refused_or_options with ⟨pages, fault, rfl, rfl⟩ | ⟨pages, rfl, rfl⟩
  · exact .refused pages fault
  · refine .options (nodup_codes_foldl_addOption _ .nil) fun code => ?_
    rw [mem_codes_foldl_addOption, mem_codes_received]
    exact or_iff_right List.not_mem_nil

/-- **A walk through all options comes to an end over every store**, whatever it answers and however
its answers change. It asks for pages 1, 2, 3, … in order, each number a word, and goes on where
another page is spoken of. With no answer speaking of more rows than `total`, it takes no more calls
than these rows have pages, or one if they have none. It comes to the first refusal, or to the codes
of the scopes of all rows that it has received, each once. -/
theorem ruleCodeOptions_ends (store : RuleStore σ) (pageSize : UInt64) :
    Transcribes (ruleCodeOptions store pageSize) (ruleCodeOptions store.transcribed pageSize)
      fun more outcome => ∃ answers, more = asked (max pageSize 1) 1 answers
        ∧ Walk (max pageSize 1) 1 [] answers outcome
        ∧ answers.length < 2 ^ 64
        ∧ (∀ total, (∀ page, .ok page ∈ answers → page.totalCount.toNat ≤ total) →
          answers.length ≤ max 1 (total ⌈/⌉ (max pageSize 1).toNat))
        ∧ Gathers answers outcome := by
  refine (optionsFrom_transcribes store (max pageSize 1) 1 []).mono ?_
  rintro more outcome ⟨answers, rfl, hwalk⟩
  have hbound (total : Nat)
      (htotal : ∀ page, .ok page ∈ answers → page.totalCount.toNat ≤ total) :
      answers.length ≤ max 1 (total ⌈/⌉ (max pageSize 1).toNat) := by
    have hlength := hwalk.length_le htotal
    rw [UInt64.toNat_one] at hlength
    omega
  refine ⟨answers, rfl, hwalk, ?_, hbound, hwalk.gathers⟩
  -- No total is larger than the largest word, and no page smaller than one row.
  have hlength := hbound (2 ^ 64 - 1) fun page _ => Nat.le_pred_of_lt page.totalCount.toNat_lt
  have hpages : (2 ^ 64 - 1) ⌈/⌉ (max pageSize 1).toNat ≤ 2 ^ 64 - 1 := by
    have hpos := toNat_pos (max_one_ne_zero pageSize)
    exact (ceilDiv_le_iff_le_mul hpos).mpr (Nat.le_mul_of_pos_left _ hpos)
  omega

end Whitelist.Console
