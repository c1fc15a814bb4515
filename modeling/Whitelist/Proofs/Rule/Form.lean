import Mathlib.Data.List.Nodup
import Mathlib.Tactic.Tauto
import Whitelist.Proofs.Condition.Grammar
import Whitelist.Proofs.Text.Ascii
import Whitelist.Rule.Form

/-!
# Which forms are accepted

The check of a form goes through its parts one after the other and stops at the first that is
wrong. What it accepts can be said without any order: every part is as it has to be by itself, the
ids of the items are distinct, and the condition speaks of those ids and of no others.

## What is here

* `IsCodeChar`, `HasParts`, `HasCondition` — what each part has to be.
* `checkRuleCode_eq_ok_iff`, `checkRuleName_eq_ok_iff` — the two text fields.
* `lacksPart_eq_false_iff`, `checkItems_eq_ok_iff` — the config items.
* `checkCondition_eq_ok_iff` — the condition.
* `WellFormed`, `accepted_iff_wellFormed` — the forms that are accepted.

`checkContent` reports the first fault it finds, so the order of its parts decides which refusal is
shown. For acceptance the order is irrelevant: a sequence of checks passes if each of them does.
Each part therefore gets an equivalence of its own, `check… = .ok ()` on the left and a condition on
the data on the right, and the whole is their conjunction (`checkContent_eq_ok_iff_wellFormed`).
-/

set_option autoImplicit false
namespace Whitelist

/-! ## Text fields

The length of a code is measured in bytes and that of a name in characters. For codes this makes no
difference, as their characters are ASCII: one that is too long in bytes only is refused for its
characters anyway. -/

/-- The characters of rule codes: ASCII letters and digits, `-` and `_`. -/
def IsCodeChar (c : Char) : Prop :=
  ('a' ≤ c ∧ c ≤ 'z') ∨ ('A' ≤ c ∧ c ≤ 'Z') ∨ ('0' ≤ c ∧ c ≤ '9') ∨ c = '-' ∨ c = '_'

theorem isRuleCodeChar_iff {c : Char} : isRuleCodeChar c = true ↔ IsCodeChar c := by
  have hranges : c.isAlphanum = (decide ('A' ≤ c ∧ c ≤ 'Z')
      || (decide ('a' ≤ c) && decide (c ≤ 'z')) || (decide ('0' ≤ c) && decide (c ≤ '9'))) := rfl
  rw [isRuleCodeChar, hranges, IsCodeChar]
  simp only [Bool.or_eq_true, Bool.and_eq_true, decide_eq_true_eq]
  tauto

/-- Such characters are one byte each. -/
theorem IsCodeChar.utf8Size_eq_one {c : Char} (h : IsCodeChar c) : c.utf8Size = 1 := by
  rw [Char.utf8Size_eq_one_iff]
  rcases h with ⟨-, h⟩ | ⟨-, h⟩ | ⟨-, h⟩ | rfl | rfl
  · exact UInt32.le_trans h (by decide)
  · exact UInt32.le_trans h (by decide)
  · exact UInt32.le_trans h (by decide)
  · decide
  · decide

theorem checkRuleCode_eq_ok_iff {code : String} : checkRuleCode code = .ok ()
    ↔ (1 ≤ code.length ∧ code.length ≤ 128) ∧ ∀ c ∈ code.toList, IsCodeChar c := by
  have hchars : code.toList.all isRuleCodeChar = true ↔ ∀ c ∈ code.toList, IsCodeChar c := by
    simp only [List.all_eq_true, isRuleCodeChar_iff]
  have hsome : 1 ≤ code.length ↔ code.toList ≠ [] := by
    rw [← String.length_toList]
    exact List.length_pos_iff
  rw [checkRuleCode, ← hchars, hsome]
  by_cases hall : code.toList.all isRuleCodeChar = true
  · have hascii : ∀ c ∈ code.toList, c.utf8Size = 1 := fun c hc =>
      (hchars.mp hall c hc).utf8Size_eq_one
    have hbytes : code.utf8ByteSize = code.length := by
      rw [← String.length_toList, ← Text.utf8ByteSize_ofList hascii, String.ofList_toList]
    rw [hbytes, if_pos hall, maxRuleCodeBytes]
    split_ifs with hnil hlong
    · exact iff_of_false nofun fun h => h.1.1 hnil
    · exact iff_of_false nofun fun h => Nat.not_lt.mpr h.1.2 hlong
    · exact iff_of_true rfl ⟨⟨hnil, Nat.not_lt.mp hlong⟩, hall⟩
  · rw [if_neg hall]
    refine iff_of_false (fun h => ?_) fun h => hall h.2
    split_ifs at h

theorem checkRuleName_eq_ok_iff {name : String} :
    checkRuleName name = .ok () ↔ Text.isBlank name = false ∧ name.length ≤ 128 := by
  rw [checkRuleName, String.length_toList, maxRuleNameChars]
  split_ifs with hblank hlong
  · refine iff_of_false nofun fun h => ?_
    rw [h.1] at hblank
    cases hblank
  · exact iff_of_false nofun fun h => Nat.not_lt.mpr h.2 hlong
  · exact iff_of_true rfl ⟨Bool.eq_false_iff.mpr hblank, Nat.not_lt.mp hlong⟩

/-! ## Config items

A value is a list where the operator is `isIn` or `notIn`, and is then cut at commas. That one piece
is not blank makes the whole not blank, which is why `HasParts` can ask for both. -/

/-- Cutting a text adds no characters to it. -/
theorem mem_of_mem_splitOn {sep c : Char} {cs piece : List Char} (hpiece : piece ∈ cs.splitOn sep)
    (hc : c ∈ piece) : c ∈ cs := by
  induction cs generalizing piece with
  | nil =>
    rw [List.splitOn_nil, List.mem_singleton] at hpiece
    rwa [← hpiece]
  | cons d cs ih =>
    rw [List.splitOn_cons_eq_if_modifyHead] at hpiece
    split at hpiece
    · rcases List.mem_cons.mp hpiece with rfl | hlater
      · cases hc
      · exact List.mem_cons_of_mem d (ih hlater hc)
    · obtain ⟨first, rest, hsplit⟩ := List.exists_cons_of_ne_nil (List.splitOn_ne_nil sep cs)
      rw [hsplit, List.modifyHead_cons, List.mem_cons] at hpiece
      rcases hpiece with rfl | hlater
      · rcases List.mem_cons.mp hc with rfl | hfirst
        · exact List.mem_cons_self
        · exact List.mem_cons_of_mem d (ih (hsplit ▸ List.mem_cons_self) hfirst)
      · exact List.mem_cons_of_mem d (ih (hsplit ▸ List.mem_cons_of_mem first hlater) hc)

/-- A text with a piece that is not blank is not blank. -/
theorem allBlank_of_mem_splitOn {sep : Char} {cs piece : List Char}
    (hpiece : piece ∈ cs.splitOn sep) (h : Text.allBlank cs = true) :
    Text.allBlank piece = true :=
  List.all_eq_true.mpr fun c hc => List.all_eq_true.mp h c (mem_of_mem_splitOn hpiece hc)

namespace ConfigItem

/-- An item has a key and a value, and where the value is a list, a piece of it is not blank. -/
structure HasParts (item : ConfigItem) : Prop where
  key : Text.isBlank item.key = false
  value : Text.isBlank item.value = false
  piece : item.operator = .isIn ∨ item.operator = .notIn →
    ∃ piece ∈ item.value.toList.splitOn ',', Text.allBlank piece = false

/-- Pieces are trimmed and the empty ones dropped before they are looked at, which does not change
whether one of them is not blank. -/
theorem all_isBlank_pieces_eq_false_iff {s : String} : (Text.pieces s).all Text.isBlank = false
    ↔ ∃ piece ∈ s.toList.splitOn ',', Text.allBlank piece = false := by
  have hblank (piece : List Char) :
      Text.isBlank (.ofList (Text.trim piece)) = Text.allBlank piece := by
    rw [Text.isBlank, String.toList_ofList, Text.allBlank_trim]
  rw [List.all_eq_false]
  constructor
  · rintro ⟨_, hvalue, hsome⟩
    obtain ⟨_, htrimmed, rfl⟩ := List.mem_map.mp hvalue
    obtain ⟨piece, hpiece, rfl⟩ := List.mem_map.mp (List.mem_of_mem_filter htrimmed)
    rw [hblank, Bool.not_eq_true] at hsome
    exact ⟨piece, hpiece, hsome⟩
  · rintro ⟨piece, hpiece, hsome⟩
    have hkept : Text.trim piece ≠ [] := fun hnil => by
      rw [Text.trim_eq_nil_iff.mp hnil] at hsome
      cases hsome
    refine ⟨.ofList (Text.trim piece), ?_, by rw [hblank, hsome]; exact Bool.false_ne_true⟩
    exact List.mem_map_of_mem
      (List.mem_filter.mpr ⟨List.mem_map_of_mem hpiece, decide_eq_true hkept⟩)

end ConfigItem

namespace RuleForm

/-- An item that lacks no part has all of them. -/
theorem lacksPart_eq_false_iff {item : ConfigItem} :
    lacksPart item = false ↔ item.HasParts := by
  have htakes : item.operator.takesList = true
      ↔ item.operator = .isIn ∨ item.operator = .notIn := by
    cases item.operator <;> simp [Operator.takesList]
  rw [lacksPart, Bool.or_eq_false_iff, ConfigItem.values]
  by_cases hlist : item.operator.takesList = true
  · rw [if_pos hlist, ConfigItem.all_isBlank_pieces_eq_false_iff]
    constructor
    · rintro ⟨hkey, piece, hpiece, hsome⟩
      refine ⟨hkey, Bool.eq_false_iff.mpr fun hblank => ?_, fun _ => ⟨piece, hpiece, hsome⟩⟩
      rw [allBlank_of_mem_splitOn hpiece hblank] at hsome
      cases hsome
    · intro h
      exact ⟨h.key, h.piece (htakes.mp hlist)⟩
  · rw [if_neg hlist, List.all_cons, List.all_nil, Bool.and_true]
    exact ⟨fun ⟨hkey, hvalue⟩ => ⟨hkey, hvalue, fun h => absurd (htakes.mpr h) hlist⟩,
      fun h => ⟨h.key, h.value⟩⟩

/-- The items are complete, and no id stands twice or among those seen before. -/
theorem checkItems_eq_ok_iff {seen : List UInt32} {items : List ConfigItem} :
    checkItems seen items = .ok ()
      ↔ (∀ item ∈ items, item.HasParts) ∧ (items.map (·.id)).Nodup
        ∧ ∀ item ∈ items, item.id ∉ seen := by
  induction items generalizing seen with
  | nil => simp [checkItems]
  | cons item rest ih =>
    rw [checkItems, List.map_cons, List.nodup_cons, List.forall_mem_cons, List.forall_mem_cons]
    split_ifs with hlacks hseen
    · refine iff_of_false nofun fun h => ?_
      rw [lacksPart_eq_false_iff.mpr h.1.1] at hlacks
      cases hlacks
    · exact iff_of_false nofun fun h => h.2.2.1 hseen
    · have hparts : item.HasParts := lacksPart_eq_false_iff.mp (Bool.eq_false_iff.mpr hlacks)
      rw [ih]
      constructor
      · rintro ⟨hall, hnodup, hfresh⟩
        refine ⟨⟨hparts, hall⟩, ⟨fun hmem => ?_, hnodup⟩, hseen, fun later hlater hold => ?_⟩
        · obtain ⟨later, hlater, hsame⟩ := List.mem_map.mp hmem
          exact hfresh later hlater (hsame ▸ List.mem_cons_self)
        · exact hfresh later hlater (List.mem_cons_of_mem _ hold)
      · rintro ⟨⟨-, hall⟩, ⟨hnew, hnodup⟩, -, hfresh⟩
        refine ⟨hall, hnodup, fun later hlater hmem => ?_⟩
        rcases List.mem_cons.mp hmem with hsame | hold
        · exact hnew (List.mem_map.mpr ⟨later, hlater, hsame⟩)
        · exact hfresh later hlater hold

/-! ## The condition

A condition that is given is checked even where none would be needed, that is, with one item or
without any. A blank one counts as missing. -/

/-- Without a condition there is one item at most. A condition is one of the grammar, over the ids
of the items and no others. -/
inductive HasCondition (content : RuleContent) : Prop
  | unneeded (hblank : ∀ text ∈ content.condition, Text.isBlank text = true)
      (hitems : content.items.length ≤ 1)
  | given (text : String) (htext : content.condition = some text)
      (hsome : Text.isBlank text = false)
      (hgrammar : Condition.IsCondition (content.items.map (·.id)) text.toList)

/-- The check is made of the text without the blank space at its ends, which changes nothing. -/
theorem check_strip_eq_ok_iff {text : String} {ids : List UInt32} :
    Condition.check (Text.strip text) ids = .ok () ↔ Condition.IsCondition ids text.toList := by
  rw [Condition.check_eq_ok_iff]
  refine exists_congr fun tokens => ?_
  rw [Text.strip, String.toList_ofList, Condition.scan_eq_some_iff, Condition.written_trim_iff,
    Condition.leaves_nil_iff_derives, and_comm]

theorem strip_ne_empty_iff {text : String} : Text.strip text ≠ "" ↔ Text.isBlank text = false := by
  rw [Text.isBlank, ← Bool.not_eq_true, ← Text.trim_eq_nil_iff, Text.strip]
  refine not_congr ⟨fun h => ?_, fun h => by rw [h]⟩
  have hchars := congrArg String.toList h
  rwa [String.toList_ofList] at hchars

/-- A condition that is blank counts as none. -/
theorem checkCondition_of_blank {content : RuleContent}
    (h : ∀ text ∈ content.condition, Text.isBlank text = true) :
    checkCondition content
      = if content.items.length > 1 then .error .conditionRequired else .ok () := by
  have hnone : (content.condition.map Text.strip).filter (· ≠ "") = none := by
    refine Option.filter_eq_none_iff.mpr fun stripped hstripped hsome => ?_
    obtain ⟨text, htext, rfl⟩ := Option.map_eq_some_iff.mp hstripped
    have hfull := strip_ne_empty_iff.mp (of_decide_eq_true hsome)
    rw [h text htext] at hfull
    cases hfull
  rw [checkCondition, hnone, List.length_map]

/-- A condition that is given has to be one over the ids of the items. -/
theorem checkCondition_of_given {content : RuleContent} {text : String}
    (htext : content.condition = some text) (hsome : Text.isBlank text = false) :
    checkCondition content = .ok ()
      ↔ Condition.IsCondition (content.items.map (·.id)) text.toList := by
  have hgiven : (content.condition.map Text.strip).filter (· ≠ "") = some (Text.strip text) := by
    rw [htext]
    exact Option.filter_eq_some_iff.mpr
      ⟨rfl, decide_eq_true (strip_ne_empty_iff.mpr hsome)⟩
  rw [checkCondition, hgiven, ← check_strip_eq_ok_iff]
  cases hcheck : Condition.check (Text.strip text) (content.items.map (·.id)) with
  | ok => simp [hcheck]
  | error e => simp [hcheck]

theorem checkCondition_eq_ok_iff {content : RuleContent} :
    checkCondition content = .ok () ↔ HasCondition content := by
  by_cases hblank : ∀ text ∈ content.condition, Text.isBlank text = true
  · rw [checkCondition_of_blank hblank]
    constructor
    · intro h
      by_cases hmany : content.items.length > 1
      · rw [if_pos hmany] at h
        cases h
      · exact .unneeded hblank (Nat.le_of_not_lt hmany)
    · intro h
      cases h with
      | unneeded _ hitems => rw [if_neg (Nat.not_lt.mpr hitems)]
      | given text htext hsome _ =>
        rw [hblank text htext] at hsome
        cases hsome
  · simp only [not_forall, Bool.not_eq_true] at hblank
    obtain ⟨text, htext, hsome⟩ := hblank
    rw [checkCondition_of_given htext hsome]
    constructor
    · exact .given text htext hsome
    · intro h
      cases h with
      | unneeded hblank _ =>
        rw [hblank text htext] at hsome
        cases hsome
      | given other hother _ hgrammar =>
        obtain rfl : text = other := Option.some_inj.mp (htext.symm.trans hother)
        exact hgrammar

/-! ## The whole form

`accepted_iff_wellFormed` also says how a form that is not accepted is refused: as invalid, and in
no other way. -/

/-- A form has a code and a name, a policy text if its rule is one, complete items with ids of their
own, and a condition on those items where one is needed. -/
structure WellFormed (content : RuleContent) : Prop where
  code : (1 ≤ content.code.length ∧ content.code.length ≤ 128)
    ∧ ∀ c ∈ content.code.toList, IsCodeChar c
  name : Text.isBlank content.name = false ∧ content.name.length ≤ 128
  policy : content.ruleType = .rego →
    ∃ policy, content.policy = some policy ∧ Text.isBlank policy = false
  items : ∀ item ∈ content.items, item.HasParts
  ids : (content.items.map (·.id)).Nodup
  condition : HasCondition content

theorem complaints_eq_nil_iff {content : RuleContent} : complaints content = []
    ↔ checkRuleCode content.code = .ok () ∧ checkRuleName content.name = .ok () := by
  rw [complaints, List.append_eq_nil_iff, complaint?, complaint?]
  rcases checkRuleCode content.code with _ | ⟨⟩ <;> rcases checkRuleName content.name with _ | ⟨⟩
    <;> simp

theorem isMissing_eq_false_iff {text : Option String} :
    isMissing text = false ↔ ∃ s, text = some s ∧ Text.isBlank s = false := by
  cases text <;> simp [isMissing]

/-- A form passes if none of the four parts of the check refuses it. -/
theorem checkContent_eq_ok_iff {content : RuleContent} : checkContent content = .ok ()
    ↔ complaints content = [] ∧ ¬ (content.ruleType = .rego ∧ isMissing content.policy = true)
      ∧ checkItems [] content.items = .ok () ∧ checkCondition content = .ok () := by
  rw [checkContent]
  by_cases hfields : complaints content = []
  · rw [if_neg (not_not.mpr hfields)]
    show (if content.ruleType = .rego ∧ isMissing content.policy = true
      then Except.error FormError.policyRequired
      else checkItems [] content.items >>= fun _ => checkCondition content) = .ok () ↔ _
    by_cases hpolicy : content.ruleType = .rego ∧ isMissing content.policy = true
    · rw [if_pos hpolicy]
      exact iff_of_false nofun fun h => h.2.1 hpolicy
    · rw [if_neg hpolicy]
      cases hitems : checkItems [] content.items with
      | error e => exact iff_of_false nofun fun h => nomatch h.2.2.1
      | ok => exact ⟨fun h => ⟨hfields, hpolicy, rfl, h⟩, fun h => h.2.2.2⟩
  · rw [if_pos hfields]
    exact iff_of_false nofun fun h => hfields h.1

theorem checkContent_eq_ok_iff_wellFormed {content : RuleContent} :
    checkContent content = .ok () ↔ WellFormed content := by
  have hpolicy : ¬ (content.ruleType = .rego ∧ isMissing content.policy = true)
      ↔ (content.ruleType = .rego →
        ∃ policy, content.policy = some policy ∧ Text.isBlank policy = false) := by
    rw [not_and, Bool.not_eq_true, isMissing_eq_false_iff]
  rw [checkContent_eq_ok_iff, complaints_eq_nil_iff, checkRuleCode_eq_ok_iff,
    checkRuleName_eq_ok_iff, hpolicy, checkItems_eq_ok_iff, checkCondition_eq_ok_iff]
  constructor
  · rintro ⟨⟨hcode, hname⟩, hpolicy, ⟨hitems, hids, -⟩, hcondition⟩
    exact ⟨hcode, hname, hpolicy, hitems, hids, hcondition⟩
  · intro h
    exact ⟨⟨h.code, h.name⟩, h.policy, ⟨h.items, h.ids, fun _ _ => List.not_mem_nil⟩, h.condition⟩

/-- **The forms that are accepted are those that are well formed.** Every other form is refused, as
one that is not valid, in whatever order the check names the fields. -/
theorem accepted_iff_wellFormed (form : RuleForm) (order : LineOrder) :
    (form.validate order = .ok () ↔ WellFormed form.content)
      ∧ ((∃ text, form.validate order = .error (.validation text))
        ↔ ¬ WellFormed form.content) := by
  rw [← checkContent_eq_ok_iff_wellFormed, validate, check]
  cases checkContent form.content with
  | ok => simp
  | error e => simp [FormError.fault]

-- A list of blank pieces is no value, though its text is not blank.
example (order : LineOrder) :
    validate ⟨none, { code := "R-1", name := "one", items := [⟨7, "region", .isIn, " , "⟩] }⟩ order
      = .error (.validation "config item 7 needs a key and a value") := by
  cases order <;> decide +kernel

end RuleForm
end Whitelist
