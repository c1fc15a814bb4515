import Mathlib.Data.List.Count
import Whitelist.Proofs.Text.Ascii
import Whitelist.Proofs.Text.Cut
import Whitelist.Rule.Basic

/-!
# The short form of a config item

A config item may be typed as `key:OPERATOR:value`. Only the first two colons count, so the value
may hold more of them but the key may not. The case of the operator does not matter, nor does blank
space around the three parts: what is read is the same however an item is typed.

## What is here

* `Operator.ofName_eq_ok_iff`, `Operator.ofName_eq_error_iff` — the names of comparisons.
* `Parts` — the three parts of a text; `exists_parts_iff` says which texts have them.
* `ofText_of_parts`, `ofText_of_count` — what is made of the parts, and of a text without them.
* `Typed` — a way to type an item; `Typed.ofText` reads it.
* `ofText_by_parts` — which texts are items, which items they are, and what the others are refused
  for.

The reader cuts at the first colon and then at the first colon of the rest. `Parts` says this
without cutting, by what stands between the colons: the first two parts have no colon, and the third
one may have any number. That makes it a relation with one solution (`exists_parts_iff`,
`ofText_of_parts`), and the two directions of the final equivalence read off it.
-/

set_option autoImplicit false
namespace Whitelist

/-! ## Names of comparisons

Operators are compared in lower case. That a typed name stands for one operator only, needs that the
names are still different in lower case (`eq_of_lower_eq`), which is decided by going through all of
them. -/

namespace Operator

variable {op : Operator} {s : String}

/-- No two comparisons have the same name in different cases. -/
theorem eq_of_lower_eq {op' : Operator}
    (h : op.name.toList.map Char.toLower = op'.name.toList.map Char.toLower) : op = op' := by
  revert h
  cases op <;> cases op' <;> decide

/-- A name stands for an operator if it is the operator's name in some case. -/
theorem ofName_eq_ok_iff : ofName s = .ok op ↔ Text.sameIgnoringCase op.name s = true := by
  rw [ofName]
  constructor
  · intro h
    split at h
    · rename_i found hfound
      obtain rfl := Except.ok.inj h
      simpa using List.find?_some hfound
    · cases h
  · intro hsame
    split
    · rename_i found hfound
      have hfound : Text.sameIgnoringCase found.name s = true := by
        simpa using List.find?_some hfound
      exact congrArg _ (eq_of_lower_eq ((eq_of_beq hfound).trans (eq_of_beq hsame).symm))
    · rename_i hnone
      have hall : op ∈ all := by cases op <;> decide
      exact absurd hsame (List.find?_eq_none.mp hnone op hall)

/-- Every other name is refused. -/
theorem ofName_eq_error_iff {fault : Fault} : ofName s = .error fault
    ↔ (∀ op : Operator, Text.sameIgnoringCase op.name s = false)
      ∧ fault = .validation s!"unknown operator '{s}'" := by
  constructor
  · intro h
    refine ⟨fun op => ?_, ?_⟩
    · rw [Bool.eq_false_iff, ne_eq, ← ofName_eq_ok_iff, h]
      nofun
    · rw [ofName] at h
      split at h
      · cases h
      · exact (Except.error.inj h).symm
  · rintro ⟨hnone, rfl⟩
    have hfind : all.find? (fun op => Text.sameIgnoringCase op.name s) = none :=
      List.find?_eq_none.mpr fun op _ => by simp [hnone op]
    rw [ofName, hfind]

/-- No name has blank space or a colon in it. -/
theorem not_blank_of_name (op : Operator) : ∀ c ∈ op.name.toList.map Char.toLower,
    Text.isBlankChar c = false ∧ c ≠ ':' := by
  have hall : (op.name.toList.map Char.toLower).all
      (fun c => decide (Text.isBlankChar c = false ∧ c ≠ ':')) = true := by
    cases op <;> rfl
  exact fun c hc => of_decide_eq_true (List.all_eq_true.mp hall c hc)

/-- Nor does it in any case. -/
theorem not_blank_of_same (h : Text.sameIgnoringCase op.name s = true) {c : Char}
    (hc : c ∈ s.toList) : Text.isBlankChar c = false ∧ c ≠ ':' := by
  have hlower : c.toLower ∈ op.name.toList.map Char.toLower :=
    eq_of_beq h ▸ List.mem_map_of_mem hc
  obtain ⟨hblank, hcolon⟩ := op.not_blank_of_name _ hlower
  constructor
  · rw [Bool.eq_false_iff]
    intro htrue
    rw [Text.toLower_of_isBlankChar htrue, htrue] at hblank
    cases hblank
  · rintro rfl
    exact hcolon rfl

end Operator

namespace ConfigItem

variable {id : UInt32} {text : String} {key operator value : List Char}

/-! ## Parts

The parts are lists of characters as they stand in the text, with all their blank space. -/

/-- The parts of a text before, between and after its first two colons. -/
structure Parts (text : String) (key operator value : List Char) : Prop where
  toList : text.toList = key ++ ':' :: (operator ++ ':' :: value)
  key : ':' ∉ key
  operator : ':' ∉ operator

/-- A text can be cut at a character if it has one. -/
theorem exists_cut_iff {cs : List Char} :
    (∃ before after, cs = before ++ ':' :: after ∧ ':' ∉ before) ↔ 1 ≤ cs.count ':' := by
  rw [List.one_le_count_iff]
  constructor
  · rintro ⟨before, after, rfl, -⟩
    simp
  · intro hcolon
    cases hcut : Text.cut ':' cs with
    | none => exact absurd hcolon (Text.cut_eq_none_iff.mp hcut)
    | some sides => exact ⟨sides.1, sides.2, Text.cut_eq_some_iff.mp hcut⟩

/-- A text has three parts if it has two colons, and it may have more. -/
theorem exists_parts_iff : (∃ key operator value, Parts text key operator value)
    ↔ 2 ≤ text.toList.count ':' := by
  constructor
  · rintro ⟨key, operator, value, h⟩
    simp [h.toList]
    omega
  · intro hcount
    obtain ⟨key, rest, htext, hkey⟩ := exists_cut_iff.mpr (Nat.le_of_succ_le hcount)
    have hrest : 1 ≤ rest.count ':' := by
      rw [htext, List.count_append, List.count_eq_zero.mpr hkey, List.count_cons_self] at hcount
      omega
    obtain ⟨operator, value, rfl, hoperator⟩ := exists_cut_iff.mpr hrest
    exact ⟨key, operator, value, htext, hkey, hoperator⟩

/-- The middle part names a comparison, in any case and with blank space around it. -/
def Names (operator : List Char) (op : Operator) : Prop :=
  Text.sameIgnoringCase op.name (.ofList (Text.trim operator)) = true

/-- What is made of a text with three parts: the operator decides whether it is an item, and the
other two parts are stripped. -/
theorem ofText_of_parts (h : Parts text key operator value) : ofText id text
    = (Operator.ofName (.ofList (Text.trim operator))).map fun op =>
      ⟨id, .ofList (Text.trim key), op, .ofList (Text.trim value)⟩ := by
  rw [ofText, h.toList]
  simp only [Text.cut_append _ h.key, Text.cut_append _ h.operator, Option.bind_eq_bind,
    Option.bind_some]
  cases Operator.ofName (.ofList (Text.trim operator)) <;> rfl

theorem ofText_of_parts_eq_ok_iff (h : Parts text key operator value) {item : ConfigItem} :
    ofText id text = .ok item ↔ Names operator item.operator
      ∧ item = ⟨id, .ofList (Text.trim key), item.operator, .ofList (Text.trim value)⟩ := by
  rw [ofText_of_parts h, Names, ← Operator.ofName_eq_ok_iff]
  cases Operator.ofName (.ofList (Text.trim operator)) with
  | error fault => simp [Except.map]
  | ok op =>
    simp only [Except.map, Except.ok.injEq]
    constructor
    · rintro rfl
      exact ⟨rfl, rfl⟩
    · rintro ⟨rfl, hitem⟩
      exact hitem.symm

theorem ofText_of_parts_eq_error_iff (h : Parts text key operator value) {fault : Fault} :
    ofText id text = .error fault ↔ (∀ op, ¬ Names operator op)
      ∧ fault = .validation s!"unknown operator '{String.ofList (Text.trim operator)}'" := by
  simp only [ofText_of_parts h, Names, Bool.not_eq_true, ← Operator.ofName_eq_error_iff]
  cases Operator.ofName (.ofList (Text.trim operator)) <;> simp [Except.map]

/-- With fewer colons a text is refused whatever else is in it. -/
theorem ofText_of_count (h : text.toList.count ':' < 2) : ofText id text
    = .error (.validation s!"config item '{text}' must look like key:OPERATOR:value") := by
  cases hfirst : Text.cut ':' text.toList with
  | none => simp only [ofText, hfirst, Option.bind_eq_bind, Option.bind_none]
  | some sides =>
    obtain ⟨key, rest⟩ := sides
    cases hsecond : Text.cut ':' rest with
    | none =>
      simp only [ofText, hfirst, hsecond, Option.bind_eq_bind, Option.bind_some, Option.bind_none]
    | some sides =>
      obtain ⟨operator, value⟩ := sides
      obtain ⟨htext, hkey⟩ := Text.cut_eq_some_iff.mp hfirst
      obtain ⟨rfl, hoperator⟩ := Text.cut_eq_some_iff.mp hsecond
      have hcount := exists_parts_iff.mp ⟨key, operator, value, htext, hkey, hoperator⟩
      omega

/-! ## Items that are typed

`Typed` goes the other way, from an item to the texts for it. The key must be free of colons and the
ends of key and value must not be blank, or there would be no way to type the item at all. -/

/-- A part as it is typed: blank space may stand around it. -/
def Padded (inner typed : List Char) : Prop := ∃ before after,
  typed = before ++ (inner ++ after) ∧ Text.allBlank before = true ∧ Text.allBlank after = true

/-- A text is a way to type an item: its key, its operator in some case and its value, with blank
space around them. -/
structure Typed (item : ConfigItem) (text : String) : Prop where
  isTrimmed_key : Text.IsTrimmed item.key.toList
  isTrimmed_value : Text.IsTrimmed item.value.toList
  notMem_key : ':' ∉ item.key.toList
  toList : ∃ key name operator value, text.toList = key ++ ':' :: (operator ++ ':' :: value)
    ∧ Padded item.key.toList key ∧ Padded item.value.toList value
    ∧ Text.sameIgnoringCase item.operator.name name = true ∧ Padded name.toList operator

theorem notMem_of_padded {inner typed : List Char} (h : Padded inner typed) (hcolon : ':' ∉ inner) :
    ':' ∉ typed := by
  obtain ⟨before, after, rfl, hbefore, hafter⟩ := h
  have hblank {cs : List Char} (hcs : Text.allBlank cs = true) : ':' ∉ cs := fun hmem =>
    absurd (List.all_eq_true.mp hcs ':' hmem) (by decide)
  simp [hblank hbefore, hblank hafter, hcolon]

theorem isTrimmed_of_same {op : Operator} {name : String}
    (h : Text.sameIgnoringCase op.name name = true) : Text.IsTrimmed name.toList :=
  ⟨fun _ hc => (Operator.not_blank_of_same h (List.mem_of_mem_head? hc)).1,
    fun _ hc => (Operator.not_blank_of_same h (List.mem_of_mem_getLast? hc)).1⟩

/-- **However an item is typed**, it is read. -/
theorem Typed.ofText {item : ConfigItem} (h : Typed item text) :
    ofText item.id text = .ok item := by
  obtain ⟨key, name, operator, value, htext, hkey, hvalue, hsame, hoperator⟩ := h.toList
  have hname : ':' ∉ name.toList := fun hc => (Operator.not_blank_of_same hsame hc).2 rfl
  have hparts : Parts text key operator value :=
    ⟨htext, notMem_of_padded hkey h.notMem_key, notMem_of_padded hoperator hname⟩
  rw [ofText_of_parts hparts, Text.trim_eq_iff.mpr ⟨h.isTrimmed_key, hkey⟩,
    Text.trim_eq_iff.mpr ⟨h.isTrimmed_value, hvalue⟩,
    Text.trim_eq_iff.mpr ⟨isTrimmed_of_same hsame, hoperator⟩, String.ofList_toList,
    String.ofList_toList, String.ofList_toList, Operator.ofName_eq_ok_iff.mpr hsame]
  rfl

/-- A text is its stripped form with blank space around it. -/
theorem padded_trim (cs : List Char) : Padded (Text.trim cs) cs := Text.exists_eq_trim cs

theorem notMem_trim {cs : List Char} (h : ':' ∉ cs) : ':' ∉ Text.trim cs := by
  obtain ⟨before, after, hcs, -, -⟩ := Text.exists_eq_trim cs
  rw [hcs] at h
  intro hmem
  exact h (by simp [hmem])

/-- What is read as an item is a way to type it. -/
theorem typed_of_ofText {item : ConfigItem} (h : ConfigItem.ofText id text = .ok item) :
    item.id = id ∧ Typed item text := by
  rcases Nat.lt_or_ge (text.toList.count ':') 2 with hfew | hmany
  · rw [ofText_of_count hfew] at h
    cases h
  · obtain ⟨key, operator, value, hparts⟩ := exists_parts_iff.mpr hmany
    obtain ⟨hnames, hitem⟩ := (ofText_of_parts_eq_ok_iff hparts).mp h
    rw [hitem]
    refine ⟨rfl, ⟨?_, ?_, ?_, ⟨key, _, operator, value, hparts.toList, ?_, ?_, hnames, ?_⟩⟩⟩ <;>
      simp only [String.toList_ofList]
    · exact Text.isTrimmed_trim key
    · exact Text.isTrimmed_trim value
    · exact notMem_trim hparts.key
    · exact padded_trim key
    · exact padded_trim value
    · exact padded_trim operator

/-- The two ways of saying what an item text is, come to the same. -/
theorem ofText_eq_ok_iff_typed {item : ConfigItem} :
    ConfigItem.ofText id text = .ok item ↔ item.id = id ∧ Typed item text := by
  refine ⟨typed_of_ofText, ?_⟩
  rintro ⟨rfl, htyped⟩
  exact htyped.ofText

/-! ## All texts -/

theorem exists_item_iff : (∃ item, ConfigItem.ofText id text = .ok item) ↔ 2 ≤ text.toList.count ':'
    ∧ ∃ key operator value, Parts text key operator value ∧ ∃ op, Names operator op := by
  constructor
  · rintro ⟨item, hitem⟩
    rcases Nat.lt_or_ge (text.toList.count ':') 2 with hfew | hmany
    · rw [ofText_of_count hfew] at hitem
      cases hitem
    · obtain ⟨key, operator, value, hparts⟩ := exists_parts_iff.mpr hmany
      obtain ⟨hnames, -⟩ := (ofText_of_parts_eq_ok_iff hparts).mp hitem
      exact ⟨hmany, key, operator, value, hparts, item.operator, hnames⟩
  · rintro ⟨-, key, operator, value, hparts, op, hnames⟩
    exact ⟨⟨id, .ofList (Text.trim key), op, .ofList (Text.trim value)⟩,
      (ofText_of_parts_eq_ok_iff hparts).mpr ⟨hnames, rfl⟩⟩

theorem ofText_eq_error_iff {fault : Fault} : ConfigItem.ofText id text = .error fault
    ↔ (text.toList.count ':' < 2
        ∧ fault = .validation s!"config item '{text}' must look like key:OPERATOR:value")
      ∨ ∃ key operator value, Parts text key operator value ∧ (∀ op, ¬ Names operator op)
        ∧ fault = .validation s!"unknown operator '{String.ofList (Text.trim operator)}'" := by
  constructor
  · intro h
    rcases Nat.lt_or_ge (text.toList.count ':') 2 with hfew | hmany
    · rw [ofText_of_count hfew] at h
      exact .inl ⟨hfew, (Except.error.inj h).symm⟩
    · obtain ⟨key, operator, value, hparts⟩ := exists_parts_iff.mpr hmany
      exact .inr ⟨key, operator, value, hparts, (ofText_of_parts_eq_error_iff hparts).mp h⟩
  · rintro (⟨hfew, rfl⟩ | ⟨key, operator, value, hparts, h⟩)
    · exact ofText_of_count hfew
    · exact (ofText_of_parts_eq_error_iff hparts).mpr h

/-- **A config item is read from its parts.** A text is an item exactly if it has two colons or more
and what stands between the first two names a comparison, in any case. Key and value are what stands
before and after, without blank space at the ends; so however an item is typed, it is that item.
Every other text is refused as not valid: for a lack of colons, or for a name that no comparison
has. -/
theorem ofText_by_parts :
    (∀ id text, (∃ item, ofText id text = .ok item) ↔ 2 ≤ text.toList.count ':'
      ∧ ∃ key operator value, Parts text key operator value ∧ ∃ op, Names operator op)
    ∧ (∀ id text key operator value, Parts text key operator value → ∀ item,
      ofText id text = .ok item ↔ Names operator item.operator
        ∧ item = ⟨id, .ofList (Text.trim key), item.operator, .ofList (Text.trim value)⟩)
    ∧ (∀ id text item, ofText id text = .ok item ↔ item.id = id ∧ Typed item text)
    ∧ ∀ id text fault, ofText id text = .error fault
      ↔ (text.toList.count ':' < 2
          ∧ fault = .validation s!"config item '{text}' must look like key:OPERATOR:value")
        ∨ ∃ key operator value, Parts text key operator value ∧ (∀ op, ¬ Names operator op)
          ∧ fault = .validation s!"unknown operator '{String.ofList (Text.trim operator)}'" :=
  ⟨fun _ _ => exists_item_iff, fun _ _ _ _ _ hparts _ => ofText_of_parts_eq_ok_iff hparts,
    fun _ _ _ => ofText_eq_ok_iff_typed, fun _ _ _ => ofText_eq_error_iff⟩

/-- An operator in mixed case, an ideographic space, and a value with a colon in it. -/
theorem ofText_by_parts_spaced :
    Parts " region : Not_In\u3000:a:b " " region ".toList " Not_In\u3000".toList "a:b ".toList
    ∧ ofText 7 " region : Not_In\u3000:a:b " = .ok ⟨7, "region", .notIn, "a:b"⟩ := by
  have hparts : Parts " region : Not_In\u3000:a:b " " region ".toList " Not_In\u3000".toList
      "a:b ".toList := ⟨by decide, by decide, by decide⟩
  obtain ⟨-, hread, -, -⟩ := ofText_by_parts
  exact ⟨hparts, (hread 7 _ _ _ _ hparts _).mpr ⟨by unfold Names; decide, by decide⟩⟩

end ConfigItem
end Whitelist
