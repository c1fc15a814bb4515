import Whitelist.Proofs.Wire.Alike
import Whitelist.Proofs.Wire.RoundTrip

/-!
# Objects with members in another order, with more members, and with repeated ones

What goes over the wire is read by the names of its fields. The order of members does not matter, at
any level, and neither do members of other names. A field that is given twice, under one of its
names or under two, cannot be read.

## What is here

* `RuleRecord.ofJson?_alike` and its like, with the instances of `Blind` — values of each type go by
  their slots.
* `RuleRecord.ofJson?_eq_none` and its like — a list with an item that cannot be read.
* `WireType.layout`, `WireType.slots`, `WireType.part?` — the fields of each type, how they are
  found, and the list of another type's values among them.
* `WireType.Varies`, `WireType.GivesTwice` — what makes no difference, and what cannot be read.
* `WireType.read_by_members` — both, for values and for texts.

The first two statements rest on the same idea: a reader looks at an object only through the slots
of its fields. Reordered members give slots that are alike (`SlotsAlike`), though not equal, since
the values in them may themselves be reordered; members of other names give the very same slots.
`Blind R` says of a reader that it does not tell values apart that are related by `R`, and each
instance of it is proved from those for the types of its fields.

A list of other values is the one place where a variation can sit deeper. `WireType.part?` names it,
and `read_part` carries a variation of one item up to the value around it.
-/

set_option autoImplicit false
namespace Whitelist

open Wire
open Json (Reordered)

variable {α : Type} {R : Json → Json → Prop} {v v' : Json}

/-! ## Each type

The lemmas `ofJson?_alike` are stated for any relation `R` for which the inner reader is blind, not
for `Reordered` alone, because `read_part` needs them for `SameItems` as well. -/

instance : ReadsPlain RuleType.ofJson? := inferInstanceAs (ReadsPlain (asName _ _))

instance : ReadsPlain Operator.ofJson? := inferInstanceAs (ReadsPlain (asName _ _))

instance : ReadsPlain ActionType.ofJson? := inferInstanceAs (ReadsPlain (asName _ _))

instance : ReadsPlain NotifyChannel.ofJson? := inferInstanceAs (ReadsPlain (asName _ _))

instance : ReadsPlain NotifyChannel.ofMember? := inferInstanceAs (ReadsPlain (asNameLoosely _ _))

instance : ReadsPlain flagOfJson? where
  isPlain_of_read {v} _ h := by
    unfold flagOfJson? at h
    split at h
    · rfl
    · obtain ⟨n, hread, -⟩ := Option.map_eq_some_iff.mp h
      exact ReadsPlain.isPlain_of_read hread

/-- Where there are no slots, nothing is made of them. -/
theorem bind_of_none {β : Type} {x : Option α} {k : α → Option β} (h : x = none) :
    x >>= k = none := by
  rw [h]
  rfl

instance : Blind Reordered ConfigItem.ofJson? :=
  .of_slots (slots ConfigItem.layout) fun h => bind_alike h fun hslots => by
    -- With more or fewer slots than fields, nothing is read on either side.
    rcases hslots with _ | ⟨hid, _ | ⟨hkey, _ | ⟨hoperator, _ | ⟨hvalue, _ | _⟩⟩⟩⟩ <;> try rfl
    simp only [required_alike hid, required_alike hkey, required_alike hoperator,
      required_alike hvalue]

namespace LockStatus

theorem ofSlots_alike [Faint R] {isLockHolder isLockHolder' holderName holderName' : Slot}
    (hholder : SlotAlike R isLockHolder isLockHolder')
    (hname : SlotAlike R holderName holderName') :
    ofSlots isLockHolder holderName = ofSlots isLockHolder' holderName' := by
  simp only [ofSlots, withDefault_alike hholder, optionalOrNone_alike hname]

instance : Blind Reordered ofJson? :=
  .of_slots (slots layout) fun h => bind_alike h fun hslots => by
    rcases hslots with _ | ⟨hholder, _ | ⟨hname, _ | _⟩⟩ <;> try rfl
    exact ofSlots_alike hholder hname

end LockStatus

namespace RuleRecord

theorem ofJson?_alike [Faint R] [Blind R (asList ConfigItem.ofJson?)]
    (h : SlotsAlike R (memberSlots layout v) (memberSlots layout v')) : ofJson? v = ofJson? v' :=
  bind_alike h fun hslots => by
    rcases hslots with _ | ⟨hid, _ | ⟨hcode, _ | ⟨hname, _ | ⟨hdescription, _ | ⟨htype, _ |
      ⟨henabled, _ | ⟨hitems, _ | ⟨hcondition, _ | ⟨hpolicy, _ | ⟨hholder, _ | ⟨hholderName, _ |
      ⟨htenantId, _ | ⟨htenantName, _ | ⟨hcreator, _ | ⟨hcreated, _ | ⟨hmodified, _ |
      _⟩⟩⟩⟩⟩⟩⟩⟩⟩⟩⟩⟩⟩⟩⟩⟩ <;> try rfl
    simp only [required_alike hid, withDefault_alike hcode, withDefault_alike hname,
      optionalOrNone_alike hdescription, withDefault_alike htype, withDefault_alike henabled,
      withDefault_alike hitems, optionalOrNone_alike hcondition, optionalOrNone_alike hpolicy,
      LockStatus.ofSlots_alike hholder hholderName, optionalOrNone_alike htenantId,
      optionalOrNone_alike htenantName, optionalOrNone_alike hcreator,
      optionalOrNone_alike hcreated, optionalOrNone_alike hmodified]

instance : Blind Reordered ofJson? := .of_slots (memberSlots layout) ofJson?_alike

/-- A record with a config item that cannot be read cannot be read. -/
theorem ofJson?_eq_none {found : List Slot} {items : Json}
    (hfound : memberSlots layout v = some found) (hitems : found[6]? = some (.given items))
    (h : asList ConfigItem.ofJson? items = none) : ofJson? v = none := by
  rw [ofJson?, hfound, Option.bind_eq_bind, Option.bind_some]
  split
  · cases hitems
    simp [withDefault, h]
  · rfl

end RuleRecord

instance : Blind Reordered RuleGroup.ofJson? :=
  .of_slots (slots RuleGroup.layout) fun h => bind_alike h fun hslots => by
    rcases hslots with _ | ⟨hcode, _ | ⟨hname, _ | ⟨hcount, _ | _⟩⟩⟩ <;> try rfl
    simp only [required_alike hcode, withDefault_alike hname, withDefault_alike hcount]

instance : Blind Reordered RecordQuery.ofJson? :=
  .of_slots (slots RecordQuery.layout) fun h => bind_alike h fun hslots => by
    rcases hslots with _ | ⟨hcode, _ | ⟨hname, _ | ⟨htype, _ | ⟨htenant, _ | ⟨hcreator, _ |
      _⟩⟩⟩⟩⟩ <;> try rfl
    simp only [optional_alike hcode, optional_alike hname, optional_alike htype,
      optional_alike htenant, optional_alike hcreator]

instance : Blind Reordered GroupQuery.ofJson? :=
  .of_slots (slots GroupQuery.layout) fun h => bind_alike h fun hslots => by
    rcases hslots with _ | ⟨hcodes, _ | _⟩ <;> try rfl
    simp only [withDefault_alike hcodes]

namespace RuleForm

theorem ofJson?_alike [Faint R] [Blind R (asList ConfigItem.ofJson?)]
    (h : SlotsAlike R (slots layout v) (slots layout v')) : ofJson? v = ofJson? v' :=
  bind_alike h fun hslots => by
    rcases hslots with _ | ⟨hid, _ | ⟨hcode, _ | ⟨hname, _ | ⟨hdescription, _ | ⟨htype, _ |
      ⟨henabled, _ | ⟨hitems, _ | ⟨hcondition, _ | ⟨hpolicy, _ | _⟩⟩⟩⟩⟩⟩⟩⟩⟩ <;> try rfl
    simp only [optional_alike hid, withDefault_alike hcode, required_alike hname,
      optionalOrNone_alike hdescription, required_alike htype, required_alike henabled,
      withDefault_alike hitems, optionalOrNone_alike hcondition, optionalOrNone_alike hpolicy]

instance : Blind Reordered ofJson? := .of_slots (slots layout) ofJson?_alike

/-- Neither can a form. -/
theorem ofJson?_eq_none {found : List Slot} {items : Json} (hfound : slots layout v = some found)
    (hitems : found[6]? = some (.given items)) (h : asList ConfigItem.ofJson? items = none) :
    ofJson? v = none := by
  rw [ofJson?, hfound, Option.bind_eq_bind, Option.bind_some]
  split
  · cases hitems
    simp [withDefault, h]
  · rfl

end RuleForm

namespace ActionFields

theorem ofSlots_alike [Faint R] [Blind R (asList asString)]
    {readChannel : Json → Option NotifyChannel} [ReadsPlain readChannel]
    {channel channel' name name' url url' period period' times times' : Slot}
    (hchannel : SlotAlike R channel channel') (hname : SlotAlike R name name')
    (hurl : SlotAlike R url url') (hperiod : SlotAlike R period period')
    (htimes : SlotAlike R times times') :
    ofSlots readChannel channel name url period times
      = ofSlots readChannel channel' name' url' period' times' := by
  simp only [ofSlots, optionalOrNone_alike hchannel, optionalOrNone_alike hname,
    optionalOrNone_alike hurl, optionalOrNone_alike hperiod, withDefault_alike htimes]

instance : Blind Reordered ofJson? :=
  .of_slots (slots layout) fun h => bind_alike h fun hslots => by
    rcases hslots with _ | ⟨hchannel, _ | ⟨hname, _ | ⟨hurl, _ | ⟨hperiod, _ | ⟨htimes, _ |
      _⟩⟩⟩⟩⟩ <;> try rfl
    exact ofSlots_alike hchannel hname hurl hperiod htimes

end ActionFields

instance : Blind Reordered Action.ofJson? :=
  .of_slots (memberSlots Action.layout) fun h => bind_alike h fun hslots => by
    rcases hslots with _ | ⟨htype, _ | ⟨hchannel, _ | ⟨hname, _ | ⟨hurl, _ | ⟨hperiod, _ |
      ⟨htimes, _ | _⟩⟩⟩⟩⟩⟩ <;> try rfl
    simp only [required_alike htype,
      ActionFields.ofSlots_alike hchannel hname hurl hperiod htimes]

instance : Blind Reordered ActionItem.ofJson? :=
  .of_slots (memberSlots ActionItem.layout) fun h => bind_alike h fun hslots => by
    rcases hslots with _ | ⟨hidx, _ | ⟨htype, _ | ⟨hchannel, _ | ⟨hname, _ | ⟨hurl, _ |
      ⟨hperiod, _ | ⟨htimes, _ | _⟩⟩⟩⟩⟩⟩⟩ <;> try rfl
    simp only [required_alike hidx, required_alike htype,
      ActionFields.ofSlots_alike hchannel hname hurl hperiod htimes]

namespace Page

variable {read : Json → Option α}

theorem ofJson?_alike [Faint R] [Blind R (asList read)]
    (h : SlotsAlike R (slots layout v) (slots layout v')) : ofJson? read v = ofJson? read v' :=
  bind_alike h fun hslots => by
    rcases hslots with _ | ⟨htotal, _ | ⟨hnumber, _ | ⟨havailable, _ | ⟨hitems, _ |
      _⟩⟩⟩⟩ <;> try rfl
    simp only [required_alike htotal, required_alike hnumber, required_alike havailable,
      required_alike hitems]

instance [Blind Reordered read] : Blind Reordered (ofJson? read) :=
  .of_slots (slots layout) ofJson?_alike

/-- A page with an item that cannot be read cannot be read. -/
theorem ofJson?_eq_none {found : List Slot} {items : Json} (hfound : slots layout v = some found)
    (hitems : found[3]? = some (.given items)) (h : asList read items = none) :
    ofJson? read v = none := by
  rw [ofJson?, hfound, Option.bind_eq_bind, Option.bind_some]
  split
  · cases hitems
    simp [required, h]
  · rfl

end Page

/-! ## All of them

`WireType` lists the types that go over the wire, so that the statement is one and not twelve.
`Varies` is closed under its own steps. A variation may therefore mix reordering, added members and
changes within lists, at any depth. -/

namespace WireType

/-- The fields of a type. -/
abbrev layout : WireType → List FieldNames
  | record => RuleRecord.layout
  | form => RuleForm.layout
  | configItem => ConfigItem.layout
  | lock => LockStatus.layout
  | group => RuleGroup.layout
  | recordQuery => RecordQuery.layout
  | groupQuery => GroupQuery.layout
  | actionFields => ActionFields.layout
  | actionItem => ActionItem.layout
  | action => Action.layout
  | recordPage | groupPage => Page.layout

/-- The slots of the fields of a type. -/
abbrev slots : WireType → Json → Option (List Slot)
  | record => memberSlots RuleRecord.layout
  | actionItem => memberSlots ActionItem.layout
  | action => memberSlots Action.layout
  | type => Wire.slots type.layout

/-- The name of the one field that holds a list of values of another type, and that type. -/
def part? : WireType → Option (String × WireType)
  | record | form => some ("ruleConfigList", configItem)
  | recordPage => some ("pageItems", record)
  | groupPage => some ("pageItems", group)
  | _ => none

/-- The second value is the first one with members in another order, at any level, with or without
members that are no fields of the type, and with the values in its list varied in the same ways. -/
inductive Varies : WireType → Json → Json → Prop
  | reordered {type : WireType} {v v' : Json} (h : Reordered v v') : Varies type v v'
  | extra {type : WireType} {name : String} {value : Json} (members : List (String × Json))
      (hname : ∀ names ∈ type.layout, name ∉ names) (hvalue : value.readable = true) :
      Varies type (.obj members) (.obj ((name, value) :: members))
  | part {type itemType : WireType} {name : String} (hpart : type.part? = some (name, itemType))
      (before after : List (String × Json)) (front back : List Json) {v v' : Json}
      (h : Varies itemType v v') :
      Varies type (.obj (before ++ (name, .arr (front ++ v :: back)) :: after))
        (.obj (before ++ (name, .arr (front ++ v' :: back)) :: after))
  | symm {type : WireType} {v v' : Json} (h : Varies type v v') : Varies type v' v
  | trans {type : WireType} {u v w : Json} (h : Varies type u v) (h' : Varies type v w) :
      Varies type u w

/-- There are two members for one field of the type, of one of its names or of two, or it is so with
a value in its list. -/
inductive GivesTwice : WireType → Json → Prop
  | field {type : WireType} {names : FieldNames} {members : List (String × Json)}
      (hnames : names ∈ type.layout) (h : 2 ≤ members.countP (·.1 ∈ names)) :
      GivesTwice type (.obj members)
  | part {type itemType : WireType} {name : String} (hpart : type.part? = some (name, itemType))
      {members : List (String × Json)} {items : List Json} (hmember : (name, .arr items) ∈ members)
      {v : Json} (hv : v ∈ items) (h : GivesTwice itemType v) : GivesTwice type (.obj members)

instance lays (type : WireType) : Lays type.layout type.slots := by
  cases type <;> exact inferInstance

/-- No reader of a wire type goes by the order of members. -/
theorem blind (type : WireType) : Blind Reordered type.read := by
  cases type <;> exact inferInstance

/-- Without slots there is nothing to read. -/
theorem read_eq_none_of_slots (type : WireType) (h : type.slots v = none) : type.read v = none := by
  cases type <;> exact bind_of_none h

/-- What has the same slots is read as the same. -/
theorem read_eq_of_slots (type : WireType) (h : type.slots v = type.slots v') :
    type.read v = type.read v' := by
  cases type <;> exact congrArg (· >>= _) h

/-- A list is read item by item. -/
theorem read_part {type itemType : WireType} {name : String}
    (hpart : type.part? = some (name, itemType)) (before after : List (String × Json))
    (h : SameItems itemType.read v v') :
    type.read (.obj (before ++ (name, v) :: after))
      = type.read (.obj (before ++ (name, v') :: after)) := by
  have hslots : SlotsAlike (SameItems itemType.read)
      (type.slots (.obj (before ++ (name, v) :: after)))
      (type.slots (.obj (before ++ (name, v') :: after))) :=
    Lays.obj_alike (.member before name after h)
  cases type with
  | record =>
    cases hpart
    exact RuleRecord.ofJson?_alike hslots
  | form =>
    cases hpart
    exact RuleForm.ofJson?_alike hslots
  | recordPage =>
    cases hpart
    exact Page.ofJson?_alike hslots
  | groupPage =>
    cases hpart
    exact Page.ofJson?_alike hslots
  | _ => cases hpart

/-- What varies in these ways is read as the same, and as far as before. -/
theorem Varies.agree {type : WireType} (h : type.Varies v v') :
    type.read v = type.read v' ∧ v.readable = v'.readable := by
  induction h with
  | @reordered type v v' h => exact ⟨type.blind.read_eq h, h.readable_eq⟩
  | @extra type name value members hname hvalue =>
    have hslots : type.slots (.obj ((name, value) :: members)) = type.slots (.obj members) :=
      Lays.obj_cons hname hvalue
    refine ⟨type.read_eq_of_slots hslots.symm, ?_⟩
    rw [Json.readable, Json.readable, Json.readableMembers, hvalue, Bool.true_and]
  | part hpart before after front back _ ih =>
    obtain ⟨hread, hreadable⟩ := ih
    refine ⟨read_part hpart before after (.item front back hread hreadable), ?_⟩
    simp [Json.readable, Json.readableMembers_eq_all, Json.readableItems_eq_all, hreadable]
  | symm _ ih => exact ⟨ih.1.symm, ih.2.symm⟩
  | trans _ _ ih ih' => exact ⟨ih.1.trans ih'.1, ih.2.trans ih'.2⟩

/-- A value is read only if the values in its list are. -/
theorem read_part_eq_none {type itemType : WireType} {name : String}
    (hpart : type.part? = some (name, itemType)) {members : List (String × Json)} {items : Json}
    (hmember : (name, items) ∈ members) (h : asList itemType.read items = none) :
    type.read (.obj members) = none := by
  cases hfound : type.slots (.obj members) with
  | none => exact type.read_eq_none_of_slots hfound
  | some found =>
    have hgiven {i : Nat} (hi : type.layout[i]? = some [name]) : found[i]? = some (.given items) :=
      Lays.obj_given hfound hi hmember List.mem_cons_self
    cases type with
    | record =>
      cases hpart
      exact RuleRecord.ofJson?_eq_none hfound (hgiven rfl) h
    | form =>
      cases hpart
      exact RuleForm.ofJson?_eq_none hfound (hgiven rfl) h
    | recordPage =>
      cases hpart
      exact Page.ofJson?_eq_none hfound (hgiven rfl) h
    | groupPage =>
      cases hpart
      exact Page.ofJson?_eq_none hfound (hgiven rfl) h
    | _ => cases hpart

/-- What gives a field twice is not read. -/
theorem GivesTwice.read_eq_none {type : WireType} (h : type.GivesTwice v) : type.read v = none := by
  induction h with
  | @field type names members hnames h =>
    exact type.read_eq_none_of_slots (Lays.obj_repeated hnames h)
  | part hpart hmember hv _ ih => exact read_part_eq_none hpart hmember (mapM_eq_none hv ih)

/-- **Values are read by the names of their members.** Neither the order of members, at any level,
nor members that are no fields change what is read, or whether anything is. Where a field is given
twice, by one of its names or by two, nothing is read, and so too where that is within a list. -/
theorem read_by_members (type : WireType) :
    (∀ {v v' : Json}, type.Varies v v' → type.read v = type.read v'
        ∧ ∀ {text text' : String}, Json.ofText? text = some v → Json.ofText? text' = some v' →
          type.ofText? text = type.ofText? text')
      ∧ ∀ {v : Json}, type.GivesTwice v → type.read v = none
        ∧ ∀ {text : String}, Json.ofText? text = some v → type.ofText? text = none := by
  refine ⟨fun {v v'} h => ⟨h.agree.1, fun {text text'} htext htext' => ?_⟩,
    fun {v} h => ⟨h.read_eq_none, fun {text} htext => ?_⟩⟩
  · rw [ofText?, ofText?, htext, htext', Option.bind_some, Option.bind_some, h.agree.1]
  · rw [ofText?, htext, Option.bind_some, h.read_eq_none]

/-- A record with a member too many, and one more in its config item, all in the other order; a
record that gives its code twice; and one whose config item gives its key twice. -/
theorem read_by_members_reversed :
    let plain : Json := .obj [("id", .int 7), ("isLockHolder", .bool true),
      ("ruleConfigList", .arr [.obj [("id", .int 1), ("key", .str "k"), ("operator", .str "EQ"),
        ("value", .str "v")]])]
    let noted : Json := .obj [("note", .null), ("ruleConfigList", .arr [.obj [("hint", .bool true),
        ("value", .str "v"), ("operator", .str "EQ"), ("key", .str "k"), ("id", .int 1)]]),
      ("isLockHolder", .bool true), ("id", .int 7)]
    let coded : Json := .obj [("id", .int 7), ("ruleCode", .str "a"), ("riskRuleCode", .str "b")]
    let keyed : Json := .obj [("id", .int 7), ("ruleConfigList", .arr [.obj [("id", .int 1),
      ("key", .str "k"), ("operator", .str "EQ"), ("value", .str "v"), ("key", .str "k")]])]
    record.Varies plain noted ∧ record.GivesTwice coded ∧ record.GivesTwice keyed
      ∧ (record.read plain).isSome = true ∧ record.read plain = record.read noted
      ∧ record.ofText? plain.toText = record.ofText? noted.toText
      ∧ record.ofText? coded.toText = none ∧ record.read keyed = none := by
  intro plain noted coded keyed
  have hitem : configItem.Varies
      (.obj [("id", .int 1), ("key", .str "k"), ("operator", .str "EQ"), ("value", .str "v")])
      (.obj [("hint", .bool true), ("value", .str "v"), ("operator", .str "EQ"), ("key", .str "k"),
        ("id", .int 1)]) :=
    .trans (.reordered (.perm (List.reverse_perm _).symm)) (.extra _ (by decide) rfl)
  have hvaries : record.Varies plain noted := by
    refine .trans (.part rfl [("id", .int 7), ("isLockHolder", .bool true)] [] [] [] hitem) ?_
    exact .trans (.reordered (.perm (List.reverse_perm _).symm)) (.extra _ (by decide) rfl)
  have hcoded : record.GivesTwice coded :=
    have hnames : ["ruleCode", "riskRuleCode"] ∈ record.layout := by decide
    .field hnames (by decide)
  have hkeyed : record.GivesTwice keyed := by
    have hkey : ["key"] ∈ configItem.layout := by decide
    exact .part rfl (List.mem_cons_of_mem _ List.mem_cons_self) List.mem_cons_self
      (.field hkey (by decide))
  have hone {room : Nat} : (Json.int 1).Exact room := .int (by decide) (by decide)
  have hseven {room : Nat} : (Json.int 7).Exact room := .int (by decide) (by decide)
  have hplain : plain.Exact 3 := .obj (by simp [Json.Exact.obj, Json.Exact.arr, Json.Exact.str,
    Json.Exact.bool, hone, hseven])
  have hnoted : noted.Exact 3 := .obj (by simp [Json.Exact.obj, Json.Exact.arr, Json.Exact.str,
    Json.Exact.bool, Json.Exact.null, hone, hseven])
  have hexact : coded.Exact 1 := .obj (by simp [Json.Exact.str, hseven])
  obtain ⟨hsame, htwice⟩ := read_by_members record
  obtain ⟨hread, htext⟩ := hsame hvaries
  exact ⟨hvaries, hcoded, hkeyed, by decide, hread,
    htext (hplain.ofText?_toText (by decide)) (hnoted.ofText?_toText (by decide)),
    (htwice hcoded).2 (hexact.ofText?_toText (by decide)), (htwice hkeyed).1⟩

end WireType
end Whitelist
