import Mathlib.Data.List.Forall2
import Mathlib.Data.Option.Defs
import Whitelist.Proofs.Json.Reordering
import Whitelist.Wire.Layout

/-!
# Fields with values that readers do not tell apart

Most fields are read from plain values only. Two objects whose members have the same names, and
values that differ in nothing plain, have much the same slots, and such slots have the same fields
in them. A record is made of its slots, so it goes by no more than they do.

## What is here

* `Faint`, with the instances `Reordered` and `SameItems` — relations between values that are equal
  or not plain.
* `ReadsPlain`, `Blind` — readers of plain values, and readers that do not tell related values
  apart.
* `SlotAlike`, `SlotsAlike` — related slots, with `required_alike` and its like for their fields.
* `Lays`, with the instances `slots` and `memberSlots` — the slots of related values.
* `Blind.of_slots` — what goes by slots does not see the order of members.
* `slot_eq_none`, `slot_of_mem`, `mapM_slot_congr` — members that are repeated, the only member of a
  field, and members of no field.

One relation would not do. Reordering (`Reordered`) goes to any depth, while the exchange of one
item of a list for another that is read as the same (`SameItems`) depends on a reader. What the
lemmas about slots need of either is little: that plain values are related to themselves only. This
is `Faint`, and everything below `Blind` is proved for any relation of that kind.

The readers of fields come out as instances of `Blind`. `ReadsPlain` covers the leaves (texts,
flags, numbers and names), because a relation that is faint cannot change a plain value; lists
follow item by item, and objects by `Blind.of_slots`.
-/

set_option autoImplicit false
namespace Whitelist.Wire

open Json (Reordered)

variable {α β : Type} {R : Json → Json → Prop} {v v' : Json} {read : Json → Option α}

/-! ## Relations

That related values can be read equally far (`readable_eq`) is asked for because a member of any
name, even one that is no field, has to be readable for the object to be. -/

/-- Related values are equal or neither of them is plain, and one can be read as far as the
other. -/
class Faint (R : Json → Json → Prop) : Prop where
  refl : ∀ v, R v v
  eq_or_not_isPlain : ∀ {v v'}, R v v' → v = v' ∨ v.isPlain = false ∧ v'.isPlain = false
  readable_eq : ∀ {v v'}, R v v' → v.readable = v'.readable

instance : Faint Reordered where
  refl := .refl
  eq_or_not_isPlain := Reordered.eq_or_not_isPlain
  readable_eq := Reordered.readable_eq

/-- The same value, or the same list but for one item that is read as the other is. -/
inductive SameItems (read : Json → Option α) : Json → Json → Prop
  | refl (v : Json) : SameItems read v v
  | item (before after : List Json) {v v' : Json} (h : read v = read v')
      (hreadable : v.readable = v'.readable) :
      SameItems read (.arr (before ++ v :: after)) (.arr (before ++ v' :: after))

instance : Faint (SameItems read) where
  refl := .refl
  eq_or_not_isPlain h := by
    cases h with
    | refl => exact .inl rfl
    | item => exact .inr ⟨rfl, rfl⟩
  readable_eq h := by
    cases h with
    | refl => rfl
    | item before after _ hreadable => simp [Json.readable, Json.readableItems_eq_all, hreadable]

/-! ## Readers

Names of variants are plain too, in both of the forms in which they may be written. -/

/-- Only plain values are read. -/
class ReadsPlain (read : Json → Option α) : Prop where
  isPlain_of_read : ∀ {v a}, read v = some a → v.isPlain = true

/-- Related values are read as the same. -/
class Blind (R : Json → Json → Prop) (read : Json → Option α) : Prop where
  read_eq : ∀ {v v'}, R v v' → read v = read v'

/-- What is not plain is not read. -/
theorem ReadsPlain.read_eq_none (read : Json → Option α) [ReadsPlain read]
    (h : v.isPlain = false) : read v = none := by
  cases hread : read v with
  | none => rfl
  | some a => exact absurd (ReadsPlain.isPlain_of_read hread) (by simp [h])

/-- A reader that only narrows down another one reads plain values only, if that does. -/
theorem ReadsPlain.bind (read : Json → Option α) [ReadsPlain read] (f : α → Option β) :
    ReadsPlain fun v => (read v).bind f where
  isPlain_of_read h := by
    obtain ⟨a, hread, -⟩ := Option.bind_eq_some_iff.mp h
    exact ReadsPlain.isPlain_of_read hread

instance : ReadsPlain asString where
  isPlain_of_read {v} _ h := by
    cases v with
    | str s => rfl
    | _ => cases h

instance : ReadsPlain asBool where
  isPlain_of_read {v} _ h := by
    cases v with
    | bool b => rfl
    | _ => cases h

instance : ReadsPlain asInt where
  isPlain_of_read {v} _ h := by
    cases v with
    | int n => rfl
    | _ => cases h

instance : ReadsPlain asInt64 := .bind asInt int64?

instance : ReadsPlain asUInt64 := .bind asInt uint64?

instance : ReadsPlain asUInt32 := .bind asInt uint32?

instance (all : List α) (name : α → String) : ReadsPlain (asName all name) where
  isPlain_of_read {v} _ h := by
    unfold asName at h
    split at h
    · rfl
    · rfl
    · cases h

instance (all : List α) (name : α → String) : ReadsPlain (asNameLoosely all name) where
  isPlain_of_read {v} _ h := by
    unfold asNameLoosely at h
    split at h
    · rfl
    · exact ReadsPlain.isPlain_of_read h

/-- A plain value is related to itself only. -/
instance [Faint R] [ReadsPlain read] : Blind R read where
  read_eq h := by
    rcases Faint.eq_or_not_isPlain h with rfl | ⟨hv, hv'⟩
    · rfl
    · rw [ReadsPlain.read_eq_none read hv, ReadsPlain.read_eq_none read hv']

/-- Null is plain. -/
theorem nullable_eq [Faint R] [Blind R read] (h : R v v') : nullable read v = nullable read v' := by
  have hread : read v = read v' := Blind.read_eq h
  rcases Faint.eq_or_not_isPlain h with rfl | ⟨hv, hv'⟩
  · rfl
  · have hnull {w : Json} (hw : w.isPlain = false) : nullable read w = (read w).map some := by
      cases w with
      | null => cases hw
      | _ => rfl
    rw [hnull hv, hnull hv', hread]

/-- A list is read only if each of its items is. -/
theorem mapM_eq_none {f : β → Option α} {xs : List β} {x : β} (hx : x ∈ xs) (h : f x = none) :
    xs.mapM f = none := by
  induction xs with
  | nil => cases hx
  | cons y xs ih =>
    rw [List.mapM_cons]
    rcases List.mem_cons.mp hx with rfl | hx
    · rw [h]
      rfl
    · rw [ih hx]
      cases f y <;> rfl

/-- In a list one item may be exchanged for another that is read as the same. -/
theorem asList_item (h : read v = read v') (before after : List Json) :
    asList read (.arr (before ++ v :: after)) = asList read (.arr (before ++ v' :: after)) := by
  simp only [asList, List.mapM_append, List.mapM_cons, h]

instance : Blind (SameItems read) (asList read) where
  read_eq h := by
    cases h with
    | refl => rfl
    | item before after h => exact asList_item h before after

instance [Blind Reordered read] : Blind Reordered (asList read) where
  read_eq h := by
    induction h with
    | refl v => rfl
    | trans _ _ ih ih' => exact ih.trans ih'
    | perm h => rfl
    | member before name after h => rfl
    | item before after h => exact asList_item (Blind.read_eq h) before after

/-! ## Slots

A field is read from its slot in one of four ways, and there is one lemma for each. -/

/-- The slots are both empty in the same way, or hold related values. -/
inductive SlotAlike (R : Json → Json → Prop) : Slot → Slot → Prop
  | absent : SlotAlike R .absent .absent
  | cut : SlotAlike R .cut .cut
  | given {v v' : Json} (h : R v v') : SlotAlike R (.given v) (.given v')

/-- There are related slots for each field, or none at all. -/
abbrev SlotsAlike (R : Json → Json → Prop) : Option (List Slot) → Option (List Slot) → Prop :=
  Option.Rel (List.Forall₂ (SlotAlike R))

/-- Every slot is like itself. -/
theorem SlotAlike.refl [Faint R] (s : Slot) : SlotAlike R s s := by
  cases s with
  | absent => exact .absent
  | cut => exact .cut
  | given v => exact .given (Faint.refl v)

theorem SlotsAlike.of_eq [Faint R] {found found' : Option (List Slot)} (h : found = found') :
    SlotsAlike R found found' := by
  subst h
  cases found with
  | none => exact .none
  | some slots => exact .some (List.forall₂_same.mpr fun s _ => .refl s)

/-- Whatever is made of the slots alone. -/
theorem bind_alike {found found' : Option (List Slot)} {k : List Slot → Option α}
    (h : SlotsAlike R found found')
    (hk : ∀ {slots slots'}, List.Forall₂ (SlotAlike R) slots slots' → k slots = k slots') :
    found >>= k = found' >>= k := by
  cases h with
  | none => rfl
  | some h => exact hk h

section

variable {s s' : Slot}

theorem required_alike [Blind R read] (h : SlotAlike R s s') :
    required read s = required read s' := by
  cases h with
  | absent => rfl
  | cut => rfl
  | given h => exact Blind.read_eq h

theorem withDefault_alike [Blind R read] {fallback : α} (h : SlotAlike R s s') :
    withDefault fallback read s = withDefault fallback read s' := by
  cases h with
  | absent => rfl
  | cut => rfl
  | given h => exact Blind.read_eq h

theorem optional_alike [Faint R] [Blind R read] (h : SlotAlike R s s') :
    optional read s = optional read s' := by
  cases h with
  | absent => rfl
  | cut => rfl
  | given h => exact nullable_eq h

theorem optionalOrNone_alike [Faint R] [Blind R read] (h : SlotAlike R s s') :
    optionalOrNone read s = optionalOrNone read s' := by
  cases h with
  | absent => rfl
  | cut => rfl
  | given h => exact nullable_eq h

end

/-! ## The slots of related values

Objects are read through the members whose names belong to a field; the others are only looked at
for whether they can be read at all. -/

variable {layout : List FieldNames} {members members' : List (String × Json)}

/-- The members have the same names and related values. -/
abbrev MembersAlike (R : Json → Json → Prop) :
    List (String × Json) → List (String × Json) → Prop :=
  List.Forall₂ fun m m' => m.1 = m'.1 ∧ R m.2 m'.2

theorem MembersAlike.member [Faint R] (before : List (String × Json)) (name : String)
    (after : List (String × Json)) (h : R v v') :
    MembersAlike R (before ++ (name, v) :: after) (before ++ (name, v') :: after) :=
  have hsame (ms : List (String × Json)) : MembersAlike R ms ms :=
    List.forall₂_same.mpr fun m _ => ⟨rfl, Faint.refl m.2⟩
  List.rel_append (hsame before) (.cons ⟨rfl, h⟩ (hsame after))

theorem MembersAlike.filter (p : String → Bool) (h : MembersAlike R members members') :
    MembersAlike R (members.filter (p ·.1)) (members'.filter (p ·.1)) :=
  List.rel_filter (fun _ _ hm => by simp only [hm.1]) h

theorem MembersAlike.readable_eq [Faint R] (h : MembersAlike R members members') :
    Json.readableMembers members = Json.readableMembers members' := by
  induction h with
  | nil => rfl
  | cons hm _ ih => rw [Json.readableMembers, Json.readableMembers, Faint.readable_eq hm.2, ih]

theorem slot_alike (h : MembersAlike R members members') (names : FieldNames) :
    Option.Rel (SlotAlike R) (slot members names) (slot members' names) := by
  have hfound := h.filter fun name => decide (name ∈ names)
  unfold slot
  generalize members.filter (fun m => decide (m.1 ∈ names)) = found at hfound ⊢
  generalize members'.filter (fun m => decide (m.1 ∈ names)) = found' at hfound ⊢
  cases hfound with
  | nil => exact .some .absent
  | cons hm hrest =>
    cases hrest with
    | nil => exact .some (.given hm.2)
    | cons _ _ => exact .none

/-- The slots of all fields, field by field. -/
theorem mapM_slot_alike (h : MembersAlike R members members') (layout : List FieldNames) :
    SlotsAlike R (layout.mapM (slot members)) (layout.mapM (slot members')) := by
  induction layout with
  | nil => exact .some .nil
  | cons names layout ih =>
    rw [List.mapM_cons, List.mapM_cons]
    have hslot := slot_alike h names
    generalize slot members names = s, slot members' names = s' at hslot ⊢
    generalize layout.mapM (slot members) = rest, layout.mapM (slot members') = rest' at ih ⊢
    cases hslot with
    | none => exact .none
    | some hslot =>
      cases ih with
      | none => exact .none
      | some ih => exact .some (.cons hslot ih)

/-- Two lists of members in which each field has the same slot. -/
theorem mapM_slot_congr (h : ∀ names ∈ layout, slot members names = slot members' names) :
    layout.mapM (slot members) = layout.mapM (slot members') := by
  induction layout with
  | nil => rfl
  | cons names layout ih =>
    obtain ⟨hnames, hlayout⟩ := List.forall_mem_cons.mp h
    rw [List.mapM_cons, List.mapM_cons, hnames, ih hlayout]

/-- A field has at most one member, or no slot at all, so the order of members does not matter. -/
theorem slot_perm (h : members.Perm members') (names : FieldNames) :
    slot members names = slot members' names := by
  have hfound := h.filter fun m => decide (m.1 ∈ names)
  unfold slot
  generalize members.filter (fun m => decide (m.1 ∈ names)) = found at hfound ⊢
  generalize members'.filter (fun m => decide (m.1 ∈ names)) = found' at hfound ⊢
  match found, found', hfound with
  | [], _, hfound => rw [hfound.nil_eq]
  | [m], _, hfound => rw [List.singleton_perm.mp hfound]
  | _ :: _ :: _, [], hfound => cases hfound.length_eq
  | _ :: _ :: _, [_], hfound => cases hfound.length_eq
  | _ :: _ :: _, _ :: _ :: _, _ => rfl

/-- A member of another name is not seen. -/
theorem slot_cons_of_not_mem {name : String} {names : FieldNames} (h : name ∉ names) (value : Json)
    (members : List (String × Json)) :
    slot ((name, value) :: members) names = slot members names := by
  rw [slot, List.filter_cons_of_neg (by simpa using h), ← slot]

/-- A field that is given twice has no slot. -/
theorem slot_eq_none {names : FieldNames} (h : 2 ≤ members.countP (·.1 ∈ names)) :
    slot members names = none := by
  rw [List.countP_eq_length_filter] at h
  unfold slot
  split
  · simp_all
  · simp_all
  · rfl

/-- A member for the field is in its slot, unless there is another one. -/
theorem slot_of_mem {m : String × Json} (hm : m ∈ members) {names : FieldNames}
    (hname : m.1 ∈ names) :
    slot members names = none ∨ slot members names = some (.given m.2) := by
  have hfound : m ∈ members.filter fun m => decide (m.1 ∈ names) :=
    List.mem_filter.mpr ⟨hm, by simpa using hname⟩
  unfold slot
  split
  · rename_i hnone
    rw [hnone] at hfound
    cases hfound
  · rename_i m' hsingle
    rw [hsingle, List.mem_singleton] at hfound
    rw [hfound]
    exact .inr rfl
  · exact .inl rfl

/-- The slots stand in the order of the fields. -/
theorem getElem?_of_mapM_slot {found : List Slot} (h : layout.mapM (slot members) = some found)
    {i : Nat} {names : FieldNames} (hi : layout[i]? = some names) :
    ∃ s, slot members names = some s ∧ found[i]? = some s := by
  induction layout generalizing found i with
  | nil => cases hi
  | cons first layout ih =>
    rw [List.mapM_cons] at h
    obtain ⟨s, hs, h⟩ := Option.bind_eq_some_iff.mp h
    obtain ⟨rest, hrest, h⟩ := Option.bind_eq_some_iff.mp h
    cases h
    cases i with
    | zero =>
      cases hi
      exact ⟨s, hs, rfl⟩
    | succ i => exact ih hrest hi

/-- A member for a field that has a slot is in it. -/
theorem getElem?_of_mem {found : List Slot} (h : layout.mapM (slot members) = some found) {i : Nat}
    {names : FieldNames} (hi : layout[i]? = some names) {m : String × Json} (hm : m ∈ members)
    (hname : m.1 ∈ names) : found[i]? = some (.given m.2) := by
  obtain ⟨s, hs, hfound⟩ := getElem?_of_mapM_slot h hi
  rcases slot_of_mem hm hname with hnone | hgiven
  · rw [hnone] at hs
    cases hs
  · rw [hfound, ← hs, hgiven]

/-- Slots are found by the names of members, whatever the order of these, and by the places of
items. -/
class Lays (layout : outParam (List FieldNames)) (slotsOf : Json → Option (List Slot)) : Prop where
  obj_perm : ∀ {members members'}, members.Perm members' →
    slotsOf (.obj members) = slotsOf (.obj members')
  obj_alike : ∀ {R} [Faint R] {members members'}, MembersAlike R members members' →
    SlotsAlike R (slotsOf (.obj members)) (slotsOf (.obj members'))
  arr_alike : ∀ {R} [Faint R] {before after v v'}, R v v' →
    SlotsAlike R (slotsOf (.arr (before ++ v :: after))) (slotsOf (.arr (before ++ v' :: after)))
  /-- A member of no field that can be read is not seen. -/
  obj_cons : ∀ {name value members}, (∀ names ∈ layout, name ∉ names) → value.readable = true →
    slotsOf (.obj ((name, value) :: members)) = slotsOf (.obj members)
  /-- No field may be given twice. -/
  obj_repeated : ∀ {names members}, names ∈ layout → 2 ≤ members.countP (·.1 ∈ names) →
    slotsOf (.obj members) = none
  /-- A member for a field is in its slot. -/
  obj_given : ∀ {i : Nat} {names members found} {m : String × Json},
    slotsOf (.obj members) = some found → layout[i]? = some names → m ∈ members → m.1 ∈ names →
    found[i]? = some (Slot.given m.2)

instance (layout : List FieldNames) : Lays layout (slots layout) where
  obj_perm h := mapM_slot_congr fun names _ => slot_perm h names
  obj_alike h := mapM_slot_alike h layout
  arr_alike {R _ before after v v'} h := by
    have hlength : (before ++ v :: after).length = (before ++ v' :: after).length := by simp
    simp only [slots, hlength]
    split
    · have hsame (items : List Json) :
          List.Forall₂ (SlotAlike R) (items.map .given) (items.map .given) :=
        List.forall₂_same.mpr fun s _ => .refl s
      refine .some (List.rel_append ?_ (List.forall₂_same.mpr fun s _ => .refl s))
      rw [List.map_append, List.map_append]
      exact List.rel_append (hsame before) (.cons (.given h) (hsame after))
    · exact .none
  obj_cons h _ := mapM_slot_congr fun names hnames => slot_cons_of_not_mem (h names hnames) _ _
  obj_repeated hnames h := mapM_eq_none hnames (slot_eq_none h)
  obj_given h hi hm hname := getElem?_of_mem h hi hm hname

instance (layout : List FieldNames) : Lays layout (memberSlots layout) where
  obj_perm h := by
    have hothers := Json.readableMembers_perm
      (h.filter fun m => layout.all fun names => decide (m.1 ∉ names))
    rw [memberSlots, memberSlots, hothers, mapM_slot_congr fun names _ => slot_perm h names]
  obj_alike h := by
    have hothers := (h.filter fun name => layout.all fun names => decide (name ∉ names)).readable_eq
    rw [memberSlots, memberSlots, hothers]
    split
    · exact mapM_slot_alike h layout
    · exact .none
  arr_alike _ := .none
  obj_cons {name value members} h hvalue := by
    have hothers : Json.readableMembers (((name, value) :: members).filter fun m =>
          layout.all fun names => decide (m.1 ∉ names))
        = Json.readableMembers (members.filter fun m =>
          layout.all fun names => decide (m.1 ∉ names)) := by
      rw [List.filter_cons_of_pos (by simpa using h), Json.readableMembers, hvalue, Bool.true_and]
    have hslots : layout.mapM (slot ((name, value) :: members)) = layout.mapM (slot members) :=
      mapM_slot_congr fun names hnames => slot_cons_of_not_mem (h names hnames) _ _
    rw [memberSlots, memberSlots, hothers, hslots]
  obj_repeated hnames h := by
    rw [memberSlots, mapM_eq_none hnames (slot_eq_none h), ite_self]
  obj_given h hi hm hname := by
    rw [memberSlots] at h
    split at h
    · exact getElem?_of_mem h hi hm hname
    · cases h

/-- What goes by slots does not see the order of members. -/
theorem Blind.of_slots {read : Json → Option α} (slotsOf : Json → Option (List Slot))
    [Lays layout slotsOf]
    (hread : ∀ {v v'}, SlotsAlike Reordered (slotsOf v) (slotsOf v') → read v = read v') :
    Blind Reordered read where
  read_eq h := by
    induction h with
    | refl v => rfl
    | trans _ _ ih ih' => exact ih.trans ih'
    | perm h => exact hread (.of_eq (Lays.obj_perm h))
    | member before name after h => exact hread (Lays.obj_alike (.member before name after h))
    | item before after h => exact hread (Lays.arr_alike h)

end Whitelist.Wire
