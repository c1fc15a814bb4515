import Whitelist.Proofs.Json.RoundTrip
import Whitelist.Wire.Layout

/-!
# Fields that are written and read

A record is written as an object with a member for each field that is not left out. However many are
left out, each field is read back from its own member.

## What is here

* `Writes`, `Keeps` — what is written is not null and loses nothing as a text, and it is read back;
  with the instances for strings, truth values, numbers and lists. `ofText?_written` says the same
  of texts.
* `written`, `slotOf` — the members of fields, and the slot that a field is found in.
* `mapM_slot_written`, `slots_written`, `memberSlots_written` — the slots of a record are those of
  its fields.
* `required_slotOf` and its like — the field from its slot.

A type is described by a list of fields, with `none` for those that are left out when they are
empty. The object is what remains (`written`), and the reader finds the slot of each field by its
names. That a slot is found does not depend on which other fields were left out, because every name
occurs in one field only (`slot_written`).
-/

set_option autoImplicit false
namespace Whitelist.Wire

open Json (Exact)

variable {α : Type}

/-! ## Values

Two classes, one for each half of a round trip. `Writes` also counts the levels of nesting, which
the JSON reader limits. -/

/-- Whatever is written is not null, and no text of it loses anything at a depth that leaves so much
room. -/
class Writes (room : outParam Nat) (write : α → Json) : Prop where
  ne_null : ∀ a, write a ≠ .null
  exact : ∀ a, Exact room (write a)

/-- Whatever is written is read back. -/
class Keeps (write : α → Json) (read : Json → Option α) : Prop where
  read_write : ∀ a, read (write a) = some a

/-- The items of a list, one after the other. -/
def ofList (write : α → Json) (as : List α) : Json := .arr (as.map write)

section

variable {room : Nat} {write : α → Json} {read : Json → Option α}

theorem read_write (write : α → Json) (read : Json → Option α) [Keeps write read] (a : α) :
    read (write a) = some a := Keeps.read_write a

theorem nullable_write (write : α → Json) (read : Json → Option α) [Writes room write]
    [Keeps write read] (a : α) : nullable read (write a) = some (some a) := by
  unfold nullable
  split
  · exact absurd ‹_› (Writes.ne_null a)
  · rw [read_write write read]
    rfl

/-- Where there is more room, a text loses nothing either. -/
theorem exact_write (write : α → Json) [Writes room write] (a : α) {levels : Nat}
    (hroom : room ≤ levels) : (write a).Exact levels := (Writes.exact a).mono hroom

/-- What is written as a text, on one line or over lines, is read back from it. -/
theorem ofText?_written (write : α → Json) (read : Json → Option α) [Writes room write]
    [Keeps write read] (a : α) (hroom : room ≤ Json.Reader.maxDepth) :
    (Json.ofText? (write a).toText).bind read = some a
      ∧ (Json.ofText? (write a).pretty).bind read = some a := by
  have hexact : (write a).Exact room := Writes.exact a
  rw [hexact.ofText?_toText hroom, hexact.ofText?_pretty hroom]
  exact ⟨read_write write read a, read_write write read a⟩

instance : Writes 0 Json.str := ⟨nofun, .str⟩

instance : Keeps Json.str asString := ⟨fun _ => rfl⟩

instance : Writes 0 Json.bool := ⟨nofun, .bool⟩

instance : Keeps Json.bool asBool := ⟨fun _ => rfl⟩

instance : Writes 0 ofInt64 where
  ne_null := nofun
  exact n := .int (Int64.minValue_le_toInt n) (Int.lt_of_le_of_lt (Int64.toInt_le n) (by decide))

instance : Keeps ofInt64 asInt64 where
  read_write n := by rw [ofInt64, asInt64, asInt, Option.bind_some, int64?_toInt]

instance : Writes 0 ofInt32 where
  ne_null := nofun
  exact n := .int (Int.le_trans (by decide) (Int32.minValue_le_toInt n))
    (Int.lt_of_le_of_lt (Int32.toInt_le n) (by decide))

instance : Keeps ofInt32 asInt32 where
  read_write n := by rw [ofInt32, asInt32, asInt, Option.bind_some, int32?_toInt]

instance : Writes 0 ofUInt64 where
  ne_null := nofun
  exact n := by
    have hmax : (n.toNat : Int) < UInt64.size := Int.ofNat_lt.mpr n.toNat_lt
    exact .int (Int.le_trans (by decide) (Int.natCast_nonneg _)) hmax

instance : Keeps ofUInt64 asUInt64 where
  read_write n := by rw [ofUInt64, asUInt64, asInt, Option.bind_some, uint64?_toNat]

instance : Writes 0 ofUInt32 where
  ne_null := nofun
  exact n := by
    have hmax : (n.toNat : Int) < UInt32.size := Int.ofNat_lt.mpr n.toNat_lt
    exact .int (Int.le_trans (by decide) (Int.natCast_nonneg _)) (Int.lt_trans hmax (by decide))

instance : Keeps ofUInt32 asUInt32 where
  read_write n := by rw [ofUInt32, asUInt32, asInt, Option.bind_some, uint32?_toNat]

instance [Writes room write] : Writes (room + 1) (ofList write) where
  ne_null := nofun
  exact as := .arr fun item hitem => by
    obtain ⟨a, -, rfl⟩ := List.mem_map.mp hitem
    exact Writes.exact a

instance [Keeps write read] : Keeps (ofList write) (asList read) where
  read_write as := by
    show (as.map write).mapM read = some as
    induction as with
    | nil => rfl
    | cons a as ih => simp [read_write write read, ih]

end

/-! ## Members

These equations bring the three forms in which writers are written (plain members, members that may
be missing, lists that may be missing) into the one form `written`. -/

/-- A field to be written: its name, and its value unless it is left out. -/
abbrev Field : Type := String × Option Json

/-- The members that fields are written as. -/
def written (fields : List Field) : List (String × Json) :=
  fields.flatMap fun field => (field.2.map (field.1, ·)).toList

/-- The slot that a field is found in. -/
def slotOf (field : Field) : Slot := field.2.elim .absent .given

/-- A list that is left out where it has no items. -/
def unlessEmpty (write : α → Json) (as : List α) : Option Json :=
  if as.isEmpty then none else some (ofList write as)

variable {fields : List Field}

theorem written_append (fields more : List Field) :
    written (fields ++ more) = written fields ++ written more := List.flatMap_append

theorem memberIf_eq (name : String) (write : α → Json) (a : Option α) :
    memberIf name write a = written [(name, a.map write)] := by
  cases a <;> rfl

theorem memberOfList_eq (name : String) (write : α → Json) (as : List α) :
    memberOfList name write as = written [(name, unlessEmpty write as)] := by
  cases as <;> rfl

/-- Members keep to the names of their fields. -/
theorem filter_written (p : String → Bool) (fields : List Field) :
    (written fields).filter (fun m => p m.1) = written (fields.filter fun field => p field.1) := by
  induction fields with
  | nil => rfl
  | cons field fields ih =>
    obtain ⟨name, value⟩ := field
    have hhead : ((value.map (name, ·)).toList.filter fun m => p m.1)
        = if p name then (value.map (name, ·)).toList else [] := by
      cases value with
      | none => simp
      | some value => cases hp : p name <;> simp [hp]
    rw [written, List.flatMap_cons, List.filter_append, ← written, ih, hhead, List.filter_cons]
    split <;> rfl

/-! ## Exactness

An object is exact if the values of its fields are, so its depth is that of its deepest field and
one more. -/

/-- The text of a field loses nothing. -/
def IsExact (room : Nat) (field : Field) : Prop := ∀ value ∈ field.2, Exact room value

theorem exact_written {room : Nat} (h : ∀ field ∈ fields, IsExact room field) :
    Exact (room + 1) (.obj (written fields)) := .obj fun m hm => by
  obtain ⟨field, hfield, hm⟩ := List.mem_flatMap.mp hm
  obtain ⟨value, hvalue, rfl⟩ := Option.map_eq_some_iff.mp (Option.mem_toList.mp hm)
  exact h field hfield value hvalue

section

variable {room level : Nat} {write : α → Json} [Writes level write] (name : String)

@[simp] theorem isExact_map (hlevel : level ≤ room) (a : Option α) :
    IsExact room (name, a.map write) := fun value hvalue => by
  obtain ⟨a, -, rfl⟩ := Option.map_eq_some_iff.mp hvalue
  exact exact_write write a hlevel

@[simp] theorem isExact_write (hlevel : level ≤ room) (a : α) :
    IsExact room (name, some (write a)) :=
  isExact_map name hlevel (some a)

@[simp] theorem isExact_ofOptional (hlevel : level ≤ room) (a : Option α) :
    IsExact room (name, some (ofOptional write a)) := by
  cases a with
  | none => exact fun value hvalue => Option.some.inj hvalue ▸ .null
  | some a => exact isExact_write name hlevel a

@[simp] theorem isExact_unlessEmpty (hlevel : level + 1 ≤ room) (as : List α) :
    IsExact room (name, unlessEmpty write as) := by
  cases as with
  | nil => nofun
  | cons a as => exact isExact_map name hlevel (some (a :: as))

end

/-- What is written as an object of such fields. -/
theorem Writes.of_fields {room : Nat} {write : α → Json} {fieldsOf : α → List Field}
    (hwrite : ∀ a, write a = .obj (written (fieldsOf a)))
    (hexact : ∀ a, ∀ field ∈ fieldsOf a, IsExact room field) : Writes (room + 1) write where
  ne_null a := by
    rw [hwrite]
    nofun
  exact a := by
    rw [hwrite]
    exact exact_written (hexact a)

/-! ## Slots

A layout lists the names under which each field may be found. `Finds` is decidable and is proved by
evaluation for each type. -/

/-- A field is found where it is the only one with a name of that kind. -/
theorem slot_written {names : FieldNames} {field : Field}
    (h : fields.filter (fun f => decide (f.1 ∈ names)) = [field]) :
    slot (written fields) names = some (slotOf field) := by
  rw [slot, filter_written (fun name => decide (name ∈ names)), h]
  obtain ⟨name, _ | value⟩ := field <;> rfl

/-- Each entry of a layout finds the one field that it is for. -/
def Finds (layout : List FieldNames) (fields found : List Field) : Prop :=
  layout.map (fun names => fields.filter fun f => decide (f.1 ∈ names)) = found.map ([·])

/-- The slots of all fields, in the order of the layout. -/
theorem mapM_slot_written {layout : List FieldNames} {found : List Field}
    (h : Finds layout fields found) :
    layout.mapM (slot (written fields)) = some (found.map slotOf) := by
  induction layout generalizing found with
  | nil =>
    obtain rfl : found = [] := List.map_eq_nil_iff.mp h.symm
    rfl
  | cons names layout ih =>
    cases found with
    | nil => cases h
    | cons field found =>
      obtain ⟨hfield, hfound⟩ := List.cons.inj h
      rw [List.mapM_cons, slot_written hfield, ih hfound]
      rfl

theorem slots_written {layout : List FieldNames} {found : List Field}
    (h : Finds layout fields found) :
    slots layout (.obj (written fields)) = some (found.map slotOf) :=
  mapM_slot_written h

/-- Members that belong to no field do no harm as long as they can be read. -/
theorem memberSlots_written_of_readable {layout : List FieldNames} {found : List Field}
    (h : Finds layout fields found)
    (hothers : Json.readableMembers (written (fields.filter fun f =>
      layout.all fun names => decide (f.1 ∉ names))) = true) :
    memberSlots layout (.obj (written fields)) = some (found.map slotOf) := by
  rw [← filter_written fun name => layout.all fun names => decide (name ∉ names)] at hothers
  rw [memberSlots, if_pos hothers, mapM_slot_written h]

theorem memberSlots_written {layout : List FieldNames} {found : List Field}
    (h : Finds layout fields found)
    (hothers : fields.filter (fun f => layout.all fun names => decide (f.1 ∉ names)) = []) :
    memberSlots layout (.obj (written fields)) = some (found.map slotOf) :=
  memberSlots_written_of_readable h (by rw [hothers]; rfl)

/-! ## Fields

One lemma for each way in which a field may be read and for each form in which it may have been
written. -/

/-- A field that is there, and the rest of the record with it. -/
theorem bind_of_some {β : Type} {x : Option α} {k : α → Option β} {a : α} {b : β} (h : x = some a)
    (hk : k a = some b) : x >>= k = some b := by
  rw [h]
  exact hk

section

variable {room : Nat} {write : α → Json} {read : Json → Option α} [Keeps write read] (name : String)

@[simp] theorem required_slotOf (a : α) : required read (slotOf (name, some (write a))) = some a :=
  read_write write read a

@[simp] theorem withDefault_slotOf (fallback : α) (a : α) :
    withDefault fallback read (slotOf (name, some (write a))) = some a := read_write write read a

@[simp] theorem withDefault_unlessEmpty (as : List α) :
    withDefault [] (asList read) (slotOf (name, unlessEmpty write as)) = some as := by
  cases as with
  | nil => rfl
  | cons a as => exact read_write (ofList write) (asList read) (a :: as)

@[simp] theorem optional_slotOf [Writes room write] (a : Option α) :
    optional read (slotOf (name, a.map write)) = some a := by
  cases a with
  | none => rfl
  | some a => exact nullable_write write read a

@[simp] theorem optional_ofOptional [Writes room write] (a : Option α) :
    optional read (slotOf (name, some (ofOptional write a))) = some a := by
  cases a with
  | none => rfl
  | some a => exact nullable_write write read a

@[simp] theorem optionalOrNone_slotOf [Writes room write] (a : Option α) :
    optionalOrNone read (slotOf (name, a.map write)) = some a := by
  cases a with
  | none => rfl
  | some a => exact nullable_write write read a

@[simp] theorem optionalOrNone_ofOptional [Writes room write] (a : Option α) :
    optionalOrNone read (slotOf (name, some (ofOptional write a))) = some a := by
  cases a with
  | none => rfl
  | some a => exact nullable_write write read a

end

end Whitelist.Wire
