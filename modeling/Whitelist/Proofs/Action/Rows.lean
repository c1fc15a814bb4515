import Mathlib.Algebra.GroupWithZero.Nat
import Mathlib.Data.List.Infix
import Whitelist.Action.Editor

/-!
# Rows addressed by their places

An editor finds a row by the number that the row carries, and numbers its rows anew after some of
the edits only. To whoever edits, it is a plain list all the same: the numbers are the places in the
list, whatever was edited before, and each edit does to the list what it says and nothing else.

Numbers are words of 32 bits, so this is said of lists of fewer than `2 ^ 32` rows. What is said of
the editor on a list that was just numbered, in the first section, holds for lists of any length.

## What is here

* `placeOf`, `get?_ofSaved`, `replace_ofSaved`, `remove_ofSaved` — a freshly numbered list, and what
  looking up, replacing and removing a row come to.
* `next`, `after`, `answers` — a run of edits, of which those that are refused change nothing.
* `Edit`, `Edit.on`, `Edit.onList` — the edits of an editor, and the same edits of a plain list.
* `Shows` — an editor shows a list.
* `shows_list` — an editor shows the list that the same edits make, and answers as that list does.

The claim to be met is that of a user interface: row 3 is the third row. The editor numbers its rows
when it is opened, when rows are added and after a removal; a replacement keeps the number of its
row. That these numbers are always the places is not obvious from any single function, but every
editor that can be reached is equal to one that was freshly numbered (`after_ofSaved`). So it is
enough to know the editor on such lists.
-/

set_option autoImplicit false
namespace Whitelist
namespace ActionEditor

/-! ## A freshly numbered list

`placeOf` inverts the numbering, also for the number 0, which is that of the row at place `2 ^ 32 -
1` if there is one. -/

variable (rows : List Action) (idx : UInt32)

@[simp] theorem ofSaved_nil : ofSaved [] = {} := rfl

/-- The row at a place has the number of that place. -/
theorem getElem?_items_ofSaved (i : Nat) :
    (ofSaved rows).items[i]? = rows[i]?.map fun action => ⟨.ofNat i + 1, action⟩ :=
  List.getElem?_mapIdx

@[simp] theorem actions_ofSaved : (ofSaved rows).actions = rows := by
  refine List.ext_getElem? fun i => ?_
  rw [actions, List.getElem?_map, getElem?_items_ofSaved, Option.map_map]
  exact Option.map_id_apply

@[simp] theorem length_ofSaved : (ofSaved rows).length = rows.length := List.length_mapIdx

/-- The place, counted from 0, of the row with a number. -/
def placeOf (idx : UInt32) : Nat := (idx - 1).toNat

theorem placeOf_of_ne_zero {idx : UInt32} (h : idx ≠ 0) : placeOf idx = idx.toNat - 1 := by
  have hpos : 0 < idx.toNat := Nat.pos_of_ne_zero fun h0 => h (UInt32.toNat_inj.mp h0)
  have hlt := idx.toNat_lt
  rw [placeOf, UInt32.toNat_sub, UInt32.toNat_one]
  omega

/-- A row with a number stands at the place of that number or, in a list in which numbers come
again, after it. -/
theorem placeOf_le {i : Nat} {idx : UInt32} (h : .ofNat i + 1 = idx) : placeOf idx ≤ i := by
  rw [placeOf, ← UInt32.eq_sub_iff_add_eq.mpr h, UInt32.toNat_ofNat']
  exact Nat.mod_le ..

theorem ofNat_placeOf_add_one : .ofNat (placeOf idx) + 1 = idx :=
  UInt32.eq_sub_iff_add_eq.mp UInt32.ofNat_toNat

/-- The first row with a number stands at its place. -/
theorem findIdx?_ofSaved : (ofSaved rows).items.findIdx? (·.idx = idx)
    = rows[placeOf idx]?.map fun _ => placeOf idx := by
  cases hrow : rows[placeOf idx]? with
  | some action =>
    obtain ⟨hlt, -⟩ := List.getElem?_eq_some_iff.mp hrow
    refine List.findIdx?_eq_some_iff_getElem.mpr ⟨by rwa [← length, length_ofSaved], ?_, ?_⟩
    · simp [ofSaved, number, ofNat_placeOf_add_one]
    · intro j hj hidx
      exact Nat.not_le.mpr hj (placeOf_le (by simpa [ofSaved, number] using hidx))
  | none =>
    refine List.findIdx?_eq_none_iff.mpr fun item hitem => decide_eq_false fun hidx => ?_
    obtain ⟨i, hi, rfl⟩ := List.mem_mapIdx.mp hitem
    exact Nat.not_le.mpr hi (Nat.le_trans (List.getElem?_eq_none_iff.mp hrow) (placeOf_le hidx))

/-- A row is found at the place of its number. -/
theorem get?_ofSaved :
    (ofSaved rows).get? idx = rows[placeOf idx]?.map fun action => ⟨idx, action⟩ := by
  rw [get?, List.find?_eq_bind_findIdx?_getElem?, findIdx?_ofSaved]
  cases hrow : rows[placeOf idx]? with
  | some action =>
    show (ofSaved rows).items[placeOf idx]? = _
    rw [getElem?_items_ofSaved, hrow, ofNat_placeOf_add_one]
  | none => rfl

theorem position_ofSaved : (ofSaved rows).position idx = match rows[placeOf idx]? with
    | some _ => .ok (placeOf idx)
    | none => .error (noSuchRow idx) := by
  rw [position, findIdx?_ofSaved]
  cases rows[placeOf idx]? <;> rfl

theorem append_ofSaved (types : List ActionType) : (ofSaved rows).append types
    = ofSaved (rows ++ types.map fun t => { actionType := t }) := by
  rw [append, actions_ofSaved, ofSaved]

theorem set_items_ofSaved (action : Action) :
    (ofSaved rows).items.set (placeOf idx) ⟨idx, action⟩
      = (ofSaved (rows.set (placeOf idx) action)).items := by
  show (number rows).set _ _ = number (rows.set _ _)
  rw [number, number, List.mapIdx_set, ofNat_placeOf_add_one]

/-- Replacing checks the new fields for the type of the row, and leaves the type alone. -/
theorem replace_ofSaved (fields : ActionFields) :
    (ofSaved rows).replace idx fields = match rows[placeOf idx]? with
      | some action =>
        match fields.check action.actionType with
        | .ok () => .ok (ofSaved (rows.set (placeOf idx) { action with fields }))
        | .error e => .error e.fault
      | none => .error (noSuchRow idx) := by
  cases hrow : rows[placeOf idx]? with
  | none =>
    rw [replace, ← get?, get?_ofSaved, hrow]
    rfl
  | some action =>
    rw [replace, ← get?, get?_ofSaved, position_ofSaved, hrow]
    show (checked (fields.check action.actionType) >>= fun _ => Except.ok
      (⟨(ofSaved rows).items.set (placeOf idx) ⟨idx, { action with fields }⟩⟩ : ActionEditor)) = _
    rw [set_items_ofSaved]
    cases hcheck : fields.check action.actionType <;> simp only [hcheck] <;> rfl

/-- Removing numbers the rows behind anew, which makes the list a freshly numbered one again. -/
theorem remove_ofSaved : (ofSaved rows).remove idx = match rows[placeOf idx]? with
    | some _ => .ok (ofSaved (rows.eraseIdx (placeOf idx)))
    | none => .error (noSuchRow idx) := by
  rw [remove, position_ofSaved, actions_ofSaved]
  cases rows[placeOf idx]? <;> rfl

/-! ## Runs of edits

These definitions do not depend on what is edited, so that the editor and the list may share them.
-/

section
variable {ε σ : Type} (on : ε → σ → Except Fault σ)

/-- What there is after an edit. One that is refused leaves everything as it was. -/
def next (s : σ) (edit : ε) : σ :=
  match on edit s with
  | .ok t => t
  | .error _ => s

/-- What there is after some edits. -/
def after (s : σ) (edits : List ε) : σ := edits.foldl (next on) s

/-- What some edits are answered with: that they were made, or why they were refused. -/
def answers : σ → List ε → List (Except Fault Unit)
  | _, [] => []
  | s, edit :: rest => (on edit s).map (fun _ => ()) :: answers (next on s edit) rest

variable {on}

theorem next_of_ok {s t : σ} {edit : ε} (h : on edit s = .ok t) : next on s edit = t := by
  rw [next, h]

theorem next_of_error {s : σ} {edit : ε} {f : Fault} (h : on edit s = .error f) :
    next on s edit = s := by
  rw [next, h]

variable (on)

@[simp] theorem after_nil (s : σ) : after on s [] = s := rfl

@[simp] theorem after_cons (s : σ) (edit : ε) (rest : List ε) :
    after on s (edit :: rest) = after on (next on s edit) rest := rfl

theorem after_append (s : σ) (l m : List ε) : after on s (l ++ m) = after on (after on s l) m :=
  List.foldl_append

end

/-- An edit of a list of actions. -/
inductive Edit where
  | append (types : List ActionType)
  | replace (idx : UInt32) (fields : ActionFields)
  | remove (idx : UInt32)

/-- What an edit makes of an editor. -/
def Edit.on : Edit → ActionEditor → Except Fault ActionEditor
  | append types, editor => .ok (editor.append types)
  | replace idx fields, editor => editor.replace idx fields
  | remove idx, editor => editor.remove idx

/-! ## Edits of a plain list

The list is what a user has in mind: numbers count its rows from 1. -/

/-- The row of a list that a number counts off, from 1 on. -/
def row? (rows : List Action) (idx : UInt32) : Option Action :=
  if idx = 0 then none else rows[idx.toNat - 1]?

/-- What an edit makes of a plain list. -/
def Edit.onList : Edit → List Action → Except Fault (List Action)
  | append types, rows => .ok (rows ++ types.map fun t => { actionType := t, fields := {} })
  | replace idx fields, rows =>
    match row? rows idx with
    | some row =>
      match fields.check row.actionType with
      | .ok () => .ok (rows.set (idx.toNat - 1) { row with fields })
      | .error e => .error (.validation e.message)
    | none => .error (.notFound s!"action #{idx}")
  | remove idx, rows =>
    match row? rows idx with
    | some _ => .ok (rows.eraseIdx (idx.toNat - 1))
    | none => .error (.notFound s!"action #{idx}")

/-- An editor shows a list: its rows are those of the list, each with its place as its number, and a
row is found by its place. -/
structure Shows (editor : ActionEditor) (rows : List Action) : Prop where
  items : editor.items.map (fun item => (item.idx.toNat, item.action))
    = rows.mapIdx fun i action => (i + 1, action)
  dense : editor.isDense = true
  get : ∀ idx, editor.get? idx = (row? rows idx).map fun action => ⟨idx, action⟩

/-! ## The editor as a plain list

Below `2 ^ 32` rows the place of a number is the one that it counts off, and there is none for 0. -/

variable {rows : List Action}

/-- In a list that is not too long, the place of a number is the one that it counts off. -/
theorem row?_eq (hfew : rows.length < 2 ^ 32) (idx : UInt32) :
    row? rows idx = rows[placeOf idx]? := by
  rw [row?]
  split
  · rename_i hzero
    have hplace : placeOf 0 = 2 ^ 32 - 1 := rfl
    rw [hzero, List.getElem?_eq_none (by omega)]
  · rename_i hne
    rw [placeOf_of_ne_zero hne]

theorem placeOf_of_row? {idx : UInt32} {action : Action} (h : row? rows idx = some action) :
    placeOf idx = idx.toNat - 1 :=
  placeOf_of_ne_zero fun hzero => by
    rw [row?, if_pos hzero] at h
    cases h

theorem toNat_number {i : Nat} (h : i + 1 < 2 ^ 32) : (UInt32.ofNat i + 1).toNat = i + 1 := by
  rw [UInt32.toNat_add, UInt32.toNat_ofNat', UInt32.toNat_one]
  omega

theorem shows_ofSaved (hfew : rows.length < 2 ^ 32) : Shows (ofSaved rows) rows where
  items := by
    refine List.ext_getElem? fun i => ?_
    rw [List.getElem?_map, getElem?_items_ofSaved, List.getElem?_mapIdx, Option.map_map]
    cases hrow : rows[i]? with
    | none => rfl
    | some action =>
      obtain ⟨hlt, -⟩ := List.getElem?_eq_some_iff.mp hrow
      simp only [Option.map_some, Function.comp_apply, toNat_number (i := i) (by omega)]
  dense := by
    refine List.all_eq_true.mpr fun (item, i) hitem => ?_
    have hrow : (ofSaved rows).items[i]? = some item := List.mem_zipIdx_iff_getElem?.mp hitem
    rw [getElem?_items_ofSaved] at hrow
    obtain ⟨action, haction, rfl⟩ := Option.map_eq_some_iff.mp hrow
    obtain ⟨hlt, -⟩ := List.getElem?_eq_some_iff.mp haction
    exact decide_eq_true (toNat_number (by omega))
  get idx := by rw [get?_ofSaved, row?_eq hfew]

/-- An edit makes of the editor on a list what it makes of the list. -/
theorem Edit.on_ofSaved (hfew : rows.length < 2 ^ 32) (edit : Edit) :
    edit.on (ofSaved rows) = (edit.onList rows).map ofSaved := by
  cases edit with
  | append types => exact congrArg Except.ok (append_ofSaved rows types)
  | replace idx fields =>
    rw [on, onList, replace_ofSaved, ← row?_eq hfew]
    cases hrow : row? rows idx with
    | none => rfl
    | some action =>
      rw [placeOf_of_row? hrow]
      cases hcheck : fields.check action.actionType <;> simp only [hcheck] <;> rfl
  | remove idx =>
    rw [on, onList, remove_ofSaved, ← row?_eq hfew]
    cases hrow : row? rows idx with
    | none => rfl
    | some action =>
      rw [placeOf_of_row? hrow]
      rfl

theorem next_ofSaved (hfew : rows.length < 2 ^ 32) (edit : Edit) :
    next Edit.on (ofSaved rows) edit = ofSaved (next Edit.onList rows edit) := by
  have hon := edit.on_ofSaved hfew
  cases hlist : edit.onList rows with
  | ok rows' =>
    rw [hlist] at hon
    rw [next_of_ok hlist, next_of_ok hon]
  | error f =>
    rw [hlist] at hon
    rw [next_of_error hlist, next_of_error hon]

/-- The list never has too many rows to be numbered. -/
def Fits (editor : ActionEditor) (edits : List Edit) : Prop :=
  ∀ before, before <+: edits → (after Edit.on editor before).length < 2 ^ 32

theorem Fits.few {edits : List Edit} (h : Fits (ofSaved rows) edits) : rows.length < 2 ^ 32 := by
  have hnil := h [] ⟨edits, rfl⟩
  rwa [after_nil, length_ofSaved] at hnil

theorem Fits.tail {edit : Edit} {rest : List Edit} (h : Fits (ofSaved rows) (edit :: rest)) :
    Fits (ofSaved (next Edit.onList rows edit)) rest := by
  intro before hbefore
  have hcons := h (edit :: before) (List.cons_prefix_cons.mpr ⟨rfl, hbefore⟩)
  rwa [after_cons, next_ofSaved h.few] at hcons

theorem Fits.mono {editor : ActionEditor} {before edits : List Edit} (h : Fits editor edits)
    (hbefore : before <+: edits) : Fits editor before :=
  fun l hl => h l (hl.trans hbefore)

/-- A run, by induction on its edits. -/
theorem after_ofSaved {edits : List Edit} (hfits : Fits (ofSaved rows) edits) :
    after Edit.on (ofSaved rows) edits = ofSaved (after Edit.onList rows edits) := by
  induction edits generalizing rows with
  | nil => rfl
  | cons edit rest ih => rw [after_cons, after_cons, next_ofSaved hfits.few, ih hfits.tail]

theorem answers_ofSaved {edits : List Edit} (hfits : Fits (ofSaved rows) edits) :
    answers Edit.on (ofSaved rows) edits = answers Edit.onList rows edits := by
  induction edits generalizing rows with
  | nil => rfl
  | cons edit rest ih =>
    rw [answers, answers, next_ofSaved hfits.few, ih hfits.tail, edit.on_ofSaved hfits.few]
    cases edit.onList rows <;> rfl

/-- **To whoever edits it, an editor is a plain list.** From any list as it was stored, and so also
from the empty one, and after each of some edits with any arguments, while the list does not grow to
`2 ^ 32` rows: the editor shows the list that the same edits make of the stored one, and it made and
refused those that the list made and refused, for the same reasons. -/
theorem shows_list (saved : List Action) (edits : List Edit) (hfits : Fits (ofSaved saved) edits) :
    (∀ before, before <+: edits →
        Shows (after Edit.on (ofSaved saved) before) (after Edit.onList saved before))
      ∧ answers Edit.on (ofSaved saved) edits = answers Edit.onList saved edits := by
  refine ⟨fun before hbefore => ?_, answers_ofSaved hfits⟩
  have hbefits := hfits.mono hbefore
  have hfew := hfits before hbefore
  rw [after_ofSaved hbefits] at hfew ⊢
  rw [length_ofSaved] at hfew
  exact shows_ofSaved hfew

/-- A callback that may be sent as soon as a risk appears. -/
def callback : ActionFields :=
  { channel := some .interfaceCallback, url := some "https://a.example.com" }

/-- Two rows are added to a stored one, and the last is filled in; the second cannot be filled in
like that. Then the first row is removed, and there is no third row left. -/
def reworking : List Edit :=
  [.append [.timing, .realtime], .replace 3 callback, .replace 2 callback, .remove 1, .remove 3]

theorem shows_list_reworking :
    Fits (ofSaved [⟨.realtime, callback⟩]) reworking
      ∧ Shows (after Edit.on (ofSaved [⟨.realtime, callback⟩]) reworking)
        [⟨.timing, {}⟩, ⟨.realtime, callback⟩]
      ∧ answers Edit.on (ofSaved [⟨.realtime, callback⟩]) reworking
        = [.ok (), .ok (), .error (ActionError.fault ⟨.timing, .callbackNotTimed⟩), .ok (),
          .error (.notFound "action #3")] := by
  have hfits : Fits (ofSaved [⟨.realtime, callback⟩]) reworking := by
    have hall : ∀ before ∈ reworking.inits,
        (after Edit.on (ofSaved [⟨.realtime, callback⟩]) before).length < 2 ^ 32 := by
      decide +kernel
    exact fun before hbefore => hall before ((List.mem_inits ..).mpr hbefore)
  obtain ⟨hshows, hanswers⟩ := shows_list [⟨.realtime, callback⟩] reworking hfits
  have hrows : after Edit.onList [⟨.realtime, callback⟩] reworking
      = [⟨.timing, {}⟩, ⟨.realtime, callback⟩] := by decide +kernel
  refine ⟨hfits, ?_, ?_⟩
  · rw [← hrows]
    exact hshows reworking List.prefix_rfl
  · rw [hanswers]
    decide +kernel

end ActionEditor
end Whitelist
