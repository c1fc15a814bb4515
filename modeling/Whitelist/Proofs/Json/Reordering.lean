import Mathlib.Data.List.Basic
import Whitelist.Json.Basic

/-!
# Values with their members in another order

The members of an object stand in some order, and so do those of the objects inside it. Putting them
in another order anywhere leaves alone what can be read at all, and all values that hold no more
than one member.

## What is here

* `Reordered` — a value with members in another order, at any level.
* `readableItems_eq_all`, `readableMembers_eq_all` — what can be read at all, part by part.
* `Reordered.readable_eq` — what can be read can be read in any order.
* `isPlain`, `Reordered.eq_or_not_isPlain` — values in which there is nothing to put in order.
-/

set_option autoImplicit false
namespace Whitelist.Json

variable {v v' : Json} {ms ms' : List (String × Json)}

/-- The second value is the first one with the members of objects in another order, of the value
itself or of any part of it. -/
inductive Reordered : Json → Json → Prop
  | refl (v : Json) : Reordered v v
  | trans {u v w : Json} (h : Reordered u v) (h' : Reordered v w) : Reordered u w
  | perm {ms ms' : List (String × Json)} (h : ms.Perm ms') : Reordered (obj ms) (obj ms')
  | member (before : List (String × Json)) (name : String) (after : List (String × Json))
      {v v' : Json} (h : Reordered v v') :
      Reordered (obj (before ++ (name, v) :: after)) (obj (before ++ (name, v') :: after))
  | item (before after : List Json) {v v' : Json} (h : Reordered v v') :
      Reordered (arr (before ++ v :: after)) (arr (before ++ v' :: after))

/-! ## Reading at all -/

theorem readableItems_eq_all (items : List Json) : readableItems items = items.all readable := by
  induction items with
  | nil => rfl
  | cons item rest ih => rw [readableItems, List.all_cons, ih]

theorem readableMembers_eq_all (ms : List (String × Json)) :
    readableMembers ms = ms.all fun m => m.2.readable := by
  induction ms with
  | nil => rfl
  | cons m rest ih => rw [readableMembers, List.all_cons, ih]

theorem readableMembers_perm (h : ms.Perm ms') : readableMembers ms = readableMembers ms' := by
  rw [readableMembers_eq_all, readableMembers_eq_all, Bool.eq_iff_iff, List.all_eq_true,
    List.all_eq_true]
  exact forall_congr' fun m => by rw [h.mem_iff]

theorem Reordered.readable_eq (h : Reordered v v') : v.readable = v'.readable := by
  induction h with
  | refl v => rfl
  | trans _ _ ih ih' => exact ih.trans ih'
  | perm h => exact readableMembers_perm h
  | member before name after _ ih => simp [readable, readableMembers_eq_all, ih]
  | item before after _ ih => simp [readable, readableItems_eq_all, ih]

/-! ## Plain values -/

/-- Whether nothing in the value can be put in another order: it is no array and no object, or an
object of at most one member, which is null or an empty object. -/
def isPlain : Json → Bool
  | arr _ => false
  | obj [] | obj [(_, null)] | obj [(_, obj [])] => true
  | obj _ => false
  | _ => true

theorem isPlain_obj_of_length (h : 2 ≤ ms.length) : (obj ms).isPlain = false := by
  match ms, h with
  | _ :: _ :: _, _ => simp [isPlain]

theorem isPlain_obj_singleton (name : String) (h : v.isPlain = false) :
    (obj [(name, v)]).isPlain = false := by
  unfold isPlain
  split <;> simp_all [isPlain]

/-- A value changes with the order of members only if there is something to put in order. -/
theorem Reordered.eq_or_not_isPlain (h : Reordered v v') :
    v = v' ∨ v.isPlain = false ∧ v'.isPlain = false := by
  induction h with
  | refl v => exact .inl rfl
  | trans _ _ ih ih' =>
    rcases ih with rfl | ⟨hu, hv⟩
    · exact ih'
    · rcases ih' with rfl | ⟨-, hw⟩
      · exact .inr ⟨hu, hv⟩
      · exact .inr ⟨hu, hw⟩
  | @perm ms ms' h =>
    rcases Nat.lt_or_ge ms.length 2 with hfew | hmany
    · match ms, hfew with
      | [], _ => rw [h.nil_eq]; exact .inl rfl
      | [m], _ => rw [List.singleton_perm.mp h]; exact .inl rfl
    · exact .inr ⟨isPlain_obj_of_length hmany, isPlain_obj_of_length (h.length_eq ▸ hmany)⟩
  | @member before name after v v' _ ih =>
    by_cases hsingle : before = [] ∧ after = []
    · obtain ⟨rfl, rfl⟩ := hsingle
      rcases ih with rfl | ⟨hv, hv'⟩
      · exact .inl rfl
      · exact .inr ⟨isPlain_obj_singleton name hv, isPlain_obj_singleton name hv'⟩
    · have hmany (w : Json) : 2 ≤ (before ++ (name, w) :: after).length := by
        rw [List.length_append, List.length_cons]
        rcases not_and_or.mp hsingle with hsome | hsome
        · have := List.length_pos_iff.mpr hsome
          omega
        · have := List.length_pos_iff.mpr hsome
          omega
      exact .inr ⟨isPlain_obj_of_length (hmany v), isPlain_obj_of_length (hmany v')⟩
  | item before after _ _ => exact .inr ⟨rfl, rfl⟩

end Whitelist.Json
