import Mathlib.Data.List.Basic
import Whitelist.Rule.Form

/-!
# In which order a refusal names the fields

`RuleForm.complaints` is a set of complaints, and `LineOrder` says in which order a refusal shows
them. No rule fixes that order, and two checks of one form need not use the same. What is said of
answers to a form therefore holds for every `LineOrder`, and where two answers are compared, each of
them has an order of its own.

## What is here

* `LineOrder.arrange_perm`, `LineOrder.exists_arrange_eq` — an order shows all complaints, and
  whatever order they may be shown in is a `LineOrder`.
* `Text.SameLines`, `Fault.SameLines` — texts, and faults, that differ in the order of lines only.
* `UpToLines` — answers that do. It is an equivalence: `UpToLines.refl`, `UpToLines.symm`,
  `UpToLines.trans`.
* `SameAnswer` — answers under two orders that are the same up to lines, and equal where the two
  orders are. `FormError.sameAnswer_error` says so of a refusal, `RuleForm.sameAnswer_validate` of
  the check of a form.
-/

set_option autoImplicit false
namespace Whitelist

/-! ## Orders

There are two text fields, so there are two orders. -/

theorem LineOrder.arrange_perm (order : LineOrder) (complaints : List FieldComplaint) :
    (order.arrange complaints).Perm complaints := by
  cases order with
  | codeFirst => exact .refl complaints
  | nameFirst => exact complaints.reverse_perm

/-- Nothing is lost by there being two orders: they are all orders of the complaints about a
form. -/
theorem LineOrder.exists_arrange_eq {content : RuleContent} {shown : List FieldComplaint}
    (h : shown.Perm (RuleForm.complaints content)) :
    ∃ order : LineOrder, order.arrange (RuleForm.complaints content) = shown := by
  rw [RuleForm.complaints] at h ⊢
  generalize RuleForm.complaint? "rule_code" content.code checkRuleCode = code at h ⊢
  generalize RuleForm.complaint? "rule_name" content.name checkRuleName = name at h ⊢
  match code, name with
  | none, none => exact ⟨.codeFirst, h.eq_nil.symm⟩
  | none, some name => exact ⟨.codeFirst, (List.perm_singleton.mp h).symm⟩
  | some code, none => exact ⟨.codeFirst, (List.perm_singleton.mp h).symm⟩
  | some code, some name =>
    match shown, h.length_eq with
    | [first, second], _ =>
      rcases List.mem_pair.mp (h.mem_iff.mp List.mem_cons_self) with rfl | rfl
      · have hrest := List.perm_singleton.mp ((List.perm_cons first).mp h)
        exact ⟨.codeFirst, congrArg (first :: ·) hrest.symm⟩
      · have hrest := (List.perm_cons first).mp (h.trans (List.Perm.swap first code []))
        exact ⟨.nameFirst, congrArg (first :: ·) (List.perm_singleton.mp hrest).symm⟩

/-! ## Lines

A text is put together with line breaks between its lines, and `SameLines` cuts it at every break.
It is not asked whether `FieldComplaint.line` has breaks of its own:
`splitOn_intercalate_eq_flatMap` cuts lines that have some as well. -/

namespace Text

/-- The two texts have the same lines, in whatever order. -/
def SameLines (s t : String) : Prop := (s.toList.splitOn '\n').Perm (t.toList.splitOn '\n')

/-- The lines of texts put together with line breaks are the lines of the texts. -/
theorem splitOn_intercalate_eq_flatMap {sep : Char} {texts : List (List Char)} (h : texts ≠ []) :
    ([sep].intercalate texts).splitOn sep = texts.flatMap (·.splitOn sep) := by
  induction texts with
  | nil => exact absurd rfl h
  | cons text rest ih =>
    cases rest with
    | nil => simp
    | cons next rest =>
      have hcut : [sep].intercalate (text :: next :: rest)
          = text ++ sep :: [sep].intercalate (next :: rest) := by simp
      rw [hcut, List.splitOn_append_cons_self, ih (List.cons_ne_nil _ _)]
      rfl

theorem sameLines_intercalate {lines lines' : List String} (h : lines.Perm lines') :
    SameLines ("\n".intercalate lines) ("\n".intercalate lines') := by
  by_cases hnil : lines = []
  · subst hnil
    rw [h.nil_eq]
    exact .refl _
  · have hsplit {l : List String} (hl : l ≠ []) : ("\n".intercalate l).toList.splitOn '\n'
        = (l.map String.toList).flatMap (·.splitOn '\n') := by
      rw [String.toList_intercalate]
      exact splitOn_intercalate_eq_flatMap (by simpa using hl)
    have hnil' : lines' ≠ [] := fun hn => hnil (hn ▸ h).eq_nil
    rw [SameLines, hsplit hnil, hsplit hnil']
    exact (h.map String.toList).flatMap_right _

end Text

/-! ## Answers

A refusal of a form is a `Fault.validation`, whose text has one line for each field. -/

/-- The same fault, but for the order of the lines in the text of one that refuses a form. -/
inductive Fault.SameLines : Fault → Fault → Prop
  | refl (f : Fault) : SameLines f f
  | validation {reason reason' : String} (h : Text.SameLines reason reason') :
    SameLines (.validation reason) (.validation reason')

namespace Fault.SameLines

variable {f g k : Fault}

theorem symm (h : f.SameLines g) : g.SameLines f := by
  cases h with
  | refl => exact .refl f
  | validation h => exact .validation (List.Perm.symm h)

theorem trans (h : f.SameLines g) (h' : g.SameLines k) : f.SameLines k := by
  cases h with
  | refl => exact h'
  | validation h =>
    cases h' with
    | refl => exact .validation h
    | validation h' => exact .validation (List.Perm.trans h h')

end Fault.SameLines

variable {α : Type}

/-- The two answers are the same up to the order of lines: both are the same success, or both are
the same refusal. -/
inductive UpToLines : Except Fault α → Except Fault α → Prop
  | ok (a : α) : UpToLines (.ok a) (.ok a)
  | error {f g : Fault} (h : f.SameLines g) : UpToLines (.error f) (.error g)

namespace UpToLines

variable {a b c : Except Fault α}

theorem refl : (a : Except Fault α) → UpToLines a a
  | .ok a => .ok a
  | .error f => .error (.refl f)

theorem symm (h : UpToLines a b) : UpToLines b a := by
  cases h with
  | ok a => exact .ok a
  | error h => exact .error h.symm

theorem trans (h : UpToLines a b) (h' : UpToLines b c) : UpToLines a c := by
  cases h with
  | ok a => exact h'
  | error h =>
    cases h' with
    | error h' => exact .error (h.trans h')

end UpToLines

/-- Two answers, each given under an order of its own, differ in nothing but the order of lines, and
where the two orders are the same in nothing at all. -/
structure SameAnswer (order order' : LineOrder) (a b : Except Fault α) : Prop where
  upToLines : UpToLines a b
  eq_of_order : order = order' → a = b

theorem SameAnswer.of_eq {order order' : LineOrder} {a b : Except Fault α} (h : a = b) :
    SameAnswer order order' a b where
  upToLines := h ▸ .refl a
  eq_of_order _ := h

theorem SameAnswer.refl {order order' : LineOrder} (a : Except Fault α) :
    SameAnswer order order' a a := .of_eq rfl

/-- Of two checks that answer the same, both pass, or both refuse and may hand their refusals on. -/
theorem SameAnswer.passed_or_refused {order order' : LineOrder} {a b : Except Fault Unit}
    (h : SameAnswer order order' a b) :
    (a = .ok () ∧ b = .ok ()) ∨ ∃ f g, a = .error f ∧ b = .error g
      ∧ SameAnswer order order' (.error f : Except Fault α) (.error g) := by
  obtain ⟨hlines, heq⟩ := h
  cases hlines with
  | ok => exact .inl ⟨rfl, rfl⟩
  | @error f g hlines =>
    have hsame : order = order' → (.error f : Except Fault α) = .error g := fun h => by
      rw [Except.error.inj (heq h)]
    exact .inr ⟨f, g, rfl, rfl, .error hlines, hsame⟩

theorem FormError.sameLines_fault (e : FormError) (order order' : LineOrder) :
    (e.fault order).SameLines (e.fault order') := by
  cases e with
  | fields complaints =>
    have hperm := (order.arrange_perm complaints).trans (order'.arrange_perm complaints).symm
    exact .validation (Text.sameLines_intercalate (hperm.map FieldComplaint.line))
  | _ => exact .refl _

theorem FormError.sameAnswer_error (e : FormError) (order order' : LineOrder) :
    SameAnswer order order' (.error (e.fault order) : Except Fault α)
      (.error (e.fault order')) where
  upToLines := .error (e.sameLines_fault order order')
  eq_of_order h := by rw [h]

/-- A form that is checked twice is accepted twice, or it is refused twice for the same. -/
theorem RuleForm.sameAnswer_validate (form : RuleForm) (order order' : LineOrder) :
    SameAnswer order order' (form.validate order) (form.validate order') := by
  rw [validate, validate]
  cases form.check with
  | error e => exact e.sameAnswer_error order order'
  | ok => exact .refl _

end Whitelist
