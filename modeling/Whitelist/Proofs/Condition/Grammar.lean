import Whitelist.Condition.Check
import Whitelist.Proofs.Condition.Writing

/-!
# What a condition is

The check of a condition is a descent that answers with the tokens it has left. Beside it stands the
grammar: which lists of tokens are a disjunction, a conjunction or a unary, at which depth. The
descent never goes back, and where it could stop it goes on as long as it can. So it has to be shown
that no derivation is missed by that: an operator of its own level never follows a part that is
complete.

## What is here

* `Level`, `Derives` — the grammar.
* `read`, `Leaves` — the descent at each level, and what it leaves unread.
* `leaves_of_derives`, `derivedBelow` — the descent reads what the grammar derives, and nothing
  else.
* `IsCondition`, `check_iff_isCondition` — a text passes the check exactly if it writes a derived
  list of tokens.

The descent returns the tokens it has not read, with a proof that they are fewer, and its three
levels call one another. `Leaves` forgets the proof and keeps the list, so that each function has an
equation in terms of the others (`leaves_disjunction_iff` and so on). One direction of the theorem
is by induction on the derivation, and there the tokens that follow matter: `Level.Ends` says that
they do not start with an operator which the level would go on with. The other direction is by
induction on the number of tokens, because the descent is not structural in anything else.
-/

set_option autoImplicit false
namespace Whitelist.Condition

/-! ## The grammar

`Derives` has the depth as an index and not as a measure of the derivation. It goes up with each `!`
and each bracket, and every unary asks for it to be at most 32. -/

/-- The three levels of the grammar. -/
inductive Level where
  | disjunction
  | conjunction
  | unary

/-- The tokens make up a condition over the ids, at a level of the grammar, with so many `!` and `(`
around it. A disjunction is one conjunction or more with `||` between them, a conjunction is one
unary or more with `&&` between them, and no unary lies deeper than 32. -/
inductive Derives (ids : List UInt32) : Level → Nat → List Token → Prop
  | conjunction {depth : Nat} {tokens : List Token} (h : Derives ids .conjunction depth tokens) :
      Derives ids .disjunction depth tokens
  | or {depth : Nat} {first more : List Token} (hfirst : Derives ids .conjunction depth first)
      (hmore : Derives ids .disjunction depth more) :
      Derives ids .disjunction depth (first ++ .or :: more)
  | unary {depth : Nat} {tokens : List Token} (h : Derives ids .unary depth tokens) :
      Derives ids .conjunction depth tokens
  | and {depth : Nat} {first more : List Token} (hfirst : Derives ids .unary depth first)
      (hmore : Derives ids .conjunction depth more) :
      Derives ids .conjunction depth (first ++ .and :: more)
  | not {depth : Nat} {tokens : List Token} (hdepth : depth ≤ 32)
      (h : Derives ids .unary (depth + 1) tokens) : Derives ids .unary depth (.not :: tokens)
  | parens {depth : Nat} {tokens : List Token} (hdepth : depth ≤ 32)
      (h : Derives ids .disjunction (depth + 1) tokens) :
      Derives ids .unary depth (.openParen :: (tokens ++ [.closeParen]))
  | id {depth : Nat} {n : UInt32} (hdepth : depth ≤ 32) (hknown : n ∈ ids) :
      Derives ids .unary depth [.id n]

/-! ## What the descent leaves

Readers are functions into `Except` with a subtype for the rest. These lemmas are about any such
functions, one after another. -/

/-- The descent at a level. -/
def read : Level → List UInt32 → Nat → (tokens : List Token) → Except ConditionError (Rest tokens)
  | .disjunction => disjunction
  | .conjunction => conjunction
  | .unary => unary

/-- A reader has read something and leaves the rest. -/
def Leaves {p : List Token → Prop} (result : Except ConditionError (Subtype p))
    (rest : List Token) : Prop := ∃ h, result = .ok ⟨rest, h⟩

section Leaves

variable {p q : List Token → Prop} {rest : List Token}

theorem leaves_ok_iff {r : Subtype p} : Leaves (.ok r) rest ↔ r.1 = rest := by
  constructor
  · rintro ⟨h, heq⟩
    cases heq
    rfl
  · rintro rfl
    exact ⟨r.2, rfl⟩

theorem not_leaves_error {e : ConditionError} :
    ¬ Leaves (.error e : Except _ (Subtype p)) rest := by
  rintro ⟨_, heq⟩
  cases heq

/-- One reader after another. -/
theorem leaves_bind_iff {x : Except ConditionError (Subtype p)}
    {k : Subtype p → Except ConditionError (Subtype q)} :
    Leaves (x >>= k) rest ↔ ∃ mid h, x = .ok ⟨mid, h⟩ ∧ Leaves (k ⟨mid, h⟩) rest := by
  cases x with
  | error e =>
    refine ⟨fun h => absurd h not_leaves_error, ?_⟩
    rintro ⟨_, _, heq, _⟩
    cases heq
  | ok r =>
    refine ⟨fun h => ⟨r.1, r.2, rfl, h⟩, ?_⟩
    rintro ⟨mid, hmid, heq, h⟩
    cases heq
    exact h

/-- A reader whose answer is only seen from further back. -/
theorem leaves_bind_pure_iff {x : Except ConditionError (Subtype p)} {f : Subtype p → Subtype q}
    (hf : ∀ r, (f r).1 = r.1) : Leaves (x >>= fun r => pure (f r)) rest ↔ Leaves x rest := by
  rw [leaves_bind_iff]
  constructor
  · rintro ⟨mid, hmid, hx, h⟩
    obtain rfl : mid = rest := (hf _).symm.trans (leaves_ok_iff.mp h)
    exact ⟨hmid, hx⟩
  · rintro ⟨h, hx⟩
    exact ⟨rest, h, hx, leaves_ok_iff.mpr (hf _)⟩

/-- A second reader goes on with what the first one leaves. -/
theorem leaves_seq_iff {u : List Token → List Token → Prop} {x : Except ConditionError (Subtype p)}
    {y : (mid : List Token) → Except ConditionError (Subtype (u mid))}
    {f : (mid : List Token) → p mid → Subtype (u mid) → Subtype q}
    (hf : ∀ mid h r, (f mid h r).1 = r.1) :
    Leaves (x >>= fun s => y s.1 >>= fun r => pure (f s.1 s.2 r)) rest
      ↔ ∃ mid, Leaves x mid ∧ Leaves (y mid) rest := by
  rw [leaves_bind_iff]
  constructor
  · rintro ⟨mid, hmid, hx, h⟩
    exact ⟨mid, ⟨hmid, hx⟩, (leaves_bind_pure_iff (hf mid hmid)).mp h⟩
  · rintro ⟨mid, ⟨hmid, hx⟩, h⟩
    exact ⟨mid, hmid, hx, (leaves_bind_pure_iff (hf mid hmid)).mpr h⟩

end Leaves

/-! ## The descent, step by step

Each level reads a part of the level below, and then either goes on behind its own operator or
stops. -/

variable {ids : List UInt32} {depth : Nat} {tokens rest : List Token}

/-- A disjunction starts with a conjunction. -/
theorem leaves_disjunction_iff : Leaves (disjunction ids depth tokens) rest
    ↔ ∃ mid, Leaves (conjunction ids depth tokens) mid
      ∧ Leaves (moreDisjuncts ids depth mid) rest := by
  rw [disjunction]
  exact leaves_seq_iff (y := moreDisjuncts ids depth) (f := fun _ h r => RestLe.after r h)
    fun _ _ _ => rfl

/-- After `||` there is to be another disjunction. -/
theorem leaves_moreDisjuncts_or_iff : Leaves (moreDisjuncts ids depth (.or :: tokens)) rest
    ↔ Leaves (disjunction ids depth tokens) rest := by
  rw [leaves_disjunction_iff, moreDisjuncts]
  exact leaves_seq_iff (y := moreDisjuncts ids depth)
    (f := fun mid (h : mid.length < tokens.length) r => ((RestLe.after r h).cons .or).atMost)
    fun _ _ _ => rfl

/-- Without `||` the disjunction ends there. -/
theorem leaves_moreDisjuncts_iff (h : tokens.head? ≠ some .or) :
    Leaves (moreDisjuncts ids depth tokens) rest ↔ tokens = rest := by
  rw [moreDisjuncts]
  · exact leaves_ok_iff
  · rintro more rfl
    exact h rfl

/-- A conjunction starts with a unary. -/
theorem leaves_conjunction_iff : Leaves (conjunction ids depth tokens) rest
    ↔ ∃ mid, Leaves (unary ids depth tokens) mid ∧ Leaves (moreConjuncts ids depth mid) rest := by
  rw [conjunction]
  exact leaves_seq_iff (y := moreConjuncts ids depth) (f := fun _ h r => RestLe.after r h)
    fun _ _ _ => rfl

/-- After `&&` there is to be another conjunction. -/
theorem leaves_moreConjuncts_and_iff : Leaves (moreConjuncts ids depth (.and :: tokens)) rest
    ↔ Leaves (conjunction ids depth tokens) rest := by
  rw [leaves_conjunction_iff, moreConjuncts]
  exact leaves_seq_iff (y := moreConjuncts ids depth)
    (f := fun mid (h : mid.length < tokens.length) r => ((RestLe.after r h).cons .and).atMost)
    fun _ _ _ => rfl

/-- Without `&&` the conjunction ends there. -/
theorem leaves_moreConjuncts_iff (h : tokens.head? ≠ some .and) :
    Leaves (moreConjuncts ids depth tokens) rest ↔ tokens = rest := by
  rw [moreConjuncts]
  · exact leaves_ok_iff
  · rintro more rfl
    exact h rfl

/-- Nothing is read that lies too deep. -/
theorem depth_le_of_leaves_unary (h : Leaves (unary ids depth tokens) rest) : depth ≤ 32 := by
  refine Nat.not_lt.mp fun hdeep => ?_
  rw [unary.eq_def, if_pos (show depth > maxDepth from hdeep)] at h
  exact not_leaves_error h

section Unary

variable (hdepth : depth ≤ 32)
include hdepth

theorem not_tooDeep : ¬ depth > maxDepth := Nat.not_lt.mpr hdepth

/-- Behind `!` there is a unary, one deeper. -/
theorem leaves_unary_not_iff : Leaves (unary ids depth (.not :: tokens)) rest
    ↔ Leaves (unary ids (depth + 1) tokens) rest := by
  rw [unary, if_neg (not_tooDeep hdepth)]
  exact leaves_bind_pure_iff fun _ => rfl

/-- Behind a bracket there is a disjunction, one deeper, and then the bracket that closes it. -/
theorem leaves_unary_openParen_iff : Leaves (unary ids depth (.openParen :: tokens)) rest
    ↔ Leaves (disjunction ids (depth + 1) tokens) (.closeParen :: rest) := by
  rw [unary, if_neg (not_tooDeep hdepth), leaves_bind_iff]
  constructor
  · rintro ⟨mid, hmid, hdisj, h⟩
    split at h
    · rename_i left hleft heq
      cases heq
      obtain rfl : left = rest := leaves_ok_iff.mp h
      exact ⟨hmid, hdisj⟩
    · exact absurd h not_leaves_error
  · rintro ⟨hmid, hdisj⟩
    exact ⟨.closeParen :: rest, hmid, hdisj, leaves_ok_iff.mpr rfl⟩

/-- An id has to be one of those that are given. -/
theorem leaves_unary_id_iff {n : UInt32} : Leaves (unary ids depth (.id n :: tokens)) rest
    ↔ n ∈ ids ∧ tokens = rest := by
  rw [unary, if_neg (not_tooDeep hdepth)]
  by_cases hn : n ∈ ids
  · rw [if_pos hn, leaves_ok_iff]
    exact (and_iff_right hn).symm
  · rw [if_neg hn]
    exact ⟨fun h => absurd h not_leaves_error, fun h => absurd h.1 hn⟩

end Unary

/-- A unary starts with `!`, with `(` or with an id. -/
theorem not_leaves_unary (hnot : tokens.head? ≠ some .not) (hopen : tokens.head? ≠ some .openParen)
    (hid : ∀ n, tokens.head? ≠ some (.id n)) : ¬ Leaves (unary ids depth tokens) rest := by
  intro h
  have hdepth := depth_le_of_leaves_unary h
  rw [unary, if_neg (not_tooDeep hdepth)] at h
  · exact not_leaves_error h
  · rintro _ rfl
    exact hnot rfl
  · rintro _ rfl
    exact hopen rfl
  · rintro n _ rfl
    exact hid n rfl

/-! ## The descent and the grammar

A unary may hold a disjunction, so the three levels are proved together: what is read from fewer
tokens is derived at every level (`DerivedBelow`), hence a unary of these tokens is, hence a
conjunction, hence a disjunction. -/

/-- What follows a part of this level does not belong to it: no operator of the level comes next. -/
def Level.Ends : Level → List Token → Prop
  | disjunction, rest => rest.head? ≠ some .or ∧ rest.head? ≠ some .and
  | conjunction, rest => rest.head? ≠ some .and
  | unary, _ => True

/-- What the grammar derives is read, however the tokens go on after it. -/
theorem leaves_of_derives {level : Level} (h : Derives ids level depth tokens)
    (hends : level.Ends rest) : Leaves (read level ids depth (tokens ++ rest)) rest := by
  induction h generalizing rest with
  | conjunction _ ih =>
    exact leaves_disjunction_iff.mpr
      ⟨rest, ih hends.2, (leaves_moreDisjuncts_iff hends.1).mpr rfl⟩
  | @or depth first more _ _ ihfirst ihmore =>
    rw [List.append_assoc]
    exact leaves_disjunction_iff.mpr
      ⟨.or :: (more ++ rest), ihfirst nofun,
        leaves_moreDisjuncts_or_iff.mpr (ihmore hends)⟩
  | unary _ ih =>
    exact leaves_conjunction_iff.mpr ⟨rest, ih trivial, (leaves_moreConjuncts_iff hends).mpr rfl⟩
  | @and depth first more _ _ ihfirst ihmore =>
    rw [List.append_assoc]
    exact leaves_conjunction_iff.mpr
      ⟨.and :: (more ++ rest), ihfirst trivial, leaves_moreConjuncts_and_iff.mpr (ihmore hends)⟩
  | not hdepth _ ih => exact (leaves_unary_not_iff hdepth).mpr (ih trivial)
  | @parens depth tokens hdepth _ ih =>
    rw [List.cons_append, List.append_assoc]
    exact (leaves_unary_openParen_iff hdepth).mpr (ih ⟨nofun, nofun⟩)
  | id hdepth hknown => exact (leaves_unary_id_iff hdepth).mpr ⟨hknown, rfl⟩

/-- The tokens before the rest are derived. -/
def DerivesBefore (ids : List UInt32) (level : Level) (depth : Nat) (tokens rest : List Token) :
    Prop :=
  ∃ front, tokens = front ++ rest ∧ Derives ids level depth front

/-- Whatever is read from fewer tokens is derived. -/
def DerivedBelow (ids : List UInt32) (length : Nat) : Prop :=
  ∀ (level : Level) (depth : Nat) (tokens rest : List Token), tokens.length < length →
    Leaves (read level ids depth tokens) rest → DerivesBefore ids level depth tokens rest

section Below

variable (hbelow : DerivedBelow ids tokens.length)
include hbelow

/-- The bracket and the `!` have taken a token away, so the induction applies to what is behind
them. -/
theorem derives_unary (h : Leaves (unary ids depth tokens) rest) :
    DerivesBefore ids .unary depth tokens rest := by
  have hdepth := depth_le_of_leaves_unary h
  cases tokens with
  | nil => exact absurd h (not_leaves_unary (by simp) (by simp) (by simp))
  | cons token tokens =>
    have hshorter := length_lt_cons token tokens
    cases token with
    | not =>
      obtain ⟨front, rfl, hfront⟩ :=
        hbelow .unary _ _ _ hshorter ((leaves_unary_not_iff hdepth).mp h)
      exact ⟨.not :: front, rfl, .not hdepth hfront⟩
    | openParen =>
      obtain ⟨front, rfl, hfront⟩ :=
        hbelow .disjunction _ _ _ hshorter ((leaves_unary_openParen_iff hdepth).mp h)
      exact ⟨.openParen :: (front ++ [.closeParen]), by simp, .parens hdepth hfront⟩
    | id n =>
      obtain ⟨hknown, rfl⟩ := (leaves_unary_id_iff hdepth).mp h
      exact ⟨[.id n], rfl, .id hdepth hknown⟩
    | and | or | closeParen => exact absurd h (not_leaves_unary (by simp) (by simp) (by simp))

/-- The unary at the start is derived from the same tokens, the rest of the conjunction from fewer.
-/
theorem derives_conjunction (h : Leaves (conjunction ids depth tokens) rest) :
    DerivesBefore ids .conjunction depth tokens rest := by
  obtain ⟨mid, hunary, hmore⟩ := leaves_conjunction_iff.mp h
  obtain ⟨hmid, -⟩ := id hunary
  obtain ⟨front, rfl, hfront⟩ := derives_unary hbelow hunary
  by_cases hand : mid.head? = some .and
  · obtain ⟨more, rfl⟩ := List.head?_eq_some_iff.mp hand
    obtain ⟨last, rfl, hlast⟩ := hbelow .conjunction depth more rest
      (Nat.lt_of_succ_lt hmid) (leaves_moreConjuncts_and_iff.mp hmore)
    exact ⟨front ++ .and :: last, by simp, .and hfront hlast⟩
  · obtain rfl := (leaves_moreConjuncts_iff hand).mp hmore
    exact ⟨front, rfl, .unary hfront⟩

/-- Likewise one level up. -/
theorem derives_disjunction (h : Leaves (disjunction ids depth tokens) rest) :
    DerivesBefore ids .disjunction depth tokens rest := by
  obtain ⟨mid, hconj, hmore⟩ := leaves_disjunction_iff.mp h
  obtain ⟨hmid, -⟩ := id hconj
  obtain ⟨front, rfl, hfront⟩ := derives_conjunction hbelow hconj
  by_cases hor : mid.head? = some .or
  · obtain ⟨more, rfl⟩ := List.head?_eq_some_iff.mp hor
    obtain ⟨last, rfl, hlast⟩ := hbelow .disjunction depth more rest
      (Nat.lt_of_succ_lt hmid) (leaves_moreDisjuncts_or_iff.mp hmore)
    exact ⟨front ++ .or :: last, by simp, .or hfront hlast⟩
  · obtain rfl := (leaves_moreDisjuncts_iff hor).mp hmore
    exact ⟨front, rfl, .conjunction hfront⟩

end Below

/-- What is read is derived by the grammar. The induction is on the number of tokens; a level may
use the one below it on the same tokens. -/
theorem derivedBelow (ids : List UInt32) (length : Nat) : DerivedBelow ids length := by
  induction length with
  | zero => exact fun _ _ _ _ h => absurd h (Nat.not_lt_zero _)
  | succ length ih =>
    intro level depth tokens rest hlength h
    have hbelow : DerivedBelow ids tokens.length := fun level depth shorter rest hshorter =>
      ih level depth shorter rest (Nat.lt_of_lt_of_le hshorter (Nat.le_of_lt_succ hlength))
    cases level with
    | disjunction => exact derives_disjunction hbelow h
    | conjunction => exact derives_conjunction hbelow h
    | unary => exact derives_unary hbelow h

/-- A descent that leaves nothing has read a disjunction. -/
theorem leaves_nil_iff_derives :
    Leaves (disjunction ids 0 tokens) [] ↔ Derives ids .disjunction 0 tokens := by
  constructor
  · intro h
    obtain ⟨front, rfl, hfront⟩ :=
      derivedBelow ids _ .disjunction 0 tokens [] (Nat.lt_succ_self _) h
    rwa [List.append_nil]
  · intro h
    have hread : Leaves (read .disjunction ids 0 (tokens ++ [])) [] :=
      leaves_of_derives h ⟨nofun, nofun⟩
    rwa [List.append_nil] at hread

/-! ## The check

The check scans the text, and wants one token at least and none left over. -/

/-- A text passes the check if it has tokens and the descent leaves none of them. -/
theorem check_eq_ok_iff {condition : String} : check condition ids = .ok ()
    ↔ ∃ tokens, Token.scan condition.toList = some tokens
      ∧ Leaves (disjunction ids 0 tokens) [] := by
  rw [check]
  cases Token.scan condition.toList with
  | none => simp
  | some tokens =>
    show (disjunction ids 0 tokens >>= fun r =>
      if r.1 = [] then .ok () else .error .trailingTokens) = .ok () ↔ _
    cases hread : disjunction ids 0 tokens with
    | error e => simp [bind, Except.bind, hread, not_leaves_error]
    | ok r =>
      show (if r.1 = [] then Except.ok () else .error ConditionError.trailingTokens) = .ok () ↔ _
      simp [hread, leaves_ok_iff]

/-- The text is a condition over the ids: it writes, with any blank space between its tokens, a
disjunction with nothing around it. -/
def IsCondition (ids : List UInt32) (text : List Char) : Prop :=
  ∃ tokens, Derives ids .disjunction 0 tokens ∧ Written tokens text

/-- **The check accepts exactly the conditions of the grammar**, and refuses every other text. -/
theorem check_iff_isCondition (condition : String) (ids : List UInt32) :
    (check condition ids = .ok () ↔ IsCondition ids condition.toList)
      ∧ ((∃ e, check condition ids = .error e) ↔ ¬ IsCondition ids condition.toList) := by
  have haccepts : check condition ids = .ok () ↔ IsCondition ids condition.toList := by
    rw [check_eq_ok_iff]
    refine exists_congr fun tokens => ?_
    rw [scan_eq_some_iff, leaves_nil_iff_derives, and_comm]
  refine ⟨haccepts, ?_⟩
  rw [← haccepts]
  cases check condition ids with
  | ok => simp
  | error e => simp

end Whitelist.Condition
