import Whitelist.Json.Printer
import Whitelist.Json.Reader
import Whitelist.Proofs.Text.Numeral

/-!
# Reading strings and numbers

The parts of a JSON text that hold no other values, as they are written, with whatever follows them.

## What is here

* `Reads` — what a reader makes of a text, and what it leaves of it.
* `reads_next` — signs, with space in front.
* `reads_stringTail` — strings, character by character.
* `Ends`, `reads_number` — whole numbers of 64 bits.

`Reads` bundles two facts about a reader's answer: what it has made of the text, and that what it
has left is shorter. The readers return the second as part of their result, so a lemma that chains
two of them has to give both back.

Strings are read in pieces and put together in a second pass, because an escape `\u` may be the half
of a pair. Nothing that the printer writes is such a half (`not_half_of_control`), so for printed
strings the second pass only takes the characters out.
-/

set_option autoImplicit false
namespace Whitelist.Json.Reader

variable {α : Type} {cs rest : List Char}

/-- A reader makes this of a text and leaves this rest. -/
def Reads (reading : Option (α × Rest cs)) (a : α) (rest : List Char) : Prop :=
  ∃ h : rest.length < cs.length, reading = some (a, ⟨rest, h⟩)

/-! ## Signs

`next` skips space, so a sign is found wherever the layout has put it. -/

/-- A sign is found behind any space. -/
theorem reads_next {space : List Char} (hspace : ∀ c ∈ space, isSpace c = true) {sign : Char}
    (hsign : isSpace sign = false) (rest : List Char) :
    Reads (next (space ++ sign :: rest)) sign rest := by
  induction space with
  | nil =>
    refine ⟨length_lt_cons sign rest, ?_⟩
    simp only [List.nil_append, next, hsign, Bool.false_eq_true, if_false]
    rfl
  | cons c space ih =>
    obtain ⟨h, hnext⟩ := ih fun d hd => hspace d (List.mem_cons_of_mem c hd)
    refine ⟨length_lt_cons_of_lt c h, ?_⟩
    simp only [List.cons_append, next, hspace c List.mem_cons_self, if_true, hnext]
    rfl

/-- Without space in front. -/
theorem reads_next_cons {sign : Char} (hsign : isSpace sign = false) (rest : List Char) :
    Reads (next (sign :: rest)) sign rest :=
  reads_next (List.forall_mem_nil _) hsign rest

/-! ## Strings

Between quotes the printer escapes quotes, backslashes and control characters, and no other. -/

/-- What a character is read as between quotes: a control character without a short form as a
number, every other one as itself. -/
def pieceOf (c : Char) : Piece :=
  if shortForms.lookup c = none ∧ c.toNat < 0x20 then .unit c.toNat else .char c

/-- The characters with a short form are read from it. -/
theorem unescape?_of_lookup {c sign : Char} (h : shortForms.lookup c = some sign) :
    unescape? sign = some c ∧ sign ≠ 'u' := by
  have hforms : ∀ form ∈ shortForms, unescape? form.2 = some form.1 ∧ form.2 ≠ 'u' := by decide
  obtain ⟨before, after, heq, -⟩ := List.lookup_eq_some_iff.mp h
  exact hforms (c, sign) (by rw [heq]; simp)

/-- The control characters are read from their numbers. -/
theorem hexNumber?_of_control : ∀ n < 0x20,
    hexNumber? '0' '0' (Nat.digitChar (n / 16)) (Nat.digitChar (n % 16)) = some n := by decide

/-- A character between quotes is one piece. -/
theorem Reads.escapeChar {ps : List Piece} (c : Char) (h : Reads (pieces cs) ps rest) :
    Reads (pieces (escapeChar c ++ cs)) (pieceOf c :: ps) rest := by
  obtain ⟨hlength, hpieces⟩ := h
  cases hform : shortForms.lookup c with
  | some sign =>
    obtain ⟨hsign, hu⟩ := unescape?_of_lookup hform
    have hescape : Json.escapeChar c = ['\\', sign] := by rw [Json.escapeChar, hform]
    have hpiece : pieceOf c = .char c := by rw [pieceOf, hform, if_neg (by simp)]
    rw [hescape, hpiece]
    refine ⟨length_lt_cons_of_lt _ (length_lt_cons_of_lt _ hlength), ?_⟩
    simp only [List.cons_append, List.nil_append]
    rw [pieces.eq_4 _ _ fun _ _ _ _ _ h => absurd h hu, hsign, hpieces]
    rfl
  | none =>
    by_cases hcontrol : c.toNat < 0x20
    · have hescape : Json.escapeChar c = ['\\', 'u', '0', '0', Nat.digitChar (c.toNat / 16),
          Nat.digitChar (c.toNat % 16)] := by rw [Json.escapeChar, hform]; exact if_pos hcontrol
      have hpiece : pieceOf c = .unit c.toNat := if_pos ⟨hform, hcontrol⟩
      rw [hescape, hpiece]
      refine ⟨by simp only [List.length_append, List.length_cons]; omega, ?_⟩
      simp only [List.cons_append, List.nil_append]
      rw [pieces.eq_3, hexNumber?_of_control _ hcontrol, hpieces]
      rfl
    · have hescape : Json.escapeChar c = [c] := by
        rw [Json.escapeChar, hform]
        exact if_neg hcontrol
      have hpiece : pieceOf c = .char c := if_neg fun h => hcontrol h.2
      have hquote : c ≠ '"' := by
        rintro rfl
        cases hform
      have hbackslash : c ≠ '\\' := by
        rintro rfl
        cases hform
      rw [hescape, hpiece]
      refine ⟨length_lt_cons_of_lt _ hlength, ?_⟩
      simp only [List.cons_append, List.nil_append]
      rw [pieces.eq_5 _ _ hquote (fun _ _ _ _ _ h => absurd h hbackslash)
        (fun _ _ h => absurd h hbackslash), if_neg hcontrol, hpieces]
      rfl

/-- The pieces of a string are those of its characters. -/
theorem reads_pieces (s rest : List Char) :
    Reads (pieces (s.flatMap escapeChar ++ '"' :: rest)) (s.map pieceOf) rest := by
  induction s with
  | nil => exact ⟨length_lt_cons _ rest, pieces.eq_2 rest⟩
  | cons c s ih =>
    rw [List.flatMap_cons, List.append_assoc, List.map_cons]
    exact ih.escapeChar c

/-- No control character is half of a surrogate pair. -/
theorem not_half_of_control {n : Nat} (h : n < 0x20) :
    isHighHalf n = false ∧ isLowHalf n = false := by
  simp only [isHighHalf, isLowHalf, Bool.and_eq_false_iff, decide_eq_false_iff_not]
  omega

/-- The pieces of characters make up those characters. -/
theorem joinPieces_map_pieceOf (s : List Char) : joinPieces (s.map pieceOf) = some s := by
  induction s with
  | nil => rfl
  | cons c s ih =>
    rw [List.map_cons, pieceOf]
    split
    · rename_i hcontrol
      obtain ⟨hhigh, hlow⟩ := not_half_of_control hcontrol.2
      cases hs : s.map pieceOf with
      | nil =>
        rw [hs] at ih
        rw [joinPieces.eq_4 _ _ (by simp), hhigh, hlow, ih]
        simp [Char.ofNat_toNat]
      | cons piece more =>
        rw [hs] at ih
        cases piece with
        | char d =>
          rw [joinPieces.eq_4 _ _ (by simp), hhigh, hlow, ih]
          simp [Char.ofNat_toNat]
        | unit low =>
          rw [joinPieces.eq_3, hhigh, hlow, ih]
          simp [Char.ofNat_toNat]
    · rw [joinPieces, ih]
      rfl

/-- A string is read behind its opening quote. -/
theorem reads_stringTail (s : String) (rest : List Char) :
    Reads (stringTail (s.toList.flatMap escapeChar ++ '"' :: rest)) (some s) rest := by
  obtain ⟨hlength, hpieces⟩ := reads_pieces s.toList rest
  refine ⟨hlength, ?_⟩
  rw [stringTail, hpieces]
  simp only [Option.map_some, joinPieces_map_pieceOf, String.ofList_toList]

/-! ## Numbers

A number goes on as long as it can, so what follows it must not continue it: neither a digit nor a
point nor an exponent. -/

/-- The characters that may continue a number. -/
def isNumberChar (c : Char) : Bool := c.isDigit || c = '.' || c = 'e' || c = 'E'

/-- The text does not continue a number that stands in front of it. -/
def Ends (cs : List Char) : Prop := cs.head?.any isNumberChar = false

theorem ends_nil : Ends [] := rfl

theorem ends_cons {c : Char} (h : isNumberChar c = false) (cs : List Char) : Ends (c :: cs) := h

theorem Ends.not_isDigit (h : Ends rest) : rest.head?.any Char.isDigit = false := by
  cases rest with
  | nil => rfl
  | cons c cs =>
    have hc : isNumberChar c = false := h
    simp only [isNumberChar, Bool.or_eq_false_iff] at hc
    exact hc.1.1.1

/-- There is no fraction. -/
theorem Ends.fraction (h : Ends rest) : fraction rest = some (none, rest) := by
  unfold Reader.fraction
  split
  · cases h
  · rfl

/-- There is no exponent. -/
theorem Ends.exponent (h : Ends rest) : exponent rest = some (none, rest) := by
  unfold Reader.exponent
  split <;> first | rfl | cases h

/-- The digits of a number are read as such, whether there is a sign in front of them or not. -/
theorem reads_number (negative : Bool) (n : Nat) (hrest : Ends rest) :
    Reads (number ((if negative then ['-'] else []) ++ (Nat.toDigits 10 n ++ rest)))
      (ofNumber negative (Nat.toDigits 10 n) none none) rest := by
  have hdigits := Text.digits_toDigits n rest hrest.not_isDigit
  have hpos : 0 < (Nat.toDigits 10 n).length := List.length_pos_iff.mpr Nat.toDigits_ne_nil
  have hwhole : ¬ (Nat.toDigits 10 n = [] ∨ ((Nat.toDigits 10 n).head? = some '0'
      ∧ (Nat.toDigits 10 n).length > 1)) := by
    rintro (hnil | ⟨hzero, hlength⟩)
    · exact Nat.toDigits_ne_nil hnil
    · exact absurd (Text.head?_toDigits n hzero) (Nat.ne_of_gt hlength)
  have hlength : rest.length < (Nat.toDigits 10 n ++ rest).length := by
    rw [List.length_append]
    omega
  cases negative with
  | true =>
    refine ⟨length_lt_cons_of_lt '-' hlength, ?_⟩
    show number ('-' :: (Nat.toDigits 10 n ++ rest)) = _
    rw [number, hdigits]
    simp only [if_neg hwhole, hrest.fraction, hrest.exponent, Option.bind_eq_bind,
      Option.bind_some]
    exact dif_pos (length_lt_cons_of_lt '-' hlength)
  | false =>
    refine ⟨hlength, ?_⟩
    show number (Nat.toDigits 10 n ++ rest) = _
    have hsign : ∀ cs, Nat.toDigits 10 n ++ rest = '-' :: cs → False := fun cs hcs => by
      have hhead := congrArg List.head? hcs
      rw [List.head?_append, List.head?_eq_some_head Nat.toDigits_ne_nil] at hhead
      have hdigit := Text.isDigit_of_mem_toDigits (List.head_mem (l := Nat.toDigits 10 n)
        Nat.toDigits_ne_nil)
      rw [show (Nat.toDigits 10 n).head Nat.toDigits_ne_nil = '-' from Option.some.inj hhead]
        at hdigit
      cases hdigit
    rw [number.eq_2 _ hsign, hdigits]
    simp only [if_neg hwhole, hrest.fraction, hrest.exponent, Option.bind_eq_bind,
      Option.bind_some]
    exact dif_pos hlength

/-- A whole number is read as it is written, where it fits into a word of 64 bits with or without a
sign. -/
theorem reads_intText {n : Int} (hmin : Int64.minValue.toInt ≤ n) (hmax : n < UInt64.size)
    (hrest : Ends rest) : Reads (number (intText n ++ rest)) (.int n) rest := by
  cases n with
  | ofNat n =>
    have hnumber : ofNumber false (Nat.toDigits 10 n) none none = .int n := by
      have hn : n < UInt64.size := Int.ofNat_lt.mp hmax
      simp only [ofNumber, Text.numberOf_toDigits, hn]
      rfl
    exact hnumber ▸ reads_number false n hrest
  | negSucc n =>
    have hnumber : ofNumber true (Nat.toDigits 10 (n + 1)) none none = .int (Int.negSucc n) := by
      have hn : n + 1 ≤ Int64.minValue.toInt.natAbs := by omega
      simp only [ofNumber, Text.numberOf_toDigits, hn, Int.negSucc_eq]
      simp
    exact hnumber ▸ reads_number true (n + 1) hrest

end Whitelist.Json.Reader
