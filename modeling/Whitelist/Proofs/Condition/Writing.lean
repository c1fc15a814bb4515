import Whitelist.Condition.Token
import Whitelist.Proofs.Text.Numeral

/-!
# How a condition is written

The same tokens can be written in many ways: with any amount of blank space before, between and
after them, and with any number of leading zeros. `Written` says which texts write which tokens, one
rule for each piece of a text. It does not say how a text is to be taken apart; that there is only
one way is the content of `scan_eq_some_iff`.

## What is here

* `Written` — a text writes these tokens.
* `readId?_eq_some_iff` — a run of digits is read as the id with its value.
* `scan_eq_some_iff` — a scan finds the tokens that the text writes, and no others.
* `written_trim_iff` — blank space at the ends of a text writes nothing.

The other half of reading a condition is `Proofs.Condition.Grammar`, which is about tokens only.
Between the two stands the list of tokens; neither knows how the other side was written.
-/

set_option autoImplicit false
namespace Whitelist.Condition

open Token (scan readId?)

/-- The text does not go on with a digit. Without this side condition `12` would write the ids 1 and
2 as well as the id 12. -/
def EndsDigits (cs : List Char) : Prop := ∀ c ∈ cs.head?, c.isDigit = false

/-- A text writes a list of tokens. The digits of a number are a longest run: where they end, no
digit follows. -/
inductive Written : List Token → List Char → Prop
  | nil : Written [] []
  | blank {tokens : List Token} {c : Char} {cs : List Char} (hblank : Text.isBlankChar c = true)
      (h : Written tokens cs) : Written tokens (c :: cs)
  | openParen {tokens : List Token} {cs : List Char} (h : Written tokens cs) :
      Written (.openParen :: tokens) ('(' :: cs)
  | closeParen {tokens : List Token} {cs : List Char} (h : Written tokens cs) :
      Written (.closeParen :: tokens) (')' :: cs)
  | not {tokens : List Token} {cs : List Char} (h : Written tokens cs) :
      Written (.not :: tokens) ('!' :: cs)
  | and {tokens : List Token} {cs : List Char} (h : Written tokens cs) :
      Written (.and :: tokens) ('&' :: '&' :: cs)
  | or {tokens : List Token} {cs : List Char} (h : Written tokens cs) :
      Written (.or :: tokens) ('|' :: '|' :: cs)
  | id {tokens : List Token} {digits cs : List Char} {n : UInt32} (hsome : digits ≠ [])
      (hdigits : ∀ d ∈ digits, d.isDigit = true) (hvalue : Text.numberOf digits = n.toNat)
      (hends : EndsDigits cs) (h : Written tokens cs) : Written (.id n :: tokens) (digits ++ cs)

/-! ## Numbers -/

/-- A run of digits is read as the id with its value, where there is such an id. -/
theorem readId?_eq_some_iff {digits : List Char} {n : UInt32} (hsome : digits ≠ [])
    (hdigits : ∀ d ∈ digits, d.isDigit = true) :
    readId? digits = some n ↔ Text.numberOf digits = n.toNat := by
  have hread : Text.readUnsigned? digits = some (Text.numberOf digits) :=
    Text.readUnsigned?_eq_some_iff.mpr ⟨digits, ⟨hsome, hdigits⟩, rfl, .inl rfl⟩
  rw [readId?, Text.readBelow?, hread]
  generalize Text.numberOf digits = value
  rw [Option.map_eq_some_iff]
  constructor
  · rintro ⟨m, hm, rfl⟩
    obtain ⟨hvalue, hsmall⟩ := Option.filter_eq_some_iff.mp hm
    rw [Option.some_inj.mp hvalue]
    exact (UInt32.toNat_ofNat_of_lt' (of_decide_eq_true hsmall)).symm
  · rintro rfl
    exact ⟨n.toNat, Option.filter_eq_some_iff.mpr ⟨rfl, decide_eq_true n.toNat_lt⟩,
      UInt32.ofNat_toNat⟩

/-! ## Scanning

`scan_of_written` goes by induction on the writing, `written_of_scan` by the recursion of the
scanner itself (`fun_induction`), so the cases of the second are the branches of `scan`. They meet
in `scan_eq_some_iff`. -/

variable {tokens : List Token} {c : Char} {cs digits rest : List Char}

theorem endsDigits_dropWhile (cs : List Char) : EndsDigits (cs.dropWhile Char.isDigit) := by
  intro c hc
  have := List.head?_dropWhile_not Char.isDigit cs
  rw [Option.mem_def.mp hc] at this
  simpa using this

/-- A run of digits that ends is the longest run that the text starts with. -/
theorem takeWhile_digits (hdigits : ∀ d ∈ digits, d.isDigit = true) (hends : EndsDigits rest) :
    (digits ++ rest).takeWhile Char.isDigit = digits
      ∧ (digits ++ rest).dropWhile Char.isDigit = rest := by
  rw [List.takeWhile_append_of_pos hdigits, List.dropWhile_append_of_pos hdigits]
  cases rest with
  | nil => exact ⟨List.append_nil _, rfl⟩
  | cons c rest =>
    have hc : c.isDigit = false := hends c rfl
    rw [List.takeWhile_cons_of_neg (by simp [hc]), List.dropWhile_cons_of_neg (by simp [hc])]
    exact ⟨List.append_nil _, rfl⟩

/-- A character that starts none of the fixed tokens starts a number, or it is blank. -/
theorem scan_cons_of_notMem (h : c ∉ ['(', ')', '!', '&', '|']) (cs : List Char) :
    scan (c :: cs) = if c.isDigit then
        (readId? (c :: cs.takeWhile Char.isDigit)).bind fun n =>
          (scan (cs.dropWhile Char.isDigit)).map (.id n :: ·)
      else if Text.isBlankChar c then scan cs
      else none := by
  simp only [List.mem_cons, List.not_mem_nil, or_false, not_or] at h
  obtain ⟨hopen, hclose, hnot, hand, hor⟩ := h
  rw [scan]
  · rfl
  · exact hopen
  · exact hclose
  · exact hnot
  · exact fun _ hc _ => hand hc
  · exact fun _ hc _ => hor hc

/-- A digit starts no fixed token. -/
theorem notMem_of_isDigit (hc : c.isDigit = true) : c ∉ ['(', ')', '!', '&', '|'] := by
  intro hmem
  simp only [List.mem_cons, List.not_mem_nil, or_false] at hmem
  rcases hmem with rfl | rfl | rfl | rfl | rfl <;> exact absurd hc (by decide)

/-- Neither does blank space. -/
theorem notMem_of_isBlankChar (hc : Text.isBlankChar c = true) :
    c ∉ ['(', ')', '!', '&', '|'] := by
  intro hmem
  simp only [List.mem_cons, List.not_mem_nil, or_false] at hmem
  rcases hmem with rfl | rfl | rfl | rfl | rfl <;> exact absurd hc (by decide)

/-- No character is both blank and a digit. -/
theorem isDigit_of_isBlankChar (hc : Text.isBlankChar c = true) : c.isDigit = false := by
  refine Bool.eq_false_iff.mpr fun hdigit => ?_
  have hrange : 48 ≤ c.toNat ∧ c.toNat ≤ 57 := by
    simpa [Char.isDigit, UInt32.le_iff_toNat_le] using hdigit
  simp only [Text.isBlankChar, Bool.or_eq_true, Bool.and_eq_true, decide_eq_true_eq,
    beq_iff_eq] at hc
  omega

/-- The tokens that a text writes are found. -/
theorem scan_of_written {text : List Char} (h : Written tokens text) : scan text = some tokens := by
  induction h with
  | nil => rw [scan]
  | blank hblank _ ih =>
    rw [scan_cons_of_notMem (notMem_of_isBlankChar hblank), isDigit_of_isBlankChar hblank,
      if_neg Bool.false_ne_true, if_pos hblank, ih]
  | openParen _ ih => rw [scan, ih]; rfl
  | closeParen _ ih => rw [scan, ih]; rfl
  | not _ ih => rw [scan, ih]; rfl
  | and _ ih => rw [scan, ih]; rfl
  | or _ ih => rw [scan, ih]; rfl
  | @id tokens digits cs n hsome hdigits hvalue hends _ ih =>
    obtain ⟨c, more, rfl⟩ := List.exists_cons_of_ne_nil hsome
    have hc := hdigits c List.mem_cons_self
    obtain ⟨htake, hdrop⟩ :=
      takeWhile_digits (fun d hd => hdigits d (List.mem_cons_of_mem c hd)) hends
    rw [List.cons_append, scan_cons_of_notMem (notMem_of_isDigit hc), if_pos hc, htake, hdrop,
      (readId?_eq_some_iff hsome hdigits).mpr hvalue, ih]
    rfl

/-- The tokens that are found are written there. -/
theorem written_of_scan {text : List Char} (h : scan text = some tokens) : Written tokens text := by
  fun_induction scan text generalizing tokens with
  | case1 =>
    obtain rfl := Option.some_inj.mp h
    exact .nil
  | case2 cs ih =>
    obtain ⟨rest, hrest, rfl⟩ := Option.map_eq_some_iff.mp h
    exact .openParen (ih hrest)
  | case3 cs ih =>
    obtain ⟨rest, hrest, rfl⟩ := Option.map_eq_some_iff.mp h
    exact .closeParen (ih hrest)
  | case4 cs ih =>
    obtain ⟨rest, hrest, rfl⟩ := Option.map_eq_some_iff.mp h
    exact .not (ih hrest)
  | case5 cs ih =>
    obtain ⟨rest, hrest, rfl⟩ := Option.map_eq_some_iff.mp h
    exact .and (ih hrest)
  | case6 cs ih =>
    obtain ⟨rest, hrest, rfl⟩ := Option.map_eq_some_iff.mp h
    exact .or (ih hrest)
  | case7 c cs _ _ _ _ _ hdigit ih =>
    obtain ⟨n, hn, hscan⟩ := Option.bind_eq_some_iff.mp h
    obtain ⟨rest, hrest, rfl⟩ := Option.map_eq_some_iff.mp hscan
    have hdigits : ∀ d ∈ c :: cs.takeWhile Char.isDigit, d.isDigit = true := by
      intro d hd
      rcases List.mem_cons.mp hd with rfl | hd
      · exact hdigit
      · exact List.all_eq_true.mp List.all_takeWhile d hd
    have hvalue := (readId?_eq_some_iff (by simp) hdigits).mp hn
    have hid := Written.id (by simp) hdigits hvalue (endsDigits_dropWhile cs) (ih hrest)
    rwa [List.cons_append, List.takeWhile_append_dropWhile] at hid
  | case8 c cs _ _ _ _ _ _ hblank ih => exact .blank hblank (ih h)
  | case9 => cases h

/-- **A scan finds the tokens that the text writes**, whatever blank space and leading zeros it
has. Where it finds none, the text writes no tokens at all. -/
theorem scan_eq_some_iff {text : List Char} : scan text = some tokens ↔ Written tokens text :=
  ⟨written_of_scan, scan_of_written⟩

/-! ## Blank space at the ends

The form strips a condition before it is checked. That this changes nothing has to be shown for the
back end with some care, since a number there ends differently: at the end of the text, or at a
blank character (`endsDigits_append_iff`). -/

variable {before after : List Char}

theorem written_cons_iff (hc : Text.isBlankChar c = true) :
    Written tokens (c :: cs) ↔ Written tokens cs := by
  rw [← scan_eq_some_iff, ← scan_eq_some_iff, scan_cons_of_notMem (notMem_of_isBlankChar hc),
    isDigit_of_isBlankChar hc, if_neg Bool.false_ne_true, if_pos hc]

/-- Blank space in front may be left out. -/
theorem written_append_iff_right (hbefore : Text.allBlank before = true) :
    Written tokens (before ++ cs) ↔ Written tokens cs := by
  induction before with
  | nil => exact Iff.rfl
  | cons c before ih =>
    obtain ⟨hc, hrest⟩ := Bool.and_eq_true_iff.mp hbefore
    rw [List.cons_append, written_cons_iff hc, ih hrest]

theorem written_of_allBlank (h : Text.allBlank cs = true) : Written [] cs := by
  rw [← List.append_nil cs]
  exact (written_append_iff_right h).mpr .nil

/-- Blank space does not go on with a digit. -/
theorem endsDigits_append_iff (hafter : Text.allBlank after = true) :
    EndsDigits (cs ++ after) ↔ EndsDigits cs := by
  cases cs with
  | nil =>
    refine iff_of_true (fun c hc => ?_) nofun
    have hmem : c ∈ after := List.mem_of_mem_head? hc
    exact isDigit_of_isBlankChar (List.all_eq_true.mp hafter c hmem)
  | cons c cs => exact Iff.rfl

/-- Blank space may be added at the end. -/
theorem Written.append_blank (h : Written tokens cs) (hafter : Text.allBlank after = true) :
    Written tokens (cs ++ after) := by
  induction h with
  | nil => exact written_of_allBlank hafter
  | blank hblank _ ih => exact .blank hblank ih
  | openParen _ ih => exact .openParen ih
  | closeParen _ ih => exact .closeParen ih
  | not _ ih => exact .not ih
  | and _ ih => exact .and ih
  | or _ ih => exact .or ih
  | id hsome hdigits hvalue hends _ ih =>
    rw [List.append_assoc]
    exact .id hsome hdigits hvalue ((endsDigits_append_iff hafter).mpr hends) ih

theorem not_isBlankChar_of_subset {front : List Char} (h : front ⊆ ['(', ')', '!', '&', '|']) :
    ∀ c ∈ front, Text.isBlankChar c = false := by
  intro c hc
  exact Bool.eq_false_iff.mpr fun hblank => notMem_of_isBlankChar hblank (h hc)

/-- Characters that are not blank stand before the blank space at the end. -/
theorem exists_append_of_append (front : List Char) {text : List Char}
    (hfront : ∀ c ∈ front, Text.isBlankChar c = false) (hafter : Text.allBlank after = true)
    (h : front ++ text = cs ++ after) : ∃ rest, cs = front ++ rest ∧ text = rest ++ after := by
  rcases List.append_eq_append_iff.mp h with ⟨rest, hcs, htext⟩ | ⟨rest, hsplit, hrest⟩
  · exact ⟨rest, hcs, htext⟩
  · cases rest with
    | nil => exact ⟨[], by rw [hsplit, List.append_nil, List.append_nil], hrest.symm⟩
    | cons c rest =>
      have hblank : Text.isBlankChar c = true :=
        List.all_eq_true.mp hafter c (hrest ▸ List.mem_cons_self)
      rw [hfront c (hsplit ▸ List.mem_append_right cs List.mem_cons_self)] at hblank
      cases hblank

/-- And it may be taken away. The induction is on the writing of the longer text; where that writes
a token, the token stands before the blank space (`exists_append_of_append`). -/
theorem Written.of_append_blank {text : List Char} (h : Written tokens text)
    (hafter : Text.allBlank after = true) (htext : text = cs ++ after) : Written tokens cs := by
  induction h generalizing cs after with
  | nil =>
    obtain ⟨rfl, -⟩ := List.append_eq_nil_iff.mp htext.symm
    exact .nil
  | @blank tokens c text hblank h ih =>
    cases cs with
    | nil =>
      have hrest : Text.allBlank text = true := by
        rw [← show c :: text = after from htext] at hafter
        exact (Bool.and_eq_true_iff.mp hafter).2
      exact ih hrest rfl
    | cons d rest =>
      obtain ⟨rfl, hrest⟩ := List.cons.inj htext
      exact .blank hblank (ih hafter hrest)
  | openParen _ ih =>
    obtain ⟨rest, rfl, hrest⟩ :=
      exists_append_of_append ['('] (not_isBlankChar_of_subset (by simp)) hafter htext
    exact .openParen (ih hafter hrest)
  | closeParen _ ih =>
    obtain ⟨rest, rfl, hrest⟩ :=
      exists_append_of_append [')'] (not_isBlankChar_of_subset (by simp)) hafter htext
    exact .closeParen (ih hafter hrest)
  | not _ ih =>
    obtain ⟨rest, rfl, hrest⟩ :=
      exists_append_of_append ['!'] (not_isBlankChar_of_subset (by simp)) hafter htext
    exact .not (ih hafter hrest)
  | and _ ih =>
    obtain ⟨rest, rfl, hrest⟩ :=
      exists_append_of_append ['&', '&'] (not_isBlankChar_of_subset (by simp)) hafter htext
    exact .and (ih hafter hrest)
  | or _ ih =>
    obtain ⟨rest, rfl, hrest⟩ :=
      exists_append_of_append ['|', '|'] (not_isBlankChar_of_subset (by simp)) hafter htext
    exact .or (ih hafter hrest)
  | @id tokens digits text n hsome hdigits hvalue hends h ih =>
    have hfront : ∀ d ∈ digits, Text.isBlankChar d = false := by
      intro d hd
      refine Bool.eq_false_iff.mpr fun hblank => ?_
      have hdigit := isDigit_of_isBlankChar hblank
      rw [hdigits d hd] at hdigit
      cases hdigit
    obtain ⟨rest, rfl, rfl⟩ := exists_append_of_append digits hfront hafter htext
    exact .id hsome hdigits hvalue ((endsDigits_append_iff hafter).mp hends) (ih hafter rfl)

/-- **Blank space at the ends of a text writes nothing.** -/
theorem written_trim_iff : Written tokens (Text.trim cs) ↔ Written tokens cs := by
  obtain ⟨before, after, hcs, hbefore, hafter⟩ := Text.exists_eq_trim cs
  generalize Text.trim cs = inner at hcs ⊢
  subst hcs
  rw [written_append_iff_right hbefore]
  exact ⟨fun h => h.append_blank hafter, fun h => h.of_append_blank hafter rfl⟩

end Whitelist.Condition
