import Whitelist.Proofs.Json.Reading
import Whitelist.Proofs.Json.Reordering

/-!
# What is written is read back

A value without floating-point numbers, with whole numbers of 64 bits only and not nested too deep,
is read back from its text, on one line or over lines.

## What is here

* `Exact` — such a value, with the levels of nesting that it needs; `Exact.readable`.
* `Layout` — where space stands in a text; `Layout.narrow` leaves it out and `Layout.wide` starts
  lines.
* `Exact.readsAt` — an exact value is read from any layout, with whatever follows it.
* `ofText?_toText`, `ofText?_pretty` — whole texts.

The program writes its values in two ways, on one line for requests and over indented lines for its
own output. Both are layouts, so the round trip is proved once, for any amount of space wherever
space may stand. `Layout.text_narrow` and `Layout.text_wide` then say that the two printers are what
they should be.

The reader is a recursive descent on lists of characters which hands on what it has not read. It
terminates because that is shorter each time, and it carries the proof of this in its type. `Reads`
(in `Proofs.Json.Reading`) puts such a result in the form of a proposition, so that the lemmas below
can be chained one rule of the grammar after the other, each adding its lengths.
-/

set_option autoImplicit false
namespace Whitelist.Json

open Reader

/-! ## Exact values

Floating-point numbers are left out because their decimal texts lose digits, whole numbers of more
than 64 bits because the reader makes floating-point numbers of them, and `unreadable` because it is
not a value at all. `room` is the number of levels below, which the reader limits by `maxDepth`. -/

/-- A value that no text of it loses anything of, nested at most `room` deep. -/
inductive Exact : Nat → Json → Prop
  | null {room : Nat} : Exact room null
  | bool {room : Nat} (b : Bool) : Exact room (bool b)
  | int {room : Nat} {n : Int} (hmin : Int64.minValue.toInt ≤ n) (hmax : n < UInt64.size) :
      Exact room (int n)
  | str {room : Nat} (s : String) : Exact room (str s)
  | arr {room : Nat} {items : List Json} (h : ∀ item ∈ items, Exact room item) :
      Exact (room + 1) (arr items)
  | obj {room : Nat} {members : List (String × Json)} (h : ∀ m ∈ members, Exact room m.2) :
      Exact (room + 1) (obj members)

/-- More room does no harm. -/
theorem Exact.mono {room room' : Nat} {json : Json} (h : Exact room json) (hroom : room ≤ room') :
    Exact room' json := by
  induction h generalizing room' with
  | null => exact .null
  | bool b => exact .bool b
  | int hmin hmax => exact .int hmin hmax
  | str s => exact .str s
  | arr _ ih =>
    obtain ⟨room', rfl⟩ := Nat.exists_eq_add_of_lt hroom
    exact .arr fun item hitem => ih item hitem (by omega)
  | obj _ ih =>
    obtain ⟨room', rfl⟩ := Nat.exists_eq_add_of_lt hroom
    exact .obj fun m hm => ih m hm (by omega)

/-- Nothing in an exact value keeps it from being read. -/
theorem Exact.readable {room : Nat} {json : Json} (h : Exact room json) : json.readable = true := by
  induction h with
  | null | bool | int | str => rfl
  | arr _ ih =>
    rw [Json.readable, readableItems_eq_all]
    exact List.all_eq_true.mpr ih
  | obj _ ih =>
    rw [Json.readable, readableMembers_eq_all]
    exact List.all_eq_true.mpr ih

/-! ## Layouts

The printers work by mutual recursion on values, items and members, and so do these definitions. An
empty list and an empty object have no inside, so they are on one line in every layout. -/

/-- The space that stands at the start of a line at each level, and behind the colon of a member. -/
structure Layout where
  line : Nat → List Char
  gap : List Char
  isSpace_line : ∀ level, ∀ c ∈ line level, isSpace c = true
  isSpace_gap : ∀ c ∈ gap, isSpace c = true

namespace Layout

variable (layout : Layout)

mutual

/-- A value as it is laid out at a level. -/
def text (level : Nat) : Json → List Char
  | .arr (item :: rest) =>
    '[' :: (layout.line (level + 1) ++ (text (level + 1) item ++ textOfItems level rest))
  | .obj ((name, value) :: rest) =>
    '\x7b' :: (layout.line (level + 1) ++ (quote name ++ ':' :: (layout.gap
      ++ (text (level + 1) value ++ textOfMembers level rest))))
  | value => value.compact

/-- The items after the first, and the closing bracket. -/
def textOfItems (level : Nat) : List Json → List Char
  | [] => layout.line level ++ [']']
  | item :: rest =>
    ',' :: (layout.line (level + 1) ++ (text (level + 1) item ++ textOfItems level rest))

/-- The members after the first, and the closing brace. -/
def textOfMembers (level : Nat) : List (String × Json) → List Char
  | [] => layout.line level ++ ['\x7d']
  | (name, value) :: rest =>
    ',' :: (layout.line (level + 1) ++ (quote name ++ ':' :: (layout.gap
      ++ (text (level + 1) value ++ textOfMembers level rest))))

end

/-- No space at all. -/
def narrow : Layout where
  line _ := []
  gap := []
  isSpace_line _ := nofun
  isSpace_gap := nofun

theorem isSpace_indent (level : Nat) : ∀ c ∈ indent level, isSpace c = true := by
  intro c hc
  rcases List.mem_cons.mp hc with rfl | hc
  · rfl
  · rw [List.eq_of_mem_replicate hc]
    rfl

/-- A line for each item and each member. -/
def wide : Layout where
  line := indent
  gap := [' ']
  isSpace_line := isSpace_indent
  isSpace_gap := by simp [isSpace]

mutual

/-- The text on one line is the one without space. -/
theorem text_narrow (level : Nat) : ∀ json : Json, narrow.text level json = json.compact
  | .arr (item :: rest) => by
    rw [text, compact, text_narrow, compactItems_cons level]
    rfl
  | .obj ((name, value) :: rest) => by
    rw [text, compact, text_narrow, compactMembers_cons level]
    rfl
  | .arr [] | .obj [] | .null | .bool _ | .int _ | .float _ | .str _ | .unreadable => by
    simp only [text]

theorem compactItems_cons (level : Nat) : ∀ (item : Json) (rest : List Json),
    compactItems (item :: rest) = item.compact ++ narrow.textOfItems level rest
  | item, [] => rfl
  | item, next :: rest => by
    rw [compactItems, textOfItems, text_narrow, compactItems_cons level]
    · rfl
    · nofun

theorem compactMembers_cons (level : Nat) : ∀ (name : String) (value : Json)
    (rest : List (String × Json)), compactMembers ((name, value) :: rest)
      = quote name ++ ':' :: (value.compact ++ narrow.textOfMembers level rest)
  | name, value, [] => by simp [compactMembers, textOfMembers, narrow]
  | name, value, (name', value') :: rest => by
    rw [compactMembers, textOfMembers, text_narrow, compactMembers_cons level]
    · simp [narrow]
    · nofun

end

mutual

/-- The text over lines is the one with a line for each item. -/
theorem text_wide (level : Nat) : ∀ json : Json, wide.text level json = json.prettyAt level
  | .arr (item :: rest) => by
    rw [text, prettyAt, text_wide, textOfItems_wide]
    simp [wide]
  | .obj ((name, value) :: rest) => by
    rw [text, prettyAt, text_wide, textOfMembers_wide]
    simp [wide]
  | .arr [] | .obj [] | .null | .bool _ | .int _ | .float _ | .str _ | .unreadable => by
    simp only [text, prettyAt]

theorem textOfItems_wide (level : Nat) : ∀ rest : List Json,
    wide.textOfItems level rest = prettyItems level rest
  | [] => rfl
  | item :: rest => by
    rw [textOfItems, prettyItems, text_wide, textOfItems_wide]
    simp [wide]

theorem textOfMembers_wide (level : Nat) : ∀ rest : List (String × Json),
    wide.textOfMembers level rest = prettyMembers level rest
  | [] => rfl
  | (name, value) :: rest => by
    rw [textOfMembers, prettyMembers, text_wide, textOfMembers_wide]
    simp [wide]

end

end Layout

/-! ## Reading a layout

There is one lemma for each kind of value, by its first character: what is read behind that
character decides what the value is. The depth is checked where a list or an object opens. -/

variable {depth : Nat} {cs inner rest : List Char}

/-- No value starts with a closing bracket. -/
theorem reads_next_of_value {json : Json} (h : Reads (value depth cs) json rest) :
    ∃ c inner, Reads (next cs) c inner ∧ c ≠ ']' := by
  obtain ⟨hlength, hvalue⟩ := h
  rw [value] at hvalue
  cases hnext : next cs with
  | none =>
    rw [hnext] at hvalue
    cases hvalue
  | some found =>
    obtain ⟨c, inner, hinner⟩ := found
    refine ⟨c, inner, ⟨hinner, rfl⟩, ?_⟩
    -- A closing bracket is none of the characters by which `value` goes on.
    rintro rfl
    rw [hnext] at hvalue
    cases hvalue

/-- A word is read behind its first letter. -/
theorem reads_word (w rest : List Char) : Text.word w (w ++ rest) = some ⟨rest, by simp⟩ := by
  have hprefix : w.isPrefixOf (w ++ rest) = true := by simp
  rw [Text.word, if_pos hprefix]
  simp [RestLe.drop]

theorem reads_null (h : Reads (next cs) 'n' ("ull".toList ++ rest)) :
    Reads (value depth cs) .null rest := by
  obtain ⟨hlength, hnext⟩ := h
  rw [List.length_append] at hlength
  refine ⟨by omega, ?_⟩
  rw [value, hnext]
  simp only [Option.bind_eq_bind, Option.bind_some, reads_word]
  rfl

theorem reads_bool (b : Bool) (h : Reads (next cs) (if b then 't' else 'f')
    ((if b then "rue" else "alse").toList ++ rest)) : Reads (value depth cs) (.bool b) rest := by
  obtain ⟨hlength, hnext⟩ := h
  rw [List.length_append] at hlength
  refine ⟨by omega, ?_⟩
  rw [value, hnext]
  cases b <;>
  · simp only [Option.bind_eq_bind, Option.bind_some, reads_word, if_true, if_false,
      Bool.false_eq_true]
    rfl

theorem reads_str {s : String} (h : Reads (next cs) '"' inner)
    (hs : Reads (stringTail inner) (some s) rest) : Reads (value depth cs) (.str s) rest := by
  obtain ⟨hlength, hnext⟩ := h
  obtain ⟨hrest, hs⟩ := hs
  refine ⟨Nat.lt_trans hrest hlength, ?_⟩
  rw [value, hnext]
  simp only [Option.bind_eq_bind, Option.bind_some, hs]
  rfl

theorem reads_emptyArr (hdepth : depth + 1 ≤ maxDepth) (h : Reads (next cs) '[' inner)
    (hclose : Reads (next inner) ']' rest) : Reads (value depth cs) (.arr []) rest := by
  obtain ⟨hlength, hnext⟩ := h
  obtain ⟨hrest, hclose⟩ := hclose
  refine ⟨Nat.lt_trans hrest hlength, ?_⟩
  rw [value, hnext]
  simp only [Option.bind_eq_bind, Option.bind_some, hclose, if_true, atDepth, Nat.not_lt.mpr hdepth,
    if_false]
  rfl

/-- A list with items. The first character behind the bracket is read twice, once to see that the
list is not empty and then as the start of its first item. -/
theorem reads_arr {xs : List Json} (hdepth : depth + 1 ≤ maxDepth) (h : Reads (next cs) '[' inner)
    {c : Char} {after : List Char} (hfirst : Reads (next inner) c after) (hc : c ≠ ']')
    (hitems : Reads (items (depth + 1) inner) xs rest) : Reads (value depth cs) (.arr xs) rest := by
  obtain ⟨hlength, hnext⟩ := h
  obtain ⟨hafter, hfirst⟩ := hfirst
  obtain ⟨hrest, hitems⟩ := hitems
  refine ⟨Nat.lt_trans hrest hlength, ?_⟩
  rw [value, hnext]
  simp only [Option.bind_eq_bind, Option.bind_some, hfirst, hc, hitems, atDepth,
    Nat.not_lt.mpr hdepth, if_false]
  rfl

theorem reads_emptyObj (hdepth : depth + 1 ≤ maxDepth) (h : Reads (next cs) '\x7b' inner)
    (hclose : Reads (next inner) '\x7d' rest) : Reads (value depth cs) (.obj []) rest := by
  obtain ⟨hlength, hnext⟩ := h
  obtain ⟨hrest, hclose⟩ := hclose
  refine ⟨Nat.lt_trans hrest hlength, ?_⟩
  rw [value, hnext]
  simp only [Option.bind_eq_bind, Option.bind_some, hclose, if_true, atDepth, Nat.not_lt.mpr hdepth,
    if_false]
  rfl

/-- Members whose names can all be read make an object. -/
theorem ofMembers_some (ms : List (String × Json)) :
    ofMembers (ms.map fun m => (some m.1, m.2)) = .obj ms := by
  have h : (ms.map fun m => (some m.1, m.2)).mapM
      (fun m : Option String × Json => m.1.map fun name => (name, m.2)) = some ms := by
    induction ms with
    | nil => rfl
    | cons m ms ih => simp [ih]
  unfold ofMembers
  rw [h]

/-- An object with members, which is one where a quotation mark follows the brace. -/
theorem reads_obj {ms : List (String × Json)} (hdepth : depth + 1 ≤ maxDepth)
    (h : Reads (next cs) '\x7b' inner) {after : List Char} (hfirst : Reads (next inner) '"' after)
    (hms : Reads (members (depth + 1) inner) (ms.map fun m => (some m.1, m.2)) rest) :
    Reads (value depth cs) (.obj ms) rest := by
  obtain ⟨hlength, hnext⟩ := h
  obtain ⟨hafter, hfirst⟩ := hfirst
  obtain ⟨hrest, hms⟩ := hms
  refine ⟨Nat.lt_trans hrest hlength, ?_⟩
  rw [value, hnext]
  simp only [Option.bind_eq_bind, Option.bind_some, hfirst, hms, ofMembers_some, atDepth,
    Nat.not_lt.mpr hdepth, if_false]
  rfl

/-- A number is read from its first character on, which is therefore put back. -/
theorem reads_of_number {c : Char} {json : Json} (h : Reads (next cs) c inner)
    (hc : c.isDigit = true ∨ c = '-') (hnumber : Reads (number (c :: inner)) json rest) :
    Reads (value depth cs) json rest := by
  obtain ⟨hlength, hnext⟩ := h
  obtain ⟨hrest, hnumber⟩ := hnumber
  refine ⟨length_lt_of_le_of_lt (length_le_of_lt_cons hrest) hlength, ?_⟩
  rw [value, hnext]
  simp only [Option.bind_eq_bind, Option.bind_some]
  split
  case h_7 =>
    rw [hnumber]
    rfl
  -- A digit or a minus sign starts nothing else.
  all_goals exact absurd hc (by decide)

/-! ## Items and members

A list ends in a bracket or goes on behind a comma; an object likewise. The four lemmas are the two
cases of each. -/

theorem reads_lastItem {x : Json} {after : List Char} (h : Reads (value depth cs) x after)
    (hclose : Reads (next after) ']' rest) : Reads (items depth cs) [x] rest := by
  obtain ⟨hlength, hvalue⟩ := h
  obtain ⟨hrest, hclose⟩ := hclose
  refine ⟨Nat.lt_trans hrest hlength, ?_⟩
  rw [items, hvalue]
  simp only [Option.bind_eq_bind, Option.bind_some, hclose, if_true]
  rfl

theorem reads_item {x : Json} {xs : List Json} {after later : List Char}
    (h : Reads (value depth cs) x after) (hcomma : Reads (next after) ',' later)
    (hitems : Reads (items depth later) xs rest) : Reads (items depth cs) (x :: xs) rest := by
  obtain ⟨hlength, hvalue⟩ := h
  obtain ⟨hafter, hcomma⟩ := hcomma
  obtain ⟨hrest, hitems⟩ := hitems
  refine ⟨Nat.lt_trans hrest (Nat.lt_trans hafter hlength), ?_⟩
  rw [items, hvalue]
  simp only [Option.bind_eq_bind, Option.bind_some, hcomma, hitems]
  rfl

/-- A name with its colon, and a value. -/
structure ReadsMember (depth : Nat) (cs : List Char) (name : String) (v : Json)
    (after : List Char) : Prop where
  reads : ∃ afterQuote afterName afterColon, Reads (next cs) '"' afterQuote
    ∧ Reads (stringTail afterQuote) (some name) afterName
    ∧ Reads (next afterName) ':' afterColon ∧ Reads (value depth afterColon) v after

theorem reads_lastMember {name : String} {v : Json} {after : List Char}
    (h : ReadsMember depth cs name v after) (hclose : Reads (next after) '\x7d' rest) :
    Reads (members depth cs) [(some name, v)] rest := by
  obtain ⟨_, _, _, ⟨hq, hquote⟩, ⟨hn, hname⟩, ⟨hc, hcolon⟩, ⟨hv, hvalue⟩⟩ := h.reads
  obtain ⟨hrest, hclose⟩ := hclose
  refine ⟨by omega, ?_⟩
  rw [members, hquote]
  simp only [Option.bind_eq_bind, Option.bind_some, hname, hcolon, hvalue, hclose, if_true]
  rfl

theorem reads_member {name : String} {v : Json} {ms : List (Option String × Json)}
    {after later : List Char} (h : ReadsMember depth cs name v after)
    (hcomma : Reads (next after) ',' later) (hms : Reads (members depth later) ms rest) :
    Reads (members depth cs) ((some name, v) :: ms) rest := by
  obtain ⟨_, _, _, ⟨hq, hquote⟩, ⟨hn, hname⟩, ⟨hc, hcolon⟩, ⟨hv, hvalue⟩⟩ := h.reads
  obtain ⟨hlater, hcomma⟩ := hcomma
  obtain ⟨hrest, hms⟩ := hms
  refine ⟨by omega, ?_⟩
  rw [members, hquote]
  simp only [Option.bind_eq_bind, Option.bind_some, hname, hcolon, hvalue, hcomma, hms]
  rfl

/-! ## Values at large

`ReadsAt` quantifies over the space in front of a value and over what follows it, because that is
what the induction needs: inside a list a value stands behind the start of a line, and is followed
by a comma and all later items. What follows must not go on with a digit or the like, which is
`Ends`. -/

variable (layout : Layout)

/-- Wherever it stands at this depth, the value is read from its layout. -/
def ReadsAt (depth : Nat) (json : Json) : Prop :=
  ∀ (level : Nat) (space rest : List Char), (∀ c ∈ space, isSpace c = true) → Ends rest →
    Reads (value depth (space ++ (layout.text level json ++ rest))) json rest

variable {layout}

/-- What follows an item is a bracket or a comma, behind space. -/
theorem ends_space {space : List Char} (hspace : ∀ c ∈ space, isSpace c = true) {c : Char}
    (hc : isNumberChar c = false) (cs : List Char) : Ends (space ++ c :: cs) := by
  cases space with
  | nil => exact ends_cons hc cs
  | cons d space =>
    refine ends_cons ?_ _
    have hd := hspace d List.mem_cons_self
    simp only [isSpace, Bool.or_eq_true, decide_eq_true_eq] at hd
    rcases hd with ((rfl | rfl) | rfl) | rfl <;> rfl

/-- By induction on the items after the first, each of which is read with the rest of the list
behind it. -/
theorem reads_textOfItems {xs : List Json} (hxs : ∀ x ∈ xs, ReadsAt layout depth x) {x : Json}
    (hx : ReadsAt layout depth x) (level : Nat) {space : List Char}
    (hspace : ∀ c ∈ space, isSpace c = true) (rest : List Char) :
    Reads (items depth (space ++ (layout.text (level + 1) x
      ++ (layout.textOfItems level xs ++ rest)))) (x :: xs) rest := by
  induction xs generalizing x space with
  | nil =>
    rw [Layout.textOfItems, List.append_assoc]
    have hline := layout.isSpace_line level
    exact reads_lastItem (hx _ space _ hspace (ends_space hline rfl rest))
      (reads_next hline rfl rest)
  | cons y xs ih =>
    rw [Layout.textOfItems, List.cons_append, List.append_assoc, List.append_assoc]
    refine reads_item (hx _ space _ hspace (ends_cons rfl _)) (reads_next_cons rfl _) ?_
    exact ih (fun z hz => hxs z (List.mem_cons_of_mem y hz)) (hxs y List.mem_cons_self)
      (layout.isSpace_line _)

theorem quote_append (s : String) (rest : List Char) :
    quote s ++ rest = '"' :: (s.toList.flatMap escapeChar ++ '"' :: rest) := by
  simp [quote]

/-- A member is laid out as a quoted name, a colon, the gap of the layout and a value. -/
theorem readsMember_text {v : Json} (hv : ReadsAt layout depth v) (level : Nat) (name : String)
    {space : List Char} (hspace : ∀ c ∈ space, isSpace c = true) {after : List Char}
    (hafter : Ends after) : ReadsMember depth (space ++ (quote name ++ ':' :: (layout.gap
      ++ (layout.text level v ++ after)))) name v after := by
  rw [quote_append]
  exact ⟨_, _, _, reads_next hspace rfl _, reads_stringTail name _, reads_next_cons rfl _,
    hv level layout.gap after layout.isSpace_gap hafter⟩

/-- The same induction for members. -/
theorem reads_textOfMembers {ms : List (String × Json)} (hms : ∀ m ∈ ms, ReadsAt layout depth m.2)
    (name : String) {v : Json} (hv : ReadsAt layout depth v) (level : Nat) {space : List Char}
    (hspace : ∀ c ∈ space, isSpace c = true) (rest : List Char) :
    Reads (members depth (space ++ (quote name ++ ':' :: (layout.gap
      ++ (layout.text (level + 1) v ++ (layout.textOfMembers level ms ++ rest))))))
      (((name, v) :: ms).map fun m => (some m.1, m.2)) rest := by
  induction ms generalizing name v space with
  | nil =>
    rw [Layout.textOfMembers, List.append_assoc]
    have hline := layout.isSpace_line level
    exact reads_lastMember (readsMember_text hv _ name hspace (ends_space hline rfl rest))
      (reads_next hline rfl rest)
  | cons m ms ih =>
    have htail : layout.textOfMembers level (m :: ms) ++ rest
        = ',' :: (layout.line (level + 1) ++ (quote m.1 ++ ':' :: (layout.gap
          ++ (layout.text (level + 1) m.2 ++ (layout.textOfMembers level ms ++ rest))))) := by
      simp [Layout.textOfMembers]
    rw [htail]
    refine reads_member (readsMember_text hv _ name hspace (ends_cons rfl _))
      (reads_next_cons rfl _) ?_
    exact ih (fun m' hm' => hms m' (List.mem_cons_of_mem m hm')) _ (hms m List.mem_cons_self)
      (layout.isSpace_line _)

/-- A whole number starts with a digit or a minus sign. -/
theorem intText_eq_cons (n : Int) : ∃ c cs, intText n = c :: cs ∧ (c.isDigit = true ∨ c = '-') := by
  cases n with
  | ofNat n =>
    obtain ⟨c, cs, hcs⟩ := List.exists_cons_of_ne_nil (Nat.toDigits_ne_nil (n := n) (b := 10))
    exact ⟨c, cs, hcs, .inl (Text.isDigit_of_mem_toDigits (hcs ▸ List.mem_cons_self))⟩
  | negSucc n => exact ⟨'-', _, rfl, .inr rfl⟩

/-- No number starts with space, so `next` does not skip into it. -/
theorem isSpace_of_number {c : Char} (h : c.isDigit = true ∨ c = '-') : isSpace c = false := by
  simp only [isSpace, Bool.or_eq_false_iff, decide_eq_false_iff_not]
  rcases h with h | rfl
  · refine ⟨⟨⟨?_, ?_⟩, ?_⟩, ?_⟩ <;> (rintro rfl; cases h)
  · decide

theorem readsAt_int {n : Int} (hmin : Int64.minValue.toInt ≤ n) (hmax : n < UInt64.size) :
    ReadsAt layout depth (.int n) := by
  intro level space rest hspace hrest
  have hnumber := reads_intText hmin hmax hrest
  obtain ⟨c, cs, hcs, hc⟩ := intText_eq_cons n
  rw [Layout.text]
  · rw [compact, hcs, List.cons_append]
    rw [hcs, List.cons_append] at hnumber
    exact reads_of_number (reads_next hspace (isSpace_of_number hc) _) hc hnumber
  all_goals nofun

theorem readsAt_arr {xs : List Json} (hdepth : depth + 1 ≤ maxDepth)
    (hxs : ∀ x ∈ xs, ReadsAt layout (depth + 1) x) : ReadsAt layout depth (.arr xs) := by
  intro level space rest hspace _
  cases xs with
  | nil =>
    rw [Layout.text]
    · exact reads_emptyArr hdepth (reads_next hspace rfl _) (reads_next_cons rfl rest)
    all_goals nofun
  | cons x xs =>
    have hline := layout.isSpace_line (level + 1)
    have htext : layout.text level (.arr (x :: xs)) ++ rest
        = '[' :: (layout.line (level + 1) ++ (layout.text (level + 1) x
          ++ (layout.textOfItems level xs ++ rest))) := by simp [Layout.text]
    have hends : Ends (layout.textOfItems level xs ++ rest) := by
      cases xs with
      | nil =>
        rw [Layout.textOfItems, List.append_assoc]
        exact ends_space (layout.isSpace_line level) rfl rest
      | cons next xs => exact ends_cons rfl _
    have hx := hxs x List.mem_cons_self
    obtain ⟨c, after, hfirst, hc⟩ := reads_next_of_value (hx (level + 1) _ _ hline hends)
    rw [htext]
    exact reads_arr hdepth (reads_next hspace rfl _) hfirst hc
      (reads_textOfItems (fun y hy => hxs y (List.mem_cons_of_mem x hy)) hx level hline rest)

theorem readsAt_obj {ms : List (String × Json)} (hdepth : depth + 1 ≤ maxDepth)
    (hms : ∀ m ∈ ms, ReadsAt layout (depth + 1) m.2) : ReadsAt layout depth (.obj ms) := by
  intro level space rest hspace _
  cases ms with
  | nil =>
    rw [Layout.text]
    · exact reads_emptyObj hdepth (reads_next hspace rfl _) (reads_next_cons rfl rest)
    all_goals nofun
  | cons m ms =>
    have hline := layout.isSpace_line (level + 1)
    have htext : layout.text level (.obj (m :: ms)) ++ rest
        = '\x7b' :: (layout.line (level + 1) ++ (quote m.1 ++ ':' :: (layout.gap
          ++ (layout.text (level + 1) m.2 ++ (layout.textOfMembers level ms ++ rest))))) := by
      simp [Layout.text]
    have hmembers := reads_textOfMembers (fun m' hm' => hms m' (List.mem_cons_of_mem m hm'))
      m.1 (hms m List.mem_cons_self) level hline rest
    rw [htext]
    rw [quote_append] at hmembers ⊢
    exact reads_obj hdepth (reads_next hspace rfl _) (reads_next hline rfl _) hmembers

/-- **An exact value is read from any layout of it**, at any depth that leaves room for it. -/
theorem Exact.readsAt {room : Nat} {json : Json} (h : Exact room json) (layout : Layout) :
    ∀ depth, depth + room ≤ maxDepth → ReadsAt layout depth json := by
  induction h with
  | null =>
    intro depth _ level space rest hspace _
    rw [Layout.text]
    · exact reads_null (reads_next hspace rfl _)
    all_goals nofun
  | bool b =>
    intro depth _ level space rest hspace _
    rw [Layout.text]
    · cases b with
      | true => exact reads_bool true (reads_next hspace rfl _)
      | false => exact reads_bool false (reads_next hspace rfl _)
    all_goals nofun
  | int hmin hmax => exact fun depth _ => readsAt_int hmin hmax
  | str s =>
    intro depth _ level space rest hspace _
    rw [Layout.text]
    · rw [compact, quote_append]
      exact reads_str (reads_next hspace rfl _) (reads_stringTail s rest)
    all_goals nofun
  | arr _ ih =>
    intro depth hdepth
    exact readsAt_arr (by omega) fun x hx => ih x hx (depth + 1) (by omega)
  | obj _ ih =>
    intro depth hdepth
    exact readsAt_obj (by omega) fun m hm => ih m hm (depth + 1) (by omega)

/-! ## Whole texts

A text has nothing in front of its value and nothing behind it, which is `Exact.readsAt` at depth 0
with both empty. -/

variable {room : Nat} {json : Json}

/-- A text is the value that is read from all of it. -/
theorem ofText?_of_reads {text : String} (h : Reads (value 0 text.toList) json []) :
    ofText? text = some json := by
  obtain ⟨hlength, hvalue⟩ := h
  rw [ofText?, hvalue]
  rfl

/-- An exact value is read back from any layout of it. -/
theorem Exact.ofText?_text (h : Exact room json) (hroom : room ≤ maxDepth) (layout : Layout) :
    ofText? (.ofList (layout.text 0 json)) = some json := by
  have hread := h.readsAt layout 0 (by omega) 0 [] [] nofun ends_nil
  rw [List.nil_append, List.append_nil, ← String.toList_ofList (l := layout.text 0 json)] at hread
  exact ofText?_of_reads hread

/-- What is written on one line is read back. -/
theorem Exact.ofText?_toText (h : Exact room json) (hroom : room ≤ maxDepth) :
    ofText? json.toText = some json := by
  rw [toText, ← Layout.text_narrow 0]
  exact h.ofText?_text hroom _

/-- What is written over lines is read back. -/
theorem Exact.ofText?_pretty (h : Exact room json) (hroom : room ≤ maxDepth) :
    ofText? json.pretty = some json := by
  rw [pretty, ← Layout.text_wide 0]
  exact h.ofText?_text hroom _

end Whitelist.Json
