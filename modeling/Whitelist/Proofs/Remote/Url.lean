import Mathlib.Data.List.TakeDrop
import Mathlib.Data.List.TakeWhile
import Whitelist.Remote.Client

/-!
# The end of an address

However strange the address of a server is: where a request can be prepared for a path on it, the
address of the request ends with the segments of that path, as long as they are written with
letters, digits and dashes. Only the first segment may be lost: it is taken for the host where the
server has none.

## What is here

* `isPlain`, `PlainPath` — characters that stand for themselves in every part of an address, and
  paths of such segments.
* `suffix_pathText`, `suffix_tailText` — the normal forms keep such a path at the end.
* `suffix_url` — and so does the address of a request.

Addresses are configured by hand and may be anything: with a query or a fragment at their end, with
`..` in their paths, with backslashes, without a host. The client only writes its path behind them,
and what a server then finds at the end of the request's address depends on how such a text is put
into its normal form. The proofs follow the path through that, function by function, as a suffix
(`<:+`) that survives each of them. It survives because it consists of plain characters between
slashes: none of them is escaped, none ends an authority, a query or a scheme, and no segment is a
dot segment.
-/

set_option autoImplicit false
namespace Whitelist.Url

/-! ## Plain characters

`isPlain` is narrower than what addresses allow, but all paths of the client satisfy it, ids of
records among them. -/

/-- Whether a character stands for itself wherever it stands in an address. -/
def isPlain (c : Char) : Bool := c.isAlphanum || c = '-'

/-- A plain character is none of the signs that have a meaning in addresses. -/
theorem ne_of_isPlain {c d : Char} (hc : isPlain c = true) (hd : isPlain d = false) : c ≠ d := by
  rintro rfl
  exact absurd hc (by simp [hd])

/-- Plain characters are printable ASCII, so they are written without percent forms. -/
theorem isPlain_range {c : Char} (hc : isPlain c = true) : 0x20 < c.toNat ∧ c.toNat < 0x7F := by
  rw [isPlain, Bool.or_eq_true, decide_eq_true_eq] at hc
  rcases hc with hc | rfl
  · delta Char.isAlphanum Char.isAlpha Char.isUpper Char.isLower Char.isDigit at hc
    simp only [Bool.or_eq_true, Bool.and_eq_true, decide_eq_true_eq, ge_iff_le,
      UInt32.le_iff_toNat_le] at hc
    have hval : c.toNat = c.val.toNat := rfl
    simp at hc
    omega
  · decide

/-- Dot segments are looked for in lower case. -/
theorem isPlain_toLower {c : Char} (hc : isPlain c = true) : isPlain c.toLower = true := by
  rw [isPlain, Bool.or_eq_true, decide_eq_true_eq] at hc
  rcases hc with hc | rfl
  · unfold Char.toLower
    split
    · rename_i hupper
      have hlower : 97 ≤ (c.val + ('a'.val - 'A'.val)).toNat
          ∧ (c.val + ('a'.val - 'A'.val)).toNat ≤ 122 := by
        have hmin := UInt32.le_iff_toNat_le.mp hupper.1
        have hmax := UInt32.le_iff_toNat_le.mp hupper.2
        simp at hmin hmax ⊢
        omega
      delta isPlain Char.isAlphanum Char.isAlpha Char.isLower
      simp only [Bool.or_eq_true, Bool.and_eq_true, decide_eq_true_eq, ge_iff_le,
        UInt32.le_iff_toNat_le]
      exact .inl (.inl (.inr hlower))
    · rw [isPlain, hc, Bool.true_or]
  · rfl

theorem percentEncode_append (reserved cs cs' : List Char) :
    percentEncode reserved (cs ++ cs') = percentEncode reserved cs ++ percentEncode reserved cs' :=
  List.flatMap_append

/-- A plain text is the same in percent forms. -/
theorem percentEncode_plain {reserved : List Char} (hreserved : reserved.any isPlain = false)
    (hslash : '/' ∉ reserved) {cs : List Char} (h : ∀ c ∈ cs, isPlain c = true ∨ c = '/') :
    percentEncode reserved cs = cs := by
  induction cs with
  | nil => rfl
  | cons c cs ih =>
    have hc : ¬ (c.toNat ≤ 0x1F ∨ 0x7F ≤ c.toNat ∨ c ∈ reserved) := by
      rcases h c List.mem_cons_self with hc | rfl
      · have hrange := isPlain_range hc
        have hmem : c ∉ reserved := fun hmem =>
          absurd (List.any_eq_true.mpr ⟨c, hmem, hc⟩) (by simp [hreserved])
        simp only [hmem, or_false]
        omega
      · simp only [hslash, or_false]
        decide
    rw [percentEncode, List.flatMap_cons, if_neg hc, ← percentEncode,
      ih fun d hd => h d (List.mem_cons_of_mem c hd)]
    rfl

theorem withDrive_web (segments : List (List Char)) : withDrive .web segments = segments := by
  cases segments <;> rfl

/-! ## Plain paths

A segment that is empty would be read as a second slash, and a path without segments would have no
slash at all, so both are excluded. -/

/-- Segments behind slashes. -/
def pathOf (segments : List (List Char)) : List Char := segments.flatMap ('/' :: ·)

/-- Segments that are not empty and of plain characters only. -/
structure PlainPath (segments : List (List Char)) : Prop where
  ne_nil : segments ≠ []
  segment_ne_nil : ∀ segment ∈ segments, segment ≠ []
  plain : ∀ segment ∈ segments, ∀ c ∈ segment, isPlain c = true

namespace PlainPath

variable {segments : List (List Char)} (h : PlainPath segments)
include h

/-- The characters of such a path are plain, or they are slashes. -/
theorem mem {c : Char} (hc : c ∈ pathOf segments) : isPlain c = true ∨ c = '/' := by
  obtain ⟨segment, hsegment, hc⟩ := List.mem_flatMap.mp hc
  rcases List.mem_cons.mp hc with rfl | hc
  · exact .inr rfl
  · exact .inl (h.plain segment hsegment c hc)

theorem eq_cons : ∃ tail, pathOf segments = '/' :: tail := by
  obtain ⟨first, rest, rfl⟩ := List.exists_cons_of_ne_nil h.ne_nil
  exact ⟨_, rfl⟩

/-- No segment means the folder itself or the one above. -/
theorem not_isDot {segment : List Char} (hsegment : segment ∈ segments) :
    isDot segment = false ∧ isDotDot segment = false := by
  obtain ⟨c, cs, rfl⟩ := List.exists_cons_of_ne_nil (h.segment_ne_nil segment hsegment)
  have hc : isPlain c.toLower = true :=
    isPlain_toLower (h.plain _ hsegment c List.mem_cons_self)
  have hnot (texts : List String)
      (htexts : ∀ text ∈ texts, text.toList.head? ∈ [some '.', some '%']) :
      String.ofList ((c :: cs).map Char.toLower) ∉ texts := fun hmem => by
    have hhead := htexts _ hmem
    simp only [String.toList_ofList, List.map_cons, List.head?_cons, List.mem_cons,
      Option.some.injEq, List.not_mem_nil, or_false] at hhead
    rcases hhead with hhead | hhead
    · exact ne_of_isPlain hc rfl hhead
    · exact ne_of_isPlain hc rfl hhead
  exact ⟨decide_eq_false (hnot _ (by decide)), decide_eq_false (hnot _ (by decide))⟩

end PlainPath

/-! ## Suffixes

An address is cleaned of control characters and space at both ends, and taken apart from the front.
Neither reaches the path. -/

/-- What is dropped at the front of a text ends before a suffix whose first character stays. -/
theorem suffix_dropWhile {p : Char → Bool} {c : Char} (hc : p c = false) {tail cs : List Char}
    (h : c :: tail <:+ cs) : c :: tail <:+ cs.dropWhile p := by
  obtain ⟨front, rfl⟩ := h
  rw [List.dropWhile_append]
  split
  · have hkeep : (c :: tail).dropWhile p = c :: tail := List.dropWhile_cons_of_neg (by simp [hc])
    exact ⟨[], hkeep.symm⟩
  · exact List.suffix_append _ _

/-- What is dropped at the end of a text is none of a suffix that does not end so. -/
theorem suffix_dropWhile_reverse {p : Char → Bool} {tail cs : List Char} (hne : tail ≠ [])
    (hp : ∀ c ∈ tail, p c = false) (h : tail <:+ cs) : (cs.reverse.dropWhile p).reverse = cs := by
  obtain ⟨front, rfl⟩ := h
  obtain ⟨last, others, hlast⟩ := List.exists_cons_of_ne_nil (List.reverse_ne_nil_iff.mpr hne)
  have hmem : last ∈ tail := by rw [← List.mem_reverse, hlast]; exact List.mem_cons_self
  rw [List.reverse_append, hlast, List.cons_append,
    List.dropWhile_cons_of_neg (by simp [hp last hmem]),
    ← List.cons_append, ← hlast, ← List.reverse_append, List.reverse_reverse]

section

variable {segments : List (List Char)} (h : PlainPath segments) {cs : List Char}
include h

theorem suffix_cleaned (hcs : pathOf segments <:+ cs) : pathOf segments <:+ cleaned cs := by
  obtain ⟨tail, htail⟩ := h.eq_cons
  have hrange (c : Char) (hc : c ∈ pathOf segments) : 0x20 < c.toNat := by
    rcases h.mem hc with hc | rfl
    · exact (isPlain_range hc).1
    · decide
  have hedge (c : Char) (hc : c ∈ pathOf segments) : decide (c.toNat ≤ 0x20) = false :=
    decide_eq_false (Nat.not_le.mpr (hrange c hc))
  have hdrop : pathOf segments <:+ cs.dropWhile fun c => decide (c.toNat ≤ 0x20) := by
    rw [htail] at hcs ⊢
    exact suffix_dropWhile (by decide) hcs
  have hfilter : (pathOf segments).filter (fun c => !(c = '\t' || c = '\n' || c = '\r'))
      = pathOf segments := List.filter_eq_self.mpr fun c hc => by
    have hc := hrange c hc
    simp only [Bool.not_eq_true', Bool.or_eq_false_iff, decide_eq_false_iff_not]
    refine ⟨⟨?_, ?_⟩, ?_⟩ <;> (rintro rfl; revert hc; decide)
  simp only [cleaned]
  rw [suffix_dropWhile_reverse (by rw [htail]; nofun) hedge hdrop]
  exact hfilter ▸ hdrop.filter _

/-- The path is not part of the scheme. -/
theorem suffix_rest {scheme : String} {rest : List Char} (hcs : pathOf segments <:+ cs)
    (hscheme : schemeOf? cs = some (scheme, rest)) : pathOf segments <:+ rest := by
  obtain ⟨tail, htail⟩ := h.eq_cons
  have hafter : pathOf segments <:+ ':' :: rest := by
    have hdrop : pathOf segments <:+ cs.dropWhile isSchemeChar := by
      rw [htail] at hcs ⊢
      exact suffix_dropWhile (by decide) hcs
    rw [schemeOf?, List.span_eq_takeWhile_dropWhile] at hscheme
    dsimp only at hscheme
    split at hscheme
    · rename_i heq
      split at hscheme
      · cases hscheme
        rwa [heq] at hdrop
      · cases hscheme
    · cases hscheme
  rcases List.suffix_cons_iff.mp hafter with heq | hsuffix
  · rw [htail] at heq
    cases heq
  · exact hsuffix

/-! ## Normal forms

The path is either part of the path of the address, or, where the address has a query or a fragment
of its own, it has become part of that. `suffix_pathText` and `suffix_tailText` are the two cases.
-/

/-- The segments of a plain path are the last ones of what it stands behind. -/
theorem splitOn_pathOf (front : List Char) :
    (front ++ pathOf segments).splitOn '/' = front.splitOn '/' ++ segments := by
  have hslash (segment : List Char) (hsegment : segment ∈ segments) : '/' ∉ segment := fun hmem =>
    absurd (h.plain segment hsegment '/' hmem) (by decide)
  clear h
  induction segments generalizing front with
  | nil => simp [pathOf]
  | cons segment rest ih =>
    have hfirst := List.splitOn_eq_singleton (hslash segment List.mem_cons_self)
    have hrest := ih (front ++ '/' :: segment) fun s hs =>
      hslash s (List.mem_cons_of_mem segment hs)
    rw [List.splitOn_append_cons_self, hfirst, List.append_assoc] at hrest
    rw [pathOf, List.flatMap_cons, ← pathOf]
    simpa using hrest

/-- Segments that are no points stay as they are. -/
theorem resolve_append (kind : SchemeKind) (done front : List (List Char)) :
    ∃ above, resolve kind done (front ++ segments) = segments.reverse ++ above := by
  induction front generalizing done with
  | nil =>
    have hdots : ∀ s ∈ segments, isDot s = false ∧ isDotDot s = false := fun s hs => h.not_isDot hs
    clear h
    refine ⟨done, ?_⟩
    rw [List.nil_append]
    induction segments generalizing done with
    | nil => rfl
    | cons segment rest ih =>
      obtain ⟨hdot, hdotdot⟩ := hdots segment List.mem_cons_self
      rw [resolve]
      simp only [hdot, hdotdot, Bool.false_eq_true, if_false]
      rw [ih _ fun s hs => hdots s (List.mem_cons_of_mem segment hs)]
      simp
  | cons segment front ih =>
    rw [List.cons_append, resolve]
    exact ih _

/-- Backslashes count as slashes in addresses of the web. A plain path has none. -/
theorem segmentsOf_append (front : List Char) :
    ∃ before, segmentsOf .web (front ++ pathOf segments) = before ++ segments := by
  have hsame : (pathOf segments).map (fun c => if SchemeKind.web.separates c then '/' else c)
      = pathOf segments := by
    refine (List.map_congr_left fun c hc => ?_).trans (List.map_id _)
    split
    · rename_i hseparates
      rcases h.mem hc with hc | rfl
      · have hne : c ≠ '/' ∧ c ≠ '\\' := ⟨ne_of_isPlain hc rfl, ne_of_isPlain hc rfl⟩
        simp [SchemeKind.separates, hne] at hseparates
      · rfl
    · rfl
  obtain ⟨first, rest, hparts⟩ := List.exists_cons_of_ne_nil
    (List.splitOn_ne_nil '/' (front.map fun c => if SchemeKind.web.separates c then '/' else c))
  simp only [segmentsOf, List.map_append, hsame, splitOn_pathOf h, hparts]
  cases first with
  | nil => exact ⟨rest, rfl⟩
  | cons c first => exact ⟨(c :: first) :: rest, rfl⟩

theorem percentEncode_pathOf {reserved : List Char} (hreserved : reserved.any isPlain = false)
    (hslash : '/' ∉ reserved) : percentEncode reserved (pathOf segments) = pathOf segments :=
  percentEncode_plain hreserved hslash fun _ hc => h.mem hc

/-- A path in its normal form ends with the plain segments that it is written with at its end. -/
theorem suffix_pathText (hcs : pathOf segments <:+ cs) :
    pathOf segments <:+ pathText .web cs := by
  obtain ⟨front, rfl⟩ := hcs
  obtain ⟨before, hbefore⟩ := segmentsOf_append h front
  obtain ⟨above, habove⟩ := resolve_append h .web [] before
  have hne : (segments.reverse ++ above).reverse ≠ [] := by
    simp [h.ne_nil]
  have hencode : segments.flatMap (fun segment => '/' :: percentEncode pathReserved segment)
      = pathOf segments := by
    refine congrArg List.flatten (List.map_congr_left fun segment hsegment => ?_)
    rw [percentEncode_plain (by decide) (by decide) fun c hc =>
      .inl (h.plain segment hsegment c hc)]
  simp only [pathText, hbefore, withDrive_web, habove, reduceCtorEq, if_false]
  rw [if_neg hne, List.reverse_append, List.reverse_reverse, List.flatMap_append,
    hencode]
  exact List.suffix_append _ _

/-- Query and fragment in their normal forms end with the plain text that they are written with at
their end. -/
theorem suffix_tailText {sign : Char} (hcs : pathOf segments <:+ cs) :
    pathOf segments <:+ tailText .web (sign :: cs) := by
  obtain ⟨front, rfl⟩ := hcs
  have hencode (reserved : List Char) (hreserved : reserved.any isPlain = false)
      (hslash : '/' ∉ reserved) (cs : List Char) :
      pathOf segments <:+ percentEncode reserved (cs ++ pathOf segments) := by
    rw [percentEncode_append, percentEncode_pathOf h hreserved hslash]
    exact List.suffix_append _ _
  have hother : ∀ c ∈ pathOf segments, decide (c ≠ '#') = true := fun c hc => by
    rcases h.mem hc with hc | rfl
    · exact decide_eq_true (ne_of_isPlain hc rfl)
    · rfl
  simp only [tailText, List.span_eq_takeWhile_dropWhile]
  cases hdrop : (sign :: front).dropWhile fun c => decide (c ≠ '#') with
  | nil =>
    -- All of it is the query.
    have hall : ∀ c ∈ sign :: (front ++ pathOf segments), decide (c ≠ '#') = true := fun c hc => by
      rcases List.mem_append.mp (List.cons_append ▸ hc) with hc | hc
      · exact List.dropWhile_eq_nil_iff.mp hdrop c hc
      · exact hother c hc
    rw [List.takeWhile_eq_self_iff.mpr hall, List.dropWhile_eq_nil_iff.mpr hall, List.append_nil]
    exact (hencode _ (by decide) (by decide) front).trans (List.suffix_cons _ _)
  | cons mark fragment =>
    rw [← List.cons_append, List.dropWhile_append, hdrop, if_neg (by simp), List.cons_append]
    exact ((hencode _ (by decide) (by decide) fragment).trans (List.suffix_cons _ _)).trans
      (List.suffix_append _ _)

/-! ## Whole addresses

The first segment is set aside from here on. In an address such as `http:///api/rules` there is no
host between the slashes, and the first segment of the path becomes the host. -/

/-- A text ends in its path, or in what stands behind the path. -/
theorem suffix_cutTail (hcs : pathOf segments <:+ cs) :
    (cutTail cs).2 = [] ∧ pathOf segments <:+ (cutTail cs).1
      ∨ ∃ sign tail, (cutTail cs).2 = sign :: tail ∧ pathOf segments <:+ tail := by
  have hother : ∀ c ∈ pathOf segments, (!(decide (c = '?') || decide (c = '#'))) = true :=
    fun c hc => by
      rcases h.mem hc with hc | rfl
      · simp [ne_of_isPlain hc (d := '?') rfl, ne_of_isPlain hc (d := '#') rfl]
      · rfl
  obtain ⟨front, rfl⟩ := hcs
  rw [cutTail, List.span_eq_takeWhile_dropWhile]
  cases hdrop : front.dropWhile fun c => !(decide (c = '?') || decide (c = '#')) with
  | nil =>
    have hall : ∀ c ∈ front ++ pathOf segments,
        (!(decide (c = '?') || decide (c = '#'))) = true := fun c hc => by
      rcases List.mem_append.mp hc with hc | hc
      · exact List.dropWhile_eq_nil_iff.mp hdrop c hc
      · exact hother c hc
    refine .inl ⟨List.dropWhile_eq_nil_iff.mpr hall, ?_⟩
    rw [List.takeWhile_eq_self_iff.mpr hall]
    exact List.suffix_append _ _
  | cons sign tail =>
    refine .inr ⟨sign, tail ++ pathOf segments, ?_, List.suffix_append _ _⟩
    rw [List.dropWhile_append, hdrop, if_neg (by simp), List.cons_append]

/-- An address with an authority keeps its path at its end. -/
theorem suffix_withAuthority {scheme : String} {url : Url} (hcs : pathOf segments <:+ cs)
    (hurl : withAuthority? scheme .web cs = some url) :
    pathOf segments <:+ url.path ++ url.tail := by
  obtain ⟨tail, htail⟩ := h.eq_cons
  have hrest : pathOf segments <:+ cs.dropWhile (!SchemeKind.web.endsAuthority ·) := by
    rw [htail] at hcs ⊢
    exact suffix_dropWhile rfl hcs
  simp only [withAuthority?, List.span_eq_takeWhile_dropWhile] at hurl
  obtain ⟨⟨authority, left⟩, -, hurl⟩ := Option.bind_eq_some_iff.mp hurl
  have hcut := suffix_cutTail h (hrest.trans (List.suffix_append left _))
  dsimp only at hurl
  rcases hsplit : cutTail (left ++ cs.dropWhile (!SchemeKind.web.endsAuthority ·)) with
    ⟨path, behind⟩
  rw [hsplit] at hurl hcut
  obtain rfl := Option.some.inj hurl
  simp only [reduceCtorEq, and_false, if_false]
  rcases hcut with ⟨rfl, hpath⟩ | ⟨sign, behind, rfl, hbehind⟩
  · simpa [tailText] using suffix_pathText h hpath
  · exact (suffix_tailText h hbehind).trans (List.suffix_append _ _)

end

/-- The scheme of an address is the one that it was written with. -/
theorem scheme_withAuthority {scheme : String} {kind : SchemeKind} {cs : List Char} {url : Url}
    (hurl : withAuthority? scheme kind cs = some url) : url.scheme = scheme := by
  simp only [withAuthority?] at hurl
  obtain ⟨⟨authority, left⟩, -, hurl⟩ := Option.bind_eq_some_iff.mp hurl
  obtain rfl := Option.some.inj hurl
  rfl

/-- Files have a scheme of their own, which no request is sent to. -/
theorem scheme_ofFile {cs : List Char} {url : Url} (hurl : ofFile? cs = some url) :
    url.scheme = SchemeKind.fileScheme := by
  simp only [ofFile?] at hurl
  split at hurl <;>
  · obtain ⟨server, -, hurl⟩ := Option.bind_eq_some_iff.mp hurl
    obtain rfl := Option.some.inj hurl
    rfl

/-- The schemes that requests are sent to are of the web. -/
theorem of_isWeb {url : Url} (hweb : url.isWeb = true) : SchemeKind.of url.scheme = .web := by
  simp only [isWeb, Bool.or_eq_true, decide_eq_true_eq] at hweb
  rcases hweb with hweb | hweb <;> rw [hweb] <;> decide

/-- An address of the web that ends with a path as it is written ends with it in its normal form.
The first segment may be lost. -/
theorem suffix_ofText? {first : List Char} {segments : List (List Char)}
    (h : PlainPath (first :: segments)) (hsegments : segments ≠ []) {text : String}
    (htext : pathOf (first :: segments) <:+ text.toList) {url : Url}
    (hurl : ofText? text = some url) (hweb : url.isWeb = true) :
    pathOf segments <:+ url.path ++ url.tail := by
  have hbehind : PlainPath segments := ⟨hsegments,
    fun s hs => h.segment_ne_nil s (List.mem_cons_of_mem first hs),
    fun s hs => h.plain s (List.mem_cons_of_mem first hs)⟩
  obtain ⟨c, cs, rfl⟩ := List.exists_cons_of_ne_nil (h.segment_ne_nil first List.mem_cons_self)
  have hc : isPlain c = true := h.plain _ List.mem_cons_self c List.mem_cons_self
  rw [ofText?] at hurl
  obtain ⟨⟨scheme, rest⟩, hscheme, hurl⟩ := Option.bind_eq_some_iff.mp hurl
  have hrest := suffix_rest h (suffix_cleaned h htext) hscheme
  dsimp only at hurl
  split at hurl
  · rename_i hkind
    rw [hkind] at hurl
    refine suffix_withAuthority hbehind ?_ hurl
    -- Slashes in front of a host are dropped, at most up to the first segment.
    have hfirst : c :: (cs ++ pathOf segments) <:+ rest := by
      refine List.IsSuffix.trans ?_ hrest
      exact List.suffix_cons '/' _
    have hseparates : SchemeKind.web.separates c = false := by
      simp [SchemeKind.separates, ne_of_isPlain hc (d := '/') rfl, ne_of_isPlain hc (d := '\\') rfl]
    exact (List.suffix_append (c :: cs) _).trans (suffix_dropWhile hseparates hfirst)
  · have hkind := of_isWeb hweb
    rw [scheme_ofFile hurl] at hkind
    cases hkind
  · rename_i hother
    have hkind := of_isWeb hweb
    split at hurl
    · rw [scheme_withAuthority hurl, hother] at hkind
      cases hkind
    · obtain rfl := Option.some.inj hurl
      rw [withoutAuthority, hother] at hkind
      cases hkind

/-! ## Requests -/

/-- **The address of a request ends with the path that it was prepared for**, whatever the server is
and whatever stands in front of the path, up to the first segment of the path. -/
theorem suffix_url {first : List Char} {segments : List (List Char)}
    (h : PlainPath (first :: segments)) (hsegments : segments ≠ [])
    {server contextPath path : String} (hpath : path.toList = pathOf (first :: segments))
    {method : Method} {token : Option String} {body : Option Json} {request : Request}
    (hrequest : Request.prepare method (Client.address server contextPath path) token body
      = .ok request) : pathOf segments <:+ request.url.toList := by
  have haddress : pathOf (first :: segments)
      <:+ (Client.address server contextPath path).toList := by
    rw [Client.address, String.toList_ofList, hpath]
    exact List.suffix_append _ _
  unfold Request.prepare at hrequest
  split at hrequest
  · cases hrequest
  · rename_i url hurl
    split at hrequest
    · cases hrequest
    · split at hrequest
      · cases hrequest
      · dsimp only at hrequest
        split at hrequest
        · cases hrequest
        · rename_i hsend
          cases hrequest
          have hweb : url.isWeb = true := by
            simp only [Bool.or_eq_true, Bool.not_eq_true', not_or, Bool.not_eq_false] at hsend
            exact hsend.1
          have hsuffix := suffix_ofText? h hsegments haddress hurl hweb
          rw [text, String.toList_append, String.toList_ofList, List.append_assoc]
          exact hsuffix.trans ((List.suffix_append _ _).trans (List.suffix_append _ _))

end Whitelist.Url
