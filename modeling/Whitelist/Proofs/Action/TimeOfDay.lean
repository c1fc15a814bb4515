import Mathlib.Data.List.Basic
import Whitelist.Action.Basic
import Whitelist.Proofs.Text.Ascii
import Whitelist.Proofs.Text.Cut
import Whitelist.Proofs.Text.Numeral

/-!
# Times of day

A timing action is sent at times of day, written with two digits for the hour, a colon and two
digits for the minute. The check reads a number from the two bytes on each side of the colon, and
one may write a number with a plus sign in front. So a plus sign and a digit pass for two digits, on
either side; nothing else does.

## What is here

* `TwoDigits`, `IsTimeOfDay` — how a time of day is written.
* `SignedDigit`, `PassesForTime`, `isSome_readTwoBytes?_iff`, `checkTimeOfDay_eq_ok_iff` — what the
  check accepts.
* `ReadyButForTimes`, `check_timing_eq_ok_iff` — which timing actions are complete.
* `times_checked` — all of it together, and that the plus sign is all that is wrong.
* `signed_digits_pass` — a time that is accepted and is none.

The number between the bounds is read by the general reader for unsigned words, which takes a plus
sign as it does everywhere. It is given two bytes, so that a plus sign leaves room for one digit.
The characterization is by the bytes: `isSome_readTwoBytes?_iff` says which texts of two bytes are
read, and everything else is put on top of it.
-/

set_option autoImplicit false
namespace Whitelist

variable {bound : Nat} {cs : List Char} {time : String}

/-! ## Two bytes

Two bytes need not be two characters, but a text with a character of two bytes is not read as a
number. -/

/-- Two digits that write a number below the bound. -/
def TwoDigits (bound : Nat) (cs : List Char) : Prop :=
  ∃ tens ones : Char, cs = [tens, ones] ∧ tens.isDigit = true ∧ ones.isDigit = true
    ∧ 10 * Text.digitValue tens + Text.digitValue ones < bound

/-- A plus sign and one digit. -/
def SignedDigit (cs : List Char) : Prop := ∃ ones : Char, cs = ['+', ones] ∧ ones.isDigit = true

theorem byteLength_of_isDigit (h : ∀ c ∈ cs, c.isDigit = true) : byteLength cs = cs.length :=
  Text.utf8ByteSize_ofList fun c hc => Text.utf8Size_of_isDigit (h c hc)

theorem byteLength_plus (h : ∀ c ∈ cs, c.isDigit = true) :
    byteLength ('+' :: cs) = cs.length + 1 := by
  refine Text.utf8ByteSize_ofList fun c hc => ?_
  rcases List.mem_cons.mp hc with rfl | hc
  · rfl
  · exact Text.utf8Size_of_isDigit (h c hc)

theorem digitValue_lt_of_isDigit {c : Char} (h : c.isDigit = true) : Text.digitValue c < 10 := by
  simp only [Char.isDigit, Bool.and_eq_true, decide_eq_true_eq] at h
  have hmax : c.toNat ≤ 57 := UInt32.le_iff_toNat_le.mp h.2
  have hzero : '0'.toNat = 48 := rfl
  rw [Text.digitValue]
  omega

theorem isSome_readTwoBytes?_iff (hbound : 10 ≤ bound) :
    (readTwoBytes? bound cs).isSome = true ↔ TwoDigits bound cs ∨ SignedDigit cs := by
  constructor
  · intro h
    rw [readTwoBytes?] at h
    split at h
    · rename_i hbytes
      obtain ⟨n, hn⟩ := Option.isSome_iff_exists.mp h
      obtain ⟨hread, hsmall⟩ := Option.filter_eq_some_iff.mp hn
      obtain ⟨ds, ⟨-, hdigits⟩, hvalue, rfl | rfl⟩ := Text.readUnsigned?_eq_some_iff.mp hread
      · rw [byteLength_of_isDigit hdigits] at hbytes
        obtain ⟨tens, ones, rfl⟩ := List.length_eq_two.mp hbytes
        refine .inl ⟨tens, ones, rfl, hdigits tens (by simp), hdigits ones (by simp), ?_⟩
        rw [← hvalue] at hsmall
        simpa [Text.numberOf] using hsmall
      · rw [byteLength_plus hdigits] at hbytes
        obtain ⟨ones, rfl⟩ := List.length_eq_one_iff.mp (Nat.succ.inj hbytes)
        exact .inr ⟨ones, rfl, hdigits ones (by simp)⟩
    · cases h
  · rintro (⟨tens, ones, rfl, htens, hones, hsmall⟩ | ⟨ones, rfl, hones⟩)
    · have hdigits : ∀ d ∈ [tens, ones], d.isDigit = true := by simp [htens, hones]
      have hread : Text.readUnsigned? [tens, ones] = some (Text.numberOf [tens, ones]) :=
        Text.readUnsigned?_eq_some_iff.mpr ⟨_, ⟨by simp, hdigits⟩, rfl, .inl rfl⟩
      have hbytes : byteLength [tens, ones] = 2 := byteLength_of_isDigit hdigits
      rw [readTwoBytes?, if_pos hbytes, Text.readBelow?, hread]
      simpa [Text.numberOf] using hsmall
    · have hdigits : ∀ d ∈ [ones], d.isDigit = true := by simp [hones]
      have hread : Text.readUnsigned? ['+', ones] = some (Text.numberOf [ones]) :=
        Text.readUnsigned?_eq_some_iff.mpr ⟨_, ⟨by simp, hdigits⟩, rfl, .inr rfl⟩
      have hbytes : byteLength ['+', ones] = 2 := byteLength_plus hdigits
      have hsmall : Text.digitValue ones < bound :=
        Nat.lt_of_lt_of_le (digitValue_lt_of_isDigit hones) hbound
      rw [readTwoBytes?, if_pos hbytes, Text.readBelow?, hread]
      simpa [Text.numberOf] using hsmall

/-! ## Times

The colon is looked for first, and neither of the two forms of a number has one in it. -/

/-- Two digits for an hour below 24, a colon, and two digits for a minute below 60. -/
def IsTimeOfDay (time : String) : Prop :=
  ∃ hour minute, time.toList = hour ++ ':' :: minute ∧ TwoDigits 24 hour ∧ TwoDigits 60 minute

/-- The same, where a plus sign and a digit may stand for two digits. -/
def PassesForTime (time : String) : Prop :=
  ∃ hour minute, time.toList = hour ++ ':' :: minute ∧ (TwoDigits 24 hour ∨ SignedDigit hour)
    ∧ (TwoDigits 60 minute ∨ SignedDigit minute)

theorem notMem_of_twoBytes (h : TwoDigits bound cs ∨ SignedDigit cs) : ':' ∉ cs := by
  rcases h with ⟨tens, ones, rfl, htens, hones, -⟩ | ⟨ones, rfl, hones⟩
  · have htens := Text.ne_of_isDigit htens (d := ':') rfl
    have hones := Text.ne_of_isDigit hones (d := ':') rfl
    simp [htens.symm, hones.symm]
  · have hones := Text.ne_of_isDigit hones (d := ':') rfl
    simp [hones.symm]

theorem checkTimeOfDay_eq_ok_iff : checkTimeOfDay time = .ok () ↔ PassesForTime time := by
  have hcheck : checkTimeOfDay time = .ok () ↔ ∃ hour minute,
      Text.cut ':' time.toList = some (hour, minute)
        ∧ (readTwoBytes? 24 hour).isSome = true ∧ (readTwoBytes? 60 minute).isSome = true := by
    rw [checkTimeOfDay]
    cases Text.cut ':' time.toList with
    | none => simp
    | some sides =>
      obtain ⟨hour, minute⟩ := sides
      cases hh : readTwoBytes? 24 hour <;> cases hm : readTwoBytes? 60 minute <;> simp [hh, hm]
  rw [hcheck, PassesForTime]
  refine exists_congr fun hour => exists_congr fun minute => ?_
  rw [isSome_readTwoBytes?_iff (by decide), isSome_readTwoBytes?_iff (by decide),
    Text.cut_eq_some_iff]
  constructor
  · rintro ⟨⟨htext, -⟩, hhour, hminute⟩
    exact ⟨htext, hhour, hminute⟩
  · rintro ⟨htext, hhour, hminute⟩
    exact ⟨⟨htext, notMem_of_twoBytes hhour⟩, hhour, hminute⟩

/-- Without a plus sign, what passes for a time of day is one. -/
theorem passesForTime_iff (hplus : '+' ∉ time.toList) : PassesForTime time ↔ IsTimeOfDay time := by
  constructor
  · rintro ⟨hour, minute, htext, hhour, hminute⟩
    rw [htext] at hplus
    refine ⟨hour, minute, htext, hhour.resolve_right ?_, hminute.resolve_right ?_⟩
    · rintro ⟨ones, rfl, -⟩
      exact hplus (by simp)
    · rintro ⟨ones, rfl, -⟩
      exact hplus (by simp)
  · rintro ⟨hour, minute, htext, hhour, hminute⟩
    exact ⟨hour, minute, htext, .inl hhour, .inl hminute⟩

/-! ## Timing actions

A timing action is checked field by field. `ReadyButForTimes` collects what
the other fields have to be. -/

namespace ActionFields

variable {fields : ActionFields}

/-- All that a timing action needs but the times. -/
structure ReadyButForTimes (fields : ActionFields) : Prop where
  channel : fields.channel = some .dingGroup ∨ fields.channel = some .wechat
  name : checkTargetName (fields.name.getD "") = .ok ()
  url : checkUrl (fields.url.getD "") = .ok ()
  period : ∃ period, fields.period = some period ∧ Text.isBlank period = false

theorem checkField_eq_ok_iff {check : FieldCheck} : checkField check = .ok () ↔ check = .ok () := by
  cases check <;> simp [checkField]

/-- Two checks one after the other. -/
theorem then_eq_ok_iff {first : Except ActionReason Unit} {next : Unit → Except ActionReason Unit} :
    (first >>= next) = .ok () ↔ first = .ok () ∧ next () = .ok () := by
  cases first <;> simp [bind, Except.bind]

theorem throw_ne_ok (reason : ActionReason) :
    ¬ (throw reason : Except ActionReason Unit) = .ok () := nofun

theorem checkTimes_eq_ok_iff {times : List String} :
    checkTimes times = .ok () ↔ ∀ time ∈ times, checkTimeOfDay time = .ok () := by
  induction times with
  | nil => simp [checkTimes]
  | cons time rest ih => simp [checkTimes, then_eq_ok_iff, checkField_eq_ok_iff, ih]

theorem checkSchedule_eq_ok_iff : checkSchedule fields = .ok ()
    ↔ (∃ period, fields.period = some period ∧ Text.isBlank period = false)
      ∧ fields.times ≠ [] ∧ ∀ time ∈ fields.times, checkTimeOfDay time = .ok () := by
  rw [checkSchedule, ← checkTimes_eq_ok_iff]
  cases fields.period with
  | none => simp [then_eq_ok_iff, throw_ne_ok]
  | some period =>
    cases hblank : Text.isBlank period <;> by_cases htimes : fields.times = [] <;>
      simp [then_eq_ok_iff, throw_ne_ok, hblank, htimes]

theorem check_eq_ok_iff {actionType : ActionType} :
    fields.check actionType = .ok () ↔ fields.reasonAgainst actionType = .ok () := by
  rw [check]
  cases fields.reasonAgainst actionType <;> simp

/-- **A timing action is complete** if its times pass and nothing else is missing. -/
theorem check_timing_eq_ok_iff : fields.check .timing = .ok ()
    ↔ fields.ReadyButForTimes ∧ fields.times ≠ [] ∧ ∀ time ∈ fields.times, PassesForTime time := by
  have hready : fields.reasonAgainst .timing = .ok ()
      ↔ (fields.channel = some .dingGroup ∨ fields.channel = some .wechat)
        ∧ checkTargetName (fields.name.getD "") = .ok () ∧ checkUrl (fields.url.getD "") = .ok ()
        ∧ checkSchedule fields = .ok () := by
    rw [reasonAgainst]
    rcases fields.channel with _ | _ | _ | _ <;>
      simp [then_eq_ok_iff, throw_ne_ok, checkField_eq_ok_iff, NotifyChannel.needsGroupName]
  simp only [check_eq_ok_iff, hready, checkSchedule_eq_ok_iff, checkTimeOfDay_eq_ok_iff]
  constructor
  · rintro ⟨hchannel, hname, hurl, hperiod, htimes⟩
    exact ⟨⟨hchannel, hname, hurl, hperiod⟩, htimes⟩
  · rintro ⟨⟨hchannel, hname, hurl, hperiod⟩, htimes⟩
    exact ⟨hchannel, hname, hurl, hperiod, htimes⟩

end ActionFields

/-! ## What is accepted -/

/-- **Times of day are checked but for a plus sign.** A text is accepted exactly if it has a number
on each side of a colon, each of two digits or of a plus sign and a digit, the hour below 24 and the
minute below 60. So without a plus sign it is a time of day. A timing action is accepted exactly if
all its times are so, there is one, and nothing else is missing. -/
theorem times_checked (time : String) (fields : ActionFields) :
    (checkTimeOfDay time = .ok () ↔ PassesForTime time)
    ∧ ('+' ∉ time.toList → (checkTimeOfDay time = .ok () ↔ IsTimeOfDay time))
    ∧ (fields.check .timing = .ok () ↔ fields.ReadyButForTimes
        ∧ fields.times ≠ [] ∧ ∀ time ∈ fields.times, PassesForTime time)
    ∧ (fields.check .timing = .ok () →
      ∀ time ∈ fields.times, '+' ∉ time.toList → IsTimeOfDay time) := by
  refine ⟨checkTimeOfDay_eq_ok_iff, fun hplus => ?_, ActionFields.check_timing_eq_ok_iff,
    fun hcheck time htime hplus => ?_⟩
  · rw [checkTimeOfDay_eq_ok_iff, passesForTime_iff hplus]
  · have hpasses := (ActionFields.check_timing_eq_ok_iff.mp hcheck).2.2 time htime
    exact (passesForTime_iff hplus).mp hpasses

/-- A digest to a group, every day at these times. -/
def digest (times : List String) : ActionFields where
  channel := some .dingGroup
  name := some "sec-oncall"
  url := some "https://oapi.example.com/robot/send"
  period := some "everyDay"
  times := times

/-- A digest in the morning and in the evening is sent at times of day. -/
theorem times_checked_digest : '+' ∉ "18:30".toList ∧ IsTimeOfDay "18:30"
    ∧ (digest ["09:00", "18:30"]).check .timing = .ok () ∧ IsTimeOfDay "09:00" := by
  obtain ⟨-, hunsigned, -, htimes⟩ := times_checked "18:30" (digest ["09:00", "18:30"])
  have hplus : '+' ∉ "18:30".toList := by decide
  have hcheck : (digest ["09:00", "18:30"]).check .timing = .ok () := by decide
  exact ⟨hplus, (hunsigned hplus).mp (by decide), hcheck,
    htimes hcheck "09:00" (by decide) (by decide)⟩

/-- A plus sign and a digit are no two digits, but the check takes them for two, by themselves and
in a timing action. -/
theorem signed_digits_pass :
    (¬ ∀ time, checkTimeOfDay time = .ok () ↔ IsTimeOfDay time)
    ∧ ¬ ∀ fields : ActionFields, fields.check .timing = .ok () →
      ∀ time ∈ fields.times, IsTimeOfDay time := by
  have hnone : ¬ IsTimeOfDay "+9:+5" := by
    rintro ⟨hour, minute, htext, ⟨tens, ones, rfl, hdigit, -⟩, -⟩
    obtain ⟨rfl, -⟩ := List.cons.inj htext
    cases hdigit
  refine ⟨fun hall => hnone ((hall "+9:+5").mp (by decide)), fun hall => hnone ?_⟩
  exact hall (digest ["+9:+5"]) (by decide) "+9:+5" (by decide)

end Whitelist
