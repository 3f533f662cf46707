import HaviliarIot.Ingress
import HaviliarIot.Numeral

/-!
The angle `watch_mqtt_messages` of `bin/wifi.rs` reads from a message: the payload as
UTF-8, trimmed, parsed as `i16` and clamped to `0..=180`.

`requestedAngle_iff` says which payloads ask for an angle and for which one: the texts
of a number that `i16` holds, written with any leading zeros and with blanks around
it, and no others.
-/

namespace HaviliarIot

open Numeral

/-- `char::is_whitespace`. -/
def isWhitespace (c : Char) : Bool :=
  c.toNat ∈ [0x20, 0x85, 0xA0, 0x1680, 0x2028, 0x2029, 0x202F, 0x205F, 0x3000] ||
    (0x09 ≤ c.toNat && c.toNat ≤ 0x0D) || (0x2000 ≤ c.toNat && c.toNat ≤ 0x200A)

/-- `core::str::from_utf8`. -/
def fromUtf8 (payload : List UInt8) : Option (List Char) :=
  payload.toByteArray.utf8Decode?.map Array.toList

/-- `from_utf8(&payload).unwrap_or("<invalid utf8>")`. -/
def messageText (payload : List UInt8) : List Char :=
  (fromUtf8 payload).getD "<invalid utf8>".toList

/-- An angle as the servo channel carries it: an `i16` in `0..=180`. -/
structure Angle where
  degrees : Int
  nonneg : 0 ≤ degrees
  le : degrees ≤ 180
  deriving DecidableEq

/-- `angle.clamp(0, 180)`. -/
def Angle.clamp (n : Int) : Angle := ⟨max 0 (min n 180), by omega, by omega⟩

/-- `msg.trim().parse::<i16>()`, clamped. -/
def requestedAngle (payload : List UInt8) : Option Angle :=
  (parse (-32768) 32767 (trim isWhitespace (messageText payload))).map Angle.clamp

theorem i16_around : (-32768 : Int) ≤ 0 ∧ (0 : Int) ≤ 32767 := by decide

theorem isWhitespace_of_isDigit {c : Char} (is : c.isDigit) : isWhitespace c = false := by
  have range : 48 ≤ c.toNat ∧ c.toNat ≤ 57 := by
    simpa [Char.isDigit, UInt32.le_iff_toNat_le] using is
  simp only [isWhitespace, Bool.or_eq_false_iff, Bool.and_eq_false_iff, decide_eq_false_iff_not,
    List.mem_cons, List.not_mem_nil, or_false]
  omega

/-- A numeral has no blanks in it. -/
theorem isWhitespace_of_isNumeral {src digits : List Char} {positive : Bool}
    (numeral : IsNumeral src positive digits) (all : ∀ c ∈ digits, c.isDigit) :
    ∀ c ∈ src, isWhitespace c = false := by
  have solid : ∀ c ∈ digits, isWhitespace c = false :=
    fun c member => isWhitespace_of_isDigit (all c member)
  cases numeral with
  | plain => exact solid
  | plus | minus => exact List.forall_mem_cons.mpr ⟨by decide, solid⟩

theorem fromUtf8_eq_some {payload : List UInt8} {text : List Char} :
    fromUtf8 payload = some text ↔ payload.toByteArray = text.utf8Encode := by
  rw [fromUtf8, Option.map_eq_some_iff]
  constructor
  · rintro ⟨chars, decoded, rfl⟩
    have valid : payload.toByteArray.utf8Decode?.isSome := by rw [decoded]; rfl
    have encoded := ByteArray.utf8Encode_get_utf8Decode? (h := valid)
    simp only [decoded, Option.get_some] at encoded
    exact encoded.symm
  · intro encoded
    exact ⟨text.toArray, by rw [encoded, List.utf8Decode?_utf8Encode], rfl⟩

/-- A payload that is no UTF-8 asks for nothing. -/
theorem requestedAngle_of_invalid {payload : List UInt8} (invalid : fromUtf8 payload = none) :
    requestedAngle payload = none := by
  have text : parse (-32768) 32767 (trim isWhitespace "<invalid utf8>".toList) = none := by decide
  rw [requestedAngle, messageText, invalid, Option.getD_none, text]
  rfl

/-- A numeral of `i16` in a payload, with blanks around it. -/
structure AsksFor (payload : List UInt8) (n : Int) (before src after : List Char) : Prop where
  encoded : payload.toByteArray = (before ++ src ++ after).utf8Encode
  blanks : (∀ c ∈ before, isWhitespace c = true) ∧ ∀ c ∈ after, isWhitespace c = true
  numeral : ∃ positive digits, IsNumeral src positive digits ∧ digits ≠ [] ∧
    (∀ c ∈ digits, c.isDigit) ∧ n = signed positive (Nat.ofDigitChars 10 digits 0)
  range : -32768 ≤ n ∧ n ≤ 32767

/-- **The payloads that ask for an angle, and the angle they ask for.** -/
theorem requestedAngle_iff (payload : List UInt8) (angle : Angle) :
    requestedAngle payload = some angle ↔
      ∃ n before src after, AsksFor payload n before src after ∧ angle = Angle.clamp n := by
  cases valid : fromUtf8 payload with
  | none =>
    rw [requestedAngle_of_invalid valid]
    simp only [reduceCtorEq, false_iff]
    rintro ⟨n, before, src, after, asks, -⟩
    rw [fromUtf8_eq_some.mpr asks.encoded] at valid
    cases valid
  | some text =>
    rw [requestedAngle, messageText, valid, Option.getD_some, Option.map_eq_some_iff]
    constructor
    · rintro ⟨n, parsed, rfl⟩
      obtain ⟨positive, digits, numeral, nonempty, all, value, range⟩ :=
        (parse_iff i16_around).mp parsed
      obtain ⟨before, after, split, blanks⟩ :=
        (trim_eq_iff (numeral.ne_nil nonempty) (isWhitespace_of_isNumeral numeral all)).mp rfl
      refine ⟨n, before, _, after, ⟨?_, blanks, ⟨positive, digits, numeral, nonempty, all, value⟩,
        range⟩, rfl⟩
      rw [← split]
      exact fromUtf8_eq_some.mp valid
    · rintro ⟨n, before, src, after, asks, rfl⟩
      obtain ⟨positive, digits, numeral, nonempty, all, value⟩ := asks.numeral
      have same : text = before ++ src ++ after :=
        Option.some.inj (valid.symm.trans (fromUtf8_eq_some.mpr asks.encoded))
      have trimmed : trim isWhitespace text = src :=
        (trim_eq_iff (numeral.ne_nil nonempty) (isWhitespace_of_isNumeral numeral all)).mpr
          ⟨before, after, same, asks.blanks⟩
      refine ⟨n, ?_, rfl⟩
      rw [trimmed]
      exact (parse_iff i16_around).mpr ⟨positive, digits, numeral, nonempty, all, value, asks.range⟩

/-- A number is asked for by its own text. -/
theorem requestedAngle_print {n : Int} (range : -32768 ≤ n ∧ n ≤ 32767) {payload : List UInt8}
    (encoded : payload.toByteArray = (print n).utf8Encode) :
    requestedAngle payload = some (Angle.clamp n) := by
  have numeral := isNumeral_print n
  have all : ∀ c ∈ Nat.toDigits 10 n.natAbs, c.isDigit :=
    fun c member => Nat.isDigit_of_mem_toDigits (by decide) (by decide) member
  have trimmed : trim isWhitespace (print n) = print n :=
    (trim_eq_iff (numeral.ne_nil Nat.toDigits_ne_nil) (isWhitespace_of_isNumeral numeral all)).mpr
      ⟨[], [], by simp, by simp, by simp⟩
  rw [requestedAngle, messageText, fromUtf8_eq_some.mpr encoded, Option.getD_some, trimmed,
    parse_print i16_around range, Option.map_some]

end HaviliarIot
