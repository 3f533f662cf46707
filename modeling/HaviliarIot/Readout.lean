import HaviliarIot.FixedText
import HaviliarIot.Measurements
import HaviliarIot.Numeral

/-!
The texts `bin/lora_response_time.rs` puts on its display.

Every number is formatted into a string of fixed capacity: a `u32` into 10 bytes, with
an `unwrap()` on the result, and the RSSI into 16, with a text of its own for the case
that it does not fit.  10 bytes are what the largest `u32` takes, so nothing panics
(`counterText_eq`), and the other case never arises (`rssiText_eq`).

So a reader of the display learns what was measured: the numerals on it are read back as
the confirmed measurement of `shown_of_run` (`legible_of_run`).
-/

namespace HaviliarIot

open Runs Numeral

/-! ## hal/display.rs -/

/-- A text, and where it is drawn. -/
structure Drawing where
  message : List Char
  x : Int
  y : Int
  deriving DecidableEq

namespace Display

/-- `Display::text_no_clear`. -/
def textNoClear (message : List Char) (x y : Int) : Drawing := ⟨message, x, y⟩

/-- `Display::text_new_line`. -/
def textNewLine (message : List Char) (line : UInt8) : Drawing :=
  textNoClear message 0 (10 * line.toNat)

/-- What is drawn on a line: lines start at the left border, every 10 pixels. -/
def onLine (drawn : Option (List Drawing)) (line : Nat) : List (List Char) :=
  ((drawn.getD []).filter fun drawing => drawing.x = 0 ∧ drawing.y = 10 * (line : Int)).map
    Drawing.message

end Display

/-! ## The numbers -/

/-- `write!(&mut heapless::String::<10>::new(), "{}", value).unwrap()`; `none` is the
panic. -/
def counterText (value : UInt32) : Option (FixedText 10) :=
  let (text, ok) := FixedText.empty.write (pieces value.toNat)
  if ok then some text else none

def rssiLabel : List Char := "RSSI: ".toList

/-- `write!(&mut rssi_str, "RSSI: {}", rssi_value)`, or `"RSSI: ERR"` if that fails. -/
def rssiText (value : Int16) : FixedText 16 :=
  let (text, ok) := FixedText.empty.write (rssiLabel :: pieces value.toInt)
  if ok then text
  else (FixedText.empty.pushStr "RSSI: ERR".toList).getD .empty

theorem utf8Len_print (n : Int) : String.utf8Len (print n) = (print n).length :=
  utf8Len_ascii ascii_print

/-- A counter fits exactly. -/
theorem counterText_eq (value : UInt32) :
    ∃ text, counterText value = some text ∧ text.text = print value.toNat := by
  have size : String.utf8Len ([] ++ (pieces value.toNat).flatten) ≤ 10 := by
    rw [List.nil_append, flatten_pieces, utf8Len_print]
    have digits := length_print_le (k := 10) (n := value.toNat) (by decide)
      (Nat.lt_trans value.toNat_lt (by decide))
    simpa using digits
  refine ⟨⟨_, size⟩, ?_, ?_⟩
  · rw [counterText, FixedText.write_eq .empty size]
    rfl
  · exact flatten_pieces _

/-- The RSSI fits, whatever it is, so `"RSSI: ERR"` is never shown. -/
theorem rssiText_eq (value : Int16) : (rssiText value).text = rssiLabel ++ print value.toInt := by
  have size : String.utf8Len ([] ++ (rssiLabel :: pieces value.toInt).flatten) ≤ 16 := by
    have label : String.utf8Len rssiLabel = 6 := by decide
    rw [List.nil_append, List.flatten_cons, flatten_pieces, String.utf8Len_append, utf8Len_print,
      label]
    have low := value.le_toInt
    have high := value.toInt_lt
    have digits := length_print_le (k := 5) (n := value.toInt) (by decide) (by omega)
    split at digits <;> omega
  rw [rssiText, FixedText.write_eq .empty size]
  simp [FixedText.empty, flatten_pieces]

/-! ## On the display -/

/-- What an event of the display loop draws, up to the next lock; `none` is a panic. -/
def DisplayEvent.draws : DisplayEvent → Option (List Drawing)
  | cleared ok => some (if ok then [Display.textNewLine "Last Response at: ".toList 1] else [])
  | elapsedShown value => do
    let text ← counterText value
    some [Display.textNewLine text.text 2, Display.textNewLine "Package Lost Counter: ".toList 4]
  | lostShown value => do
    let text ← counterText value
    some [Display.textNewLine text.text 5]
  | rssiShown value => some [Display.textNewLine (rssiText value).text 6]
  | slept => some []

/-- The number a `u32` text stands for. -/
def readCounter (text : List Char) : Option Nat := (parse 0 4294967295 text).map Int.toNat

/-- The number after the label. -/
def readRssi (text : List Char) : Option Int := parse (-32768) 32767 (text.drop rssiLabel.length)

theorem readCounter_print (value : UInt32) : readCounter (print value.toNat) = some value.toNat := by
  have bound := value.toNat_lt
  rw [readCounter, parse_print (by decide) (by omega)]
  rfl

theorem readRssi_print (value : Int16) :
    readRssi (rssiLabel ++ print value.toInt) = some value.toInt := by
  have low := value.le_toInt
  have high := value.toInt_lt
  rw [readRssi, List.drop_left]
  exact parse_print (by decide) (by omega)

namespace ResponseTime

variable {cbor : Minicbor} {s' : ResponseTime} {tr : List ResponseLabel}

/-- What the display loop draws can be read, and what is read is confirmed. -/
structure Legible (cbor : Minicbor) (tr : List ResponseLabel) : Prop where
  /-- The loop never panics over a text. -/
  draws : ∀ event, .display event ∈ tr → event.draws.isSome
  /-- Line 2: the elapsed time of the last frame whose answer was confirmed. -/
  elapsed : ∀ before value after, tr = before ++ .display (.elapsedShown value) :: after →
    ∃ text, Display.onLine (DisplayEvent.elapsedShown value).draws 2 = [text] ∧ readCounter text =
      some (Journal.lastElapsed (Journal.successions (journal cbor before).answered)).toNat
  /-- Line 5: the number of losses whose report was confirmed. -/
  lost : ∀ before value after, tr = before ++ .display (.lostShown value) :: after →
    ∃ text, Display.onLine (DisplayEvent.lostShown value).draws 5 = [text] ∧
      readCounter text = some (min 4294967295 (journal cbor before).reported)
  /-- Line 6: the RSSI of that frame. -/
  rssi : ∀ before value after, tr = before ++ .display (.rssiShown value) :: after →
    ∃ text, Display.onLine (DisplayEvent.rssiShown value).draws 6 = [text] ∧ readRssi text =
      some (((journal cbor before).answered.getLast?.map fun answer : Answer => answer.rssi).getD 0).toInt

theorem draws_isSome (event : DisplayEvent) : event.draws.isSome := by
  cases event with
  | cleared | rssiShown | slept => rfl
  | elapsedShown value | lostShown value =>
    obtain ⟨text, shown, -⟩ := counterText_eq value
    simp [DisplayEvent.draws, shown]

/-- **What the display shows can be read back**, and is what was confirmed, whatever the
tasks do in between. -/
theorem legible_of_run (ran : run (step cbor) init tr = some s') : Legible cbor tr := by
  obtain ⟨rssi, elapsed, lost⟩ := shown_of_run ran
  refine ⟨fun event _ => draws_isSome event, ?_, ?_, ?_⟩
  · intro before value after split
    obtain ⟨text, shown, is⟩ := counterText_eq value
    refine ⟨text.text, ?_, ?_⟩
    · simp [Display.onLine, DisplayEvent.draws, shown, Display.textNewLine,
        Display.textNoClear]
    · rw [is, readCounter_print, elapsed before value after split]
  · intro before value after split
    obtain ⟨text, shown, is⟩ := counterText_eq value
    refine ⟨text.text, ?_, ?_⟩
    · simp [Display.onLine, DisplayEvent.draws, shown, Display.textNewLine,
        Display.textNoClear]
    · rw [is, readCounter_print, lost before value after split]
  · intro before value after split
    refine ⟨(rssiText value).text, ?_, ?_⟩
    · simp [Display.onLine, DisplayEvent.draws, Display.textNewLine, Display.textNoClear]
    · rw [rssiText_eq, readRssi_print, rssi before value after split]

theorem legible_of_answeredAndHeard : Legible .reference answeredAndHeard := by
  have runs : (run (step .reference) init answeredAndHeard).isSome := by decide
  obtain ⟨s, ran⟩ := Option.isSome_iff_exists.mp runs
  exact legible_of_run ran

end ResponseTime

end HaviliarIot
