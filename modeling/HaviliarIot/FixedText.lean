import Mathlib.Data.String.Basic

/-!
Text in a buffer of a fixed number of bytes.

A formatted write hands its pieces to the buffer one after another and stops at the
first that does not fit; what was written before it stays.  So a write that fits goes
through, however it is cut into pieces, and the buffer holds all of it (`write_eq`).
-/

namespace HaviliarIot

open String (utf8Len)

/-- One byte for each character of ASCII. -/
theorem utf8Len_ascii {text : List Char} (ascii : ∀ c ∈ text, c.val ≤ 127) :
    utf8Len text = text.length := by
  induction text with
  | nil => rfl
  | cons c rest ih =>
    obtain ⟨first, others⟩ := List.forall_mem_cons.mp ascii
    rw [String.utf8Len_cons, Char.utf8Size_eq_one_iff.mpr first, ih others, List.length_cons]

/-- A text that fits the buffer. -/
structure FixedText (capacity : Nat) where
  text : List Char
  fits : utf8Len text ≤ capacity
  deriving DecidableEq

namespace FixedText

variable {capacity : Nat} {pieces : List (List Char)}

def empty : FixedText capacity := ⟨[], Nat.zero_le _⟩

/-- All of the piece, or nothing. -/
def pushStr (t : FixedText capacity) (piece : List Char) : Option (FixedText capacity) :=
  if room : utf8Len (t.text ++ piece) ≤ capacity then some ⟨t.text ++ piece, room⟩ else none

/-- Piece by piece; the flag says whether all of them fitted. -/
def write (t : FixedText capacity) : List (List Char) → FixedText capacity × Bool
  | [] => (t, true)
  | piece :: rest =>
    match t.pushStr piece with
    | some longer => longer.write rest
    | none => (t, false)

/-- The pieces of a text that fits are all written. -/
theorem write_eq (t : FixedText capacity) (room : utf8Len (t.text ++ pieces.flatten) ≤ capacity) :
    t.write pieces = (⟨t.text ++ pieces.flatten, room⟩, true) := by
  induction pieces generalizing t with
  | nil => simp [write]
  | cons piece rest ih =>
    have here : utf8Len (t.text ++ piece) ≤ capacity := by
      rw [List.flatten_cons, ← List.append_assoc, String.utf8Len_append] at room
      omega
    simp only [List.flatten_cons, ← List.append_assoc] at room ⊢
    rw [write, pushStr, dif_pos here]
    exact ih ⟨t.text ++ piece, here⟩ room

end FixedText

end HaviliarIot
