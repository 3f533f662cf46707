import Mathlib.Data.List.Basic
import Mathlib.Data.Nat.Basic

/-!
Operations that can go wrong, in a form that says so: `none` is an overflow, an
underflow, a division by zero, a cast that loses bits or a slice out of range.

Each has one lemma, from the fact that keeps it in range to the machine
operation and its exact value.  A computation written with them yields `some`
exactly when none of its steps goes wrong; the machine's own operations, which
wrap, then agree with it.  The second part is linear interpolation in truncating
division, in the natural numbers.
-/

namespace HaviliarIot.Checked

/-! ## Machine words -/

def add (a b : UInt32) : Option UInt32 :=
  if a.toNat + b.toNat < 4294967296 then some (a + b) else none

def sub (a b : UInt32) : Option UInt32 :=
  if b.toNat ≤ a.toNat then some (a - b) else none

def mul (a b : UInt32) : Option UInt32 :=
  if a.toNat * b.toNat < 4294967296 then some (a * b) else none

def div (a b : UInt32) : Option UInt32 :=
  if b.toNat = 0 then none else some (a / b)

/-- The cast to 16 bits. -/
def u16 (n : Nat) : Option UInt16 :=
  if n < 65536 then some (UInt16.ofNat n) else none

variable {a b : UInt32}

theorem add_fits (fits : a.toNat + b.toNat < 4294967296) :
    add a b = some (a + b) ∧ (a + b).toNat = a.toNat + b.toNat := by
  refine ⟨if_pos fits, ?_⟩
  rw [UInt32.toNat_add]
  exact Nat.mod_eq_of_lt fits

theorem sub_fits (fits : b.toNat ≤ a.toNat) :
    sub a b = some (a - b) ∧ (a - b).toNat = a.toNat - b.toNat :=
  ⟨if_pos fits, UInt32.toNat_sub_of_le a b (UInt32.le_iff_toNat_le.mpr fits)⟩

theorem mul_fits (fits : a.toNat * b.toNat < 4294967296) :
    mul a b = some (a * b) ∧ (a * b).toNat = a.toNat * b.toNat := by
  refine ⟨if_pos fits, ?_⟩
  rw [UInt32.toNat_mul]
  exact Nat.mod_eq_of_lt fits

theorem div_fits (nonzero : b.toNat ≠ 0) :
    div a b = some (a / b) ∧ (a / b).toNat = a.toNat / b.toNat :=
  ⟨if_neg nonzero, UInt32.toNat_div a b⟩

theorem u16_fits {n : Nat} (fits : n < 65536) :
    u16 n = some (UInt16.ofNat n) ∧ (UInt16.ofNat n).toNat = n := by
  refine ⟨if_pos fits, ?_⟩
  rw [UInt16.toNat_ofNat']
  exact Nat.mod_eq_of_lt fits

/-! ## Slices -/

variable {α : Type}

/-- `&xs[start..]`. -/
def sliceFrom (start : Nat) (xs : List α) : Option (List α) :=
  if start ≤ xs.length then some (xs.drop start) else none

/-- `xs[start..stop].copy_from_slice(source)`. -/
def copyInto (start stop : Nat) (source xs : List α) : Option (List α) :=
  if start ≤ stop ∧ stop ≤ xs.length ∧ source.length = stop - start then
    some (xs.take start ++ source ++ xs.drop stop)
  else none

theorem sliceFrom_fits {start : Nat} {xs : List α} (fits : start ≤ xs.length) :
    sliceFrom start xs = some (xs.drop start) := if_pos fits

/-- A slice at the front, replaced by one of its length. -/
theorem copyInto_front {stop : Nat} {source front back : List α} (length : front.length = stop)
    (same : source.length = stop) :
    copyInto 0 stop source (front ++ back) = some (source ++ back) := by
  subst length
  have room : front.length ≤ (front ++ back).length := by
    rw [List.length_append]
    exact Nat.le_add_right _ _
  rw [copyInto, if_pos ⟨Nat.zero_le _, room, same⟩, List.take_zero, List.nil_append,
    List.drop_left]

end HaviliarIot.Checked

/-! ## Interpolation -/

namespace HaviliarIot

/-- The point `at_` of `steps` on the way from `low` to `low + gap`, rounded down. -/
def interpolate (low gap steps at_ : Nat) : Nat := low + at_ * gap / steps

variable {low gap steps a b : Nat}

theorem interpolate_zero : interpolate low gap steps 0 = low := by
  rw [interpolate, Nat.zero_mul, Nat.zero_div, Nat.add_zero]

theorem interpolate_full (positive : 0 < steps) :
    interpolate low gap steps steps = low + gap := by
  rw [interpolate, Nat.mul_div_cancel_left gap positive]

theorem interpolate_mono (ordered : a ≤ b) :
    interpolate low gap steps a ≤ interpolate low gap steps b :=
  Nat.add_le_add_left (Nat.div_le_div_right (Nat.mul_le_mul_right gap ordered)) low

theorem le_interpolate : low ≤ interpolate low gap steps a := Nat.le_add_right _ _

theorem interpolate_le (positive : 0 < steps) (within : a ≤ steps) :
    interpolate low gap steps a ≤ low + gap := by
  calc interpolate low gap steps a
      ≤ interpolate low gap steps steps := interpolate_mono within
    _ = low + gap := interpolate_full positive

end HaviliarIot
