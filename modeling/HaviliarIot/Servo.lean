import HaviliarIot.Checked

/-!
`hal/servo_motor.rs::ServoMotor::set_angle` and `duty_from_angle` of `teste.rs`:
the duty an angle stands for.

Both are written twice: over `u32` as the machine computes them, wrapping, and
with every operation checked.  The channel itself is the driver's, so
`ServoMotor.setAngle` is the duty `set_duty_cycle` is called with.
-/

namespace HaviliarIot

/-- `ServoMotor`, of which the angle only needs the resolution its channel
reported, a `u16`. -/
structure ServoMotor where
  maxDutyCycle : UInt32
  widened : maxDutyCycle.toNat < 65536

namespace ServoMotor

/-- `ServoMotor::new`: `channel.max_duty_cycle() as u32`. -/
def new (channelMax : UInt16) : ServoMotor where
  maxDutyCycle := channelMax.toUInt32
  widened := by
    rw [UInt16.toNat_toUInt32]
    exact channelMax.toNat_lt

variable (s : ServoMotor)

def minDuty : UInt32 := 25 * s.maxDutyCycle / 1000

def maxDuty : UInt32 := 125 * s.maxDutyCycle / 1000

def dutyGap : UInt32 := s.maxDuty - s.minDuty

/-- `ServoMotor::set_angle`, up to the call of `set_duty_cycle`. -/
def setAngle (deg : UInt32) : UInt16 := (s.minDuty + deg * s.dutyGap / 180).toUInt16

/-- `ServoMotor::open`. -/
def «open» : UInt16 := s.setAngle 135

/-- `ServoMotor::close`. -/
def close : UInt16 := s.setAngle 180

/-- `set_angle` with every operation checked. -/
def setAngleChecked (deg : UInt32) : Option UInt16 := do
  let minDuty ← Checked.div (← Checked.mul 25 s.maxDutyCycle) 1000
  let maxDuty ← Checked.div (← Checked.mul 125 s.maxDutyCycle) 1000
  let dutyGap ← Checked.sub maxDuty minDuty
  let duty ← Checked.add minDuty (← Checked.div (← Checked.mul deg dutyGap) 180)
  Checked.u16 duty.toNat

end ServoMotor

/-- `teste.rs::duty_from_angle`. -/
def dutyFromAngle (deg minDuty dutyGap : UInt32) : UInt16 :=
  (minDuty + deg * dutyGap / 180).toUInt16

/-- `duty_from_angle` with every operation checked. -/
def dutyFromAngleChecked (deg minDuty dutyGap : UInt32) : Option UInt16 := do
  let duty ← Checked.add minDuty (← Checked.div (← Checked.mul deg dutyGap) 180)
  Checked.u16 duty.toNat

/-- Up to 16 bits of bounds leave room for every angle, and the result is the
interpolation between them. -/
theorem dutyFromAngle_fits {deg minDuty dutyGap : UInt32} (within : deg.toNat ≤ 180)
    (narrow : minDuty.toNat + dutyGap.toNat < 65536) :
    dutyFromAngleChecked deg minDuty dutyGap = some (dutyFromAngle deg minDuty dutyGap) ∧
      (dutyFromAngle deg minDuty dutyGap).toNat =
        interpolate minDuty.toNat dutyGap.toNat 180 deg.toNat := by
  have product : deg.toNat * dutyGap.toNat < 4294967296 := by
    calc deg.toNat * dutyGap.toNat
        ≤ 180 * 65536 := Nat.mul_le_mul within (by omega)
      _ < 4294967296 := by omega
  obtain ⟨multiplied, productValue⟩ := Checked.mul_fits product
  obtain ⟨divided, stepValue⟩ := Checked.div_fits (a := deg * dutyGap) (b := 180) (by decide)
  have step : (deg * dutyGap / 180).toNat = deg.toNat * dutyGap.toNat / 180 := by
    rw [stepValue, productValue]
    rfl
  have top : interpolate minDuty.toNat dutyGap.toNat 180 deg.toNat < 65536 :=
    Nat.lt_of_le_of_lt (interpolate_le (by decide) within) narrow
  have total : minDuty.toNat + (deg * dutyGap / 180).toNat < 65536 := by
    rw [step]
    exact top
  obtain ⟨added, sumValue⟩ := Checked.add_fits (Nat.lt_trans total (by decide))
  have value : (minDuty + deg * dutyGap / 180).toNat =
      interpolate minDuty.toNat dutyGap.toNat 180 deg.toNat := by
    rw [sumValue, step]
    rfl
  obtain ⟨cast, castValue⟩ := Checked.u16_fits (value ▸ top)
  constructor
  · rw [dutyFromAngleChecked, multiplied, Option.bind_eq_bind, Option.bind_some, divided]
    simp only [Option.bind_some, added]
    exact cast
  · exact castValue.trans value

namespace ServoMotor

variable (s : ServoMotor)

theorem minDuty_toNat : s.minDuty.toNat = 25 * s.maxDutyCycle.toNat / 1000 := by
  have narrow := s.widened
  obtain ⟨-, product⟩ := Checked.mul_fits (a := 25) (b := s.maxDutyCycle) (by
    simp only [UInt32.reduceToNat]
    omega)
  rw [minDuty, UInt32.toNat_div, product]
  rfl

theorem maxDuty_toNat : s.maxDuty.toNat = 125 * s.maxDutyCycle.toNat / 1000 := by
  have narrow := s.widened
  obtain ⟨-, product⟩ := Checked.mul_fits (a := 125) (b := s.maxDutyCycle) (by
    simp only [UInt32.reduceToNat]
    omega)
  rw [maxDuty, UInt32.toNat_div, product]
  rfl

theorem minDuty_le_maxDuty : s.minDuty.toNat ≤ s.maxDuty.toNat := by
  rw [minDuty_toNat, maxDuty_toNat]
  omega

theorem maxDuty_le : s.maxDuty.toNat ≤ s.maxDutyCycle.toNat := by
  rw [maxDuty_toNat]
  omega

theorem dutyGap_toNat : s.dutyGap.toNat = s.maxDuty.toNat - s.minDuty.toNat :=
  (Checked.sub_fits s.minDuty_le_maxDuty).2

/-- `set_angle` is `duty_from_angle` between the motor's own bounds. -/
theorem setAngle_eq (deg : UInt32) : s.setAngle deg = dutyFromAngle deg s.minDuty s.dutyGap := rfl

theorem setAngleChecked_eq (deg : UInt32) :
    s.setAngleChecked deg = dutyFromAngleChecked deg s.minDuty s.dutyGap := by
  have narrow := s.widened
  obtain ⟨low, -⟩ := Checked.mul_fits (a := 25) (b := s.maxDutyCycle) (by
    simp only [UInt32.reduceToNat]
    omega)
  obtain ⟨high, -⟩ := Checked.mul_fits (a := 125) (b := s.maxDutyCycle) (by
    simp only [UInt32.reduceToNat]
    omega)
  obtain ⟨minDuty, -⟩ := Checked.div_fits (a := 25 * s.maxDutyCycle) (b := 1000) (by decide)
  obtain ⟨maxDuty, -⟩ := Checked.div_fits (a := 125 * s.maxDutyCycle) (b := 1000) (by decide)
  have gap : Checked.sub (125 * s.maxDutyCycle / 1000) (25 * s.maxDutyCycle / 1000) =
      some s.dutyGap := (Checked.sub_fits s.minDuty_le_maxDuty).1
  simp only [setAngleChecked, low, high, minDuty, maxDuty, gap, Option.bind_eq_bind,
    Option.bind_some]
  rfl

/-- The duty is the interpolation between the two bounds, and no step of the
computation goes wrong. -/
theorem setAngle_fits {deg : UInt32} (within : deg.toNat ≤ 180) :
    s.setAngleChecked deg = some (s.setAngle deg) ∧
      (s.setAngle deg).toNat = interpolate s.minDuty.toNat s.dutyGap.toNat 180 deg.toNat := by
  rw [setAngleChecked_eq, setAngle_eq]
  refine dutyFromAngle_fits within ?_
  have narrow := s.widened
  have ordered := s.minDuty_le_maxDuty
  have top := s.maxDuty_le
  rw [dutyGap_toNat]
  omega

theorem minDuty_add_dutyGap : s.minDuty.toNat + s.dutyGap.toNat = s.maxDuty.toNat := by
  have ordered := s.minDuty_le_maxDuty
  rw [dutyGap_toNat]
  omega

theorem setAngle_mono {a b : UInt32} (ordered : a.toNat ≤ b.toNat) (within : b.toNat ≤ 180) :
    (s.setAngle a).toNat ≤ (s.setAngle b).toNat := by
  rw [(s.setAngle_fits (Nat.le_trans ordered within)).2, (s.setAngle_fits within).2]
  exact interpolate_mono ordered

theorem minDuty_le_setAngle {deg : UInt32} (within : deg.toNat ≤ 180) :
    s.minDuty.toNat ≤ (s.setAngle deg).toNat := by
  rw [(s.setAngle_fits within).2]
  exact le_interpolate

theorem setAngle_le_maxDuty {deg : UInt32} (within : deg.toNat ≤ 180) :
    (s.setAngle deg).toNat ≤ s.maxDuty.toNat := by
  rw [(s.setAngle_fits within).2, ← minDuty_add_dutyGap]
  exact interpolate_le (by decide) within

theorem setAngle_zero : (s.setAngle 0).toNat = s.minDuty.toNat := by
  rw [(s.setAngle_fits (by decide)).2]
  exact interpolate_zero

theorem setAngle_full : (s.setAngle 180).toNat = s.maxDuty.toNat := by
  rw [(s.setAngle_fits (by decide)).2, ← minDuty_add_dutyGap]
  exact interpolate_full (by decide)

/-- **Angle to duty.**  For every resolution a channel can report and angles up
to 180 degrees: nothing overflows and the cast loses nothing, the duty stays
between its bounds, grows with the angle and reaches both ends, and the other
program computes the same. -/
theorem angle_to_duty (channelMax : UInt16) {a b : UInt32} (ordered : a ≤ b) (within : b ≤ 180) :
    (new channelMax).setAngleChecked a = some ((new channelMax).setAngle a) ∧
      (new channelMax).setAngleChecked b = some ((new channelMax).setAngle b) ∧
      (new channelMax).minDuty.toNat ≤ ((new channelMax).setAngle a).toNat ∧
      ((new channelMax).setAngle a).toNat ≤ ((new channelMax).setAngle b).toNat ∧
      ((new channelMax).setAngle b).toNat ≤ (new channelMax).maxDuty.toNat ∧
      (new channelMax).maxDuty.toNat ≤ channelMax.toNat ∧
      ((new channelMax).setAngle 0).toNat = (new channelMax).minDuty.toNat ∧
      ((new channelMax).setAngle 180).toNat = (new channelMax).maxDuty.toNat ∧
      dutyFromAngleChecked a (new channelMax).minDuty (new channelMax).dutyGap =
        some ((new channelMax).setAngle a) ∧
      dutyFromAngle a (new channelMax).minDuty (new channelMax).dutyGap =
        (new channelMax).setAngle a := by
  have orderedNat : a.toNat ≤ b.toNat := UInt32.le_iff_toNat_le.mp ordered
  have withinNat : b.toNat ≤ 180 := UInt32.le_iff_toNat_le.mp within
  have fits := ((new channelMax).setAngle_fits (Nat.le_trans orderedNat withinNat)).1
  have fits' := ((new channelMax).setAngle_fits withinNat).1
  have resolution : (new channelMax).maxDutyCycle.toNat = channelMax.toNat :=
    UInt16.toNat_toUInt32 channelMax
  refine ⟨fits, fits', minDuty_le_setAngle _ (Nat.le_trans orderedNat withinNat),
    setAngle_mono _ orderedNat withinNat, setAngle_le_maxDuty _ withinNat, ?_,
    setAngle_zero _, setAngle_full _, ?_, rfl⟩
  · rw [← resolution]
    exact maxDuty_le _
  · rw [← setAngleChecked_eq]
    exact fits

theorem angle_to_duty_open_close :
    (135 : UInt32) ≤ 180 ∧ (180 : UInt32) ≤ 180 ∧
      (new 4096).open.toNat ≤ (new 4096).close.toNat ∧
      (new 4096).close.toNat ≤ (new 4096).maxDuty.toNat := by
  obtain ⟨-, -, -, ordered, top, -⟩ :=
    angle_to_duty 4096 (a := 135) (b := 180) (by decide) (by decide)
  exact ⟨by decide, by decide, ordered, top⟩

end ServoMotor

end HaviliarIot
