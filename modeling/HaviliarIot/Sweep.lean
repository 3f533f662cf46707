import HaviliarIot.Runs
import HaviliarIot.Servo
import Mathlib.Data.List.Chain
import Mathlib.Data.List.Range

/-!
The main loop of `bin/teste.rs`: the servo is swept to one side and back, for ever.

Both `for` loops go over every degree, so both ends are set twice in a row, before and
after a pause.  The duties of a run are a triangle wave of 362 calls (`angle`), and so
the servo is never given a duty its channel cannot hold and is never made to jump: from
one call to the next the duty changes by a degree's worth (`swept_of_run`).
-/

namespace HaviliarIot

open Runs

/-- A step takes its share of the range, and one more at most. -/
theorem interpolate_succ_le (low gap steps at_ : Nat) (positive : 0 < steps) :
    interpolate low gap steps (at_ + 1) ≤ interpolate low gap steps at_ + (gap / steps + 1) := by
  have split : (at_ * gap + gap) / steps ≤ at_ * gap / steps + gap / steps + 1 := by
    rw [Nat.add_div positive]
    split <;> omega
  rw [interpolate, interpolate, Nat.succ_mul]
  omega

/-! ## The loop -/

/-- Where the loop of `main` stands. -/
inductive SweepPc where
  /-- Before a body of `for deg in 0..=180`. -/
  | up (deg : UInt32)
  /-- In `delay.delay_millis(500)` after it. -/
  | top
  /-- Before a body of `for deg in (0..=180).rev()`. -/
  | down (deg : UInt32)
  | bottom
  deriving DecidableEq

inductive SweepEvent where
  /-- `channel0.set_duty_cycle(duty)`, and the delay after it. -/
  | set (duty : UInt16)
  | delayed
  deriving DecidableEq

/-- One event.  `main` computes the bounds once, as `ServoMotor` does for each angle. -/
def SweepPc.step (servo : ServoMotor) (pc : SweepPc) (event : SweepEvent) : Option SweepPc :=
  match pc, event with
  | .up deg, .set duty =>
    if duty = dutyFromAngle deg servo.minDuty servo.dutyGap then
      some (if deg = 180 then .top else .up (deg + 1))
    else none
  | .top, .delayed => some (.down 180)
  | .down deg, .set duty =>
    if duty = dutyFromAngle deg servo.minDuty servo.dutyGap then
      some (if deg = 0 then .bottom else .down (deg - 1))
    else none
  | .bottom, .delayed => some (.up 0)
  | _, _ => none

namespace Sweep

variable {servo : ServoMotor} {pc pc' : SweepPc} {event : SweepEvent} {tr : List SweepEvent}

/-- The duty an event sets. -/
def duty : SweepEvent → List UInt16
  | .set duty => [duty]
  | .delayed => []

def duties (tr : List SweepEvent) : List UInt16 := tr.flatMap duty

/-- The angle of a call, counted from zero: up to 180 degrees and back, ends included. -/
def angle (k : Nat) : Nat := if k % 362 ≤ 180 then k % 362 else 361 - k % 362

theorem angle_le (k : Nat) : angle k ≤ 180 := by
  unfold angle
  split <;> omega

/-- From one call to the next it is a degree at most, at the turns as well. -/
theorem angle_succ (k : Nat) : angle (k + 1) ≤ angle k + 1 ∧ angle k ≤ angle (k + 1) + 1 := by
  unfold angle
  split <;> split <;> omega

/-- Where the loop stands after so many calls. -/
inductive Stands (k : Nat) : SweepPc → Prop where
  | up {deg : UInt32} : deg.toNat = k % 362 → k % 362 ≤ 180 → Stands k (.up deg)
  | top : k % 362 = 181 → Stands k .top
  | down {deg : UInt32} : deg.toNat = 361 - k % 362 → 181 ≤ k % 362 → Stands k (.down deg)
  | bottom : k % 362 = 0 → Stands k .bottom

/-- What one event does: a pause, or the call whose turn it is. -/
theorem stands_step {k : Nat} (stands : Stands k pc) (taken : pc.step servo event = some pc') :
    (event = .delayed ∧ Stands k pc') ∨
      (event = .set (servo.setAngle (UInt32.ofNat (angle k))) ∧ Stands (k + 1) pc') := by
  cases stands with
  | @up deg position low =>
    cases event with
    | delayed => cases taken
    | set duty =>
      obtain ⟨rfl, next⟩ := Option.ite_none_right_eq_some.mp taken
      have here : UInt32.ofNat (angle k) = deg := by
        rw [angle, if_pos low, ← position, UInt32.ofNat_toNat]
      refine .inr ⟨by rw [here, ServoMotor.setAngle_eq], ?_⟩
      cases next
      split
      · rename_i last
        subst last
        exact .top (by simp at position; omega)
      · rename_i more
        have notLast : deg.toNat ≠ 180 := fun same => more (UInt32.toNat_inj.mp same)
        refine .up ?_ (by omega)
        rw [UInt32.toNat_add]
        simp
        omega
  | top at_ =>
    cases event with
    | set => cases taken
    | delayed =>
      cases taken
      exact .inl ⟨rfl, .down (by simp; omega) (by omega)⟩
  | @down deg position high =>
    cases event with
    | delayed => cases taken
    | set duty =>
      obtain ⟨rfl, next⟩ := Option.ite_none_right_eq_some.mp taken
      have here : UInt32.ofNat (angle k) = deg := by
        rw [angle, if_neg (by omega), ← position, UInt32.ofNat_toNat]
      refine .inr ⟨by rw [here, ServoMotor.setAngle_eq], ?_⟩
      cases next
      split
      · rename_i last
        subst last
        exact .bottom (by simp at position; omega)
      · rename_i more
        have notLast : deg.toNat ≠ 0 := fun same => more (UInt32.toNat_inj.mp same)
        refine .down ?_ (by omega)
        rw [UInt32.toNat_sub_of_le _ _ (by rw [UInt32.le_iff_toNat_le]; simp; omega)]
        simp
        omega
  | bottom at_ =>
    cases event with
    | set => cases taken
    | delayed =>
      cases taken
      exact .inl ⟨rfl, .up (by simp; omega) (by omega)⟩

theorem stands_of_run (ran : run (SweepPc.step servo) (.up 0) tr = some pc) :
    Stands (duties tr).length pc ∧ duties tr =
      (List.range (duties tr).length).map fun k => servo.setAngle (UInt32.ofNat (angle k)) := by
  refine run_induction (P := fun tr pc => Stands (duties tr).length pc ∧ duties tr =
    (List.range (duties tr).length).map fun k => servo.setAngle (UInt32.ofNat (angle k)))
    ⟨.up rfl (by decide), rfl⟩ ?_ ran
  intro tr pc event pc' _ ⟨stands, wave⟩ taken
  have split : duties (tr ++ [event]) = duties tr ++ duty event := by simp [duties]
  rcases stands_step stands taken with ⟨rfl, stands⟩ | ⟨rfl, stands⟩
  · rw [split, duty, List.append_nil]
    exact ⟨stands, wave⟩
  · simp only [split, duty, List.length_append, List.length_singleton, List.range_succ,
      List.map_append, List.map_cons, List.map_nil, ← wave]
    exact ⟨stands, trivial⟩

/-- What a sweep does to the servo. -/
structure Swept (servo : ServoMotor) (tr : List SweepEvent) : Prop where
  /-- The duties are a triangle wave over the angles. -/
  wave : duties tr =
    (List.range (duties tr).length).map fun k => servo.setAngle (UInt32.ofNat (angle k))
  /-- No step of their computation goes wrong. -/
  checked : ∀ k, dutyFromAngleChecked (UInt32.ofNat (angle k)) servo.minDuty servo.dutyGap =
    some (servo.setAngle (UInt32.ofNat (angle k)))
  /-- The channel can hold each of them. -/
  within : ∀ duty ∈ duties tr, servo.minDuty.toNat ≤ duty.toNat ∧
    duty.toNat ≤ servo.maxDuty.toNat ∧ duty.toNat ≤ servo.maxDutyCycle.toNat
  /-- The servo never jumps. -/
  smooth : (duties tr).IsChain fun a b =>
    b.toNat ≤ a.toNat + (servo.dutyGap.toNat / 180 + 1) ∧
      a.toNat ≤ b.toNat + (servo.dutyGap.toNat / 180 + 1)

/-- The number of a call as an angle the motor takes. -/
theorem angle_toNat (k : Nat) : (UInt32.ofNat (angle k)).toNat = angle k :=
  UInt32.toNat_ofNat_of_lt' (Nat.lt_of_le_of_lt (angle_le k) (by decide))

/-- Angles a degree apart are not far apart in duty. -/
theorem setAngle_near {a b : Nat} (near : angle a ≤ angle b + 1) :
    (servo.setAngle (UInt32.ofNat (angle a))).toNat ≤
      (servo.setAngle (UInt32.ofNat (angle b))).toNat + (servo.dutyGap.toNat / 180 + 1) := by
  have value (k : Nat) : (servo.setAngle (UInt32.ofNat (angle k))).toNat =
      interpolate servo.minDuty.toNat servo.dutyGap.toNat 180 (angle k) := by
    rw [(servo.setAngle_fits (by rw [angle_toNat]; exact angle_le k)).2, angle_toNat]
  rw [value, value]
  exact Nat.le_trans (interpolate_mono near) (interpolate_succ_le _ _ _ _ (by decide))

/-- **The sweep of `teste` is smooth and stays in range**, however long it runs and whatever
the resolution of the channel. -/
theorem swept_of_run (ran : run (SweepPc.step servo) (.up 0) tr = some pc) : Swept servo tr := by
  obtain ⟨-, wave⟩ := stands_of_run ran
  have inRange (k : Nat) : (UInt32.ofNat (angle k)).toNat ≤ 180 := by
    rw [angle_toNat]
    exact angle_le k
  refine ⟨wave, ?_, ?_, ?_⟩
  · intro k
    rw [← ServoMotor.setAngleChecked_eq]
    exact (servo.setAngle_fits (inRange k)).1
  · intro duty member
    rw [wave] at member
    obtain ⟨k, -, rfl⟩ := List.mem_map.mp member
    have top := servo.setAngle_le_maxDuty (inRange k)
    exact ⟨servo.minDuty_le_setAngle (inRange k), top, Nat.le_trans top servo.maxDuty_le⟩
  · rw [wave, List.isChain_map, List.isChain_range]
    intro k _
    obtain ⟨up, down⟩ := angle_succ k
    exact ⟨setAngle_near up, setAngle_near down⟩

/-- The first two degrees at the usual resolution. -/
theorem swept_of_twoDegrees :
    Swept (.new 4096) [.set 102, .set 104] := by
  have runs : (run (SweepPc.step (.new 4096)) (.up 0) [.set 102, .set 104]).isSome := by decide
  obtain ⟨pc, ran⟩ := Option.isSome_iff_exists.mp runs
  exact swept_of_run ran

end Sweep

end HaviliarIot
