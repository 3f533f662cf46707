import HaviliarIot.Angle
import HaviliarIot.Channel
import HaviliarIot.Servo

/-!
The gate of `bin/wifi.rs`: `watch_mqtt_messages` and `servo_task` over
`SERVO_CHANNEL`, interleaved by an arbitrary scheduler.

A message that asks for an angle is put on the channel if there is room, and each
angle taken off it opens the gate for three seconds.  The openings are the requests,
in order, less those that met a full channel (`gated_of_run`).

`servo_task` takes the angle and does not use it.  So what the motor is told is a
function of how many requests were taken, whatever they asked for.
-/

namespace HaviliarIot

open Runs

/-- `SERVO_CHANNEL`. -/
abbrev ServoChannel := Channel Angle 4

/-- `try_send`: what meets a full channel is dropped. -/
def ServoChannel.trySend (channel : ServoChannel) (angle : Angle) : ServoChannel :=
  (channel.send angle).getD channel

/-! ## watch_mqtt_messages -/

/-- Where the loop of `watch_mqtt_messages` stands. -/
inductive WatchPc where
  /-- In `mqtt_controller_mutex.lock()`. -/
  | lock
  | receive
  /-- In `Timer::after(Duration::from_secs(1))`. -/
  | sleep
  deriving DecidableEq

inductive WatchEvent where
  | locked
  /-- `receive_message()` returned. -/
  | received (message : Except ReasonCode (String × List UInt8))
  | slept

/-- One event of `watch_mqtt_messages`. -/
def WatchPc.step (pc : WatchPc) (event : WatchEvent) : Option WatchPc :=
  match pc, event with
  | .lock, .locked => some .receive
  | .receive, .received _ => some .sleep
  | .sleep, .slept => some .lock
  | _, _ => none

/-- The angle this event asks for. -/
def WatchEvent.requested : WatchEvent → List Angle
  | received (.ok (_, payload)) => (requestedAngle payload).toList
  | _ => []

/-! ## servo_task -/

/-- Where `servo_task` stands. -/
inductive ServoPc where
  /-- Before the first `servo.close()`. -/
  | start
  | poll
  /-- In `Timer::after(Duration::from_secs(3))`, the gate open. -/
  | hold
  /-- In `Timer::after(Duration::from_millis(10))`. -/
  | rest
  deriving DecidableEq

inductive ServoEvent where
  | started
  /-- `receiver.try_receive()`. -/
  | polled (angle : Option Angle)
  | held
  | rested
  deriving DecidableEq

/-- One event of `servo_task`. -/
def ServoPc.step (pc : ServoPc) (event : ServoEvent) : Option ServoPc :=
  match pc, event with
  | .start, .started => some .poll
  | .poll, .polled (some _) => some .hold
  | .poll, .polled none => some .rest
  | .hold, .held => some .rest
  | .rest, .rested => some .poll
  | _, _ => none

namespace ServoEvent

/-- The angle this event takes off the channel. -/
def taken : ServoEvent → List Angle
  | polled (some angle) => [angle]
  | _ => []

/-- What this event writes to the motor: `angle` is bound and not used. -/
def duties (motor : ServoMotor) : ServoEvent → List UInt16
  | started | held => [motor.close]
  | polled (some _) => [motor.open]
  | polled none | rested => []

end ServoEvent

/-- What a `servo_task` event does to the channel. -/
def ServoEvent.drain (channel : ServoChannel) : ServoEvent → Option ServoChannel
  | polled (some angle) => channel.take angle
  | polled none => if channel.queue = [] then some channel else none
  | _ => some channel

/-! ## The gate -/

structure Gate where
  watch : WatchPc
  servo : ServoPc
  channel : ServoChannel
  deriving DecidableEq

inductive GateLabel where
  | watch (event : WatchEvent)
  | servo (event : ServoEvent)

namespace GateLabel

/-- The angle this label asks for. -/
def requested : GateLabel → List Angle
  | watch event => event.requested
  | servo _ => []

/-- The angle this label takes off the channel. -/
def taken : GateLabel → List Angle
  | servo event => event.taken
  | watch _ => []

/-- What this label writes to the motor. -/
def duties (motor : ServoMotor) : GateLabel → List UInt16
  | servo event => event.duties motor
  | watch _ => []

end GateLabel

namespace Gate

def init : Gate := ⟨.lock, .start, .empty⟩

/-- One event of one task. -/
def step (s : Gate) : GateLabel → Option Gate
  | .watch event =>
    (s.watch.step event).map fun watch =>
      { s with watch, channel := event.requested.foldl ServoChannel.trySend s.channel }
  | .servo event =>
    (s.servo.step event).bind fun servo =>
      (event.drain s.channel).map fun channel => { s with servo, channel }

variable {motor : ServoMotor} {s s' : Gate} {l : GateLabel} {tr : List GateLabel}

/-- Nothing is asked for while the channel is full. -/
def Room (s : Gate) (l : GateLabel) : Prop := l.requested ≠ [] → ¬ s.channel.Full

instance (s : Gate) (l : GateLabel) : Decidable (Room s l) := inferInstanceAs (Decidable (_ → _))

/-- The closing `servo_task` owes: the first one, or that of an open gate. -/
def owed (motor : ServoMotor) (s : Gate) : List UInt16 :=
  match s.servo with
  | .start | .hold => [motor.close]
  | .poll | .rest => []

end Gate

/-! ## The channel -/

namespace ServoChannel

variable {channel : ServoChannel} {angle : Angle}

theorem queue_trySend (room : ¬ channel.Full) :
    (channel.trySend angle).queue = channel.queue ++ [angle] := by
  have short : channel.queue.length < 4 := Nat.lt_of_le_of_ne channel.bounded room
  simp [trySend, Channel.send, short]

theorem trySend_of_full (full : channel.Full) : channel.trySend angle = channel := by
  have none : ¬ channel.queue.length < 4 := Nat.not_lt.mpr (Nat.le_of_eq full.symm)
  simp [trySend, Channel.send, none]

end ServoChannel

/-- A message asks for one angle at most. -/
theorem WatchEvent.requested_cases (event : WatchEvent) :
    event.requested = [] ∨ ∃ angle, event.requested = [angle] := by
  cases event with
  | locked | slept => exact .inl rfl
  | received message =>
    cases message with
    | error code => exact .inl rfl
    | ok content =>
      cases asked : requestedAngle content.2 with
      | none => simp [requested, asked]
      | some angle => simp [requested, asked]

namespace Gate

variable {motor : ServoMotor} {s s' : Gate} {l : GateLabel} {tr : List GateLabel}

/-- What one step does to the channel. -/
theorem channel_cases (taken : step s l = some s') :
    l.taken ++ s'.channel.queue = s.channel.queue ++ l.requested ∧ Room s l ∨
      l.taken = [] ∧ s'.channel = s.channel ∧ s.channel.Full ∧ ∃ angle, l.requested = [angle] := by
  cases l with
  | watch event =>
    simp only [step, Option.map_eq_some_iff] at taken
    obtain ⟨watch, -, rfl⟩ := taken
    obtain nothing | ⟨angle, asked⟩ := event.requested_cases
    · left
      simp [GateLabel.taken, GateLabel.requested, Room, nothing]
    · by_cases full : s.channel.Full
      · right
        simp [GateLabel.taken, GateLabel.requested, asked, ServoChannel.trySend_of_full full, full]
      · left
        simp [GateLabel.taken, GateLabel.requested, asked, Room, ServoChannel.queue_trySend full, full]
  | servo event =>
    left
    simp only [step, Option.bind_eq_some_iff, Option.map_eq_some_iff] at taken
    obtain ⟨servo, -, channel, drained, rfl⟩ := taken
    refine ⟨?_, fun asked => absurd rfl asked⟩
    cases event with
    | polled angle =>
      cases angle with
      | some angle =>
        have head := Channel.take_eq_some.mp drained
        simp [GateLabel.taken, ServoEvent.taken, GateLabel.requested, head]
      | none =>
        simp only [ServoEvent.drain, Option.ite_none_right_eq_some, Option.some.injEq] at drained
        simp [GateLabel.taken, ServoEvent.taken, GateLabel.requested, drained.2]
    | started | held | rested =>
      cases drained
      simp [GateLabel.taken, ServoEvent.taken, GateLabel.requested]

theorem channel_step (taken : step s l = some s') :
    (l.taken ++ s'.channel.queue).Sublist (s.channel.queue ++ l.requested) := by
  obtain ⟨same, -⟩ | ⟨nothing, same, -, -⟩ := channel_cases taken
  · rw [same]
  · rw [nothing, same, List.nil_append]
    exact List.sublist_append_left _ _

/-- A step loses an angle exactly if it is asked for while the channel is full. -/
theorem channel_step_exact (taken : step s l = some s') :
    (l.taken ++ s'.channel.queue).length = (s.channel.queue ++ l.requested).length ↔ Room s l := by
  obtain ⟨same, room⟩ | ⟨nothing, same, full, angle, asked⟩ := channel_cases taken
  · simp [same, room]
  · simp [nothing, same, asked, Room, full]

/-- An angle taken is an opening and a closing, whatever the angle. -/
theorem duties_step (motor : ServoMotor) (taken : step s l = some s') :
    l.duties motor ++ s'.owed motor =
      s.owed motor ++ l.taken.flatMap fun _ => [motor.open, motor.close] := by
  cases l with
  | watch event =>
    simp only [step, Option.map_eq_some_iff] at taken
    obtain ⟨watch, -, rfl⟩ := taken
    simp [GateLabel.duties, GateLabel.taken, owed]
  | servo event =>
    simp only [step, Option.bind_eq_some_iff, Option.map_eq_some_iff] at taken
    obtain ⟨servo, stepped, channel, -, rfl⟩ := taken
    unfold ServoPc.step at stepped
    split at stepped <;> cases stepped <;>
      simp_all [GateLabel.duties, GateLabel.taken, ServoEvent.duties, ServoEvent.taken, owed]

/-- What the runs of the gate come to. -/
structure Gated (motor : ServoMotor) (tr : List GateLabel) (s : Gate) : Prop where
  /-- The angles taken, then those waiting, were asked for, in that order. -/
  served : (tr.flatMap GateLabel.taken ++ s.channel.queue).Sublist (tr.flatMap GateLabel.requested)
  /-- None is missing exactly if none was asked for while the channel was full. -/
  complete : Runs.Throughout step Room init tr ↔
    tr.flatMap GateLabel.taken ++ s.channel.queue = tr.flatMap GateLabel.requested
  /-- The motor is closed once, then opened and closed for each angle taken. -/
  strokes : tr.flatMap (GateLabel.duties motor) ++ s.owed motor =
    motor.close :: (List.replicate (tr.flatMap GateLabel.taken).length [motor.open, motor.close]).flatten

/-- **The gate opens for the requests there was room for, in order, and for nothing else**,
and is closed again after each before the next is looked at. -/
theorem gated_of_run (motor : ServoMotor) (ran : run step init tr = some s) : Gated motor tr s := by
  have served := run_flow (fun s : Gate => s.channel.queue) (fun _ taken => channel_step taken) ran
  refine ⟨served, ?_, ?_⟩
  · rw [run_flow_exact (fun s : Gate => s.channel.queue) (fun _ taken => channel_step taken)
      (fun _ taken => channel_step_exact taken) ran]
    constructor
    · intro same
      exact served.eq_of_length same
    · intro same
      rw [same]
      rfl
  · have strokes : tr.flatMap (GateLabel.duties motor) ++ s.owed motor = motor.close ::
        (tr.flatMap GateLabel.taken).flatMap fun _ => [motor.open, motor.close] := by
      refine run_induction (P := fun tr s => tr.flatMap (GateLabel.duties motor) ++ s.owed motor =
        motor.close :: (tr.flatMap GateLabel.taken).flatMap fun _ => [motor.open, motor.close])
        rfl ?_ ran
      intro tr s l s' _ before taken
      have here := duties_step motor taken
      simp only [List.flatMap_append, List.flatMap_cons, List.flatMap_nil, List.append_nil,
        List.append_assoc, here]
      rw [← List.append_assoc, before, List.cons_append]
    rw [strokes, List.flatMap_def, List.map_const']

/-- "90" arrives, and the gate opens for it. -/
theorem gated_of_ninety :
    ∃ tr s, run step init tr = some s ∧ Gated (ServoMotor.new 4096) tr s ∧
      tr.flatMap GateLabel.taken = [Angle.clamp 90] := by
  have ninety : requestedAngle [57, 48] = some (Angle.clamp 90) :=
    requestedAngle_print (by decide) (by decide)
  let tr : List GateLabel := [.servo .started, .watch .locked,
    .watch (.received (.ok ("esp32/open", [57, 48]))), .servo (.polled (some (Angle.clamp 90))),
    .servo .held]
  have asked : (WatchEvent.received (.ok ("esp32/open", [57, 48]))).requested =
      [Angle.clamp 90] := by
    rw [WatchEvent.requested, ninety]
    rfl
  have runs : ∃ s, run step init tr = some s := by
    simp only [tr, run, step, asked]
    exact ⟨_, rfl⟩
  obtain ⟨s, ran⟩ := runs
  exact ⟨tr, s, ran, gated_of_run _ ran, rfl⟩

end Gate

end HaviliarIot
