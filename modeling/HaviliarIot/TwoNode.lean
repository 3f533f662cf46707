import HaviliarIot.ForwardPath
import HaviliarIot.Medium

/-!
A gateway `a` and a device `b`, both running `task_lora_gateway`, with nothing
between them but the air.

The forward channel of `a` is fed by `task_mqtt_ingress`; that of `b` stays empty.
The result channels and the MQTT mutex are left to the scheduler, which may let
any task go on at any time.  A send the driver reports as failed puts nothing on
the air.
-/

namespace HaviliarIot

open Runs

/-- The bytes of one transmission. -/
abbrev Frame := List UInt8

/-- What this event puts on the air. -/
def GatewayEvent.aired : GatewayEvent → List Frame
  | sent envelope (.ok ()) => (GatewayEvent.sent envelope (.ok ())).handed.toList
  | resent pending (.ok ()) => (GatewayEvent.resent pending (.ok ())).handed.toList
  | _ => []

/-- What this event takes off the air. -/
def GatewayEvent.hear (medium : Medium Frame) (air : List Frame) :
    GatewayEvent → Option (List Frame)
  | received (.done (.ok (frame, _))) => medium.deliver air frame
  | _ => some air

structure TwoNode where
  ingress : IngressTask
  forward : ForwardToLoraChannel
  a : GatewayTask
  b : GatewayTask
  /-- The frames on the air from `b` to `a`. -/
  toA : List Frame
  /-- The frames on the air from `a` to `b`. -/
  toB : List Frame
  deriving DecidableEq

inductive NetLabel where
  | ingress (event : IngressEvent)
  | a (event : GatewayEvent)
  | b (event : GatewayEvent)
  | loseToA (place : Nat)
  | loseToB (place : Nat)
  deriving DecidableEq

namespace NetLabel

/-- The event of ingress this is. -/
def ofIngress : NetLabel → Option IngressEvent
  | ingress event => some event
  | _ => none

/-- The step of the gateway's forward path this is. -/
def onPath : NetLabel → Option PathLabel
  | ingress event => some (.ingress event)
  | a event => some (.gateway event)
  | _ => none

/-- The event of the gateway this is. -/
def ofA : NetLabel → Option GatewayEvent
  | a event => some event
  | _ => none

/-- The event of the device this is. -/
def ofB : NetLabel → Option GatewayEvent
  | b event => some event
  | _ => none

end NetLabel

/-- The events of ingress in a trace. -/
def ingressTrace (tr : List NetLabel) : List IngressEvent := tr.filterMap NetLabel.ofIngress

/-- The events of the gateway in a trace. -/
def aTrace (tr : List NetLabel) : List GatewayEvent := tr.filterMap NetLabel.ofA

/-- The events of the device in a trace. -/
def bTrace (tr : List NetLabel) : List GatewayEvent := tr.filterMap NetLabel.ofB

theorem aTrace_snoc (tr : List NetLabel) (label : NetLabel) :
    aTrace (tr ++ [label]) = aTrace tr ++ label.ofA.toList := by
  cases label <;> simp [aTrace, NetLabel.ofA]

namespace TwoNode

def init : TwoNode := ⟨.init, .empty, .init, .init, [], []⟩

/-- One event of one task, or the loss of a frame. -/
def step (cbor : Minicbor) (medium : Medium Frame) (s : TwoNode) : NetLabel → Option TwoNode
  | .ingress event =>
    (s.ingress.step event).bind fun ingress =>
      (event.feed s.forward).map fun forward => { s with ingress, forward }
  | .a event =>
    (s.a.step cbor event).bind fun a =>
      (event.drain s.forward).bind fun forward =>
        (event.hear medium s.toA).map fun toA =>
          { s with a, forward, toA, toB := s.toB ++ event.aired }
  | .b event =>
    if event.taken = [] then
      (s.b.step cbor event).bind fun b =>
        (event.hear medium s.toB).map fun toB => { s with b, toB, toA := s.toA ++ event.aired }
    else none
  | .loseToA place => (medium.lose s.toA place).map fun toA => { s with toA }
  | .loseToB place => (medium.lose s.toB place).map fun toB => { s with toB }

variable {cbor : Minicbor} {medium : Medium Frame} {s s' : TwoNode} {label : NetLabel}
  {tr : List NetLabel}

theorem step_ingress {event : IngressEvent} :
    step cbor medium s (.ingress event) = some s' ↔
      ∃ ingress, IngressStep s.ingress event ingress ∧
        ∃ forward, forward.queue = s.forward.queue ++ event.admitted ∧
          { s with ingress, forward } = s' := by
  simp only [step, Option.bind_eq_some_iff, Option.map_eq_some_iff, IngressTask.ingress_iff,
    IngressEvent.feed_eq_some]

theorem step_a {event : GatewayEvent} :
    step cbor medium s (.a event) = some s' ↔
      ∃ a, GatewayStep cbor s.a event a ∧
        ∃ forward, (s.forward.queue = event.taken ++ forward.queue ∧
          (event = .polled none → s.forward.queue = [])) ∧
          ∃ toA, event.hear medium s.toA = some toA ∧
            { s with a, forward, toA, toB := s.toB ++ event.aired } = s' := by
  simp only [step, Option.bind_eq_some_iff, Option.map_eq_some_iff, GatewayTask.step_iff,
    GatewayEvent.drain_eq_some]

theorem step_b {event : GatewayEvent} :
    step cbor medium s (.b event) = some s' ↔ event.taken = [] ∧
      ∃ b, GatewayStep cbor s.b event b ∧
        ∃ toB, event.hear medium s.toB = some toB ∧
          { s with b, toB, toA := s.toA ++ event.aired } = s' := by
  simp only [step, Option.ite_none_right_eq_some, Option.bind_eq_some_iff, Option.map_eq_some_iff,
    GatewayTask.step_iff]

/-! ## The tasks on their own -/

/-- A label is a step of one task at most, and leaves the others alone. -/
theorem step_tasks (taken : step cbor medium s label = some s') :
    Projects IngressTask.step NetLabel.ofIngress s.ingress s'.ingress label ∧
      Projects (GatewayTask.step cbor) NetLabel.ofA s.a s'.a label ∧
      Projects (GatewayTask.step cbor) NetLabel.ofB s.b s'.b label := by
  cases label with
  | ingress event =>
    obtain ⟨ingress, rule, _, _, rfl⟩ := step_ingress.mp taken
    exact ⟨IngressTask.ingress_iff.mpr rule, rfl, rfl⟩
  | a event =>
    obtain ⟨a, rule, _, _, _, _, rfl⟩ := step_a.mp taken
    exact ⟨rfl, GatewayTask.step_iff.mpr rule, rfl⟩
  | b event =>
    obtain ⟨_, b, rule, _, _, rfl⟩ := step_b.mp taken
    exact ⟨rfl, rfl, GatewayTask.step_iff.mpr rule⟩
  | loseToA place | loseToB place =>
    obtain ⟨_, _, rfl⟩ := Option.map_eq_some_iff.mp taken
    exact ⟨rfl, rfl, rfl⟩

theorem run_ingress (ran : run (step cbor medium) init tr = some s) :
    run IngressTask.step .init (ingressTrace tr) = some s.ingress :=
  run_project ingress (fun taken => (step_tasks taken).1) ran

theorem run_a (ran : run (step cbor medium) init tr = some s) :
    run (GatewayTask.step cbor) .init (aTrace tr) = some s.a :=
  run_project a (fun taken => (step_tasks taken).2.1) ran

theorem run_b (ran : run (step cbor medium) init tr = some s) :
    run (GatewayTask.step cbor) .init (bTrace tr) = some s.b :=
  run_project b (fun taken => (step_tasks taken).2.2) ran

/-- The gateway and its ingress are a forward path. -/
theorem run_path (ran : run (step cbor medium) init tr = some s) :
    run (ForwardPath.step cbor) .init (tr.filterMap NetLabel.onPath) =
      some ⟨s.ingress, s.forward, s.a⟩ := by
  refine run_project (fun s : TwoNode => ForwardPath.mk s.ingress s.forward s.a) ?_ ran
  intro s label s' taken
  cases label with
  | ingress event =>
    obtain ⟨ingress, rule, forward, fed, rfl⟩ := step_ingress.mp taken
    exact ForwardPath.step_ingress.mpr ⟨ingress, rule, forward, fed, rfl⟩
  | a event =>
    obtain ⟨a, rule, forward, drained, _, _, rfl⟩ := step_a.mp taken
    exact ForwardPath.step_gateway.mpr ⟨a, rule, forward, drained, rfl⟩
  | b event =>
    obtain ⟨_, _, _, _, _, rfl⟩ := step_b.mp taken
    rfl
  | loseToA place | loseToB place =>
    obtain ⟨_, _, rfl⟩ := Option.map_eq_some_iff.mp taken
    rfl

theorem ingressEvents_onPath (tr : List NetLabel) :
    ForwardPath.ingressEvents (tr.filterMap NetLabel.onPath) = ingressTrace tr := by
  rw [ForwardPath.ingressEvents, List.filterMap_filterMap]
  apply List.filterMap_congr
  intro label _
  cases label <;> rfl

theorem gatewayEvents_onPath (tr : List NetLabel) :
    ForwardPath.gatewayEvents (tr.filterMap NetLabel.onPath) = aTrace tr := by
  rw [ForwardPath.gatewayEvents, List.filterMap_filterMap]
  apply List.filterMap_congr
  intro label _
  cases label <;> rfl

/-- The forward channel is first in, first out: what the gateway dequeued,
followed by what waits, is what ingress admitted. -/
theorem forward_fifo (ran : run (step cbor medium) init tr = some s) :
    (aTrace tr).flatMap GatewayEvent.taken ++ s.forward.queue = admitted (ingressTrace tr) := by
  rw [← gatewayEvents_onPath, ← ingressEvents_onPath]
  exact ForwardPath.fifo (run_path ran)

end TwoNode

end HaviliarIot
