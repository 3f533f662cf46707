import HaviliarIot.Node

/-!
The way of a request from MQTT to the radio: `task_mqtt_ingress` and
`task_lora_gateway` over the forward channel, interleaved by an arbitrary
scheduler.

Nothing else is in the state: when ingress gets the MQTT mutex and when a result
is taken off the result channel is left to the scheduler, so a run of the whole
node is a run of this path (`GatewayNode.run_path`).  The channel is first in,
first out (`fifo`).
-/

namespace HaviliarIot

open Runs

structure ForwardPath where
  ingress : IngressTask
  forward : ForwardToLoraChannel
  gateway : GatewayTask
  deriving DecidableEq

inductive PathLabel where
  | ingress (event : IngressEvent)
  | gateway (event : GatewayEvent)
  deriving DecidableEq

namespace PathLabel

/-- The event of ingress this is. -/
def ofIngress : PathLabel → Option IngressEvent
  | ingress event => some event
  | gateway _ => none

/-- The event of the gateway this is. -/
def ofGateway : PathLabel → Option GatewayEvent
  | gateway event => some event
  | ingress _ => none

end PathLabel

namespace ForwardPath

def init : ForwardPath := ⟨.init, .empty, .init⟩

/-- One event of one task, with what it does to the forward channel. -/
def step (cbor : Minicbor) (s : ForwardPath) : PathLabel → Option ForwardPath
  | .ingress event =>
    (s.ingress.step event).bind fun ingress =>
      (event.feed s.forward).map fun forward => { s with ingress, forward }
  | .gateway event =>
    (s.gateway.step cbor event).bind fun gateway =>
      (event.drain s.forward).map fun forward => { s with gateway, forward }

/-- The events of ingress in a trace. -/
def ingressEvents (tr : List PathLabel) : List IngressEvent := tr.filterMap PathLabel.ofIngress

/-- The events of the gateway in a trace. -/
def gatewayEvents (tr : List PathLabel) : List GatewayEvent := tr.filterMap PathLabel.ofGateway

variable {cbor : Minicbor} {s s' : ForwardPath} {label : PathLabel} {tr : List PathLabel}

theorem ingressEvents_snoc (tr : List PathLabel) (label : PathLabel) :
    ingressEvents (tr ++ [label]) = ingressEvents tr ++ label.ofIngress.toList := by
  cases label <;> simp [ingressEvents, PathLabel.ofIngress]

theorem gatewayEvents_snoc (tr : List PathLabel) (label : PathLabel) :
    gatewayEvents (tr ++ [label]) = gatewayEvents tr ++ label.ofGateway.toList := by
  cases label <;> simp [gatewayEvents, PathLabel.ofGateway]

theorem step_ingress {event : IngressEvent} :
    step cbor s (.ingress event) = some s' ↔
      ∃ ingress, IngressStep s.ingress event ingress ∧
        ∃ forward, forward.queue = s.forward.queue ++ event.admitted ∧
          { s with ingress, forward } = s' := by
  simp only [step, Option.bind_eq_some_iff, Option.map_eq_some_iff, IngressTask.ingress_iff,
    IngressEvent.feed_eq_some]

theorem step_gateway {event : GatewayEvent} :
    step cbor s (.gateway event) = some s' ↔
      ∃ gateway, GatewayStep cbor s.gateway event gateway ∧
        ∃ forward, (s.forward.queue = event.taken ++ forward.queue ∧
          (event = .polled none → s.forward.queue = [])) ∧
          { s with gateway, forward } = s' := by
  simp only [step, Option.bind_eq_some_iff, Option.map_eq_some_iff, GatewayTask.step_iff,
    GatewayEvent.drain_eq_some]

/-! ## The tasks on their own -/

/-- A label is a step of one task and leaves the other alone. -/
theorem step_tasks (taken : step cbor s label = some s') :
    Projects IngressTask.step PathLabel.ofIngress s.ingress s'.ingress label ∧
      Projects (GatewayTask.step cbor) PathLabel.ofGateway s.gateway s'.gateway label := by
  cases label with
  | ingress event =>
    obtain ⟨ingress, rule, _, _, rfl⟩ := step_ingress.mp taken
    exact ⟨IngressTask.ingress_iff.mpr rule, rfl⟩
  | gateway event =>
    obtain ⟨gateway, rule, _, _, rfl⟩ := step_gateway.mp taken
    exact ⟨rfl, GatewayTask.step_iff.mpr rule⟩

theorem run_ingress (ran : run (step cbor) init tr = some s) :
    run IngressTask.step .init (ingressEvents tr) = some s.ingress :=
  run_project ingress (fun taken => (step_tasks taken).1) ran

theorem run_gateway (ran : run (step cbor) init tr = some s) :
    run (GatewayTask.step cbor) .init (gatewayEvents tr) = some s.gateway :=
  run_project gateway (fun taken => (step_tasks taken).2) ran

/-- The forward channel is first in, first out: what the gateway dequeued,
followed by what waits, is what ingress admitted. -/
theorem fifo (ran : run (step cbor) init tr = some s) :
    (gatewayEvents tr).flatMap GatewayEvent.taken ++ s.forward.queue =
      admitted (ingressEvents tr) := by
  refine run_induction (P := fun tr s => (gatewayEvents tr).flatMap GatewayEvent.taken ++
    s.forward.queue = admitted (ingressEvents tr)) rfl ?_ ran
  intro tr s label s' _ before taken
  simp only [gatewayEvents_snoc, ingressEvents_snoc, admitted, List.flatMap_append] at before ⊢
  cases label with
  | ingress event =>
    obtain ⟨_, _, forward, fed, rfl⟩ := step_ingress.mp taken
    simp [PathLabel.ofGateway, PathLabel.ofIngress, fed, ← before]
  | gateway event =>
    obtain ⟨_, _, forward, ⟨queue, -⟩, rfl⟩ := step_gateway.mp taken
    simp [PathLabel.ofGateway, PathLabel.ofIngress, ← before, queue]

/-- What the gateway dequeued is the start of what ingress admitted. -/
theorem dequeued_prefix (ran : run (step cbor) init tr = some s) :
    dequeued (gatewayEvents tr) <+:
      (admitted (ingressEvents tr)).map ForwardRequest.toLoraEnvelope := by
  rw [dequeued_eq_taken, ← fifo ran, List.map_append]
  exact List.prefix_append _ _

end ForwardPath

/-! ## The path in the node -/

/-- The step of the forward path this is. -/
def NodeLabel.onPath : NodeLabel → Option PathLabel
  | ingress event => some (.ingress event)
  | gateway event => some (.gateway event)
  | egress _ => none

/-- The forward path of a node. -/
def GatewayNode.path (s : GatewayNode) : ForwardPath := ⟨s.ingress, s.forward, s.gateway⟩

/-- A run of the node is a run of its forward path. -/
theorem GatewayNode.run_path {cbor : Minicbor} {s : GatewayNode} {tr : List NodeLabel}
    (ran : run (step cbor) init tr = some s) :
    run (ForwardPath.step cbor) .init (tr.filterMap NodeLabel.onPath) = some s.path := by
  refine run_project path ?_ ran
  intro s label s' taken
  cases label with
  | ingress event =>
    obtain ⟨-, ingress, rule, forward, fed, rfl⟩ := step_ingress.mp taken
    exact ForwardPath.step_ingress.mpr ⟨ingress, rule, forward, fed, rfl⟩
  | gateway event =>
    obtain ⟨gateway, rule, forward, drained, _, _, rfl⟩ := step_gateway.mp taken
    exact ForwardPath.step_gateway.mpr ⟨gateway, rule, forward, drained, rfl⟩
  | egress event =>
    obtain ⟨-, _, _, _, _, rfl⟩ := step_egress.mp taken
    rfl

end HaviliarIot
