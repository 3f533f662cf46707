import HaviliarIot.Channel
import HaviliarIot.GatewayTraces
import HaviliarIot.Ingress

/-!
The gateway node: `task_mqtt_ingress`, `task_lora_gateway` and `task_mqtt_egress`
of `bin/lora_gateway_single_task.rs`, interleaved by an arbitrary scheduler.

They share the forward channel, the result channel and the MQTT mutex.  A guard
lives in the position of the task that holds it, so the mutex has no state of its
own: it is free when neither task stands where it holds the guard.  Which waiting
task gets a free mutex is the scheduler's choice.
-/

namespace HaviliarIot

open Runs

/-- `ForwardToLoraChannel`. -/
abbrev ForwardToLoraChannel := Channel ForwardRequest 8

/-- `LoraToMqttChannel`. -/
abbrev LoraToMqttChannel := Channel LoraEnvelope 8

/-- `GATEWAY_CONFIG.status_subtopic`. -/
def statusSubtopic : String := "lora/open"

/-! ## task_mqtt_egress -/

/-- Where the loop of `task_mqtt_egress` stands. -/
inductive EgressPc where
  | receive
  /-- In `mqtt_controller_mutex.lock()`, a result taken. -/
  | lock (result : LoraEnvelope)
  | publish (result : LoraEnvelope)
  deriving DecidableEq

/-- The guard is dropped at the end of the iteration. -/
def EgressPc.holdsGuard : EgressPc → Bool
  | publish _ => true
  | receive | lock _ => false

structure EgressTask where
  pc : EgressPc
  /-- The `heapless::String` the status is built in. -/
  payload : List UInt8
  deriving DecidableEq

inductive EgressEvent where
  /-- `receiver.receive()`. -/
  | taken (result : LoraEnvelope)
  | locked
  /-- `publish_message(subtopic, payload)` returned. -/
  | published (subtopic : String) (payload : List UInt8) (outcome : Except ReasonCode Unit)
  deriving DecidableEq

namespace EgressTask

def init : EgressTask := ⟨.receive, []⟩

/-- One event of `task_mqtt_egress`; `payload.clear()` comes with the receive. -/
def step (s : EgressTask) (event : EgressEvent) : Option EgressTask :=
  match s.pc, event with
  | .receive, .taken result => some ⟨.lock result, []⟩
  | .lock result, .locked => some { s with pc := .publish result }
  | .publish _, .published subtopic payload _ =>
    if subtopic = statusSubtopic ∧ payload = s.payload then some { s with pc := .receive } else none
  | _, _ => none

end EgressTask

/-- The steps of `task_mqtt_egress`. -/
inductive EgressStep : EgressTask → EgressEvent → EgressTask → Prop where
  | taken {result : LoraEnvelope} {payload : List UInt8} :
      EgressStep ⟨.receive, payload⟩ (.taken result) ⟨.lock result, []⟩
  | locked {result : LoraEnvelope} {payload : List UInt8} :
      EgressStep ⟨.lock result, payload⟩ .locked ⟨.publish result, payload⟩
  | published {result : LoraEnvelope} {payload : List UInt8} {outcome : Except ReasonCode Unit} :
      EgressStep ⟨.publish result, payload⟩ (.published statusSubtopic payload outcome)
        ⟨.receive, payload⟩

/-- The rules are the step function. -/
theorem EgressTask.egress_iff {s s' : EgressTask} {event : EgressEvent} :
    step s event = some s' ↔ EgressStep s event s' := by
  constructor
  · intro taken
    obtain ⟨pc, payload⟩ := s
    cases pc with
    | receive =>
      cases event <;> simp only [step, Option.some.injEq, reduceCtorEq] at taken
      subst taken
      exact .taken
    | lock result =>
      cases event <;> simp only [step, Option.some.injEq, reduceCtorEq] at taken
      subst taken
      exact .locked
    | publish result =>
      cases event <;> simp only [step, Option.ite_none_right_eq_some, Option.some.injEq,
        reduceCtorEq] at taken
      obtain ⟨⟨rfl, rfl⟩, rfl⟩ := taken
      exact .published
  · intro rule
    cases rule <;> simp [step]

/-! ## The channels -/

/-- What an ingress event does to the forward channel. -/
def IngressEvent.feed (forward : ForwardToLoraChannel) : IngressEvent → Option ForwardToLoraChannel
  | enqueued request => forward.send request
  | _ => some forward

/-- What a gateway event does to the forward channel. -/
def GatewayEvent.drain (forward : ForwardToLoraChannel) : GatewayEvent → Option ForwardToLoraChannel
  | polled (some request) => forward.take request
  | polled none => if forward.queue = [] then some forward else none
  | _ => some forward

/-- What a gateway event does to the result channel. -/
def GatewayEvent.report (results : LoraToMqttChannel) : GatewayEvent → Option LoraToMqttChannel
  | enqueued _ result => results.send result
  | _ => some results

/-- What an egress event does to the result channel. -/
def EgressEvent.drain (results : LoraToMqttChannel) : EgressEvent → Option LoraToMqttChannel
  | taken result => results.take result
  | _ => some results

/-- The requests this event takes off the forward channel. -/
def GatewayEvent.taken : GatewayEvent → List ForwardRequest
  | polled (some request) => [request]
  | _ => []

/-- The results this event puts on the result channel. -/
def GatewayEvent.results : GatewayEvent → List LoraEnvelope
  | enqueued _ result => [result]
  | _ => []

/-- The results this event takes off the result channel. -/
def EgressEvent.collected : EgressEvent → List LoraEnvelope
  | taken result => [result]
  | _ => []

/-- The envelope of a dequeued request is the request. -/
theorem dequeued_eq_taken (tr : List GatewayEvent) :
    dequeued tr = (tr.flatMap GatewayEvent.taken).map ForwardRequest.toLoraEnvelope := by
  rw [dequeued, List.map_flatMap]
  apply List.flatMap_congr
  intro event _
  cases event with
  | polled request => cases request <;> rfl
  | _ => rfl

theorem IngressEvent.feed_eq_some {forward forward' : ForwardToLoraChannel} {e : IngressEvent} :
    e.feed forward = some forward' ↔ forward'.queue = forward.queue ++ e.admitted := by
  cases e with
  | enqueued request => exact Channel.send_eq_some
  | _ => simp [feed, admitted, Channel.ext_iff, eq_comm]

theorem GatewayEvent.drain_eq_some {forward forward' : ForwardToLoraChannel} {e : GatewayEvent} :
    e.drain forward = some forward' ↔ forward.queue = e.taken ++ forward'.queue ∧
      (e = .polled none → forward.queue = []) := by
  cases e with
  | polled request =>
    cases request with
    | none =>
      simp only [drain, taken, Option.ite_none_right_eq_some, Option.some.injEq, Channel.ext_iff,
        List.nil_append, true_imp_iff]
      tauto
    | some request =>
      simp only [drain, taken, Channel.take_eq_some, List.cons_append, List.nil_append,
        polled.injEq, reduceCtorEq, false_imp_iff, and_true]
  | _ => simp [drain, taken, Channel.ext_iff]

theorem GatewayEvent.report_eq_some {results results' : LoraToMqttChannel} {e : GatewayEvent} :
    e.report results = some results' ↔ results'.queue = results.queue ++ e.results := by
  cases e with
  | enqueued onBehalf result => exact Channel.send_eq_some
  | _ => simp [report, GatewayEvent.results, Channel.ext_iff, eq_comm]

theorem EgressEvent.drain_eq_some {results results' : LoraToMqttChannel} {e : EgressEvent} :
    e.drain results = some results' ↔ results.queue = e.collected ++ results'.queue := by
  cases e with
  | taken result => exact Channel.take_eq_some
  | _ => simp [drain, collected, Channel.ext_iff]

/-! ## The node -/

structure GatewayNode where
  ingress : IngressTask
  gateway : GatewayTask
  egress : EgressTask
  forward : ForwardToLoraChannel
  results : LoraToMqttChannel
  deriving DecidableEq

inductive NodeLabel where
  | ingress (event : IngressEvent)
  | gateway (event : GatewayEvent)
  | egress (event : EgressEvent)
  deriving DecidableEq

namespace GatewayNode

def init : GatewayNode := ⟨.init, .init, .init, .empty, .empty⟩

/-- No task holds the MQTT mutex. -/
def MutexFree (s : GatewayNode) : Prop :=
  s.ingress.pc.holdsGuard = false ∧ s.egress.pc.holdsGuard = false

instance (s : GatewayNode) : Decidable s.MutexFree := inferInstanceAs (Decidable (_ ∧ _))

/-- One event of one task, with what it does to what the tasks share. -/
def step (cbor : Minicbor) (s : GatewayNode) : NodeLabel → Option GatewayNode
  | .ingress event =>
    if event = .locked → s.MutexFree then
      (s.ingress.step event).bind fun ingress =>
        (event.feed s.forward).map fun forward => { s with ingress, forward }
    else none
  | .gateway event =>
    (s.gateway.step cbor event).bind fun gateway =>
      (event.drain s.forward).bind fun forward =>
        (event.report s.results).map fun results => { s with gateway, forward, results }
  | .egress event =>
    if event = .locked → s.MutexFree then
      (s.egress.step event).bind fun egress =>
        (event.drain s.results).map fun results => { s with egress, results }
    else none

variable {cbor : Minicbor} {s s' : GatewayNode}

theorem step_ingress {event : IngressEvent} :
    step cbor s (.ingress event) = some s' ↔ (event = .locked → s.MutexFree) ∧
      ∃ ingress, IngressStep s.ingress event ingress ∧
        ∃ forward, forward.queue = s.forward.queue ++ event.admitted ∧
          { s with ingress, forward } = s' := by
  simp only [step, Option.ite_none_right_eq_some, Option.bind_eq_some_iff, Option.map_eq_some_iff,
    IngressTask.ingress_iff, IngressEvent.feed_eq_some]

theorem step_gateway {event : GatewayEvent} :
    step cbor s (.gateway event) = some s' ↔
      ∃ gateway, GatewayStep cbor s.gateway event gateway ∧
        ∃ forward, (s.forward.queue = event.taken ++ forward.queue ∧
          (event = .polled none → s.forward.queue = [])) ∧
          ∃ results, results.queue = s.results.queue ++ event.results ∧
            { s with gateway, forward, results } = s' := by
  simp only [step, Option.bind_eq_some_iff, Option.map_eq_some_iff, GatewayTask.step_iff,
    GatewayEvent.drain_eq_some, GatewayEvent.report_eq_some]

theorem step_egress {event : EgressEvent} :
    step cbor s (.egress event) = some s' ↔ (event = .locked → s.MutexFree) ∧
      ∃ egress, EgressStep s.egress event egress ∧
        ∃ results, s.results.queue = event.collected ++ results.queue ∧
          { s with egress, results } = s' := by
  simp only [step, Option.ite_none_right_eq_some, Option.bind_eq_some_iff, Option.map_eq_some_iff,
    EgressTask.egress_iff, EgressEvent.drain_eq_some]

end GatewayNode

end HaviliarIot
