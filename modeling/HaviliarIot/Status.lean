import HaviliarIot.Node

/-!
The way of a result back to the backend: `task_lora_gateway` and
`task_mqtt_egress` over the result channel, interleaved by an arbitrary
scheduler, down to the message `MqttController::publish_message` hands to the
MQTT client.

Every result is published once, in order (`statuses_of_run`).  The payload is the
buffer egress clears on every turn and never writes to, so every result is the
same message on the wire, and the backend can tell two of them apart in no run
where they differ (`statuses_tell_iff`).
-/

namespace HaviliarIot

open Runs

/-- What `MqttClient::send_message` is called with, at QoS 1 and not retained. -/
structure MqttMessage where
  topic : String
  payload : List UInt8
  deriving DecidableEq

/-- `MqttController`, of which a publication only needs the main topic. -/
structure MqttController where
  mainTopic : String

/-- `MqttController::publish_message`, up to the client's answer. -/
def MqttController.publishMessage (c : MqttController) (subtopic : String) (payload : List UInt8) :
    MqttMessage :=
  ⟨c.mainTopic ++ "/" ++ subtopic, payload⟩

/-- The gateway's controller, with `GATEWAY_CONFIG.main_topic`. -/
def gatewayMqtt : MqttController := ⟨"esp32-haviliar"⟩

/-- The message this event hands to the MQTT client. -/
def EgressEvent.message : EgressEvent → Option MqttMessage
  | published subtopic payload _ => some (gatewayMqtt.publishMessage subtopic payload)
  | _ => none

/-- The messages published, each with the result egress had taken last. -/
def publications : Option LoraEnvelope → List EgressEvent → List (LoraEnvelope × MqttMessage)
  | _, [] => []
  | _, .taken result :: rest => publications (some result) rest
  | last, event :: rest =>
    (last.bind fun result => event.message.map fun message => (result, message)).toList ++
      publications last rest

/-- The result egress has taken and not published. -/
def EgressTask.inHand (s : EgressTask) : List LoraEnvelope :=
  match s.pc with
  | .receive => []
  | .lock result | .publish result => [result]

namespace EgressTask

variable {s s' : EgressTask} {tr : List EgressEvent} {last : Option LoraEnvelope}

/-- From where egress has published all it took but what it has in hand: each
result is published once and in order, and every message is for one of them. -/
theorem publications_of_run (holds : ∀ result ∈ s.inHand, last = some result)
    (ran : run step s tr = some s') :
    s.inHand ++ tr.flatMap EgressEvent.collected =
      (publications last tr).map Prod.fst ++ s'.inHand ∧
    (publications last tr).map Prod.snd = tr.filterMap EgressEvent.message := by
  induction tr generalizing s last with
  | nil =>
    cases Option.some.inj ran
    exact ⟨by simp [publications], rfl⟩
  | cons event rest ih =>
    rw [run_cons, Option.bind_eq_some_iff] at ran
    obtain ⟨next, taken, ran⟩ := ran
    cases egress_iff.mp taken with
    | @taken result payload =>
      have inHand : ∀ result' ∈ inHand ⟨.lock result, []⟩, some result = some result' := by
        simp [inHand]
      obtain ⟨order, each⟩ := ih inHand ran
      constructor
      · simpa [EgressTask.inHand, EgressEvent.collected, publications] using order
      · simpa [EgressEvent.message, publications, List.filterMap_cons] using each
    | @locked result payload =>
      have inHand : ∀ result' ∈ inHand ⟨.publish result, payload⟩, last = some result' := holds
      obtain ⟨order, each⟩ := ih inHand ran
      constructor
      · simpa [EgressTask.inHand, EgressEvent.collected, EgressEvent.message, publications]
          using order
      · simpa [EgressEvent.message, publications, List.filterMap_cons] using each
    | @published result payload outcome =>
      obtain rfl : last = some result := holds result (by simp [inHand])
      have none : ∀ result' ∈ inHand ⟨.receive, payload⟩, some result = some result' := by
        simp [inHand]
      obtain ⟨order, each⟩ := ih none ran
      constructor
      · simpa [inHand, EgressEvent.collected, EgressEvent.message, publications] using order
      · simpa [EgressEvent.message, publications, List.filterMap_cons] using each

/-- The buffer is cleared and never written to. -/
theorem payload_of_run (ran : run step init tr = some s) :
    s.payload = [] ∧ ∀ message ∈ tr.filterMap EgressEvent.message,
      message = gatewayMqtt.publishMessage statusSubtopic [] := by
  refine run_induction (P := fun tr s => s.payload = [] ∧
    ∀ message ∈ tr.filterMap EgressEvent.message,
      message = gatewayMqtt.publishMessage statusSubtopic []) ?_ ?_ ran
  · exact ⟨rfl, by simp⟩
  · intro tr s event s' _ ⟨empty, before⟩ taken
    rw [List.filterMap_append]
    cases egress_iff.mp taken with
    | taken => exact ⟨rfl, by simpa [EgressEvent.message] using before⟩
    | locked => exact ⟨empty, by simpa [EgressEvent.message] using before⟩
    | @published result payload outcome =>
      have empty : payload = [] := empty
      subst empty
      refine ⟨rfl, ?_⟩
      intro message member
      rcases List.mem_append.mp member with earlier | now
      · exact before message earlier
      · simpa [EgressEvent.message] using now

end EgressTask

/-! ## The path of a result -/

structure ResultPath where
  gateway : GatewayTask
  results : LoraToMqttChannel
  egress : EgressTask
  deriving DecidableEq

inductive ResultLabel where
  | gateway (event : GatewayEvent)
  | egress (event : EgressEvent)
  deriving DecidableEq

namespace ResultLabel

/-- The event of the gateway this is. -/
def ofGateway : ResultLabel → Option GatewayEvent
  | gateway event => some event
  | egress _ => none

/-- The event of egress this is. -/
def ofEgress : ResultLabel → Option EgressEvent
  | egress event => some event
  | gateway _ => none

end ResultLabel

namespace ResultPath

def init : ResultPath := ⟨.init, .empty, .init⟩

/-- One event of one task, with what it does to the result channel. -/
def step (cbor : Minicbor) (s : ResultPath) : ResultLabel → Option ResultPath
  | .gateway event =>
    (s.gateway.step cbor event).bind fun gateway =>
      (event.report s.results).map fun results => { s with gateway, results }
  | .egress event =>
    (s.egress.step event).bind fun egress =>
      (event.drain s.results).map fun results => { s with egress, results }

/-- The events of the gateway in a trace. -/
def gatewayEvents (tr : List ResultLabel) : List GatewayEvent :=
  tr.filterMap ResultLabel.ofGateway

/-- The events of egress in a trace. -/
def egressEvents (tr : List ResultLabel) : List EgressEvent := tr.filterMap ResultLabel.ofEgress

/-- The statuses published, each with its result. -/
def published (tr : List ResultLabel) : List (LoraEnvelope × MqttMessage) :=
  publications none (egressEvents tr)

variable {cbor : Minicbor} {s s' : ResultPath} {label : ResultLabel} {tr : List ResultLabel}

theorem step_gateway {event : GatewayEvent} :
    step cbor s (.gateway event) = some s' ↔
      ∃ gateway, GatewayStep cbor s.gateway event gateway ∧
        ∃ results, results.queue = s.results.queue ++ event.results ∧
          { s with gateway, results } = s' := by
  simp only [step, Option.bind_eq_some_iff, Option.map_eq_some_iff, GatewayTask.step_iff,
    GatewayEvent.report_eq_some]

theorem step_egress {event : EgressEvent} :
    step cbor s (.egress event) = some s' ↔
      ∃ egress, EgressStep s.egress event egress ∧
        ∃ results, s.results.queue = event.collected ++ results.queue ∧
          { s with egress, results } = s' := by
  simp only [step, Option.bind_eq_some_iff, Option.map_eq_some_iff, EgressTask.egress_iff,
    EgressEvent.drain_eq_some]

theorem run_egress (ran : run (step cbor) init tr = some s) :
    run EgressTask.step .init (egressEvents tr) = some s.egress := by
  refine run_project egress ?_ ran
  intro s label s' taken
  cases label with
  | gateway event =>
    obtain ⟨_, _, _, _, rfl⟩ := step_gateway.mp taken
    rfl
  | egress event =>
    obtain ⟨egress, rule, _, _, rfl⟩ := step_egress.mp taken
    exact EgressTask.egress_iff.mpr rule

/-- The result channel is first in, first out. -/
theorem fifo (ran : run (step cbor) init tr = some s) :
    (egressEvents tr).flatMap EgressEvent.collected ++ s.results.queue =
      (answers (gatewayEvents tr)).map Prod.snd := by
  refine run_induction (P := fun tr s => (egressEvents tr).flatMap EgressEvent.collected ++
    s.results.queue = (answers (gatewayEvents tr)).map Prod.snd) rfl ?_ ran
  intro tr s label s' _ before taken
  cases label with
  | gateway event =>
    obtain ⟨_, _, results, reported, rfl⟩ := step_gateway.mp taken
    have enqueued : event.answers.map Prod.snd = event.results := by
      cases event <;> rfl
    simp only [egressEvents, gatewayEvents, answers, List.filterMap_append, List.filterMap_cons,
      List.filterMap_nil, ResultLabel.ofGateway, ResultLabel.ofEgress, List.append_nil,
      List.flatMap_append, List.flatMap_singleton, List.map_append] at before ⊢
    rw [reported, ← List.append_assoc, before, enqueued]
  | egress event =>
    obtain ⟨_, _, results, collected, rfl⟩ := step_egress.mp taken
    simp only [egressEvents, gatewayEvents, answers, List.filterMap_append, List.filterMap_cons,
      List.filterMap_nil, ResultLabel.ofGateway, ResultLabel.ofEgress, List.append_nil,
      List.flatMap_append, List.flatMap_singleton] at before ⊢
    rw [← before, collected, List.append_assoc]

/-- The statuses published correspond to the results enqueued. -/
structure StatusesFollow (tr : List ResultLabel) (s : ResultPath) : Prop where
  /-- In order and once each: published, in the hands of egress, or still queued. -/
  order : (answers (gatewayEvents tr)).map Prod.snd =
    (published tr).map Prod.fst ++ s.egress.inHand ++ s.results.queue
  /-- Every message handed to the MQTT client is the status of one of them. -/
  each : (published tr).map Prod.snd = (egressEvents tr).filterMap EgressEvent.message

theorem statuses_of_run (ran : run (step cbor) init tr = some s) : StatusesFollow tr s := by
  have idle : ∀ result ∈ EgressTask.init.inHand, none = some result := by
    simp [EgressTask.inHand, EgressTask.init]
  obtain ⟨order, each⟩ := EgressTask.publications_of_run idle (run_egress ran)
  refine ⟨?_, each⟩
  have collected : (egressEvents tr).flatMap EgressEvent.collected =
      (published tr).map Prod.fst ++ s.egress.inHand := order
  rw [← fifo ran, collected]

/-- The same sequence number and the same outcome. -/
def SameResult (result result' : LoraEnvelope) : Prop :=
  result.seq = result'.seq ∧ result.payload = result'.payload

/-- Two statuses with one payload are of results that agree. -/
def Tells (tr : List ResultLabel) : Prop :=
  ∀ status ∈ published tr, ∀ status' ∈ published tr,
    status.2.payload = status'.2.payload → SameResult status.1 status'.1

/-- **What the backend can tell.**  Statuses follow results one to one and in
order; their payloads tell results apart exactly in the runs where all results
published agree. -/
theorem statuses_tell_iff (ran : run (step cbor) init tr = some s) :
    StatusesFollow tr s ∧
      (Tells tr ↔ ∀ result ∈ (published tr).map Prod.fst,
        ∀ result' ∈ (published tr).map Prod.fst, SameResult result result') := by
  have follow := statuses_of_run ran
  have alike : ∀ status ∈ published tr,
      status.2 = gatewayMqtt.publishMessage statusSubtopic [] := by
    intro status member
    apply (EgressTask.payload_of_run (run_egress ran)).2
    rw [← follow.each]
    exact List.mem_map_of_mem member
  refine ⟨follow, ?_⟩
  constructor
  · intro tells result member result' member'
    obtain ⟨status, published, rfl⟩ := List.mem_map.mp member
    obtain ⟨status', published', rfl⟩ := List.mem_map.mp member'
    apply tells status published status' published'
    rw [alike status published, alike status' published']
  · intro agree status member status' member' _
    exact agree _ (List.mem_map_of_mem member) _ (List.mem_map_of_mem member')

/-- A request that could not be sent, its failure reported and published. -/
def failedRequest : List ResultLabel :=
  let result := failureResult sampleRequest.toLoraEnvelope
  [.gateway (.received .timeout), .gateway (.polled (some sampleRequest)),
    .gateway (.sent sampleRequest.toLoraEnvelope (.error .Irq)),
    .gateway (.enqueued sampleRequest.toLoraEnvelope result),
    .egress (.taken result), .egress .locked, .egress (.published statusSubtopic [] (.ok ()))]

/-- Another request with the same sequence number, as after a wrap-around, fails too. -/
def failedAgain : List ResultLabel :=
  let request : ForwardRequest := .new 1 2000 [4]
  let result := failureResult request.toLoraEnvelope
  [.gateway (.received .timeout), .gateway (.polled (some request)),
    .gateway (.sent request.toLoraEnvelope (.error .Irq)),
    .gateway (.enqueued request.toLoraEnvelope result),
    .egress (.taken result), .egress .locked, .egress (.published statusSubtopic [] (.ok ()))]

theorem statuses_tell_of_two_failures : Tells (failedRequest ++ failedAgain) := by
  have ran : run (step .reference) init (failedRequest ++ failedAgain) =
      some ⟨⟨.receive, none⟩, .empty, .init⟩ := by decide
  apply (statuses_tell_iff ran).2.mpr
  have both : (published (failedRequest ++ failedAgain)).map Prod.fst =
      [failureResult sampleRequest.toLoraEnvelope,
        failureResult (ForwardRequest.new 1 2000 [4]).toLoraEnvelope] := rfl
  rw [both]
  simp only [List.forall_mem_cons, List.not_mem_nil, false_implies, implies_true, and_true]
  exact ⟨⟨⟨rfl, rfl⟩, rfl, rfl⟩, ⟨rfl, rfl⟩, rfl, rfl⟩

/-- A second request, sent and acknowledged, its success published. -/
def acknowledgedRequest : List ResultLabel :=
  let request : ForwardRequest := .new 2 2000 [4]
  let ack := ackFor request.toLoraEnvelope
  let result := successResult request.toLoraEnvelope ack
  [.gateway (.received .timeout), .gateway (.polled (some request)),
    .gateway (.sent request.toLoraEnvelope (.ok ())),
    .gateway (.received (.done (.ok (OutgoingFrame.framed ack, sampleStatus)))),
    .gateway (.sent result (.ok ())), .gateway (.enqueued request.toLoraEnvelope result),
    .egress (.taken result), .egress .locked, .egress (.published statusSubtopic [] (.ok ()))]

/-- A failure and a success of different requests are published as one and the
same message. -/
theorem failure_published_as_success :
    ∃ s, run (step .reference) init (failedRequest ++ acknowledgedRequest) = some s ∧
      ¬ Tells (failedRequest ++ acknowledgedRequest) := by
  refine ⟨⟨⟨.drain, none⟩, .empty, .init⟩, by decide, ?_⟩
  intro tells
  let request : ForwardRequest := .new 2 2000 [4]
  have both : published (failedRequest ++ acknowledgedRequest) =
      [(failureResult sampleRequest.toLoraEnvelope, gatewayMqtt.publishMessage statusSubtopic []),
        (successResult request.toLoraEnvelope (ackFor request.toLoraEnvelope),
          gatewayMqtt.publishMessage statusSubtopic [])] := rfl
  rw [Tells, both] at tells
  have same := tells _ List.mem_cons_self _ (List.mem_cons_of_mem _ List.mem_cons_self) rfl
  cases same.1

end ResultPath

/-! ## The path in the node -/

/-- The step of the result path this is. -/
def NodeLabel.onResultPath : NodeLabel → Option ResultLabel
  | ingress _ => none
  | gateway event => some (.gateway event)
  | egress event => some (.egress event)

/-- The result path of a node. -/
def GatewayNode.resultPath (s : GatewayNode) : ResultPath := ⟨s.gateway, s.results, s.egress⟩

/-- A run of the node is a run of its result path. -/
theorem GatewayNode.run_resultPath {cbor : Minicbor} {s : GatewayNode} {tr : List NodeLabel}
    (ran : run (step cbor) init tr = some s) :
    run (ResultPath.step cbor) .init (tr.filterMap NodeLabel.onResultPath) = some s.resultPath := by
  refine run_project resultPath ?_ ran
  intro s label s' taken
  cases label with
  | ingress event =>
    obtain ⟨-, _, _, _, _, rfl⟩ := step_ingress.mp taken
    rfl
  | gateway event =>
    obtain ⟨gateway, rule, _, _, results, reported, rfl⟩ := step_gateway.mp taken
    exact ResultPath.step_gateway.mpr ⟨gateway, rule, results, reported, rfl⟩
  | egress event =>
    obtain ⟨-, egress, rule, results, collected, rfl⟩ := step_egress.mp taken
    exact ResultPath.step_egress.mpr ⟨egress, rule, results, collected, rfl⟩

end HaviliarIot
