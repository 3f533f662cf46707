import HaviliarIot.Outstanding
import HaviliarIot.Requester
import HaviliarIot.Status

/-!
A request through the whole gateway node, from the MQTT message to the published
status.

`Requester` says that the radio loop handles one request after another when it
hears no Open and no unexpected Reply.  Here that is put between the two channels:
however the three tasks interleave, the messages accepted are the requests
answered, the one on the radio, those in the forward channel and the one ingress
is blocked sending, in this order, and the answers come out through the result
channel in the same order.  So the node as a whole is first in, first out, from
backend to backend (`end_to_end`), and never more than nineteen requests deep.
-/

namespace HaviliarIot

open Runs StopAndWait

namespace NodeLabel

/-- The event of ingress this is. -/
def ofIngress : NodeLabel → Option IngressEvent
  | ingress event => some event
  | gateway _ | egress _ => none

/-- The event of the gateway task this is. -/
def ofGateway : NodeLabel → Option GatewayEvent
  | gateway event => some event
  | ingress _ | egress _ => none

/-- The event of egress this is. -/
def ofEgress : NodeLabel → Option EgressEvent
  | egress event => some event
  | ingress _ | gateway _ => none

end NodeLabel

namespace GatewayNode

def ingressEvents (tr : List NodeLabel) : List IngressEvent := tr.filterMap NodeLabel.ofIngress

def gatewayEvents (tr : List NodeLabel) : List GatewayEvent := tr.filterMap NodeLabel.ofGateway

def egressEvents (tr : List NodeLabel) : List EgressEvent := tr.filterMap NodeLabel.ofEgress

variable {cbor : Minicbor} {s s' : GatewayNode} {label : NodeLabel} {tr : List NodeLabel}

/-! ## The paths see the events of their tasks -/

theorem path_ingressEvents (tr : List NodeLabel) :
    ForwardPath.ingressEvents (tr.filterMap NodeLabel.onPath) = ingressEvents tr := by
  rw [ForwardPath.ingressEvents, ingressEvents, List.filterMap_filterMap]
  congr 1
  funext label
  cases label <;> rfl

theorem path_gatewayEvents (tr : List NodeLabel) :
    ForwardPath.gatewayEvents (tr.filterMap NodeLabel.onPath) = gatewayEvents tr := by
  rw [ForwardPath.gatewayEvents, gatewayEvents, List.filterMap_filterMap]
  congr 1
  funext label
  cases label <;> rfl

theorem resultPath_gatewayEvents (tr : List NodeLabel) :
    ResultPath.gatewayEvents (tr.filterMap NodeLabel.onResultPath) = gatewayEvents tr := by
  rw [ResultPath.gatewayEvents, gatewayEvents, List.filterMap_filterMap]
  congr 1
  funext label
  cases label <;> rfl

theorem resultPath_egressEvents (tr : List NodeLabel) :
    ResultPath.egressEvents (tr.filterMap NodeLabel.onResultPath) = egressEvents tr := by
  rw [ResultPath.egressEvents, egressEvents, List.filterMap_filterMap]
  congr 1
  funext label
  cases label <;> rfl

/-! ## The radio loop in the node -/

/-- The radio loop hears no Open, and no Reply while something is in the slot. -/
def Attentive (cbor : Minicbor) (s : GatewayNode) : NodeLabel → Prop
  | .gateway event => HaviliarIot.Attentive cbor s.gateway event
  | _ => True

instance (cbor : Minicbor) (s : GatewayNode) : DecidablePred (Attentive cbor s)
  | .gateway event => inferInstanceAs (Decidable (HaviliarIot.Attentive cbor s.gateway event))
  | .ingress _ | .egress _ => inferInstanceAs (Decidable True)

/-- A step of the node is a step of the radio loop, or none of its. -/
theorem step_gatewayTask (taken : step cbor s label = some s') :
    Projects (GatewayTask.step cbor) NodeLabel.ofGateway s.gateway s'.gateway label := by
  cases label with
  | ingress event =>
    obtain ⟨-, _, _, _, _, rfl⟩ := step_ingress.mp taken
    rfl
  | gateway event =>
    obtain ⟨gateway, rule, _, _, _, _, rfl⟩ := step_gateway.mp taken
    exact GatewayTask.step_iff.mpr rule
  | egress event =>
    obtain ⟨-, _, _, _, _, rfl⟩ := step_egress.mp taken
    rfl

theorem run_gatewayTask (ran : run (step cbor) init tr = some s) :
    run (GatewayTask.step cbor) .init (gatewayEvents tr) = some s.gateway :=
  run_project gateway step_gatewayTask ran

theorem run_ingressTask (ran : run (step cbor) init tr = some s) :
    run IngressTask.step .init (ingressEvents tr) = some s.ingress := by
  have projected := ForwardPath.run_ingress (run_path ran)
  rwa [path_ingressEvents] at projected

theorem attentive_gatewayTask (ran : run (step cbor) init tr = some s)
    (met : Throughout (step cbor) (Attentive cbor) init tr) :
    Throughout (GatewayTask.step cbor) (HaviliarIot.Attentive cbor) .init (gatewayEvents tr) := by
  refine throughout_project gateway step_gatewayTask ?_ ran met
  intro s label event seen attentive
  cases label <;> cases seen
  exact attentive

/-! ## Requests have names -/

/-- What the radio loop dequeued is a prefix of what ingress put on the channel. -/
theorem dequeued_of_admitted (ran : run (step cbor) init tr = some s) :
    dequeued (gatewayEvents tr) <+:
      (admitted (ingressEvents tr)).map ForwardRequest.toLoraEnvelope := by
  rw [← path_ingressEvents, ← path_gatewayEvents]
  exact ForwardPath.dequeued_prefix (run_path ran)

theorem dequeued_seqs_nodup (ran : run (step cbor) init tr = some s)
    (few : (admitted (ingressEvents tr)).length ≤ 65535) :
    ((dequeued (gatewayEvents tr)).map fun e => e.seq).Nodup := by
  refine ((dequeued_of_admitted ran).sublist.map _).nodup ?_
  rw [List.map_map]
  exact IngressTask.seqs_nodup (run_ingressTask ran) few

/-! ## From backend to backend -/

/-- The statuses published, each with its result. -/
def published (tr : List NodeLabel) : List (LoraEnvelope × MqttMessage) :=
  publications none (egressEvents tr)

/-- The exchanges account for what the node took in and put out. -/
structure EndToEnd (tr : List NodeLabel) (s : GatewayNode)
    (exchanges : List (Exchange LoraEnvelope)) : Prop where
  /-- The messages accepted, in order: exchanged, on the radio, in the forward
  channel, and in the hands of ingress. -/
  requests : accepted (ingressEvents tr) =
    (exchanges.map Exchange.request ++ s.gateway.sender.inHand ++
      (s.forward.queue ++ s.ingress.blocked).map ForwardRequest.toLoraEnvelope).map
        fun e => e.payload
  /-- Exchange `k` is that of request `k`, counted from one. -/
  numbered : (exchanges.map fun x => x.request.seq) =
    (List.range exchanges.length).map fun k => UInt16.ofNat (k + 1)
  /-- The requests on the air: in blocks, one for each exchange, and the last one for
  the request in hand. -/
  aired : ∃ again, ((gatewayEvents tr).filterMap GatewayEvent.exchange).flatMap Label.airs =
    exchanges.flatMap Exchange.airings ++ s.gateway.sender.airings again
  /-- The results, in order: published, in the hands of egress, or queued.  Each is
  that of its exchange, and a success if the request was on the air. -/
  results : ((published tr).map Prod.fst ++ s.egress.inHand ++ s.results.queue).map
      (fun result => (result.seq, decide (IsSuccess result))) =
    exchanges.map fun x => (x.request.seq, decide (0 < x.transmissions))
  /-- The node never holds more than nineteen messages. -/
  depth : (accepted (ingressEvents tr)).length ≤ (published tr).length + 19

theorem inHand_length (s : GatewayTask) : s.sender.inHand.length ≤ 1 := by
  cases s.sender <;> simp [Sender.inHand]

theorem egress_inHand_length (s : EgressTask) : s.inHand.length ≤ 1 := by
  unfold EgressTask.inHand
  split <;> simp

/-- What the exchanges, the radio loop and the forward channel hold is what ingress made. -/
theorem made_of_run {exchanges : List (Exchange LoraEnvelope)} (ran : run (step cbor) init tr = some s)
    (taken : exchanges.map Exchange.request ++ s.gateway.sender.inHand =
      dequeued (gatewayEvents tr)) :
    exchanges.map Exchange.request ++ s.gateway.sender.inHand ++
        (s.forward.queue ++ s.ingress.blocked).map ForwardRequest.toLoraEnvelope =
      (admitted (ingressEvents tr) ++ s.ingress.blocked).map ForwardRequest.toLoraEnvelope := by
  have fifo := ForwardPath.fifo (run_path ran)
  rw [path_ingressEvents, path_gatewayEvents] at fifo
  rw [taken, dequeued_eq_taken, ← fifo, ← List.map_append, List.append_assoc]
  rfl

theorem results_of_run (ran : run (step cbor) init tr = some s) :
    (answers (gatewayEvents tr)).map Prod.snd =
      (published tr).map Prod.fst ++ s.egress.inHand ++ s.results.queue := by
  have order := (ResultPath.statuses_of_run (run_resultPath ran)).order
  rwa [resultPath_gatewayEvents, ResultPath.published, resultPath_egressEvents] at order

variable {exchanges : List (Exchange LoraEnvelope)}

theorem requests_of_run (ran : run (step cbor) init tr = some s)
    (taken : exchanges.map Exchange.request ++ s.gateway.sender.inHand =
      dequeued (gatewayEvents tr)) :
    accepted (ingressEvents tr) =
      (exchanges.map Exchange.request ++ s.gateway.sender.inHand ++
        (s.forward.queue ++ s.ingress.blocked).map ForwardRequest.toLoraEnvelope).map
          fun e => e.payload := by
  rw [made_of_run ran taken, List.map_map]
  exact (IngressTask.payloads_of_run (run_ingressTask ran)).symm

/-- The exchanges are the oldest requests, and those are numbered from one. -/
theorem numbered_of_run (ran : run (step cbor) init tr = some s)
    (taken : exchanges.map Exchange.request ++ s.gateway.sender.inHand =
      dequeued (gatewayEvents tr)) :
    (exchanges.map fun x => x.request.seq) =
      (List.range exchanges.length).map fun k => UInt16.ofNat (k + 1) := by
  have numbers := IngressTask.allocated_seqs (run_ingressTask ran)
  have first : exchanges.map Exchange.request <+:
      (admitted (ingressEvents tr) ++ s.ingress.blocked).map ForwardRequest.toLoraEnvelope := by
    rw [← made_of_run ran taken, List.append_assoc]
    exact List.prefix_append _ _
  have oldest : (exchanges.map fun x => x.request.seq) <+:
      (List.range (accepted (ingressEvents tr)).length).map fun k => UInt16.ofNat (k + 1) := by
    rw [← numbers]
    simpa only [List.map_map, Function.comp_def] using first.map fun e => e.seq
  have counted := oldest.length_le
  rw [List.length_map, List.length_map, List.length_range] at counted
  rw [List.prefix_iff_eq_take.mp oldest, ← List.map_take, List.take_range, List.length_map,
    Nat.min_eq_left counted]

/-- Where the loop is a stop-and-wait sender, the queues around it make the node one. -/
theorem endToEnd_of_sender (ran : run (step cbor) init tr = some s)
    (refined : run StopAndWait.step .idle
      ((gatewayEvents tr).filterMap GatewayEvent.exchange) = some s.gateway.sender) :
    ∃ exchanges, EndToEnd tr s exchanges := by
  have loop := run_gatewayTask ran
  obtain ⟨exchanges, again, taken, aired, settled⟩ := StopAndWait.sequential_of_run refined
  rw [takes_eq_dequeued] at taken
  rw [settles_eq_answers] at settled
  have results := results_of_run ran
  have requests := requests_of_run ran taken.symm
  refine ⟨exchanges, requests, numbered_of_run ran taken.symm, ⟨again, aired⟩, ?_, ?_⟩
  · have told : (answers (gatewayEvents tr)).map
          (fun answer => (answer.2.seq, decide (IsSuccess answer.2))) =
        (answers (gatewayEvents tr)).map
          fun answer => (answer.1.seq, decide (IsSuccess answer.2)) := by
      apply List.map_congr_left
      intro answer member
      rw [GatewayTask.answers_seq loop answer member]
    have outcomes := congrArg (List.map fun outcome => (outcome.1.seq, outcome.2)) settled
    rw [List.map_map, List.map_map] at outcomes
    rw [← results, List.map_map]
    exact told.trans outcomes
  · have count := congrArg List.length requests
    have answered := congrArg List.length settled
    have reported := congrArg List.length results
    have queued := s.forward.bounded
    have waiting := s.results.bounded
    have inHand := inHand_length s.gateway
    have held := egress_inHand_length s.egress
    have blocked := s.ingress.blocked_length
    simp only [List.length_map, List.length_append] at count answered reported
    omega

/-- **The node is first in, first out, from backend to backend**, as long as its
radio hears no Open and no unexpected Reply. -/
theorem end_to_end (ran : run (step cbor) init tr = some s)
    (met : Throughout (step cbor) (Attentive cbor) init tr) :
    ∃ exchanges, EndToEnd tr s exchanges := by
  have loop := attentive_gatewayTask ran met
  exact endToEnd_of_sender ran (GatewayTask.run_sender (run_gatewayTask ran) loop)

/-- A message accepted, forwarded, acknowledged and reported. -/
def completedRequest : List NodeLabel :=
  let result := successResult sampleRequest.toLoraEnvelope (ackFor sampleRequest.toLoraEnvelope)
  [.ingress .locked, .ingress (.received (.ok ("esp32/open", [1, 2, 3])) 1000),
    .ingress (.enqueued sampleRequest), .ingress .slept] ++
  GatewayLedger.acknowledgedRun.map .gateway ++
  [.egress (.taken result), .egress .locked, .egress (.published statusSubtopic [] (.ok ()))]

theorem end_to_end_of_completed_request :
    ∃ exchanges, EndToEnd completedRequest
      ⟨⟨.lock, 1, 2⟩, .init, .init, .empty, .empty⟩ exchanges := by
  have ran : run (step .reference) init completedRequest =
      some ⟨⟨.lock, 1, 2⟩, .init, .init, .empty, .empty⟩ := by decide
  exact end_to_end ran (by decide)

end GatewayNode

end HaviliarIot
