import HaviliarIot.Beacon
import HaviliarIot.Broadcast
import HaviliarIot.Rendezvous

/-!
All programs of the repository on one channel.

A board with `lora_response_time` transmits Replies only, one with `lora-display` only
Counters.  So neither can be taken for the gateway or for a device, and what the gateway
reports is true with any number of them in range (`concord_of_programs`).

A Counter is ignored, so beacons do not disturb a gateway and its device either
(`end_to_end_among_beacons`).  A Reply is not: a measuring board answers every request it
hears, and the gateway takes its answer for the end of the request
(`measuring_board_drops_request`).
-/

namespace HaviliarIot

open Runs

variable {cbor : Minicbor}

/-! ## lora_response_time -/

namespace ResponseTime

variable {s s' : ResponseTime} {label : ResponseLabel} {tr : List ResponseLabel}

/-- What `task_receive` builds is a Reply. -/
theorem built_reply {r r' : ReceiveTask} {stats stats' : Statistics} {event : ReceiveEvent}
    (rule : ReceiveStep cbor r stats event r' stats') {message : LoraEnvelope}
    (member : message ∈ r'.pc.message ++ event.replied) :
    message ∈ r.pc.message ∨ message.msgType = .Reply := by
  cases rule with
  | unanswered | elapsedLocked =>
    rw [List.mem_singleton.mp member]
    exact .inr rfl
  | lostLocked stands | enqueued stands =>
    rw [stands]
    exact .inl member
  | _ => cases member

/-- What is on its way to the radio after a step was so before, or is a new Reply. -/
theorem message_of_step (taken : step cbor s label = some s') {message : LoraEnvelope}
    (member : message ∈ messages s') : message ∈ messages s ∨ message.msgType = .Reply := by
  simp only [messages, List.mem_append] at member ⊢
  cases label with
  | send event =>
    obtain ⟨-, send, rule, channel, queue, acks, -, rfl⟩ := step_send.mp taken
    rw [queue, List.mem_append]
    rcases member with (member | member) | member
    · exact .inl (.inl (.inl member))
    · exact .inl (.inl (.inr (.inr member)))
    · rcases List.mem_append.mp (send_messages rule member) with new | old
      · exact .inl (.inl (.inr (.inl new)))
      · exact .inl (.inr old)
  | receive event =>
    obtain ⟨-, receive, stats, rule, channel, queue, acks, -, rfl⟩ := step_receive.mp taken
    rw [queue, List.mem_append] at member
    rcases member with (member | member | member) | member
    · exact (built_reply rule (List.mem_append_left _ member)).imp_left fun old => .inl (.inl old)
    · exact .inl (.inl (.inr member))
    · exact (built_reply rule (List.mem_append_right _ member)).imp_left fun old => .inl (.inl old)
    · exact .inl (.inr member)
  | display event =>
    obtain ⟨-, display, -, rfl⟩ := step_display.mp taken
    exact .inl member

theorem handed_of_sent {p p' : SendPc} {message : LoraEnvelope} {driver : Except RadioError Unit}
    (rule : SendStep p (.sent message driver) p') : p = .send message := by
  cases rule <;> rfl

theorem replies_of_run (ran : run (step cbor) init tr = some s) :
    ∀ message ∈ messages s, message.msgType = .Reply := by
  refine run_induction (P := fun _ s => ∀ message ∈ messages s, message.msgType = .Reply) ?_ ?_ ran
  · intro message member
    cases member
  · intro tr s label s' _ replies taken message member
    exact (message_of_step taken member).elim (replies message) id

/-- What the program transmits is a Reply. -/
theorem aired_reply (ran : run (step cbor) init tr = some s) (member : label ∈ tr) {frame : Frame}
    (onAir : frame ∈ label.airs) :
    ∃ e, frame = OutgoingFrame.framed e ∧ e.intoOutgoing.isSome ∧ e.msgType = .Reply := by
  obtain ⟨before, after, rfl⟩ := List.append_of_mem member
  obtain ⟨mid, _, first, taken, -⟩ := run_at ran
  have replies := replies_of_run first
  cases label with
  | receive | display => cases onAir
  | send event =>
    obtain ⟨-, send, rule, -⟩ := step_send.mp taken
    cases event with
    | taken | locked | acked => cases onAir
    | sent message driver =>
      have isReply : message.msgType = .Reply := by
        apply replies
        simp [messages, handed_of_sent rule, SendPc.message]
      cases driver with
      | error => cases onAir
      | ok =>
        have same : frame ∈ (GatewayEvent.sent message (.ok ())).aired := onAir
        obtain ⟨-, fits, framed⟩ := aired_of_sent same
        exact ⟨message, framed, fits, isReply⟩

end ResponseTime

/-- A measuring board says nothing but Replies. -/
theorem responseTimeBoard_speaks (cbor : Minicbor) :
    (responseTimeBoard cbor).Speaks cbor (· = .Reply) := by
  intro tr s ran l member frame onAir e decoded
  obtain ⟨reply, rfl, fits, isReply⟩ := ResponseTime.aired_reply ran member onAir
  rw [LoraController.decodeEnvelope_of_fits cbor fits] at decoded
  cases decoded
  exact isReply

/-! ## lora-display -/

/-- A display board says nothing but Counters. -/
theorem displayNodeBoard_speaks (cbor : Minicbor) : displayNodeBoard.Speaks cbor (· = .Counter) := by
  intro tr s ran l member frame onAir e decoded
  obtain ⟨sent, rfl, received⟩ := DisplayNode.aired_beacon cbor ran member onAir
  obtain ⟨before, after, rfl⟩ := List.append_of_mem member
  obtain ⟨timestampMs, rfl⟩ := DisplayNode.sent_beacon ran
  rw [received] at decoded
  cases decoded
  rfl

/-! ## Together -/

/-- The other boards of the repository: `μ` that measure, and `κ` with a display. -/
abbrev onlookers (cbor : Minicbor) (μ κ : Type*) : μ ⊕ κ → Board Frame
  | .inl _ => responseTimeBoard cbor
  | .inr _ => displayNodeBoard

theorem onlookers_tame (cbor : Minicbor) (μ κ : Type*) (b : μ ⊕ κ) :
    (onlookers cbor μ κ b).Speaks cbor Tame := by
  cases b with
  | inl => exact (responseTimeBoard_speaks cbor).mono fun type is => by simp [Tame, is]
  | inr => exact (displayNodeBoard_speaks cbor).mono fun type is => by simp [Tame, is]

namespace Broadcast

variable {δ μ κ : Type*} [DecidableEq δ] [DecidableEq μ] [DecidableEq κ] {medium : Medium Frame}

/-- **With any number of boards of every program in range, the reports of the gateway are
true**, over any medium, while fewer than `2^16` requests were admitted. -/
theorem concord_of_programs {s : Broadcast cbor δ (onlookers cbor μ κ)}
    {tr : List (BroadcastLabel cbor δ (onlookers cbor μ κ))}
    (ran : run (Fleet.step medium) Fleet.start tr = some s)
    (few : (admitted (GatewayNode.ingressEvents (nodeTrace tr))).length ≤ 65535) : Concord tr s :=
  concord_of_run (onlookers_tame cbor μ κ) ran few

/-- One message, and its request on the air; a measuring board hears it and replies. -/
def interrupted : List (BroadcastLabel .reference Unit (onlookers .reference Unit Unit)) :=
  let request := sampleRequest.toLoraEnvelope
  let reply : LoraEnvelope := .new .Reply 0 5000 0 []
  let heard (e : LoraEnvelope) : RadioRx := .done (.ok (OutgoingFrame.framed e, sampleStatus))
  let measures (label : ResponseLabel) := .act (.bystander (.inl ())) label
  [.act .gateway (NodeLabel.ingress .locked),
    .act .gateway (NodeLabel.ingress (.received (.ok ("esp32/open", [1, 2, 3])) 1000)),
    .act .gateway (NodeLabel.ingress (.enqueued sampleRequest)),
    .act .gateway (NodeLabel.ingress .slept), atGateway (.received .timeout),
    atGateway (.polled (some sampleRequest)), atGateway (.sent request (.ok ())),
    measures (.receive .rngLocked), measures (.receive .locked),
    measures (.receive (.received (heard request) 5000000)), measures (.receive (.rssiLocked 5000000)),
    measures (.receive .elapsedLocked), measures (.receive (.enqueued reply)),
    measures (.send (.taken reply)), measures (.send .locked), measures (.send (.sent reply (.ok ()))),
    atGateway (.received (heard reply)), atGateway (.polled none)]

theorem concord_of_interrupted :
    ∃ s, run (Fleet.step .lossyFifo) Fleet.start interrupted = some s ∧ Concord interrupted s := by
  have runs : (run (Fleet.step .lossyFifo) Fleet.start interrupted).isSome := by decide
  obtain ⟨s, ran⟩ := Option.isSome_iff_exists.mp runs
  exact ⟨s, ran, concord_of_programs ran (by decide)⟩

/-- But a measuring board in range can make the gateway drop a request without a report. -/
theorem measuring_board_drops_request :
    ∃ s, run (Fleet.step .lossyFifo) Fleet.start interrupted = some s ∧
      ¬ ∃ exchanges, GatewayNode.EndToEnd (nodeTrace interrupted) (s.board .gateway) exchanges := by
  have runs : (run (Fleet.step .lossyFifo) Fleet.start interrupted).isSome := by decide
  obtain ⟨s, ran⟩ := Option.isSome_iff_exists.mp runs
  have node : (run (Fleet.step .lossyFifo) Fleet.start interrupted).map (fun s => s.board .gateway) =
      some (⟨⟨.lock, 1, 2⟩, .init, .init, .empty, .empty⟩ : GatewayNode) := by decide
  rw [ran, Option.map_some, Option.some.injEq] at node
  refine ⟨s, ran, ?_⟩
  rintro ⟨exchanges, ends⟩
  rw [node] at ends
  have requests : 1 = exchanges.length := by
    have count := congrArg List.length ends.requests
    have one : (accepted (GatewayNode.ingressEvents (nodeTrace interrupted))).length = 1 := by decide
    rw [one] at count
    simpa [GatewayTask.sender, GatewayTask.init, StopAndWait.Sender.inHand, IngressTask.blocked,
      Channel.empty] using count
  have results : 0 = exchanges.length := by
    have count := congrArg List.length ends.results
    have none : GatewayNode.published (nodeTrace interrupted) = [] := by decide
    rw [none] at count
    simpa [EgressTask.inHand, EgressTask.init, Channel.empty] using count
  omega

/-- **Beacons lose no request**: with one device the node is first in, first out, from
backend to backend, whatever is on the displays around it. -/
theorem end_to_end_among_beacons [Subsingleton δ] {s : Broadcast cbor δ fun _ : κ => displayNodeBoard}
    {tr : List (BroadcastLabel cbor δ fun _ : κ => displayNodeBoard)}
    (ran : run (Fleet.step medium) Fleet.start tr = some s) :
    ∃ exchanges, GatewayNode.EndToEnd (nodeTrace tr) (s.board .gateway) exchanges := by
  have counts (_ : κ) := displayNodeBoard_speaks cbor
  refine single_device_end_to_end (fun b => (counts b).mono fun type is => ?_)
    (fun b => (counts b).mono fun type is => ?_) ran
  · simp [Tame, is]
  · simp [is]

/-- The gateway hears a beacon first, then does its work. -/
def beaconFirst : List (BroadcastLabel .reference Unit fun _ : Unit => displayNodeBoard) :=
  let beacon := Beacon.message 0 0 1000
  let shows (event : BeaconEvent) := .act (.bystander ()) (DisplayNodeLabel.main event)
  [shows (.cleared true), shows (.drawn 0 1000000), shows .locked, shows (.sent beacon (.ok ())),
    atGateway (.received (.done (.ok (OutgoingFrame.framed beacon, sampleStatus)))),
    atGateway (.polled none)] ++ delivery ()

theorem end_to_end_of_beaconFirst :
    ∃ (s : Broadcast .reference Unit fun _ : Unit => displayNodeBoard) (exchanges : _),
      run (Fleet.step .adversarial) Fleet.start beaconFirst = some s ∧
        GatewayNode.EndToEnd (nodeTrace beaconFirst) (s.board .gateway) exchanges := by
  have runs : (run (Fleet.step .adversarial) Fleet.start beaconFirst).isSome := by decide +kernel
  obtain ⟨s, ran⟩ := Option.isSome_iff_exists.mp runs
  obtain ⟨exchanges, ends⟩ := end_to_end_among_beacons ran
  exact ⟨s, exchanges, ran, ends⟩

end Broadcast

end HaviliarIot
