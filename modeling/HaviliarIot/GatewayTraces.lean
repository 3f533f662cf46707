import HaviliarIot.Gateway
import HaviliarIot.Runs

/-!
What a trace of `task_lora_gateway` shows, and the invariants of the loop that
need no ledger.

The views (`dequeued`, `answers`, `forwarded`, ...) read a trace only; they say
nothing about the state.  `Shape` is what every branch that fills
`pending_forward` establishes: the protocol version, one of two message types,
and what each await in the middle of a branch has in hand.  `Resendable` adds
that whatever is in the slot was handed to the radio once, in a frame.

`resend_is_first_send` is the consequence for the resend path: it never fails to
encode, and its bytes are those of the first transmission.
-/

namespace HaviliarIot

open Runs

/-! ## Views of a trace -/

namespace GatewayEvent

/-- The envelope this event delivers from the radio. -/
def heard (cbor : Minicbor) : GatewayEvent → Option LoraEnvelope
  | received rx => rx.heard cbor
  | _ => none

/-- The request this event takes off the forward channel. -/
def dequeued : GatewayEvent → List LoraEnvelope
  | polled (some request) => [request.toLoraEnvelope]
  | _ => []

/-- The result this event puts on the result channel, with what it answers. -/
def answers : GatewayEvent → List (LoraEnvelope × LoraEnvelope)
  | enqueued onBehalf result => [(onBehalf, result)]
  | _ => []

/-- The Open this event transmits for the first time, and the driver took. -/
def forwarded : GatewayEvent → List LoraEnvelope
  | sent envelope driver =>
    if envelope.msgType = .Open ∧
      (LoraController.sendMessageEnvelope driver envelope).result = .ok () then [envelope] else []
  | _ => []

/-- The Open this event failed to transmit. -/
def refused : GatewayEvent → List LoraEnvelope
  | sent envelope driver =>
    if envelope.msgType = .Open ∧
      (LoraController.sendMessageEnvelope driver envelope).result ≠ .ok () then [envelope] else []
  | _ => []

/-- The envelope this event hands to the radio, whatever the driver answers. -/
def transmits : GatewayEvent → Option LoraEnvelope
  | sent envelope _ => some envelope
  | resent pending _ => some pending
  | _ => none

/-- The bytes this event hands to the radio. -/
def handed : GatewayEvent → Option (List UInt8)
  | sent envelope driver => (LoraController.sendMessageEnvelope driver envelope).handed
  | resent pending driver =>
    (LoraController.sendMessage driver pending.msgType pending.seq pending.timestampMs
      pending.elapsedMs pending.payload).handed
  | _ => none

end GatewayEvent

/-- The requests taken off the forward channel, in order. -/
def dequeued (tr : List GatewayEvent) : List LoraEnvelope := tr.flatMap GatewayEvent.dequeued

/-- The results put on the result channel, each with the envelope it answers. -/
def answers (tr : List GatewayEvent) : List (LoraEnvelope × LoraEnvelope) :=
  tr.flatMap GatewayEvent.answers

/-- The requests transmitted successfully, in order. -/
def forwarded (tr : List GatewayEvent) : List LoraEnvelope := tr.flatMap GatewayEvent.forwarded

/-- The requests whose transmission failed, in order. -/
def refused (tr : List GatewayEvent) : List LoraEnvelope := tr.flatMap GatewayEvent.refused

/-- A success result, by its text. -/
def IsSuccess (result : LoraEnvelope) : Prop :=
  result.payload = asciiBytes "LoRa forward ACK received"

instance : DecidablePred IsSuccess := fun result =>
  inferInstanceAs (Decidable (result.payload = _))

/-- A failure result, by its text. -/
def IsFailure (result : LoraEnvelope) : Prop := result.payload = asciiBytes "LoRa send failed"

/-- The success results enqueued, each with the envelope it answers. -/
def successes (tr : List GatewayEvent) : List (LoraEnvelope × LoraEnvelope) :=
  (answers tr).filter fun answer => IsSuccess answer.2

theorem isSuccess_successResult (pending ack : LoraEnvelope) :
    IsSuccess (successResult pending ack) := rfl

theorem isFailure_failureResult (request : LoraEnvelope) : IsFailure (failureResult request) := rfl

theorem not_isSuccess_of_isFailure {result : LoraEnvelope} (failure : IsFailure result) :
    ¬ IsSuccess result := by
  intro success
  have same := failure.symm.trans success
  exact absurd same (by decide)

/-! ## The shape of a reachable state -/

namespace GatewayTask

/-- What holds of the slot and of what a branch has in hand between two awaits. -/
structure Shape (s : GatewayTask) : Prop where
  version : ∀ pending, s.pendingForward = some pending → pending.version = protocolVersion
  type : ∀ pending, s.pendingForward = some pending →
    pending.msgType = .Open ∨ pending.msgType = .Ack
  forwarding : ∀ request, s.pc = .forward request ∨ s.pc = .enqueueFailure request →
    s.pendingForward = none
  acking : ∀ ack, s.pc = .sendAck ack → ∃ envelope, ack = ackFor envelope
  replying : ∀ result, s.pc = .sendReply result ∨ s.pc = .enqueueSuccess result →
    ∃ pending ack, s.pendingForward = some pending ∧ result = successResult pending ack

variable {cbor : Minicbor} {s s' : GatewayTask} {event : GatewayEvent} {tr : List GatewayEvent}

theorem shape_init : Shape init := by
  constructor <;> simp [init]

theorem shape_step (shape : Shape s) (rule : GatewayStep cbor s event s') : Shape s' := by
  obtain ⟨version, type, forwarding, acking, replying⟩ := shape
  cases rule with
  | @ackMatched rx ack pending heard isAck same =>
    refine ⟨version, type, by simp, by simp, ?_⟩
    intro result atReply
    rcases atReply with atReply | atReply
    · cases atReply
      exact ⟨pending, ack, rfl, rfl⟩
    · cases atReply
  | openHeard | ignored | radioError | timedOut | backedOff | resent =>
    exact ⟨version, type, by simp, by simp, by simp⟩
  | replyHeard | successEnqueued | polledEmpty =>
    exact ⟨by simp, by simp, by simp, by simp, by simp⟩
  | @opened envelope slot =>
    refine ⟨version, type, by simp, ?_, by simp⟩
    intro ack atSend
    cases atSend
    exact ⟨envelope, rfl⟩
  | @ackSent ack driver slot =>
    obtain ⟨envelope, rfl⟩ := acking ack rfl
    refine ⟨?_, ?_, by simp, by simp, by simp⟩
    · intro pending held
      cases Option.some.inj held
      rfl
    · intro pending held
      cases Option.some.inj held
      exact .inr rfl
  | @replySent result driver slot =>
    refine ⟨version, type, by simp, by simp, ?_⟩
    intro result' atEnqueue
    rcases atEnqueue with atEnqueue | atEnqueue
    · cases atEnqueue
    · cases atEnqueue
      exact replying result (.inl rfl)
  | dequeued =>
    exact ⟨by simp, by simp, by simp, by simp, by simp⟩
  | @forwarded request driver slot ok =>
    refine ⟨?_, ?_, by simp, by simp, by simp⟩
    · intro pending held
      cases Option.some.inj held
      exact request.version_eq
    · intro pending held
      cases Option.some.inj held
      exact .inl request.msgType_eq
  | @forwardFailed request driver e slot failed =>
    refine ⟨version, type, ?_, by simp, by simp⟩
    intro _ _
    exact forwarding request (.inl rfl)
  | failureEnqueued =>
    exact ⟨version, type, by simp, by simp, by simp⟩

/-- Every reachable state has the shape. -/
theorem shape_of_run (ran : run (step cbor) init tr = some s) : Shape s :=
  run_induction (P := fun _ s => Shape s) shape_init
    (fun _ shape taken => shape_step shape (step_iff.mp taken)) ran

/-- Every result enqueued was made from the envelope it answers. -/
theorem answers_of_run (ran : run (step cbor) init tr = some s) :
    ∀ answer ∈ answers tr, (∃ ack, answer.2 = successResult answer.1 ack) ∨
      answer.2 = failureResult answer.1 := by
  refine run_induction (P := fun tr _ => ∀ answer ∈ answers tr,
    (∃ ack, answer.2 = successResult answer.1 ack) ∨ answer.2 = failureResult answer.1) ?_ ?_ ran
  · intro answer member
    cases member
  · intro tr s event s' first before taken answer member
    rw [answers, List.flatMap_append, List.mem_append] at member
    rcases member with member | member
    · exact before answer member
    · have shape := shape_of_run first
      cases step_iff.mp taken with
      | @successEnqueued result pending =>
        simp only [List.flatMap_cons, GatewayEvent.answers, List.flatMap_nil, List.append_nil,
          List.mem_singleton] at member
        obtain ⟨pending', ack, held, rfl⟩ := shape.replying result (.inr rfl)
        cases held
        subst member
        exact .inl ⟨ack, rfl⟩
      | @failureEnqueued request slot =>
        simp only [List.flatMap_cons, GatewayEvent.answers, List.flatMap_nil, List.append_nil,
          List.mem_singleton] at member
        subst member
        exact .inr rfl
      | _ => simp [GatewayEvent.answers] at member

/-- A result carries the sequence number of the envelope it answers. -/
theorem answers_seq (ran : run (step cbor) init tr = some s) :
    ∀ answer ∈ answers tr, answer.2.seq = answer.1.seq := by
  intro answer member
  rcases answers_of_run ran answer member with ⟨ack, made⟩ | made
  · rw [made]
    rfl
  · rw [made]
    rfl

/-! ## The slot holds what was transmitted -/

/-- What is in the slot fits a frame, and was sent once through the first-send
path. -/
def Transmitted (tr : List GatewayEvent) (s : GatewayTask) : Prop :=
  ∀ pending, s.pendingForward = some pending →
    pending.intoOutgoing.isSome ∧ ∃ driver, GatewayEvent.sent pending driver ∈ tr

theorem ackFor_fits (envelope : LoraEnvelope) : (ackFor envelope).intoOutgoing.isSome := by
  rw [encodable_iff]
  exact (by decide : (asciiBytes "ACK").length ≤ maxAppPayload)

theorem transmitted_step (shape : Shape s) (before : Transmitted tr s)
    (rule : GatewayStep cbor s event s') : Transmitted (tr ++ [event]) s' := by
  have kept : ∀ {pending}, s.pendingForward = some pending →
      pending.intoOutgoing.isSome ∧ ∃ driver, GatewayEvent.sent pending driver ∈ tr ++ [event] := by
    intro pending held
    obtain ⟨fits, driver, sent⟩ := before pending held
    exact ⟨fits, driver, List.mem_append_left _ sent⟩
  intro pending held
  cases rule with
  | ackMatched | openHeard | ignored | radioError | timedOut | backedOff | opened | replySent
  | resent | forwardFailed | failureEnqueued => exact kept held
  | replyHeard | successEnqueued | polledEmpty | dequeued => cases held
  | @ackSent ack driver slot =>
    cases Option.some.inj held
    obtain ⟨envelope, rfl⟩ := shape.acking _ rfl
    exact ⟨ackFor_fits envelope, driver, by simp⟩
  | @forwarded request driver slot ok =>
    cases Option.some.inj held
    exact ⟨LoraController.fits_of_sent ok, driver, by simp⟩

theorem transmitted_of_run (ran : run (step cbor) init tr = some s) : Transmitted tr s := by
  refine run_induction (P := Transmitted) ?_ ?_ ran
  · intro pending held
    cases held
  · intro tr s event s' first before taken
    exact transmitted_step (shape_of_run first) before (step_iff.mp taken)

/-- **A retransmission is always possible and always the same frame.**  Whatever
is in the slot fits a frame; it was sent through `send_message_envelope`, and
`send_message` hands the radio the same bytes again whatever the driver does. -/
theorem resend_is_first_send {pending : LoraEnvelope} (ran : run (step cbor) init tr = some s)
    (held : s.pendingForward = some pending) :
    ∃ frame driver, pending.intoOutgoing = some frame ∧
      GatewayEvent.sent pending driver ∈ tr ∧
      (GatewayEvent.sent pending driver).handed = some frame.asSlice ∧
      ∀ driver', (GatewayEvent.resent pending driver').handed = some frame.asSlice := by
  obtain ⟨fits, driver, sent⟩ := transmitted_of_run ran pending held
  obtain ⟨frame, accepted⟩ := Option.isSome_iff_exists.mp fits
  have bytes : ∀ driver, (LoraController.sendMessageEnvelope driver pending).handed =
      some frame.asSlice := by
    intro driver
    rw [LoraController.sendMessageEnvelope, accepted]
    rfl
  refine ⟨frame, driver, accepted, sent, bytes driver, ?_⟩
  intro driver'
  have current := (shape_of_run ran).version pending held
  rw [GatewayEvent.handed, LoraController.sendMessage_rebuilt current]
  exact bytes driver'

theorem resend_of_sample_request :
    ∃ frame driver, sampleRequest.toLoraEnvelope.intoOutgoing = some frame ∧
      GatewayEvent.sent sampleRequest.toLoraEnvelope driver ∈
        [.received .timeout, .polled (some sampleRequest),
          .sent sampleRequest.toLoraEnvelope (.ok ())] ∧
      (GatewayEvent.sent sampleRequest.toLoraEnvelope driver).handed = some frame.asSlice ∧
      ∀ driver', (GatewayEvent.resent sampleRequest.toLoraEnvelope driver').handed =
        some frame.asSlice := by
  have ran : run (step .reference) init [.received .timeout, .polled (some sampleRequest),
      .sent sampleRequest.toLoraEnvelope (.ok ())] =
      some ⟨.receive, some sampleRequest.toLoraEnvelope⟩ := by decide
  exact resend_is_first_send ran rfl

end GatewayTask

end HaviliarIot
