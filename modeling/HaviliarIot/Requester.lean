import HaviliarIot.GatewayLedger
import HaviliarIot.StopAndWait

/-!
`task_lora_gateway` as the sender of a stop-and-wait protocol: "enviar um forward e
esperar o ACK antes de enviar outro".

The loop also answers peers, and both uses share `pending_forward`; what an Open or
a Reply does to the slot is not in the protocol.  A run that hears no Open, and no
Reply while a request waits (`Attentive`), refines `StopAndWait.step`: each step is
one of the sender's, or none of its business (`attentive_refines`).  The sender's
law then holds of the loop.
-/

namespace HaviliarIot

open Runs

/-- What this event means to a stop-and-wait sender; a transmission counts when the
driver reports it as sent. -/
def GatewayEvent.exchange : GatewayEvent → Option (StopAndWait.Label LoraEnvelope)
  | polled (some request) => some (.take request.toLoraEnvelope)
  | sent envelope driver =>
    if envelope.msgType = .Open ∧
      (LoraController.sendMessageEnvelope driver envelope).result = .ok () then some (.air envelope)
    else none
  | resent pending (.ok ()) => some (.air pending)
  | enqueued onBehalf result => some (if IsSuccess result then .deliver onBehalf else .fail onBehalf)
  | received _ | backedOff | opened _ | polled none | resent _ (.error _) => none

/-- The requests taken are those dequeued. -/
theorem takes_eq_dequeued (tr : List GatewayEvent) :
    (tr.filterMap GatewayEvent.exchange).flatMap StopAndWait.Label.takes = dequeued tr := by
  induction tr with
  | nil => rfl
  | cons event rest ih =>
    rw [dequeued, List.flatMap_cons, ← dequeued, ← ih]
    cases event with
    | polled request => cases request <;> rfl
    | sent envelope driver =>
      by_cases first : envelope.msgType = .Open ∧
        (LoraController.sendMessageEnvelope driver envelope).result = .ok ()
      · simp [GatewayEvent.exchange, GatewayEvent.dequeued, first, StopAndWait.Label.takes]
      · simp [GatewayEvent.exchange, GatewayEvent.dequeued, first]
    | resent pending driver => cases driver <;> rfl
    | enqueued onBehalf result =>
      by_cases success : IsSuccess result <;>
        simp [GatewayEvent.exchange, GatewayEvent.dequeued, success, StopAndWait.Label.takes]
    | _ => rfl

/-- The requests let go are those answered, and delivered where the answer says so. -/
theorem settles_eq_answers (tr : List GatewayEvent) :
    (tr.filterMap GatewayEvent.exchange).flatMap StopAndWait.Label.settles =
      (answers tr).map fun answer => (answer.1, decide (IsSuccess answer.2)) := by
  induction tr with
  | nil => rfl
  | cons event rest ih =>
    rw [answers, List.flatMap_cons, ← answers, List.map_append, ← ih]
    cases event with
    | polled request => cases request <;> rfl
    | sent envelope driver =>
      by_cases first : envelope.msgType = .Open ∧
        (LoraController.sendMessageEnvelope driver envelope).result = .ok ()
      · simp [GatewayEvent.exchange, GatewayEvent.answers, first, StopAndWait.Label.settles]
      · simp [GatewayEvent.exchange, GatewayEvent.answers, first]
    | resent pending driver => cases driver <;> rfl
    | enqueued onBehalf result =>
      by_cases success : IsSuccess result <;>
        simp [GatewayEvent.exchange, GatewayEvent.answers, success, StopAndWait.Label.settles]
    | _ => rfl

/-- The sender the loop stands for. -/
def GatewayTask.sender (s : GatewayTask) : StopAndWait.Sender LoraEnvelope :=
  match s.pc with
  | .forward request | .enqueueFailure request => .taken request.toLoraEnvelope
  | _ => s.pendingForward.elim .idle .aired

/-- No Open is heard, and no Reply while something is in the slot. -/
def Attentive (cbor : Minicbor) (s : GatewayTask) (event : GatewayEvent) : Prop :=
  ∀ envelope ∈ event.heard cbor, envelope.msgType ≠ .Open ∧
    (envelope.msgType = .Reply → s.pendingForward = none)

instance (cbor : Minicbor) (s : GatewayTask) (event : GatewayEvent) :
    Decidable (Attentive cbor s event) :=
  inferInstanceAs (Decidable (∀ envelope ∈ event.heard cbor, _))

namespace GatewayTask

variable {cbor : Minicbor} {s s' : GatewayTask} {event : GatewayEvent} {tr : List GatewayEvent}

/-- The loop is not answering an Open. -/
structure Idle (s : GatewayTask) : Prop where
  actuates : ∀ envelope, s.pc ≠ .actuate envelope
  acks : ∀ ack, s.pc ≠ .sendAck ack

theorem idle_step (idle : Idle s) (attentive : Attentive cbor s event)
    (rule : GatewayStep cbor s event s') : Idle s' := by
  cases rule with
  | openHeard heard isOpen => exact absurd isOpen (attentive _ heard).1
  | @opened envelope => exact absurd rfl (idle.actuates envelope)
  | _ => exact ⟨by simp, by simp⟩

theorem idle_of_run (ran : run (step cbor) init tr = some s)
    (met : Throughout (step cbor) (Attentive cbor) init tr) : Idle s := by
  refine run_induction_of (P := fun _ s => Idle s) ⟨by simp [init], by simp [init]⟩ ?_ ran met
  intro tr s event s' _ idle attentive taken
  exact idle_step idle attentive (step_iff.mp taken)

/-- Each step of the loop is a step of the sender, or leaves it alone. -/
theorem sender_step (shape : Shape s) (idle : Idle s) (attentive : Attentive cbor s event)
    (rule : GatewayStep cbor s event s') :
    Projects StopAndWait.step GatewayEvent.exchange s.sender s'.sender event := by
  cases rule with
  | openHeard heard isOpen => exact absurd isOpen (attentive _ heard).1
  | @opened envelope => exact absurd rfl (idle.actuates envelope)
  | @ackSent ack => exact absurd rfl (idle.acks ack)
  | @replyHeard rx envelope slot heard isReply =>
    have empty : slot = none := (attentive _ heard).2 isReply
    subst empty
    rfl
  | @replySent result driver slot =>
    obtain ⟨pending, ack, held, rfl⟩ := shape.replying result (.inl rfl)
    have held : slot = some pending := held
    subst held
    rfl
  | @successEnqueued result pending =>
    obtain ⟨-, ack, -, rfl⟩ := shape.replying result (.inr rfl)
    simp [Projects, GatewayEvent.exchange, isSuccess_successResult, sender, StopAndWait.step]
  | @resent pending driver =>
    cases driver with
    | error e => rfl
    | ok => simp [Projects, GatewayEvent.exchange, sender, StopAndWait.step]
  | dequeued => rfl
  | @forwarded request driver slot ok =>
    simp [Projects, GatewayEvent.exchange, request.msgType_eq, ok, sender, StopAndWait.step]
  | @forwardFailed request driver e slot failed =>
    simp [Projects, GatewayEvent.exchange, failed, sender]
  | @failureEnqueued request slot =>
    have empty : slot = none := shape.forwarding request (.inr rfl)
    subst empty
    have failure := not_isSuccess_of_isFailure (isFailure_failureResult request.toLoraEnvelope)
    simp [Projects, GatewayEvent.exchange, failure, sender, StopAndWait.step]
  | ackMatched | ignored | radioError | timedOut | backedOff | polledEmpty => rfl

/-- The run of the sender that a run of the loop stands for. -/
theorem run_sender (ran : run (step cbor) init tr = some s)
    (met : Throughout (step cbor) (Attentive cbor) init tr) :
    run StopAndWait.step .idle (tr.filterMap GatewayEvent.exchange) = some s.sender := by
  refine run_refines sender ?_ ran met
  intro tr s event s' first met taken
  obtain ⟨metBefore, attentive⟩ := (throughout_snoc first).mp met
  exact sender_step (shape_of_run first) (idle_of_run first metBefore) attentive
    (step_iff.mp taken)

/-- **The loop refines the stop-and-wait sender**, and so handles one request after
another: takes it, transmits it as often as it likes, and reports it, as delivered
if it was on the air and as failed if it never was. -/
theorem attentive_refines (ran : run (step cbor) init tr = some s)
    (met : Throughout (step cbor) (Attentive cbor) init tr) :
    run StopAndWait.step .idle (tr.filterMap GatewayEvent.exchange) = some s.sender ∧
      StopAndWait.Sequential (tr.filterMap GatewayEvent.exchange) s.sender := by
  have refined := run_sender ran met
  exact ⟨refined, StopAndWait.sequential_of_run refined⟩

/-- One request, delivered. -/
theorem acknowledged_run_refines :
    run StopAndWait.step .idle (GatewayLedger.acknowledgedRun.filterMap GatewayEvent.exchange) =
        some .idle ∧
      StopAndWait.Sequential (GatewayLedger.acknowledgedRun.filterMap GatewayEvent.exchange)
        .idle := by
  have ran : run (step .reference) init GatewayLedger.acknowledgedRun = some ⟨.receive, none⟩ := by
    decide
  exact attentive_refines ran (by decide)

end GatewayTask

end HaviliarIot
