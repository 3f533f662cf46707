import HaviliarIot.TwoNode

/-!
The two parts `task_lora_gateway` plays against itself.

A node that hears only Acks is a requester: its slot holds a request it sent, and
it never acknowledges anything (`Requesting`).  A node whose forward channel is
empty and that hears only Opens and Replies is a responder: its slot holds its own
Ack of an Open it handled, and it never forwards or reports anything
(`Responding`).  What the one puts on the air is what the other may hear; that
closes the circle in the two-node system.

Both parts are stated over two properties of envelopes, for what was sent or heard
and for what was handled, so that a history can be substituted for them.
-/

namespace HaviliarIot

variable {cbor : Minicbor} {g g' : GatewayTask} {event : GatewayEvent} {frame : Frame}

/-! ## What goes on the air -/

theorem aired_of_sent {e : LoraEnvelope} {driver : Except RadioError Unit}
    (onAir : frame ∈ (GatewayEvent.sent e driver).aired) :
    driver = .ok () ∧ e.intoOutgoing.isSome ∧ frame = OutgoingFrame.framed e := by
  cases driver with
  | error failure => cases onAir
  | ok =>
    cases outgoing : e.intoOutgoing with
    | none =>
      simp [GatewayEvent.aired, GatewayEvent.handed,
        LoraController.sendMessageEnvelope_refused outgoing] at onAir
    | some accepted =>
      have fits : e.intoOutgoing.isSome := Option.isSome_iff_exists.mpr ⟨accepted, outgoing⟩
      simp only [GatewayEvent.aired, GatewayEvent.handed,
        LoraController.sendMessageEnvelope_fits fits, Option.toList_some, List.mem_singleton] at onAir
      exact ⟨rfl, rfl, onAir⟩

/-- A retransmission of a current envelope airs what its first transmission did. -/
theorem aired_of_resent {pending : LoraEnvelope} {driver : Except RadioError Unit}
    (current : pending.version = protocolVersion) :
    (GatewayEvent.resent pending driver).aired = (GatewayEvent.sent pending driver).aired := by
  cases driver with
  | error failure => rfl
  | ok =>
    simp only [GatewayEvent.aired, GatewayEvent.handed, LoraController.sendMessage_rebuilt current]

theorem actuating_of_opened {e : LoraEnvelope} (rule : GatewayStep cbor g (.opened e) g') :
    g.pc = .actuate e := by
  cases rule with
  | opened => rfl

/-! ## The requester -/

/-- A node that only requests: `Sent` is what it transmitted, `Handled` what its
peer acknowledged. -/
structure Requesting (Sent Handled : LoraEnvelope → Prop) (g : GatewayTask) : Prop where
  slot : ∀ pending, g.pendingForward = some pending → Sent pending
  actuates : ∀ envelope, g.pc ≠ .actuate envelope
  acks : ∀ ack, g.pc ≠ .sendAck ack
  /-- A success under way is for the request in the slot, and was made of an Ack
  of an Open with its sequence number. -/
  replies : ∀ result, g.pc = .sendReply result ∨ g.pc = .enqueueSuccess result →
    ∃ pending opener, g.pendingForward = some pending ∧ Handled opener ∧
      pending.seq = opener.seq ∧ result = successResult pending (ackFor opener)

namespace Requesting

variable {Sent Handled Sent' Handled' : LoraEnvelope → Prop}

theorem init : Requesting Sent Handled .init := by
  constructor <;> simp [GatewayTask.init]

theorem mono (requesting : Requesting Sent Handled g) (sent : ∀ e, Sent e → Sent' e)
    (handled : ∀ e, Handled e → Handled' e) : Requesting Sent' Handled' g := by
  refine ⟨fun pending held => sent pending (requesting.slot pending held), requesting.actuates,
    requesting.acks, ?_⟩
  intro result replying
  obtain ⟨pending, opener, held, was, same, made⟩ := requesting.replies result replying
  exact ⟨pending, opener, held, handled opener was, same, made⟩

/-- A requester that hears only Acks of what its peer handled stays one. -/
theorem step (requesting : Requesting Sent Handled g) (rule : GatewayStep cbor g event g')
    (hears : ∀ e, event.heard cbor = some e → ∃ opener, e = ackFor opener ∧ Handled opener)
    (sends : ∀ e ∈ event.forwarded, Sent e) : Requesting Sent Handled g' := by
  obtain ⟨slot, actuates, acks, replies⟩ := requesting
  cases rule with
  | @ackMatched rx ack pending heard isAck same =>
    obtain ⟨opener, rfl, handled⟩ := hears ack heard
    refine ⟨slot, by simp, by simp, ?_⟩
    intro result replying
    rcases replying with replying | replying
    · cases replying
      exact ⟨pending, opener, rfl, handled, same, rfl⟩
    · cases replying
  | @openHeard rx envelope tenant heard isOpen =>
    obtain ⟨opener, rfl, -⟩ := hears envelope heard
    cases isOpen
  | @replyHeard rx envelope tenant heard isReply =>
    obtain ⟨opener, rfl, -⟩ := hears envelope heard
    cases isReply
  | @opened envelope tenant => exact absurd rfl (actuates envelope)
  | @ackSent ack driver tenant => exact absurd rfl (acks ack)
  | @replySent result driver tenant =>
    refine ⟨slot, by simp, by simp, ?_⟩
    intro result' replying
    rcases replying with replying | replying
    · cases replying
    · cases replying
      exact replies result (.inl rfl)
  | successEnqueued | polledEmpty | dequeued =>
    exact ⟨by simp, by simp, by simp, by simp⟩
  | @forwarded request driver tenant ok =>
    refine ⟨?_, by simp, by simp, by simp⟩
    intro pending held
    cases held
    apply sends _
    simp [GatewayEvent.forwarded, request.msgType_eq, ok]
  | ignored | radioError | timedOut | backedOff | resent | forwardFailed | failureEnqueued =>
    exact ⟨slot, by simp, by simp, by simp⟩

/-- A requester puts on the air its requests and Replies. -/
theorem airs (requesting : Requesting Sent Handled g) (shape : g.Shape)
    (rule : GatewayStep cbor g event g') (sends : ∀ e ∈ event.forwarded, Sent e)
    (onAir : frame ∈ event.aired) :
    ∃ e, frame = OutgoingFrame.framed e ∧ e.intoOutgoing.isSome ∧ (Sent e ∨ e.msgType = .Reply) := by
  cases rule with
  | @ackSent ack driver tenant => exact absurd rfl (requesting.acks ack)
  | @replySent result driver tenant =>
    obtain ⟨-, fits, framed⟩ := aired_of_sent onAir
    obtain ⟨pending, opener, -, -, -, rfl⟩ := requesting.replies result (.inl rfl)
    exact ⟨_, framed, fits, .inr rfl⟩
  | @resent pending driver =>
    rw [aired_of_resent (shape.version pending rfl)] at onAir
    obtain ⟨-, fits, framed⟩ := aired_of_sent onAir
    exact ⟨_, framed, fits, .inl (requesting.slot pending rfl)⟩
  | @forwarded request driver tenant ok =>
    obtain ⟨-, fits, framed⟩ := aired_of_sent onAir
    refine ⟨_, framed, fits, .inl (sends _ ?_)⟩
    simp [GatewayEvent.forwarded, request.msgType_eq, ok]
  | @forwardFailed request driver e tenant failed =>
    obtain ⟨rfl, fits, -⟩ := aired_of_sent onAir
    rw [LoraController.sendMessageEnvelope_fits fits] at failed
    cases failed
  | _ => cases onAir

/-- What a requester answers are requests it sent or failed to send. -/
theorem answers_request (requesting : Requesting Sent Handled g)
    (rule : GatewayStep cbor g event g') (requests : ∀ e, Sent e → e.msgType = .Open) :
    ∀ answer ∈ event.answers, answer.1.msgType = .Open := by
  intro answer member
  cases rule with
  | @successEnqueued result pending =>
    rw [List.mem_singleton.mp member]
    exact requests pending (requesting.slot pending rfl)
  | @failureEnqueued request tenant =>
    rw [List.mem_singleton.mp member]
    exact request.msgType_eq
  | _ => cases member

end Requesting

/-! ## The responder -/

/-- A node that only responds: `Heard` is what it received, `Handled` what it
opened the gate for. -/
structure Responding (Heard Handled : LoraEnvelope → Prop) (g : GatewayTask) : Prop where
  slot : ∀ pending, g.pendingForward = some pending → ∃ opener, pending = ackFor opener ∧ Handled opener
  actuating : ∀ envelope, g.pc = .actuate envelope → Heard envelope
  acking : ∀ ack, g.pc = .sendAck ack → ∃ opener, ack = ackFor opener ∧ Handled opener
  replies : ∀ result, g.pc ≠ .sendReply result
  reports : ∀ result, g.pc ≠ .enqueueSuccess result
  forwards : ∀ request, g.pc ≠ .forward request
  fails : ∀ request, g.pc ≠ .enqueueFailure request

namespace Responding

variable {Heard Handled Heard' Handled' : LoraEnvelope → Prop}

theorem init : Responding Heard Handled .init := by
  constructor <;> simp [GatewayTask.init]

theorem mono (responding : Responding Heard Handled g) (heard : ∀ e, Heard e → Heard' e)
    (handled : ∀ e, Handled e → Handled' e) : Responding Heard' Handled' g := by
  refine ⟨?_, fun e at_ => heard e (responding.actuating e at_), ?_, responding.replies,
    responding.reports, responding.forwards, responding.fails⟩
  · intro pending held
    obtain ⟨opener, made, was⟩ := responding.slot pending held
    exact ⟨opener, made, handled opener was⟩
  · intro ack atSend
    obtain ⟨opener, made, was⟩ := responding.acking ack atSend
    exact ⟨opener, made, handled opener was⟩

/-- A responder that hears only Opens and Replies and dequeues nothing stays one. -/
theorem step (responding : Responding Heard Handled g) (rule : GatewayStep cbor g event g')
    (idle : event.taken = [])
    (hears : ∀ e, event.heard cbor = some e → e.msgType = .Open ∧ Heard e ∨ e.msgType = .Reply)
    (opens : ∀ e, event = .opened e → Heard e → Handled e) : Responding Heard Handled g' := by
  obtain ⟨slot, actuating, acking, replies, reports, forwards, fails⟩ := responding
  cases rule with
  | @ackMatched rx ack pending heard isAck same =>
    rcases hears ack heard with ⟨isOpen, -⟩ | isReply
    · cases isAck.symm.trans isOpen
    · cases isAck.symm.trans isReply
  | @openHeard rx envelope tenant heard isOpen =>
    refine ⟨slot, ?_, by simp, by simp, by simp, by simp, by simp⟩
    intro envelope' atOpen
    cases atOpen
    rcases hears envelope heard with ⟨-, was⟩ | isReply
    · exact was
    · cases isOpen.symm.trans isReply
  | @opened envelope tenant =>
    refine ⟨slot, by simp, ?_, by simp, by simp, by simp, by simp⟩
    intro ack atSend
    cases atSend
    exact ⟨envelope, rfl, opens envelope rfl (actuating envelope rfl)⟩
  | @ackSent ack driver tenant =>
    refine ⟨?_, by simp, by simp, by simp, by simp, by simp, by simp⟩
    intro pending held
    cases held
    exact acking ack rfl
  | @replySent result driver tenant => exact absurd rfl (replies result)
  | @successEnqueued result pending => exact absurd rfl (reports result)
  | @dequeued request => cases idle
  | @forwarded request driver tenant ok => exact absurd rfl (forwards request)
  | @forwardFailed request driver e tenant failed => exact absurd rfl (forwards request)
  | @failureEnqueued request tenant => exact absurd rfl (fails request)
  | replyHeard | polledEmpty =>
    exact ⟨by simp, by simp, by simp, by simp, by simp, by simp, by simp⟩
  | ignored | radioError | timedOut | backedOff | resent =>
    exact ⟨slot, by simp, by simp, by simp, by simp, by simp, by simp⟩

/-- A responder puts on the air its Acks of what it handled. -/
theorem airs (responding : Responding Heard Handled g) (rule : GatewayStep cbor g event g')
    (onAir : frame ∈ event.aired) :
    ∃ opener, frame = OutgoingFrame.framed (ackFor opener) ∧ Handled opener := by
  cases rule with
  | @ackSent ack driver tenant =>
    obtain ⟨-, -, framed⟩ := aired_of_sent onAir
    obtain ⟨opener, rfl, handled⟩ := responding.acking ack rfl
    exact ⟨opener, framed, handled⟩
  | @replySent result driver tenant => exact absurd rfl (responding.replies result)
  | @resent pending driver =>
    obtain ⟨opener, rfl, handled⟩ := responding.slot pending rfl
    rw [aired_of_resent rfl] at onAir
    exact ⟨opener, (aired_of_sent onAir).2.2, handled⟩
  | @forwarded request driver tenant ok => exact absurd rfl (responding.forwards request)
  | @forwardFailed request driver e tenant failed => exact absurd rfl (responding.forwards request)
  | _ => cases onAir

end Responding

end HaviliarIot
