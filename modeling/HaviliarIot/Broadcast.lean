import HaviliarIot.Actuation
import HaviliarIot.Boards
import HaviliarIot.Pipeline

/-!
One gateway node, any number of devices, and bystanders with programs of their own, all
in range of each other.

A frame names no receiver, so every device hears every request, opens its gate and
answers, and hears the answers of the others.  A device takes another one's Ack for
the confirmation of its own and sends a Reply, and a Reply makes the gateway forget
the request it waits for.  So with several devices the gateway can lose requests
(`two_devices_drop_request`), and with one it cannot, unless a bystander sends Replies
(`single_device_end_to_end`).

What the gateway does report is true whoever is in range, as long as no bystander sends
Opens or Acks: a success means that some device opened the gate for that request, a
failure that none ever does (`concord_of_run`).

The proofs go back along the frames.  What a station transmits is accounted for by
what it did before and heard before (`Serving`, `Asking`), and what it heard another
one transmitted (`Fleet.source_of_heard`).
-/

namespace HaviliarIot

open Runs

/-! ## The stations -/

/-- The frame this label takes off the air. -/
def NodeLabel.frame : NodeLabel → Option Frame
  | gateway event => event.frame
  | ingress _ | egress _ => none

/-- The frames this label puts on the air. -/
def NodeLabel.aired : NodeLabel → List Frame
  | gateway event => event.aired
  | ingress _ | egress _ => []

/-- The three tasks of a gateway on one radio. -/
abbrev nodeBoard (cbor : Minicbor) : Board Frame where
  State := GatewayNode
  Label := NodeLabel
  step := GatewayNode.step cbor
  start := .init
  hears := NodeLabel.frame
  airs := NodeLabel.aired

/-- Who is in range. -/
inductive Role (δ β : Type*) where
  | gateway
  | device (d : δ)
  /-- A board with another program. -/
  | bystander (b : β)
  deriving DecidableEq

/-- What each of them runs. -/
abbrev station (cbor : Minicbor) (δ : Type*) {β : Type*} (others : β → Board Frame) :
    Role δ β → Board Frame
  | .gateway => nodeBoard cbor
  | .device _ => deviceBoard cbor
  | .bystander b => others b

variable {cbor : Minicbor}

/-- Every frame this board transmits, if it decodes at all, is a message of one of these
types. -/
def Board.Speaks (cbor : Minicbor) (types : MessageType → Prop) (b : Board Frame) : Prop :=
  ∀ tr s, run b.step b.start tr = some s → ∀ l ∈ tr, ∀ frame ∈ b.airs l,
    ∀ e, LoraParser.decodeEnvelope cbor frame = some e → types e.msgType

theorem Board.Speaks.mono {b : Board Frame} {types types' : MessageType → Prop}
    (speaks : b.Speaks cbor types) (weaker : ∀ type, types type → types' type) :
    b.Speaks cbor types' :=
  fun tr s ran l member frame onAir e decoded =>
    weaker _ (speaks tr s ran l member frame onAir e decoded)

/-- Neither Opens nor Acks: nothing that stands for a request or its answer. -/
def Tame (type : MessageType) : Prop := type ≠ .Open ∧ type ≠ .Ack

variable {g g' : GatewayTask} {event : GatewayEvent} {frame : Frame}

/-- What is heard is a frame taken off the air. -/
theorem frame_of_heard {e : LoraEnvelope} (is : event.heard cbor = some e) :
    ∃ frame status, event.frame = some frame ∧
      (RadioRx.done (.ok (frame, status))).heard cbor = some e := by
  cases event with
  | received rx =>
    cases rx with
    | timeout => cases is
    | done driver =>
      cases driver with
      | error failure => cases is
      | ok received => exact ⟨received.1, received.2, rfl, is⟩
  | _ => cases is

/-- What is heard is what its frame decodes to. -/
theorem decoded_of_heard {status : PacketStatus} {e : LoraEnvelope}
    (heard : (RadioRx.done (.ok (frame, status))).heard cbor = some e) :
    LoraParser.decodeEnvelope cbor frame = some e := by
  cases decoded : LoraParser.decodeEnvelope cbor frame with
  | none =>
    have refused : LoraController.receiveMessage cbor (.ok (frame, status)) = .error .Irq := by
      simp [LoraController.receiveMessage, decoded]
    simp [RadioRx.heard, RadioRx.result, refused, Except.map] at heard
  | some found =>
    have nonempty : frame ≠ [] := by
      rintro rfl
      cases decoded
    have received : LoraController.receiveMessage cbor (.ok (frame, status)) = .ok (found, status) := by
      simp [LoraController.receiveMessage, decoded, List.length_pos_iff.mpr nonempty]
    simpa [RadioRx.heard, RadioRx.result, received, Except.map] using heard

/-! ## A device -/

/-- A node that forwards nothing, whatever it hears: `Heard` is the Opens it received,
`Opened` what it opened the gate for. -/
structure Serving (Heard Opened : LoraEnvelope → Prop) (g : GatewayTask) : Prop where
  slot : ∀ pending, g.pendingForward = some pending → ∃ e, pending = ackFor e ∧ Opened e
  actuating : ∀ e, g.pc = .actuate e → Heard e
  acking : ∀ ack, g.pc = .sendAck ack → ∃ e, ack = ackFor e ∧ Opened e
  replies : ∀ result, g.pc = .sendReply result → result.msgType = .Reply
  forwards : ∀ request, g.pc ≠ .forward request

namespace Serving

variable {Heard Opened Heard' Opened' : LoraEnvelope → Prop}

theorem init : Serving Heard Opened .init := by
  constructor <;> simp [GatewayTask.init]

theorem mono (serving : Serving Heard Opened g) (heard : ∀ e, Heard e → Heard' e)
    (opened : ∀ e, Opened e → Opened' e) : Serving Heard' Opened' g := by
  refine ⟨?_, fun e at_ => heard e (serving.actuating e at_), ?_, serving.replies, serving.forwards⟩
  · intro pending held
    obtain ⟨e, made, was⟩ := serving.slot pending held
    exact ⟨e, made, opened e was⟩
  · intro ack atSend
    obtain ⟨e, made, was⟩ := serving.acking ack atSend
    exact ⟨e, made, opened e was⟩

/-- A device that dequeues nothing stays one. -/
theorem step (serving : Serving Heard Opened g) (rule : GatewayStep cbor g event g')
    (idle : event.taken = [])
    (hears : ∀ e, event.heard cbor = some e → e.msgType = .Open → Heard e)
    (opens : ∀ e, event = .opened e → Opened e) : Serving Heard Opened g' := by
  obtain ⟨slot, actuating, acking, replies, forwards⟩ := serving
  cases rule with
  | @ackMatched rx ack pending heard isAck same =>
    refine ⟨slot, by simp, by simp, ?_, by simp⟩
    intro result replying
    cases replying
    rfl
  | @openHeard rx envelope tenant heard isOpen =>
    refine ⟨slot, ?_, by simp, by simp, by simp⟩
    intro e atOpen
    cases atOpen
    exact hears _ heard isOpen
  | @opened envelope tenant =>
    refine ⟨slot, by simp, ?_, by simp, by simp⟩
    intro ack atSend
    cases atSend
    exact ⟨envelope, rfl, opens envelope rfl⟩
  | @ackSent ack driver tenant =>
    refine ⟨?_, by simp, by simp, by simp, by simp⟩
    intro pending held
    cases held
    exact acking ack rfl
  | @dequeued request => cases idle
  | @forwarded request driver tenant ok => exact absurd rfl (forwards request)
  | replyHeard | successEnqueued | polledEmpty => exact ⟨by simp, by simp, by simp, by simp, by simp⟩
  | ignored | radioError | timedOut | backedOff | replySent | resent | forwardFailed
  | failureEnqueued => exact ⟨slot, by simp, by simp, by simp, by simp⟩

/-- A device puts on the air Acks of what it opened the gate for, and Replies to Acks. -/
theorem airs (serving : Serving Heard Opened g) (rule : GatewayStep cbor g event g')
    (onAir : frame ∈ event.aired) :
    ∃ e, frame = OutgoingFrame.framed e ∧ e.intoOutgoing.isSome ∧
      ((∃ opener, e = ackFor opener ∧ Opened opener) ∨
        g.pc = .sendReply e ∧ e.msgType = .Reply) := by
  cases rule with
  | @ackSent ack driver tenant =>
    obtain ⟨-, fits, framed⟩ := aired_of_sent onAir
    exact ⟨ack, framed, fits, .inl (serving.acking ack rfl)⟩
  | @replySent result driver tenant =>
    obtain ⟨-, fits, framed⟩ := aired_of_sent onAir
    exact ⟨result, framed, fits, .inr ⟨rfl, serving.replies result rfl⟩⟩
  | @resent pending driver =>
    obtain ⟨e, rfl, opened⟩ := serving.slot pending rfl
    rw [aired_of_resent rfl] at onAir
    obtain ⟨-, fits, framed⟩ := aired_of_sent onAir
    exact ⟨_, framed, fits, .inl ⟨e, rfl, opened⟩⟩
  | @forwarded request driver tenant ok => exact absurd rfl (serving.forwards request)
  | @forwardFailed request driver e tenant failed => exact absurd rfl (serving.forwards request)
  | _ => cases onAir

end Serving

/-- What a device did is accounted for by what it heard. -/
structure Served (cbor : Minicbor) (tr : List GatewayEvent) (s : GatewayTask) : Prop where
  serving : Serving (fun e => e.msgType = .Open ∧ ∃ event ∈ tr, event.heard cbor = some e)
    (fun e => .opened e ∈ tr) s
  opened : ∀ e, .opened e ∈ tr → e.msgType = .Open ∧ ∃ event ∈ tr, event.heard cbor = some e
  aired : ∀ event ∈ tr, ∀ frame ∈ event.aired,
    ∃ e, frame = OutgoingFrame.framed e ∧ e.intoOutgoing.isSome ∧
      ((∃ opener, e = ackFor opener ∧ .opened opener ∈ tr) ∨ e.msgType = .Reply)

/-- A device's run is one of the task, and dequeues nothing. -/
theorem task_of_device {tr : List GatewayEvent} {s : GatewayTask}
    (ran : run (deviceBoard cbor).step (deviceBoard cbor).start tr = some s) :
    run (GatewayTask.step cbor) .init tr = some s := by
  have projects : ∀ {s : GatewayTask} {event : GatewayEvent} {s' : GatewayTask},
      (deviceBoard cbor).step s event = some s' →
        Projects (GatewayTask.step cbor) some s s' event :=
    fun taken => (Option.ite_none_right_eq_some.mp taken).2
  have seen := run_project (fun s : GatewayTask => s) projects ran
  rwa [List.filterMap_some] at seen

theorem served_of_run {tr : List GatewayEvent} {s : GatewayTask}
    (ran : run (deviceBoard cbor).step (deviceBoard cbor).start tr = some s) :
    Served cbor tr s := by
  refine run_induction (P := Served cbor) ?_ ?_ ran
  · exact ⟨.init, by simp, by simp⟩
  · intro tr (s : GatewayTask) (event : GatewayEvent) (s' : GatewayTask) _ ⟨serving, opened, aired⟩ taken
    obtain ⟨idle, taken⟩ := Option.ite_none_right_eq_some.mp taken
    have rule := GatewayTask.step_iff.mp taken
    have grow : ∀ {event' : GatewayEvent}, event' ∈ tr → event' ∈ tr ++ [event] :=
      fun member => List.mem_append_left _ member
    have last : event ∈ tr ++ [event] := List.mem_append_right _ (List.mem_singleton_self _)
    have heardGrow : ∀ e : LoraEnvelope, (e.msgType = .Open ∧ ∃ event ∈ tr, event.heard cbor = some e) →
        e.msgType = .Open ∧ ∃ event' ∈ tr ++ [event], event'.heard cbor = some e := by
      rintro e ⟨isOpen, event', member, heard⟩
      exact ⟨isOpen, event', grow member, heard⟩
    have now := serving.mono heardGrow fun e => grow
    refine ⟨now.step rule idle ?_ ?_, ?_, ?_⟩
    · intro e heard isOpen
      exact ⟨isOpen, event, last, heard⟩
    · rintro e rfl
      exact last
    · intro e member
      rcases List.mem_append.mp member with member | member
      · exact heardGrow e (opened e member)
      · cases List.mem_singleton.mp member
        exact now.actuating e (actuating_of_opened rule)
    · intro event' member frame onAir
      rcases List.mem_append.mp member with member | member
      · obtain ⟨e, framed, fits, origin⟩ := aired event' member frame onAir
        refine ⟨e, framed, fits, origin.imp_left ?_⟩
        rintro ⟨opener, made, was⟩
        exact ⟨opener, made, grow was⟩
      · cases List.mem_singleton.mp member
        obtain ⟨e, framed, fits, origin⟩ := now.airs rule onAir
        exact ⟨e, framed, fits, origin.imp_right And.right⟩

/-! ## The gateway -/

/-- A node that is asked for nothing: `Sent` is what it transmitted, `Acked` the Acks
it heard. -/
structure Asking (Sent Acked : LoraEnvelope → Prop) (g : GatewayTask) : Prop where
  slot : ∀ pending, g.pendingForward = some pending → Sent pending
  actuates : ∀ e, g.pc ≠ .actuate e
  acks : ∀ ack, g.pc ≠ .sendAck ack
  /-- A success under way is for the request in the slot, whose number an Ack carried. -/
  replies : ∀ result, g.pc = .sendReply result ∨ g.pc = .enqueueSuccess result →
    ∃ pending ack, g.pendingForward = some pending ∧ Acked ack ∧ pending.seq = ack.seq ∧
      result = successResult pending ack

namespace Asking

variable {Sent Acked Sent' Acked' : LoraEnvelope → Prop}

theorem init : Asking Sent Acked .init := by
  constructor <;> simp [GatewayTask.init]

theorem mono (asking : Asking Sent Acked g) (sent : ∀ e, Sent e → Sent' e)
    (acked : ∀ e, Acked e → Acked' e) : Asking Sent' Acked' g := by
  refine ⟨fun pending held => sent pending (asking.slot pending held), asking.actuates,
    asking.acks, ?_⟩
  intro result replying
  obtain ⟨pending, ack, held, was, same, made⟩ := asking.replies result replying
  exact ⟨pending, ack, held, acked ack was, same, made⟩

/-- A gateway that hears no Open stays one. -/
theorem step (asking : Asking Sent Acked g) (rule : GatewayStep cbor g event g')
    (hears : ∀ e, event.heard cbor = some e → e.msgType ≠ .Open ∧ (e.msgType = .Ack → Acked e))
    (sends : ∀ e ∈ event.forwarded, Sent e) : Asking Sent Acked g' := by
  obtain ⟨slot, actuates, acks, replies⟩ := asking
  cases rule with
  | @ackMatched rx ack pending heard isAck same =>
    refine ⟨slot, by simp, by simp, ?_⟩
    intro result replying
    rcases replying with replying | replying
    · cases replying
      exact ⟨pending, ack, rfl, (hears ack heard).2 isAck, same, rfl⟩
    · cases replying
  | @openHeard rx envelope tenant heard isOpen => exact absurd isOpen (hears envelope heard).1
  | @opened envelope tenant => exact absurd rfl (actuates envelope)
  | @ackSent ack driver tenant => exact absurd rfl (acks ack)
  | @replySent result driver tenant =>
    refine ⟨slot, by simp, by simp, ?_⟩
    intro result' replying
    rcases replying with replying | replying
    · cases replying
    · cases replying
      exact replies result (.inl rfl)
  | @forwarded request driver tenant ok =>
    refine ⟨?_, by simp, by simp, by simp⟩
    intro pending held
    cases held
    apply sends
    simp [GatewayEvent.forwarded, request.msgType_eq, ok]
  | replyHeard | successEnqueued | polledEmpty | dequeued =>
    exact ⟨by simp, by simp, by simp, by simp⟩
  | ignored | radioError | timedOut | backedOff | resent | forwardFailed | failureEnqueued =>
    exact ⟨slot, by simp, by simp, by simp⟩

/-- A gateway puts on the air its requests and Replies. -/
theorem airs (asking : Asking Sent Acked g) (shape : g.Shape) (rule : GatewayStep cbor g event g')
    (sends : ∀ e ∈ event.forwarded, Sent e) (onAir : frame ∈ event.aired) :
    ∃ e, frame = OutgoingFrame.framed e ∧ e.intoOutgoing.isSome ∧
      (Sent e ∨ e.msgType = .Reply) := by
  cases rule with
  | @ackSent ack driver tenant => exact absurd rfl (asking.acks ack)
  | @replySent result driver tenant =>
    obtain ⟨-, fits, framed⟩ := aired_of_sent onAir
    obtain ⟨pending, ack, -, -, -, rfl⟩ := asking.replies result (.inl rfl)
    exact ⟨_, framed, fits, .inr rfl⟩
  | @resent pending driver =>
    rw [aired_of_resent (shape.version pending rfl)] at onAir
    obtain ⟨-, fits, framed⟩ := aired_of_sent onAir
    exact ⟨_, framed, fits, .inl (asking.slot pending rfl)⟩
  | @forwarded request driver tenant ok =>
    obtain ⟨-, fits, framed⟩ := aired_of_sent onAir
    refine ⟨_, framed, fits, .inl (sends _ ?_)⟩
    simp [GatewayEvent.forwarded, request.msgType_eq, ok]
  | @forwardFailed request driver e tenant failed =>
    obtain ⟨rfl, fits, -⟩ := aired_of_sent onAir
    rw [LoraController.sendMessageEnvelope_fits fits] at failed
    cases failed
  | _ => cases onAir

end Asking

/-- What a gateway did is accounted for by what it transmitted and heard. -/
structure Asked (cbor : Minicbor) (tr : List GatewayEvent) (s : GatewayTask) : Prop where
  asking : Asking (· ∈ forwarded tr)
    (fun ack => ack.msgType = .Ack ∧ ∃ event ∈ tr, event.heard cbor = some ack) s
  aired : ∀ event ∈ tr, ∀ frame ∈ event.aired,
    ∃ e, frame = OutgoingFrame.framed e ∧ e.intoOutgoing.isSome ∧
      (e ∈ forwarded tr ∨ e.msgType = .Reply)

theorem asked_of_run {tr : List GatewayEvent} {s : GatewayTask}
    (ran : run (GatewayTask.step cbor) .init tr = some s)
    (deaf : ∀ event ∈ tr, ∀ e, event.heard cbor = some e → e.msgType ≠ .Open) :
    Asked cbor tr s := by
  refine run_induction (P := fun tr s =>
    (∀ event ∈ tr, ∀ e, event.heard cbor = some e → e.msgType ≠ .Open) → Asked cbor tr s) ?_ ?_ ran deaf
  · intro _
    exact ⟨.init, by simp⟩
  · intro tr s event s' first before taken deaf
    obtain ⟨deafBefore, deafNow⟩ := List.forall_mem_append.mp deaf
    obtain ⟨asking, aired⟩ := before deafBefore
    have rule := GatewayTask.step_iff.mp taken
    have grow : ∀ e ∈ forwarded tr, e ∈ forwarded (tr ++ [event]) := by
      intro e member
      rw [forwarded, List.flatMap_append]
      exact List.mem_append_left _ member
    have sends : ∀ e ∈ event.forwarded, e ∈ forwarded (tr ++ [event]) := by
      intro e member
      rw [forwarded, List.flatMap_append, List.flatMap_singleton]
      exact List.mem_append_right _ member
    have last : event ∈ tr ++ [event] := List.mem_append_right _ (List.mem_singleton_self _)
    have now : Asking (· ∈ forwarded (tr ++ [event])) (fun ack => ack.msgType = .Ack ∧
        ∃ event' ∈ tr ++ [event], event'.heard cbor = some ack) s := by
      refine asking.mono grow ?_
      rintro ack ⟨isAck, event', member, heard⟩
      exact ⟨isAck, event', List.mem_append_left _ member, heard⟩
    refine ⟨now.step rule ?_ sends, ?_⟩
    · intro e heard
      exact ⟨deafNow event (List.mem_singleton_self _) e heard,
        fun isAck => ⟨isAck, event, last, heard⟩⟩
    · intro event' member frame onAir
      rcases List.mem_append.mp member with member | member
      · obtain ⟨e, framed, fits, origin⟩ := aired event' member frame onAir
        exact ⟨e, framed, fits, origin.imp_left (grow e)⟩
      · cases List.mem_singleton.mp member
        exact now.airs (GatewayTask.shape_of_run first) rule sends onAir

/-! ## In range of each other -/

/-- All of them, and what is on its way to each. -/
abbrev Broadcast (cbor : Minicbor) (δ : Type*) {β : Type*} (others : β → Board Frame) :=
  Fleet (station cbor δ others)

abbrev BroadcastLabel (cbor : Minicbor) (δ : Type*) {β : Type*} (others : β → Board Frame) :=
  FleetLabel (station cbor δ others)

namespace Broadcast

variable {δ β : Type*} {others : β → Board Frame} {d : δ} {e : LoraEnvelope}

/-- An event of the gateway's radio loop. -/
def atGateway (event : GatewayEvent) : BroadcastLabel cbor δ others :=
  .act .gateway (NodeLabel.gateway event)

/-- An event of a device's radio loop. -/
def atDevice (d : δ) (event : GatewayEvent) : BroadcastLabel cbor δ others := .act (.device d) event

variable [DecidableEq δ] [DecidableEq β] {medium : Medium Frame} {s : Broadcast cbor δ others}
  {tr before after : List (BroadcastLabel cbor δ others)}

def nodeTrace (tr : List (BroadcastLabel cbor δ others)) : List NodeLabel :=
  tr.filterMap (FleetLabel.ofBoard Role.gateway)

def gatewayTrace (tr : List (BroadcastLabel cbor δ others)) : List GatewayEvent :=
  GatewayNode.gatewayEvents (nodeTrace tr)

def deviceTrace (d : δ) (tr : List (BroadcastLabel cbor δ others)) : List GatewayEvent :=
  tr.filterMap (FleetLabel.ofBoard (Role.device d))

theorem run_node (ran : run (Fleet.step medium) Fleet.start tr = some s) :
    run (GatewayNode.step cbor) .init (nodeTrace tr) = some (s.board .gateway) :=
  Fleet.run_board Role.gateway ran

theorem run_gateway (ran : run (Fleet.step medium) Fleet.start tr = some s) :
    run (GatewayTask.step cbor) .init (gatewayTrace tr) = some (GatewayNode.gateway (s.board .gateway)) :=
  GatewayNode.run_gatewayTask (run_node ran)

theorem run_device (d : δ) (ran : run (Fleet.step medium) Fleet.start tr = some s) :
    run (deviceBoard cbor).step (deviceBoard cbor).start (deviceTrace d tr) = some (s.board (.device d)) :=
  Fleet.run_board (Role.device d) ran

theorem mem_gatewayTrace {event : GatewayEvent} :
    event ∈ gatewayTrace tr ↔ atGateway event ∈ tr := by
  have inNode : NodeLabel.gateway event ∈ nodeTrace tr ↔ atGateway event ∈ tr := Fleet.mem_board
  rw [← inNode, gatewayTrace, GatewayNode.gatewayEvents, List.mem_filterMap]
  constructor
  · rintro ⟨label, member, is⟩
    cases label <;> cases is
    exact member
  · intro member
    exact ⟨_, member, rfl⟩

theorem mem_deviceTrace {event : GatewayEvent} :
    event ∈ deviceTrace d tr ↔ atDevice d event ∈ tr :=
  Fleet.mem_board

/-! ## Back along the frames -/

theorem gatewayTrace_device (event : GatewayEvent) :
    gatewayTrace (tr ++ [atDevice d event]) = gatewayTrace tr := by
  simp [gatewayTrace, nodeTrace, GatewayNode.gatewayEvents, atDevice, FleetLabel.ofBoard]

theorem gatewayTrace_split (event : GatewayEvent) :
    gatewayTrace (before ++ atGateway event :: after) =
      gatewayTrace before ++ event :: gatewayTrace after := by
  simp [gatewayTrace, nodeTrace, GatewayNode.gatewayEvents, atGateway, FleetLabel.ofBoard,
    NodeLabel.ofGateway]

theorem forwarded_mono (member : e ∈ forwarded (gatewayTrace before)) :
    e ∈ forwarded (gatewayTrace (before ++ after)) := by
  rw [gatewayTrace, nodeTrace, GatewayNode.gatewayEvents, List.filterMap_append,
    List.filterMap_append, forwarded, List.flatMap_append]
  exact List.mem_append_left _ member

/-- What a device puts on the air: Acks of what it opened the gate for, and Replies. -/
theorem aired_by_device (ran : run (Fleet.step medium) Fleet.start tr = some s)
    {event : GatewayEvent} (member : atDevice d event ∈ tr) {frame : Frame}
    (onAir : frame ∈ event.aired) :
    ∃ e, frame = OutgoingFrame.framed e ∧ e.intoOutgoing.isSome ∧
      ((∃ opener, e = ackFor opener ∧ atDevice d (.opened opener) ∈ tr) ∨ e.msgType = .Reply) := by
  obtain ⟨e, framed, fits, origin⟩ :=
    (served_of_run (run_device d ran)).aired event (mem_deviceTrace.mpr member) frame onAir
  refine ⟨e, framed, fits, origin.imp_left ?_⟩
  rintro ⟨opener, made, opened⟩
  exact ⟨opener, made, mem_deviceTrace.mp opened⟩

/-- What a bystander puts on the air, whoever hears it. -/
theorem aired_by_bystander {types : MessageType → Prop} {b : β} (speaks : (others b).Speaks cbor types)
    (ran : run (Fleet.step medium) Fleet.start tr = some s) {l : (others b).Label}
    (member : .act (.bystander b) l ∈ tr) {frame : Frame} (onAir : frame ∈ (others b).airs l)
    {status : PacketStatus} (decoded : (RadioRx.done (.ok (frame, status))).heard cbor = some e) :
    types e.msgType :=
  speaks _ _ (Fleet.run_board (Role.bystander b) ran) l (Fleet.mem_board.mpr member) frame onAir
    e (decoded_of_heard decoded)

section Tame

variable (tame : ∀ b, (others b).Speaks cbor Tame)

include tame

/-- The only Acks the gateway hears are of devices that opened the gate before. -/
theorem heard_by_gateway {event : GatewayEvent}
    (ran : run (Fleet.step medium) Fleet.start (before ++ atGateway event :: after) = some s)
    (is : event.heard cbor = some e) :
    (∃ d opener, e = ackFor opener ∧ atDevice d (.opened opener) ∈ before) ∨ Tame e.msgType := by
  obtain ⟨frame, status, taken, decoded⟩ := frame_of_heard is
  obtain ⟨j, l, other, member, onAir⟩ := Fleet.source_of_heard ran taken
  obtain ⟨mid, first, -⟩ := run_split ran
  cases j with
  | gateway => exact absurd rfl other
  | device d =>
    obtain ⟨e', rfl, fits, origin⟩ := aired_by_device first member onAir
    rw [RadioRx.heard_framed fits] at decoded
    cases decoded
    rcases origin with ⟨opener, made, opened⟩ | isReply
    · exact .inl ⟨d, opener, made, opened⟩
    · exact .inr (by simp [Tame, isReply])
  | bystander b => exact .inr (aired_by_bystander (tame b) first member onAir decoded)

/-- The gateway hears no Open. -/
theorem gateway_deaf (ran : run (Fleet.step medium) Fleet.start tr = some s) :
    ∀ event ∈ gatewayTrace tr, ∀ e, event.heard cbor = some e → e.msgType ≠ .Open := by
  intro event member e is isOpen
  obtain ⟨before, after, rfl⟩ := List.append_of_mem (mem_gatewayTrace.mp member)
  rcases heard_by_gateway tame ran is with ⟨d, opener, rfl, -⟩ | isTame
  · cases isOpen
  · exact isTame.1 isOpen

theorem asked (ran : run (Fleet.step medium) Fleet.start tr = some s) :
    Asked cbor (gatewayTrace tr) (GatewayNode.gateway (s.board .gateway)) :=
  asked_of_run (run_gateway ran) (gateway_deaf tame ran)

/-- An Open a device hears was transmitted by the gateway. -/
theorem heard_by_device {event : GatewayEvent}
    (ran : run (Fleet.step medium) Fleet.start (before ++ atDevice d event :: after) = some s)
    (is : event.heard cbor = some e) (isOpen : e.msgType = .Open) :
    e ∈ forwarded (gatewayTrace before) := by
  obtain ⟨frame, status, taken, decoded⟩ := frame_of_heard is
  obtain ⟨j, l, other, member, onAir⟩ := Fleet.source_of_heard ran taken
  obtain ⟨mid, first, -⟩ := run_split ran
  cases j with
  | gateway =>
    cases l with
    | gateway event' =>
      obtain ⟨e', rfl, fits, origin⟩ :=
        (asked tame first).aired event' (mem_gatewayTrace.mpr member) frame onAir
      rw [RadioRx.heard_framed fits] at decoded
      cases decoded
      exact origin.resolve_right fun isReply => by cases isOpen.symm.trans isReply
    | ingress | egress => cases onAir
  | bystander b => exact absurd isOpen (aired_by_bystander (tame b) first member onAir decoded).1
  | device d' =>
    obtain ⟨e', rfl, fits, origin⟩ := aired_by_device first member onAir
    rw [RadioRx.heard_framed fits] at decoded
    cases decoded
    rcases origin with ⟨opener, rfl, -⟩ | isReply
    · cases isOpen
    · cases isOpen.symm.trans isReply

/-- A device opens the gate for what the gateway transmitted. -/
theorem opened_by_device (ran : run (Fleet.step medium) Fleet.start tr = some s)
    (member : atDevice d (.opened e) ∈ tr) : e ∈ forwarded (gatewayTrace tr) := by
  obtain ⟨isOpen, event, heardIn, is⟩ :=
    (served_of_run (run_device d ran)).opened e (mem_deviceTrace.mpr member)
  obtain ⟨before, after, rfl⟩ := List.append_of_mem (mem_deviceTrace.mp heardIn)
  exact forwarded_mono (heard_by_device tame ran is isOpen)

/-! ## What the reports are worth -/

omit tame in
/-- A request is known by its number. -/
theorem same_of_seq (ran : run (Fleet.step medium) Fleet.start tr = some s)
    (few : (admitted (GatewayNode.ingressEvents (nodeTrace tr))).length ≤ 65535)
    {r r' : LoraEnvelope} (member : r ∈ forwarded (gatewayTrace tr))
    (member' : r' ∈ forwarded (gatewayTrace tr)) (same : r.seq = r'.seq) : r = r' := by
  have dequeues := (GatewayLedger.forwarded_sublist_dequeued (run_gateway ran)).subset
  exact List.inj_on_of_nodup_map (GatewayNode.dequeued_seqs_nodup (run_node ran) few)
    (dequeues member) (dequeues member') same

/-- A success was earned by a device that opened the gate for that request. -/
theorem opened_of_success {request result : LoraEnvelope}
    (ran : run (Fleet.step medium) Fleet.start
      (before ++ atGateway (.enqueued request result) :: after) = some s)
    (few : (admitted (GatewayNode.ingressEvents
      (nodeTrace (before ++ atGateway (.enqueued request result) :: after)))).length ≤ 65535)
    (success : IsSuccess result) : ∃ d, atDevice d (.opened request) ∈ before := by
  have loop := run_gateway ran
  rw [gatewayTrace_split] at loop
  obtain ⟨g, g', first, taken, -⟩ := run_at loop
  obtain ⟨enqueueing, held⟩ :=
    GatewayLedger.enqueueing_of_success success (GatewayTask.step_iff.mp taken)
  obtain ⟨mid, firstFleet, -⟩ := run_split ran
  cases (run_gateway firstFleet).symm.trans first
  have asking := (asked tame firstFleet).asking
  obtain ⟨pending, ack, held', ⟨isAck, event, heardIn, is⟩, same, -⟩ :=
    asking.replies result (.inr enqueueing)
  cases held.symm.trans held'
  obtain ⟨earlier, later, split⟩ := List.append_of_mem (mem_gatewayTrace.mp heardIn)
  rw [split] at firstFleet
  rcases heard_by_gateway tame firstFleet is with ⟨d, opener, rfl, opened⟩ | isTame
  · have opened : atDevice d (.opened opener) ∈ before := by
      rw [split]
      exact List.mem_append_left _ opened
    rw [← split] at firstFleet
    have itself : request = opener := same_of_seq ran few
      (forwarded_mono (asking.slot request held))
      (forwarded_mono (opened_by_device tame firstFleet opened)) same
    exact ⟨d, itself ▸ opened⟩
  · exact absurd isAck isTame.2

/-- A request whose transmission was reported as failed opens no gate. -/
theorem unopened_of_failure {request result : LoraEnvelope}
    (ran : run (Fleet.step medium) Fleet.start tr = some s)
    (few : (admitted (GatewayNode.ingressEvents (nodeTrace tr))).length ≤ 65535)
    (reported : atGateway (.enqueued request result) ∈ tr) (failure : IsFailure result)
    (opened : atDevice d (.opened e) ∈ tr) : e.seq ≠ request.seq := by
  have answered : (request, result) ∈ answers (gatewayTrace tr) :=
    List.mem_flatMap.mpr ⟨_, mem_gatewayTrace.mpr reported, List.mem_singleton_self _⟩
  exact GatewayLedger.seq_ne_of_failure (run_gateway ran)
    (GatewayNode.dequeued_seqs_nodup (run_node ran) few) answered failure
    (opened_by_device tame ran opened)

omit tame in
/-- What was transmitted was asked for by an accepted message. -/
theorem accepted_of_forwarded (ran : run (Fleet.step medium) Fleet.start tr = some s)
    (member : e ∈ forwarded (gatewayTrace tr)) :
    e.payload ∈ accepted (GatewayNode.ingressEvents (nodeTrace tr)) := by
  have dequeued := (GatewayLedger.forwarded_sublist_dequeued (run_gateway ran)).subset member
  obtain ⟨request, admits, rfl⟩ :=
    List.mem_map.mp ((GatewayNode.dequeued_of_admitted (run_node ran)).subset dequeued)
  rw [← IngressTask.payloads_of_run (GatewayNode.run_ingressTask (run_node ran))]
  exact List.mem_map_of_mem (List.mem_append_left _ admits)

/-- A status published as a success is about a message accepted, for which a device
opened the gate. -/
theorem opened_of_published (ran : run (Fleet.step medium) Fleet.start tr = some s)
    (few : (admitted (GatewayNode.ingressEvents (nodeTrace tr))).length ≤ 65535)
    {status : LoraEnvelope × MqttMessage} (member : status ∈ GatewayNode.published (nodeTrace tr))
    (success : IsSuccess status.1) :
    ∃ d e, atDevice d (.opened e) ∈ tr ∧ e.seq = status.1.seq ∧
      e.payload ∈ accepted (GatewayNode.ingressEvents (nodeTrace tr)) := by
  have result : status.1 ∈ (answers (gatewayTrace tr)).map Prod.snd := by
    rw [gatewayTrace, GatewayNode.results_of_run (run_node ran), List.append_assoc]
    exact List.mem_append_left _ (List.mem_map_of_mem member)
  obtain ⟨⟨request, _⟩, answered, rfl⟩ := List.mem_map.mp result
  obtain ⟨event, inTrace, here⟩ := List.mem_flatMap.mp answered
  cases event with
  | enqueued onBehalf result =>
    cases List.mem_singleton.mp here
    obtain ⟨before, after, rfl⟩ := List.append_of_mem (mem_gatewayTrace.mp inTrace)
    obtain ⟨d, opened⟩ := opened_of_success tame ran few success
    have opened : atDevice d (.opened request) ∈
        before ++ atGateway (.enqueued request status.1) :: after := List.mem_append_left _ opened
    refine ⟨d, request, opened, ?_, accepted_of_forwarded ran (opened_by_device tame ran opened)⟩
    exact (GatewayTask.answers_seq (run_gateway ran) _ answered).symm
  | _ => cases here

end Tame

/-- What the gateway and the devices of a run agree on. -/
structure Concord (tr : List (BroadcastLabel cbor δ others)) (s : Broadcast cbor δ others) : Prop where
  /-- A device opens the gate once for each Open it receives. -/
  once : ∀ d, openings (deviceTrace d tr) ++ actuating (s.board (.device d)) =
    opens cbor (deviceTrace d tr)
  /-- And for nothing but requests the gateway transmitted before. -/
  requested : ∀ before d e after, tr = before ++ atDevice d (.opened e) :: after →
    e ∈ forwarded (gatewayTrace before)
  /-- A request reported as delivered opened a gate before. -/
  success : ∀ before request result after,
    tr = before ++ atGateway (.enqueued request result) :: after → IsSuccess result →
      ∃ d, atDevice d (.opened request) ∈ before
  /-- A request reported as not sent never opens one. -/
  failure : ∀ request result, atGateway (.enqueued request result) ∈ tr → IsFailure result →
    ∀ d e, atDevice d (.opened e) ∈ tr → e.seq ≠ request.seq
  /-- A status published as a success is about a message accepted, for which a device
  opened the gate. -/
  published : ∀ status ∈ GatewayNode.published (nodeTrace tr), IsSuccess status.1 →
    ∃ d e, atDevice d (.opened e) ∈ tr ∧ e.seq = status.1.seq ∧
      e.payload ∈ accepted (GatewayNode.ingressEvents (nodeTrace tr))

/-- **Whoever else is in range, the reports of the gateway are true**, over any medium,
as long as the others transmit neither Opens nor Acks and fewer than `2^16` requests were
admitted. -/
theorem concord_of_run (tame : ∀ b, (others b).Speaks cbor Tame)
    (ran : run (Fleet.step medium) Fleet.start tr = some s)
    (few : (admitted (GatewayNode.ingressEvents (nodeTrace tr))).length ≤ 65535) :
    Concord tr s := by
  refine ⟨?_, ?_, ?_, ?_, ?_⟩
  · exact fun d => openings_of_run (task_of_device (run_device d ran))
  · rintro before d e after rfl
    rw [List.append_cons] at ran
    obtain ⟨mid, first, -⟩ := run_split ran
    have opened := opened_by_device tame first (List.mem_append_right _ (List.mem_singleton_self _))
    rwa [gatewayTrace_device] at opened
  · rintro before request result after rfl success
    exact opened_of_success tame ran few success
  · exact fun request result reported failure d e opened =>
      unopened_of_failure tame ran few reported failure opened
  · exact fun status member success => opened_of_published tame ran few member success

/-- One message: accepted, transmitted, answered by this device, and reported. -/
def delivery (d : δ) : List (BroadcastLabel .reference δ others) :=
  let request := sampleRequest.toLoraEnvelope
  let result := successResult request (ackFor request)
  [.act .gateway (NodeLabel.ingress .locked),
    .act .gateway (NodeLabel.ingress (.received (.ok ("esp32/open", [1, 2, 3])) 1000)),
    .act .gateway (NodeLabel.ingress (.enqueued sampleRequest)), .act .gateway (NodeLabel.ingress .slept),
    atGateway (.received .timeout), atGateway (.polled (some sampleRequest)),
    atGateway (.sent request (.ok ())),
    atDevice d (.received (.done (.ok (OutgoingFrame.framed request, sampleStatus)))),
    atDevice d (.opened request), atDevice d (.sent (ackFor request) (.ok ())),
    atGateway (.received (.done (.ok (OutgoingFrame.framed (ackFor request), sampleStatus)))),
    atGateway (.sent result (.ok ())), atGateway (.enqueued request result),
    .act .gateway (NodeLabel.egress (.taken result)), .act .gateway (NodeLabel.egress .locked),
    .act .gateway (NodeLabel.egress (.published statusSubtopic [] (.ok ())))]

/-! ## One device -/

/-- A device that hears no Ack puts only Acks on the air. -/
theorem acks_of_device {tr : List GatewayEvent} {s : GatewayTask}
    (ran : run (deviceBoard cbor).step (deviceBoard cbor).start tr = some s)
    (hears : ∀ event ∈ tr, ∀ e, event.heard cbor = some e → e.msgType ≠ .Ack) :
    ∀ event ∈ tr, ∀ frame ∈ event.aired, ∃ opener, frame = OutgoingFrame.framed (ackFor opener) := by
  refine (run_induction (P := fun tr s =>
    (∀ event ∈ tr, ∀ e, event.heard cbor = some e → e.msgType ≠ .Ack) →
      (Serving (fun _ => True) (fun _ => True) s ∧ ∀ result, s.pc ≠ .sendReply result) ∧
      ∀ event ∈ tr, ∀ frame ∈ event.aired, ∃ opener, frame = OutgoingFrame.framed (ackFor opener))
    ?_ ?_ ran hears).2
  · intro _
    exact ⟨⟨.init, by simp [GatewayTask.init]⟩, by simp⟩
  · intro tr (s : GatewayTask) (event : GatewayEvent) (s' : GatewayTask) _ before taken hears
    obtain ⟨hearsBefore, hearsNow⟩ := List.forall_mem_append.mp hears
    obtain ⟨⟨serving, unconfirmed⟩, acks⟩ := before hearsBefore
    obtain ⟨idle, taken⟩ := Option.ite_none_right_eq_some.mp taken
    have rule := GatewayTask.step_iff.mp taken
    refine ⟨⟨serving.step rule idle (fun _ _ _ => trivial) fun _ _ => trivial, ?_⟩,
      List.forall_mem_append.mpr ⟨acks, List.forall_mem_singleton.mpr ?_⟩⟩
    · -- only an Ack leads to a Reply
      cases rule with
      | @ackMatched rx ack pending heard isAck same =>
        exact absurd isAck (hearsNow _ (List.mem_singleton_self _) ack heard)
      | _ => simp
    · intro frame onAir
      obtain ⟨e, framed, -, ⟨opener, rfl, -⟩ | ⟨replying, -⟩⟩ := serving.airs rule onAir
      · exact ⟨opener, framed⟩
      · exact absurd replying (unconfirmed e)

section Single

variable [Subsingleton δ] (tame : ∀ b, (others b).Speaks cbor Tame)

include tame

/-- With one device, that device hears no Acks. -/
theorem device_hears_no_ack (ran : run (Fleet.step medium) Fleet.start tr = some s) :
    ∀ event ∈ deviceTrace d tr, ∀ e, event.heard cbor = some e → e.msgType ≠ .Ack := by
  intro event member e is isAck
  obtain ⟨before, after, rfl⟩ := List.append_of_mem (mem_deviceTrace.mp member)
  obtain ⟨frame, status, taken, decoded⟩ := frame_of_heard is
  obtain ⟨j, l, other, member, onAir⟩ := Fleet.source_of_heard ran taken
  obtain ⟨mid, first, -⟩ := run_split ran
  cases j with
  | device d' => exact other (congrArg Role.device (Subsingleton.elim d' d))
  | bystander b => exact (aired_by_bystander (tame b) first member onAir decoded).2 isAck
  | gateway =>
    cases l with
    | gateway event' =>
      obtain ⟨e', rfl, fits, origin⟩ :=
        (asked tame first).aired event' (mem_gatewayTrace.mpr member) frame onAir
      rw [RadioRx.heard_framed fits] at decoded
      cases decoded
      rcases origin with forwarded | isReply
      · cases isAck.symm.trans (GatewayLedger.isRequest_of_forwarded forwarded)
      · cases isAck.symm.trans isReply
    | ingress | egress => cases onAir

/-- So the gateway hears no Reply, if the others transmit none. -/
theorem gateway_hears_no_reply (mute : ∀ b, (others b).Speaks cbor (· ≠ .Reply))
    (ran : run (Fleet.step medium) Fleet.start tr = some s) :
    ∀ event ∈ gatewayTrace tr, ∀ e, event.heard cbor = some e → e.msgType ≠ .Reply := by
  intro event member e is
  obtain ⟨before, after, rfl⟩ := List.append_of_mem (mem_gatewayTrace.mp member)
  obtain ⟨frame, status, taken, decoded⟩ := frame_of_heard is
  obtain ⟨j, l, other, member, onAir⟩ := Fleet.source_of_heard ran taken
  obtain ⟨mid, first, -⟩ := run_split ran
  cases j with
  | gateway => exact absurd rfl other
  | bystander b => exact aired_by_bystander (mute b) first member onAir decoded
  | device d =>
    obtain ⟨opener, rfl⟩ := acks_of_device (run_device d first) (device_hears_no_ack tame first) l
      (mem_deviceTrace.mpr member) frame onAir
    rw [RadioRx.heard_framed (GatewayTask.ackFor_fits opener)] at decoded
    cases decoded
    simp [ackFor, LoraEnvelope.new]

/-- **With one device no request is lost**: the node is first in, first out, from backend
to backend, in every run, as long as the others transmit no Replies either. -/
theorem single_device_end_to_end (mute : ∀ b, (others b).Speaks cbor (· ≠ .Reply))
    (ran : run (Fleet.step medium) Fleet.start tr = some s) :
    ∃ exchanges, GatewayNode.EndToEnd (nodeTrace tr) (s.board .gateway) exchanges := by
  have node := run_node ran
  refine GatewayNode.endToEnd_of_sender node (GatewayTask.run_sender
    (GatewayNode.run_gatewayTask node) (GatewayNode.attentive_gatewayTask node
      (throughout_of_forall ?_)))
  intro label member _
  cases label with
  | gateway event =>
    intro e heard
    have inTrace : event ∈ gatewayTrace tr := List.mem_filterMap.mpr ⟨_, member, rfl⟩
    have deaf := gateway_hears_no_reply tame mute ran event inTrace e heard
    exact ⟨gateway_deaf tame ran event inTrace e heard, fun isReply => absurd isReply deaf⟩
  | ingress | egress => trivial

end Single

/-- Without bystanders. -/
abbrev nobody : Empty → Board Frame := Empty.elim

/-- Two devices answer the first request, and one of them takes the other's Ack for the
confirmation of its own; its Reply reaches the gateway while the second request waits. -/
def crossed : List (BroadcastLabel .reference Bool nobody) :=
  let first := sampleRequest
  let second : ForwardRequest := .new 2 1000 [1, 2, 3]
  let request := first.toLoraEnvelope
  let ack := ackFor request
  let heard (e : LoraEnvelope) : GatewayEvent :=
    .received (.done (.ok (OutgoingFrame.framed e, sampleStatus)))
  [.act .gateway (NodeLabel.ingress .locked),
    .act .gateway (NodeLabel.ingress (.received (.ok ("esp32/open", [1, 2, 3])) 1000)),
    .act .gateway (NodeLabel.ingress (.enqueued first)), .act .gateway (NodeLabel.ingress .slept),
    .act .gateway (NodeLabel.ingress .locked),
    .act .gateway (NodeLabel.ingress (.received (.ok ("esp32/open", [1, 2, 3])) 1000)),
    .act .gateway (NodeLabel.ingress (.enqueued second)),
    atGateway (.received .timeout), atGateway (.polled (some first)),
    atGateway (.sent request (.ok ())),
    atDevice false (heard request), atDevice false (.opened request),
    atDevice false (.sent ack (.ok ())),
    atDevice true (heard request), atDevice true (.opened request), atDevice true (.sent ack (.ok ())),
    atDevice true (.resent ack (.ok ())), atDevice true (heard ack),
    atDevice true (.sent (successResult ack ack) (.ok ())),
    atGateway (heard ack), atGateway (.sent (successResult request ack) (.ok ())),
    atGateway (.enqueued request (successResult request ack)), atGateway (.polled (some second)),
    atGateway (.sent second.toLoraEnvelope (.ok ())),
    atGateway (heard ack), atGateway (.resent second.toLoraEnvelope (.ok ())),
    atGateway (heard ack), atGateway (.resent second.toLoraEnvelope (.ok ())),
    atGateway (heard (successResult ack ack)), atGateway (.polled none)]

/-- With two devices a request can be dropped without a report, though every frame
arrives, once and in order. -/
theorem two_devices_drop_request :
    ∃ s : Broadcast .reference Bool nobody, run (Fleet.step .lossyFifo) Fleet.start crossed = some s ∧
      ¬ ∃ exchanges, GatewayNode.EndToEnd (nodeTrace crossed) (s.board .gateway) exchanges := by
  have runs : (run (Fleet.step .lossyFifo) Fleet.start crossed).isSome := by decide
  obtain ⟨s, ran⟩ := Option.isSome_iff_exists.mp runs
  have node : (run (Fleet.step .lossyFifo) Fleet.start crossed).map (fun s => s.board .gateway) =
      some (⟨⟨.sleep, 2, 3⟩, .init, .init, .empty, ⟨[successResult sampleRequest.toLoraEnvelope
        (ackFor sampleRequest.toLoraEnvelope)], by decide⟩⟩ : GatewayNode) := by decide
  rw [ran, Option.map_some, Option.some.injEq] at node
  refine ⟨s, ran, ?_⟩
  rintro ⟨exchanges, ends⟩
  rw [node] at ends
  have requests : 2 = exchanges.length := by
    have count := congrArg List.length ends.requests
    have two : (accepted (GatewayNode.ingressEvents (nodeTrace crossed))).length = 2 := by decide
    rw [two] at count
    simpa [GatewayTask.sender, GatewayTask.init, StopAndWait.Sender.inHand, IngressTask.blocked,
      Channel.empty] using count
  have results : 1 = exchanges.length := by
    have count := congrArg List.length ends.results
    have none : GatewayNode.published (nodeTrace crossed) = [] := by decide
    rw [none] at count
    simpa [EgressTask.inHand, EgressTask.init] using count
  omega

end Broadcast

end HaviliarIot
