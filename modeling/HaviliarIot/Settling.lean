import HaviliarIot.Agreement

/-!
When the device's slot is on its way to being cleared.

The device holds its own Ack from the Open it answers to the Reply that confirms
it, and the gateway sends that Reply once, when it accepts the Ack.  So where the
gateway owes no Reply, the device's slot must be settled by what is already on the
air: after the frames to the device have arrived, in order, it is empty.  That is
`Settled`, and it holds along every run over a FIFO medium in which no Reply fails
or is lost.
-/

namespace HaviliarIot.TwoNode

open Runs

/-- The message type a frame carries. -/
def kind (cbor : Minicbor) (frame : Frame) : Option MessageType :=
  (LoraParser.decodeEnvelope cbor frame).map (·.msgType)

/-- Whether the device holds an Ack after this frame. -/
def settleFrame (cbor : Minicbor) (holds : Bool) (frame : Frame) : Bool :=
  match kind cbor frame with
  | some .Open => true
  | some .Reply => false
  | _ => holds

/-- Whether the device holds an Ack after these frames. -/
def settle (cbor : Minicbor) (holds : Bool) (air : List Frame) : Bool :=
  air.foldl (settleFrame cbor) holds

/-- The device holds an Ack, or will before it listens again. -/
def holdsAck (b : GatewayTask) : Bool :=
  match b.pc with
  | .actuate _ | .sendAck _ => true
  | _ => b.pendingForward.isSome

/-- The gateway has still to send the Reply of what is in its slot. -/
def owesReply (a : GatewayTask) : Bool :=
  match a.pc with
  | .enqueueSuccess _ => false
  | _ => a.pendingForward.isSome

/-- The device's slot is cleared by a Reply on the air, or by one still to come. -/
def Settled (cbor : Minicbor) (s : TwoNode) : Prop :=
  owesReply s.a = false → settle cbor (holdsAck s.b) s.toB = false

/-- No Reply of the gateway fails or is lost. -/
def RepliesArrive (cbor : Minicbor) (s : TwoNode) : NetLabel → Prop
  | .a (.sent e driver) => e.msgType = .Reply → driver = .ok ()
  | .loseToB place => ∀ frame ∈ s.toB[place]?, kind cbor frame ≠ some .Reply
  | _ => True

instance (cbor : Minicbor) (s : TwoNode) : ∀ label, Decidable (RepliesArrive cbor s label)
  | .a (.sent e driver) => inferInstanceAs (Decidable (e.msgType = .Reply → driver = .ok ()))
  | .loseToB place =>
    inferInstanceAs (Decidable (∀ frame ∈ s.toB[place]?, kind cbor frame ≠ some .Reply))
  | .a (.received _) | .a .backedOff | .a (.opened _) | .a (.resent _ _) | .a (.enqueued _ _)
  | .a (.polled _) | .ingress _ | .b _ | .loseToA _ => inferInstanceAs (Decidable True)

variable {cbor : Minicbor} {s s' : TwoNode} {label : NetLabel} {tr : List NetLabel}
  {event : GatewayEvent} {holds holds' : Bool} {air air' : List Frame} {e : LoraEnvelope}

/-! ## Settling a list of frames -/

theorem kind_framed (fits : e.intoOutgoing.isSome) :
    kind cbor (OutgoingFrame.framed e) = some e.msgType := by
  rw [kind, LoraController.decodeEnvelope_of_fits cbor fits]
  rfl

theorem settle_append : settle cbor holds (air ++ air') = settle cbor (settle cbor holds air) air' :=
  List.foldl_append

private theorem settleFrame_mono {frame : Frame} (less : holds' = true → holds = true)
    (settled : settleFrame cbor holds' frame = true) : settleFrame cbor holds frame = true := by
  unfold settleFrame at settled ⊢
  split at settled
  · rfl
  · cases settled
  · exact less settled

/-- Holding less now is holding less later. -/
theorem settle_mono (less : holds' = true → holds = true) (settled : settle cbor holds' air = true) :
    settle cbor holds air = true := by
  induction air generalizing holds holds' with
  | nil => exact less settled
  | cons frame rest ih => exact ih (settleFrame_mono less) settled

/-- Losing a frame that is no Reply leaves no more to hold. -/
theorem settle_erase {place : Nat} (noReply : ∀ frame ∈ air[place]?, kind cbor frame ≠ some .Reply)
    (settled : settle cbor holds air = false) : settle cbor holds (air.eraseIdx place) = false := by
  induction air generalizing holds place with
  | nil => exact settled
  | cons frame rest ih =>
    cases place with
    | zero =>
      have kept : holds = true → settleFrame cbor holds frame = true := by
        intro isTrue
        unfold settleFrame
        split
        · rfl
        · rename_i isReply
          exact absurd isReply (noReply frame rfl)
        · exact isTrue
      cases after : settle cbor holds rest with
      | false => exact after
      | true =>
        have before : settle cbor (settleFrame cbor holds frame) rest = true :=
          settle_mono kept after
        cases before.symm.trans settled
    | succ place => exact ih noReply settled

/-! ## The invariant -/

/-- What the device takes off a FIFO medium is the head, and it hears it. -/
theorem Accord.head_b (accord : Accord cbor tr s)
    (heard : event.hear .lossyFifo s.toB = some air') :
    air' = s.toB ∧ event.heard cbor = none ∨ ∃ e, s.toB = OutgoingFrame.framed e :: air' ∧
      e.intoOutgoing.isSome ∧ event.heard cbor = some e := by
  cases event with
  | received rx =>
    cases rx with
    | timeout =>
      cases heard
      exact .inl ⟨rfl, rfl⟩
    | done driver =>
      cases driver with
      | error failure =>
        cases heard
        exact .inl ⟨rfl, rfl⟩
      | ok received =>
        obtain ⟨frame, status⟩ := received
        have arrived : Medium.lossyFifo.deliver s.toB frame = some air' := heard
        cases onAir : s.toB with
        | nil =>
          rw [onAir] at arrived
          cases arrived
        | cons first rest =>
          rw [onAir] at arrived
          obtain ⟨rfl, same⟩ := Option.ite_none_right_eq_some.mp arrived
          cases same
          obtain ⟨e, rfl, fits, -⟩ := accord.toB frame (by rw [onAir]; exact List.mem_cons_self)
          exact .inr ⟨e, rfl, fits, RadioRx.heard_framed fits status⟩
  | _ =>
    cases heard
    exact .inl ⟨rfl, rfl⟩

/-- Between frames the device keeps what it holds. -/
private theorem holdsAck_silent {Heard Handled : LoraEnvelope → Prop} {b b' : GatewayTask}
    (responding : Responding Heard Handled b) (rule : GatewayStep cbor b event b')
    (silent : event.heard cbor = none) (idle : event.taken = []) : holdsAck b' = holdsAck b := by
  cases rule with
  | ackMatched heard | openHeard heard | replyHeard heard | ignored heard =>
    cases silent.symm.trans heard
  | @successEnqueued result pending => exact absurd rfl (responding.reports result)
  | dequeued => cases idle
  | @forwarded request => exact absurd rfl (responding.forwards request)
  | @forwardFailed request => exact absurd rfl (responding.forwards request)
  | _ => rfl

/-- A frame decides what the device holds. -/
private theorem holdsAck_heard {b b' : GatewayTask} (rule : GatewayStep cbor b event b')
    (heard : event.heard cbor = some e) (type : e.msgType = .Open ∨ e.msgType = .Reply)
    (fits : e.intoOutgoing.isSome) :
    holdsAck b' = settleFrame cbor holds (OutgoingFrame.framed e) := by
  rw [settleFrame, kind_framed fits]
  cases rule with
  | ackMatched heard' isAck =>
    cases heard.symm.trans heard'
    rcases type with isOpen | isReply
    · cases isAck.symm.trans isOpen
    · cases isAck.symm.trans isReply
  | openHeard heard' isOpen =>
    cases heard.symm.trans heard'
    rw [isOpen]
    rfl
  | replyHeard heard' isReply =>
    cases heard.symm.trans heard'
    rw [isReply]
    rfl
  | ignored heard' notOpen notReply =>
    cases heard.symm.trans heard'
    rcases type with isOpen | isReply
    · exact absurd isOpen notOpen
    · exact absurd isReply notReply
  | radioError failed => cases (RadioRx.heard_of_error failed).symm.trans heard
  | _ => cases heard

/-- The device moves as the frames it takes say. -/
theorem settle_b (accord : Accord cbor tr s)
    (taken : step cbor .lossyFifo s (.b event) = some s') :
    settle cbor (holdsAck s'.b) s'.toB = settle cbor (holdsAck s.b) s.toB := by
  obtain ⟨idle, b, rule, toB, heard, rfl⟩ := step_b.mp taken
  rcases accord.head_b heard with ⟨rfl, silent⟩ | ⟨e, onAir, fits, is⟩
  · exact congrArg (settle cbor · s.toB) (holdsAck_silent accord.responding rule silent idle)
  · have type : e.msgType = .Open ∨ e.msgType = .Reply :=
      (accord.hears_b heard is).imp_left GatewayLedger.isRequest_of_forwarded
    rw [onAir]
    exact congrArg (settle cbor · toB) (holdsAck_heard rule is type fits)

/-- The gateway clears its slot only after a Reply went on the air. -/
private theorem settled_a (accord : Accord cbor tr s) (shape : s.a.Shape) (settled : Settled cbor s)
    (arrives : RepliesArrive cbor s (.a event))
    (taken : step cbor .lossyFifo s (.a event) = some s') : Settled cbor s' := by
  obtain ⟨ingress, forward, a, b, toA, toB⟩ := s
  obtain ⟨a', rule, forward', -, toA', heard, rfl⟩ := step_a.mp taken
  have requesting := accord.requesting
  intro owesNothing
  dsimp only at owesNothing rule requesting shape ⊢
  have unaired : event.aired = [] → owesReply a = false →
      settle cbor (holdsAck b) (toB ++ event.aired) = false := by
    intro none before
    rw [none, List.append_nil]
    exact settled before
  cases rule with
  | ackMatched | resent | forwarded => cases owesNothing
  | @openHeard rx envelope slot is isOpen =>
    obtain ⟨opener, rfl, -⟩ := accord.hears_a heard is
    cases isOpen
  | @replyHeard rx envelope slot is isReply =>
    obtain ⟨opener, rfl, -⟩ := accord.hears_a heard is
    cases isReply
  | @opened envelope => exact absurd rfl (requesting.actuates envelope)
  | @ackSent ack => exact absurd rfl (requesting.acks ack)
  | ignored | radioError | timedOut | backedOff => exact unaired rfl owesNothing
  | polledEmpty | dequeued | successEnqueued => exact unaired rfl rfl
  | @replySent result driver slot =>
    obtain ⟨pending, opener, -, -, -, rfl⟩ := requesting.replies result (.inl rfl)
    cases arrives rfl
    have fits : (successResult pending (ackFor opener)).intoOutgoing.isSome := by
      rw [encodable_iff]
      exact (by decide : (asciiBytes "LoRa forward ACK received").length ≤ maxAppPayload)
    have aired : (GatewayEvent.sent (successResult pending (ackFor opener)) (.ok ())).aired =
        [OutgoingFrame.framed (successResult pending (ackFor opener))] := by
      simp [GatewayEvent.aired, GatewayEvent.handed, LoraController.sendMessageEnvelope_fits fits]
    rw [aired, settle_append]
    change settleFrame cbor _ _ = false
    rw [settleFrame, kind_framed fits]
    rfl
  | @forwardFailed request driver failure slot failed =>
    have none : (GatewayEvent.sent request.toLoraEnvelope driver).aired = [] := by
      apply List.eq_nil_iff_forall_not_mem.mpr
      intro frame onAir
      obtain ⟨rfl, fits, -⟩ := aired_of_sent onAir
      rw [LoraController.sendMessageEnvelope_fits fits] at failed
      cases failed
    cases shape.forwarding request (.inl rfl)
    exact unaired none rfl
  | @failureEnqueued request slot =>
    cases shape.forwarding request (.inr rfl)
    exact unaired rfl rfl

theorem settled_step (accord : Accord cbor tr s) (shape : s.a.Shape) (settled : Settled cbor s)
    (arrives : RepliesArrive cbor s label) (taken : step cbor .lossyFifo s label = some s') :
    Settled cbor s' := by
  cases label with
  | ingress event =>
    obtain ⟨_, _, _, _, rfl⟩ := step_ingress.mp taken
    exact settled
  | a event => exact settled_a accord shape settled arrives taken
  | b event =>
    intro owesNothing
    rw [settle_b accord taken]
    obtain ⟨_, _, _, _, _, rfl⟩ := step_b.mp taken
    exact settled owesNothing
  | loseToA place =>
    obtain ⟨_, _, rfl⟩ := Option.map_eq_some_iff.mp taken
    exact settled
  | loseToB place =>
    obtain ⟨toB, lost, rfl⟩ := Option.map_eq_some_iff.mp taken
    obtain ⟨-, same⟩ := Option.ite_none_right_eq_some.mp lost
    cases same
    intro owesNothing
    exact settle_erase arrives (settled owesNothing)

theorem settled_of_run (ran : run (step cbor .lossyFifo) init tr = some s)
    (met : Throughout (step cbor .lossyFifo) (RepliesArrive cbor) init tr) : Settled cbor s := by
  refine run_induction_of (P := fun _ s => Settled cbor s) ?_ ?_ ran met
  · intro _
    rfl
  · intro tr s label s' first settled arrives taken
    exact settled_step (accord_of_run first) (GatewayTask.shape_of_run (run_a first)) settled
      arrives taken

end HaviliarIot.TwoNode
