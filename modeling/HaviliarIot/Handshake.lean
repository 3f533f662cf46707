import HaviliarIot.Settling

/-!
Completing the Open/Ack/Reply handshake after a fault.

From any state the two nodes can be driven on without a fault: nothing new is
admitted, every send succeeds, nothing on the air is lost.  The drive works off
the gateway's requests one at a time.  The gateway puts the Open of its request on
the air, the device works through everything on the air up to it and answers, and
the gateway works through the Acks until it meets one that matches
(`outstanding_decreases`).  When no request is left, what is on the air settles the
device, provided that no Reply was lost on the way (`handshake_completes`).
-/

namespace HaviliarIot

open Runs

/-- Nothing goes wrong in this event. -/
def GatewayEvent.Faultless : GatewayEvent → Prop
  | sent _ driver | resent _ driver => driver = .ok ()
  | received (.done (.error _)) => False
  | _ => True

namespace TwoNode

/-- Neither a fault nor a new request. -/
def Faultless : NetLabel → Prop
  | .a event | .b event => event.Faultless
  | .ingress _ | .loseToA _ | .loseToB _ => False

/-- The handshake is over: both nodes listen with nothing in their slots, nothing
waits and nothing is on the air. -/
structure Completed (s : TwoNode) : Prop where
  a : s.a = ⟨.receive, none⟩
  b : s.b = ⟨.receive, none⟩
  forward : s.forward.queue = []
  toA : s.toA = []
  toB : s.toB = []

/-- A faultless continuation leads from one state to the other. -/
abbrev Continues (cbor : Minicbor) : TwoNode → TwoNode → Prop :=
  Leads (step cbor .lossyFifo) Faultless

/-- A run in which no Reply failed or was lost leads here. -/
def Reached (cbor : Minicbor) (s : TwoNode) : Prop :=
  ∃ tr, run (step cbor .lossyFifo) init tr = some s ∧
    Throughout (step cbor .lossyFifo) (RepliesArrive cbor) init tr

/-- The requests the gateway dequeued and has in hand. -/
def inHand (a : GatewayTask) : Nat :=
  match a.pc with
  | .forward _ | .enqueueFailure _ => 1
  | _ => 0

/-- The requests the gateway has still to answer. -/
def outstanding (s : TwoNode) : Nat :=
  s.a.pendingForward.toList.length + inHand s.a + s.forward.queue.length

variable {cbor : Minicbor} {s s' last : TwoNode} {label : NetLabel} {tr : List NetLabel}
  {event : GatewayEvent} {p : LoraEnvelope}

/-! ## Reached states -/

theorem arrives_of_faultless (faultless : Faultless label) : RepliesArrive cbor s label := by
  cases label with
  | ingress | loseToA | loseToB => cases faultless
  | b event => trivial
  | a event =>
    cases event with
    | sent e driver => exact fun _ => faultless
    | _ => trivial

theorem Reached.continues (reached : Reached cbor s) (goes : Continues cbor s s') :
    Reached cbor s' := by
  refine goes.preserves (P := Reached cbor) ?_ reached
  rintro s label s' ⟨tr, ran, met⟩ faultless taken
  refine ⟨tr ++ [label], run_snoc.mpr ⟨s, ran, taken⟩, ?_⟩
  exact (throughout_snoc ran).mpr ⟨met, arrives_of_faultless faultless⟩

theorem Reached.settled (reached : Reached cbor s) : Settled cbor s := by
  obtain ⟨tr, ran, met⟩ := reached
  exact settled_of_run ran met

/-- What the drive needs to know of where it starts. -/
theorem Reached.accord (reached : Reached cbor s) :
    ∃ tr, Accord cbor tr s ∧ s.a.Shape ∧ GatewayTask.Transmitted (aTrace tr) s.a := by
  obtain ⟨tr, ran, -⟩ := reached
  exact ⟨tr, accord_of_run ran, GatewayTask.shape_of_run (run_a ran),
    GatewayTask.transmitted_of_run (run_a ran)⟩

/-- The gateway's requests only become fewer. -/
theorem outstanding_step (accord : Accord cbor tr s) (faultless : Faultless label)
    (taken : step cbor .lossyFifo s label = some s') : outstanding s' ≤ outstanding s := by
  cases label with
  | ingress | loseToA | loseToB => cases faultless
  | b event =>
    obtain ⟨_, _, _, _, _, rfl⟩ := step_b.mp taken
    exact le_refl _
  | a event =>
    obtain ⟨ingress, forward, a, b, toA, toB⟩ := s
    obtain ⟨a', rule, forward', ⟨queue, -⟩, _, _, rfl⟩ := step_a.mp taken
    have requesting := accord.requesting
    dsimp only at queue rule requesting
    cases rule with
    | @ackSent ack => exact absurd rfl (requesting.acks ack)
    | @dequeued request =>
      simp [outstanding, inHand, queue, GatewayEvent.taken, Nat.add_comm]
    | _ => simp [outstanding, inHand, queue, GatewayEvent.taken]

theorem outstanding_mono (reached : Reached cbor s) (goes : Continues cbor s s') :
    outstanding s' ≤ outstanding s := by
  have both : Reached cbor s' ∧ outstanding s' ≤ outstanding s := by
    refine goes.preserves (P := fun at_ => Reached cbor at_ ∧ outstanding at_ ≤ outstanding s) ?_
      ⟨reached, le_refl _⟩
    rintro before label after ⟨reached, bound⟩ faultless taken
    obtain ⟨tr, accord, -, -⟩ := reached.accord
    exact ⟨reached.continues (.single faultless taken),
      (outstanding_step accord faultless taken).trans bound⟩
  exact both.2

/-! ## Single steps of the drive -/

variable {ingress : IngressTask} {forward forward' : ForwardToLoraChannel} {a a' b b' : GatewayTask}
  {toA toA' toB toB' : List Frame}

/-- The gateway steps, and the drive goes on. -/
theorem continues_a (event : GatewayEvent) (rule : GatewayStep cbor a event a')
    (faultless : event.Faultless) (drained : event.drain forward = some forward')
    (heard : event.hear .lossyFifo toA = some toA')
    (rest : Continues cbor ⟨ingress, forward', a', b, toA', toB ++ event.aired⟩ last) :
    Continues cbor ⟨ingress, forward, a, b, toA, toB⟩ last := by
  have ok : Faultless (.a event) := faultless
  apply rest.head ok
  exact step_a.mpr ⟨a', rule, forward', GatewayEvent.drain_eq_some.mp drained, toA', heard, rfl⟩

/-- The device steps, and the drive goes on. -/
theorem continues_b (event : GatewayEvent) (rule : GatewayStep cbor b event b')
    (faultless : event.Faultless) (idle : event.taken = [])
    (heard : event.hear .lossyFifo toB = some toB')
    (rest : Continues cbor ⟨ingress, forward, a, b', toA ++ event.aired, toB'⟩ last) :
    Continues cbor ⟨ingress, forward, a, b, toA, toB⟩ last := by
  have ok : Faultless (.b event) := faultless
  apply rest.head ok
  exact step_b.mpr ⟨idle, b', rule, toB', heard, rfl⟩

/-- What a successful transmission airs. -/
theorem aired_ok {e : LoraEnvelope} (fits : e.intoOutgoing.isSome) :
    (GatewayEvent.sent e (.ok ())).aired = [OutgoingFrame.framed e] := by
  simp [GatewayEvent.aired, GatewayEvent.handed, LoraController.sendMessageEnvelope_fits fits]

/-- The head of a FIFO medium arrives. -/
theorem hear_head (frame : Frame) (rest : List Frame) :
    (GatewayEvent.received (.done (.ok (frame, sampleStatus)))).hear .lossyFifo (frame :: rest) =
      some rest := by
  change (if frame = frame then some rest else none) = some rest
  rw [if_pos rfl]

variable (cbor) in
/-- A frame of an envelope that fits is heard. -/
theorem heard_frame (fits : p.intoOutgoing.isSome) :
    (GatewayEvent.received (.done (.ok (OutgoingFrame.framed p, sampleStatus)))).heard cbor =
      some p := RadioRx.heard_framed fits sampleStatus

/-- The head of the forward channel is dequeued. -/
theorem drain_head {request : ForwardRequest} {rest : List ForwardRequest}
    (bounded : (request :: rest).length ≤ 8) :
    (GatewayEvent.polled (some request)).drain ⟨request :: rest, bounded⟩ =
      some ⟨rest, Nat.le_of_succ_le bounded⟩ :=
  GatewayEvent.drain_eq_some.mpr ⟨rfl, by simp⟩

/-! ## Driving the gateway -/

/-- A dequeued request goes on the air, or is reported as too large. -/
private theorem drive_forward (request : ForwardRequest) (slot : Option LoraEnvelope) :
    Continues cbor ⟨ingress, forward, ⟨.forward request, slot⟩, b, toA, toB⟩
        ⟨ingress, forward, ⟨.receive, some request.toLoraEnvelope⟩, b, toA,
          toB ++ [OutgoingFrame.framed request.toLoraEnvelope]⟩ ∧ request.intoOutgoing.isSome ∨
      ∃ last, Continues cbor ⟨ingress, forward, ⟨.forward request, slot⟩, b, toA, toB⟩ last ∧
        last.a = ⟨.receive, slot⟩ ∧ last.forward = forward := by
  cases outgoing : request.intoOutgoing with
  | some frame =>
    have fits : request.intoOutgoing.isSome := by rw [outgoing]; rfl
    refine .inl ⟨?_, rfl⟩
    refine continues_a (.sent request.toLoraEnvelope (.ok ())) (.forwarded ?_) rfl rfl rfl ?_
    · rw [LoraController.sendMessageEnvelope_fits fits]
    · rw [aired_ok fits]
      exact .refl _
  | none =>
    have failed : (LoraController.sendMessageEnvelope (.ok ()) request.toLoraEnvelope).result =
        .error .Irq := by rw [LoraController.sendMessageEnvelope_refused outgoing]
    exact .inr ⟨_, continues_a (.sent request.toLoraEnvelope (.ok ())) (.forwardFailed failed) rfl rfl
      rfl (continues_a _ .failureEnqueued trivial rfl rfl (.refl _)), rfl, rfl⟩

variable (cbor) in
/-- The end of an iteration, from the match on the slot. -/
private theorem drive_drain (slot : Option LoraEnvelope) :
    ∃ last, Continues cbor ⟨ingress, forward, ⟨.drain, slot⟩, b, toA, toB⟩ last ∧
      last.a.pc = .receive := by
  cases slot with
  | some pending =>
    refine ⟨_, continues_a (.resent pending (.ok ())) .resent rfl rfl rfl (.refl _), rfl⟩
  | none =>
    obtain ⟨queue, bounded⟩ := forward
    cases queue with
    | nil => exact ⟨_, continues_a _ .polledEmpty trivial rfl rfl (.refl _), rfl⟩
    | cons request rest =>
      have drained := drain_head bounded
      rcases drive_forward request none with ⟨sent, -⟩ | ⟨last, failed, back, -⟩
      · exact ⟨_, continues_a _ .dequeued trivial drained rfl sent, rfl⟩
      · exact ⟨last, continues_a _ .dequeued trivial drained rfl failed, by rw [back]⟩

/-- From anywhere in its loop the gateway comes back to listen. -/
private theorem drive_to_receive (reached : Reached cbor s) :
    ∃ last, Continues cbor s last ∧ last.a.pc = .receive := by
  obtain ⟨tr, accord, -, -⟩ := reached.accord
  have requesting := accord.requesting
  obtain ⟨ingress, forward, ⟨pc, slot⟩, b, toA, toB⟩ := s
  have reports : ∀ {toB : List Frame} {result pending},
      ∃ last, Continues cbor ⟨ingress, forward, ⟨.enqueueSuccess result, some pending⟩, b, toA, toB⟩
        last ∧ last.a.pc = .receive := by
    intro toB result pending
    obtain ⟨last, goes, listens⟩ := drive_drain cbor none
    exact ⟨last, continues_a _ .successEnqueued trivial rfl rfl goes, listens⟩
  cases pc with
  | receive => exact ⟨_, .refl _, rfl⟩
  | actuate envelope => exact absurd rfl (requesting.actuates envelope)
  | sendAck ack => exact absurd rfl (requesting.acks ack)
  | sendReply result =>
    obtain ⟨pending, -, held, -⟩ := requesting.replies result (.inl rfl)
    cases held
    obtain ⟨last, goes, listens⟩ := reports
    exact ⟨last, continues_a (.sent result (.ok ())) .replySent rfl rfl rfl goes, listens⟩
  | enqueueSuccess result =>
    obtain ⟨pending, -, held, -⟩ := requesting.replies result (.inr rfl)
    cases held
    exact reports
  | backoff =>
    obtain ⟨last, goes, listens⟩ := drive_drain cbor slot
    exact ⟨last, continues_a _ .backedOff trivial rfl rfl goes, listens⟩
  | drain => exact drive_drain cbor slot
  | forward request =>
    rcases drive_forward request slot with ⟨sent, -⟩ | ⟨last, failed, back, -⟩
    · exact ⟨_, sent, rfl⟩
    · exact ⟨last, failed, by rw [back]⟩
  | enqueueFailure request =>
    exact ⟨_, continues_a _ .failureEnqueued trivial rfl rfl (.refl _), rfl⟩

/-- A listening gateway with a request puts its Open at the end of the air, or
reports that it cannot be sent. -/
private theorem drive_open (reached : Reached cbor s) (listens : s.a.pc = .receive)
    (waiting : 0 < outstanding s) :
    ∃ last, Continues cbor s last ∧ (outstanding last < outstanding s ∨
      ∃ p before, last.a = ⟨.receive, some p⟩ ∧ p.msgType = .Open ∧ p.intoOutgoing.isSome ∧
        last.toB = before ++ [OutgoingFrame.framed p]) := by
  obtain ⟨tr, accord, shape, transmitted⟩ := reached.accord
  have requesting := accord.requesting
  obtain ⟨ingress, ⟨queue, bounded⟩, ⟨pc, slot⟩, b, toA, toB⟩ := s
  cases listens
  cases slot with
  | some pending =>
    have fits := (transmitted pending rfl).1
    refine ⟨⟨ingress, ⟨queue, bounded⟩, ⟨.receive, some pending⟩, b, toA,
      toB ++ [OutgoingFrame.framed pending]⟩, ?_, .inr ⟨pending, toB, rfl,
      GatewayLedger.isRequest_of_forwarded (requesting.slot pending rfl), fits, rfl⟩⟩
    refine continues_a (.received .timeout) .timedOut trivial rfl rfl ?_
    refine continues_a (.resent pending (.ok ())) .resent rfl rfl rfl ?_
    rw [aired_of_resent (shape.version pending rfl), aired_ok fits]
    change Continues cbor ⟨ingress, _, _, b, toA, (toB ++ []) ++ _⟩ _
    rw [List.append_nil]
    exact .refl _
  | none =>
    cases queue with
    | nil => cases waiting
    | cons request rest =>
      have room : rest.length ≤ 8 := Nat.le_of_succ_le bounded
      have drained := drain_head bounded
      have dequeues : ∀ {last}, Continues cbor ⟨ingress, ⟨rest, room⟩, ⟨.forward request, none⟩, b,
          toA, toB ++ [] ++ []⟩ last →
          Continues cbor ⟨ingress, ⟨request :: rest, bounded⟩, ⟨.receive, none⟩, b, toA, toB⟩ last := by
        intro last goes
        refine continues_a (.received .timeout) .timedOut trivial rfl rfl ?_
        exact continues_a _ .dequeued trivial drained rfl goes
      rcases drive_forward request none with ⟨sent, fits⟩ | ⟨last, failed, back, same⟩
      · exact ⟨_, dequeues sent, .inr ⟨request.toLoraEnvelope, _, rfl, request.msgType_eq, fits, rfl⟩⟩
      · refine ⟨last, dequeues failed, .inl ?_⟩
        simp [outstanding, inHand, back, same]

/-- A listening gateway works through the Acks on the air until one answers the
request in its slot. -/
private theorem drive_acks (reached : Reached cbor s) (listens : s.a = ⟨.receive, some p⟩)
    (acked : OutgoingFrame.framed (ackFor p) ∈ s.toA) :
    ∃ last, Continues cbor s last ∧ outstanding last < outstanding s := by
  generalize air : s.toA = toA at acked
  induction toA generalizing s with
  | nil => cases acked
  | cons frame rest ih =>
    obtain ⟨tr, accord, -, -⟩ := reached.accord
    obtain ⟨opener, rfl, -⟩ := accord.toA frame (by rw [air]; exact List.mem_cons_self)
    have heard := heard_frame cbor (GatewayTask.ackFor_fits opener)
    obtain ⟨ingress, forward, a, b, toA, toB⟩ := s
    dsimp only at listens air
    subst listens air
    by_cases same : p.seq = opener.seq
    · refine ⟨_, continues_a _ (.ackMatched heard rfl same) trivial rfl (hear_head _ rest)
        (continues_a (.sent _ (.ok ())) .replySent rfl rfl rfl
          (continues_a _ .successEnqueued trivial rfl rfl (.refl _))), ?_⟩
      simp [outstanding, inHand]
    · -- a stale Ack costs one more retransmission
      have skips : ∀ {last}, Continues cbor ⟨ingress, forward, ⟨.receive, some p⟩, b, rest,
          toB ++ [] ++ (GatewayEvent.resent p (.ok ())).aired⟩ last →
          Continues cbor ⟨ingress, forward, ⟨.receive, some p⟩, b,
            OutgoingFrame.framed (ackFor opener) :: rest, toB⟩ last := by
        intro last goes
        refine continues_a _ (.ignored heard (by simp [ackFor, LoraEnvelope.new])
          (by simp [ackFor, LoraEnvelope.new]) ?_) trivial rfl (hear_head _ rest) ?_
        · intro _ pending held
          cases held
          exact same
        · exact continues_a (.resent p (.ok ())) .resent rfl rfl rfl goes
      have later : OutgoingFrame.framed (ackFor p) ∈ rest := by
        rcases List.mem_cons.mp acked with first | later
        · have decoded := LoraController.decodeEnvelope_of_fits cbor (GatewayTask.ackFor_fits p)
          rw [first, LoraController.decodeEnvelope_of_fits cbor (GatewayTask.ackFor_fits opener)]
            at decoded
          exact absurd (congrArg LoraEnvelope.seq (Option.some.inj decoded)).symm same
        · exact later
      obtain ⟨last, goes, fewer⟩ := ih (reached.continues (skips (.refl _))) rfl rfl later
      exact ⟨last, skips goes, fewer⟩

/-- A gateway with nothing to do ignores every Ack. -/
private theorem drive_idle (reached : Reached cbor s) (listens : s.a = ⟨.receive, none⟩)
    (empty : s.forward.queue = []) :
    ∃ last, Continues cbor s last ∧ last.a = ⟨.receive, none⟩ ∧ last.forward.queue = [] ∧
      last.toA = [] ∧ last.b = s.b ∧ last.toB = s.toB := by
  generalize air : s.toA = toA
  induction toA generalizing s with
  | nil => exact ⟨s, .refl s, listens, empty, air, rfl, rfl⟩
  | cons frame rest ih =>
    obtain ⟨tr, accord, -, -⟩ := reached.accord
    obtain ⟨opener, rfl, -⟩ := accord.toA frame (by rw [air]; exact List.mem_cons_self)
    have heard := heard_frame cbor (GatewayTask.ackFor_fits opener)
    obtain ⟨ingress, forward, a, b, toA, toB⟩ := s
    dsimp only at listens air empty
    subst listens air
    have drained : (GatewayEvent.polled none).drain forward = some forward :=
      GatewayEvent.drain_eq_some.mpr ⟨rfl, fun _ => empty⟩
    have skips : ∀ {last}, Continues cbor ⟨ingress, forward, ⟨.receive, none⟩, b, rest,
        toB ++ [] ++ []⟩ last → Continues cbor ⟨ingress, forward, ⟨.receive, none⟩, b,
          OutgoingFrame.framed (ackFor opener) :: rest, toB⟩ last := by
      intro last goes
      refine continues_a _ (.ignored heard (by simp [ackFor, LoraEnvelope.new])
        (by simp [ackFor, LoraEnvelope.new]) (by simp)) trivial rfl (hear_head _ rest) ?_
      exact continues_a _ .polledEmpty trivial drained rfl goes
    rw [List.append_nil, List.append_nil] at skips
    obtain ⟨last, goes, done⟩ := ih (reached.continues (skips (.refl _))) rfl empty rfl
    exact ⟨last, skips goes, done⟩

/-! ## Driving the device -/

/-- The device comes back to listen, its Acks on the air behind it. -/
private theorem drive_b_to_receive (accord : Accord cbor tr s) :
    ∃ last, Continues cbor s last ∧ last.b.pc = .receive ∧ last.a = s.a ∧
      last.forward = s.forward ∧ last.toB = s.toB := by
  have responding := accord.responding
  obtain ⟨ingress, forward, a, ⟨pc, slot⟩, toA, toB⟩ := s
  have drains : ∀ {toA : List Frame} {slot}, ∃ last, Continues cbor
      ⟨ingress, forward, a, ⟨.drain, slot⟩, toA, toB⟩ last ∧ last.b.pc = .receive ∧ last.a = a ∧
      last.forward = forward ∧ last.toB = toB := by
    intro toA slot
    cases slot with
    | none => exact ⟨_, continues_b _ .polledEmpty trivial rfl rfl (.refl _), rfl, rfl, rfl, rfl⟩
    | some pending =>
      exact ⟨_, continues_b (.resent pending (.ok ())) .resent rfl rfl rfl (.refl _), rfl, rfl, rfl,
        rfl⟩
  have acks : ∀ {toA : List Frame} {ack}, ∃ last, Continues cbor
      ⟨ingress, forward, a, ⟨.sendAck ack, slot⟩, toA, toB⟩ last ∧ last.b.pc = .receive ∧
      last.a = a ∧ last.forward = forward ∧ last.toB = toB := by
    intro toA ack
    obtain ⟨last, goes, done⟩ := drains
    exact ⟨last, continues_b (.sent ack (.ok ())) .ackSent rfl rfl rfl goes, done⟩
  cases pc with
  | receive => exact ⟨_, .refl _, rfl, rfl, rfl, rfl⟩
  | actuate envelope =>
    obtain ⟨last, goes, done⟩ := acks
    exact ⟨last, continues_b _ .opened trivial rfl rfl goes, done⟩
  | sendAck ack => exact acks
  | sendReply result => exact absurd rfl (responding.replies result)
  | enqueueSuccess result => exact absurd rfl (responding.reports result)
  | backoff =>
    obtain ⟨last, goes, done⟩ := drains
    exact ⟨last, continues_b _ .backedOff trivial rfl rfl goes, done⟩
  | drain => exact drains
  | forward request => exact absurd rfl (responding.forwards request)
  | enqueueFailure request => exact absurd rfl (responding.fails request)

/-- The device takes the head of the air. -/
private theorem drive_b_head (accord : Accord cbor tr s) (listens : s.b.pc = .receive)
    {frame : Frame} {rest : List Frame} (air : s.toB = frame :: rest) :
    ∃ last, Continues cbor s last ∧ last.a = s.a ∧ last.forward = s.forward ∧ last.toB = rest := by
  obtain ⟨e, rfl, fits, origin⟩ := accord.toB frame (by rw [air]; exact List.mem_cons_self)
  have heard := heard_frame cbor fits
  obtain ⟨ingress, forward, a, ⟨pc, slot⟩, toA, toB⟩ := s
  dsimp only at listens air
  subst listens air
  rcases origin with sent | isReply
  · exact ⟨_, continues_b _ (.openHeard heard (GatewayLedger.isRequest_of_forwarded sent)) trivial rfl
      (hear_head _ rest) (.refl _), rfl, rfl, rfl⟩
  · exact ⟨_, continues_b _ (.replyHeard heard isReply) trivial rfl (hear_head _ rest) (.refl _),
      rfl, rfl, rfl⟩

/-- The device works through the air, up to a given place. -/
private theorem drive_b (reached : Reached cbor s) {before rest : List Frame}
    (air : s.toB = before ++ rest) :
    ∃ last, Continues cbor s last ∧ last.b.pc = .receive ∧ last.a = s.a ∧
      last.forward = s.forward ∧ last.toB = rest := by
  induction before generalizing s with
  | nil =>
    obtain ⟨tr, accord, -, -⟩ := reached.accord
    obtain ⟨last, goes, listens, a, forward, toB⟩ := drive_b_to_receive accord
    exact ⟨last, goes, listens, a, forward, toB.trans air⟩
  | cons frame before ih =>
    obtain ⟨tr, accord, -, -⟩ := reached.accord
    obtain ⟨s₁, goes₁, listens₁, a₁, forward₁, toB₁⟩ := drive_b_to_receive accord
    have reached₁ := reached.continues goes₁
    obtain ⟨tr₁, accord₁, -, -⟩ := reached₁.accord
    obtain ⟨s₂, goes₂, a₂, forward₂, toB₂⟩ := drive_b_head accord₁ listens₁ (toB₁.trans air)
    obtain ⟨last, goes, listens, a, forward, toB⟩ := ih (reached₁.continues goes₂) toB₂
    exact ⟨last, goes₁.trans (goes₂.trans goes), listens, a.trans (a₂.trans a₁),
      forward.trans (forward₂.trans forward₁), toB⟩

/-- The device answers the Open at the end of the air. -/
private theorem drive_b_answers (reached : Reached cbor s) {before : List Frame}
    (isOpen : p.msgType = .Open) (fits : p.intoOutgoing.isSome)
    (air : s.toB = before ++ [OutgoingFrame.framed p]) :
    ∃ last, Continues cbor s last ∧ last.a = s.a ∧ last.forward = s.forward ∧
      OutgoingFrame.framed (ackFor p) ∈ last.toA := by
  obtain ⟨s₁, goes₁, listens, a₁, forward₁, toB₁⟩ := drive_b reached air
  have heard := heard_frame cbor fits
  obtain ⟨ingress, forward, a, ⟨pc, slot⟩, toA, toB⟩ := s₁
  dsimp only at listens toB₁
  subst listens toB₁
  refine ⟨_, goes₁.trans (continues_b _ (.openHeard heard isOpen) trivial rfl (hear_head _ [])
    (continues_b _ .opened trivial rfl rfl (continues_b (.sent (ackFor p) (.ok ())) .ackSent rfl rfl
      rfl (.refl _)))), a₁, forward₁, ?_⟩
  rw [aired_ok (GatewayTask.ackFor_fits p)]
  exact List.mem_append_right _ (List.mem_singleton_self _)

/-! ## Completion -/

/-- While a request is outstanding, one can be answered. -/
theorem outstanding_decreases (reached : Reached cbor s) (waiting : 0 < outstanding s) :
    ∃ last, Continues cbor s last ∧ outstanding last < outstanding s := by
  obtain ⟨s₁, goes₁, listens⟩ := drive_to_receive reached
  have reached₁ := reached.continues goes₁
  have bound₁ := outstanding_mono reached goes₁
  by_cases done : outstanding s₁ < outstanding s
  · exact ⟨s₁, goes₁, done⟩
  · obtain ⟨s₂, goes₂, fewer | ⟨p, before, a₂, isOpen, fits, air⟩⟩ :=
      drive_open reached₁ listens (by omega)
    · exact ⟨s₂, goes₁.trans goes₂, by omega⟩
    · have reached₂ := reached₁.continues goes₂
      have bound₂ := outstanding_mono reached₁ goes₂
      obtain ⟨s₃, goes₃, a₃, -, acked⟩ := drive_b_answers reached₂ isOpen fits air
      have bound₃ := outstanding_mono reached₂ goes₃
      obtain ⟨last, goes, fewer⟩ := drive_acks (reached₂.continues goes₃) (a₃.trans a₂) acked
      exact ⟨last, goes₁.trans (goes₂.trans (goes₃.trans goes)), by omega⟩

/-- Nothing outstanding: what is on the air settles the device. -/
private theorem completes_of_none (reached : Reached cbor s) (none_ : outstanding s = 0) :
    ∃ last, Continues cbor s last ∧ Completed last := by
  obtain ⟨s₁, goes₁, listens₁⟩ := drive_to_receive reached
  have reached₁ := reached.continues goes₁
  have bound₁ := outstanding_mono reached goes₁
  obtain ⟨s₂, goes₂, listens₂, a₂, forward₂, toB₂⟩ := drive_b reached₁ (List.append_nil s₁.toB).symm
  have reached₂ := reached₁.continues goes₂
  have idle : s₁.a = ⟨.receive, none⟩ ∧ s₁.forward.queue = [] := by
    have zero : outstanding s₁ = 0 := by omega
    unfold outstanding at zero
    have slot : s₁.a.pendingForward = none := by
      cases held : s₁.a.pendingForward with
      | none => rfl
      | some pending =>
        rw [held, Option.toList_some, List.length_singleton] at zero
        omega
    refine ⟨?_, List.length_eq_zero_iff.mp (by omega)⟩
    rw [← listens₁, ← slot]
  obtain ⟨last, goes, a, empty, toA, b, toB⟩ :=
    drive_idle reached₂ (a₂.trans idle.1) (by rw [forward₂]; exact idle.2)
  have settled := (reached₂.continues goes).settled (by rw [a]; rfl)
  rw [toB, toB₂] at settled
  have listens : last.b.pc = .receive := by rw [b]; exact listens₂
  have slot : last.b.pendingForward = none := by
    cases held : last.b.pendingForward with
    | none => rfl
    | some pending =>
      have holds : holdsAck last.b = true := by rw [holdsAck, listens, held]; rfl
      exact absurd (holds.symm.trans settled) (by decide)
  refine ⟨last, goes₁.trans (goes₂.trans goes), a, ?_, empty, toA, toB.trans toB₂⟩
  rw [← listens, ← slot]

/-- **The handshake can always be completed** as long as no Reply failed or was
lost: from the state reached, some continuation with no new request and no further
fault clears both slots, the forward channel and the air.

The results of the gateway are taken to be collected.  A node whose three tasks wait
for each other (`GatewayNode.CircularWait`) is outside this system; `Recovery` is
about the whole node. -/
theorem handshake_completes (ran : run (step cbor .lossyFifo) init tr = some s)
    (met : Throughout (step cbor .lossyFifo) (RepliesArrive cbor) init tr) :
    ∃ last, Continues cbor s last ∧ Completed last := by
  have reached : Reached cbor s := ⟨tr, ran, met⟩
  clear ran met
  generalize count : outstanding s = n
  induction n using Nat.strong_induction_on generalizing s with
  | h n ih =>
    by_cases done : outstanding s = 0
    · exact completes_of_none reached done
    · obtain ⟨s₁, goes₁, fewer⟩ := outstanding_decreases reached (by omega)
      obtain ⟨last, goes, completed⟩ := ih (outstanding s₁) (by omega) (reached.continues goes₁) rfl
      exact ⟨last, goes₁.trans goes, completed⟩

/-- The Reply of a first request has arrived, after the device repeated its Ack, and a
second request is on the air. -/
def secondHandshake : List NetLabel :=
  let request := sampleRequest.toLoraEnvelope
  let result := successResult request (ackFor request)
  let second : ForwardRequest := .new 2 2000 [4]
  handshake ++ [.b (.resent (ackFor request) (.ok ())),
    .b (.received (.done (.ok (OutgoingFrame.framed result, sampleStatus)))), .b (.polled none),
    .ingress .slept, .ingress .locked, .ingress (.received (.ok ("esp32/open", [4])) 2000),
    .ingress (.enqueued second), .a (.received .timeout), .a (.polled (some second)),
    .a (.sent second.toLoraEnvelope (.ok ()))]

theorem handshake_completes_twice :
    ∃ s, run (step .reference .lossyFifo) init secondHandshake = some s ∧
      ∃ last, Continues .reference s last ∧ Completed last := by
  have runs : (run (step .reference .lossyFifo) init secondHandshake).isSome := by decide
  obtain ⟨s, ran⟩ := Option.isSome_iff_exists.mp runs
  exact ⟨s, ran, handshake_completes ran (by decide)⟩

/-! ## A device left behind -/

/-- The device holds an Ack, and nothing on the air or at the gateway will clear
it. -/
structure Stranded (s : TwoNode) : Prop where
  answered : outstanding s = 0
  toB : s.toB = []
  held : s.b.pendingForward ≠ none

/-- A gateway with nothing outstanding airs nothing. -/
private theorem unaired_of_answered (accord : Accord cbor tr s) (answered : outstanding s = 0)
    (rule : GatewayStep cbor s.a event a') : event.aired = [] := by
  have requesting := accord.requesting
  obtain ⟨ingress, forward, a, b, toA, toB⟩ := s
  dsimp only at rule requesting
  cases rule with
  | @ackSent ack => exact absurd rfl (requesting.acks ack)
  | @replySent result =>
    obtain ⟨pending, -, held, -⟩ := requesting.replies result (.inl rfl)
    cases held
    simp [outstanding] at answered
  | resent | forwarded | forwardFailed => simp [outstanding, inHand] at answered
  | _ => rfl

/-- A device that hears nothing keeps its Ack. -/
private theorem held_of_silent {Heard Handled : LoraEnvelope → Prop}
    (responding : Responding Heard Handled b) (rule : GatewayStep cbor b event b')
    (silent : event.heard cbor = none) (idle : event.taken = [])
    (held : b.pendingForward ≠ none) : b'.pendingForward ≠ none := by
  cases rule with
  | replyHeard heard => cases silent.symm.trans heard
  | @successEnqueued result => exact absurd rfl (responding.reports result)
  | dequeued => cases idle
  | ackSent | forwarded => simp
  | _ => exact held

theorem stranded_step (accord : Accord cbor tr s) (stranded : Stranded s)
    (faultless : Faultless label) (taken : step cbor .lossyFifo s label = some s') :
    Stranded s' := by
  have answered : outstanding s' = 0 := by
    have fewer := outstanding_step accord faultless taken
    rw [stranded.answered] at fewer
    exact Nat.le_zero.mp fewer
  cases label with
  | ingress | loseToA | loseToB => cases faultless
  | a event =>
    obtain ⟨a', rule, _, _, _, _, rfl⟩ := step_a.mp taken
    refine ⟨answered, ?_, stranded.held⟩
    rw [unaired_of_answered accord stranded.answered rule, List.append_nil]
    exact stranded.toB
  | b event =>
    have responding := accord.responding
    obtain ⟨idle, b, rule, toB, heard, rfl⟩ := step_b.mp taken
    rcases accord.head_b heard with ⟨rfl, silent⟩ | ⟨e, onAir, -⟩
    · exact ⟨answered, stranded.toB, held_of_silent responding rule silent idle stranded.held⟩
    · rw [stranded.toB] at onAir
      cases onAir

/-- Without a fault and without a new request, a stranded device stays stranded. -/
theorem stranded_forever (ran : run (step cbor .lossyFifo) init tr = some s)
    (stranded : Stranded s) (goes : Continues cbor s s') : Stranded s' := by
  have both : (∃ tr, run (step cbor .lossyFifo) init tr = some s') ∧ Stranded s' := by
    refine goes.preserves (P := fun at_ => (∃ tr, run (step cbor .lossyFifo) init tr = some at_) ∧
      Stranded at_) ?_ ⟨⟨tr, ran⟩, stranded⟩
    rintro before label after ⟨⟨tr, ran⟩, stranded⟩ faultless taken
    exact ⟨⟨tr ++ [label], run_snoc.mpr ⟨before, ran, taken⟩⟩,
      stranded_step (accord_of_run ran) stranded faultless taken⟩
  exact both.2

/-- The Reply of a completed request fails: the gateway is done with it, and the
device repeats its Ack for ever. -/
theorem lost_reply_strands :
    ¬ ∀ tr s, run (step .reference .lossyFifo) init tr = some s →
      ∃ last, Continues .reference s last ∧ last.a.pendingForward = none ∧
        last.b.pendingForward = none ∧ last.forward.queue = [] := by
  intro always
  let request := sampleRequest.toLoraEnvelope
  let result := successResult request (ackFor request)
  let tr : List NetLabel := handshake.take 10 ++
    [.a (.sent result (.error .Irq)), .a (.enqueued request result), .a (.polled none)]
  have view : (run (step .reference .lossyFifo) init tr).map
      (fun s => (outstanding s, s.toB, s.b.pendingForward)) = some (0, [], some (ackFor request)) := by
    decide
  obtain ⟨s, ran, seen⟩ := Option.map_eq_some_iff.mp view
  simp only [Prod.mk.injEq] at seen
  obtain ⟨answered, toB, held⟩ := seen
  have stranded : Stranded s := ⟨answered, toB, by rw [held]; simp⟩
  obtain ⟨last, goes, -, cleared, -⟩ := always tr s ran
  exact (stranded_forever ran stranded goes).held cleared

end TwoNode

end HaviliarIot
