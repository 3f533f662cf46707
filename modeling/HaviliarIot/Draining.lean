import HaviliarIot.NodeDeadlock
import HaviliarIot.Pipeline

/-!
The node can always be brought to rest, but for one jam.

At rest nothing is held anywhere: both channels are empty, the radio loop polls with
an empty slot, and no task holds the MQTT guard (`Drained`).  From every reachable
state that is not `Jammed` some calm continuation leads there: no message arrives,
and the radio hears no Open and no Reply to a request (`drains_iff`).

The argument is a variant: `work` weighs what is held and how far each task is from
rest, and some task can always make it smaller (`progress`).  A jam is left by no calm
step.  It is there before the circular wait is: as soon as ingress waits before a
full channel, with egress waiting for its guard and the results full, a loop that
owes a result can neither report it nor dequeue.
-/

namespace HaviliarIot.GatewayNode

open Runs

/-- What the radio loop has to report before it dequeues again: the request it is
handling or has in the slot, or the result in its hands. -/
def Owes (g : GatewayTask) : Prop :=
  match g.pc with
  | .forward _ | .enqueueFailure _ | .sendReply _ | .enqueueSuccess _ => True
  | .actuate _ | .sendAck _ => False
  | .receive | .backoff | .drain => ∃ pending ∈ g.pendingForward, GatewayLedger.IsRequest pending

/-- Ingress keeps the guard before a full channel, egress waits for the guard before
full results, and the radio loop has to report before it can make room. -/
structure Jammed (s : GatewayNode) : Prop where
  ingress : ∃ request, s.ingress.pc = .enqueue request
  forward : s.forward.Full
  gateway : Owes s.gateway
  results : s.results.Full
  egress : ∃ result, s.egress.pc = .lock result

/-- Nothing is held and nothing is under way. -/
structure Drained (s : GatewayNode) : Prop where
  ingress : s.ingress.pc.holdsGuard = false
  forward : s.forward.queue = []
  gateway : s.gateway = .init
  results : s.results.queue = []
  egress : s.egress.pc = .receive

/-- No message arrives, and the radio hears no Open and no Reply to a request. -/
def Calm (cbor : Minicbor) (s : GatewayNode) : NodeLabel → Prop
  | .ingress event => ∀ message now, event ≠ .received (.ok message) now
  | .gateway event => ∀ e ∈ event.heard cbor, e.msgType ≠ .Open ∧
      (e.msgType = .Reply → ∀ pending ∈ s.gateway.pendingForward, ¬ GatewayLedger.IsRequest pending)
  | .egress _ => True

/-- Neither a message nor a frame arrives. -/
def Deaf : NodeLabel → Prop
  | .ingress event => ∀ message now, event ≠ .received (.ok message) now
  | .gateway event => ∀ rx, event = .received rx → rx = .timeout
  | .egress _ => True

variable {cbor : Minicbor} {s s' : GatewayNode} {label : NodeLabel} {tr more : List NodeLabel}

theorem calm_of_deaf (deaf : Deaf label) : Calm cbor s label := by
  cases label with
  | ingress event => exact deaf
  | egress event => trivial
  | gateway event =>
    intro e heard
    cases event with
    | received rx =>
      cases deaf rx rfl
      cases heard
    | _ => cases heard

/-! ## What holds in every run -/

/-- The slot is what the loop's branch says, and one task at most holds the guard. -/
structure Sound (s : GatewayNode) : Prop where
  shape : GatewayTask.Shape s.gateway
  exclusive : s.ingress.pc.holdsGuard = true → s.egress.pc.holdsGuard = false

theorem sound_step (sound : Sound s) (taken : step cbor s label = some s') : Sound s' := by
  obtain ⟨shape, exclusive⟩ := sound
  cases label with
  | ingress event =>
    obtain ⟨⟨ingressPc, _, _⟩, gateway, egress, forward, results⟩ := s
    obtain ⟨free, _, rule, _, _, rfl⟩ := step_ingress.mp taken
    refine ⟨shape, ?_⟩
    cases rule with
    | locked => exact fun _ => (free rfl).2
    | accepted => exact fun _ => exclusive rfl
    | refused | failed | enqueued | slept =>
      intro holds
      cases holds
  | gateway event =>
    obtain ⟨_, rule, _, _, _, _, rfl⟩ := step_gateway.mp taken
    exact ⟨GatewayTask.shape_step shape rule, exclusive⟩
  | egress event =>
    obtain ⟨ingress, gateway, ⟨egressPc, _⟩, forward, results⟩ := s
    obtain ⟨free, _, rule, _, _, rfl⟩ := step_egress.mp taken
    refine ⟨shape, fun holds => ?_⟩
    cases rule with
    | taken | published => rfl
    | locked => exact absurd (free rfl).1 (by simpa using holds)

theorem sound_of_run (ran : run (step cbor) init tr = some s) : Sound s := by
  have start : Sound init :=
    ⟨GatewayTask.shape_init, by simp [init, IngressTask.init, IngressPc.holdsGuard]⟩
  refine run_induction (P := fun _ s => Sound s) start ?_ ran
  intro _ s label s' _ sound taken
  exact sound_step sound taken

/-! ## A jam stays -/

/-- How far ingress is from giving the guard back. -/
def ingressWork : IngressPc → Nat
  | .lock | .sleep => 0
  | .receive => 1
  | .enqueue _ => 11

/-- How far the radio loop is from its poll with an empty slot. -/
def gatewayWork (g : GatewayTask) (waiting : List ForwardRequest) : Nat :=
  match g.pc, g.pendingForward with
  | .receive, none => if waiting = [] then 0 else 2
  | .drain, none => 1
  | .backoff, none => 2
  | .enqueueSuccess _, _ => 5
  | .enqueueFailure _, _ | .sendReply _, _ => 6
  | .receive, some _ => 7
  | .drain, some _ | .forward _, _ => 8
  | .backoff, some _ | .sendAck _, _ => 9
  | .actuate _, _ => 10

/-- A new request is two steps more for a loop at its poll. -/
theorem gatewayWork_le (g : GatewayTask) (waiting waiting' : List ForwardRequest) :
    gatewayWork g waiting ≤ gatewayWork g waiting' + 2 := by
  unfold gatewayWork
  split
  · split <;> omega
  all_goals omega

/-- How far egress is from its receive. -/
def egressWork : EgressPc → Nat
  | .receive => 0
  | .publish _ => 1
  | .lock _ => 2

/-- What is left to do before the node is at rest. -/
def work (s : GatewayNode) : Nat :=
  ingressWork s.ingress.pc + 8 * s.forward.queue.length +
    gatewayWork s.gateway s.forward.queue + 3 * s.results.queue.length + egressWork s.egress.pc

/-- A step without news leaves less work, and no jam. -/
def Progresses (cbor : Minicbor) (s : GatewayNode) : Prop :=
  ∃ label s', Deaf label ∧ step cbor s label = some s' ∧ ¬ Jammed s' ∧ work s' < work s

/-- A step of the radio loop that touches no channel. -/
theorem step_of_quiet {event : GatewayEvent} {gateway : GatewayTask} (quiet : Quiet event)
    (rule : GatewayStep cbor s.gateway event gateway) :
    step cbor s (.gateway event) = some { s with gateway } := by
  obtain ⟨silent, unpolled⟩ := quiet
  have untaken : event.taken = [] := by
    cases event <;> first | rfl | exact absurd rfl (unpolled _)
  refine step_gateway.mpr ⟨gateway, rule, s.forward, ⟨?_, ?_⟩, s.results, ?_, rfl⟩
  · rw [untaken, List.nil_append]
  · exact fun polled => absurd polled (unpolled _)
  · rw [silent, List.append_nil]

/-- A loop that comes to owe nothing new jams nothing. -/
theorem unjammed_of_owes {gateway : GatewayTask} (unjammed : ¬ Jammed s)
    (owed : Owes gateway → Owes s.gateway) : ¬ Jammed { s with gateway } := by
  rintro ⟨ingress, forward, owes, results, egress⟩
  exact unjammed ⟨ingress, forward, owed owes, results, egress⟩

theorem work_lt_of_gateway {gateway : GatewayTask}
    (less : gatewayWork gateway s.forward.queue < gatewayWork s.gateway s.forward.queue) :
    work { s with gateway } < work s := by
  simp only [work]
  omega

theorem progresses_of_quiet {event : GatewayEvent} {gateway : GatewayTask}
    (rule : GatewayStep cbor s.gateway event gateway) (deaf : Deaf (.gateway event))
    (quiet : Quiet event) (unjammed : ¬ Jammed s) (owed : Owes gateway → Owes s.gateway)
    (less : gatewayWork gateway s.forward.queue < gatewayWork s.gateway s.forward.queue) :
    Progresses cbor s :=
  ⟨.gateway event, { s with gateway }, deaf, step_of_quiet quiet rule,
    unjammed_of_owes unjammed owed, work_lt_of_gateway less⟩

/-- The loop reports what it owes. -/
theorem progresses_of_report {onBehalf result : LoraEnvelope} {gateway : GatewayTask}
    (rule : GatewayStep cbor s.gateway (.enqueued onBehalf result) gateway)
    (room : ¬ s.results.Full) (settled : ¬ Owes gateway)
    (less : gatewayWork gateway s.forward.queue + 3 < gatewayWork s.gateway s.forward.queue) :
    Progresses cbor s := by
  have bounded : (s.results.queue ++ [result]).length ≤ 8 := by
    have bounded := s.results.bounded
    rw [Channel.Full] at room
    rw [List.length_append, List.length_singleton]
    omega
  refine ⟨_, { s with gateway, results := ⟨_, bounded⟩ }, by simp [Deaf],
    step_gateway.mpr ⟨gateway, rule, s.forward, ⟨rfl, by simp⟩, ⟨_, bounded⟩, rfl, rfl⟩, ?_, ?_⟩
  · exact fun jam => settled jam.gateway
  · simp only [work, List.length_append, List.length_singleton]
    omega

/-- The loop polls the forward channel. -/
theorem progresses_of_poll (poll : s.gateway = ⟨.drain, none⟩) : Progresses cbor s := by
  obtain ⟨ingress, gateway, egress, ⟨queue, bounded⟩, results⟩ := s
  subst poll
  cases queue with
  | nil =>
    refine ⟨_, ⟨ingress, .init, egress, ⟨[], bounded⟩, results⟩,
      by simp [Deaf],
      step_gateway.mpr ⟨_, .polledEmpty, ⟨[], bounded⟩, ⟨rfl, fun _ => rfl⟩, results, ?_, rfl⟩, ?_, ?_⟩
    · simp [GatewayEvent.results]
    · intro jam
      obtain ⟨_, held, -⟩ := jam.gateway
      cases held
    · simp [work, gatewayWork, GatewayTask.init]
  | cons request rest =>
    have room : rest.length < 8 := bounded
    refine ⟨_, ⟨ingress, ⟨.forward request, none⟩, egress, ⟨rest, room.le⟩, results⟩,
      by simp [Deaf],
      step_gateway.mpr ⟨_, .dequeued, ⟨rest, room.le⟩, ⟨rfl, by simp⟩, results, ?_, rfl⟩, ?_, ?_⟩
    · simp [GatewayEvent.results]
    · exact fun jam => room.ne jam.forward
    · simp only [work, gatewayWork, List.length_cons]
      omega

/-- The radio loop can move without news, unless it is at rest, owes a result to full
results, or polls for an answer. -/
theorem gateway_progresses (sound : Sound s) (unjammed : ¬ Jammed s)
    (room : Owes s.gateway → ¬ s.results.Full)
    (busy : s.gateway = .init → s.forward.queue ≠ []) :
    Progresses cbor s ∨ ∃ pending, s.gateway = ⟨.receive, some pending⟩ := by
  obtain ⟨ingress, ⟨pc, slot⟩, egress, forward, results⟩ := s
  obtain ⟨⟨-, -, forwarding, acking, replying⟩, -⟩ := sound
  dsimp only at room busy
  cases pc with
  | receive =>
    cases slot with
    | some pending => exact .inr ⟨pending, rfl⟩
    | none =>
      left
      refine progresses_of_quiet .timedOut (by simp [Deaf]) ⟨rfl, by simp⟩ unjammed id ?_
      simp [gatewayWork, busy rfl]
  | backoff =>
    left
    refine progresses_of_quiet .backedOff (by simp [Deaf]) ⟨rfl, by simp⟩ unjammed id ?_
    cases slot <;> simp [gatewayWork]
  | drain =>
    left
    cases slot with
    | none => exact progresses_of_poll rfl
    | some pending =>
      refine progresses_of_quiet (@GatewayStep.resent _ _ (.ok ())) (by simp [Deaf]) ⟨rfl, by simp⟩
        unjammed id ?_
      simp [gatewayWork]
  | actuate envelope =>
    left
    refine progresses_of_quiet .opened (by simp [Deaf]) ⟨rfl, by simp⟩ unjammed id ?_
    simp [gatewayWork]
  | sendAck ack =>
    left
    refine progresses_of_quiet (@GatewayStep.ackSent _ _ (.ok ()) _) (by simp [Deaf]) ⟨rfl, by simp⟩
      unjammed ?_ ?_
    · rintro ⟨pending, held, isRequest⟩
      cases held
      obtain ⟨envelope, rfl⟩ := acking ack rfl
      exact absurd isRequest (GatewayLedger.not_isRequest_ackFor envelope)
    · simp [gatewayWork]
  | sendReply result =>
    left
    refine progresses_of_quiet (@GatewayStep.replySent _ _ (.ok ()) _) (by simp [Deaf]) ⟨rfl, by simp⟩
      unjammed id ?_
    simp [gatewayWork]
  | forward request =>
    left
    cases sent : (LoraController.sendMessageEnvelope (.ok ()) request.toLoraEnvelope).result with
    | ok =>
      refine progresses_of_quiet (.forwarded sent) (by simp [Deaf]) ⟨rfl, by simp⟩ unjammed
        (fun _ => trivial) ?_
      simp [gatewayWork]
    | error e =>
      refine progresses_of_quiet (.forwardFailed sent) (by simp [Deaf]) ⟨rfl, by simp⟩ unjammed
        id ?_
      simp [gatewayWork]
  | enqueueSuccess result =>
    left
    obtain ⟨pending, _, held, -⟩ := replying result (.inr rfl)
    cases held
    refine progresses_of_report .successEnqueued (room trivial) ?_ ?_
    · rintro ⟨_, held, -⟩
      cases held
    · simp [gatewayWork]
  | enqueueFailure request =>
    left
    have empty : slot = none := forwarding request (.inr rfl)
    subst empty
    refine progresses_of_report .failureEnqueued (room trivial) ?_ ?_
    · rintro ⟨_, held, -⟩
      cases held
    · simp only [gatewayWork]
      split <;> omega

/-- Egress takes the oldest result. -/
theorem progresses_of_take (waits : s.egress.pc = .receive) (some : s.results.queue ≠ []) :
    Progresses cbor s := by
  obtain ⟨ingress, gateway, ⟨egressPc, payload⟩, forward, ⟨queue, bounded⟩⟩ := s
  cases waits
  cases queue with
  | nil => exact absurd rfl some
  | cons result rest =>
    have room : rest.length < 8 := bounded
    refine ⟨.egress (.taken result), ⟨ingress, gateway, ⟨.lock result, []⟩, forward, ⟨rest, room.le⟩⟩,
      trivial, step_egress.mpr ⟨by simp, _, .taken, ⟨rest, room.le⟩, rfl, rfl⟩, ?_, ?_⟩
    · exact fun jam => absurd jam.results room.ne
    · simp only [work, egressWork, List.length_cons]
      omega

/-- Egress publishes what it has in hand, once the guard is free. -/
theorem progresses_of_publish (free : s.ingress.pc.holdsGuard = false)
    (busy : s.egress.pc ≠ .receive) : Progresses cbor s := by
  obtain ⟨ingress, gateway, ⟨egressPc, payload⟩, forward, results⟩ := s
  have unjammed (egress : EgressTask) : ¬ Jammed ⟨ingress, gateway, egress, forward, results⟩ := by
    rintro ⟨⟨request, waits⟩, -⟩
    dsimp only at waits free
    rw [waits] at free
    cases free
  cases egressPc with
  | receive => exact absurd rfl busy
  | lock result =>
    refine ⟨.egress .locked, ⟨ingress, gateway, ⟨.publish result, payload⟩, forward, results⟩, trivial,
      step_egress.mpr ⟨fun _ => ⟨free, rfl⟩, _, .locked, results, rfl, rfl⟩, unjammed _, ?_⟩
    simp [work, egressWork]
  | publish result =>
    refine ⟨.egress (.published statusSubtopic payload (.ok ())),
      ⟨ingress, gateway, ⟨.receive, payload⟩, forward, results⟩, trivial,
      step_egress.mpr ⟨by simp, _, .published, results, rfl, rfl⟩, unjammed _, ?_⟩
    simp [work, egressWork]

/-- Ingress gives the guard back. -/
theorem ingress_progresses (holds : s.ingress.pc.holdsGuard = true)
    (room : ∀ request, s.ingress.pc = .enqueue request → ¬ s.forward.Full) : Progresses cbor s := by
  obtain ⟨⟨pc, requestId, seq⟩, gateway, egress, forward, results⟩ := s
  have unjammed (requestId seq : UInt16) (forward : ForwardToLoraChannel) :
      ¬ Jammed ⟨⟨.sleep, requestId, seq⟩, gateway, egress, forward, results⟩ := by
    rintro ⟨⟨request, waits⟩, -⟩
    cases waits
  cases pc with
  | lock | sleep => cases holds
  | receive =>
    refine ⟨.ingress (.received (.error ⟨0⟩) 0), _, by simp [Deaf],
      step_ingress.mpr ⟨by simp, _, .failed, forward, (List.append_nil _).symm, rfl⟩, unjammed _ _ _, ?_⟩
    simp [work, ingressWork]
  | enqueue request =>
    have bounded : (forward.queue ++ [request]).length ≤ 8 := by
      have bounded := forward.bounded
      have room : forward.queue.length ≠ 8 := room request rfl
      rw [List.length_append, List.length_singleton]
      omega
    refine ⟨.ingress (.enqueued request), _, by simp [Deaf],
      step_ingress.mpr ⟨by simp, _, .enqueued, ⟨_, bounded⟩, rfl, rfl⟩, unjammed _ _ _, ?_⟩
    have poll := gatewayWork_le gateway (forward.queue ++ [request]) forward.queue
    simp only [work, ingressWork, List.length_append, List.length_singleton]
    omega

/-- **Short of a jam, a node that is not at rest can move towards it**, or its radio loop
polls for an answer. -/
theorem progress (sound : Sound s) (unjammed : ¬ Jammed s) (busy : ¬ Drained s) :
    Progresses cbor s ∨ ∃ pending, s.gateway = ⟨.receive, some pending⟩ := by
  by_cases guarded : s.ingress.pc.holdsGuard = true
  · by_cases full : s.forward.Full
    · have waiting : s.gateway = .init → s.forward.queue ≠ [] := by
        intro _ empty
        rw [Channel.Full, empty] at full
        cases full
      by_cases waits : ∃ request, s.ingress.pc = .enqueue request
      · by_cases fullResults : s.results.Full
        · cases egress : s.egress.pc with
          | receive =>
            refine .inl (progresses_of_take egress fun empty => ?_)
            rw [Channel.Full, empty] at fullResults
            cases fullResults
          | lock result =>
            refine gateway_progresses sound unjammed (fun owes => ?_) waiting
            exact absurd ⟨waits, full, owes, fullResults, result, egress⟩ unjammed
          | publish result =>
            have none := sound.exclusive guarded
            rw [egress] at none
            cases none
        · exact gateway_progresses sound unjammed (fun _ => fullResults) waiting
      · exact .inl (ingress_progresses guarded fun request is => absurd ⟨request, is⟩ waits)
    · exact .inl (ingress_progresses guarded fun _ _ => full)
  · have free : s.ingress.pc.holdsGuard = false := Bool.eq_false_iff.mpr guarded
    by_cases egress : s.egress.pc = .receive
    · by_cases results : s.results.queue = []
      · refine gateway_progresses sound unjammed (fun _ full => ?_) fun gateway forward => ?_
        · rw [Channel.Full, results] at full
          cases full
        · exact busy ⟨free, forward, gateway, results, egress⟩
      · exact .inl (progresses_of_take egress results)
    · exact .inl (progresses_of_publish free egress)

/-- What is left to do once the answer is heard. -/
theorem work_of_answered {pending : LoraEnvelope} (result : LoraEnvelope)
    (poll : s.gateway = ⟨.receive, some pending⟩) :
    work { s with gateway := ⟨.sendReply result, some pending⟩ } < work s := by
  refine work_lt_of_gateway ?_
  rw [poll]
  simp [gatewayWork]

/-- The frame that settles what is in the slot: the Ack of a request, the Reply to an
Ack. -/
def settling (pending : LoraEnvelope) : LoraEnvelope :=
  .new (if GatewayLedger.IsRequest pending then .Ack else .Reply) pending.seq 0 0 []

theorem settling_fits (pending : LoraEnvelope) : (settling pending).intoOutgoing.isSome := by
  rw [encodable_iff]
  exact Nat.zero_le _

/-- The answer moves the loop on. -/
theorem settles {pending : LoraEnvelope} (poll : s.gateway = ⟨.receive, some pending⟩)
    (unjammed : ¬ Jammed s) :
    ∃ label s', Calm cbor s label ∧ step cbor s label = some s' ∧ ¬ Jammed s' ∧ work s' < work s := by
  have heard : (RadioRx.done (.ok (OutgoingFrame.framed (settling pending), sampleStatus))).heard cbor =
      some (settling pending) := RadioRx.heard_framed (settling_fits pending) sampleStatus
  let event : GatewayEvent :=
    .received (.done (.ok (OutgoingFrame.framed (settling pending), sampleStatus)))
  have calm : Calm cbor s (.gateway event) := by
    intro e is
    cases (show some e = _ from is.symm.trans heard)
    by_cases request : GatewayLedger.IsRequest pending <;>
      simp [settling, request, LoraEnvelope.new, poll]
  by_cases request : GatewayLedger.IsRequest pending
  · have isAck : (settling pending).msgType = .Ack := by simp [settling, request, LoraEnvelope.new]
    have rule : GatewayStep cbor s.gateway event
        ⟨.sendReply (successResult pending (settling pending)), some pending⟩ := by
      rw [poll]
      exact .ackMatched heard isAck rfl
    refine ⟨_, _, calm, step_of_quiet ⟨rfl, by simp⟩ rule, unjammed_of_owes unjammed fun _ => ?_,
      work_of_answered _ poll⟩
    rw [poll]
    exact ⟨pending, rfl, request⟩
  · have isReply : (settling pending).msgType = .Reply := by
      simp [settling, request, LoraEnvelope.new]
    have rule : GatewayStep cbor s.gateway event ⟨.drain, none⟩ := by
      rw [poll]
      exact .replyHeard heard isReply
    refine ⟨_, _, calm, step_of_quiet ⟨rfl, by simp⟩ rule, unjammed_of_owes unjammed ?_,
      work_lt_of_gateway ?_⟩
    · rintro ⟨_, held, -⟩
      cases held
    · rw [poll]
      simp [gatewayWork]

theorem drains_of_sound (sound : Sound s) (unjammed : ¬ Jammed s) :
    CanReach (step cbor) (Calm cbor) Drained s := by
  refine CanReach.of_variant (fun s => Sound s ∧ ¬ Jammed s) work ?_ ⟨sound, unjammed⟩
  rintro s ⟨sound, unjammed⟩ busy
  have moves : ∃ label s', Calm cbor s label ∧ step cbor s label = some s' ∧ ¬ Jammed s' ∧
      work s' < work s := by
    have next : Progresses cbor s ∨ _ := progress sound unjammed busy
    rcases next with ⟨label, s', deaf, taken, unjammed', less⟩ | ⟨pending, poll⟩
    · exact ⟨label, s', calm_of_deaf deaf, taken, unjammed', less⟩
    · exact settles poll unjammed
  obtain ⟨label, s', calm, taken, unjammed', less⟩ := moves
  exact .head calm taken (.here ⟨⟨sound_step sound taken, unjammed'⟩, less⟩)

/-- One message whose transmission fails and is reported. -/
def reported (seq : UInt16) : List NodeLabel :=
  admission seq ++ failedForward seq ++ [failureReport seq]

/-- A loop that hears no Open has nothing but requests in its slot. -/
theorem slot_of_attentive {events : List GatewayEvent} {g : GatewayTask}
    (ran : run (GatewayTask.step cbor) .init events = some g)
    (met : Throughout (GatewayTask.step cbor) (HaviliarIot.Attentive cbor) .init events) :
    ∀ pending ∈ g.pendingForward, GatewayLedger.IsRequest pending := by
  refine (run_induction_of (P := fun _ (g : GatewayTask) => GatewayTask.Idle g ∧
    ∀ pending ∈ g.pendingForward, GatewayLedger.IsRequest pending) ⟨⟨?_, ?_⟩, ?_⟩ ?_ ran met).2
  · simp [GatewayTask.init]
  · simp [GatewayTask.init]
  · simp [GatewayTask.init]
  · rintro _ g event g' _ ⟨idle, requests⟩ attentive taken
    have rule := GatewayTask.step_iff.mp taken
    refine ⟨GatewayTask.idle_step idle attentive rule, ?_⟩
    cases rule with
    | openHeard heard isOpen => exact absurd isOpen (attentive _ heard).1
    | @opened envelope => exact absurd rfl (idle.actuates envelope)
    | @ackSent ack => exact absurd rfl (idle.acks ack)
    | @forwarded request =>
      intro pending held
      cases held
      exact GatewayLedger.isRequest_forward request
    | replyHeard | successEnqueued | polledEmpty | dequeued =>
      intro pending held
      cases held
    | _ => exact requests

/-- So a calm continuation of an attentive run is attentive. -/
theorem attentive_of_calm (ran : run (step cbor) init tr = some s)
    (met : Throughout (step cbor) (Attentive cbor) init tr)
    (calm : Throughout (step cbor) (Calm cbor) s more) :
    Throughout (step cbor) (Attentive cbor) init (tr ++ more) := by
  refine throughout_extend ?_ ran met calm
  intro tr s label first metFirst calm
  cases label with
  | ingress | egress => trivial
  | gateway event =>
    have requests := slot_of_attentive (run_gatewayTask first) (attentive_gatewayTask first metFirst)
    intro e heard
    obtain ⟨notOpen, replies⟩ := calm e heard
    refine ⟨notOpen, fun isReply => Option.eq_none_iff_forall_not_mem.mpr fun pending held => ?_⟩
    exact replies isReply pending held (requests pending held)

theorem accepted_of_unsent {events : List IngressEvent}
    (unsent : ∀ event ∈ events, ∀ message now, event ≠ .received (.ok message) now) :
    accepted events = [] := by
  refine List.flatMap_eq_nil_iff.mpr fun event member => ?_
  cases event with
  | received message now =>
    cases message with
    | ok message => exact absurd rfl (unsent _ member message now)
    | error => rfl
  | locked | enqueued | slept => rfl

theorem accepted_of_calm (ran : run (step cbor) s more = some s')
    (calm : Throughout (step cbor) (Calm cbor) s more) : accepted (ingressEvents more) = [] := by
  refine accepted_of_unsent (run_induction_of (P := fun more _ => ∀ event ∈ ingressEvents more,
    ∀ message now, event ≠ .received (.ok message) now) (by simp [ingressEvents]) ?_ ran calm)
  intro more s label _ _ before calm _
  rw [ingressEvents, List.filterMap_append]
  refine List.forall_mem_append.mpr ⟨before, ?_⟩
  cases label with
  | gateway | egress => simp [NodeLabel.ofIngress]
  | ingress event => simpa [NodeLabel.ofIngress, Calm] using calm

theorem ingressEvents_append (tr more : List NodeLabel) :
    ingressEvents (tr ++ more) = ingressEvents tr ++ ingressEvents more :=
  List.filterMap_append

theorem blocked_of_free {t : IngressTask} (free : t.pc.holdsGuard = false) : t.blocked = [] := by
  obtain ⟨pc, _, _⟩ := t
  cases pc with
  | lock | sleep => rfl
  | receive | enqueue => cases free

/-- At rest the statuses published are those of the messages accepted. -/
theorem statuses_of_drained {exchanges : List (StopAndWait.Exchange LoraEnvelope)}
    (ends : EndToEnd tr s exchanges) (drained : Drained s) :
    (published tr).map (fun status => status.1.seq) =
      (List.range (accepted (ingressEvents tr)).length).map fun k => UInt16.ofNat (k + 1) := by
  obtain ⟨requests, numbered, -, results, -⟩ := ends
  have sender : s.gateway.sender.inHand = [] := by rw [drained.gateway]; rfl
  have egress : s.egress.inHand = [] := by rw [EgressTask.inHand, drained.egress]
  rw [sender, drained.forward, blocked_of_free drained.ingress] at requests
  have count := congrArg List.length requests
  simp only [List.append_nil, List.map_nil, List.length_map] at count
  rw [count, ← numbered]
  rw [egress, drained.results, List.append_nil, List.append_nil, List.map_map] at results
  simpa only [List.map_map, Function.comp_def] using congrArg (List.map Prod.fst) results

/-- **Every message accepted can still get its status**, in the order of the messages
and none twice, as long as the node is not jammed. -/
theorem all_reported (ran : run (step cbor) init tr = some s)
    (met : Throughout (step cbor) (Attentive cbor) init tr) (unjammed : ¬ Jammed s) :
    ∃ more s', run (step cbor) s more = some s' ∧ Throughout (step cbor) (Calm cbor) s more ∧
      (published (tr ++ more)).map (fun status => status.1.seq) =
        (List.range (accepted (ingressEvents tr)).length).map fun k => UInt16.ofNat (k + 1) := by
  have drains : CanReach (step cbor) (Calm cbor) Drained s :=
    drains_of_sound (sound_of_run ran) unjammed
  obtain ⟨more, s', rest, calm, drained⟩ := drains
  refine ⟨more, s', rest, calm, ?_⟩
  have whole := run_trans ran rest
  have attentive := attentive_gatewayTask whole (attentive_of_calm ran met calm)
  obtain ⟨exchanges, ends⟩ :=
    endToEnd_of_sender whole (GatewayTask.run_sender (run_gatewayTask whole) attentive)
  have statuses := statuses_of_drained ends drained
  rwa [ingressEvents_append, accepted, List.flatMap_append, ← accepted, ← accepted,
    accepted_of_calm rest calm, List.append_nil] at statuses

/-- A message is on the air when the node is brought to rest. -/
theorem all_reported_of_transmission :
    ∃ s more s', run (step .reference) init (completedRequest.take 7) = some s ∧
      run (step .reference) s more = some s' ∧
      Throughout (step .reference) (Calm .reference) s more ∧
      (published (completedRequest.take 7 ++ more)).map (fun status => status.1.seq) = [1] := by
  have runs : (run (step .reference) init (completedRequest.take 7)).map (fun s => s.ingress.pc) =
      some .lock := by decide
  obtain ⟨s, ran, ingress⟩ := Option.map_eq_some_iff.mp runs
  obtain ⟨more, s', rest, calm, statuses⟩ := all_reported ran (by decide) fun jam => by
    obtain ⟨request, waits⟩ := jam.ingress
    rw [ingress] at waits
    cases waits
  exact ⟨s, more, s', ran, rest, calm, statuses⟩

end HaviliarIot.GatewayNode
