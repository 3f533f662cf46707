import HaviliarIot.Node

/-!
The circular wait of the gateway node.

Ingress keeps the MQTT guard across its send, egress takes a result before it
asks for the guard, and the gateway task waits on a full result channel, so the
three can wait for each other.  Whether they do is decided when ingress takes the
guard: until it gives it back, egress collects at most one more result, and while
the forward channel stays full the gateway produces at most `mayReport` results.
`pressure` adds these up; it never grows on the way (`pressure_step`), and a
circular wait needs ten.
-/

namespace HaviliarIot.GatewayNode

open Runs

/-- Each of the three tasks waits for the next. -/
structure CircularWait (s : GatewayNode) : Prop where
  ingress : ∃ request, s.ingress.pc = .enqueue request
  forward : s.forward.Full
  gateway : (∃ result, s.gateway.pc = .enqueueSuccess result) ∨
    ∃ request, s.gateway.pc = .enqueueFailure request
  results : s.results.Full
  egress : ∃ result, s.egress.pc = .lock result

/-- How many results the gateway can report before it dequeues again. -/
def mayReport (s : GatewayTask) : Nat :=
  match s.pc with
  | .forward _ | .enqueueFailure _ => 2
  | .drain | .backoff => if s.pendingForward = none then 0 else 1
  | _ => 1

/-- How many results egress has taken and not published. -/
def inHand (s : EgressTask) : Nat :=
  match s.pc with
  | .receive => 0
  | .lock _ | .publish _ => 1

/-- The results waiting, in egress's hand, or still to come before a dequeue. -/
def pressure (s : GatewayNode) : Nat :=
  s.results.queue.length + inHand s.egress + mayReport s.gateway

/-- Ingress does not take the guard under pressure. -/
def Relieved (s : GatewayNode) (label : NodeLabel) : Prop :=
  label = .ingress .locked → s.forward.Full → pressure s ≤ 9

instance (s : GatewayNode) (label : NodeLabel) : Decidable (Relieved s label) :=
  inferInstanceAs (Decidable (_ → _ → _))

variable {cbor : Minicbor} {s s' : GatewayNode} {label : NodeLabel} {tr : List NodeLabel}

/-- No task can move in a circular wait. -/
theorem stuck_of_circularWait (wait : CircularWait s) (label : NodeLabel) :
    step cbor s label = none := by
  obtain ⟨⟨ingressPc, _, _⟩, ⟨gatewayPc, _⟩, ⟨egressPc, _⟩, forward, results⟩ := s
  obtain ⟨⟨request, ingress⟩, full, gateway, fullResults, ⟨result, egress⟩⟩ := wait
  dsimp only at ingress full gateway fullResults egress
  subst ingress egress
  rw [Option.eq_none_iff_forall_ne_some]
  intro s' taken
  cases label with
  | ingress event =>
    obtain ⟨-, ingress', rule, forward', fed, -⟩ := step_ingress.mp taken
    cases rule
    have bounded := forward'.bounded
    rw [fed, List.length_append, full] at bounded
    exact absurd bounded (by simp [IngressEvent.admitted])
  | gateway event =>
    obtain ⟨gateway', rule, -, -, results', reported, -⟩ := step_gateway.mp taken
    have bounded := results'.bounded
    rw [reported, List.length_append, fullResults] at bounded
    rcases gateway with ⟨_, rfl⟩ | ⟨_, rfl⟩ <;> cases rule <;>
      exact absurd bounded (by simp [GatewayEvent.results])
  | egress event =>
    obtain ⟨free, egress', rule, -⟩ := step_egress.mp taken
    cases rule
    cases (free rfl).1

/-! ## Without pressure there is no circular wait -/

/-- While it does not poll, the gateway works off what it may report. -/
theorem mayReport_step {g g' : GatewayTask} {event : GatewayEvent}
    (rule : GatewayStep cbor g event g') (unpolled : ∀ request, event ≠ .polled request) :
    event.results.length + mayReport g' ≤ mayReport g := by
  cases rule with
  | polledEmpty => exact absurd rfl (unpolled none)
  | dequeued => exact absurd rfl (unpolled _)
  | @ignored rx envelope slot | @radioError rx e slot | @timedOut slot | @backedOff slot =>
    cases slot <;> simp [mayReport, GatewayEvent.results]
  | _ => simp [mayReport, GatewayEvent.results]

/-- A poll leaves room in the forward channel. -/
theorem not_full_of_polled {request : Option ForwardRequest}
    (taken : step cbor s (.gateway (.polled request)) = some s') : ¬ s'.forward.Full := by
  obtain ⟨-, -, forward, ⟨queue, emptied⟩, -, -, rfl⟩ := step_gateway.mp taken
  have bounded := s.forward.bounded
  intro full
  change forward.queue.length = 8 at full
  cases request with
  | none =>
    rw [emptied rfl] at queue
    rw [← List.nil_append forward.queue, ← show GatewayEvent.taken (.polled none) = [] from rfl,
      ← queue] at full
    cases full
  | some request =>
    rw [queue, List.length_append, full] at bounded
    exact absurd bounded (by simp [GatewayEvent.taken])

/-- Egress moves a result from the channel to its hand, and publishes it. -/
theorem inHand_step {e e' : EgressTask} {event : EgressEvent} (rule : EgressStep e event e') :
    inHand e' ≤ inHand e + event.collected.length := by
  cases rule <;> simp [inHand, EgressEvent.collected]

/-- While ingress holds the guard before a full channel, the pressure is bounded. -/
def Poised (s : GatewayNode) : Prop :=
  s.ingress.pc.holdsGuard = true → s.forward.Full → pressure s ≤ 9

theorem poised_step (poised : Poised s) (relieved : Relieved s label)
    (taken : step cbor s label = some s') : Poised s' := by
  intro holds full
  cases label with
  | ingress event =>
    obtain ⟨ingress, gateway, egress, forward, results⟩ := s
    obtain ⟨-, ingress', rule, forward', fed, rfl⟩ := step_ingress.mp taken
    cases rule with
    | locked =>
      have same : forward'.queue = forward.queue := fed.trans (List.append_nil _)
      exact relieved rfl (by rwa [Channel.Full, ← same])
    | accepted fits =>
      have same : forward'.queue = forward.queue := fed.trans (List.append_nil _)
      exact poised rfl (by rwa [Channel.Full, ← same])
    | refused | failed | enqueued | slept => cases holds
  | gateway event =>
    by_cases polled : ∃ request, event = .polled request
    · obtain ⟨request, rfl⟩ := polled
      exact absurd full (not_full_of_polled taken)
    · obtain ⟨gateway', rule, forward', ⟨queue, -⟩, results', reported, rfl⟩ :=
        step_gateway.mp taken
      have unpolled : ∀ request, event ≠ .polled request := by
        intro request isPolled
        exact polled ⟨request, isPolled⟩
      have same : s.forward.queue = forward'.queue := by
        rw [queue]
        cases event <;> first | rfl | exact absurd rfl (unpolled _)
      have before : pressure s ≤ 9 := poised holds (by rwa [Channel.Full, same])
      have work := mayReport_step rule unpolled
      simp only [pressure, reported, List.length_append] at before ⊢
      omega
  | egress event =>
    obtain ⟨-, egress', rule, results', queue, rfl⟩ := step_egress.mp taken
    have before := poised holds full
    have moved := inHand_step rule
    simp only [pressure, queue, List.length_append] at before ⊢
    omega

/-- A circular wait takes ten results: eight waiting, one in egress's hand and one
in the gateway's. -/
theorem pressure_of_circularWait (wait : CircularWait s) : 10 ≤ pressure s := by
  obtain ⟨-, -, gateway, results, ⟨result, egress⟩⟩ := wait
  have waiting : s.results.queue.length = 8 := results
  have taken : inHand s.egress = 1 := by rw [inHand, egress]
  have toCome : 1 ≤ mayReport s.gateway := by
    rcases gateway with ⟨_, gateway⟩ | ⟨_, gateway⟩ <;> simp [mayReport, gateway]
  unfold pressure
  omega

theorem poised_of_run (ran : run (step cbor) init tr = some s)
    (met : Throughout (step cbor) Relieved init tr) : Poised s := by
  refine run_induction_of (P := fun _ s => Poised s) ?_ ?_ ran met
  · intro holds
    cases holds
  · intro tr s label s' _ poised relieved taken
    exact poised_step poised relieved taken

theorem no_circularWait_of_run (ran : run (step cbor) init tr = some s)
    (met : Throughout (step cbor) Relieved init tr) : ¬ CircularWait s := by
  intro wait
  have holds : s.ingress.pc.holdsGuard = true := by
    obtain ⟨request, ingress⟩ := wait.ingress
    rw [ingress]
    rfl
  have bound := poised_of_run ran met holds wait.forward
  have enough := pressure_of_circularWait wait
  omega

/-! ## Under pressure there is one -/

/-- Neither a report nor a poll. -/
def Quiet (event : GatewayEvent) : Prop := event.results = [] ∧ ∀ request, event ≠ .polled request

/-- The gateway alone can come to wait with a success result. -/
def CanReport (cbor : Minicbor) (g : GatewayTask) : Prop :=
  ∃ g' result, Leads (GatewayTask.step cbor) Quiet g g' ∧ g'.pc = .enqueueSuccess result

private theorem canReport_of_step {g g' : GatewayTask} (event : GatewayEvent)
    (rule : GatewayStep cbor g event g') (quiet : Quiet event) (can : CanReport cbor g') :
    CanReport cbor g := by
  obtain ⟨last, result, leads, waits⟩ := can
  exact ⟨last, result, leads.head quiet (GatewayTask.step_iff.mpr rule), waits⟩

private theorem canReport_sendReply (result : LoraEnvelope) (slot : Option LoraEnvelope) :
    CanReport cbor ⟨.sendReply result, slot⟩ := by
  refine canReport_of_step (.sent result (.ok ())) .replySent ⟨rfl, by simp⟩ ?_
  exact ⟨_, result, .refl _, rfl⟩

/-- The Ack of what is in the slot is a success. -/
private theorem canReport_receive_some (pending : LoraEnvelope) :
    CanReport cbor ⟨.receive, some pending⟩ := by
  refine canReport_of_step _ (.ackMatched (RadioRx.heard_framed (GatewayTask.ackFor_fits pending) sampleStatus) rfl rfl)
    ⟨rfl, by simp⟩ ?_
  exact canReport_sendReply _ _

private theorem canReport_drain_some (pending : LoraEnvelope) :
    CanReport cbor ⟨.drain, some pending⟩ := by
  refine canReport_of_step (.resent pending (.ok ())) .resent ⟨rfl, by simp⟩ ?_
  exact canReport_receive_some pending

private theorem canReport_sendAck (ack : LoraEnvelope) (slot : Option LoraEnvelope) :
    CanReport cbor ⟨.sendAck ack, slot⟩ := by
  refine canReport_of_step (.sent ack (.ok ())) .ackSent ⟨rfl, by simp⟩ ?_
  exact canReport_drain_some ack

private theorem canReport_actuate (envelope : LoraEnvelope) (slot : Option LoraEnvelope) :
    CanReport cbor ⟨.actuate envelope, slot⟩ := by
  refine canReport_of_step _ .opened ⟨rfl, by simp⟩ ?_
  exact canReport_sendAck _ _

/-- With nothing in the slot, the gateway can still be credited for its own Ack. -/
private theorem canReport_receive (slot : Option LoraEnvelope) :
    CanReport cbor ⟨.receive, slot⟩ := by
  have fits : sampleRequest.intoOutgoing.isSome := by
    rw [encodable_iff]
    decide
  refine canReport_of_step _ (.openHeard (RadioRx.heard_framed fits sampleStatus) rfl)
    ⟨rfl, by simp⟩ ?_
  exact canReport_actuate _ _

variable (cbor) in
private theorem canReport_of_mayReport {g : GatewayTask} (one : mayReport g = 1) :
    CanReport cbor g := by
  obtain ⟨pc, slot⟩ := g
  cases pc with
  | receive => exact canReport_receive slot
  | actuate envelope => exact canReport_actuate envelope slot
  | sendAck ack => exact canReport_sendAck ack slot
  | sendReply result => exact canReport_sendReply result slot
  | enqueueSuccess result => exact ⟨_, result, .refl _, rfl⟩
  | forward | enqueueFailure => cases one
  | drain =>
    cases slot with
    | none => cases one
    | some pending => exact canReport_drain_some pending
  | backoff =>
    cases slot with
    | none => cases one
    | some pending =>
      refine canReport_of_step _ .backedOff ⟨rfl, by simp⟩ ?_
      exact canReport_drain_some pending

/-- Gateway steps that poll nothing and report nothing are steps of the node. -/
private theorem embed_gateway {g g' : GatewayTask} {event : GatewayEvent} (quiet : Quiet event)
    (taken : GatewayTask.step cbor g event = some g') :
    step cbor { s with gateway := g } (.gateway event) = some { s with gateway := g' } := by
  have none : event.taken = [] := by
    cases event <;> first | rfl | exact absurd rfl (quiet.2 _)
  refine step_gateway.mpr ⟨g', GatewayTask.step_iff.mp taken, s.forward, ⟨?_, ?_⟩, s.results,
    ?_, rfl⟩
  · rw [none]
    rfl
  · intro polled
    exact absurd polled (quiet.2 _)
  · rw [quiet.1, List.append_nil]

/-- Ingress waits before a full channel and egress waits for ingress. -/
private structure Closing (s : GatewayNode) : Prop where
  ingress : ∃ request, s.ingress.pc = .enqueue request
  forward : s.forward.Full
  egress : ∃ result, s.egress.pc = .lock result

private theorem mayReport_cases {g : GatewayTask} (more : 1 ≤ mayReport g) :
    mayReport g = 1 ∨ mayReport g = 2 ∧ ((∃ request, g.pc = .forward request) ∨
      ∃ request, g.pc = .enqueueFailure request) := by
  obtain ⟨pc, slot⟩ := g
  cases pc with
  | forward request => exact .inr ⟨rfl, .inl ⟨request, rfl⟩⟩
  | enqueueFailure request => exact .inr ⟨rfl, .inr ⟨request, rfl⟩⟩
  | drain | backoff => cases slot <;> simp [mayReport] at more ⊢
  | _ => exact .inl rfl

/-- A send that fails brings the gateway to report it. -/
private theorem embed_failure {request : ForwardRequest} (sending : s.gateway.pc = .forward request) :
    run (step cbor) s [.gateway (.sent request.toLoraEnvelope (.error .Irq))] =
      some { s with gateway := ⟨.enqueueFailure request, s.gateway.pendingForward⟩ } := by
  obtain ⟨ingress, ⟨pc, slot⟩, egress, forward, results⟩ := s
  cases sending
  have failed : GatewayStep cbor ⟨.forward request, slot⟩
      (.sent request.toLoraEnvelope (.error .Irq)) ⟨.enqueueFailure request, slot⟩ :=
    .forwardFailed (LoraController.result_of_driver_error _)
  have here := embed_gateway (s := ⟨ingress, ⟨.forward request, slot⟩, egress, forward, results⟩)
    ⟨rfl, by simp⟩ (GatewayTask.step_iff.mpr failed)
  rw [run_cons, here]
  rfl

variable (cbor) in
/-- A node whose results are full closes the circle as soon as the gateway has one
more. -/
private theorem closes_of_full (closing : Closing s) (full : s.results.Full)
    (more : 1 ≤ mayReport s.gateway) :
    ∃ tr s', run (step cbor) s tr = some s' ∧ CircularWait s' := by
  rcases mayReport_cases more with one | ⟨-, ⟨request, sending⟩ | ⟨request, failed⟩⟩
  · obtain ⟨g', result, leads, waits⟩ := canReport_of_mayReport cbor one
    have moves : Leads (step cbor) (fun _ => True) s { s with gateway := g' } :=
      leads.lift (fun g => { s with gateway := g }) NodeLabel.gateway
        fun quiet taken => ⟨trivial, embed_gateway quiet taken⟩
    obtain ⟨tr, -, ran⟩ := moves
    refine ⟨tr, _, ran, ?_⟩
    exact ⟨closing.ingress, closing.forward, .inl ⟨result, waits⟩, full, closing.egress⟩
  · refine ⟨_, _, embed_failure sending, ?_⟩
    exact ⟨closing.ingress, closing.forward, .inr ⟨request, rfl⟩, full, closing.egress⟩
  · exact ⟨[], s, rfl, closing.ingress, closing.forward, .inr ⟨request, failed⟩, full,
      closing.egress⟩

variable (cbor) in
/-- A failed send fills the last place of the results. -/
private theorem fills_last {request : ForwardRequest} (failed : s.gateway.pc = .enqueueFailure request)
    (room : s.results.queue.length = 7) :
    ∃ results, results.Full ∧ run (step cbor) s
      [.gateway (.enqueued request.toLoraEnvelope (failureResult request.toLoraEnvelope))] =
      some { s with gateway := ⟨.receive, s.gateway.pendingForward⟩, results } := by
  obtain ⟨ingress, ⟨pc, slot⟩, egress, forward, results⟩ := s
  cases failed
  have length : (results.queue ++ [failureResult request.toLoraEnvelope]).length = 8 := by
    rw [List.length_append, List.length_singleton]
    exact congrArg (· + 1) room
  refine ⟨⟨_, length.le⟩, length, ?_⟩
  rw [run_cons, step_gateway.mpr ⟨_, .failureEnqueued, forward, ⟨rfl, by simp⟩, ⟨_, length.le⟩, rfl,
    rfl⟩]
  rfl

variable (cbor) in
/-- Nine results waiting or to come are enough once egress has one in hand. -/
private theorem closes_of_pressure (closing : Closing s)
    (enough : 9 ≤ s.results.queue.length + mayReport s.gateway) :
    ∃ tr s', run (step cbor) s tr = some s' ∧ CircularWait s' := by
  have bounded := s.results.bounded
  by_cases full : s.results.queue.length = 8
  · exact closes_of_full cbor closing full (by omega)
  · have more : 1 ≤ mayReport s.gateway := by omega
    have two : mayReport s.gateway = 2 := by
      rcases mayReport_cases more with one | ⟨two, -⟩ <;> omega
    have room : s.results.queue.length = 7 := by omega
    -- one place is left, which a failed send fills
    have failing : ∃ tr request, run (step cbor) s tr =
        some { s with gateway := ⟨.enqueueFailure request, s.gateway.pendingForward⟩ } := by
      rcases mayReport_cases more with one | ⟨-, ⟨request, sending⟩ | ⟨request, failed⟩⟩
      · omega
      · exact ⟨_, request, embed_failure sending⟩
      · refine ⟨[], request, ?_⟩
        rw [← failed]
        rfl
    obtain ⟨tr₁, request, ran₁⟩ := failing
    obtain ⟨results, filled, ran₂⟩ := fills_last cbor
      (s := { s with gateway := ⟨.enqueueFailure request, s.gateway.pendingForward⟩ }) rfl room
    obtain ⟨tr₃, last, ran₃, wait⟩ := closes_of_full cbor
      (s := { s with gateway := ⟨.receive, s.gateway.pendingForward⟩, results })
      ⟨closing.ingress, closing.forward, closing.egress⟩ filled (le_refl 1)
    exact ⟨_, last, run_trans ran₁ (run_trans ran₂ ran₃), wait⟩

/-- A guard taken under pressure lets the circle close. -/
theorem circularWait_of_pressed (taken : step cbor s (.ingress .locked) = some s')
    (pressed : ¬ Relieved s (.ingress .locked)) :
    ∃ tr last, run (step cbor) s' tr = some last ∧ CircularWait last := by
  obtain ⟨ingress, gateway, ⟨egressPc, payload⟩, forward, results⟩ := s
  obtain ⟨free, ingress', rule, forward', fed, rfl⟩ := step_ingress.mp taken
  cases rule with
  | @locked requestId seq =>
    simp only [Relieved, true_imp_iff, Classical.not_imp, Nat.not_le] at pressed
    obtain ⟨full, much⟩ := pressed
    have same : forward'.queue = forward.queue := fed.trans (List.append_nil _)
    have full' : forward'.Full := by rwa [Channel.Full, same]
    have bounded := results.bounded
    have atMost : mayReport gateway ≤ 2 := by
      by_cases more : 1 ≤ mayReport gateway
      · rcases mayReport_cases more with one | ⟨two, -⟩ <;> omega
      · omega
    have admits : ∀ egress results, step cbor
        ⟨⟨.receive, requestId, seq⟩, gateway, egress, forward', results⟩
        (.ingress (.received (.ok ("", [])) 0)) =
        some ⟨⟨.enqueue (.new seq (timestampMs 0) []), requestId, seq⟩, gateway, egress, forward',
          results⟩ := by
      intro egress results
      exact step_ingress.mpr ⟨by simp, _, .accepted (Nat.zero_le _), forward',
        (List.append_nil _).symm, rfl⟩
    cases egressPc with
    | publish result => cases (free rfl).2
    | lock result =>
      obtain ⟨tr, last, ran, wait⟩ := closes_of_pressure cbor
        (s := ⟨⟨.enqueue (.new seq (timestampMs 0) []), requestId, seq⟩, gateway,
          ⟨.lock result, payload⟩, forward', results⟩)
        ⟨⟨_, rfl⟩, full', ⟨result, rfl⟩⟩ (by simp only [pressure, inHand] at much ⊢; omega)
      refine ⟨.ingress (.received (.ok ("", [])) 0) :: tr, last, ?_, wait⟩
      rw [run_cons, admits]
      exact ran
    | receive =>
      simp only [pressure, inHand, Nat.add_zero] at much
      obtain ⟨queue, boundedQueue⟩ := results
      cases queue with
      | nil => simp at much; omega
      | cons oldest rest =>
        have room : rest.length ≤ 8 := Nat.le_of_succ_le boundedQueue
        obtain ⟨tr, last, ran, wait⟩ := closes_of_pressure cbor
          (s := ⟨⟨.enqueue (.new seq (timestampMs 0) []), requestId, seq⟩, gateway,
            ⟨.lock oldest, []⟩, forward', ⟨rest, room⟩⟩)
          ⟨⟨_, rfl⟩, full', ⟨oldest, rfl⟩⟩ (by simp only [List.length_cons] at much ⊢; omega)
        refine ⟨.egress (.taken oldest) :: .ingress (.received (.ok ("", [])) 0) :: tr, last, ?_,
          wait⟩
        have takes : step cbor ⟨⟨.receive, requestId, seq⟩, gateway, ⟨.receive, payload⟩, forward',
            ⟨oldest :: rest, boundedQueue⟩⟩ (.egress (.taken oldest)) =
            some ⟨⟨.receive, requestId, seq⟩, gateway, ⟨.lock oldest, []⟩, forward',
              ⟨rest, room⟩⟩ :=
          step_egress.mpr ⟨by simp, _, .taken, _, rfl, rfl⟩
        rw [run_cons, takes, Option.bind_some, run_cons, admits]
        exact ran

/-- **The three tasks wait for each other in no run** where ingress never takes
the guard under pressure; where it does, some continuation ends in a circular
wait.  The second half is about continuations: a run that takes the guard under
pressure can still get by without one. -/
theorem no_circular_wait_iff (ran : run (step cbor) init tr = some s) :
    (Throughout (step cbor) Relieved init tr → ¬ CircularWait s) ∧
      ∀ s', step cbor s (.ingress .locked) = some s' → ¬ Relieved s (.ingress .locked) →
        ∃ more last, run (step cbor) init (tr ++ .ingress .locked :: more) = some last ∧
          CircularWait last := by
  refine ⟨no_circularWait_of_run ran, ?_⟩
  intro s' taken pressed
  obtain ⟨more, last, rest, wait⟩ := circularWait_of_pressed taken pressed
  refine ⟨more, last, run_trans ran ?_, wait⟩
  rw [run_cons, taken]
  exact rest

/-- One MQTT message, admitted. -/
def admission (seq : UInt16) : List NodeLabel :=
  [.ingress .locked, .ingress (.received (.ok ("esp32/open", [])) 0),
    .ingress (.enqueued (.new seq 0 [])), .ingress .slept]

/-- One request whose transmission fails, up to the send of its result. -/
def failedForward (seq : UInt16) : List NodeLabel :=
  [.gateway (.received .timeout), .gateway (.polled (some (.new seq 0 []))),
    .gateway (.sent (ForwardRequest.new seq 0 []).toLoraEnvelope (.error .Irq))]

def failureReport (seq : UInt16) : NodeLabel :=
  .gateway (.enqueued (ForwardRequest.new seq 0 []).toLoraEnvelope
    (failureResult (ForwardRequest.new seq 0 []).toLoraEnvelope))

/-- Eight failures fill the result channel and eight messages the forward channel, and
ingress takes the guard once more, under a pressure of nine. -/
def pressedToNine : List NodeLabel :=
  ([1, 2, 3, 4, 5, 6, 7, 8].flatMap fun seq =>
      admission seq ++ failedForward seq ++ [failureReport seq]) ++
    [9, 10, 11, 12, 13, 14, 15, 16].flatMap admission ++ (admission 17).take 2

theorem no_wait_at_nine :
    ∃ s, run (step .reference) init pressedToNine = some s ∧ ¬ CircularWait s := by
  have runs : (run (step .reference) init pressedToNine).isSome := by decide
  obtain ⟨s, ran⟩ := Option.isSome_iff_exists.mp runs
  exact ⟨s, ran, (no_circular_wait_iff ran).1 (by decide +kernel)⟩

/-- Ten failed transmissions and nine more messages: egress holds the first
failure and waits for the mutex, eight failures wait behind it, the gateway waits
with the tenth, and ingress holds the mutex with a message for a full channel. -/
theorem circle_closes :
    ¬ ∀ tr s, run (step .reference) init tr = some s → ¬ CircularWait s := by
  intro never
  let failures (seqs : List UInt16) : List NodeLabel :=
    seqs.flatMap fun seq => admission seq ++ failedForward seq ++ [failureReport seq]
  let firstFailure := failureResult (ForwardRequest.new 1 0 []).toLoraEnvelope
  let tr : List NodeLabel := failures [1] ++ [.egress (.taken firstFailure)] ++
    failures [2, 3, 4, 5, 6, 7, 8, 9] ++ admission 10 ++ failedForward 10 ++
    [11, 12, 13, 14, 15, 16, 17, 18].flatMap admission ++ (admission 19).take 2
  have view : (run (step .reference) init tr).map (fun s => (s.ingress.pc, s.gateway.pc,
      s.egress.pc, s.forward.queue.length, s.results.queue.length)) =
      some (.enqueue (.new 19 0 []), .enqueueFailure (.new 10 0 []), .lock firstFailure, 8, 8) := by
    decide
  obtain ⟨s, ran, seen⟩ := Option.map_eq_some_iff.mp view
  simp only [Prod.mk.injEq] at seen
  obtain ⟨ingress, gateway, egress, forward, results⟩ := seen
  exact never tr s ran ⟨⟨_, ingress⟩, forward, .inr ⟨_, gateway⟩, results, ⟨_, egress⟩⟩

end HaviliarIot.GatewayNode
