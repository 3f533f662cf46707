import HaviliarIot.Controller

/-!
`task_lora_gateway` of `bin/lora_gateway_single_task.rs`, one step for each await.

The state is where the loop stands and its one variable that survives an
iteration, `pending_forward`.  An event is one completed await (or the servo
call, or the poll of the forward channel) together with everything the
environment chose in it: what the radio delivered, how the driver answered a
send, which request was in the channel.  `GatewayTask.step` is `none` on an
event the code cannot produce where it stands.

`GatewayStep` is the same relation with one rule for each branch of the source
(`step_iff`); the proofs go by cases on it.
-/

namespace HaviliarIot

/-- A byte-string literal of the source, such as `b"ACK"`. -/
def asciiBytes (text : String) : List UInt8 := text.toList.map fun c => UInt8.ofNat c.toNat

/-- What `task_mqtt_ingress` puts on the forward channel: an envelope built by
`LoraEnvelope::new(MessageType::Open, seq, timestamp_ms, 0, ..)`. -/
structure ForwardRequest extends LoraEnvelope where
  version_eq : version = protocolVersion
  msgType_eq : msgType = .Open
  elapsed_eq : elapsedMs = 0
  deriving DecidableEq

/-- The only way a request is made. -/
def ForwardRequest.new (seq : UInt16) (timestampMs : UInt32) (payload : List UInt8) :
    ForwardRequest where
  toLoraEnvelope := .new .Open seq timestampMs 0 payload
  version_eq := rfl
  msgType_eq := rfl
  elapsed_eq := rfl

/-- A first request. -/
def sampleRequest : ForwardRequest := .new 1 1000 [1, 2, 3]

/-- The signal a frame is received with. -/
def sampleStatus : PacketStatus := ⟨-80, 9⟩

/-- `lora.receive_message(..).with_timeout(..)`, as the driver and the timer
decide it. -/
inductive RadioRx where
  | done (driver : Except RadioError (List UInt8 × PacketStatus))
  | timeout
  deriving DecidableEq

/-- `rx_result`. -/
def RadioRx.result (cbor : Minicbor) : RadioRx → Option (Except RadioError LoraEnvelope)
  | done driver => some ((LoraController.receiveMessage cbor driver).map Prod.fst)
  | timeout => none

/-- The envelope a receive poll delivers, if it does. -/
def RadioRx.heard (cbor : Minicbor) (rx : RadioRx) : Option LoraEnvelope :=
  match rx.result cbor with
  | some (.ok envelope) => some envelope
  | _ => none

/-- The frame of an envelope that fits is heard as that envelope. -/
theorem RadioRx.heard_framed {cbor : Minicbor} {e : LoraEnvelope} (fits : e.intoOutgoing.isSome)
    (status : PacketStatus) :
    (done (.ok (OutgoingFrame.framed e, status))).heard cbor = some e := by
  have decoded := LoraController.receiveMessage_framed cbor fits status
  simp [heard, result, decoded, Except.map]

/-- A receive that fails delivers nothing. -/
theorem RadioRx.heard_of_error {cbor : Minicbor} {rx : RadioRx} {e : RadioError}
    (failed : rx.result cbor = some (.error e)) : rx.heard cbor = none := by
  rw [heard, failed]

/-- The result enqueued for a matching Ack. -/
def successResult (pending ack : LoraEnvelope) : LoraEnvelope :=
  .new .Reply pending.seq ack.timestampMs 0 (asciiBytes "LoRa forward ACK received")

/-- The result enqueued when a request cannot be sent. -/
def failureResult (request : LoraEnvelope) : LoraEnvelope :=
  .new .Reply request.seq request.timestampMs 0 (asciiBytes "LoRa send failed")

/-- The answer to a peer's Open. -/
def ackFor (envelope : LoraEnvelope) : LoraEnvelope :=
  .new .Ack envelope.seq envelope.timestampMs 0 (asciiBytes "ACK")

/-- Where the loop of `task_lora_gateway` stands. -/
inductive GatewayPc where
  /-- At the head, receiving. -/
  | receive
  /-- Before `servo_motor.open()`. -/
  | actuate (envelope : LoraEnvelope)
  | sendAck (ack : LoraEnvelope)
  | sendReply (result : LoraEnvelope)
  /-- In `result_tx.send(result)` of the Ack branch. -/
  | enqueueSuccess (result : LoraEnvelope)
  /-- In `Timer::after_millis(25)`. -/
  | backoff
  /-- At `match pending_forward`. -/
  | drain
  | forward (request : ForwardRequest)
  /-- In `result_tx.send(result)` after a failed send. -/
  | enqueueFailure (request : ForwardRequest)
  deriving DecidableEq

structure GatewayTask where
  pc : GatewayPc
  pendingForward : Option LoraEnvelope
  deriving DecidableEq

inductive GatewayEvent where
  | received (rx : RadioRx)
  | backedOff
  /-- `servo_motor.open().ok()`, for the Open just received. -/
  | opened (envelope : LoraEnvelope)
  /-- `lora.send_message_envelope(&envelope)`, and the driver's answer. -/
  | sent (envelope : LoraEnvelope) (driver : Except RadioError Unit)
  /-- `lora.send_message(..)` of the pending envelope. -/
  | resent (pending : LoraEnvelope) (driver : Except RadioError Unit)
  /-- `result_tx.send(result)` completed; `onBehalf` is the envelope the result
  was made from. -/
  | enqueued (onBehalf result : LoraEnvelope)
  /-- `forward_rx.try_receive()`. -/
  | polled (request : Option ForwardRequest)
  deriving DecidableEq

namespace GatewayTask

/-- `let mut pending_forward = None`, before the loop. -/
def init : GatewayTask := ⟨.receive, none⟩

/-- `match rx_result`, up to the first await of the branch taken. -/
def dispatch (cbor : Minicbor) (s : GatewayTask) (rx : RadioRx) : GatewayTask :=
  match rx.result cbor with
  | some (.ok envelope) =>
    match envelope.msgType with
    | .Ack =>
      match s.pendingForward with
      | some pending =>
        if pending.seq = envelope.seq then { s with pc := .sendReply (successResult pending envelope) }
        else { s with pc := .drain }
      | none => { s with pc := .drain }
    | .Open => { s with pc := .actuate envelope }
    | .Reply => ⟨.drain, none⟩
    | .Counter | .ResponseTime | .ContinuousPackage => { s with pc := .drain }
  | some (.error _) => { s with pc := .backoff }
  | none => { s with pc := .drain }

/-- One event of `task_lora_gateway`. -/
def step (cbor : Minicbor) (s : GatewayTask) (event : GatewayEvent) : Option GatewayTask :=
  match s.pc, event with
  | .receive, .received rx => some (dispatch cbor s rx)
  | .backoff, .backedOff => some { s with pc := .drain }
  | .actuate envelope, .opened envelope' =>
    if envelope' = envelope then some { s with pc := .sendAck (ackFor envelope) } else none
  -- the Ack takes the slot whether or not its send succeeded
  | .sendAck ack, .sent envelope _ => if envelope = ack then some ⟨.drain, some ack⟩ else none
  | .sendReply result, .sent envelope _ =>
    if envelope = result then some { s with pc := .enqueueSuccess result } else none
  | .enqueueSuccess result, .enqueued onBehalf result' =>
    if s.pendingForward = some onBehalf ∧ result' = result then some ⟨.drain, none⟩ else none
  | .drain, .resent pending _ =>
    if s.pendingForward = some pending then some { s with pc := .receive } else none
  | .drain, .polled request =>
    if s.pendingForward = none then
      match request with
      | some request => some { s with pc := .forward request }
      | none => some { s with pc := .receive }
    else none
  | .forward request, .sent envelope driver =>
    if envelope = request.toLoraEnvelope then
      match (LoraController.sendMessageEnvelope driver envelope).result with
      | .ok () => some ⟨.receive, some request.toLoraEnvelope⟩
      | .error _ => some { s with pc := .enqueueFailure request }
    else none
  | .enqueueFailure request, .enqueued onBehalf result =>
    if onBehalf = request.toLoraEnvelope ∧ result = failureResult request.toLoraEnvelope then
      some { s with pc := .receive }
    else none
  | _, _ => none

end GatewayTask

/-- The steps of `task_lora_gateway`, one rule for each branch. -/
inductive GatewayStep (cbor : Minicbor) : GatewayTask → GatewayEvent → GatewayTask → Prop where
  | ackMatched {rx : RadioRx} {ack pending : LoraEnvelope} :
      rx.heard cbor = some ack → ack.msgType = .Ack → pending.seq = ack.seq →
      GatewayStep cbor ⟨.receive, some pending⟩ (.received rx)
        ⟨.sendReply (successResult pending ack), some pending⟩
  | openHeard {rx : RadioRx} {envelope : LoraEnvelope} {slot : Option LoraEnvelope} :
      rx.heard cbor = some envelope → envelope.msgType = .Open →
      GatewayStep cbor ⟨.receive, slot⟩ (.received rx) ⟨.actuate envelope, slot⟩
  | replyHeard {rx : RadioRx} {envelope : LoraEnvelope} {slot : Option LoraEnvelope} :
      rx.heard cbor = some envelope → envelope.msgType = .Reply →
      GatewayStep cbor ⟨.receive, slot⟩ (.received rx) ⟨.drain, none⟩
  /-- An Ack that matches nothing, or a type the gateway has no branch for. -/
  | ignored {rx : RadioRx} {envelope : LoraEnvelope} {slot : Option LoraEnvelope} :
      rx.heard cbor = some envelope → envelope.msgType ≠ .Open → envelope.msgType ≠ .Reply →
      (envelope.msgType = .Ack → ∀ pending, slot = some pending → pending.seq ≠ envelope.seq) →
      GatewayStep cbor ⟨.receive, slot⟩ (.received rx) ⟨.drain, slot⟩
  | radioError {rx : RadioRx} {e : RadioError} {slot : Option LoraEnvelope} :
      rx.result cbor = some (.error e) →
      GatewayStep cbor ⟨.receive, slot⟩ (.received rx) ⟨.backoff, slot⟩
  | timedOut {slot : Option LoraEnvelope} :
      GatewayStep cbor ⟨.receive, slot⟩ (.received .timeout) ⟨.drain, slot⟩
  | backedOff {slot : Option LoraEnvelope} :
      GatewayStep cbor ⟨.backoff, slot⟩ .backedOff ⟨.drain, slot⟩
  | opened {envelope : LoraEnvelope} {slot : Option LoraEnvelope} :
      GatewayStep cbor ⟨.actuate envelope, slot⟩ (.opened envelope) ⟨.sendAck (ackFor envelope), slot⟩
  | ackSent {ack : LoraEnvelope} {driver : Except RadioError Unit} {slot : Option LoraEnvelope} :
      GatewayStep cbor ⟨.sendAck ack, slot⟩ (.sent ack driver) ⟨.drain, some ack⟩
  | replySent {result : LoraEnvelope} {driver : Except RadioError Unit}
      {slot : Option LoraEnvelope} :
      GatewayStep cbor ⟨.sendReply result, slot⟩ (.sent result driver) ⟨.enqueueSuccess result, slot⟩
  | successEnqueued {result pending : LoraEnvelope} :
      GatewayStep cbor ⟨.enqueueSuccess result, some pending⟩ (.enqueued pending result) ⟨.drain, none⟩
  | resent {pending : LoraEnvelope} {driver : Except RadioError Unit} :
      GatewayStep cbor ⟨.drain, some pending⟩ (.resent pending driver) ⟨.receive, some pending⟩
  | polledEmpty :
      GatewayStep cbor ⟨.drain, none⟩ (.polled none) ⟨.receive, none⟩
  | dequeued {request : ForwardRequest} :
      GatewayStep cbor ⟨.drain, none⟩ (.polled (some request)) ⟨.forward request, none⟩
  | forwarded {request : ForwardRequest} {driver : Except RadioError Unit}
      {slot : Option LoraEnvelope} :
      (LoraController.sendMessageEnvelope driver request.toLoraEnvelope).result = .ok () →
      GatewayStep cbor ⟨.forward request, slot⟩ (.sent request.toLoraEnvelope driver)
        ⟨.receive, some request.toLoraEnvelope⟩
  | forwardFailed {request : ForwardRequest} {driver : Except RadioError Unit} {e : RadioError}
      {slot : Option LoraEnvelope} :
      (LoraController.sendMessageEnvelope driver request.toLoraEnvelope).result = .error e →
      GatewayStep cbor ⟨.forward request, slot⟩ (.sent request.toLoraEnvelope driver)
        ⟨.enqueueFailure request, slot⟩
  | failureEnqueued {request : ForwardRequest} {slot : Option LoraEnvelope} :
      GatewayStep cbor ⟨.enqueueFailure request, slot⟩
        (.enqueued request.toLoraEnvelope (failureResult request.toLoraEnvelope)) ⟨.receive, slot⟩

namespace GatewayTask

variable {cbor : Minicbor} {s s' : GatewayTask} {event : GatewayEvent}

/-- An Ack is matched against the slot by its sequence number alone. -/
private theorem dispatch_ack {ack : LoraEnvelope} {rx : RadioRx} (slot : Option LoraEnvelope)
    (result : rx.result cbor = some (.ok ack)) (type : ack.msgType = .Ack) :
    GatewayStep cbor ⟨.receive, slot⟩ (.received rx) (dispatch cbor ⟨.receive, slot⟩ rx) := by
  have heard : rx.heard cbor = some ack := by rw [RadioRx.heard, result]
  cases slot with
  | none =>
    simp only [dispatch, result, type]
    exact .ignored heard (by simp [type]) (by simp [type]) (by simp)
  | some pending =>
    by_cases same : pending.seq = ack.seq
    · simp only [dispatch, result, type, same, if_true]
      exact .ackMatched heard type same
    · simp only [dispatch, result, type, same, if_false]
      refine .ignored heard (by simp [type]) (by simp [type]) ?_
      intro _ pending' held
      cases Option.some.inj held
      exact same

private theorem dispatch_step (rx : RadioRx) (slot : Option LoraEnvelope) :
    GatewayStep cbor ⟨.receive, slot⟩ (.received rx) (dispatch cbor ⟨.receive, slot⟩ rx) := by
  cases result : rx.result cbor with
  | none =>
    cases rx with
    | done driver => cases result
    | timeout => exact .timedOut
  | some outcome =>
    cases outcome with
    | error e =>
      simp only [dispatch, result]
      exact .radioError result
    | ok envelope =>
      have heard : rx.heard cbor = some envelope := by rw [RadioRx.heard, result]
      cases type : envelope.msgType with
      | Ack => exact dispatch_ack slot result type
      | Open =>
        simp only [dispatch, result, type]
        exact .openHeard heard type
      | Reply =>
        simp only [dispatch, result, type]
        exact .replyHeard heard type
      | Counter | ResponseTime | ContinuousPackage =>
        simp only [dispatch, result, type]
        exact .ignored heard (by simp [type]) (by simp [type]) (by simp [type])

/-- Each enabled event is one of the rules. -/
private theorem step_sound (taken : step cbor s event = some s') : GatewayStep cbor s event s' := by
  obtain ⟨pc, slot⟩ := s
  cases pc with
  | receive =>
    cases event <;> simp only [step, Option.some.injEq, reduceCtorEq] at taken
    subst taken
    exact dispatch_step _ _
  | actuate envelope =>
    cases event <;> simp only [step, Option.ite_none_right_eq_some, Option.some.injEq,
      reduceCtorEq] at taken
    obtain ⟨rfl, rfl⟩ := taken
    exact .opened
  | sendAck ack =>
    cases event <;> simp only [step, Option.ite_none_right_eq_some, Option.some.injEq,
      reduceCtorEq] at taken
    obtain ⟨rfl, rfl⟩ := taken
    exact .ackSent
  | sendReply result =>
    cases event <;> simp only [step, Option.ite_none_right_eq_some, Option.some.injEq,
      reduceCtorEq] at taken
    obtain ⟨rfl, rfl⟩ := taken
    exact .replySent
  | enqueueSuccess result =>
    cases event <;> simp only [step, Option.ite_none_right_eq_some, Option.some.injEq,
      reduceCtorEq] at taken
    obtain ⟨⟨rfl, rfl⟩, rfl⟩ := taken
    exact .successEnqueued
  | backoff =>
    cases event <;> simp only [step, Option.some.injEq, reduceCtorEq] at taken
    subst taken
    exact .backedOff
  | drain =>
    cases event with
    | resent pending driver =>
      simp only [step, Option.ite_none_right_eq_some, Option.some.injEq] at taken
      obtain ⟨rfl, rfl⟩ := taken
      exact .resent
    | polled request =>
      simp only [step, Option.ite_none_right_eq_some] at taken
      obtain ⟨rfl, taken⟩ := taken
      cases request with
      | none =>
        cases Option.some.inj taken
        exact .polledEmpty
      | some request =>
        cases Option.some.inj taken
        exact .dequeued
    | _ => simp [step] at taken
  | forward request =>
    cases event <;> simp only [step, Option.ite_none_right_eq_some, reduceCtorEq] at taken
    obtain ⟨rfl, taken⟩ := taken
    split at taken
    · rename_i ok
      cases Option.some.inj taken
      exact .forwarded ok
    · rename_i e failed
      cases Option.some.inj taken
      exact .forwardFailed failed
  | enqueueFailure request =>
    cases event <;> simp only [step, Option.ite_none_right_eq_some, Option.some.injEq,
      reduceCtorEq] at taken
    obtain ⟨⟨rfl, rfl⟩, rfl⟩ := taken
    exact .failureEnqueued

private theorem dispatch_heard {rx : RadioRx} {envelope : LoraEnvelope}
    (heard : rx.heard cbor = some envelope) : rx.result cbor = some (.ok envelope) := by
  unfold RadioRx.heard at heard
  split at heard
  · rename_i result
    rw [result, Option.some.inj heard]
  · cases heard

/-- Each rule is what the step function computes. -/
private theorem step_complete (rule : GatewayStep cbor s event s') : step cbor s event = some s' := by
  cases rule with
  | ackMatched heard type same => simp [step, dispatch, dispatch_heard heard, type, same]
  | openHeard heard type => simp [step, dispatch, dispatch_heard heard, type]
  | replyHeard heard type => simp [step, dispatch, dispatch_heard heard, type]
  | @ignored rx envelope slot heard notOpen notReply unmatched =>
    cases type : envelope.msgType with
    | Open => exact absurd type notOpen
    | Reply => exact absurd type notReply
    | Ack =>
      cases slot with
      | none => simp [step, dispatch, dispatch_heard heard, type]
      | some pending =>
        simp [step, dispatch, dispatch_heard heard, type, unmatched type pending rfl]
    | Counter | ResponseTime | ContinuousPackage =>
      simp [step, dispatch, dispatch_heard heard, type]
  | radioError result => simp [step, dispatch, result]
  | timedOut => simp [step, dispatch, RadioRx.result]
  | forwarded ok => simp [step, ok]
  | forwardFailed failed => simp [step, failed]
  | _ => simp [step]

/-- The rules are the step function. -/
theorem step_iff : step cbor s event = some s' ↔ GatewayStep cbor s event s' :=
  ⟨step_sound, step_complete⟩

end GatewayTask

end HaviliarIot
