import HaviliarIot.Channel
import HaviliarIot.Gateway
import HaviliarIot.Runs

/-!
`bin/lora_response_time.rs`: `task_send`, `task_receive` and the display loop of
`main`, interleaved by an arbitrary scheduler, one step for each await.

`task_receive` hands a reply to `task_send` through a one-slot channel and waits
for it to be confirmed through another.  Between the two it keeps the guards of the
statistics it has just written, which the display loop locks one after the other.
As in the gateway, a mutex is free when no task stands where it holds the guard.
-/

namespace HaviliarIot

open Runs

/-- `LoRaChannel`. -/
abbrev LoRaChannel := Channel LoraEnvelope 1

/-- `SentAckChannel`. -/
abbrev SentAckChannel := Channel Unit 1

/-! ## task_send -/

/-- Where the loop of `task_send` stands. -/
inductive SendPc where
  | receive
  /-- In `lora.lock()`. -/
  | lock (message : LoraEnvelope)
  | send (message : LoraEnvelope)
  /-- In `ack_sender.send(())`. -/
  | ackSend
  deriving DecidableEq

/-- The LoRa guard is dropped at the end of the iteration. -/
def SendPc.holdsLora : SendPc → Bool
  | send _ | ackSend => true
  | receive | lock _ => false

inductive SendEvent where
  /-- `receiver.receive()`. -/
  | taken (message : LoraEnvelope)
  | locked
  | sent (message : LoraEnvelope) (driver : Except RadioError Unit)
  | acked
  deriving DecidableEq

/-- One event of `task_send`. -/
def SendPc.step (pc : SendPc) (event : SendEvent) : Option SendPc :=
  match pc, event with
  | .receive, .taken message => some (.lock message)
  | .lock message, .locked => some (.send message)
  | .send message, .sent message' driver =>
    if message' = message then
      match (LoraController.sendMessageEnvelope driver message).result with
      | .ok () => some .ackSend
      -- the failure is logged, and nothing is confirmed
      | .error _ => some .receive
    else none
  | .ackSend, .acked => some .receive
  | _, _ => none

/-- The steps of `task_send`, one rule for each branch. -/
inductive SendStep : SendPc → SendEvent → SendPc → Prop where
  | taken {message : LoraEnvelope} : SendStep .receive (.taken message) (.lock message)
  | locked {message : LoraEnvelope} : SendStep (.lock message) .locked (.send message)
  | sent {message : LoraEnvelope} {driver : Except RadioError Unit} :
      (LoraController.sendMessageEnvelope driver message).result = .ok () →
      SendStep (.send message) (.sent message driver) .ackSend
  | failed {message : LoraEnvelope} {driver : Except RadioError Unit} {e : RadioError} :
      (LoraController.sendMessageEnvelope driver message).result = .error e →
      SendStep (.send message) (.sent message driver) .receive
  | acked : SendStep .ackSend .acked .receive

/-- The rules are the step function. -/
theorem SendPc.send_iff {pc pc' : SendPc} {event : SendEvent} :
    pc.step event = some pc' ↔ SendStep pc event pc' := by
  constructor
  · intro taken
    cases pc with
    | receive =>
      cases event <;> simp only [step, Option.some.injEq, reduceCtorEq] at taken
      subst taken
      exact .taken
    | lock message =>
      cases event <;> simp only [step, Option.some.injEq, reduceCtorEq] at taken
      subst taken
      exact .locked
    | send message =>
      cases event <;> simp only [step, Option.ite_none_right_eq_some, reduceCtorEq] at taken
      obtain ⟨rfl, taken⟩ := taken
      split at taken <;> cases taken
      · rename_i sent
        exact .sent sent
      · rename_i failed
        exact .failed failed
    | ackSend =>
      cases event <;> simp only [step, Option.some.injEq, reduceCtorEq] at taken
      subst taken
      exact .acked
  · intro rule
    cases rule with
    | sent sent => simp [step, sent]
    | failed failed => simp [step, failed]
    | _ => simp [step]

/-! ## task_receive -/

/-- `u32::saturating_add`. -/
def saturatingAdd (a b : UInt32) : UInt32 := if a ≤ 4294967295 - b then a + b else 4294967295

/-- `u64::saturating_add`. -/
def saturatingAdd64 (a b : UInt64) : UInt64 :=
  if a ≤ 18446744073709551615 - b then a + b else 18446744073709551615

/-- The values behind the three statistics mutexes. -/
structure Statistics where
  currentRssi : UInt16
  elapsedTime : UInt32
  packageLostCounter : UInt32
  deriving DecidableEq

/-- The two branches that hand over a reply, with what they keep until it is
confirmed. -/
inductive ReplyBranch where
  /-- A frame was received; the guards of RSSI and elapsed time are held. -/
  | answered (seq : UInt16)
  /-- The receive timed out; the guard of the lost-package counter is held. -/
  | lost
  deriving DecidableEq

/-- Where `task_receive` stands. -/
inductive ReceivePc where
  /-- Before the loop, in `rng.lock()`. -/
  | rng
  | lock
  | receive
  /-- In `current_rssi.lock()`. -/
  | rssi (seq : UInt16) (rssi : UInt16) (timestampMs : UInt32)
  /-- In `elapsed_time.lock()`. -/
  | elapsed (seq : UInt16) (timestampMs elapsedMs : UInt32)
  /-- In `package_lost_counter.lock()`. -/
  | lostCounter (message : LoraEnvelope)
  | enqueue (branch : ReplyBranch) (message : LoraEnvelope)
  /-- In `ack_receiver.receive()`. -/
  | waitAck (branch : ReplyBranch)
  /-- In `Timer::after_millis(100)`. -/
  | backoff
  deriving DecidableEq

namespace ReceivePc

/-- The LoRa guard is dropped as soon as the receive returns. -/
def holdsLora : ReceivePc → Bool
  | receive => true
  | _ => false

def holdsRssi : ReceivePc → Bool
  | elapsed .. | enqueue (.answered _) _ | waitAck (.answered _) => true
  | _ => false

def holdsElapsed : ReceivePc → Bool
  | enqueue (.answered _) _ | waitAck (.answered _) => true
  | _ => false

def holdsLost : ReceivePc → Bool
  | enqueue .lost _ | waitAck .lost => true
  | _ => false

end ReceivePc

structure ReceiveTask where
  pc : ReceivePc
  /-- `last_response_at`, in ticks of a microsecond. -/
  lastResponseAt : Option UInt64
  lastSentSeq : Option UInt16
  lostPackets : UInt32
  responseSamples : UInt32
  totalResponseMs : UInt64
  deriving DecidableEq

/-- Each event comes with the clock reading that follows it, where there is one. -/
inductive ReceiveEvent where
  | rngLocked
  | locked
  | received (rx : RadioRx) (now : UInt64)
  | rssiLocked (now : UInt64)
  | elapsedLocked
  | lostLocked
  /-- `tx_sender.send(lora_envelope)`. -/
  | enqueued (message : LoraEnvelope)
  | ackReceived (now : UInt64)
  | backedOff
  deriving DecidableEq

namespace ReceiveTask

def init : ReceiveTask := ⟨.rng, none, none, 0, 0, 0⟩

/-- `as_millis` of an `Instant` or a `Duration`. -/
def asMillis (ticks : UInt64) : UInt64 := ticks / 1000

/-- `(now - last).as_millis()`, or zero before the first response. -/
def sinceLast (s : ReceiveTask) (now : UInt64) : UInt64 :=
  match s.lastResponseAt with
  | some last => asMillis (now - last)
  | none => 0

/-- `core::cmp::min(now.as_millis(), u32::MAX as u64) as u32`. -/
def timestamp (now : UInt64) : UInt32 := (min (asMillis now) 4294967295).toUInt32

/-- The response times are summed up from the second response on (`had_prev`). -/
def sample (s : ReceiveTask) (now : UInt64) : ReceiveTask :=
  if s.lastResponseAt.isSome then
    { s with
      totalResponseMs := saturatingAdd64 s.totalResponseMs (s.sinceLast now)
      responseSamples := saturatingAdd s.responseSamples 1 }
  else s

/-- `match result`, up to the first await of the branch taken. -/
def dispatch (cbor : Minicbor) (s : ReceiveTask) (rx : RadioRx) (now : UInt64) : ReceiveTask :=
  match rx with
  | .done driver =>
    match LoraController.receiveMessage cbor driver with
    | .ok (envelope, status) =>
      { s.sample now with pc := .rssi envelope.seq status.rssi.toUInt16 (timestamp now) }
    | .error _ => { s with pc := .backoff }
  | .timeout =>
    match s.lastResponseAt, s.lastSentSeq with
    | some last, some seq =>
      { s with
        lostPackets := saturatingAdd s.lostPackets 1
        pc := .lostCounter (.new .Reply seq (timestamp now)
          (asMillis (now - last)).toUInt32 []) }
    | _, _ => { s with pc := .lock }

/-- One event of `task_receive`, with what it writes to the statistics. -/
def step (cbor : Minicbor) (s : ReceiveTask) (stats : Statistics) (event : ReceiveEvent) :
    Option (ReceiveTask × Statistics) :=
  match s.pc, event with
  | .rng, .rngLocked => some ({ s with pc := .lock }, stats)
  | .lock, .locked => some ({ s with pc := .receive }, stats)
  | .receive, .received rx now => some (dispatch cbor s rx now, stats)
  | .backoff, .backedOff => some ({ s with pc := .lock }, stats)
  | .rssi seq rssi timestampMs, .rssiLocked now =>
    some ({ s with pc := .elapsed seq timestampMs (s.sinceLast now).toUInt32 },
      { stats with currentRssi := rssi })
  | .elapsed seq timestampMs elapsedMs, .elapsedLocked =>
    some ({ s with pc := .enqueue (.answered seq) (.new .Reply 0 timestampMs elapsedMs []) },
      { stats with elapsedTime := elapsedMs })
  | .lostCounter message, .lostLocked =>
    some ({ s with pc := .enqueue .lost message },
      { stats with packageLostCounter := saturatingAdd stats.packageLostCounter 1 })
  | .enqueue branch message, .enqueued message' =>
    if message' = message then some ({ s with pc := .waitAck branch }, stats) else none
  | .waitAck (.answered seq), .ackReceived now =>
    some ({ s with pc := .lock, lastResponseAt := some now, lastSentSeq := some seq }, stats)
  | .waitAck .lost, .ackReceived _ => some ({ s with pc := .lock }, stats)
  | _, _ => none

end ReceiveTask

/-- The steps of `task_receive`, one rule for each branch. -/
inductive ReceiveStep (cbor : Minicbor) (s : ReceiveTask) (stats : Statistics) :
    ReceiveEvent → ReceiveTask → Statistics → Prop where
  | rngLocked : s.pc = .rng → ReceiveStep cbor s stats .rngLocked { s with pc := .lock } stats
  | locked : s.pc = .lock → ReceiveStep cbor s stats .locked { s with pc := .receive } stats
  | heard {driver : Except RadioError (List UInt8 × PacketStatus)} {now : UInt64}
      {envelope : LoraEnvelope} {status : PacketStatus} :
      s.pc = .receive → LoraController.receiveMessage cbor driver = .ok (envelope, status) →
      ReceiveStep cbor s stats (.received (.done driver) now)
        { s.sample now with
          pc := .rssi envelope.seq status.rssi.toUInt16 (ReceiveTask.timestamp now) } stats
  | failed {driver : Except RadioError (List UInt8 × PacketStatus)} {now : UInt64}
      {e : RadioError} :
      s.pc = .receive → LoraController.receiveMessage cbor driver = .error e →
      ReceiveStep cbor s stats (.received (.done driver) now) { s with pc := .backoff } stats
  | unanswered {now last : UInt64} {seq : UInt16} :
      s.pc = .receive → s.lastResponseAt = some last → s.lastSentSeq = some seq →
      ReceiveStep cbor s stats (.received .timeout now)
        { s with
          lostPackets := saturatingAdd s.lostPackets 1
          pc := .lostCounter (.new .Reply seq (ReceiveTask.timestamp now)
            (ReceiveTask.asMillis (now - last)).toUInt32 []) } stats
  | timedOut {now : UInt64} :
      s.pc = .receive → s.lastResponseAt = none ∨ s.lastSentSeq = none →
      ReceiveStep cbor s stats (.received .timeout now) { s with pc := .lock } stats
  | rssiLocked {seq rssi : UInt16} {timestampMs : UInt32} {now : UInt64} :
      s.pc = .rssi seq rssi timestampMs →
      ReceiveStep cbor s stats (.rssiLocked now)
        { s with pc := .elapsed seq timestampMs (s.sinceLast now).toUInt32 }
        { stats with currentRssi := rssi }
  | elapsedLocked {seq : UInt16} {timestampMs elapsedMs : UInt32} :
      s.pc = .elapsed seq timestampMs elapsedMs →
      ReceiveStep cbor s stats .elapsedLocked
        { s with pc := .enqueue (.answered seq) (.new .Reply 0 timestampMs elapsedMs []) }
        { stats with elapsedTime := elapsedMs }
  | lostLocked {message : LoraEnvelope} :
      s.pc = .lostCounter message →
      ReceiveStep cbor s stats .lostLocked { s with pc := .enqueue .lost message }
        { stats with packageLostCounter := saturatingAdd stats.packageLostCounter 1 }
  | enqueued {branch : ReplyBranch} {message : LoraEnvelope} :
      s.pc = .enqueue branch message →
      ReceiveStep cbor s stats (.enqueued message) { s with pc := .waitAck branch } stats
  | answerConfirmed {seq : UInt16} {now : UInt64} :
      s.pc = .waitAck (.answered seq) →
      ReceiveStep cbor s stats (.ackReceived now)
        { s with pc := .lock, lastResponseAt := some now, lastSentSeq := some seq } stats
  | lossConfirmed {now : UInt64} :
      s.pc = .waitAck .lost →
      ReceiveStep cbor s stats (.ackReceived now) { s with pc := .lock } stats
  | backedOff : s.pc = .backoff → ReceiveStep cbor s stats .backedOff { s with pc := .lock } stats

namespace ReceiveTask

variable {cbor : Minicbor} {s s' : ReceiveTask} {stats stats' : Statistics} {event : ReceiveEvent}

/-- What was received decides the branch. -/
private theorem received_sound {rx : RadioRx} {now : UInt64} (receiving : s.pc = .receive) :
    ReceiveStep cbor s stats (.received rx now) (dispatch cbor s rx now) stats := by
  cases rx with
  | done driver =>
    cases result : LoraController.receiveMessage cbor driver with
    | ok heard =>
      simp only [dispatch, result]
      exact .heard receiving result
    | error e =>
      simp only [dispatch, result]
      exact .failed receiving result
  | timeout =>
    obtain ⟨pc, lastResponseAt, lastSentSeq, lostPackets, responseSamples, totalResponseMs⟩ := s
    cases lastResponseAt with
    | none => exact .timedOut receiving (.inl rfl)
    | some last =>
      cases lastSentSeq with
      | none => exact .timedOut receiving (.inr rfl)
      | some seq => exact .unanswered receiving rfl rfl

/-- The rules are the step function. -/
theorem receive_iff :
    s.step cbor stats event = some (s', stats') ↔ ReceiveStep cbor s stats event s' stats' := by
  constructor
  · intro taken
    unfold step at taken
    split at taken <;> try cases taken
    · exact .rngLocked ‹_›
    · exact .locked ‹_›
    · exact received_sound ‹_›
    · exact .backedOff ‹_›
    · exact .rssiLocked ‹_›
    · exact .elapsedLocked ‹_›
    · exact .lostLocked ‹_›
    · rw [Option.ite_none_right_eq_some] at taken
      obtain ⟨rfl, taken⟩ := taken
      cases taken
      exact .enqueued ‹_›
    · exact .answerConfirmed ‹_›
    · exact .lossConfirmed ‹_›
  · intro rule
    cases rule with
    | heard receiving result | failed receiving result =>
      simp [step, receiving, dispatch, result]
    | unanswered receiving responded numbered =>
      simp [step, receiving, dispatch, responded, numbered]
    | timedOut receiving missing =>
      rcases missing with missing | missing
      · simp [step, receiving, dispatch, missing]
      · cases responded : s.lastResponseAt <;> simp [step, receiving, dispatch, responded, missing]
    | rngLocked stands | locked stands | rssiLocked stands | elapsedLocked stands
    | lostLocked stands | enqueued stands | answerConfirmed stands | lossConfirmed stands
    | backedOff stands => simp [step, stands]

end ReceiveTask

/-! ## The display loop -/

/-- Where the loop of `main` stands; each guard is dropped as soon as its value is
read. -/
inductive DisplayPc where
  | clear
  | elapsed
  | lost
  | rssi
  | sleep
  deriving DecidableEq

inductive DisplayEvent where
  /-- `display.clear()`; a failure starts the iteration over. -/
  | cleared (ok : Bool)
  | elapsedShown (value : UInt32)
  | lostShown (value : UInt32)
  /-- The RSSI is read back as `i16`. -/
  | rssiShown (value : Int16)
  | slept
  deriving DecidableEq

/-- One event of the display loop. -/
def DisplayPc.step (pc : DisplayPc) (stats : Statistics) (event : DisplayEvent) : Option DisplayPc :=
  match pc, event with
  | .clear, .cleared ok => some (if ok then .elapsed else .clear)
  | .elapsed, .elapsedShown value => if value = stats.elapsedTime then some .lost else none
  | .lost, .lostShown value => if value = stats.packageLostCounter then some .rssi else none
  | .rssi, .rssiShown value => if value = stats.currentRssi.toInt16 then some .sleep else none
  | .sleep, .slept => some .clear
  | _, _ => none

/-! ## The channels -/

/-- What a `task_send` event does to the LoRa channel. -/
def SendEvent.drain (channel : LoRaChannel) : SendEvent → Option LoRaChannel
  | taken message => channel.take message
  | _ => some channel

/-- What a `task_send` event does to the sent-ack channel. -/
def SendEvent.confirm (acks : SentAckChannel) : SendEvent → Option SentAckChannel
  | acked => acks.send ()
  | _ => some acks

/-- What a `task_receive` event does to the LoRa channel. -/
def ReceiveEvent.feed (channel : LoRaChannel) : ReceiveEvent → Option LoRaChannel
  | enqueued message => channel.send message
  | _ => some channel

/-- What a `task_receive` event does to the sent-ack channel. -/
def ReceiveEvent.collect (acks : SentAckChannel) : ReceiveEvent → Option SentAckChannel
  | ackReceived _ => acks.take ()
  | _ => some acks

/-- The messages this event takes off the LoRa channel. -/
def SendEvent.dequeued : SendEvent → List LoraEnvelope
  | taken message => [message]
  | _ => []

/-- The sent-acks this event puts on the sent-ack channel. -/
def SendEvent.confirmed : SendEvent → List Unit
  | acked => [()]
  | _ => []

/-- The messages this event puts on the LoRa channel. -/
def ReceiveEvent.replied : ReceiveEvent → List LoraEnvelope
  | enqueued message => [message]
  | _ => []

/-- The sent-acks this event takes off the sent-ack channel. -/
def ReceiveEvent.collected : ReceiveEvent → List Unit
  | ackReceived _ => [()]
  | _ => []

theorem SendEvent.drain_eq_some {channel channel' : LoRaChannel} {e : SendEvent} :
    e.drain channel = some channel' ↔ channel.queue = e.dequeued ++ channel'.queue := by
  cases e with
  | taken message => exact Channel.take_eq_some
  | _ => simp [drain, dequeued, Channel.ext_iff]

theorem SendEvent.confirm_eq_some {acks acks' : SentAckChannel} {e : SendEvent} :
    e.confirm acks = some acks' ↔ acks'.queue = acks.queue ++ e.confirmed := by
  cases e with
  | acked => exact Channel.send_eq_some
  | _ => simp [confirm, confirmed, Channel.ext_iff, eq_comm]

theorem ReceiveEvent.feed_eq_some {channel channel' : LoRaChannel} {e : ReceiveEvent} :
    e.feed channel = some channel' ↔ channel'.queue = channel.queue ++ e.replied := by
  cases e with
  | enqueued message => exact Channel.send_eq_some
  | _ => simp [feed, replied, Channel.ext_iff, eq_comm]

theorem ReceiveEvent.collect_eq_some {acks acks' : SentAckChannel} {e : ReceiveEvent} :
    e.collect acks = some acks' ↔ acks.queue = e.collected ++ acks'.queue := by
  cases e with
  | ackReceived now => exact Channel.take_eq_some
  | _ => simp [collect, collected, Channel.ext_iff]

/-! ## The program -/

structure ResponseTime where
  send : SendPc
  receive : ReceiveTask
  display : DisplayPc
  stats : Statistics
  channel : LoRaChannel
  acks : SentAckChannel
  deriving DecidableEq

inductive ResponseLabel where
  | send (event : SendEvent)
  | receive (event : ReceiveEvent)
  | display (event : DisplayEvent)
  deriving DecidableEq

namespace ResponseTime

def init : ResponseTime :=
  ⟨.receive, .init, .clear, ⟨0, 0, 0⟩, .empty, .empty⟩

/-- No task holds the LoRa mutex. -/
def LoraFree (s : ResponseTime) : Prop :=
  s.send.holdsLora = false ∧ s.receive.pc.holdsLora = false

instance (s : ResponseTime) : Decidable s.LoraFree := inferInstanceAs (Decidable (_ ∧ _))

/-- Whether the statistics mutex this event locks is free. -/
def displayFree (s : ResponseTime) : DisplayEvent → Bool
  | .elapsedShown _ => !s.receive.pc.holdsElapsed
  | .lostShown _ => !s.receive.pc.holdsLost
  | .rssiShown _ => !s.receive.pc.holdsRssi
  | .cleared _ | .slept => true

/-- One event of one task. -/
def step (cbor : Minicbor) (s : ResponseTime) : ResponseLabel → Option ResponseTime
  | .send event =>
    if event = .locked → s.LoraFree then
      (s.send.step event).bind fun send =>
        (event.drain s.channel).bind fun channel =>
          (event.confirm s.acks).map fun acks => { s with send, channel, acks }
    else none
  | .receive event =>
    if event = .locked → s.LoraFree then
      (s.receive.step cbor s.stats event).bind fun (receive, stats) =>
        (event.feed s.channel).bind fun channel =>
          (event.collect s.acks).map fun acks => { s with receive, stats, channel, acks }
    else none
  | .display event =>
    if s.displayFree event then (s.display.step s.stats event).map fun display => { s with display }
    else none

variable {cbor : Minicbor} {s s' : ResponseTime}

theorem step_send {event : SendEvent} :
    step cbor s (.send event) = some s' ↔ (event = .locked → s.LoraFree) ∧
      ∃ send, SendStep s.send event send ∧
        ∃ channel, s.channel.queue = event.dequeued ++ channel.queue ∧
          ∃ acks, acks.queue = s.acks.queue ++ event.confirmed ∧
            { s with send, channel, acks } = s' := by
  simp only [step, Option.ite_none_right_eq_some, Option.bind_eq_some_iff, Option.map_eq_some_iff,
    SendPc.send_iff, SendEvent.drain_eq_some, SendEvent.confirm_eq_some]

theorem step_receive {event : ReceiveEvent} :
    step cbor s (.receive event) = some s' ↔ (event = .locked → s.LoraFree) ∧
      ∃ receive stats, ReceiveStep cbor s.receive s.stats event receive stats ∧
        ∃ channel, channel.queue = s.channel.queue ++ event.replied ∧
          ∃ acks, s.acks.queue = event.collected ++ acks.queue ∧
            { s with receive, stats, channel, acks } = s' := by
  simp only [step, Option.ite_none_right_eq_some, Option.bind_eq_some_iff, Option.map_eq_some_iff,
    Prod.exists, ReceiveTask.receive_iff, ReceiveEvent.feed_eq_some, ReceiveEvent.collect_eq_some]

theorem step_display {event : DisplayEvent} :
    step cbor s (.display event) = some s' ↔ s.displayFree event = true ∧
      ∃ display, s.display.step s.stats event = some display ∧ { s with display } = s' := by
  simp only [step, Option.ite_none_right_eq_some, Option.map_eq_some_iff]

end ResponseTime

end HaviliarIot
