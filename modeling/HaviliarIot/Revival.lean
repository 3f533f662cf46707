import HaviliarIot.Broadcast
import HaviliarIot.Measurements
import HaviliarIot.Rendezvous

/-!
A measurement that has begun does not die out.

`bin/lora_response_time.rs` repeats its last reply when nothing is heard for a while.
So whatever the medium has lost, two boards that run it can start over: one of them
times out and transmits, and the other hears it and answers (`measures_on`).  All it
needs is that one of the two has answered something before, and that no transmission
of theirs has failed; a failed one stops its board for good (`rendezvous_iff`).

Without a failure `task_receive` can always be brought back to its poll
(`polls_again`): the one reply under way is somewhere between the two tasks, and each
of them can take its next step.

All of this holds whatever the clock reads on the way, so in particular of a clock that
never goes back: no branch of the program depends on a reading.
-/

namespace HaviliarIot

open Runs

/-- What this event reads off the clock. -/
def ReceiveEvent.reading : ReceiveEvent → Option UInt64
  | received _ now | rssiLocked now | ackReceived now => some now
  | rngLocked | locked | elapsedLocked | lostLocked | enqueued _ | backedOff => none

def ResponseLabel.reading : ResponseLabel → Option UInt64
  | receive event => event.reading
  | send _ | display _ => none

namespace ResponseTime

/-- Nothing is heard, no transmission fails, and the clock reads `now`. -/
structure Smooth (now : UInt64) (label : ResponseLabel) : Prop where
  deaf : label.hears = none
  passes : label.fails = false
  timed : ∀ reading ∈ label.reading, reading = now

/-- `task_receive` polls the radio, and nothing is under way. -/
structure Polling (s : ResponseTime) : Prop where
  receive : s.receive.pc = .receive
  send : s.send = .receive
  channel : s.channel.queue = []
  acks : s.acks.queue = []

/-- The program can be brought to such a state, whatever the clock reads on the way. -/
abbrev Reaches (cbor : Minicbor) (goal : ResponseTime → Prop) (s : ResponseTime) : Prop :=
  Regardless (step cbor) Smooth goal s

variable {cbor : Minicbor} {goal : ResponseTime → Prop} {s s' : ResponseTime}
  {label : ResponseLabel} {message : LoraEnvelope} {branch : ReplyBranch} {tr : List ResponseLabel}

/-- An event of `task_receive` that hears nothing. -/
theorem smooth_receive {event : ReceiveEvent} {now : UInt64}
    (deaf : (ResponseLabel.receive event).hears = none)
    (timed : ∀ reading ∈ event.reading, reading = now) : Smooth now (.receive event) :=
  ⟨deaf, rfl, timed⟩

namespace Reaches

/-- A step of `task_receive`, with the channels as it leaves them. -/
theorem of_receive (event : UInt64 → ReceiveEvent) {receive : UInt64 → ReceiveTask}
    {stats : UInt64 → Statistics} (channel : LoRaChannel) (acks : SentAckChannel)
    (rule : ∀ now, ReceiveStep cbor s.receive s.stats (event now) (receive now) (stats now))
    (locks : ∀ now, event now = .locked → s.LoraFree)
    (smooth : ∀ now, Smooth now (.receive (event now)))
    (fed : ∀ now, channel.queue = s.channel.queue ++ (event now).replied)
    (collected : ∀ now, s.acks.queue = (event now).collected ++ acks.queue)
    (rest : ∀ now, Reaches cbor goal
      { s with receive := receive now, stats := stats now, channel, acks }) :
    Reaches cbor goal s := by
  refine .head fun now => ⟨.receive (event now), _, smooth now, ?_, rest now⟩
  exact step_receive.mpr
    ⟨locks now, _, _, rule now, channel, fed now, acks, collected now, rfl⟩

/-- A step of `task_receive` that leaves the channels alone. -/
theorem of_receive_alone (event : UInt64 → ReceiveEvent) {receive : UInt64 → ReceiveTask}
    {stats : UInt64 → Statistics}
    (rule : ∀ now, ReceiveStep cbor s.receive s.stats (event now) (receive now) (stats now))
    (locks : ∀ now, event now = .locked → s.LoraFree)
    (smooth : ∀ now, Smooth now (.receive (event now)))
    (replied : ∀ now, (event now).replied = []) (collected : ∀ now, (event now).collected = [])
    (rest : ∀ now, Reaches cbor goal { s with receive := receive now, stats := stats now }) :
    Reaches cbor goal s :=
  of_receive event s.channel s.acks rule locks smooth (fun now => by simp [replied now])
    (fun now => by simp [collected now]) rest

/-- One that does not read the clock either. -/
theorem of_unread {event : ReceiveEvent} {receive : ReceiveTask} {stats : Statistics}
    (rule : ReceiveStep cbor s.receive s.stats event receive stats)
    (locks : event = .locked → s.LoraFree) (deaf : (ResponseLabel.receive event).hears = none)
    (unread : event.reading = none) (replied : event.replied = []) (collected : event.collected = [])
    (rest : Reaches cbor goal { s with receive, stats }) : Reaches cbor goal s :=
  of_receive_alone (fun _ => event) (fun _ => rule) (fun _ => locks)
    (fun _ => smooth_receive deaf (by simp [unread])) (fun _ => replied) (fun _ => collected)
    fun _ => rest

/-- `task_receive` hands its reply over. -/
theorem of_enqueue (stands : s.receive.pc = .enqueue branch message) (channel : s.channel.queue = [])
    (rest : Reaches cbor goal
      { s with receive := { s.receive with pc := .waitAck branch },
               channel := ⟨[message], Nat.le_refl 1⟩ }) : Reaches cbor goal s := by
  refine of_receive (fun _ => .enqueued message) ⟨[message], Nat.le_refl 1⟩ s.acks
    (fun _ => .enqueued stands) (by simp) (fun _ => smooth_receive rfl ?_) (fun _ => ?_)
    (fun _ => ?_) fun _ => rest
  · simp [ReceiveEvent.reading]
  · simp [ReceiveEvent.replied, channel]
  · simp [ReceiveEvent.collected]

/-- A step of `task_send`, with the channels as it leaves them. -/
theorem of_send {event : SendEvent} {send : SendPc} (channel : LoRaChannel)
    (acks : SentAckChannel) (rule : SendStep s.send event send) (locks : event = .locked → s.LoraFree)
    (passes : event.fails = false) (drained : s.channel.queue = event.dequeued ++ channel.queue)
    (confirmed : acks.queue = s.acks.queue ++ event.confirmed)
    (rest : Reaches cbor goal { s with send, channel, acks }) : Reaches cbor goal s := by
  have smooth (now : UInt64) : Smooth now (.send event) := ⟨rfl, passes, by simp [ResponseLabel.reading]⟩
  refine .head fun now => ⟨.send event, _, smooth now, ?_, rest⟩
  exact step_send.mpr ⟨locks, send, rule, channel, drained, acks, confirmed, rfl⟩

end Reaches

/-! ## The rendezvous completes -/

theorem polls_of_lock (stands : s.receive.pc = .lock) (send : s.send = .receive)
    (channel : s.channel.queue = []) (acks : s.acks.queue = []) : Reaches cbor Polling s := by
  have free : s.LoraFree := ⟨by rw [send]; rfl, by rw [stands]; rfl⟩
  refine .of_unread (.locked stands) (fun _ => free) rfl rfl rfl rfl ?_
  exact .here ⟨rfl, send, channel, acks⟩

section Waiting

variable (waits : s.receive.pc = .waitAck branch)

include waits

/-- The confirmation is there. -/
theorem polls_of_acked (send : s.send = .receive) (channel : s.channel.queue = [])
    (acks : s.acks.queue = [()]) : Reaches cbor Polling s := by
  have smooth (now : UInt64) : Smooth now (.receive (.ackReceived now)) :=
    smooth_receive rfl (by simp [ReceiveEvent.reading])
  have kept (now : UInt64) :
      s.channel.queue = s.channel.queue ++ (ReceiveEvent.ackReceived now).replied := by
    simp [ReceiveEvent.replied]
  cases branch with
  | answered seq =>
    exact .of_receive .ackReceived s.channel .empty (fun _ => .answerConfirmed waits) (by simp)
      smooth kept (fun _ => acks) fun _ => polls_of_lock rfl send channel rfl
  | lost =>
    exact .of_receive .ackReceived s.channel .empty (fun _ => .lossConfirmed waits) (by simp)
      smooth kept (fun _ => acks) fun _ => polls_of_lock rfl send channel rfl

/-- The reply is transmitted, and `task_send` about to confirm it. -/
theorem polls_of_ackSend (send : s.send = .ackSend) (channel : s.channel.queue = [])
    (acks : s.acks.queue = []) : Reaches cbor Polling s := by
  have rule : SendStep s.send .acked .receive := by
    rw [send]
    exact .acked
  refine .of_send s.channel ⟨[()], Nat.le_refl 1⟩ rule (by simp) rfl ?_ ?_ ?_
  · simp [SendEvent.dequeued]
  · simp [SendEvent.confirmed, acks]
  · exact polls_of_acked waits rfl channel rfl

/-- `task_send` is about to transmit the reply. -/
theorem polls_of_send (send : s.send = .send message) (fits : message.intoOutgoing.isSome)
    (channel : s.channel.queue = []) (acks : s.acks.queue = []) : Reaches cbor Polling s := by
  have rule : SendStep s.send (.sent message (.ok ())) .ackSend := by
    rw [send]
    refine .sent ?_
    rw [LoraController.sendMessageEnvelope_fits fits]
  refine .of_send s.channel s.acks rule (by simp) rfl ?_ ?_ ?_
  · simp [SendEvent.dequeued]
  · simp [SendEvent.confirmed]
  · exact polls_of_ackSend waits rfl channel acks

theorem polls_of_sendLock (send : s.send = .lock message) (fits : message.intoOutgoing.isSome)
    (channel : s.channel.queue = []) (acks : s.acks.queue = []) : Reaches cbor Polling s := by
  have rule : SendStep s.send .locked (.send message) := by
    rw [send]
    exact .locked
  have free : s.LoraFree := ⟨by rw [send]; rfl, by rw [waits]; rfl⟩
  refine .of_send s.channel s.acks rule (fun _ => free) rfl ?_ ?_ ?_
  · simp [SendEvent.dequeued]
  · simp [SendEvent.confirmed]
  · exact polls_of_send waits rfl fits channel acks

/-- The reply is in the channel. -/
theorem polls_of_queued (send : s.send = .receive) (fits : message.intoOutgoing.isSome)
    (channel : s.channel.queue = [message]) (acks : s.acks.queue = []) : Reaches cbor Polling s := by
  have rule : SendStep s.send (.taken message) (.lock message) := by
    rw [send]
    exact .taken
  refine .of_send .empty s.acks rule (by simp) rfl ?_ ?_ ?_
  · simp [SendEvent.dequeued, channel, Channel.empty]
  · simp [SendEvent.confirmed]
  · exact polls_of_sendLock waits rfl fits rfl acks

end Waiting

theorem polls_of_enqueue (stands : s.receive.pc = .enqueue branch message)
    (fits : message.intoOutgoing.isSome) (send : s.send = .receive)
    (channel : s.channel.queue = []) (acks : s.acks.queue = []) : Reaches cbor Polling s := by
  refine .of_enqueue stands channel ?_
  exact polls_of_queued rfl send fits rfl acks

/-- The second lock of an answer, and the reply is built. -/
theorem polls_of_elapsed {seq : UInt16} {timestampMs elapsedMs : UInt32}
    (stands : s.receive.pc = .elapsed seq timestampMs elapsedMs) (send : s.send = .receive)
    (channel : s.channel.queue = []) (acks : s.acks.queue = []) : Reaches cbor Polling s := by
  refine .of_unread (.elapsedLocked stands) (by simp) rfl rfl rfl rfl ?_
  exact polls_of_enqueue rfl (reply_fits ..) send channel acks

/-- While `task_receive` waits, the reply can go on from wherever it is. -/
theorem polls_of_waitAck (waits : s.receive.pc = .waitAck branch) (sendable : Sendable s)
    (one : inFlight s = 1) : Reaches cbor Polling s := by
  unfold inFlight at one
  have free : 0 < s.send.busy → s.channel.queue = [] ∧ s.acks.queue = [] := by
    intro busy
    constructor <;> apply List.eq_nil_of_length_eq_zero <;> omega
  cases send : s.send with
  | receive =>
    simp only [send, SendPc.busy] at one
    by_cases queued : s.channel.queue = []
    · have confirmed : s.acks.queue = [()] := by
        obtain ⟨ack, single⟩ := List.length_eq_one_iff.mp (by simpa [queued] using one)
        exact single
      exact polls_of_acked waits send queued confirmed
    · have positive := List.length_pos_iff.mpr queued
      obtain ⟨message, single⟩ := List.length_eq_one_iff.mp (show s.channel.queue.length = 1 by omega)
      have fits := sendable message (by simp [messages, single])
      exact polls_of_queued waits send fits single (List.eq_nil_of_length_eq_zero (by omega))
  | lock message =>
    obtain ⟨channel, acks⟩ := free (by simp [send, SendPc.busy])
    have fits := sendable message (by simp [messages, send, SendPc.message])
    exact polls_of_sendLock waits send fits channel acks
  | send message =>
    obtain ⟨channel, acks⟩ := free (by simp [send, SendPc.busy])
    have fits := sendable message (by simp [messages, send, SendPc.message])
    exact polls_of_send waits send fits channel acks
  | ackSend =>
    obtain ⟨channel, acks⟩ := free (by simp [send, SendPc.busy])
    exact polls_of_ackSend waits send channel acks

/-- **Without a failed transmission the program can always get back to its poll.** -/
theorem polls_again (ran : run (step cbor) init tr = some s)
    (smooth : ∀ label ∈ tr, label.fails = false) : Reaches cbor Polling s := by
  have none : tr.countP ResponseLabel.fails = 0 := by
    rw [List.countP_eq_zero]
    simpa using smooth
  have conserved : inFlight s = s.receive.pc.waits := by
    rw [← conserved_of_run ran, none, Nat.add_zero]
  have sendable := sendable_of_run ran
  have idle : s.receive.pc.waits = 0 →
      s.send = .receive ∧ s.channel.queue = [] ∧ s.acks.queue = [] := by
    intro resting
    unfold inFlight at conserved
    refine ⟨?_, List.eq_nil_of_length_eq_zero (by omega), List.eq_nil_of_length_eq_zero (by omega)⟩
    cases send : s.send <;> simp [send, SendPc.busy] at conserved ⊢ <;> omega
  cases stands : s.receive.pc with
  | waitAck branch =>
    rw [stands] at conserved
    exact polls_of_waitAck stands sendable conserved
  | rng =>
    obtain ⟨send, channel, acks⟩ := idle (by rw [stands]; rfl)
    refine .of_unread (.rngLocked stands) (by simp) rfl rfl rfl rfl ?_
    exact polls_of_lock rfl send channel acks
  | lock =>
    obtain ⟨send, channel, acks⟩ := idle (by rw [stands]; rfl)
    exact polls_of_lock stands send channel acks
  | receive =>
    obtain ⟨send, channel, acks⟩ := idle (by rw [stands]; rfl)
    exact .here ⟨stands, send, channel, acks⟩
  | backoff =>
    obtain ⟨send, channel, acks⟩ := idle (by rw [stands]; rfl)
    refine .of_unread (.backedOff stands) (by simp) rfl rfl rfl rfl ?_
    exact polls_of_lock rfl send channel acks
  | rssi seq rssi timestampMs =>
    obtain ⟨send, channel, acks⟩ := idle (by rw [stands]; rfl)
    refine .of_receive_alone .rssiLocked (fun _ => .rssiLocked stands) (by simp)
      (fun _ => smooth_receive rfl (by simp [ReceiveEvent.reading])) (fun _ => rfl) (fun _ => rfl)
      fun _ => ?_
    exact polls_of_elapsed rfl send channel acks
  | elapsed seq timestampMs elapsedMs =>
    obtain ⟨send, channel, acks⟩ := idle (by rw [stands]; rfl)
    exact polls_of_elapsed stands send channel acks
  | lostCounter message =>
    obtain ⟨send, channel, acks⟩ := idle (by rw [stands]; rfl)
    have fits := sendable message (by simp [messages, stands, ReceivePc.message])
    refine .of_unread (.lostLocked stands) (by simp) rfl rfl rfl rfl ?_
    exact polls_of_enqueue rfl fits send channel acks
  | enqueue branch message =>
    obtain ⟨send, channel, acks⟩ := idle (by rw [stands]; rfl)
    have fits := sendable message (by simp [messages, stands, ReceivePc.message])
    exact polls_of_enqueue stands fits send channel acks

/-! ## The last reply is repeated -/

/-- There is a reply to repeat. -/
def Responded (s : ResponseTime) : Prop :=
  s.receive.lastResponseAt.isSome ∧ s.receive.lastSentSeq.isSome

theorem sample_responded (r : ReceiveTask) (now : UInt64) :
    (r.sample now).lastResponseAt = r.lastResponseAt ∧
      (r.sample now).lastSentSeq = r.lastSentSeq := by
  unfold ReceiveTask.sample
  split <;> exact ⟨rfl, rfl⟩

/-- A reply once given can always be repeated. -/
theorem responded_step (responded : Responded s) (taken : step cbor s label = some s') :
    Responded s' := by
  cases label with
  | send event =>
    obtain ⟨-, _, -, _, -, _, -, rfl⟩ := step_send.mp taken
    exact responded
  | display event =>
    obtain ⟨-, _, -, rfl⟩ := step_display.mp taken
    exact responded
  | receive event =>
    obtain ⟨-, receive, stats, rule, _, -, _, -, rfl⟩ := step_receive.mp taken
    obtain ⟨lastResponse, lastSeq⟩ := responded
    cases rule with
    | @heard driver now envelope status stands result =>
      obtain ⟨sameTime, sameSeq⟩ := sample_responded s.receive now
      exact ⟨by simpa [sameTime] using lastResponse, by simpa [sameSeq] using lastSeq⟩
    | answerConfirmed => exact ⟨rfl, rfl⟩
    | _ => exact ⟨lastResponse, lastSeq⟩

/-- A transmission that cannot be refused is about to start. -/
def Transmitting (s : ResponseTime) : Prop :=
  ∃ message, s.send = .send message ∧ message.intoOutgoing.isSome

theorem transmits_of_enqueue (stands : s.receive.pc = .enqueue branch message)
    (fits : message.intoOutgoing.isSome) (send : s.send = .receive)
    (channel : s.channel.queue = []) : Reaches cbor Transmitting s := by
  have taken : SendStep s.send (.taken message) (.lock message) := by
    rw [send]
    exact .taken
  refine .of_enqueue stands channel ?_
  refine .of_send .empty s.acks taken (by simp) rfl ?_ ?_ ?_
  · simp [SendEvent.dequeued, Channel.empty]
  · simp [SendEvent.confirmed]
  refine .of_send .empty s.acks .locked (fun _ => ⟨rfl, rfl⟩) rfl rfl ?_ ?_
  · simp [SendEvent.confirmed]
  exact .here ⟨message, rfl, fits⟩

/-- From its poll, a board that has answered before times out and repeats its reply. -/
theorem repeats (polling : Polling s) (responded : Responded s) : Reaches cbor Transmitting s := by
  obtain ⟨last, lastResponse⟩ := Option.isSome_iff_exists.mp responded.1
  obtain ⟨seq, lastSeq⟩ := Option.isSome_iff_exists.mp responded.2
  refine .of_receive_alone (.received .timeout)
    (fun _ => .unanswered polling.receive lastResponse lastSeq) (by simp)
    (fun _ => smooth_receive rfl (by simp [ReceiveEvent.reading])) (fun _ => rfl) (fun _ => rfl)
    fun _ => ?_
  refine .of_unread (.lostLocked rfl) (by simp) rfl rfl rfl rfl ?_
  exact transmits_of_enqueue rfl (reply_fits ..) polling.send polling.channel

/-- A board whose transmissions all went through can be brought to repeat its reply. -/
theorem transmits_again (ran : run (step cbor) init tr = some s)
    (smooth : ∀ label ∈ tr, label.fails = false) (responded : Responded s) :
    Reaches cbor Transmitting s := by
  have polls : Reaches cbor Polling s := polls_again ran smooth
  refine (polls.preserves responded_step responded).bind ?_
  rintro mid ⟨polling, still⟩
  exact repeats polling still

/-- A frame is being answered, or one has been. -/
def Engaged (s : ResponseTime) : Prop := s.receive.pc.answering.isSome ∨ Responded s

/-- What is being answered will have been. -/
theorem engaged_step (engaged : Engaged s) (taken : step cbor s label = some s') : Engaged s' := by
  rcases engaged with answering | responded
  · cases label with
    | send event =>
      obtain ⟨-, _, -, _, -, _, -, rfl⟩ := step_send.mp taken
      exact .inl answering
    | display event =>
      obtain ⟨-, _, -, rfl⟩ := step_display.mp taken
      exact .inl answering
    | receive event =>
      obtain ⟨-, receive, stats, rule, _, -, _, -, rfl⟩ := step_receive.mp taken
      cases rule with
      | answerConfirmed => exact .inr ⟨rfl, rfl⟩
      | rssiLocked | elapsedLocked => exact .inl rfl
      | @enqueued branch message stands =>
        rw [stands] at answering
        cases branch with
        | answered seq => exact .inl rfl
        | lost => cases answering
      | rngLocked stands | locked stands | heard stands | failed stands | unanswered stands
      | timedOut stands | lostLocked stands | lossConfirmed stands | backedOff stands =>
        rw [stands] at answering
        cases answering
  · exact .inr (responded_step responded taken)

/-- Back at the poll, it has been. -/
theorem responded_of_engaged (engaged : Engaged s) (polling : Polling s) : Responded s := by
  refine engaged.resolve_left ?_
  rw [polling.receive]
  simp [ReceivePc.answering]

/-- A frame that arrives at the poll is answered next. -/
theorem hears_at_poll (cbor : Minicbor) (polling : Polling s) (fits : message.intoOutgoing.isSome)
    (status : PacketStatus) (now : UInt64) :
    ∃ s', step cbor s (.receive (.received (.done (.ok (OutgoingFrame.framed message, status))) now)) =
      some s' ∧ Engaged s' := by
  have decoded := LoraController.receiveMessage_framed cbor fits status
  refine ⟨_, step_receive.mpr ⟨(by simp), _, _, .heard polling.receive decoded, s.channel, ?_, s.acks,
    ?_, rfl⟩, .inl rfl⟩
  · simp [ReceiveEvent.replied]
  · simp [ReceiveEvent.collected]

/-- A transmission that cannot be refused puts its frame on the air. -/
theorem airs_of_transmitting (cbor : Minicbor) (transmitting : Transmitting s) :
    ∃ message s', message.intoOutgoing.isSome ∧
      step cbor s (.send (.sent message (.ok ()))) = some s' ∧
        (ResponseLabel.send (.sent message (.ok ()))).airs = [OutgoingFrame.framed message] := by
  obtain ⟨message, send, fits⟩ := transmitting
  have sent : LoraController.sendMessageEnvelope (.ok ()) message =
      ⟨some (OutgoingFrame.framed message), .ok ()⟩ := LoraController.sendMessageEnvelope_fits fits
  have rule : SendStep s.send (.sent message (.ok ())) .ackSend := by
    rw [send]
    refine .sent ?_
    rw [sent]
  refine ⟨message, _, fits, step_send.mpr ⟨(by simp), _, rule, s.channel, ?_, s.acks, ?_, rfl⟩, ?_⟩
  · simp [SendEvent.dequeued]
  · simp [SendEvent.confirmed]
  · simp [ResponseLabel.airs, sent]

end ResponseTime

/-! ## Between two boards -/

variable {ι κ : Type*} {cbor : Minicbor} {others : κ → Board Frame}

/-- Boards that run `lora_response_time`, and others. -/
abbrev measuring (ι : Type*) {κ : Type*} (cbor : Minicbor) (others : κ → Board Frame) :
    ι ⊕ κ → Board Frame
  | .inl _ => responseTimeBoard cbor
  | .inr k => others k

abbrev Measuring (ι : Type*) {κ : Type*} (cbor : Minicbor) (others : κ → Board Frame) :=
  Fleet (measuring ι cbor others)

abbrev MeasuringLabel (ι : Type*) {κ : Type*} (cbor : Minicbor) (others : κ → Board Frame) :=
  FleetLabel (measuring ι cbor others)

namespace Measuring

/-- An event of a measuring board. -/
def at_ (i : ι) (label : ResponseLabel) : MeasuringLabel ι cbor others := .act (.inl i) label

variable {i j k : ι} {tr : List (MeasuringLabel ι cbor others)}

/-- Every transmission of this board went through. -/
def Unfailed (k : ι) (tr : List (MeasuringLabel ι cbor others)) : Prop :=
  ∀ label, at_ k label ∈ tr → label.fails = false

/-- Nothing happens but on these two boards, nothing fails there, and the clock reads
`now`. -/
def Between (i j : ι) (now : UInt64) : MeasuringLabel ι cbor others → Prop
  | .act (.inl k) label => (k = i ∨ k = j) ∧ ResponseLabel.fails label = false ∧
      ∀ reading ∈ ResponseLabel.reading label, reading = now
  | .act (.inr _) _ => False
  | .lose .. => True

theorem Between.symm {now : UInt64} {label : MeasuringLabel ι cbor others}
    (between : Between i j now label) : Between j i now label := by
  cases label with
  | lose => trivial
  | act l own =>
    cases l with
    | inl k => exact ⟨between.1.symm, between.2⟩
    | inr k => exact between

theorem unfailed_of_between {clock : Nat → UInt64} {more : List (MeasuringLabel ι cbor others)}
    (unfailed : Unfailed k tr) (between : Timed (Between i j) clock more) :
    Unfailed k (tr ++ more) := by
  intro label member
  rcases List.mem_append.mp member with member | member
  · exact unfailed label member
  · obtain ⟨place, there⟩ := List.getElem?_of_mem member
    exact (between place _ there).2.1

variable [DecidableEq ι] [DecidableEq κ] {medium : Medium Frame} {s s' : Measuring ι cbor others}

/-- Whether this board takes a frame off the air. -/
def hearsAt (j : ι) : MeasuringLabel ι cbor others → Bool
  | .act (.inl k) label => decide (k = j) && (ResponseLabel.hears label).isSome
  | .act (.inr _) _ | .lose .. => false

/-- A measurement is going on between two boards: the first has answered before, and
nothing failed on either. -/
structure Going (cbor : Minicbor) (others : κ → Board Frame) (medium : Medium Frame) (i j : ι)
    (tr : List (MeasuringLabel ι cbor others)) (s : Measuring ι cbor others) : Prop where
  ran : run (Fleet.step medium) Fleet.start tr = some s
  responded : ResponseTime.Responded (s.board (.inl i))
  first : Unfailed i tr
  second : Unfailed j tr

/-- The events of one measuring board. -/
def trace (k : ι) (tr : List (MeasuringLabel ι cbor others)) : List ResponseLabel :=
  tr.filterMap (FleetLabel.ofBoard (Sum.inl k : ι ⊕ κ))

theorem run_trace (k : ι) (ran : run (Fleet.step medium) Fleet.start tr = some s) :
    run (ResponseTime.step cbor) .init (trace k tr) = some (s.board (.inl k)) :=
  Fleet.run_board (Sum.inl k : ι ⊕ κ) ran

theorem fails_of_unfailed (unfailed : Unfailed k tr) :
    ∀ label ∈ trace k tr, label.fails = false :=
  fun label member => unfailed label (Fleet.mem_board.mp member)

/-- What one of the two does on its own. -/
theorem drive_between (medium : Medium Frame) {goal : ResponseTime → Prop} (ofTwo : k = i ∨ k = j)
    (reaches : ResponseTime.Reaches cbor goal (s.board (.inl k))) :
    Regardless (Fleet.step medium) (Between i j)
      (fun s' => goal (s'.board (.inl k)) ∧ ∀ l, l ≠ .inl k → s'.board l = s.board l) s := by
  intro clock
  obtain ⟨own, b, ran, timed, reached⟩ := reaches clock
  have ran : run (measuring ι cbor others (.inl k)).step (s.board (.inl k)) own = some b := ran
  have deaf : ∀ label ∈ own, (measuring ι cbor others (.inl k)).hears label = none :=
    timed.forall fun _ _ smooth => smooth.deaf
  obtain ⟨s', driven, here, still, -⟩ := Fleet.drive_run _ deaf ran
  refine ⟨_, s', driven, timed.map ?_, by rw [here]; exact reached, still⟩
  exact fun _ _ smooth => ⟨ofTwo, smooth.passes, smooth.timed⟩

/-- A frame that the first is about to transmit can reach the second at its poll. -/
theorem heard_between (apart : i ≠ j) (permissive : medium.Permissive)
    (transmitting : ResponseTime.Transmitting (s.board (.inl i)))
    (polling : ResponseTime.Polling (s.board (.inl j))) (clock : Nat → UInt64) :
    ∃ more s', Timed (Between i j) clock more ∧ run (Fleet.step medium) s more = some s' ∧
      1 ≤ more.countP (hearsAt j) ∧ ResponseTime.Engaged (s'.board (.inl j)) := by
  have other : (Sum.inl j : ι ⊕ κ) ≠ Sum.inl i := by simpa using Ne.symm apart
  obtain ⟨message, b, fits, sent, airs⟩ := ResponseTime.airs_of_transmitting cbor transmitting
  have sent : (measuring ι cbor others (.inl i)).step (s.board (.inl i))
      (ResponseLabel.send (.sent message (.ok ()))) = some b := sent
  obtain ⟨s₁, taken₁, -, -, rest⟩ := Fleet.act medium sent rfl
  have polling₁ : ResponseTime.Polling (s₁.board (.inl j)) := by
    rw [(rest _ other).1]
    exact polling
  have onAir : OutgoingFrame.framed message ∈ s₁.air (.inl j) := by
    rw [(rest _ other).2, show (measuring ι cbor others (.inl i)).airs _ = _ from airs]
    exact List.mem_append_right _ (List.mem_singleton_self _)
  obtain ⟨s₂, ⟨lost, onlyLost, ran₂⟩, same, air, arrives⟩ := Fleet.lets_through permissive onAir
  have polling₂ : ResponseTime.Polling (s₂.board (.inl j)) := by
    rw [same]
    exact polling₁
  obtain ⟨b', heard, engaged⟩ := ResponseTime.hears_at_poll cbor polling₂ fits sampleStatus
    (clock (1 + (lost.length + 0)))
  have heard : (measuring ι cbor others (.inl j)).step (s₂.board (.inl j)) (ResponseLabel.receive
      (.received (.done (.ok (OutgoingFrame.framed message, sampleStatus)))
        (clock (1 + (lost.length + 0))))) = some b' := heard
  obtain ⟨s₃, taken₃, here, -⟩ := Fleet.act medium heard arrives
  have loses : ∀ label ∈ lost, ∀ now, Between i j now label := by
    intro label member now
    obtain ⟨place, rfl⟩ := onlyLost label member
    trivial
  refine ⟨at_ i (.send (.sent message (.ok ()))) :: (lost ++ [at_ j (.receive (.received
    (.done (.ok (OutgoingFrame.framed message, sampleStatus))) (clock (1 + (lost.length + 0)))))]),
    s₃, ?_, ?_, ?_, ?_⟩
  · refine timed_cons.mpr ⟨⟨.inl rfl, rfl, by simp [ResponseLabel.reading]⟩, ?_⟩
    refine timed_append.mpr ⟨timed_of_forall loses, timed_singleton.mpr ⟨.inr rfl, rfl, ?_⟩⟩
    simp [ResponseLabel.reading, ReceiveEvent.reading]
  · rw [run_cons, at_, taken₁]
    exact run_snoc.mpr ⟨s₂, ran₂, taken₃⟩
  · rw [List.countP_cons, List.countP_append]
    simp [hearsAt, at_, ResponseLabel.hears]
  · rw [here]
    exact engaged

/-- **Whatever was lost, the first transmits again, and the second hears it and answers.** -/
theorem exchange (apart : i ≠ j) (permissive : medium.Permissive)
    (going : Going cbor others medium i j tr s) (clock : Nat → UInt64) :
    ∃ more s', Timed (Between i j) clock more ∧ 1 ≤ more.countP (hearsAt j) ∧
      Going cbor others medium j i (tr ++ more) s' := by
  obtain ⟨ran, responded, first, second⟩ := going
  -- the second comes to its poll, and the first to its next transmission
  have ready : Regardless (Fleet.step medium) (Between i j)
      (fun s' => ResponseTime.Transmitting (s'.board (.inl i)) ∧
        ResponseTime.Polling (s'.board (.inl j))) s := by
    have polls : ResponseTime.Reaches cbor ResponseTime.Polling (s.board (.inl j)) :=
      ResponseTime.polls_again (run_trace j ran) (fails_of_unfailed second)
    refine (drive_between medium (.inr rfl) polls).bind ?_
    rintro s₁ ⟨polling, still₁⟩
    have transmits : ResponseTime.Reaches cbor ResponseTime.Transmitting (s₁.board (.inl i)) := by
      rw [still₁ (.inl i) (by simpa using apart)]
      exact ResponseTime.transmits_again (run_trace i ran) (fails_of_unfailed first) responded
    refine (drive_between medium (.inl rfl) transmits).bind ?_
    rintro s₂ ⟨transmitting, still₂⟩
    refine .here ⟨transmitting, ?_⟩
    rw [still₂ (.inl j) (by simpa using Ne.symm apart)]
    exact polling
  obtain ⟨before, s₂, ranBefore, timedBefore, transmitting, polling⟩ := ready clock
  obtain ⟨hearing, s₃, timedHearing, ranHearing, heard, engaged⟩ :=
    heard_between apart permissive transmitting polling fun k => clock (before.length + k)
  have between : Timed (Between i j) clock (before ++ hearing) :=
    timed_append.mpr ⟨timedBefore, timedHearing⟩
  have ran₃ := run_trans ran (run_trans ranBefore ranHearing)
  -- and the second answers, and comes back to its poll
  have answers : ResponseTime.Reaches cbor ResponseTime.Responded (s₃.board (.inl j)) := by
    have polls : ResponseTime.Reaches cbor ResponseTime.Polling (s₃.board (.inl j)) :=
      ResponseTime.polls_again (run_trace j ran₃)
        (fails_of_unfailed (unfailed_of_between second between))
    refine (polls.preserves ResponseTime.engaged_step engaged).bind ?_
    rintro b ⟨polling, engaged⟩
    exact .here (ResponseTime.responded_of_engaged engaged polling)
  obtain ⟨answering, s₄, ranAnswering, timedAnswering, answered, -⟩ :=
    drive_between medium (.inr rfl) answers fun k => clock ((before ++ hearing).length + k)
  have all : Timed (Between i j) clock (before ++ hearing ++ answering) :=
    timed_append.mpr ⟨between, timedAnswering⟩
  refine ⟨before ++ hearing ++ answering, s₄, all, ?_, ?_, answered,
    unfailed_of_between second all, unfailed_of_between first all⟩
  · rw [List.countP_append, List.countP_append]
    omega
  · rw [← List.append_assoc]
    exact run_trans ran₃ ranAnswering

/-- **A measurement that has begun can always go on**: from any state, however much was
lost, each of the two boards can hear any number of further frames, with no other board
taking part and whatever the clock reads at each step. -/
theorem measures_on (apart : i ≠ j) (permissive : medium.Permissive)
    (going : Going cbor others medium i j tr s) (clock : Nat → UInt64) (n : Nat) :
    ∃ more s', Timed (Between i j) clock more ∧ n ≤ more.countP (hearsAt i) ∧
      n ≤ more.countP (hearsAt j) ∧ Going cbor others medium i j (tr ++ more) s' := by
  induction n with
  | zero => exact ⟨[], s, timed_nil, Nat.zero_le _, Nat.zero_le _, by simpa using going⟩
  | succ n ih =>
    obtain ⟨earlier, mid, between, heardFirst, heardSecond, going⟩ := ih
    obtain ⟨there, s₁, betweenThere, reached, going⟩ :=
      exchange apart permissive going fun k => clock (earlier.length + k)
    obtain ⟨back, s₂, betweenBack, returned, going⟩ :=
      exchange (Ne.symm apart) permissive going fun k => clock ((earlier ++ there).length + k)
    have both : Timed (Between i j) clock (earlier ++ there) :=
      timed_append.mpr ⟨between, betweenThere⟩
    have swapped := betweenBack.imp fun _ _ => Between.symm
    refine ⟨earlier ++ there ++ back, s₂, timed_append.mpr ⟨both, swapped⟩, ?_, ?_,
      by simpa using going⟩
    · rw [List.countP_append, List.countP_append]
      omega
    · rw [List.countP_append, List.countP_append]
      omega

/-- A gateway's request sets off a measurement: the first board hears and answers it. -/
def begun : List (MeasuringLabel Bool .reference fun _ : Unit => nodeBoard .reference) :=
  let request := sampleRequest.toLoraEnvelope
  let reply : LoraEnvelope := .new .Reply 0 5000 0 []
  [.act (.inr ()) (NodeLabel.ingress .locked),
    .act (.inr ()) (NodeLabel.ingress (.received (.ok ("esp32/open", [1, 2, 3])) 1000)),
    .act (.inr ()) (NodeLabel.ingress (.enqueued sampleRequest)),
    .act (.inr ()) (NodeLabel.gateway (.received .timeout)),
    .act (.inr ()) (NodeLabel.gateway (.polled (some sampleRequest))),
    .act (.inr ()) (NodeLabel.gateway (.sent request (.ok ()))),
    at_ false (.receive .rngLocked), at_ false (.receive .locked),
    at_ false (.receive (.received (.done (.ok (OutgoingFrame.framed request, sampleStatus))) 5000000)),
    at_ false (.receive (.rssiLocked 5000000)), at_ false (.receive .elapsedLocked),
    at_ false (.receive (.enqueued reply)), at_ false (.send (.taken reply)),
    at_ false (.send .locked), at_ false (.send (.sent reply (.ok ()))), at_ false (.send .acked),
    at_ false (.receive (.ackReceived 5100000))]

/-- By a clock that goes on from where it stood. -/
theorem measures_on_from_request :
    ∃ more s', Timed (Between false true) (fun k => 6000000 + UInt64.ofNat k) more ∧
      2 ≤ more.countP (hearsAt false) ∧ 2 ≤ more.countP (hearsAt true) ∧
      Going .reference (fun _ : Unit => nodeBoard .reference) .lossyFifo false true (begun ++ more)
        s' := by
  have answered : (run (Fleet.step .lossyFifo) Fleet.start begun).map
      (fun s => ResponseTime.receive (s.board (.inl false))) =
        some ⟨.lock, some 5100000, some 1, 0, 0, 0⟩ := by decide
  obtain ⟨s, ran, first⟩ := Option.map_eq_some_iff.mp answered
  have responded : ResponseTime.Responded (s.board (.inl false)) := by
    rw [ResponseTime.Responded, first]
    exact ⟨rfl, rfl⟩
  have passes : ∀ k : Bool, ∀ label ∈ trace k begun, label.fails = false := by decide
  have unfailed : ∀ k : Bool, Unfailed k begun :=
    fun k label member => passes k label (Fleet.mem_board.mpr member)
  exact measures_on (by decide) Medium.permissive_lossyFifo
    ⟨ran, responded, unfailed _, unfailed _⟩ (fun k => 6000000 + UInt64.ofNat k) 2

end Measuring

end HaviliarIot
