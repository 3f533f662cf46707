import HaviliarIot.ResponseTime

/-!
The send and confirm rendezvous of `lora_response_time`.

`task_receive` hands over one reply and waits; the reply is in the LoRa channel, then
with `task_send`, then comes back as a sent-ack.  A failed transmission is the one
way it gets lost: `task_send` logs the failure and takes no further notice of the
task that waits.  Counting the reply wherever it is, and every failed transmission as
a reply that never comes back, the count is exactly that of the waiting task
(`conserved_of_run`).  So one failure is enough, there is never a second one, and
after it nothing but the display can move, until it needs a guard that is not given
back.
-/

namespace HaviliarIot

open Runs

/-- One while `task_send` handles a message. -/
def SendPc.busy : SendPc → Nat
  | receive => 0
  | lock _ | send _ | ackSend => 1

/-- One while `task_receive` waits for the confirmation. -/
def ReceivePc.waits : ReceivePc → Nat
  | waitAck _ => 1
  | _ => 0

/-- The message `task_send` has taken and not sent yet. -/
def SendPc.message : SendPc → List LoraEnvelope
  | lock message | send message => [message]
  | receive | ackSend => []

/-- The message `task_receive` has built and not handed over yet. -/
def ReceivePc.message : ReceivePc → List LoraEnvelope
  | lostCounter message | enqueue _ message => [message]
  | _ => []

/-- The driver fails a send. -/
def SendEvent.fails : SendEvent → Bool
  | sent _ (.error _) => true
  | _ => false

def ResponseLabel.fails : ResponseLabel → Bool
  | send event => event.fails
  | _ => false

namespace ResponseTime

/-- The reply handed over, wherever it is, or its confirmation. -/
def inFlight (s : ResponseTime) : Nat :=
  s.channel.queue.length + s.send.busy + s.acks.queue.length

/-- While `task_receive` waits, the reply is in the LoRa channel, with `task_send`, or
confirmed. -/
def Rendezvous (s : ResponseTime) : Prop :=
  ∀ branch, s.receive.pc = .waitAck branch →
    s.channel.queue ≠ [] ∨ s.send ≠ .receive ∨ s.acks.queue ≠ []

/-- Both tasks wait on an empty channel. -/
structure Hung (s : ResponseTime) : Prop where
  receive : ∃ branch, s.receive.pc = .waitAck branch
  send : s.send = .receive
  channel : s.channel.queue = []
  acks : s.acks.queue = []

/-- Whatever happens next, both tasks keep waiting. -/
def HungForever (cbor : Minicbor) (s : ResponseTime) : Prop :=
  ∀ more s', run (step cbor) s more = some s' → Hung s'

variable {cbor : Minicbor} {s s' : ResponseTime} {label : ResponseLabel}
  {tr more : List ResponseLabel}

/-! ## Every message can be sent -/

/-- The messages on their way to the radio. -/
def messages (s : ResponseTime) : List LoraEnvelope :=
  s.receive.pc.message ++ s.channel.queue ++ s.send.message

/-- A reply has no payload, so it always fits a frame. -/
theorem reply_fits (seq : UInt16) (timestampMs elapsedMs : UInt32) :
    (LoraEnvelope.new .Reply seq timestampMs elapsedMs []).intoOutgoing.isSome := by
  rw [encodable_iff]
  exact Nat.zero_le _

/-- `task_receive` hands over what it has built, and builds replies. -/
theorem receive_messages {r r' : ReceiveTask} {stats stats' : Statistics} {event : ReceiveEvent}
    (rule : ReceiveStep cbor r stats event r' stats') {message : LoraEnvelope}
    (member : message ∈ r'.pc.message ++ event.replied) :
    message ∈ r.pc.message ∨ message.intoOutgoing.isSome := by
  cases rule with
  | unanswered | elapsedLocked =>
    rw [List.mem_singleton.mp member]
    exact .inr (reply_fits ..)
  | lostLocked stands | enqueued stands =>
    rw [stands]
    exact .inl member
  | _ => cases member

/-- `task_send` works on what it has taken. -/
theorem send_messages {p p' : SendPc} {event : SendEvent} (rule : SendStep p event p')
    {message : LoraEnvelope} (member : message ∈ p'.message) :
    message ∈ event.dequeued ++ p.message := by
  cases rule with
  | taken | locked => exact member
  | sent | failed | acked => cases member

/-- Every message on its way fits a frame. -/
def Sendable (s : ResponseTime) : Prop := ∀ message ∈ messages s, message.intoOutgoing.isSome

theorem sendable_step (sendable : Sendable s) (taken : step cbor s label = some s') :
    Sendable s' := by
  intro message member
  simp only [messages, List.mem_append] at member
  simp only [Sendable, messages, List.mem_append, or_imp, forall_and] at sendable
  obtain ⟨⟨built, queued⟩, inHand⟩ := sendable
  cases label with
  | send event =>
    obtain ⟨-, send, rule, channel, queue, acks, -, rfl⟩ := step_send.mp taken
    rcases member with (member | member) | member
    · exact built message member
    · apply queued message
      rw [queue]
      exact List.mem_append_right _ member
    · rcases List.mem_append.mp (send_messages rule member) with new | old
      · apply queued message
        rw [queue]
        exact List.mem_append_left _ new
      · exact inHand message old
  | receive event =>
    obtain ⟨-, receive, stats, rule, channel, queue, acks, -, rfl⟩ := step_receive.mp taken
    rw [queue, List.mem_append] at member
    rcases member with (member | member | member) | member
    · rcases receive_messages rule (List.mem_append_left _ member) with old | fits
      · exact built message old
      · exact fits
    · exact queued message member
    · rcases receive_messages rule (List.mem_append_right _ member) with old | fits
      · exact built message old
      · exact fits
    · exact inHand message member
  | display event =>
    obtain ⟨-, display, -, rfl⟩ := step_display.mp taken
    rcases member with (member | member) | member
    · exact built message member
    · exact queued message member
    · exact inHand message member

theorem sendable_of_run (ran : run (step cbor) init tr = some s) : Sendable s := by
  refine run_induction (P := fun _ s => Sendable s) ?_ ?_ ran
  · intro message member
    cases member
  · intro tr s label s' _ sendable taken
    exact sendable_step sendable taken

/-! ## Conservation -/

/-- A message taken keeps `task_send` busy until it is confirmed or has failed. -/
theorem send_balance {p p' : SendPc} {event : SendEvent} (rule : SendStep p event p')
    (fits : ∀ message ∈ p.message, message.intoOutgoing.isSome) :
    p'.busy + event.confirmed.length + event.fails.toNat = p.busy + event.dequeued.length := by
  cases rule with
  | @sent message driver sent =>
    rw [LoraController.sendMessageEnvelope_fits (fits message List.mem_cons_self)] at sent
    change driver = .ok () at sent
    subst sent
    rfl
  | @failed message driver e failed =>
    rw [LoraController.sendMessageEnvelope_fits (fits message List.mem_cons_self)] at failed
    change driver = .error e at failed
    subst failed
    rfl
  | taken | locked | acked => rfl

/-- `task_receive` waits from the moment it hands over a reply until it has the
confirmation. -/
theorem receive_balance {r r' : ReceiveTask} {stats stats' : Statistics} {event : ReceiveEvent}
    (rule : ReceiveStep cbor r stats event r' stats') :
    r'.pc.waits + event.collected.length = r.pc.waits + event.replied.length := by
  cases rule <;> simp [ReceivePc.waits, ReceiveEvent.collected, ReceiveEvent.replied, *]

theorem conserved_step (sendable : Sendable s) (taken : step cbor s label = some s') :
    inFlight s' + s.receive.pc.waits + label.fails.toNat = inFlight s + s'.receive.pc.waits := by
  cases label with
  | send event =>
    obtain ⟨-, send, rule, channel, queue, acks, confirmed, rfl⟩ := step_send.mp taken
    have fits : ∀ message ∈ s.send.message, message.intoOutgoing.isSome := by
      intro message member
      exact sendable message (List.mem_append_right _ member)
    have balance := send_balance rule fits
    simp only [inFlight, queue, confirmed, List.length_append, ResponseLabel.fails]
    omega
  | receive event =>
    obtain ⟨-, receive, stats, rule, channel, queue, acks, confirmed, rfl⟩ :=
      step_receive.mp taken
    have balance := receive_balance rule
    simp only [inFlight, queue, confirmed, List.length_append, ResponseLabel.fails,
      Bool.toNat_false]
    omega
  | display event =>
    obtain ⟨-, display, -, rfl⟩ := step_display.mp taken
    rfl

/-- The reply in flight and the failed transmissions are what `task_receive` waits
for. -/
theorem conserved_of_run (ran : run (step cbor) init tr = some s) :
    inFlight s + tr.countP ResponseLabel.fails = s.receive.pc.waits := by
  refine run_induction
    (P := fun tr s => inFlight s + tr.countP ResponseLabel.fails = s.receive.pc.waits) rfl ?_ ran
  intro tr s label s' first conserved taken
  have here := conserved_step (sendable_of_run first) taken
  have last : [label].countP ResponseLabel.fails = label.fails.toNat := by
    cases fails : label.fails <;> simp [fails]
  rw [List.countP_append, last]
  omega

theorem waits_eq_one {pc : ReceivePc} : pc.waits = 1 ↔ ∃ branch, pc = .waitAck branch := by
  cases pc <;> simp [ReceivePc.waits]

theorem waits_le_one (pc : ReceivePc) : pc.waits ≤ 1 := by
  cases pc <;> simp [ReceivePc.waits]

/-- No run has a second failed transmission. -/
theorem failures_le_one (ran : run (step cbor) init tr = some s) :
    tr.countP ResponseLabel.fails ≤ 1 := by
  have conserved := conserved_of_run ran
  have most := waits_le_one s.receive.pc
  omega

/-! ## Hanging -/

theorem hung_iff : Hung s ↔ s.receive.pc.waits = 1 ∧ inFlight s = 0 := by
  have idle : s.send.busy = 0 ↔ s.send = .receive := by
    cases s.send <;> simp [SendPc.busy]
  rw [waits_eq_one, inFlight, Nat.add_eq_zero_iff, Nat.add_eq_zero_iff, List.length_eq_zero_iff,
    List.length_eq_zero_iff, idle]
  constructor
  · intro hung
    exact ⟨hung.receive, ⟨hung.channel, hung.send⟩, hung.acks⟩
  · rintro ⟨receive, ⟨channel, send⟩, acks⟩
    exact ⟨receive, send, channel, acks⟩

/-- A broken rendezvous is two tasks waiting on empty channels. -/
theorem not_rendezvous_iff : ¬ Rendezvous s ↔ Hung s := by
  constructor
  · intro broken
    simp only [Rendezvous, not_forall, not_or, not_not] at broken
    obtain ⟨branch, waits, channel, send, acks⟩ := broken
    exact ⟨⟨branch, waits⟩, send, channel, acks⟩
  · rintro ⟨⟨branch, waits⟩, send, channel, acks⟩ rendezvous
    rcases rendezvous branch waits with busy | busy | busy
    · exact busy channel
    · exact busy send
    · exact busy acks

/-- Once both tasks hang, only the display moves. -/
theorem display_of_hung (hung : Hung s) (taken : step cbor s label = some s') :
    ∃ event, label = .display event ∧ s'.receive = s.receive ∧ Hung s' := by
  obtain ⟨⟨branch, waits⟩, idle, empty, unconfirmed⟩ := hung
  cases label with
  | send event =>
    obtain ⟨-, send, rule, channel, queue, -⟩ := step_send.mp taken
    rw [idle] at rule
    cases rule
    rw [empty] at queue
    cases queue
  | receive event =>
    obtain ⟨-, receive, stats, rule, channel, -, acks, confirmed, -⟩ := step_receive.mp taken
    rw [unconfirmed] at confirmed
    cases rule with
    | answerConfirmed | lossConfirmed => cases confirmed
    | rngLocked stands | locked stands | heard stands | failed stands | unanswered stands
    | timedOut stands | rssiLocked stands | elapsedLocked stands | lostLocked stands
    | enqueued stands | backedOff stands =>
      rw [waits] at stands
      cases stands
  | display event =>
    obtain ⟨-, display, -, rfl⟩ := step_display.mp taken
    exact ⟨event, rfl, rfl, ⟨branch, waits⟩, idle, empty, unconfirmed⟩

theorem hung_of_run (hung : Hung s) (ran : run (step cbor) s more = some s') :
    s'.receive = s.receive ∧ Hung s' := by
  refine run_induction (P := fun _ s' => s'.receive = s.receive ∧ Hung s') ⟨rfl, hung⟩ ?_ ran
  rintro tr before label after - ⟨same, hung⟩ taken
  obtain ⟨-, -, same', hung'⟩ := display_of_hung hung taken
  exact ⟨same'.trans same, hung'⟩

theorem hungForever_iff : HungForever cbor s ↔ Hung s := by
  constructor
  · intro forever
    exact forever [] s rfl
  · intro hung more s' ran
    exact (hung_of_run hung ran).2

/-- The display never gets past the statistics whose guards `task_receive` keeps. -/
theorem display_stops (hung : Hung s) (ran : run (step cbor) s more = some s') :
    (∀ value, .display (.elapsedShown value) ∉ more) ∨
      ∀ value, .display (.lostShown value) ∉ more := by
  obtain ⟨branch, waits⟩ := hung.receive
  have held : ∀ event, .display event ∈ more → ∃ at_ : ResponseTime,
      at_.receive.pc = .waitAck branch ∧ at_.displayFree event = true := by
    intro event member
    obtain ⟨earlier, later, rfl⟩ := List.append_of_mem member
    obtain ⟨before, after, first, taken, -⟩ := run_at ran
    refine ⟨before, ?_, (step_display.mp taken).1⟩
    rw [(hung_of_run hung first).1]
    exact waits
  cases branch with
  | answered seq =>
    left
    intro value member
    obtain ⟨before, waits, free⟩ := held _ member
    simp [displayFree, waits, ReceivePc.holdsElapsed] at free
  | lost =>
    right
    intro value member
    obtain ⟨before, waits, free⟩ := held _ member
    simp [displayFree, waits, ReceivePc.holdsLost] at free

/-- **The rendezvous never hangs in exactly the runs without a failed
transmission**: after one, `task_receive` waits for a confirmation that `task_send`
will not give. -/
theorem rendezvous_iff (ran : run (step cbor) init tr = some s) :
    Rendezvous s ∧ ¬ HungForever cbor s ↔ ∀ label ∈ tr, label.fails = false := by
  have conserved := conserved_of_run ran
  have most := waits_le_one s.receive.pc
  have intact : Rendezvous s ↔ tr.countP ResponseLabel.fails = 0 := by
    rw [← not_iff_not, not_rendezvous_iff, hung_iff]
    omega
  have same : Rendezvous s ↔ ¬ HungForever cbor s := by
    rw [hungForever_iff, ← not_rendezvous_iff, not_not]
  rw [← same, and_self, intact, List.countP_eq_zero]
  simp only [Bool.not_eq_true]

/-- A frame is received and answered; the driver decides about the answer. -/
def answering (driver : Except RadioError Unit) : List ResponseLabel :=
  [.receive .rngLocked, .receive .locked,
    .receive (.received (.done (.ok (OutgoingFrame.framed sampleRequest.toLoraEnvelope, sampleStatus))) 5000000),
    .receive (.rssiLocked 5000000), .receive .elapsedLocked,
    .receive (.enqueued (.new .Reply 0 5000 0 [])), .send (.taken (.new .Reply 0 5000 0 [])),
    .send .locked, .send (.sent (.new .Reply 0 5000 0 []) driver)]

theorem answer_confirmed :
    ∃ s, run (step .reference) init (answering (.ok ())) = some s ∧
      s.receive.pc = .waitAck (.answered 1) ∧ Rendezvous s := by
  have view : (run (step .reference) init (answering (.ok ()))).map (fun s => s.receive.pc) =
      some (.waitAck (.answered 1)) := by
    decide
  obtain ⟨s, ran, waits⟩ := Option.map_eq_some_iff.mp view
  exact ⟨s, ran, waits, ((rendezvous_iff ran).mpr (by decide)).1⟩

/-- The radio fails the answer once, and both tasks wait for ever. -/
theorem failed_answer_hangs :
    ∃ s, run (step .reference) init (answering (.error .Irq)) = some s ∧
      ¬ Rendezvous s ∧ HungForever .reference s := by
  have view : (run (step .reference) init (answering (.error .Irq))).map
      (fun s => (s.receive.pc, s.send, s.channel.queue, s.acks.queue)) =
      some (.waitAck (.answered 1), .receive, [], []) := by
    decide
  obtain ⟨s, ran, seen⟩ := Option.map_eq_some_iff.mp view
  simp only [Prod.mk.injEq] at seen
  obtain ⟨receive, send, channel, acks⟩ := seen
  have hung : Hung s := ⟨⟨_, receive⟩, send, channel, acks⟩
  exact ⟨s, ran, not_rendezvous_iff.mpr hung, hungForever_iff.mpr hung⟩

end ResponseTime

end HaviliarIot
