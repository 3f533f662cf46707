import HaviliarIot.Fleet
import HaviliarIot.TwoNode
import HaviliarIot.ResponseTime

/-!
The programs of the repository as boards of one fleet.

`bin/lora_response_time.rs` answers what it hears and repeats an answer when nothing
comes; a gateway loop with nothing in its forward channel answers Opens and resends
what it holds.  Neither says anything before it has heard something.  So boards with
these two programs, in any number, wait for each other for ever: a measurement or a
handshake has to be started by another one (`silent_boards`).
-/

namespace HaviliarIot

open Runs

/-! ## lora_response_time -/

/-- The frame this event takes off the air. -/
def ResponseLabel.hears : ResponseLabel → Option Frame
  | receive (.received (.done (.ok (frame, _))) _) => some frame
  | _ => none

/-- The frames this event puts on the air. -/
def ResponseLabel.airs : ResponseLabel → List Frame
  | send (.sent message (.ok ())) =>
    (LoraController.sendMessageEnvelope (.ok ()) message).handed.toList
  | _ => []

/-- A board that runs `lora_response_time`. -/
abbrev responseTimeBoard (cbor : Minicbor) : Board Frame where
  State := ResponseTime
  Label := ResponseLabel
  step := ResponseTime.step cbor
  start := .init
  hears := ResponseLabel.hears
  airs := ResponseLabel.airs

namespace ResponseTime

variable {cbor : Minicbor} {s s' : ResponseTime} {label : ResponseLabel}

/-- `task_receive` has heard nothing. -/
structure Waiting (r : ReceiveTask) : Prop where
  pc : r.pc = .rng ∨ r.pc = .lock ∨ r.pc = .receive ∨ r.pc = .backoff
  unanswered : r.lastResponseAt = none

theorem waiting_step {r r' : ReceiveTask} {stats stats' : Statistics} {event : ReceiveEvent}
    (waiting : Waiting r) (rule : ReceiveStep cbor r stats event r' stats')
    (deaf : (ResponseLabel.receive event).hears = none) : Waiting r' ∧ event.replied = [] := by
  obtain ⟨pc, unanswered⟩ := waiting
  cases rule with
  | rngLocked | locked | failed | timedOut | backedOff => exact ⟨⟨by simp, unanswered⟩, rfl⟩
  | @heard driver now envelope status stands result =>
    cases driver with
    | error e => cases result
    | ok received => cases deaf
  | unanswered stands responded numbered =>
    rw [unanswered] at responded
    cases responded
  | rssiLocked stands | elapsedLocked stands | lostLocked stands | enqueued stands
  | answerConfirmed stands | lossConfirmed stands => simp [stands] at pc

/-- Nothing was heard yet, so there is nothing to send. -/
structure Quiet (s : ResponseTime) : Prop where
  receive : Waiting s.receive
  channel : s.channel.queue = []
  send : s.send = .receive

theorem quiet_step (quiet : Quiet s) (deaf : label.hears = none)
    (taken : step cbor s label = some s') : Quiet s' ∧ label.airs = [] := by
  obtain ⟨receive, channel, send⟩ := quiet
  cases label with
  | send event =>
    obtain ⟨-, next, rule, channel', queue, _, _, rfl⟩ := step_send.mp taken
    rw [send] at rule
    cases rule
    rw [channel] at queue
    cases queue
  | receive event =>
    obtain ⟨-, next, stats, rule, channel', queue, _, _, rfl⟩ := step_receive.mp taken
    obtain ⟨waiting, silent⟩ := waiting_step receive rule deaf
    rw [channel, silent] at queue
    exact ⟨⟨waiting, queue, send⟩, rfl⟩
  | display event =>
    obtain ⟨-, _, _, rfl⟩ := step_display.mp taken
    exact ⟨⟨receive, channel, send⟩, rfl⟩

end ResponseTime

theorem responseTimeBoard_reactive (cbor : Minicbor) : (responseTimeBoard cbor).Reactive := by
  refine Board.reactive_of_invariant ResponseTime.Quiet ?_ ?_
  · exact ⟨⟨.inl rfl, rfl⟩, rfl, rfl⟩
  · intro s label s' quiet deaf taken
    exact ResponseTime.quiet_step quiet deaf taken

/-! ## A gateway loop with nothing to forward -/

/-- The frame this event takes off the air. -/
def GatewayEvent.frame : GatewayEvent → Option Frame
  | received (.done (.ok (frame, _))) => some frame
  | _ => none

/-- A device: `task_lora_gateway` with an empty forward channel.  Its results are taken
to be collected: its result channel is never full. -/
abbrev deviceBoard (cbor : Minicbor) : Board Frame where
  State := GatewayTask
  Label := GatewayEvent
  step s event := if event.taken = [] then s.step cbor event else none
  start := .init
  hears := GatewayEvent.frame
  airs := GatewayEvent.aired

namespace GatewayTask

variable {cbor : Minicbor} {s s' : GatewayTask} {event : GatewayEvent}

/-- Nothing is held and nothing is being handled. -/
structure Quiet (s : GatewayTask) : Prop where
  pc : s.pc = .receive ∨ s.pc = .backoff ∨ s.pc = .drain
  empty : s.pendingForward = none

theorem quiet_step (quiet : Quiet s) (deaf : event.frame = none) (untaken : event.taken = [])
    (rule : GatewayStep cbor s event s') : Quiet s' ∧ event.aired = [] := by
  obtain ⟨pc, empty⟩ := quiet
  have heardFrame : ∀ {rx : RadioRx} {e : LoraEnvelope}, rx.heard cbor = some e →
      (GatewayEvent.received rx).frame ≠ none := by
    intro rx e heard
    cases rx with
    | timeout => cases heard
    | done driver =>
      cases driver with
      | error failure => cases heard
      | ok received => simp [GatewayEvent.frame]
  cases rule with
  | ackMatched heard | openHeard heard | replyHeard heard | ignored heard =>
    exact absurd deaf (heardFrame heard)
  | radioError | timedOut | backedOff | polledEmpty => exact ⟨⟨by simp, empty⟩, rfl⟩
  | resent => cases empty
  | dequeued => cases untaken
  | opened | ackSent | replySent | successEnqueued | forwarded | forwardFailed | failureEnqueued =>
    simp at pc

end GatewayTask

theorem deviceBoard_reactive (cbor : Minicbor) : (deviceBoard cbor).Reactive := by
  refine Board.reactive_of_invariant GatewayTask.Quiet ?_ ?_
  · exact ⟨.inl rfl, rfl⟩
  · intro s event s' quiet deaf taken
    obtain ⟨untaken, taken⟩ := Option.ite_none_right_eq_some.mp taken
    exact GatewayTask.quiet_step quiet deaf untaken (GatewayTask.step_iff.mp taken)

/-! ## Together -/

/-- What a board of a fleet runs. -/
inductive Program where
  | responseTime
  | device
  /-- Anything else that has a radio. -/
  | other (board : Board Frame)

def Program.board (cbor : Minicbor) : Program → Board Frame
  | responseTime => responseTimeBoard cbor
  | device => deviceBoard cbor
  | other board => board

theorem Program.reactive {cbor : Minicbor} {program : Program}
    (known : ∀ board, program ≠ .other board) : (program.board cbor).Reactive := by
  cases program with
  | responseTime => exact responseTimeBoard_reactive cbor
  | device => exact deviceBoard_reactive cbor
  | other board => exact absurd rfl (known board)

/-- **Boards with these two programs never speak first**: while no other board of the
fleet has transmitted, none of them has, however many they are and whatever the medium
does. -/
theorem silent_boards {ι : Type*} [DecidableEq ι] {cbor : Minicbor} {medium : Medium Frame}
    (programs : ι → Program) {s : Fleet fun i => (programs i).board cbor}
    {tr : List (FleetLabel fun i => (programs i).board cbor)}
    (ran : run (Fleet.step medium) Fleet.start tr = some s)
    (others : ∀ i l, .act i l ∈ tr → ∀ board, programs i = .other board →
      ((programs i).board cbor).airs l = []) :
    Fleet.Silent tr s := by
  refine Fleet.silent_of_run ran ?_
  intro i l member unreactive
  by_cases known : ∀ board, programs i ≠ .other board
  · exact absurd (Program.reactive known) unreactive
  · simp only [not_forall, not_not] at known
    obtain ⟨board, other⟩ := known
    exact others i l member board other

/-- A measuring board, a device, and a third board. -/
def threePrograms : Option Bool → Program
  | some false => .responseTime
  | some true => .device
  | none => .other (deviceBoard .reference)

/-- One poll of each; the third hears nothing of the others either. -/
def threePolls : List (FleetLabel fun i => (threePrograms i).board .reference) :=
  [.act (some false) (ResponseLabel.receive .rngLocked),
    .act (some false) (ResponseLabel.receive .locked),
    .act (some false) (ResponseLabel.receive (.received .timeout 5000000)),
    .act (some true) (GatewayEvent.received .timeout),
    .act (some true) (GatewayEvent.polled none), .act none (GatewayEvent.received .timeout)]

theorem three_boards_silent :
    ∃ s, run (Fleet.step .adversarial) Fleet.start threePolls = some s ∧
      Fleet.Silent threePolls s := by
  have runs : (run (Fleet.step .adversarial) Fleet.start threePolls).isSome := by rfl
  obtain ⟨s, ran⟩ := Option.isSome_iff_exists.mp runs
  refine ⟨s, ran, silent_boards threePrograms ran ?_⟩
  intro i l member board other
  cases i with
  | some known => cases known <;> cases other
  | none =>
    -- the third board took one step, and heard nothing in it
    simp only [threePolls, List.mem_cons, List.not_mem_nil, or_false] at member
    rcases member with is | is | is | is | is | is <;> cases is
    rfl

end HaviliarIot
