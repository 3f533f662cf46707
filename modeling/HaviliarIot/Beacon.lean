import HaviliarIot.Boards
import HaviliarIot.Readout

/-!
`bin/lora-display.rs`: a beacon that counts.

The main loop shows a counter, transmits it and increments it.  It keeps the guard of
the LoRa mutex until the end of the iteration, so past the pause.  `task_receive` logs
what it hears; `task_send` waits on a channel that nothing is sent to.

Whatever the scheduler does, the beacons a run transmits are numbered from zero without
a gap, each of them fits its frame, and the display shows how many there were before
(`counted_of_run`).
-/

namespace HaviliarIot

open Runs

/-! ## The main loop -/

/-- Where the loop of `main` stands. -/
inductive BeaconPc where
  | clear
  /-- The texts are drawn, and the clock is read. -/
  | draw
  /-- In `lora_controller_mutex.lock()`. -/
  | lock (timestampMs : UInt32)
  | send (timestampMs : UInt32)
  /-- In `Timer::after_millis(5000)`, with the guard. -/
  | pause
  deriving DecidableEq

structure Beacon where
  pc : BeaconPc
  counter : UInt32
  txSeq : UInt16
  deriving DecidableEq

inductive BeaconEvent where
  /-- `display.clear()`; a failure starts the iteration over. -/
  | cleared (ok : Bool)
  | drawn (counter : UInt32) (now : UInt64)
  | locked
  /-- `lora_ref.send_message(..)`, as the envelope of its arguments. -/
  | sent (envelope : LoraEnvelope) (driver : Except RadioError Unit)
  | slept
  deriving DecidableEq

namespace Beacon

def init : Beacon := ⟨.clear, 0, 0⟩

/-- The arguments of `send_message`; `payload` is `[counter as u8; MAX_APP_PAYLOAD]`. -/
def message (counter : UInt32) (txSeq : UInt16) (timestampMs : UInt32) : LoraEnvelope :=
  .new .Counter txSeq timestampMs 0 (List.replicate maxAppPayload counter.toUInt8)

def holdsLora : Beacon → Bool
  | ⟨.send _, _, _⟩ | ⟨.pause, _, _⟩ => true
  | _ => false

/-- One event of the main loop; `counter += 1` wraps. -/
def step (s : Beacon) (event : BeaconEvent) : Option Beacon :=
  match s.pc, event with
  | .clear, .cleared ok => some { s with pc := if ok then .draw else .clear }
  | .draw, .drawn counter now =>
    if counter = s.counter then some { s with pc := .lock (ReceiveTask.timestamp now) } else none
  | .lock timestampMs, .locked => some { s with pc := .send timestampMs }
  | .send timestampMs, .sent envelope _ =>
    -- the result is dropped
    if envelope = message s.counter s.txSeq timestampMs then
      some { s with pc := .pause, counter := s.counter + 1 }
    else none
  | .pause, .slept => some { s with pc := .clear }
  | _, _ => none

end Beacon

/-- The steps of the main loop, one rule for each branch. -/
inductive BeaconStep (s : Beacon) : BeaconEvent → Beacon → Prop where
  | cleared {ok : Bool} : s.pc = .clear →
      BeaconStep s (.cleared ok) { s with pc := if ok then .draw else .clear }
  | drawn {now : UInt64} : s.pc = .draw →
      BeaconStep s (.drawn s.counter now) { s with pc := .lock (ReceiveTask.timestamp now) }
  | locked {timestampMs : UInt32} : s.pc = .lock timestampMs →
      BeaconStep s .locked { s with pc := .send timestampMs }
  | sent {timestampMs : UInt32} {driver : Except RadioError Unit} : s.pc = .send timestampMs →
      BeaconStep s (.sent (Beacon.message s.counter s.txSeq timestampMs) driver)
        { s with pc := .pause, counter := s.counter + 1 }
  | slept : s.pc = .pause → BeaconStep s .slept { s with pc := .clear }

/-- The rules are the step function. -/
theorem Beacon.beacon_iff {s s' : Beacon} {event : BeaconEvent} :
    s.step event = some s' ↔ BeaconStep s event s' := by
  obtain ⟨pc, counter, txSeq⟩ := s
  constructor
  · intro taken
    cases pc with
    | clear =>
      cases event with
      | cleared =>
        cases taken
        exact .cleared rfl
      | _ => cases taken
    | draw =>
      cases event with
      | drawn =>
        obtain ⟨rfl, same⟩ := Option.ite_none_right_eq_some.mp taken
        cases same
        exact .drawn rfl
      | _ => cases taken
    | lock =>
      cases event with
      | locked =>
        cases taken
        exact .locked rfl
      | _ => cases taken
    | send =>
      cases event with
      | sent =>
        obtain ⟨rfl, same⟩ := Option.ite_none_right_eq_some.mp taken
        cases same
        exact .sent rfl
      | _ => cases taken
    | pause =>
      cases event with
      | slept =>
        cases taken
        exact .slept rfl
      | _ => cases taken
  · intro rule
    cases rule with
    | cleared stands | locked stands | slept stands =>
      cases stands
      rfl
    | drawn stands | sent stands =>
      cases stands
      exact if_pos rfl

/-- What an event of the main loop draws; `none` is a panic. -/
def BeaconEvent.draws : BeaconEvent → Option (List Drawing)
  | drawn counter _ => do
    let text ← counterText counter
    some [Display.textNewLine "LoRa + Display OK!".toList 1,
      Display.textNewLine "Contador:".toList 2, Display.textNewLine text.text 3]
  | _ => some []

/-! ## task_receive and task_send -/

/-- Where `task_receive` stands. -/
inductive ListenPc where
  /-- In the first `Timer::after_millis(100)`. -/
  | init
  | lock
  | receive
  /-- In the second; the guard is dropped before it. -/
  | pause
  deriving DecidableEq

inductive ListenEvent where
  | waited
  | locked
  | received (driver : Except RadioError (List UInt8 × PacketStatus))
  | slept
  deriving DecidableEq

/-- One event of `task_receive`, which only logs what `receive_message` returns. -/
def ListenPc.step (pc : ListenPc) (event : ListenEvent) : Option ListenPc :=
  match pc, event with
  | .init, .waited => some .lock
  | .lock, .locked => some .receive
  | .receive, .received _ => some .pause
  | .pause, .slept => some .init
  | _, _ => none

/-- `OutgoingMessage`. -/
abbrev OutgoingMessage := OutgoingFrame payloadLength

/-- Where `task_send` stands. -/
inductive RelayPc where
  | receive
  | lock (message : OutgoingMessage)
  | send (message : OutgoingMessage)
  deriving DecidableEq

inductive RelayEvent where
  | taken (message : OutgoingMessage)
  | locked
  | sent (envelope : LoraEnvelope) (driver : Except RadioError Unit) (now : UInt64)
  deriving DecidableEq

/-- One event of `task_send`; the guard is a temporary of the `send_message` statement. -/
def RelayPc.step (pc : RelayPc) (event : RelayEvent) : Option RelayPc :=
  match pc, event with
  | .receive, .taken message => some (.lock message)
  | .lock message, .locked => some (.send message)
  | .send message, .sent envelope _ now =>
    if envelope = .new .Counter 1 (ReceiveTask.asMillis now).toUInt32 0 message.asSlice then
      some .receive
    else none
  | _, _ => none

/-- What an event of `task_send` does to the channel. -/
def RelayEvent.drain (channel : Channel OutgoingMessage 1) :
    RelayEvent → Option (Channel OutgoingMessage 1)
  | taken message => channel.take message
  | _ => some channel

/-! ## The program -/

structure DisplayNode where
  main : Beacon
  receive : ListenPc
  send : RelayPc
  channel : Channel OutgoingMessage 1
  deriving DecidableEq

inductive DisplayNodeLabel where
  | main (event : BeaconEvent)
  | receive (event : ListenEvent)
  | send (event : RelayEvent)
  deriving DecidableEq

namespace DisplayNode

def init : DisplayNode := ⟨.init, .init, .receive, .empty⟩

/-- No task holds the LoRa mutex. -/
def LoraFree (s : DisplayNode) : Prop :=
  s.main.holdsLora = false ∧ s.receive ≠ .receive ∧ ∀ message, s.send ≠ .send message

instance (s : DisplayNode) : Decidable s.LoraFree :=
  have : Decidable (∀ message, s.send ≠ .send message) :=
    match s.send with
    | .send message => isFalse fun none => none message rfl
    | .receive | .lock _ => isTrue (by simp)
  inferInstanceAs (Decidable (_ ∧ _ ∧ _))

/-- One event of one task. -/
def step (s : DisplayNode) : DisplayNodeLabel → Option DisplayNode
  | .main event =>
    if event = .locked → s.LoraFree then (s.main.step event).map fun main => { s with main }
    else none
  | .receive event =>
    if event = .locked → s.LoraFree then
      (s.receive.step event).map fun next => { s with receive := next }
    else none
  | .send event =>
    if event = .locked → s.LoraFree then
      (s.send.step event).bind fun send =>
        (event.drain s.channel).map fun channel => { s with send, channel }
    else none

variable {s s' : DisplayNode}

theorem step_main {event : BeaconEvent} :
    step s (.main event) = some s' ↔ (event = .locked → s.LoraFree) ∧
      ∃ main, BeaconStep s.main event main ∧ { s with main } = s' := by
  simp only [step, Option.ite_none_right_eq_some, Option.map_eq_some_iff, Beacon.beacon_iff]

theorem step_receive {event : ListenEvent} :
    step s (.receive event) = some s' ↔ (event = .locked → s.LoraFree) ∧
      ∃ next, s.receive.step event = some next ∧ { s with receive := next } = s' := by
  simp only [step, Option.ite_none_right_eq_some, Option.map_eq_some_iff]

theorem step_send {event : RelayEvent} :
    step s (.send event) = some s' ↔ (event = .locked → s.LoraFree) ∧
      ∃ send, s.send.step event = some send ∧
        ∃ channel, event.drain s.channel = some channel ∧ { s with send, channel } = s' := by
  simp only [step, Option.ite_none_right_eq_some, Option.bind_eq_some_iff, Option.map_eq_some_iff]

end DisplayNode

/-- The frame this label takes off the air. -/
def DisplayNodeLabel.hears : DisplayNodeLabel → Option Frame
  | receive (.received (.ok (frame, _))) => some frame
  | _ => none

/-- The frames this label puts on the air. -/
def DisplayNodeLabel.airs : DisplayNodeLabel → List Frame
  | main (.sent e (.ok ())) | send (.sent e (.ok ()) _) =>
    (LoraController.sendMessage (.ok ()) e.msgType e.seq e.timestampMs e.elapsedMs
      e.payload).handed.toList
  | _ => []

/-- A board that runs `lora-display`. -/
abbrev displayNodeBoard : Board Frame where
  State := DisplayNode
  Label := DisplayNodeLabel
  step := DisplayNode.step
  start := .init
  hears := DisplayNodeLabel.hears
  airs := DisplayNodeLabel.airs

namespace DisplayNode

variable {s s' : DisplayNode} {label : DisplayNodeLabel} {tr : List DisplayNodeLabel}
  {e : LoraEnvelope}

/-! ## Counting -/

/-- The envelope this label hands to the radio for a beacon. -/
def beacon : DisplayNodeLabel → List LoraEnvelope
  | .main (.sent envelope _) => [envelope]
  | _ => []

/-- What the main loop handed to the radio, in order. -/
def beacons (tr : List DisplayNodeLabel) : List LoraEnvelope := tr.flatMap beacon

/-- The counter counts the beacons, and `task_send` never gets anything to send. -/
structure Counting (tr : List DisplayNodeLabel) (s : DisplayNode) : Prop where
  counter : s.main.counter = UInt32.ofNat (beacons tr).length
  txSeq : s.main.txSeq = 0
  send : s.send = .receive
  channel : s.channel.queue = []

theorem counting_step (counting : Counting tr s) (taken : step s label = some s') :
    Counting (tr ++ [label]) s' := by
  obtain ⟨counter, txSeq, send, channel⟩ := counting
  have same : beacon label = [] → (beacons (tr ++ [label])).length = (beacons tr).length := by
    intro none
    rw [beacons, List.flatMap_append, List.flatMap_singleton, none, List.append_nil, beacons]
  cases label with
  | main event =>
    obtain ⟨-, main, rule, rfl⟩ := step_main.mp taken
    cases rule with
    | sent =>
      refine ⟨?_, txSeq, send, channel⟩
      simp only [counter, beacons, List.flatMap_append, List.flatMap_singleton, beacon,
        List.length_append, List.length_singleton, UInt32.ofNat_add]
      rfl
    | cleared | drawn | locked | slept => exact ⟨by rw [same rfl]; exact counter, txSeq, send, channel⟩
  | receive event =>
    obtain ⟨-, next, -, rfl⟩ := step_receive.mp taken
    exact ⟨by rw [same rfl]; exact counter, txSeq, send, channel⟩
  | send event =>
    obtain ⟨-, next, stepped, rest, drained, rfl⟩ := step_send.mp taken
    rw [send] at stepped
    cases event with
    | taken message =>
      have queue := Channel.take_eq_some.mp drained
      rw [channel] at queue
      cases queue
    | locked | sent => cases stepped

theorem counting_of_run (ran : run step init tr = some s) : Counting tr s := by
  refine run_induction (P := Counting) ⟨rfl, rfl, rfl, rfl⟩ ?_ ran
  intro tr s label s' _ counting taken
  exact counting_step counting taken

/-- A beacon always fits its frame. -/
theorem message_fits (counter : UInt32) (txSeq : UInt16) (timestampMs : UInt32) :
    (Beacon.message counter txSeq timestampMs).intoOutgoing.isSome := by
  rw [encodable_iff]
  exact Nat.le_of_eq List.length_replicate

/-- What the main loop hands to the radio is the beacon of the moment. -/
theorem sent_beacon {before after : List DisplayNodeLabel} {driver}
    (ran : run step init (before ++ .main (.sent e driver) :: after) = some s) :
    ∃ timestampMs, e = Beacon.message (UInt32.ofNat (beacons before).length) 0 timestampMs := by
  obtain ⟨mid, _, first, taken, -⟩ := run_at ran
  have counting := counting_of_run first
  obtain ⟨-, main, rule, -⟩ := step_main.mp taken
  cases rule with
  | @sent timestampMs =>
    refine ⟨timestampMs, ?_⟩
    rw [counting.counter, counting.txSeq]

/-- And nothing else goes on the air. -/
theorem aired_beacon (cbor : Minicbor) {frame : Frame} (ran : run step init tr = some s)
    (member : label ∈ tr) (onAir : frame ∈ label.airs) :
    ∃ e, label = .main (.sent e (.ok ())) ∧ LoraParser.decodeEnvelope cbor frame = some e := by
  obtain ⟨before, after, rfl⟩ := List.append_of_mem member
  obtain ⟨mid, _, first, taken, -⟩ := run_at ran
  cases label with
  | receive => cases onAir
  | send event =>
    obtain ⟨-, next, stepped, -⟩ := step_send.mp taken
    rw [(counting_of_run first).send] at stepped
    cases event with
    | taken | locked => cases onAir
    | sent => cases stepped
  | main event =>
    obtain ⟨-, main, rule, -⟩ := step_main.mp taken
    cases rule with
    | cleared | drawn | locked | slept => cases onAir
    | @sent timestampMs driver =>
      cases driver with
      | error => cases onAir
      | ok =>
        have fits := message_fits mid.main.counter mid.main.txSeq timestampMs
        simp only [DisplayNodeLabel.airs, LoraController.sendMessage_rebuilt
          (e := Beacon.message _ _ _) rfl, LoraController.sendMessageEnvelope_fits fits,
          Option.toList_some, List.mem_singleton] at onAir
        refine ⟨_, rfl, ?_⟩
        rw [onAir]
        exact LoraController.decodeEnvelope_of_fits cbor fits

/-- What the beacon of a run looks like from outside. -/
structure Counted (cbor : Minicbor) (tr : List DisplayNodeLabel) : Prop where
  /-- The beacons are numbered from zero, up to the width of the counter. -/
  numbered : ∀ before e driver after, tr = before ++ .main (.sent e driver) :: after →
    ∃ timestampMs, e = Beacon.message (UInt32.ofNat (beacons before).length) 0 timestampMs
  /-- Line 3 shows how many there were, and no text panics. -/
  shown : ∀ before counter now after, tr = before ++ .main (.drawn counter now) :: after →
    ∃ text, Display.onLine (BeaconEvent.drawn counter now).draws 3 = [text] ∧
      readCounter text = some ((beacons before).length % 4294967296)
  /-- Nothing else is transmitted, and every frame decodes to its beacon. -/
  aired : ∀ label ∈ tr, ∀ frame ∈ label.airs, ∃ e, label = .main (.sent e (.ok ())) ∧
    LoraParser.decodeEnvelope cbor frame = some e

/-- **The beacons are the numbers from zero on**, in every run. -/
theorem counted_of_run (cbor : Minicbor) (ran : run step init tr = some s) : Counted cbor tr := by
  refine ⟨?_, ?_, fun label member frame onAir => aired_beacon cbor ran member onAir⟩
  · rintro before e driver after rfl
    exact sent_beacon ran
  · rintro before counter now after rfl
    obtain ⟨mid, _, first, taken, -⟩ := run_at ran
    have counting := counting_of_run first
    obtain ⟨-, main, rule, -⟩ := step_main.mp taken
    cases rule with
    | drawn =>
      obtain ⟨text, shown, is⟩ := counterText_eq mid.main.counter
      refine ⟨text.text, ?_, ?_⟩
      · simp [Display.onLine, BeaconEvent.draws, shown, Display.textNewLine, Display.textNoClear]
      · rw [is, readCounter_print, counting.counter, UInt32.toNat_ofNat']

/-- Two beacons, while `task_receive` waits for the mutex. -/
def twoBeacons : List DisplayNodeLabel :=
  [.main (.cleared false), .main (.cleared true), .main (.drawn 0 1000000), .main .locked,
    .receive .waited, .main (.sent (Beacon.message 0 0 1000) (.ok ())), .main .slept,
    .main (.cleared true), .main (.drawn 1 6100000), .main .locked,
    .main (.sent (Beacon.message 1 0 6100) (.ok ()))]

theorem counted_of_twoBeacons : Counted .reference twoBeacons := by
  have runs : (run step init twoBeacons).isSome := by decide +kernel
  obtain ⟨s, ran⟩ := Option.isSome_iff_exists.mp runs
  exact counted_of_run .reference ran

end DisplayNode

end HaviliarIot
