import HaviliarIot.ResponseTime
import Mathlib.Data.List.Basic

/-!
What `bin/lora_response_time.rs` measures, and what its display shows.

`task_receive` keeps a few counters of fixed width and the time of its last
response.  A `Journal` is what an observer of its events would write down instead,
without bounds: every frame answered, with the times of its receipt and of its
confirmation, and how many losses were reported.  The counters are the journal's
sums, saturated (`measured_of_run`).

The guards of what was written are kept until the reply is confirmed, so the display
never sees a measurement that may still be cut short: in every run it shows the last
frame whose answer was confirmed, and the losses whose report was (`shown_of_run`).
-/

namespace HaviliarIot

open Runs ReceiveTask

theorem saturatingAdd_toNat (a b : UInt32) :
    (saturatingAdd a b).toNat = min 4294967295 (a.toNat + b.toNat) := by
  have last : (4294967295 : UInt32).toNat = 4294967295 := rfl
  have bound := UInt32.toNat_lt b
  have room : (4294967295 - b).toNat = 4294967295 - b.toNat :=
    UInt32.toNat_sub_of_le _ _ (by rw [UInt32.le_iff_toNat_le]; omega)
  unfold saturatingAdd
  split
  · rename_i fits
    rw [UInt32.le_iff_toNat_le, room] at fits
    rw [UInt32.toNat_add]
    omega
  · rename_i exceeds
    rw [UInt32.le_iff_toNat_le, room] at exceeds
    omega

theorem saturatingAdd64_toNat (a b : UInt64) :
    (saturatingAdd64 a b).toNat = min 18446744073709551615 (a.toNat + b.toNat) := by
  have last : (18446744073709551615 : UInt64).toNat = 18446744073709551615 := rfl
  have bound := UInt64.toNat_lt b
  have room : (18446744073709551615 - b).toNat = 18446744073709551615 - b.toNat :=
    UInt64.toNat_sub_of_le _ _ (by rw [UInt64.le_iff_toNat_le]; omega)
  unfold saturatingAdd64
  split
  · rename_i fits
    rw [UInt64.le_iff_toNat_le, room] at fits
    rw [UInt64.toNat_add]
    omega
  · rename_i exceeds
    rw [UInt64.le_iff_toNat_le, room] at exceeds
    omega

/-! ## The journal -/

/-- A frame heard. -/
structure Hearing where
  seq : UInt16
  rssi : Int16
  heardAt : UInt64
  /-- When its elapsed time was read; until then, when it was heard. -/
  readAt : UInt64
  deriving DecidableEq

/-- A frame heard, and when its reply was confirmed. -/
structure Answer extends Hearing where
  confirmedAt : UInt64
  deriving DecidableEq

structure Journal where
  /-- The frames answered, oldest first. -/
  answered : List Answer
  /-- The frame being answered. -/
  current : Option Hearing
  /-- How many losses were reported. -/
  reported : Nat
  deriving DecidableEq

/-- The frame a receive delivers. -/
def RadioRx.delivered (cbor : Minicbor) (now : UInt64) : RadioRx → Option Hearing
  | done driver =>
    match LoraController.receiveMessage cbor driver with
    | .ok (envelope, status) => some ⟨envelope.seq, status.rssi, now, now⟩
    | .error _ => none
  | timeout => none

namespace Journal

def empty : Journal := ⟨[], none, 0⟩

/-- What the observer adds for an event. -/
def note (cbor : Minicbor) (j : Journal) : ReceiveEvent → Journal
  | .received rx now => { j with current := rx.delivered cbor now }
  | .rssiLocked now => { j with current := j.current.map fun h => { h with readAt := now } }
  | .ackReceived now =>
    match j.current with
    | some h => { j with answered := j.answered ++ [⟨h, now⟩], current := none }
    | none => { j with reported := j.reported + 1 }
  | _ => j

/-- The journal of a trace. -/
def of (cbor : Minicbor) (events : List ReceiveEvent) : Journal := events.foldl (note cbor) empty

/-- Each frame answered, with the answer before it. -/
def successions (answered : List Answer) : List (Option Answer × Hearing) :=
  (none :: answered.map some).zip (answered.map Answer.toHearing)

/-- The same, with the frame being answered. -/
def waits (j : Journal) : List (Option Answer × Hearing) :=
  successions j.answered ++ (j.current.map fun h => (j.answered.getLast?, h)).toList

/-- The response times, in milliseconds: from the confirmation of an answer to the
next frame. -/
def responseTimes (j : Journal) : List UInt64 :=
  j.waits.filterMap fun (last, h) => last.map fun answer => asMillis (h.heardAt - answer.confirmedAt)

/-- The elapsed time of a frame as the program keeps it, cut to 32 bits. -/
def elapsed (wait : Option Answer × Hearing) : UInt32 :=
  match wait with
  | (some answer, h) => (asMillis (h.readAt - answer.confirmedAt)).toUInt32
  | (none, _) => 0

private theorem zip_snoc (first : Option Answer) (earlier : List Answer) (last : Answer) :
    (first :: (earlier ++ [last]).map some).zip ((earlier ++ [last]).map Answer.toHearing) =
      (first :: earlier.map some).zip (earlier.map Answer.toHearing) ++
        [(earlier.getLast?.elim first some, last.toHearing)] := by
  induction earlier generalizing first with
  | nil => rfl
  | cons answer rest ih =>
    have newest : rest.getLast?.elim (some answer) some = (answer :: rest).getLast?.elim first some := by
      rw [List.getLast?_cons]
      cases rest.getLast? <;> rfl
    simp only [List.cons_append, List.map_cons, List.zip_cons_cons, ih, newest]

/-- An answer follows the one before it. -/
theorem successions_snoc (answered : List Answer) (answer : Answer) :
    successions (answered ++ [answer]) =
      successions answered ++ [(answered.getLast?, answer.toHearing)] := by
  rw [successions, zip_snoc, ← successions]
  cases answered.getLast? <;> rfl

variable {j : Journal} {h : Hearing}

/-- Between two frames, the waits are those of the answers. -/
theorem waits_none (idle : j.current = none) : j.waits = successions j.answered := by
  simp [waits, idle]

theorem waits_some (held : j.current = some h) :
    j.waits = successions j.answered ++ [(j.answered.getLast?, h)] := by
  simp [waits, held]

/-- The waits whose measurement is written: the last one only while its guard is held. -/
def written (j : Journal) (held : Bool) : List (Option Answer × Hearing) :=
  if held then j.waits else successions j.answered

/-- The RSSI of the last of these frames; zero before the first. -/
def lastRssi (waits : List (Option Answer × Hearing)) : UInt16 :=
  (waits.getLast?.map fun wait => wait.2.rssi.toUInt16).getD 0

/-- The elapsed time of the last of these frames; zero before the first. -/
def lastElapsed (waits : List (Option Answer × Hearing)) : UInt32 :=
  (waits.getLast?.map elapsed).getD 0

/-- Confirming an answer adds no wait. -/
theorem waits_confirmed (held : j.current = some h) (now : UInt64) :
    waits ⟨j.answered ++ [⟨h, now⟩], none, j.reported⟩ = j.waits := by
  rw [waits_none rfl, waits_some held, successions_snoc]

/-- A frame adds the response time since the last answer, if there is one. -/
theorem responseTimes_heard (idle : j.current = none) (h : Hearing) :
    responseTimes { j with current := some h } = j.responseTimes ++
      (j.answered.getLast?.map fun answer => asMillis (h.heardAt - answer.confirmedAt)).toList := by
  have after : waits { j with current := some h } =
      successions j.answered ++ [(j.answered.getLast?, h)] := waits_some rfl
  rw [responseTimes, responseTimes, waits_none idle, after, List.filterMap_append]
  cases j.answered.getLast? <;> rfl

/-- Reading the clock again does not change the response time. -/
theorem responseTimes_read (j : Journal) (now : UInt64) :
    responseTimes { j with current := j.current.map fun h => { h with readAt := now } } =
      j.responseTimes := by
  cases held : j.current with
  | none => rw [Option.map_none, ← held]
  | some h =>
    have after : waits { j with current := some { h with readAt := now } } =
        successions j.answered ++ [(j.answered.getLast?, { h with readAt := now })] := waits_some rfl
    rw [Option.map_some, responseTimes, responseTimes, waits_some held, after,
      List.filterMap_append, List.filterMap_append]
    cases j.answered.getLast? <;> rfl

/-- A poll that delivers nothing changes nothing, when nothing is being answered. -/
theorem note_silent {cbor : Minicbor} {rx : RadioRx} {now : UInt64} (idle : j.current = none)
    (silent : rx.delivered cbor now = none) : j.note cbor (.received rx now) = j := by
  rw [note, silent, ← idle]

end Journal

/-! ## What the program keeps -/

namespace ReceivePc

/-- The number of the frame being answered. -/
def answering : ReceivePc → Option UInt16
  | rssi seq .. | elapsed seq .. | enqueue (.answered seq) _ | waitAck (.answered seq) => some seq
  | _ => none

/-- A loss counted by the task and not confirmed. -/
def losing : ReceivePc → Nat
  | lostCounter _ | enqueue .lost _ | waitAck .lost => 1
  | _ => 0

end ReceivePc

/-- `_avg_ms`. -/
def ReceiveTask.avgMs (s : ReceiveTask) : UInt64 :=
  if s.responseSamples > 0 then s.totalResponseMs / s.responseSamples.toUInt64 else 0

/-- The task keeps what the journal has, as far as its integers reach. -/
structure Measured (j : Journal) (s : ReceiveTask) : Prop where
  current : j.current.map Hearing.seq = s.pc.answering
  lastResponse : s.lastResponseAt = j.answered.getLast?.map Answer.confirmedAt
  lastSeq : s.lastSentSeq = j.answered.getLast?.map fun answer => answer.seq
  total : s.totalResponseMs.toNat =
    min 18446744073709551615 (j.responseTimes.map UInt64.toNat).sum
  samples : s.responseSamples.toNat = min 4294967295 j.responseTimes.length
  lost : s.lostPackets.toNat = min 4294967295 (j.reported + s.pc.losing)

namespace Measured

variable {cbor : Minicbor} {j : Journal} {s s' : ReceiveTask} {stats stats' : Statistics}
  {event : ReceiveEvent}

theorem init : Measured .empty .init :=
  ⟨rfl, rfl, rfl, rfl, rfl, rfl⟩

/-- Nothing changes for the journal. -/
theorem move (measured : Measured j s) {pc : ReceivePc} (answering : pc.answering = s.pc.answering)
    (losing : pc.losing = s.pc.losing) : Measured j { s with pc } := by
  obtain ⟨current, lastResponse, lastSeq, total, samples, lost⟩ := measured
  exact ⟨current.trans answering.symm, lastResponse, lastSeq, total, samples,
    lost.trans (by rw [← losing])⟩

/-- No frame is being answered. -/
theorem idle (measured : Measured j s) (resting : s.pc.answering = none) : j.current = none := by
  have current := measured.current
  rw [resting] at current
  exact Option.map_eq_none_iff.mp current

/-- A frame is being answered. -/
theorem held (measured : Measured j s) {seq : UInt16} (answering : s.pc.answering = some seq) :
    ∃ h, j.current = some h ∧ h.seq = seq := by
  have current := measured.current
  rw [answering] at current
  exact Option.map_eq_some_iff.mp current

/-- A frame is heard: the wait since the last answer is a sample. -/
theorem heard (measured : Measured j s) (resting : s.pc.answering = none) (losing : s.pc.losing = 0)
    (h : Hearing) (rssi : UInt16) (timestampMs : UInt32) :
    Measured { j with current := some h }
      { s.sample h.heardAt with pc := .rssi h.seq rssi timestampMs } := by
  have responses := Journal.responseTimes_heard (measured.idle resting) h
  obtain ⟨-, lastResponse, lastSeq, total, samples, lost⟩ := measured
  rw [losing] at lost
  cases answered : j.answered.getLast? with
  | none =>
    rw [answered] at responses lastResponse
    have same : s.sample h.heardAt = s := by simp [sample, lastResponse]
    rw [same]
    refine ⟨rfl, ?_, lastSeq, ?_, ?_, lost⟩
    · rw [answered]
      exact lastResponse
    · simpa [responses] using total
    · simpa [responses] using samples
  | some answer =>
    rw [answered] at responses lastResponse
    have sampled : s.sample h.heardAt = { s with
        totalResponseMs := saturatingAdd64 s.totalResponseMs
          (asMillis (h.heardAt - answer.confirmedAt))
        responseSamples := saturatingAdd s.responseSamples 1 } := by
      simp [sample, sinceLast, lastResponse]
    rw [sampled]
    refine ⟨rfl, ?_, lastSeq, ?_, ?_, lost⟩
    · rw [answered]
      exact lastResponse
    · simp only [responses, saturatingAdd64_toNat, total, List.map_append, List.sum_append,
        Option.map_some, Option.toList_some, List.map_singleton, List.sum_singleton]
      omega
    · simp only [responses, saturatingAdd_toNat, samples, List.length_append, Option.map_some,
        Option.toList_some, List.length_singleton, UInt32.toNat_one]
      omega

theorem step (measured : Measured j s) (rule : ReceiveStep cbor s stats event s' stats') :
    Measured (j.note cbor event) s' := by
  cases rule with
  | rngLocked stands | locked stands | elapsedLocked stands | lostLocked stands | backedOff stands =>
    exact measured.move (by rw [stands]; rfl) (by rw [stands]; rfl)
  | @enqueued branch message stands =>
    cases branch <;> exact measured.move (by rw [stands]; rfl) (by rw [stands]; rfl)
  | @heard driver now envelope status stands result =>
    have delivered : (RadioRx.done driver).delivered cbor now =
        some ⟨envelope.seq, status.rssi, now, now⟩ := by
      simp only [RadioRx.delivered, result]
    rw [Journal.note, delivered]
    exact measured.heard (by rw [stands]; rfl) (by rw [stands]; rfl)
      ⟨envelope.seq, status.rssi, now, now⟩ _ _
  | @failed driver now e stands result =>
    have silent : (RadioRx.done driver).delivered cbor now = none := by
      simp only [RadioRx.delivered, result]
    rw [Journal.note_silent (measured.idle (by rw [stands]; rfl)) silent]
    exact measured.move (by rw [stands]; rfl) (by rw [stands]; rfl)
  | timedOut stands missing =>
    rw [Journal.note_silent (measured.idle (by rw [stands]; rfl)) rfl]
    exact measured.move (by rw [stands]; rfl) (by rw [stands]; rfl)
  | unanswered stands responded numbered =>
    have idle := measured.idle (by rw [stands]; rfl)
    rw [Journal.note_silent idle rfl]
    obtain ⟨current, lastResponse, lastSeq, total, samples, lost⟩ := measured
    refine ⟨by rw [idle]; rfl, lastResponse, lastSeq, total, samples, ?_⟩
    rw [stands] at lost
    simp only [ReceivePc.losing] at lost
    simp only [saturatingAdd_toNat, lost, ReceivePc.losing, UInt32.toNat_one]
    omega
  | @rssiLocked seq rssi timestampMs now stands =>
    obtain ⟨current, lastResponse, lastSeq, total, samples, lost⟩ := measured
    rw [stands] at current lost
    refine ⟨?_, lastResponse, lastSeq, ?_, ?_, lost⟩
    · rw [Journal.note, Option.map_map]
      exact current
    · rw [Journal.note, Journal.responseTimes_read]
      exact total
    · rw [Journal.note, Journal.responseTimes_read]
      exact samples
  | @answerConfirmed seq now stands =>
    obtain ⟨h, held, rfl⟩ := measured.held (by rw [stands]; rfl)
    obtain ⟨current, lastResponse, lastSeq, total, samples, lost⟩ := measured
    rw [stands] at lost
    have confirmed : j.note cbor (.ackReceived now) =
        ⟨j.answered ++ [⟨h, now⟩], none, j.reported⟩ := by
      simp only [Journal.note, held]
    have responses : Journal.responseTimes ⟨j.answered ++ [⟨h, now⟩], none, j.reported⟩ =
        j.responseTimes := by
      rw [Journal.responseTimes, Journal.waits_confirmed held, ← Journal.responseTimes]
    rw [confirmed]
    refine ⟨rfl, ?_, ?_, ?_, ?_, lost⟩
    · rw [List.getLast?_concat]
      rfl
    · rw [List.getLast?_concat]
      rfl
    · rw [responses]
      exact total
    · rw [responses]
      exact samples
  | @lossConfirmed now stands =>
    have idle := measured.idle (by rw [stands]; rfl)
    obtain ⟨current, lastResponse, lastSeq, total, samples, lost⟩ := measured
    have confirmed : j.note cbor (.ackReceived now) = { j with reported := j.reported + 1 } := by
      simp only [Journal.note, idle]
    rw [confirmed]
    rw [stands] at lost
    exact ⟨by rw [idle]; rfl, lastResponse, lastSeq, total, samples, lost⟩

end Measured

/-! ## What the program shows -/

/-- What is behind the statistics mutexes, and what is about to be. -/
structure Filed (j : Journal) (pc : ReceivePc) (stats : Statistics) : Prop where
  rssi : stats.currentRssi = Journal.lastRssi (j.written pc.holdsRssi)
  elapsed : stats.elapsedTime = Journal.lastElapsed (j.written pc.holdsElapsed)
  lost : stats.packageLostCounter.toNat = min 4294967295 (j.reported + pc.holdsLost.toNat)
  rssiNext : ∀ seq rssi timestampMs, pc = .rssi seq rssi timestampMs →
    ∃ h, j.current = some h ∧ rssi = h.rssi.toUInt16
  elapsedNext : ∀ seq timestampMs elapsedMs, pc = .elapsed seq timestampMs elapsedMs →
    ∃ h, j.current = some h ∧ elapsedMs = Journal.elapsed (j.answered.getLast?, h)

namespace Filed

variable {cbor : Minicbor} {j j' : Journal} {pc pc' : ReceivePc} {s s' : ReceiveTask}
  {stats stats' : Statistics} {event : ReceiveEvent}

theorem init : Filed .empty .rng ⟨0, 0, 0⟩ :=
  ⟨rfl, rfl, rfl, by simp, by simp⟩

/-- No guard is taken or released, and nothing is confirmed. -/
theorem move (filed : Filed j pc stats) (rssi : pc'.holdsRssi = pc.holdsRssi)
    (elapsed : pc'.holdsElapsed = pc.holdsElapsed) (lost : pc'.holdsLost = pc.holdsLost)
    (next : pc'.answering = none ∨ pc'.holdsElapsed = true) : Filed j pc' stats := by
  refine ⟨?_, ?_, ?_, ?_, ?_⟩
  · rw [rssi]
    exact filed.rssi
  · rw [elapsed]
    exact filed.elapsed
  · rw [lost]
    exact filed.lost
  · rintro seq rssi timestampMs rfl
    rcases next with next | next <;> cases next
  · rintro seq timestampMs elapsedMs rfl
    rcases next with next | next <;> cases next

theorem step (filed : Filed j s.pc stats) (measured : Measured j s)
    (rule : ReceiveStep cbor s stats event s' stats') :
    Filed (j.note cbor event) s'.pc stats' := by
  cases rule with
  | rngLocked stands | locked stands | backedOff stands =>
    rw [stands] at filed
    exact filed.move rfl rfl rfl (.inl rfl)
  | @enqueued branch message stands =>
    rw [stands] at filed
    cases branch with
    | answered seq => exact filed.move rfl rfl rfl (.inr rfl)
    | lost => exact filed.move rfl rfl rfl (.inl rfl)
  | @heard driver now envelope status stands result =>
    have delivered : (RadioRx.done driver).delivered cbor now =
        some ⟨envelope.seq, status.rssi, now, now⟩ := by
      simp only [RadioRx.delivered, result]
    rw [Journal.note, delivered]
    rw [stands] at filed
    refine ⟨filed.rssi, filed.elapsed, filed.lost, ?_, by simp⟩
    intro seq rssi timestampMs here
    cases here
    exact ⟨_, rfl, rfl⟩
  | @failed driver now e stands result =>
    have silent : (RadioRx.done driver).delivered cbor now = none := by
      simp only [RadioRx.delivered, result]
    rw [Journal.note_silent (measured.idle (by rw [stands]; rfl)) silent]
    rw [stands] at filed
    exact filed.move rfl rfl rfl (.inl rfl)
  | timedOut stands missing | unanswered stands responded numbered =>
    rw [Journal.note_silent (measured.idle (by rw [stands]; rfl)) rfl]
    rw [stands] at filed
    exact filed.move rfl rfl rfl (.inl rfl)
  | @rssiLocked seq rssi timestampMs now stands =>
    obtain ⟨h, held, rfl⟩ := filed.rssiNext _ _ _ stands
    rw [stands] at filed
    rw [Journal.note, held, Option.map_some]
    refine ⟨?_, filed.elapsed, filed.lost, by simp, ?_⟩
    · simp [Journal.lastRssi, Journal.written, ReceivePc.holdsRssi, Journal.waits]
    · intro seq' timestampMs' elapsedMs here
      cases here
      refine ⟨_, rfl, ?_⟩
      rw [sinceLast, measured.lastResponse]
      cases j.answered.getLast? <;> rfl
  | @elapsedLocked seq timestampMs elapsedMs stands =>
    obtain ⟨h, held, rfl⟩ := filed.elapsedNext _ _ _ stands
    rw [stands] at filed
    refine ⟨filed.rssi, ?_, filed.lost, by simp, by simp⟩
    simp [Journal.lastElapsed, Journal.written, ReceivePc.holdsElapsed, Journal.note,
      Journal.waits_some held]
  | lostLocked stands =>
    rw [stands] at filed
    refine ⟨filed.rssi, filed.elapsed, ?_, by simp, by simp⟩
    have before := filed.lost
    simp only [ReceivePc.holdsLost, Bool.toNat_false] at before
    simp only [ReceivePc.holdsLost, saturatingAdd_toNat, before, Journal.note, Bool.toNat_true,
      UInt32.toNat_one]
    omega
  | @answerConfirmed seq now stands =>
    obtain ⟨h, held, rfl⟩ := measured.held (by rw [stands]; rfl)
    rw [stands] at filed
    have confirmed : j.note cbor (.ackReceived now) =
        ⟨j.answered ++ [⟨h, now⟩], none, j.reported⟩ := by
      simp only [Journal.note, held]
    have same : Journal.successions (j.answered ++ [⟨h, now⟩]) = j.waits := by
      rw [Journal.successions_snoc, Journal.waits_some held]
    rw [confirmed]
    refine ⟨?_, ?_, filed.lost, by simp, by simp⟩
    · refine filed.rssi.trans (congrArg Journal.lastRssi ?_)
      exact same.symm
    · refine filed.elapsed.trans (congrArg Journal.lastElapsed ?_)
      exact same.symm
  | @lossConfirmed now stands =>
    have idle := measured.idle (by rw [stands]; rfl)
    have confirmed : j.note cbor (.ackReceived now) = { j with reported := j.reported + 1 } := by
      simp only [Journal.note, idle]
    rw [confirmed]
    rw [stands] at filed
    exact ⟨filed.rssi, filed.elapsed, filed.lost, by simp, by simp⟩

end Filed

/-! ## The program -/

/-- The event of `task_receive` this is. -/
def ResponseLabel.ofReceive : ResponseLabel → Option ReceiveEvent
  | receive event => some event
  | send _ | display _ => none

namespace ResponseTime

/-- The journal of a run. -/
def journal (cbor : Minicbor) (tr : List ResponseLabel) : Journal :=
  .of cbor (tr.filterMap ResponseLabel.ofReceive)

variable {cbor : Minicbor} {s s' : ResponseTime} {label : ResponseLabel} {tr : List ResponseLabel}

theorem journal_receive (event : ReceiveEvent) :
    journal cbor (tr ++ [.receive event]) = (journal cbor tr).note cbor event := by
  simp [journal, Journal.of, ResponseLabel.ofReceive]

theorem journal_other (other : label.ofReceive = none) :
    journal cbor (tr ++ [label]) = journal cbor tr := by
  simp [journal, other]

/-- What the task has and what is behind the mutexes, in every run. -/
theorem kept_of_run (ran : run (step cbor) init tr = some s) :
    Measured (journal cbor tr) s.receive ∧ Filed (journal cbor tr) s.receive.pc s.stats := by
  refine run_induction (P := fun tr s => Measured (journal cbor tr) s.receive ∧
    Filed (journal cbor tr) s.receive.pc s.stats) ?_ ?_ ran
  · exact ⟨Measured.init, Filed.init⟩
  · intro tr s label s' _ ⟨measured, filed⟩ taken
    cases label with
    | send event =>
      obtain ⟨-, _, _, _, _, _, _, rfl⟩ := step_send.mp taken
      rw [journal_other rfl]
      exact ⟨measured, filed⟩
    | receive event =>
      obtain ⟨-, receive, stats, rule, _, _, _, _, rfl⟩ := step_receive.mp taken
      rw [journal_receive]
      exact ⟨measured.step rule, filed.step measured rule⟩
    | display event =>
      obtain ⟨-, _, _, rfl⟩ := step_display.mp taken
      rw [journal_other rfl]
      exact ⟨measured, filed⟩

/-- **The counters are those of an observer without bounds**, saturated; and the
average is the average, as long as they have not reached their ends. -/
theorem measured_of_run (ran : run (step cbor) init tr = some s) :
    Measured (journal cbor tr) s.receive ∧
      ((journal cbor tr).responseTimes.length ≤ 4294967295 →
        ((journal cbor tr).responseTimes.map UInt64.toNat).sum ≤ 18446744073709551615 →
        s.receive.avgMs.toNat = ((journal cbor tr).responseTimes.map UInt64.toNat).sum /
          (journal cbor tr).responseTimes.length) := by
  have measured := (kept_of_run ran).1
  refine ⟨measured, ?_⟩
  intro few short
  have samples : s.receive.responseSamples.toNat = (journal cbor tr).responseTimes.length := by
    rw [measured.samples, Nat.min_eq_right few]
  have total := measured.total
  rw [Nat.min_eq_right short] at total
  unfold avgMs
  split
  · rw [UInt64.toNat_div, UInt32.toNat_toUInt64, total, samples]
  · rename_i none
    have zero : (journal cbor tr).responseTimes.length = 0 := by
      rw [gt_iff_lt, UInt32.lt_iff_toNat_lt, samples, UInt32.toNat_zero] at none
      omega
    rw [zero, Nat.div_zero]
    rfl

/-- What the display shows is confirmed. -/
structure Shown (cbor : Minicbor) (tr : List ResponseLabel) : Prop where
  /-- The RSSI of the last frame whose answer was confirmed, with its sign. -/
  rssi : ∀ before value after, tr = before ++ .display (.rssiShown value) :: after →
    value = ((journal cbor before).answered.getLast?.map fun answer => answer.rssi).getD 0
  /-- The elapsed time of that frame since the answer before it. -/
  elapsed : ∀ before value after, tr = before ++ .display (.elapsedShown value) :: after →
    value = Journal.lastElapsed (Journal.successions (journal cbor before).answered)
  /-- The number of losses whose report was confirmed. -/
  lost : ∀ before value after, tr = before ++ .display (.lostShown value) :: after →
    value.toNat = min 4294967295 (journal cbor before).reported

theorem lastRssi_successions (answered : List Answer) :
    (Journal.lastRssi (Journal.successions answered)).toInt16 =
      (answered.getLast?.map fun answer => answer.rssi).getD 0 := by
  rcases List.eq_nil_or_concat' answered with rfl | ⟨earlier, last, rfl⟩
  · rfl
  · simp [Journal.lastRssi, Journal.successions_snoc]

/-- What a display event shows is what it reads. -/
def reads (stats : Statistics) : DisplayEvent → Prop
  | .rssiShown value => value = stats.currentRssi.toInt16
  | .elapsedShown value => value = stats.elapsedTime
  | .lostShown value => value = stats.packageLostCounter
  | .cleared _ | .slept => True

theorem reads_of_step {display display' : DisplayPc} {stats : Statistics} {event : DisplayEvent}
    (taken : display.step stats event = some display') : reads stats event := by
  cases event with
  | cleared ok => trivial
  | slept => trivial
  | elapsedShown value =>
    cases display with
    | elapsed => exact (Option.ite_none_right_eq_some.mp taken).1
    | _ => cases taken
  | lostShown value =>
    cases display with
    | lost => exact (Option.ite_none_right_eq_some.mp taken).1
    | _ => cases taken
  | rssiShown value =>
    cases display with
    | rssi => exact (Option.ite_none_right_eq_some.mp taken).1
    | _ => cases taken

/-- A display event reads what is behind a free mutex. -/
theorem shown_at {before after : List ResponseLabel} {event : DisplayEvent}
    (ran : run (step cbor) init (before ++ .display event :: after) = some s') :
    ∃ s : ResponseTime, Filed (journal cbor before) s.receive.pc s.stats ∧
      s.displayFree event = true ∧ reads s.stats event := by
  obtain ⟨s, _, first, taken, -⟩ := run_at ran
  obtain ⟨free, _, stepped, -⟩ := step_display.mp taken
  exact ⟨s, (kept_of_run first).2, free, reads_of_step stepped⟩

/-- **The display shows confirmed measurements only**, whatever the tasks do in
between. -/
theorem shown_of_run (ran : run (step cbor) init tr = some s') : Shown cbor tr := by
  constructor
  · rintro before value after rfl
    obtain ⟨s, filed, free, read⟩ := shown_at ran
    have released : s.receive.pc.holdsRssi = false := by simpa [displayFree] using free
    rw [show value = _ from read, filed.rssi, released]
    exact lastRssi_successions _
  · rintro before value after rfl
    obtain ⟨s, filed, free, read⟩ := shown_at ran
    have released : s.receive.pc.holdsElapsed = false := by simpa [displayFree] using free
    rw [show value = _ from read, filed.elapsed, released]
    rfl
  · rintro before value after rfl
    obtain ⟨s, filed, free, read⟩ := shown_at ran
    have released : s.receive.pc.holdsLost = false := by simpa [displayFree] using free
    rw [show value = _ from read, filed.lost, released]
    rfl

/-- A frame is answered, its RSSI shown, and a second frame heard 1500 ms after the
confirmation. -/
def answeredAndHeard : List ResponseLabel :=
  let frame : RadioRx := .done (.ok (OutgoingFrame.framed sampleRequest.toLoraEnvelope, sampleStatus))
  let reply : LoraEnvelope := .new .Reply 0 5000 0 []
  [.receive .rngLocked, .receive .locked, .receive (.received frame 5000000),
    .receive (.rssiLocked 5000000), .receive .elapsedLocked, .receive (.enqueued reply),
    .send (.taken reply), .send .locked, .send (.sent reply (.ok ())), .send .acked,
    .receive (.ackReceived 6000000), .display (.cleared true), .display (.elapsedShown 0),
    .display (.lostShown 0), .display (.rssiShown (-80)), .receive .locked,
    .receive (.received frame 7500000)]

theorem measured_of_answeredAndHeard :
    ∃ s, run (step .reference) init answeredAndHeard = some s ∧
      Measured (journal .reference answeredAndHeard) s.receive ∧ s.receive.avgMs.toNat = 1500 := by
  have runs : (run (step .reference) init answeredAndHeard).isSome := by decide
  obtain ⟨s, ran⟩ := Option.isSome_iff_exists.mp runs
  have times : (journal .reference answeredAndHeard).responseTimes = [1500] := by decide
  have ⟨measured, average⟩ := measured_of_run ran
  rw [times] at average
  exact ⟨s, ran, measured, average (by decide) (by decide)⟩

end ResponseTime

end HaviliarIot
