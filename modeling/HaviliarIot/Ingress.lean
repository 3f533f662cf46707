import HaviliarIot.Gateway
import HaviliarIot.Runs
import Mathlib.Data.List.Nodup

/-!
`task_mqtt_ingress` of `bin/lora_gateway_single_task.rs`, one step for each await.

The MQTT controller's guard is held from `lock` to the end of the iteration, so
which positions hold it is a function of the position (`IngressPc.holdsGuard`).

`admitted_sendable_iff` compares the two size limits a request meets: ingress
refuses a payload that does not fit `heapless::Vec<u8, PAYLOAD_LENGTH>`, the
encoder one longer than `MAX_APP_PAYLOAD`.
-/

namespace HaviliarIot

open Runs

/-- `rust_mqtt`'s `ReasonCode`. -/
structure ReasonCode where
  code : UInt8
  deriving DecidableEq

/-- Where the loop of `task_mqtt_ingress` stands. -/
inductive IngressPc where
  /-- In `mqtt_controller_mutex.lock()`. -/
  | lock
  /-- In `mqtt_controller.receive_message()`. -/
  | receive
  /-- In `sender.send(envelope)`. -/
  | enqueue (request : ForwardRequest)
  /-- In `Timer::after_millis(100)`. -/
  | sleep
  deriving DecidableEq

/-- The guard lives until it is dropped, after the send or in an error branch. -/
def IngressPc.holdsGuard : IngressPc → Bool
  | receive | enqueue _ => true
  | lock | sleep => false

structure IngressTask where
  pc : IngressPc
  requestId : UInt16
  seq : UInt16
  deriving DecidableEq

inductive IngressEvent where
  | locked
  /-- `receive_message()` returned, at `Instant::now()`. -/
  | received (message : Except ReasonCode (String × List UInt8)) (nowMs : UInt64)
  | enqueued (request : ForwardRequest)
  | slept
  deriving DecidableEq

/-- `now.as_millis().min(u32::MAX as u64) as u32`. -/
def timestampMs (nowMs : UInt64) : UInt32 := (min nowMs 4294967295).toUInt32

namespace IngressTask

def init : IngressTask := ⟨.lock, 0, 1⟩

/-- `match mqtt_controller.receive_message()`, up to the first await of the
branch taken: `extend_from_slice` fails on a payload over the capacity. -/
def accept (s : IngressTask) (message : Except ReasonCode (String × List UInt8))
    (nowMs : UInt64) : IngressTask :=
  match message with
  | .ok (_, payload) =>
    if payload.length ≤ payloadLength then
      { s with pc := .enqueue (.new s.seq (timestampMs nowMs) payload) }
    else { s with pc := .sleep }
  | .error _ => { s with pc := .sleep }

/-- One event of `task_mqtt_ingress`. -/
def step (s : IngressTask) (event : IngressEvent) : Option IngressTask :=
  match s.pc, event with
  | .lock, .locked => some { s with pc := .receive }
  | .receive, .received message nowMs => some (accept s message nowMs)
  | .enqueue request, .enqueued request' =>
    if request' = request then
      some { pc := .sleep, requestId := s.requestId + 1, seq := s.seq + 1 }
    else none
  | .sleep, .slept => some { s with pc := .lock }
  | _, _ => none

end IngressTask

/-- The steps of `task_mqtt_ingress`, one rule for each branch. -/
inductive IngressStep : IngressTask → IngressEvent → IngressTask → Prop where
  | locked {requestId seq : UInt16} :
      IngressStep ⟨.lock, requestId, seq⟩ .locked ⟨.receive, requestId, seq⟩
  | accepted {requestId seq : UInt16} {topic : String} {payload : List UInt8} {nowMs : UInt64} :
      payload.length ≤ payloadLength →
      IngressStep ⟨.receive, requestId, seq⟩ (.received (.ok (topic, payload)) nowMs)
        ⟨.enqueue (.new seq (timestampMs nowMs) payload), requestId, seq⟩
  | refused {requestId seq : UInt16} {topic : String} {payload : List UInt8} {nowMs : UInt64} :
      payloadLength < payload.length →
      IngressStep ⟨.receive, requestId, seq⟩ (.received (.ok (topic, payload)) nowMs)
        ⟨.sleep, requestId, seq⟩
  | failed {requestId seq : UInt16} {e : ReasonCode} {nowMs : UInt64} :
      IngressStep ⟨.receive, requestId, seq⟩ (.received (.error e) nowMs) ⟨.sleep, requestId, seq⟩
  | enqueued {request : ForwardRequest} {requestId seq : UInt16} :
      IngressStep ⟨.enqueue request, requestId, seq⟩ (.enqueued request)
        ⟨.sleep, requestId + 1, seq + 1⟩
  | slept {requestId seq : UInt16} :
      IngressStep ⟨.sleep, requestId, seq⟩ .slept ⟨.lock, requestId, seq⟩

/-- The request this event puts on the forward channel. -/
def IngressEvent.admitted : IngressEvent → List ForwardRequest
  | enqueued request => [request]
  | _ => []

/-- The requests put on the forward channel, in order. -/
def admitted (tr : List IngressEvent) : List ForwardRequest := tr.flatMap IngressEvent.admitted

namespace IngressTask

variable {s s' : IngressTask} {event : IngressEvent} {tr : List IngressEvent}

/-- Each enabled event is one of the rules. -/
private theorem ingress_sound (taken : step s event = some s') : IngressStep s event s' := by
  obtain ⟨pc, requestId, seq⟩ := s
  cases pc with
  | lock =>
    cases event <;> simp only [step, Option.some.injEq, reduceCtorEq] at taken
    subst taken
    exact .locked
  | receive =>
    cases event <;> simp only [step, Option.some.injEq, reduceCtorEq] at taken
    rename_i message nowMs
    subst taken
    cases message with
    | error e => exact .failed
    | ok message =>
      by_cases fits : message.2.length ≤ payloadLength
      · simp only [accept, fits, if_true]
        exact .accepted fits
      · simp only [accept, fits, if_false]
        exact .refused (Nat.lt_of_not_le fits)
  | enqueue request =>
    cases event <;> simp only [step, Option.ite_none_right_eq_some, Option.some.injEq,
      reduceCtorEq] at taken
    obtain ⟨rfl, rfl⟩ := taken
    exact .enqueued
  | sleep =>
    cases event <;> simp only [step, Option.some.injEq, reduceCtorEq] at taken
    subst taken
    exact .slept

/-- The rules are the step function. -/
theorem ingress_iff : step s event = some s' ↔ IngressStep s event s' := by
  refine ⟨ingress_sound, ?_⟩
  intro rule
  cases rule with
  | accepted fits => simp [step, accept, fits]
  | refused exceeds => simp [step, accept, Nat.not_le.mpr exceeds]
  | _ => simp [step, accept]

/-! ## Sequence numbers -/

/-- Requests are numbered from one, modulo `2^16`. -/
theorem seqs_of_run (ran : run step init tr = some s) :
    (admitted tr).map (fun request => request.seq) =
      (List.range (admitted tr).length).map (fun k => UInt16.ofNat (k + 1)) ∧
    s.seq = UInt16.ofNat ((admitted tr).length + 1) ∧
    ∀ request, s.pc = .enqueue request → request.seq = s.seq := by
  refine run_induction (P := fun tr s => (admitted tr).map (fun request => request.seq) =
    (List.range (admitted tr).length).map (fun k => UInt16.ofNat (k + 1)) ∧
    s.seq = UInt16.ofNat ((admitted tr).length + 1) ∧
    ∀ request, s.pc = .enqueue request → request.seq = s.seq) ?_ ?_ ran
  · refine ⟨rfl, rfl, ?_⟩
    intro request inHand
    cases inHand
  · rintro tr s event s' - ⟨seqs, next, inHand⟩ taken
    cases ingress_iff.mp taken with
    | @enqueued request requestId seq =>
      have grown : admitted (tr ++ [.enqueued request]) = admitted tr ++ [request] := by
        simp [admitted, IngressEvent.admitted]
      have numbered : request.seq = seq := inHand request rfl
      change seq = _ at next
      refine ⟨?_, ?_, ?_⟩
      · rw [grown, List.map_append, List.length_append, List.length_singleton, List.range_succ,
          List.map_append, seqs, List.map_singleton, List.map_singleton, numbered, next]
      · change seq + 1 = _
        rw [grown, List.length_append, List.length_singleton,
          UInt16.ofNat_add ((admitted tr).length + 1) 1, ← next]
        rfl
      · intro request' inHand'
        cases inHand'
    | accepted fits =>
      refine ⟨by simpa [admitted, IngressEvent.admitted] using seqs,
        by simpa [admitted, IngressEvent.admitted] using next, ?_⟩
      intro request inHand'
      cases inHand'
      rfl
    | locked | refused | failed | slept =>
      refine ⟨by simpa [admitted, IngressEvent.admitted] using seqs,
        by simpa [admitted, IngressEvent.admitted] using next, ?_⟩
      intro request inHand'
      cases inHand'

/-- Fewer than `2^16` requests have distinct sequence numbers. -/
theorem seqs_nodup (ran : run step init tr = some s) (few : (admitted tr).length ≤ 65535) :
    ((admitted tr).map fun request => request.seq).Nodup := by
  rw [(seqs_of_run ran).1]
  refine List.Nodup.map_on ?_ List.nodup_range
  intro i inRange j inRange' same
  rw [List.mem_range] at inRange inRange'
  have numbers := congrArg UInt16.toNat same
  simp only [UInt16.toNat_ofNat'] at numbers
  omega

/-! ## What is admitted can be sent -/

/-- A request in hand is made of the message that was just received. -/
theorem in_hand_of_run (ran : run step init tr = some s) {request : ForwardRequest}
    (inHand : s.pc = .enqueue request) :
    ∃ earlier topic payload nowMs, tr = earlier ++ [.received (.ok (topic, payload)) nowMs] ∧
      payload.length ≤ payloadLength ∧ request = .new s.seq (timestampMs nowMs) payload := by
  induction tr using List.reverseRecOn with
  | nil =>
    cases Option.some.inj ran
    cases inHand
  | append_singleton earlier event _ =>
    obtain ⟨before, -, taken⟩ := run_snoc.mp ran
    cases ingress_iff.mp taken with
    | accepted fits =>
      cases inHand
      exact ⟨_, _, _, _, rfl, fits, rfl⟩
    | _ => cases inHand

/-- **What ingress admits, LoRa can carry**, exactly when the MQTT payload it was
made of is within the application limit: then the gateway's first transmission
succeeds if the driver does, and otherwise it fails whatever the driver does. -/
theorem admitted_sendable_iff {before after : List IngressEvent} {request : ForwardRequest}
    (ran : run step init (before ++ .enqueued request :: after) = some s) :
    ∃ earlier topic payload nowMs, before = earlier ++ [.received (.ok (topic, payload)) nowMs] ∧
      request.payload = payload ∧
      (request.intoOutgoing.isSome ↔ payload.length ≤ maxAppPayload) ∧
      ∀ driver, (LoraController.sendMessageEnvelope driver request.toLoraEnvelope).result =
        if payload.length ≤ maxAppPayload then driver else .error .Irq := by
  obtain ⟨mid, next, first, taken, -⟩ := run_at ran
  have inHand : mid.pc = .enqueue request := by
    cases ingress_iff.mp taken with
    | enqueued => rfl
  obtain ⟨earlier, topic, payload, nowMs, split, -, rfl⟩ := in_hand_of_run first inHand
  have sendable := encodable_iff (ForwardRequest.new mid.seq (timestampMs nowMs) payload).toLoraEnvelope
  refine ⟨earlier, topic, payload, nowMs, split, rfl, sendable, ?_⟩
  intro driver
  by_cases within : payload.length ≤ maxAppPayload
  · rw [if_pos within, LoraController.sendMessageEnvelope_fits (sendable.mpr within)]
  · have refused := Option.not_isSome_iff_eq_none.mp fun some => within (sendable.mp some)
    rw [if_neg within, LoraController.sendMessageEnvelope_refused refused]

theorem sample_admitted_sendable :
    ∃ earlier topic payload nowMs,
      [IngressEvent.locked, .received (.ok ("esp32/open", [1, 2, 3])) 1000] =
        earlier ++ [.received (.ok (topic, payload)) nowMs] ∧
      sampleRequest.payload = payload ∧
      (sampleRequest.intoOutgoing.isSome ↔ payload.length ≤ maxAppPayload) ∧
      ∀ driver, (LoraController.sendMessageEnvelope driver sampleRequest.toLoraEnvelope).result =
        if payload.length ≤ maxAppPayload then driver else .error .Irq := by
  have ran : run step init ([.locked, .received (.ok ("esp32/open", [1, 2, 3])) 1000] ++
      [.enqueued sampleRequest]) = some ⟨.sleep, 1, 2⟩ := by decide
  exact admitted_sendable_iff ran

/-- The first message is admitted up to the capacity of ingress' own vector. -/
theorem admits_first {payload : List UInt8} (fits : payload.length ≤ payloadLength) :
    run step init [.locked, .received (.ok ("esp32/open", payload)) 1000,
      .enqueued (.new 1 1000 payload)] = some ⟨.sleep, 1, 2⟩ := by
  have now : timestampMs 1000 = 1000 := by decide
  simp [step, init, accept, fits, now]

/-- A payload of 230 bytes is admitted and can never be transmitted. -/
theorem long_payload_admitted :
    ¬ ∀ tr s, run step init tr = some s → ∀ request ∈ admitted tr, request.intoOutgoing.isSome := by
  intro always
  have long : (List.replicate 230 (0 : UInt8)).length = 230 := List.length_replicate
  have fits : (List.replicate 230 (0 : UInt8)).length ≤ payloadLength := by
    rw [long]
    decide
  have sendable := always _ _ (admits_first fits) _ (List.mem_singleton_self _)
  rw [encodable_iff] at sendable
  change (List.replicate 230 (0 : UInt8)).length ≤ maxAppPayload at sendable
  rw [long] at sendable
  exact absurd sendable (by decide)

end IngressTask

end HaviliarIot
