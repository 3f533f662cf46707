import HaviliarIot.Agreement

/-!
How often the device opens the gate.

Nothing in the loop remembers which Opens were handled, and the gateway repeats an
Open until its Ack arrives, so a request can open the gate more than once
(`retransmission_actuates_twice`).  What does hold is one opening for each Open
frame received, in order, and that no frame but the request's own opens the gate
under its number (`actuated_once_per_frame`).
-/

namespace HaviliarIot

open Runs

/-- The Open this event calls the servo for. -/
def GatewayEvent.openings : GatewayEvent → List LoraEnvelope
  | opened envelope => [envelope]
  | _ => []

/-- The Open this event receives. -/
def GatewayEvent.opens (cbor : Minicbor) (event : GatewayEvent) : List LoraEnvelope :=
  (event.heard cbor).toList.filter fun e => e.msgType = .Open

/-- The calls of `servo_motor.open()`, each by the Open it is for. -/
def openings (tr : List GatewayEvent) : List LoraEnvelope := tr.flatMap GatewayEvent.openings

/-- The Opens received, in order. -/
def opens (cbor : Minicbor) (tr : List GatewayEvent) : List LoraEnvelope :=
  tr.flatMap (GatewayEvent.opens cbor)

/-- The Open the servo is about to be called for. -/
def actuating (s : GatewayTask) : List LoraEnvelope :=
  match s.pc with
  | .actuate envelope => [envelope]
  | _ => []

variable {cbor : Minicbor} {g g' : GatewayTask} {event : GatewayEvent}

theorem openings_step (rule : GatewayStep cbor g event g') :
    event.openings ++ actuating g' = actuating g ++ event.opens cbor := by
  cases rule with
  | ackMatched heard isAck => simp [GatewayEvent.openings, GatewayEvent.opens, actuating,
      GatewayEvent.heard, heard, isAck]
  | openHeard heard isOpen => simp [GatewayEvent.openings, GatewayEvent.opens, actuating,
      GatewayEvent.heard, heard, isOpen]
  | replyHeard heard isReply => simp [GatewayEvent.openings, GatewayEvent.opens, actuating,
      GatewayEvent.heard, heard, isReply]
  | ignored heard notOpen => simp [GatewayEvent.openings, GatewayEvent.opens, actuating,
      GatewayEvent.heard, heard, notOpen]
  | radioError failed => simp [GatewayEvent.openings, GatewayEvent.opens, actuating,
      GatewayEvent.heard, RadioRx.heard_of_error failed]
  | timedOut => rfl
  | _ => simp [GatewayEvent.openings, GatewayEvent.opens, actuating, GatewayEvent.heard]

/-- Every Open received calls the servo once. -/
theorem openings_of_run {tr : List GatewayEvent} {s : GatewayTask}
    (ran : run (GatewayTask.step cbor) .init tr = some s) :
    openings tr ++ actuating s = opens cbor tr := by
  refine run_induction (P := fun tr s => openings tr ++ actuating s = opens cbor tr) rfl ?_ ran
  intro tr s event s' _ before taken
  have here := openings_step (GatewayTask.step_iff.mp taken)
  rw [openings, opens, List.flatMap_append, List.flatMap_append, List.flatMap_singleton,
    List.flatMap_singleton, List.append_assoc, here, ← List.append_assoc]
  exact congrArg (· ++ event.opens cbor) before

namespace TwoNode

variable {medium : Medium Frame} {s : TwoNode} {tr : List NetLabel}

/-- **A gate is actuated once for each Open frame received**, and an Open frame
with a request's sequence number is that request's own, transmitted by the
gateway; so a request opens the gate at most as often as its frame arrives. -/
theorem actuated_once_per_frame (ran : run (step cbor medium) init tr = some s)
    (few : (admitted (ingressTrace tr)).length ≤ 65535) {request : ForwardRequest}
    (member : request ∈ admitted (ingressTrace tr)) :
    openings (bTrace tr) ++ actuating s.b = opens cbor (bTrace tr) ∧
      (∀ e ∈ opens cbor (bTrace tr), e.seq = request.seq →
        e = request.toLoraEnvelope ∧ request.toLoraEnvelope ∈ forwarded (aTrace tr)) ∧
      (openings (bTrace tr)).countP (fun e => e.seq = request.seq) ≤
        (opens cbor (bTrace tr)).countP fun e => e.seq = request.seq := by
  have once := openings_of_run (run_b ran)
  refine ⟨once, ?_, ?_⟩
  · intro e received same
    obtain ⟨event, inTrace, heard⟩ := List.mem_flatMap.mp received
    obtain ⟨heard, isOpen⟩ := List.mem_filter.mp heard
    obtain ⟨label, inRun, isB⟩ := List.mem_filterMap.mp inTrace
    have sent : e ∈ forwarded (aTrace tr) := by
      cases label <;> cases isB
      cases event with
      | received rx =>
        exact (accord_of_run ran).sentOnly rx inRun e (Option.mem_toList.mp heard)
          (of_decide_eq_true isOpen)
      | _ => cases heard
    have among := (dequeued_of_admitted ran).subset
      ((GatewayLedger.forwarded_sublist_dequeued (run_a ran)).subset sent)
    have itself : e = request.toLoraEnvelope :=
      List.inj_on_of_nodup_map (admitted_seqs_nodup ran few) among
        (List.mem_map_of_mem member) same
    exact ⟨itself, itself ▸ sent⟩
  · rw [← once, List.countP_append]
    exact Nat.le_add_right _ _

theorem handshake_actuates_once :
    ∃ s, run (step .reference .adversarial) init handshake = some s ∧
      openings (bTrace handshake) ++ actuating s.b = opens .reference (bTrace handshake) ∧
      (∀ e ∈ opens .reference (bTrace handshake), e.seq = sampleRequest.seq →
        e = sampleRequest.toLoraEnvelope ∧
          sampleRequest.toLoraEnvelope ∈ forwarded (aTrace handshake)) ∧
      (openings (bTrace handshake)).countP (fun e => e.seq = sampleRequest.seq) ≤
        (opens .reference (bTrace handshake)).countP fun e => e.seq = sampleRequest.seq := by
  have runs : (run (step .reference .adversarial) init handshake).isSome := by decide
  obtain ⟨s, ran⟩ := Option.isSome_iff_exists.mp runs
  exact ⟨s, ran, actuated_once_per_frame ran (by decide) (by decide)⟩

/-- The Ack of a request is lost and the request is repeated: the device opens the
gate for it twice. -/
theorem retransmission_actuates_twice :
    ¬ ∀ tr s, run (step .reference .adversarial) init tr = some s →
      (admitted (ingressTrace tr)).length ≤ 65535 → ∀ request ∈ admitted (ingressTrace tr),
        (openings (bTrace tr)).countP (fun e => e.seq = request.seq) ≤ 1 := by
  intro atMostOnce
  let request := sampleRequest.toLoraEnvelope
  let ack := ackFor request
  let arrival := NetLabel.b (.received (.done (.ok (OutgoingFrame.framed request, sampleStatus))))
  let tr : List NetLabel := handshake.take 6 ++
    [arrival, .b (.opened request), .b (.sent ack (.error .Irq)), .b (.resent ack (.error .Irq)),
      .a (.received .timeout), .a (.resent request (.ok ())), arrival, .b (.opened request)]
  have runs : (run (step .reference .adversarial) init tr).isSome := by decide
  obtain ⟨s, ran⟩ := Option.isSome_iff_exists.mp runs
  have once := atMostOnce tr s ran (by decide) sampleRequest (by decide)
  exact absurd once (by decide)

end TwoNode

end HaviliarIot
