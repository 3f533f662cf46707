import HaviliarIot.ForwardPath
import HaviliarIot.GatewayLedger
import HaviliarIot.Positions

/-!
The requests between ingress and their answer, and what their sequence numbers
tell.

A request waits in three places: in the hands of `task_mqtt_ingress`, in the
forward channel, and with `task_lora_gateway`, in hand or in `pending_forward`.
The branches of the gateway may drop it there but never bring an older one back
(`handling_step`), so what is outstanding is always the end of what ingress made.
Its sequence numbers are consecutive, and there are too few of them for the
counter to repeat one, however often it has wrapped.
-/

namespace HaviliarIot

open Runs Positions

/-- The request ingress is blocked sending. -/
def IngressTask.blocked (s : IngressTask) : List ForwardRequest :=
  match s.pc with
  | .enqueue request => [request]
  | _ => []

/-- The message this event accepts: received, and within the capacity. -/
def IngressEvent.accepted : IngressEvent → List (List UInt8)
  | received (.ok (_, payload)) _ => if payload.length ≤ payloadLength then [payload] else []
  | _ => []

/-- The messages ingress accepted, in order. -/
def accepted (tr : List IngressEvent) : List (List UInt8) := tr.flatMap IngressEvent.accepted

/-- The request the gateway is handling, or holds in its slot. -/
def GatewayTask.handling (s : GatewayTask) : List LoraEnvelope :=
  match s.pc with
  | .forward request | .enqueueFailure request => [request.toLoraEnvelope]
  | _ => GatewayLedger.awaiting s

namespace GatewayTask

variable {cbor : Minicbor} {s s' : GatewayTask} {event : GatewayEvent} {tr : List GatewayEvent}

/-- A step keeps the request at hand, drops it, or takes the next one. -/
theorem handling_step (shape : Shape s) (rule : GatewayStep cbor s event s') :
    handling s' <:+ handling s ++ event.dequeued := by
  cases rule with
  | replyHeard | successEnqueued | polledEmpty => exact List.nil_suffix
  | @ackSent ack driver slot =>
    obtain ⟨envelope, rfl⟩ := shape.acking ack rfl
    have dropped : handling ⟨.drain, some (ackFor envelope)⟩ = [] := by
      simp [handling, GatewayLedger.awaiting, GatewayLedger.not_isRequest_ackFor]
    rw [dropped]
    exact List.nil_suffix
  | dequeued => exact List.suffix_refl _
  | @forwarded request driver slot ok =>
    have same : handling ⟨.receive, some request.toLoraEnvelope⟩ = [request.toLoraEnvelope] := by
      simp [handling, GatewayLedger.awaiting, GatewayLedger.isRequest_forward]
    rw [same]
    exact List.suffix_refl _
  | @failureEnqueued request slot =>
    have empty : slot = none := shape.forwarding request (.inr rfl)
    subst empty
    exact List.nil_suffix
  | _ =>
    simp only [handling, GatewayEvent.dequeued, List.append_nil]
    exact List.suffix_refl _

/-- What the gateway handles is the last request it dequeued. -/
theorem handling_of_run (ran : run (step cbor) init tr = some s) :
    handling s <:+ dequeued tr := by
  refine run_induction (P := fun tr s => handling s <:+ dequeued tr) ?_ ?_ ran
  · exact List.nil_suffix
  · intro tr s event s' first ⟨older, split⟩ taken
    refine (handling_step (shape_of_run first) (step_iff.mp taken)).trans ⟨older, ?_⟩
    rw [← List.append_assoc, split]
    simp only [dequeued, List.flatMap_append, List.flatMap_singleton]

theorem handling_length (s : GatewayTask) : (handling s).length ≤ 1 := by
  have slot : (GatewayLedger.awaiting s).length ≤ 1 := by
    refine (List.length_filter_le _ _).trans ?_
    cases s.pendingForward <;> simp
  unfold handling
  split
  · exact Nat.le_refl 1
  · exact Nat.le_refl 1
  · exact slot

end GatewayTask

namespace IngressTask

variable {s : IngressTask} {tr : List IngressEvent}

/-- Every message accepted became a request, and no other did. -/
theorem payloads_of_run (ran : run step init tr = some s) :
    (admitted tr ++ s.blocked).map (fun request => request.payload) = accepted tr := by
  refine run_induction (P := fun tr s =>
    (admitted tr ++ s.blocked).map (fun request => request.payload) = accepted tr) rfl ?_ ran
  intro tr s event s' first before taken
  simp only [admitted, accepted, List.flatMap_append, List.flatMap_singleton] at before ⊢
  cases ingress_iff.mp taken with
  | accepted fits =>
    simp only [blocked, List.append_nil] at before
    simp [IngressEvent.admitted, IngressEvent.accepted, blocked, before, fits, ForwardRequest.new,
      LoraEnvelope.new]
  | refused exceeds =>
    simpa [IngressEvent.admitted, IngressEvent.accepted, blocked, Nat.not_le.mpr exceeds]
      using before
  | _ => simpa [IngressEvent.admitted, IngressEvent.accepted, blocked] using before

/-- The requests made are numbered from one, the one in hand included. -/
theorem allocated_seqs (ran : run step init tr = some s) :
    (admitted tr ++ s.blocked).map (fun request => request.seq) =
      (List.range (accepted tr).length).map fun k => UInt16.ofNat (k + 1) := by
  obtain ⟨seqs, next, inHand⟩ := seqs_of_run ran
  rw [← payloads_of_run ran, List.length_map, List.map_append, seqs]
  unfold blocked
  split
  · rename_i request here
    rw [List.length_append, List.length_singleton, List.range_succ, List.map_append,
      List.map_singleton, List.map_singleton, inHand request here, next]
  · rw [List.append_nil, List.map_nil, List.append_nil]

theorem blocked_length (s : IngressTask) : s.blocked.length ≤ 1 := by
  unfold blocked
  split
  · exact Nat.le_refl 1
  · exact Nat.zero_le 1

end IngressTask

namespace ForwardPath

variable {cbor : Minicbor} {s : ForwardPath} {tr : List PathLabel}

/-- The outstanding requests, oldest first: what the gateway handles, what is in
the forward channel, what ingress is blocked sending. -/
def outstanding (s : ForwardPath) : List LoraEnvelope :=
  s.gateway.handling ++ (s.forward.queue ++ s.ingress.blocked).map ForwardRequest.toLoraEnvelope

/-- The requests ingress has made, in order. -/
def allocated (tr : List PathLabel) (s : ForwardPath) : List ForwardRequest :=
  admitted (ingressEvents tr) ++ s.ingress.blocked

/-- The last sequence number ingress gave away; zero before the first. -/
def lastAllocated (tr : List PathLabel) (s : ForwardPath) : UInt16 :=
  ((allocated tr s).getLast?.map fun request => request.seq).getD 0

/-- What the sequence numbers tell about the outstanding requests. -/
structure SeqsIdentify (tr : List PathLabel) (s : ForwardPath) : Prop where
  /-- They are the last requests ingress made. -/
  latest : outstanding s <:+ (allocated tr s).map ForwardRequest.toLoraEnvelope
  /-- From the newest back, they count down from the last one allocated. -/
  consecutive : ((outstanding s).map fun e => e.seq).reverse =
    (List.range (outstanding s).length).map fun back => lastAllocated tr s - UInt16.ofNat back
  few : (outstanding s).length ≤ 10
  distinct : ((outstanding s).map fun e => e.seq).Nodup
  /-- Every message accepted became a request, and no other message did. -/
  made : (allocated tr s).map (fun request => request.payload) = accepted (ingressEvents tr)
  /-- Their numbers are one after the other, whatever was refused between them. -/
  numbered : (allocated tr s).map (fun request => request.seq) =
    (List.range (accepted (ingressEvents tr)).length).map fun k => UInt16.ofNat (k + 1)

theorem outstanding_suffix (ran : run (step cbor) init tr = some s) :
    outstanding s <:+ (allocated tr s).map ForwardRequest.toLoraEnvelope := by
  obtain ⟨older, split⟩ := GatewayTask.handling_of_run (run_gateway ran)
  refine ⟨older, ?_⟩
  rw [outstanding, allocated, ← fifo ran, ← List.append_assoc, split, dequeued_eq_taken,
    ← List.map_append, List.append_assoc]

theorem outstanding_length (s : ForwardPath) : (outstanding s).length ≤ 10 := by
  have handling := s.gateway.handling_length
  have queued := s.forward.bounded
  have blocked := s.ingress.blocked_length
  rw [outstanding, List.length_append, List.length_map, List.length_append]
  omega

/-- The last number is the count of accepted messages, modulo `2^16`. -/
theorem lastAllocated_of_run (ran : run (step cbor) init tr = some s) :
    lastAllocated tr s = UInt16.ofNat (accepted (ingressEvents tr)).length := by
  have numbered := IngressTask.allocated_seqs (run_ingress ran)
  have last := congrArg List.getLast? numbered
  rw [List.getLast?_map] at last
  rw [lastAllocated, allocated, last]
  cases (accepted (ingressEvents tr)).length with
  | zero => rfl
  | succ k => simp [List.range_succ]

/-- Fewer than `2^16` consecutive numbers are distinct. -/
theorem consecutive_nodup (last : UInt16) {count : Nat} (few : count ≤ 65536) :
    ((List.range count).map fun back => last - UInt16.ofNat back).Nodup := by
  refine List.Nodup.map_on ?_ List.nodup_range
  intro i inRange j inRange' same
  rw [List.mem_range] at inRange inRange'
  have numbers := congrArg UInt16.toNat ((UInt16.sub_right_inj last).mp same)
  simp only [UInt16.toNat_ofNat'] at numbers
  omega

/-- **Sequence numbers identify the outstanding requests**, however often the
counter has wrapped. -/
theorem seqs_identify (ran : run (step cbor) init tr = some s) : SeqsIdentify tr s := by
  have latest := outstanding_suffix ran
  have numbered := IngressTask.allocated_seqs (run_ingress ran)
  have few := outstanding_length s
  have suffix : (outstanding s).map (fun e => e.seq) <:+
      (List.range (accepted (ingressEvents tr)).length).map fun k => UInt16.ofNat (k + 1) := by
    have seqs := latest.map fun e => e.seq
    rw [List.map_map] at seqs
    rwa [← numbered]
  have consecutive : ((outstanding s).map fun e => e.seq).reverse =
      (List.range (outstanding s).length).map fun back =>
        lastAllocated tr s - UInt16.ofNat back := by
    have fits := suffix.length_le
    rw [List.length_map, List.length_map, List.length_range] at fits
    rw [reverse_of_suffix suffix, List.length_map, lastAllocated_of_run ran]
    apply List.map_congr_left
    intro back inRange
    rw [List.mem_range] at inRange
    rw [← UInt16.ofNat_sub (by omega)]
    congr 1
    omega
  refine ⟨latest, consecutive, few, ?_, IngressTask.payloads_of_run (run_ingress ran), numbered⟩
  rw [← List.nodup_reverse, consecutive]
  exact consecutive_nodup _ (by omega)

/-- The first request is on its way to the radio while ingress sends the second. -/
theorem seqs_identify_two_requests :
    SeqsIdentify
      [.ingress .locked, .ingress (.received (.ok ("esp32/open", [1, 2, 3])) 1000),
        .ingress (.enqueued sampleRequest), .ingress .slept, .ingress .locked,
        .ingress (.received (.ok ("esp32/open", [4])) 2000),
        .gateway (.received .timeout), .gateway (.polled (some sampleRequest))]
      ⟨⟨.enqueue (.new 2 2000 [4]), 1, 2⟩, .empty, ⟨.forward sampleRequest, none⟩⟩ := by
  have ran : run (step .reference) init
      [.ingress .locked, .ingress (.received (.ok ("esp32/open", [1, 2, 3])) 1000),
        .ingress (.enqueued sampleRequest), .ingress .slept, .ingress .locked,
        .ingress (.received (.ok ("esp32/open", [4])) 2000),
        .gateway (.received .timeout), .gateway (.polled (some sampleRequest))] =
      some ⟨⟨.enqueue (.new 2 2000 [4]), 1, 2⟩, .empty, ⟨.forward sampleRequest, none⟩⟩ := by
    decide
  exact seqs_identify ran

end ForwardPath

end HaviliarIot
