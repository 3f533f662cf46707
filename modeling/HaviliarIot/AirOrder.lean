import HaviliarIot.Outstanding

/-!
The order in which requests go on the air.

A transmission of an Open is listed with a position: that of the request the
gateway dequeued last.  The slot is overwritten in several branches, but an Open
in it is always the one dequeued last (`handling_of_run`), so each entry is the
admitted request at its position, and positions only move forward.  Which
transmissions are listed is a parameter: every attempt, or only those the driver
reports as sent.
-/

namespace HaviliarIot

open Runs Positions GatewayLedger

/-- The Open this event transmits, if it is one of those listed. -/
def GatewayEvent.listedOpens (listed : GatewayEvent → Bool) (event : GatewayEvent) : List LoraEnvelope :=
  if listed event then event.transmits.toList.filter IsRequest else []

/-- The Opens transmitted, each with the position of the request dequeued last;
`taken` requests were dequeued before. -/
def airings (listed : GatewayEvent → Bool) : Nat → List GatewayEvent → List (Nat × LoraEnvelope)
  | _, [] => []
  | taken, event :: rest =>
    (event.listedOpens listed).map (fun e => (taken - 1, e)) ++
      airings listed (taken + event.dequeued.length) rest

variable {listed : GatewayEvent → Bool} {tr tr' : List GatewayEvent} {event : GatewayEvent}
  {taken : Nat}

theorem airings_append : airings listed taken (tr ++ tr') =
    airings listed taken tr ++ airings listed (taken + (dequeued tr).length) tr' := by
  induction tr generalizing taken with
  | nil => simp [airings, dequeued]
  | cons event rest ih =>
    simp [airings, ih, dequeued, Nat.add_assoc]

/-- Positions start at the last request dequeued before. -/
theorem le_of_airings {entry : Nat × LoraEnvelope} (member : entry ∈ airings listed taken tr) :
    taken - 1 ≤ entry.1 := by
  induction tr generalizing taken with
  | nil => cases member
  | cons event rest ih =>
    rcases List.mem_append.mp member with now | later
    · obtain ⟨e, -, rfl⟩ := List.mem_map.mp now
      exact Nat.le_refl _
    · have ahead := ih later
      omega

/-- Positions only move forward. -/
theorem airings_forward (listed : GatewayEvent → Bool) (taken : Nat) (tr : List GatewayEvent) :
    ((airings listed taken tr).map Prod.fst).Pairwise (· ≤ ·) := by
  induction tr generalizing taken with
  | nil => exact .nil
  | cons event rest ih =>
    rw [airings, List.map_append, List.pairwise_append]
    refine ⟨?_, ih _, ?_⟩
    · rw [List.map_map]
      exact List.pairwise_map.mpr (List.pairwise_of_forall fun _ _ => Nat.le_refl _)
    · intro position now position' later
      obtain ⟨entry, entered, rfl⟩ := List.mem_map.mp now
      obtain ⟨e, -, rfl⟩ := List.mem_map.mp entered
      obtain ⟨entry', entered', rfl⟩ := List.mem_map.mp later
      have ahead := le_of_airings entered'
      change taken - 1 ≤ entry'.1
      omega

namespace GatewayTask

variable {cbor : Minicbor} {s s' : GatewayTask}

/-- An Open that is transmitted is the request at hand. -/
theorem handling_of_opens (shape : Shape s) (rule : GatewayStep cbor s event s')
    {e : LoraEnvelope} (opens : e ∈ event.listedOpens listed) :
    handling s = [e] ∧ event.dequeued = [] := by
  have transmitted : event.transmits = some e ∧ IsRequest e := by
    unfold GatewayEvent.listedOpens at opens
    split at opens
    · simpa using opens
    · cases opens
  obtain ⟨transmitted, request⟩ := transmitted
  cases rule with
  | @ackSent ack =>
    cases Option.some.inj transmitted
    obtain ⟨envelope, rfl⟩ := shape.acking _ rfl
    exact absurd request (not_isRequest_ackFor envelope)
  | @replySent result =>
    cases Option.some.inj transmitted
    obtain ⟨pending, ack, -, rfl⟩ := shape.replying _ (.inl rfl)
    cases request
  | resent =>
    cases Option.some.inj transmitted
    exact ⟨by simp [handling, awaiting, request], rfl⟩
  | forwarded | forwardFailed =>
    cases Option.some.inj transmitted
    exact ⟨rfl, rfl⟩
  | _ => cases transmitted

/-- An entry is the request dequeued at its position. -/
theorem airings_placed (ran : run (step cbor) init tr = some s) :
    Placed (dequeued tr) (airings listed 0 tr) := by
  refine run_induction (P := fun tr _ => Placed (dequeued tr) (airings listed 0 tr)) ?_ ?_ ran
  · intro entry member
    cases member
  · intro tr s event s' first before taken entry member
    have grown : dequeued (tr ++ [event]) = dequeued tr ++ event.dequeued := by
      simp only [dequeued, List.flatMap_append, List.flatMap_singleton]
    rw [airings_append, airings, airings, List.append_nil, Nat.zero_add] at member
    rcases List.mem_append.mp member with earlier | now
    · have placed := before entry earlier
      obtain ⟨within, -⟩ := List.getElem?_eq_some_iff.mp placed
      rw [grown, List.getElem?_append_left within]
      exact placed
    · obtain ⟨e, opens, rfl⟩ := List.mem_map.mp now
      obtain ⟨atHand, none⟩ := handling_of_opens (shape_of_run first) (step_iff.mp taken) opens
      obtain ⟨older, split⟩ := handling_of_run first
      rw [atHand] at split
      rw [grown, none, List.append_nil, ← split]
      simp

/-- With no request at hand, the next Open to go on the air is one not yet
dequeued. -/
theorem airings_of_idle {count : Nat} (shape : Shape s) (idle : handling s = [])
    (ran : run (step cbor) s tr = some s') :
    ∀ entry ∈ airings listed count tr, count ≤ entry.1 := by
  induction tr generalizing s with
  | nil =>
    intro entry member
    cases member
  | cons event rest ih =>
    intro entry member
    rw [run_cons, Option.bind_eq_some_iff] at ran
    obtain ⟨next, taken, ran⟩ := ran
    have rule := step_iff.mp taken
    rcases List.mem_append.mp member with now | later
    · obtain ⟨e, opens, -⟩ := List.mem_map.mp now
      have atHand := (handling_of_opens shape rule opens).1
      rw [idle] at atHand
      cases atHand
    · have onward := handling_step shape rule
      rw [idle, List.nil_append] at onward
      by_cases takes : event.dequeued = []
      · rw [takes] at onward later
        exact ih (shape_step shape rule) (List.suffix_nil.mp onward) ran entry later
      · have more := List.length_pos_of_ne_nil takes
        have ahead := le_of_airings later
        omega

/-- The request a result answers is the one at hand, and it is let go. -/
theorem handling_of_answered {onBehalf result : LoraEnvelope} (request : IsRequest onBehalf)
    (shape : Shape s) (rule : GatewayStep cbor s (.enqueued onBehalf result) s') :
    handling s = [onBehalf] ∧ handling s' = [] := by
  cases rule with
  | successEnqueued => exact ⟨by simp [handling, awaiting, request], rfl⟩
  | @failureEnqueued pending slot =>
    have empty : slot = none := shape.forwarding pending (.inr rfl)
    subst empty
    exact ⟨rfl, rfl⟩

end GatewayTask

namespace ForwardPath

open GatewayTask

variable {cbor : Minicbor} {s : ForwardPath} {tr : List PathLabel}

/-- The requests ingress admitted, as they are transmitted. -/
def requests (tr : List PathLabel) : List LoraEnvelope :=
  (admitted (ingressEvents tr)).map ForwardRequest.toLoraEnvelope

/-- Requests go on the air in admission order and do not come back. -/
structure AirOrder (listed : GatewayEvent → Bool) (tr : List PathLabel) : Prop where
  /-- An Open on the air is the admitted request at its position. -/
  identified : Placed (requests tr) (airings listed 0 (gatewayEvents tr))
  /-- Without repeated transmissions of one request, none occurs twice. -/
  increasing : (((airings listed 0 (gatewayEvents tr)).destutter (· ≠ ·)).map Prod.fst).Pairwise
    (· < ·)
  /-- They are requests admitted, in admission order. -/
  subsequence : (((airings listed 0 (gatewayEvents tr)).destutter (· ≠ ·)).map Prod.snd).Sublist
    (requests tr)
  /-- After a request, none before it is transmitted. -/
  superseded : ∀ before after, gatewayEvents tr = before ++ after →
    ∀ entry ∈ airings listed 0 before, ∀ entry' ∈ airings listed (dequeued before).length after,
      entry.1 ≤ entry'.1
  /-- A request that has its result is not transmitted again, nor is one before it. -/
  answered : ∀ before onBehalf result after,
    gatewayEvents tr = before ++ .enqueued onBehalf result :: after → IsRequest onBehalf →
      ∃ position, (dequeued before).length = position + 1 ∧
        (requests tr)[position]? = some onBehalf ∧
        ∀ entry ∈ airings listed (dequeued before).length after, position < entry.1

/-- **Requests go on the air in arrival order, and a finished one never comes
back**, whichever transmissions are listed. -/
theorem air_order (listed : GatewayEvent → Bool) (ran : run (step cbor) init tr = some s) :
    AirOrder listed tr := by
  have gateway := run_gateway ran
  obtain ⟨waiting, admitted⟩ := dequeued_prefix ran
  have placed : Placed (requests tr) (airings listed 0 (gatewayEvents tr)) := by
    intro entry member
    have here := airings_placed gateway entry member
    obtain ⟨within, -⟩ := List.getElem?_eq_some_iff.mp here
    rw [requests, ← admitted, List.getElem?_append_left within]
    exact here
  have increasing := increasing_of_destutter placed (airings_forward listed 0 _)
  refine ⟨placed, increasing,
    sublist_of_placed (placed.sublist (List.destutter_sublist _ _)) increasing, ?_, ?_⟩
  · intro before after split entry member entry' member'
    have forward := airings_forward listed 0 (gatewayEvents tr)
    rw [split, airings_append, Nat.zero_add, List.map_append, List.pairwise_append] at forward
    exact forward.2.2 _ (List.mem_map_of_mem member) _ (List.mem_map_of_mem member')
  · intro before onBehalf result after split request
    rw [split] at gateway
    obtain ⟨mid, next, first, taken, rest⟩ := run_at gateway
    have shape := shape_of_run first
    have rule := step_iff.mp taken
    obtain ⟨atHand, idle⟩ := handling_of_answered request shape rule
    obtain ⟨older, last⟩ := handling_of_run first
    rw [atHand] at last
    have length : (dequeued before).length = older.length + 1 := by
      rw [← last, List.length_append, List.length_singleton]
    refine ⟨older.length, length, ?_, ?_⟩
    · have dequeuedFirst : dequeued (gatewayEvents tr) =
          older ++ onBehalf :: dequeued (.enqueued onBehalf result :: after) := by
        rw [split, dequeued, List.flatMap_append]
        change dequeued before ++ _ = _
        rw [← last, List.append_assoc]
        rfl
      rw [requests, ← admitted, dequeuedFirst]
      simp
    · intro entry member
      have ahead := airings_of_idle (shape_step shape rule) idle rest entry member
      omega

/-- A request is sent, and sent again. -/
theorem air_order_resent_request :
    AirOrder (fun _ => true)
      [.ingress .locked, .ingress (.received (.ok ("esp32/open", [1, 2, 3])) 1000),
        .ingress (.enqueued sampleRequest), .gateway (.received .timeout),
        .gateway (.polled (some sampleRequest)),
        .gateway (.sent sampleRequest.toLoraEnvelope (.ok ())), .gateway (.received .timeout),
        .gateway (.resent sampleRequest.toLoraEnvelope (.ok ()))] := by
  have ran : run (step .reference) init
      [.ingress .locked, .ingress (.received (.ok ("esp32/open", [1, 2, 3])) 1000),
        .ingress (.enqueued sampleRequest), .gateway (.received .timeout),
        .gateway (.polled (some sampleRequest)),
        .gateway (.sent sampleRequest.toLoraEnvelope (.ok ())), .gateway (.received .timeout),
        .gateway (.resent sampleRequest.toLoraEnvelope (.ok ()))] =
      some ⟨⟨.sleep, 1, 2⟩, .empty, ⟨.receive, some sampleRequest.toLoraEnvelope⟩⟩ := by
    decide
  exact air_order _ ran

end ForwardPath

end HaviliarIot
