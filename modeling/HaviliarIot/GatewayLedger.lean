import HaviliarIot.GatewayTraces
import Mathlib.Data.List.Perm.Subperm

/-!
The books of `task_lora_gateway`: what becomes of a request once it is dequeued,
and what a success result was earned with.

`pending_forward` has two tenants, a forwarded request waiting for its Ack and
the node's own Ack waiting for a Reply, and the frame dispatch does not tell them
apart.  An Open or a Reply that arrives while a request is the tenant evicts it
without a result; an Ack that arrives while the node's own Ack is the tenant is
reported as a success.  Both laws are proved as flows: `requests_flow` follows a
request from the channel to its answer and `credits_flow` a success from the
transmission it reports.  Each holds of a run exactly when no step is one of
those (`no_request_dropped_iff`, `success_earned_iff`).
-/

namespace HaviliarIot.GatewayLedger

open Runs GatewayTask

/-- A forwarded request, as opposed to the node's own Ack. -/
def IsRequest (e : LoraEnvelope) : Prop := e.msgType = .Open

instance : DecidablePred IsRequest := fun e => inferInstanceAs (Decidable (e.msgType = _))

/-- The request in the slot, if its tenant is one. -/
def awaiting (s : GatewayTask) : List LoraEnvelope := s.pendingForward.toList.filter IsRequest

/-- The request the gateway still has: in hand, or in the slot and not about to
be overwritten by the Ack of an Open that was just heard. -/
def kept (s : GatewayTask) : List LoraEnvelope :=
  match s.pc with
  | .forward request | .enqueueFailure request => [request.toLoraEnvelope]
  | .actuate _ | .sendAck _ => []
  | _ => awaiting s

/-- The requests this event answers. -/
def answered (event : GatewayEvent) : List LoraEnvelope :=
  (event.answers.map Prod.fst).filter IsRequest

/-- The requests this event reports as delivered. -/
def credited (event : GatewayEvent) : List LoraEnvelope :=
  ((event.answers.filter fun answer => IsSuccess answer.2).map Prod.fst).filter IsRequest

variable {cbor : Minicbor} {s s' : GatewayTask} {event : GatewayEvent} {tr : List GatewayEvent}

/-! ## No request is dropped -/

/-- No Open and no Reply arrives while a forwarded request is in the slot. -/
def Undisturbed (cbor : Minicbor) (s : GatewayTask) (event : GatewayEvent) : Prop :=
  ∀ envelope ∈ event.heard cbor, envelope.msgType = .Open ∨ envelope.msgType = .Reply →
    ∀ pending ∈ s.pendingForward, ¬ IsRequest pending

instance (s : GatewayTask) (event : GatewayEvent) : Decidable (Undisturbed cbor s event) :=
  inferInstanceAs (Decidable (∀ envelope ∈ event.heard cbor, _))

/-- Every dequeued request is in the slot or has a result of its own, which
carries its sequence number. -/
def NoRequestDropped (tr : List GatewayEvent) (s : GatewayTask) : Prop :=
  (dequeued tr).Subperm ((answers tr).map Prod.fst ++ s.pendingForward.toList) ∧
    ∀ answer ∈ answers tr, answer.2.seq = answer.1.seq

theorem isRequest_forward (request : ForwardRequest) : IsRequest request.toLoraEnvelope :=
  request.msgType_eq

theorem not_isRequest_ackFor (envelope : LoraEnvelope) : ¬ IsRequest (ackFor envelope) := by
  intro isOpen
  cases isOpen

/-- A step that hears nothing disturbs nothing. -/
private theorem undisturbed_of_silent (silent : event.heard cbor = none) :
    Undisturbed cbor s event := by
  intro envelope heard
  cases silent.symm.trans heard

/-- Nor does one that hears neither an Open nor a Reply. -/
private theorem undisturbed_of_heard {e : LoraEnvelope} (heard : event.heard cbor = some e)
    (notOpen : e.msgType ≠ .Open) (notReply : e.msgType ≠ .Reply) : Undisturbed cbor s event := by
  intro envelope heard' evicts
  cases heard.symm.trans heard'
  rcases evicts with isOpen | isReply
  · exact absurd isOpen notOpen
  · exact absurd isReply notReply

/-- An Open or a Reply costs the request in the slot, if there is one. -/
private theorem evicted {rx : RadioRx} {envelope : LoraEnvelope} (slot : Option LoraEnvelope)
    (heard : rx.heard cbor = some envelope)
    (evicts : envelope.msgType = .Open ∨ envelope.msgType = .Reply) :
    (awaiting ⟨.receive, slot⟩ = [] ∧ Undisturbed cbor ⟨.receive, slot⟩ (.received rx)) ∨
      ∃ pending, awaiting ⟨.receive, slot⟩ = [pending] ∧
        ¬ Undisturbed cbor ⟨.receive, slot⟩ (.received rx) := by
  cases slot with
  | none =>
    refine .inl ⟨rfl, ?_⟩
    intro _ _ _ _ held
    cases held
  | some pending =>
    by_cases request : IsRequest pending
    · refine .inr ⟨pending, by simp [awaiting, request], ?_⟩
      intro undisturbed
      exact undisturbed envelope heard evicts pending rfl request
    · refine .inl ⟨by simp [awaiting, request], ?_⟩
      intro _ _ _ _ held
      cases held
      exact request

/-- A step passes on what it had and what came in, or it is a disturbance and
loses what was in the slot. -/
theorem requests_step (shape : Shape s) (rule : GatewayStep cbor s event s') :
    (answered event ++ kept s' = kept s ++ event.dequeued ∧ Undisturbed cbor s event) ∨
      (answered event ++ kept s' = [] ∧ ∃ pending, kept s ++ event.dequeued = [pending] ∧
        ¬ Undisturbed cbor s event) := by
  cases rule with
  | @openHeard rx envelope slot heard isOpen =>
    rcases evicted slot heard (.inl isOpen) with ⟨empty, undisturbed⟩ | ⟨pending, lost, disturbed⟩
    · exact .inl ⟨by simpa [kept, answered, GatewayEvent.dequeued, GatewayEvent.answers]
        using empty.symm, undisturbed⟩
    · exact .inr ⟨rfl, pending, by simpa [kept, GatewayEvent.dequeued] using lost, disturbed⟩
  | @replyHeard rx envelope slot heard isReply =>
    rcases evicted slot heard (.inr isReply) with ⟨empty, undisturbed⟩ | ⟨pending, lost, disturbed⟩
    · exact .inl ⟨by simpa [kept, awaiting, answered, GatewayEvent.dequeued, GatewayEvent.answers]
        using empty, undisturbed⟩
    · exact .inr ⟨rfl, pending, by simpa [kept, GatewayEvent.dequeued] using lost, disturbed⟩
  | ackMatched heard isAck =>
    refine .inl ⟨?_, undisturbed_of_heard heard (by simp [isAck]) (by simp [isAck])⟩
    simp [kept, awaiting, answered, GatewayEvent.dequeued, GatewayEvent.answers]
  | ignored heard notOpen notReply =>
    refine .inl ⟨?_, undisturbed_of_heard heard notOpen notReply⟩
    simp [kept, awaiting, answered, GatewayEvent.dequeued, GatewayEvent.answers]
  | radioError failed =>
    refine .inl ⟨?_, undisturbed_of_silent (RadioRx.heard_of_error failed)⟩
    simp [kept, awaiting, answered, GatewayEvent.dequeued, GatewayEvent.answers]
  | @ackSent ack driver slot =>
    obtain ⟨envelope, rfl⟩ := shape.acking ack rfl
    refine .inl ⟨?_, undisturbed_of_silent rfl⟩
    simp [kept, awaiting, answered, GatewayEvent.dequeued, GatewayEvent.answers,
      not_isRequest_ackFor]
  | @forwarded request driver slot ok =>
    refine .inl ⟨?_, undisturbed_of_silent rfl⟩
    simp [kept, awaiting, answered, GatewayEvent.dequeued, GatewayEvent.answers,
      isRequest_forward]
  | @failureEnqueued request slot =>
    have empty : slot = none := shape.forwarding request (.inr rfl)
    subst empty
    refine .inl ⟨?_, undisturbed_of_silent rfl⟩
    simp [kept, awaiting, answered, GatewayEvent.dequeued, GatewayEvent.answers,
      isRequest_forward]
  | timedOut | backedOff | opened | replySent | successEnqueued | resent | polledEmpty
  | dequeued | forwardFailed =>
    refine .inl ⟨?_, undisturbed_of_silent rfl⟩
    simp [kept, awaiting, answered, GatewayEvent.dequeued, GatewayEvent.answers]

/-- What is answered and kept was dequeued, in order. -/
theorem requests_flow (ran : run (step cbor) init tr = some s) :
    (tr.flatMap answered ++ kept s).Sublist (dequeued tr) := by
  refine run_flow kept ?_ ran
  intro tr s event s' first taken
  rcases requests_step (shape_of_run first) (step_iff.mp taken) with
    ⟨balanced, -⟩ | ⟨lost, -⟩
  · rw [balanced]
  · rw [lost]
    exact List.nil_sublist _

/-- Nothing dequeued is missing exactly when the run was undisturbed. -/
theorem requests_flow_exact (ran : run (step cbor) init tr = some s) :
    Throughout (step cbor) (Undisturbed cbor) init tr ↔
      tr.flatMap answered ++ kept s = dequeued tr := by
  have lengths : Throughout (step cbor) (Undisturbed cbor) init tr ↔
      (tr.flatMap answered ++ kept s).length = (dequeued tr).length := by
    refine run_flow_exact kept ?_ ?_ ran
    · intro tr s event s' first taken
      rcases requests_step (shape_of_run first) (step_iff.mp taken) with
        ⟨balanced, -⟩ | ⟨lost, -⟩
      · rw [balanced]
      · rw [lost]
        exact List.nil_sublist _
    · intro tr s event s' first taken
      rcases requests_step (shape_of_run first) (step_iff.mp taken) with
        ⟨balanced, undisturbed⟩ | ⟨lost, pending, had, disturbed⟩
      · simp [balanced, undisturbed]
      · simp [lost, had, disturbed]
  rw [lengths]
  constructor
  · intro same
    exact (requests_flow ran).eq_of_length same
  · intro same
    rw [same]

/-- The views, filtered to requests. -/
theorem answered_eq (tr : List GatewayEvent) :
    tr.flatMap answered = ((answers tr).map Prod.fst).filter IsRequest := by
  rw [answers, List.map_flatMap, List.filter_flatMap]
  rfl

theorem isRequest_of_dequeued {e : LoraEnvelope} (member : e ∈ dequeued tr) : IsRequest e := by
  obtain ⟨event, -, here⟩ := List.mem_flatMap.mp member
  unfold GatewayEvent.dequeued at here
  split at here
  · rename_i request
    rw [List.mem_singleton.mp here]
    exact isRequest_forward request
  · cases here

/-- **No forwarded request is dropped**, at the head of the loop, exactly in the
runs where no Open and no Reply arrived while a forwarded request was in the
slot. -/
theorem no_request_dropped_iff (ran : run (step cbor) init tr = some s) (head : s.pc = .receive) :
    NoRequestDropped tr s ↔ Throughout (step cbor) (Undisturbed cbor) init tr := by
  have atHead : kept s = awaiting s := by
    rw [kept, head]
  have flow := requests_flow ran
  rw [requests_flow_exact ran, NoRequestDropped]
  rw [atHead, answered_eq] at flow ⊢
  constructor
  · rintro ⟨accounted, -⟩
    have requests : (dequeued tr).filter IsRequest = dequeued tr := by
      apply List.filter_eq_self.mpr
      intro e member
      exact decide_eq_true (isRequest_of_dequeued member)
    have enough := (accounted.filter fun e => decide (IsRequest e)).length_le
    rw [requests, List.filter_append] at enough
    exact flow.eq_of_length_le enough
  · intro exactly
    refine ⟨?_, answers_seq ran⟩
    rw [← exactly]
    exact (List.Sublist.append List.filter_sublist List.filter_sublist).subperm

/-- A Reply frame on the air. -/
def replyFrame : List UInt8 := OutgoingFrame.framed (.new .Reply 9 500 0 [])

/-- A Counter is heard while a request waits for its Ack, and an Open once the Ack has
come and the slot is empty again. -/
def servedRun : List GatewayEvent :=
  let request := sampleRequest.toLoraEnvelope
  let result := successResult request (ackFor request)
  let counter : LoraEnvelope := .new .Counter 0 800 0 [7]
  let opener : LoraEnvelope := .new .Open 3 900 0 []
  [.received .timeout, .polled (some sampleRequest), .sent request (.ok ()),
    .received (.done (.ok (OutgoingFrame.framed counter, sampleStatus))), .resent request (.ok ()),
    .received (.done (.ok (OutgoingFrame.framed (ackFor request), sampleStatus))),
    .sent result (.ok ()), .enqueued request result, .polled none,
    .received (.done (.ok (OutgoingFrame.framed opener, sampleStatus))), .opened opener,
    .sent (ackFor opener) (.ok ()), .resent (ackFor opener) (.ok ())]

theorem no_request_dropped_in_served_run :
    NoRequestDropped servedRun ⟨.receive, some (ackFor (.new .Open 3 900 0 []))⟩ := by
  have ran : run (step .reference) init servedRun =
      some ⟨.receive, some (ackFor (.new .Open 3 900 0 []))⟩ := by decide
  exact (no_request_dropped_iff ran rfl).mpr (by decide)

/-- A Reply nobody is waiting for evicts the request in the slot: the gateway is
back at the head of its loop with nothing pending and no result enqueued. -/
theorem reply_drops_request :
    ¬ ∀ tr s, run (step .reference) init tr = some s → s.pc = .receive → NoRequestDropped tr s := by
  intro never
  have dropped := never
    [.received .timeout, .polled (some sampleRequest),
      .sent sampleRequest.toLoraEnvelope (.ok ()),
      .received (.done (.ok (replyFrame, sampleStatus))), .polled none]
    ⟨.receive, none⟩ (by decide) rfl
  have missing := dropped.1
  simp [dequeued, answers, GatewayEvent.dequeued, GatewayEvent.answers] at missing

/-! ## Every success was earned -/

/-- No Ack arrives that carries the sequence number of the node's own Ack in the
slot. -/
def AcksForwards (cbor : Minicbor) (s : GatewayTask) (event : GatewayEvent) : Prop :=
  ∀ ack ∈ event.heard cbor, ack.msgType = .Ack →
    ∀ pending ∈ s.pendingForward, pending.seq = ack.seq → IsRequest pending

instance (s : GatewayTask) (event : GatewayEvent) : Decidable (AcksForwards cbor s event) :=
  inferInstanceAs (Decidable (∀ ack ∈ event.heard cbor, _))

/-- What the success results of a trace were earned with. -/
structure SuccessesEarned (cbor : Minicbor) (tr : List GatewayEvent) : Prop where
  /-- Requests transmitted were dequeued. -/
  dequeued : (forwarded tr).Sublist (dequeued tr)
  /-- Distinct successes answer distinct transmitted requests. -/
  matched : ((successes tr).map Prod.fst).Subperm (forwarded tr)
  seq : ∀ answer ∈ successes tr, answer.2.seq = answer.1.seq
  /-- Of no sequence number are there more successes than transmissions. -/
  counted : ∀ seq : UInt16, (successes tr).countP (fun answer => answer.2.seq = seq) ≤
    (forwarded tr).countP (fun request => request.seq = seq)
  /-- A success answers the request that was in the slot at that moment. -/
  awaited : ∀ before onBehalf result after, tr = before ++ .enqueued onBehalf result :: after →
    IsSuccess result → onBehalf ∈ forwarded before ∧
      ∃ s, run (step cbor) init before = some s ∧ s.pendingForward = some onBehalf

/-- In the Ack branch, the tenant of the slot is a request. -/
def Honest (s : GatewayTask) : Prop :=
  ∀ result, s.pc = .sendReply result ∨ s.pc = .enqueueSuccess result →
    ∀ pending ∈ s.pendingForward, IsRequest pending

/-- What a success credits, and what the slot still waits for, was in the slot or
was just transmitted. -/
theorem credits_step (shape : Shape s) (rule : GatewayStep cbor s event s') :
    (credited event ++ awaiting s').Sublist (awaiting s ++ event.forwarded) := by
  cases rule with
  | replyHeard heard isReply => exact List.nil_sublist _
  | @ackSent ack driver slot =>
    obtain ⟨envelope, rfl⟩ := shape.acking ack rfl
    simp [credited, awaiting, GatewayEvent.answers, not_isRequest_ackFor]
  | @successEnqueued result pending =>
    by_cases success : IsSuccess result
    · simp [credited, awaiting, GatewayEvent.answers, GatewayEvent.forwarded, success]
    · simp [credited, awaiting, GatewayEvent.answers, success]
  | @forwarded request driver slot ok =>
    have empty : slot = none := shape.forwarding request (.inl rfl)
    subst empty
    simp [credited, awaiting, GatewayEvent.answers, GatewayEvent.forwarded, isRequest_forward,
      request.msgType_eq, ok]
  | @failureEnqueued request slot =>
    have failure := not_isSuccess_of_isFailure (isFailure_failureResult request.toLoraEnvelope)
    simp [credited, awaiting, GatewayEvent.answers, failure]
  | _ => simp [credited, awaiting, GatewayEvent.answers]

theorem credits_flow (ran : run (step cbor) init tr = some s) :
    (tr.flatMap credited ++ awaiting s).Sublist (forwarded tr) :=
  run_flow awaiting
    (fun first taken => credits_step (shape_of_run first) (step_iff.mp taken)) ran

/-- Outside the Ack branch there is nothing to be dishonest about. -/
private theorem honest_elsewhere
    (elsewhere : ∀ result, ¬ (s.pc = .sendReply result ∨ s.pc = .enqueueSuccess result)) :
    Honest s := fun result inBranch => absurd inBranch (elsewhere result)

/-- A step that hears nothing matches no Ack. -/
private theorem acksForwards_of_silent (silent : event.heard cbor = none) :
    AcksForwards cbor s event := by
  intro ack heard
  cases silent.symm.trans heard

/-- Nor does one whose Ack, if it hears one, is for something else. -/
private theorem acksForwards_of_heard {e : LoraEnvelope} (heard : event.heard cbor = some e)
    (unmatched : e.msgType = .Ack → ∀ pending, s.pendingForward = some pending →
      pending.seq ≠ e.seq) : AcksForwards cbor s event := by
  intro ack heard' isAck pending held same
  cases heard.symm.trans heard'
  exact absurd same (unmatched isAck pending held)

/-- A step outside the Ack branch that enqueues nothing and matches no Ack. -/
private theorem honest_step_elsewhere (unanswered : event.answers = [])
    (before : ∀ result, ¬ (s.pc = .sendReply result ∨ s.pc = .enqueueSuccess result))
    (after : ∀ result, ¬ (s'.pc = .sendReply result ∨ s'.pc = .enqueueSuccess result))
    (forwards : AcksForwards cbor s event) :
    (∀ answer ∈ event.answers, IsSuccess answer.2 → IsRequest answer.1) ∧ Honest s' ↔
      Honest s ∧ AcksForwards cbor s event := by
  refine iff_of_true ⟨?_, honest_elsewhere after⟩ ⟨honest_elsewhere before, forwards⟩
  intro answer member
  rw [unanswered] at member
  cases member

/-- A success answers a request unless an Ack was just matched against the node's
own. -/
theorem honest_step (shape : Shape s) (rule : GatewayStep cbor s event s') :
    (∀ answer ∈ event.answers, IsSuccess answer.2 → IsRequest answer.1) ∧ Honest s' ↔
      Honest s ∧ AcksForwards cbor s event := by
  cases rule with
  | @ackMatched rx ack pending heard isAck same =>
    constructor
    · rintro ⟨-, honest⟩
      refine ⟨honest_elsewhere (by simp), ?_⟩
      intro ack' heard' isAck' pending' held same'
      exact honest _ (.inl rfl) pending' held
    · rintro ⟨-, forwards⟩
      refine ⟨by simp [GatewayEvent.answers], ?_⟩
      intro result inBranch pending' held
      cases held
      exact forwards ack heard isAck pending rfl same
  | @replySent result driver slot =>
    constructor
    · rintro ⟨-, honest⟩
      refine ⟨?_, acksForwards_of_silent rfl⟩
      intro result' _ pending held
      exact honest result (.inr rfl) pending held
    · rintro ⟨honest, -⟩
      refine ⟨by simp [GatewayEvent.answers], ?_⟩
      intro result' _ pending held
      exact honest result (.inl rfl) pending held
  | @successEnqueued result pending =>
    obtain ⟨pending', ack, held, rfl⟩ := shape.replying result (.inr rfl)
    constructor
    · rintro ⟨good, -⟩
      refine ⟨?_, acksForwards_of_silent rfl⟩
      intro _ _ pending'' held''
      cases held''
      exact good (pending, _) (List.mem_singleton_self _) (isSuccess_successResult pending' ack)
    · rintro ⟨honest, -⟩
      refine ⟨?_, honest_elsewhere (by simp)⟩
      intro answer member _
      rw [List.mem_singleton.mp member]
      exact honest _ (.inr rfl) pending rfl
  | @failureEnqueued request slot =>
    have failure := not_isSuccess_of_isFailure (isFailure_failureResult request.toLoraEnvelope)
    refine iff_of_true ⟨?_, honest_elsewhere (by simp)⟩
      ⟨honest_elsewhere (by simp), acksForwards_of_silent rfl⟩
    intro answer member success
    rw [List.mem_singleton.mp member] at success
    exact absurd success failure
  | ignored heard notOpen notReply unmatched =>
    exact honest_step_elsewhere rfl (by simp) (by simp) (acksForwards_of_heard heard unmatched)
  | openHeard heard isOpen =>
    exact honest_step_elsewhere rfl (by simp) (by simp)
      (acksForwards_of_heard heard (by simp [isOpen]))
  | replyHeard heard isReply =>
    exact honest_step_elsewhere rfl (by simp) (by simp)
      (acksForwards_of_heard heard (by simp [isReply]))
  | radioError failed =>
    exact honest_step_elsewhere rfl (by simp) (by simp)
      (acksForwards_of_silent (RadioRx.heard_of_error failed))
  | timedOut | backedOff | opened | ackSent | resent | polledEmpty | dequeued | forwarded
  | forwardFailed =>
    exact honest_step_elsewhere rfl (by simp) (by simp) (acksForwards_of_silent rfl)

theorem credited_eq (tr : List GatewayEvent) :
    tr.flatMap credited = ((successes tr).map Prod.fst).filter IsRequest := by
  rw [successes, answers, List.filter_flatMap, List.map_flatMap, List.filter_flatMap]
  rfl

/-- Every success of a run answers a request, and none is under way for anything
else, exactly when no Ack was matched against the node's own. -/
theorem throughout_acksForwards (ran : run (step cbor) init tr = some s) :
    Throughout (step cbor) (AcksForwards cbor) init tr ↔
      (∀ answer ∈ successes tr, IsRequest answer.1) ∧ Honest s := by
  rw [throughout_iff (fun event => ∀ answer ∈ event.answers,
    IsSuccess answer.2 → IsRequest answer.1) Honest (honest_elsewhere (by simp [init]))
    (fun first taken => honest_step (shape_of_run first) (step_iff.mp taken)) ran]
  simp only [successes, answers, List.mem_filter, List.mem_flatMap, decide_eq_true_eq, and_imp,
    forall_exists_index]
  constructor
  · rintro ⟨good, honest⟩
    exact ⟨fun answer event inTrace member success => good event inTrace answer member success,
      honest⟩
  · rintro ⟨good, honest⟩
    exact ⟨fun event inTrace answer member success => good answer event inTrace member success,
      honest⟩

/-- The request about to go on the air. -/
private def sending (s : GatewayTask) : List LoraEnvelope :=
  match s.pc with
  | .forward request => [request.toLoraEnvelope]
  | _ => []

/-- Every transmission attempted is of a request of its own, in order. -/
theorem attempts_sublist (ran : run (step cbor) init tr = some s) :
    (tr.flatMap fun event => event.forwarded ++ event.refused).Sublist (dequeued tr) := by
  have flow : ((tr.flatMap fun event => event.forwarded ++ event.refused) ++ sending s).Sublist
      (dequeued tr) := by
    refine run_flow sending ?_ ran
    intro tr s event s' first taken
    have shape := shape_of_run first
    cases step_iff.mp taken with
    | @ackSent ack driver slot =>
      obtain ⟨envelope, rfl⟩ := shape.acking ack rfl
      simp [GatewayEvent.forwarded, GatewayEvent.refused, sending, ackFor, LoraEnvelope.new]
    | @replySent result driver slot =>
      obtain ⟨pending, ack, -, rfl⟩ := shape.replying result (.inl rfl)
      simp [GatewayEvent.forwarded, GatewayEvent.refused, sending, successResult, LoraEnvelope.new]
    | @forwarded request driver slot ok =>
      simp [GatewayEvent.forwarded, GatewayEvent.refused, GatewayEvent.dequeued, sending,
        request.msgType_eq, ok]
    | @forwardFailed request driver e slot failed =>
      simp [GatewayEvent.forwarded, GatewayEvent.refused, GatewayEvent.dequeued, sending,
        request.msgType_eq, failed]
    | _ => simp [GatewayEvent.forwarded, GatewayEvent.refused, GatewayEvent.dequeued, sending]
  exact (List.sublist_append_left _ _).trans flow

/-- A request is transmitted or refused, and only once. -/
theorem attempts_subperm (ran : run (step cbor) init tr = some s) :
    (forwarded tr ++ refused tr).Subperm (dequeued tr) :=
  (List.flatMap_append_perm tr GatewayEvent.forwarded GatewayEvent.refused).subperm.trans
    (attempts_sublist ran).subperm

theorem forwarded_sublist_dequeued (ran : run (step cbor) init tr = some s) :
    (forwarded tr).Sublist (dequeued tr) := by
  refine List.Sublist.trans ?_ (attempts_sublist ran)
  clear ran
  induction tr with
  | nil => exact List.Sublist.refl _
  | cons event rest ih => exact (List.sublist_append_left _ _).append ih

/-- A failure is reported for a request whose transmission was refused. -/
theorem refused_of_failure (ran : run (step cbor) init tr = some s) :
    ∀ answer ∈ answers tr, IsFailure answer.2 → answer.1 ∈ refused tr := by
  have both : (∀ answer ∈ answers tr, IsFailure answer.2 → answer.1 ∈ refused tr) ∧
      ∀ request, s.pc = .enqueueFailure request → request.toLoraEnvelope ∈ refused tr := by
    refine run_induction (P := fun tr s =>
      (∀ answer ∈ answers tr, IsFailure answer.2 → answer.1 ∈ refused tr) ∧
      ∀ request, s.pc = .enqueueFailure request → request.toLoraEnvelope ∈ refused tr) ?_ ?_ ran
    · refine ⟨?_, ?_⟩
      · intro answer member
        cases member
      · intro request reporting
        cases reporting
    · rintro tr s event s' first ⟨before, reporting⟩ taken
      have kept : ∀ {e}, e ∈ refused tr → e ∈ refused (tr ++ [event]) := by
        intro e member
        rw [refused, List.flatMap_append]
        exact List.mem_append_left _ member
      have rule := step_iff.mp taken
      refine ⟨?_, ?_⟩
      · intro answer member failure
        rw [answers, List.flatMap_append, List.mem_append] at member
        rcases member with member | member
        · exact kept (before answer member failure)
        · cases rule with
          | @failureEnqueued request slot =>
            rw [List.flatMap_singleton, GatewayEvent.answers, List.mem_singleton] at member
            rw [member]
            exact kept (reporting request rfl)
          | @successEnqueued result pending =>
            rw [List.flatMap_singleton, GatewayEvent.answers, List.mem_singleton] at member
            obtain ⟨_, ack, -, rfl⟩ := (shape_of_run first).replying result (.inr rfl)
            rw [member] at failure
            exact absurd (isSuccess_successResult _ ack) (not_isSuccess_of_isFailure failure)
          | _ => cases member
      · intro request inHand
        cases rule with
        | @forwardFailed request' driver e slot failed =>
          cases inHand
          simp [refused, GatewayEvent.refused, request.msgType_eq, failed]
        | _ => cases inHand
  exact both.1

/-- A request reported as not sent shares its number with none that was, when the
requests dequeued have different ones. -/
theorem seq_ne_of_failure {request result e : LoraEnvelope} (ran : run (step cbor) init tr = some s)
    (nodup : ((dequeued tr).map fun e => e.seq).Nodup) (answered : (request, result) ∈ answers tr)
    (failure : IsFailure result) (sent : e ∈ forwarded tr) : e.seq ≠ request.seq := by
  have refused := refused_of_failure ran _ answered failure
  obtain ⟨attempts, perm, among⟩ := attempts_subperm ran
  have apart : ((forwarded tr ++ HaviliarIot.refused tr).map fun e => e.seq).Nodup :=
    (perm.map _).nodup_iff.mp ((among.map _).nodup nodup)
  rw [List.map_append, List.nodup_append] at apart
  exact apart.2.2 _ (List.mem_map_of_mem sent) _ (List.mem_map_of_mem refused)

theorem isRequest_of_forwarded {e : LoraEnvelope} (member : e ∈ forwarded tr) : IsRequest e := by
  obtain ⟨event, -, here⟩ := List.mem_flatMap.mp member
  unfold GatewayEvent.forwarded at here
  split at here
  · split at here
    · rename_i sent
      rw [List.mem_singleton.mp here]
      exact sent.1
    · cases here
  · cases here

/-- Where the loop stands when a success is enqueued. -/
theorem enqueueing_of_success {onBehalf result : LoraEnvelope} (success : IsSuccess result)
    (rule : GatewayStep cbor s (.enqueued onBehalf result) s') :
    s.pc = .enqueueSuccess result ∧ s.pendingForward = some onBehalf := by
  cases rule with
  | successEnqueued => exact ⟨rfl, rfl⟩
  | failureEnqueued =>
    exact absurd success (not_isSuccess_of_isFailure (isFailure_failureResult _))

/-- Successes that all answer requests answer distinct transmissions. -/
private theorem matched_of_requests (ran : run (step cbor) init tr = some s)
    (requests : ∀ answer ∈ successes tr, IsRequest answer.1) :
    ((successes tr).map Prod.fst).Sublist (forwarded tr) := by
  have flow := (List.sublist_append_left _ _).trans (credits_flow ran)
  rw [credited_eq, List.filter_eq_self.mpr] at flow
  · exact flow
  · intro e member
    obtain ⟨answer, among, rfl⟩ := List.mem_map.mp member
    exact decide_eq_true (requests answer among)

theorem successes_seq (ran : run (step cbor) init tr = some s) :
    ∀ answer ∈ successes tr, answer.2.seq = answer.1.seq :=
  fun answer member => answers_seq ran answer (List.mem_filter.mp member).1

theorem earned_of_throughout (ran : run (step cbor) init tr = some s)
    (met : Throughout (step cbor) (AcksForwards cbor) init tr) : SuccessesEarned cbor tr := by
  have matched := matched_of_requests ran ((throughout_acksForwards ran).mp met).1
  have seq := successes_seq ran
  constructor
  · exact forwarded_sublist_dequeued ran
  · exact matched.subperm
  · exact seq
  · intro n
    have bound := matched.countP_le (p := fun request => decide (request.seq = n))
    rw [List.countP_map] at bound
    refine le_trans (le_of_eq ?_) bound
    apply List.countP_congr
    intro answer member
    simp [seq answer member]
  · intro before onBehalf result after split success
    subst split
    obtain ⟨mid, next, first, taken, rest⟩ := run_at ran
    have held := (enqueueing_of_success success (step_iff.mp taken)).2
    -- the prefix that ends with this success still meets the condition
    have upto : run (step cbor) init (before ++ [.enqueued onBehalf result]) = some next :=
      run_snoc.mpr ⟨mid, first, taken⟩
    have metUpto : Throughout (step cbor) (AcksForwards cbor) init
        (before ++ [.enqueued onBehalf result]) := by
      rw [List.append_cons] at met
      exact ((throughout_append upto).mp met).1
    have request : IsRequest onBehalf := by
      refine ((throughout_acksForwards upto).mp metUpto).1 (onBehalf, result) ?_
      simp [successes, answers, GatewayEvent.answers, success]
    refine ⟨?_, mid, first, held⟩
    refine (credits_flow first).subset (List.mem_append_right _ ?_)
    simp [awaiting, held, request]

/-- **Every success was earned** in the runs where no Ack was matched against the
node's own Ack, and only in them; the converse is read at the head of the loop,
where no result is under way. -/
theorem success_earned_iff (ran : run (step cbor) init tr = some s) :
    (Throughout (step cbor) (AcksForwards cbor) init tr → SuccessesEarned cbor tr) ∧
      (s.pc = .receive → SuccessesEarned cbor tr →
        Throughout (step cbor) (AcksForwards cbor) init tr) := by
  refine ⟨earned_of_throughout ran, ?_⟩
  intro head earned
  rw [throughout_acksForwards ran]
  refine ⟨?_, honest_elsewhere (by simp [head])⟩
  intro answer member
  exact isRequest_of_forwarded (earned.matched.subset (List.mem_map_of_mem member))

/-- The Ack of a request with sequence number `1`, on the air. -/
def ackFrame : List UInt8 := OutgoingFrame.framed (ackFor sampleRequest.toLoraEnvelope)

/-- A run in which a request is forwarded, acknowledged and reported. -/
def acknowledgedRun : List GatewayEvent :=
  let result := successResult sampleRequest.toLoraEnvelope (ackFor sampleRequest.toLoraEnvelope)
  [.received .timeout, .polled (some sampleRequest), .sent sampleRequest.toLoraEnvelope (.ok ()),
    .received (.done (.ok (ackFrame, sampleStatus))), .sent result (.ok ()),
    .enqueued sampleRequest.toLoraEnvelope result, .polled none]

theorem acknowledged_run_earned : SuccessesEarned .reference acknowledgedRun := by
  have ran : run (step .reference) init acknowledgedRun = some ⟨.receive, none⟩ := by decide
  exact (success_earned_iff ran).1 (by decide)

/-- The node's own Ack, taken for the request it never sent: an Open is answered,
and an Ack with its sequence number then makes the node report a success without
having forwarded anything. -/
theorem answering_earns_success :
    ¬ ∀ tr s, run (step .reference) init tr = some s → SuccessesEarned .reference tr := by
  intro always
  let opener := sampleRequest.toLoraEnvelope
  let ack := ackFor opener
  let result := successResult ack ack
  have earned := always
    [.received (.done (.ok (OutgoingFrame.framed opener, sampleStatus))), .opened opener,
      .sent ack (.ok ()), .resent ack (.ok ()), .received (.done (.ok (ackFrame, sampleStatus))),
      .sent result (.ok ()), .enqueued ack result, .polled none]
    ⟨.receive, none⟩ (by decide)
  exact absurd (earned.counted 1) (by decide)

end HaviliarIot.GatewayLedger
