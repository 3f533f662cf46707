import HaviliarIot.GatewayLedger
import HaviliarIot.Roles

/-!
What a gateway and a device agree on, over any medium that forges nothing.

`Accord` is the invariant of the closed system: the gateway is a requester, the
device a responder, and every frame on the air is traced to the history.  A frame
to the device is an Open the gateway dequeued and transmitted, or a Reply; a frame
to the gateway is the Ack of an Open the device handled.  So the gateway hears
nothing but Acks, and its books always balance.

The rest needs that requests can be told apart.  Fewer than `2^16` of them have
distinct sequence numbers, so an Ack can only be for the request in the slot, and
a request that could not be transmitted shares its number with no frame.
-/

namespace HaviliarIot.TwoNode

open Runs GatewayLedger

/-- The device received this Open, which the gateway had transmitted. -/
structure Heard (cbor : Minicbor) (tr : List NetLabel) (e : LoraEnvelope) : Prop where
  sent : e ∈ forwarded (aTrace tr)
  heard : ∃ rx, NetLabel.b (.received rx) ∈ tr ∧ rx.heard cbor = some e

/-- The device received this Open and opened the gate for it. -/
structure Handled (cbor : Minicbor) (tr : List NetLabel) (e : LoraEnvelope) : Prop
    extends Heard cbor tr e where
  opened : NetLabel.b (.opened e) ∈ tr

/-- The history behind every frame and every slot. -/
structure Accord (cbor : Minicbor) (tr : List NetLabel) (s : TwoNode) : Prop where
  requesting : Requesting (· ∈ forwarded (aTrace tr)) (Handled cbor tr) s.a
  responding : Responding (Heard cbor tr) (Handled cbor tr) s.b
  toA : ∀ frame ∈ s.toA, ∃ opener, frame = OutgoingFrame.framed (ackFor opener) ∧
    Handled cbor tr opener
  toB : ∀ frame ∈ s.toB, ∃ e, frame = OutgoingFrame.framed e ∧ e.intoOutgoing.isSome ∧
    (e ∈ forwarded (aTrace tr) ∨ e.msgType = .Reply)
  acksOnly : ∀ event ∈ aTrace tr, ∀ e, event.heard cbor = some e → e.msgType = .Ack
  requestsOnly : ∀ answer ∈ answers (aTrace tr), IsRequest answer.1
  sentOnly : ∀ rx, .b (.received rx) ∈ tr → ∀ e, rx.heard cbor = some e → e.msgType = .Open →
    e ∈ forwarded (aTrace tr)
  openings : ∀ e, .b (.opened e) ∈ tr → Handled cbor tr e

variable {cbor : Minicbor} {medium : Medium Frame} {s s' : TwoNode} {label : NetLabel}
  {tr : List NetLabel} {event : GatewayEvent} {air air' : List Frame} {e : LoraEnvelope}

/-! ## The history only grows -/

private theorem forwarded_mono (label : NetLabel) (member : e ∈ forwarded (aTrace tr)) :
    e ∈ forwarded (aTrace (tr ++ [label])) := by
  rw [aTrace_snoc, forwarded, List.flatMap_append]
  exact List.mem_append_left _ member

private theorem Heard.mono (label : NetLabel) (heard : Heard cbor tr e) :
    Heard cbor (tr ++ [label]) e := by
  obtain ⟨sent, rx, member, same⟩ := heard
  exact ⟨forwarded_mono label sent, rx, List.mem_append_left _ member, same⟩

private theorem Handled.mono (label : NetLabel) (handled : Handled cbor tr e) :
    Handled cbor (tr ++ [label]) e :=
  ⟨handled.toHeard.mono label, List.mem_append_left _ handled.opened⟩

/-! ## What is heard was on the air -/

theorem hear_subset (heard : event.hear medium air = some air') : air' ⊆ air := by
  unfold GatewayEvent.hear at heard
  split at heard
  · exact (medium.deliver_sound heard).2
  · cases heard
    exact List.Subset.refl _

theorem frame_of_heard (heard : event.hear medium air = some air')
    (is : event.heard cbor = some e) :
    ∃ frame ∈ air, ∃ status, (RadioRx.done (.ok (frame, status))).heard cbor = some e := by
  cases event with
  | received rx =>
    cases rx with
    | timeout => cases is
    | done driver =>
      cases driver with
      | error failure => cases is
      | ok received => exact ⟨received.1, (medium.deliver_sound heard).1, received.2, is⟩
  | _ => cases is

/-- The gateway hears the Ack of something the device handled. -/
theorem Accord.hears_a (accord : Accord cbor tr s) (heard : event.hear medium s.toA = some air')
    (is : event.heard cbor = some e) : ∃ opener, e = ackFor opener ∧ Handled cbor tr opener := by
  obtain ⟨frame, onAir, status, decoded⟩ := frame_of_heard heard is
  obtain ⟨opener, rfl, handled⟩ := accord.toA frame onAir
  rw [RadioRx.heard_framed (GatewayTask.ackFor_fits opener)] at decoded
  cases decoded
  exact ⟨opener, rfl, handled⟩

/-- The device hears a request the gateway transmitted, or a Reply. -/
theorem Accord.hears_b (accord : Accord cbor tr s) (heard : event.hear medium s.toB = some air')
    (is : event.heard cbor = some e) : e ∈ forwarded (aTrace tr) ∨ e.msgType = .Reply := by
  obtain ⟨frame, onAir, status, decoded⟩ := frame_of_heard heard is
  obtain ⟨e', rfl, fits, origin⟩ := accord.toB frame onAir
  rw [RadioRx.heard_framed fits] at decoded
  cases decoded
  exact origin

/-! ## The invariant -/

theorem accord_init : Accord cbor [] init := by
  refine ⟨.init, .init, ?_, ?_, ?_, ?_, ?_, ?_⟩
  · intro frame onAir
    cases onAir
  · intro frame onAir
    cases onAir
  · intro event member
    cases member
  · intro answer member
    cases member
  · intro rx member
    cases member
  · intro e member
    cases member

/-- Nothing is lost of the accord when neither node moves and no frame is added. -/
private theorem accord_quiet (accord : Accord cbor tr s) (ofA : label.ofA = none)
    (ofB : label.ofB = none) (sameA : s'.a = s.a) (sameB : s'.b = s.b) (toA : s'.toA ⊆ s.toA)
    (toB : s'.toB ⊆ s.toB) : Accord cbor (tr ++ [label]) s' := by
  have traceA : aTrace (tr ++ [label]) = aTrace tr := by
    rw [aTrace_snoc, ofA, Option.toList_none, List.append_nil]
  have notB : ∀ event, NetLabel.b event ∈ tr ++ [label] → NetLabel.b event ∈ tr := by
    intro event member
    rcases List.mem_append.mp member with member | member
    · exact member
    · rw [← List.mem_singleton.mp member] at ofB
      cases ofB
  constructor
  · rw [sameA, traceA]
    exact accord.requesting.mono (fun _ sent => sent) fun _ handled => handled.mono label
  · rw [sameB]
    exact accord.responding.mono (fun _ heard => heard.mono label) fun _ handled =>
      handled.mono label
  · intro frame onAir
    obtain ⟨opener, framed, handled⟩ := accord.toA frame (toA onAir)
    exact ⟨opener, framed, handled.mono label⟩
  · rw [traceA]
    exact fun frame onAir => accord.toB frame (toB onAir)
  · rw [traceA]
    exact accord.acksOnly
  · rw [traceA]
    exact accord.requestsOnly
  · rw [traceA]
    exact fun rx member => accord.sentOnly rx (notB _ member)
  · exact fun e member => (accord.openings e (notB _ member)).mono label

/-- A step of the gateway keeps the accord: it hears an Ack, and airs a request it
transmitted or a Reply. -/
private theorem accord_a (accord : Accord cbor tr s) (shape : s.a.Shape)
    (taken : step cbor medium s (.a event) = some s') : Accord cbor (tr ++ [.a event]) s' := by
  obtain ⟨a, rule, forward, -, toA, heard, rfl⟩ := step_a.mp taken
  have traceA : aTrace (tr ++ [.a event]) = aTrace tr ++ [event] := aTrace_snoc tr _
  have sent : ∀ e, e ∈ forwarded (aTrace tr) → e ∈ forwarded (aTrace (tr ++ [.a event])) :=
    fun e => forwarded_mono _
  have sends : ∀ e ∈ event.forwarded, e ∈ forwarded (aTrace (tr ++ [.a event])) := by
    intro e member
    rw [traceA, forwarded, List.flatMap_append, List.flatMap_singleton]
    exact List.mem_append_right _ member
  have notB : ∀ event', NetLabel.b event' ∈ tr ++ [.a event] → NetLabel.b event' ∈ tr := by
    intro event' member
    simpa using member
  have requesting := accord.requesting.mono sent fun _ handled => handled.mono (.a event)
  constructor
  · refine requesting.step rule ?_ sends
    intro e is
    obtain ⟨opener, same, handled⟩ := accord.hears_a heard is
    exact ⟨opener, same, handled.mono _⟩
  · exact accord.responding.mono (fun _ heard => heard.mono _) fun _ handled => handled.mono _
  · intro frame onAir
    obtain ⟨opener, framed, handled⟩ := accord.toA frame (hear_subset heard onAir)
    exact ⟨opener, framed, handled.mono _⟩
  · intro frame onAir
    rcases List.mem_append.mp onAir with onAir | onAir
    · obtain ⟨e, framed, fits, origin⟩ := accord.toB frame onAir
      exact ⟨e, framed, fits, origin.imp_left (sent e)⟩
    · exact requesting.airs shape rule sends onAir
  · rw [traceA]
    intro event' member e is
    rcases List.mem_append.mp member with member | member
    · exact accord.acksOnly event' member e is
    · rw [List.mem_singleton.mp member] at is
      obtain ⟨opener, rfl, -⟩ := accord.hears_a heard is
      rfl
  · rw [traceA, answers, List.flatMap_append, List.flatMap_singleton]
    intro answer member
    rcases List.mem_append.mp member with member | member
    · exact accord.requestsOnly answer member
    · exact accord.requesting.answers_request rule (fun e => isRequest_of_forwarded) answer member
  · exact fun rx member e is isOpen => sent e (accord.sentOnly rx (notB _ member) e is isOpen)
  · exact fun e member => (accord.openings e (notB _ member)).mono _

/-- A step of the device keeps the accord: it hears a request the gateway
transmitted or a Reply, and airs the Ack of something it handled. -/
private theorem accord_b (accord : Accord cbor tr s)
    (taken : step cbor medium s (.b event) = some s') : Accord cbor (tr ++ [.b event]) s' := by
  obtain ⟨idle, b, rule, toB, heard, rfl⟩ := step_b.mp taken
  have traceA : aTrace (tr ++ [.b event]) = aTrace tr := by
    rw [aTrace_snoc]
    exact List.append_nil _
  have responding := accord.responding.mono (fun _ heard => heard.mono (.b event)) fun _ handled =>
    handled.mono (.b event)
  have opens : ∀ e, event = .opened e → Heard cbor (tr ++ [.b event]) e →
      Handled cbor (tr ++ [.b event]) e := by
    intro e isOpened was
    subst isOpened
    exact ⟨was, List.mem_append_right _ (List.mem_singleton_self _)⟩
  constructor
  · rw [traceA]
    exact accord.requesting.mono (fun _ sent => sent) fun _ handled => handled.mono _
  · refine responding.step rule idle ?_ opens
    intro e is
    rcases accord.hears_b heard is with origin | isReply
    · refine .inl ⟨isRequest_of_forwarded origin, forwarded_mono _ origin, ?_⟩
      cases event with
      | received rx => exact ⟨rx, List.mem_append_right _ (List.mem_singleton_self _), is⟩
      | _ => cases is
    · exact .inr isReply
  · intro frame onAir
    rcases List.mem_append.mp onAir with onAir | onAir
    · obtain ⟨opener, framed, handled⟩ := accord.toA frame onAir
      exact ⟨opener, framed, handled.mono _⟩
    · exact responding.airs rule onAir
  · rw [traceA]
    exact fun frame onAir => accord.toB frame (hear_subset heard onAir)
  · rw [traceA]
    exact accord.acksOnly
  · rw [traceA]
    exact accord.requestsOnly
  · rw [traceA]
    intro rx member e is isOpen
    rcases List.mem_append.mp member with member | member
    · exact accord.sentOnly rx member e is isOpen
    · cases List.mem_singleton.mp member
      rcases accord.hears_b heard is with origin | isReply
      · exact origin
      · cases isOpen.symm.trans isReply
  · intro e member
    rcases List.mem_append.mp member with member | member
    · exact (accord.openings e member).mono _
    · cases List.mem_singleton.mp member
      exact opens e rfl (responding.actuating e (actuating_of_opened rule))

theorem accord_of_run (ran : run (step cbor medium) init tr = some s) : Accord cbor tr s := by
  refine run_induction (P := Accord cbor) accord_init ?_ ran
  intro tr s label s' first accord taken
  cases label with
  | ingress event =>
    obtain ⟨_, _, _, _, rfl⟩ := step_ingress.mp taken
    exact accord_quiet accord rfl rfl rfl rfl (List.Subset.refl _) (List.Subset.refl _)
  | a event => exact accord_a accord (GatewayTask.shape_of_run (run_a first)) taken
  | b event => exact accord_b accord taken
  | loseToA place =>
    obtain ⟨_, lost, rfl⟩ := Option.map_eq_some_iff.mp taken
    exact accord_quiet accord rfl rfl rfl rfl (medium.lose_sound lost) (List.Subset.refl _)
  | loseToB place =>
    obtain ⟨_, lost, rfl⟩ := Option.map_eq_some_iff.mp taken
    exact accord_quiet accord rfl rfl rfl rfl (List.Subset.refl _) (medium.lose_sound lost)

/-! ## Requests have names -/

/-- What the gateway dequeued is a prefix of what ingress admitted. -/
theorem dequeued_of_admitted (ran : run (step cbor medium) init tr = some s) :
    dequeued (aTrace tr) <+: (admitted (ingressTrace tr)).map (·.toLoraEnvelope) := by
  rw [← gatewayEvents_onPath, ← ingressEvents_onPath]
  exact ForwardPath.dequeued_prefix (run_path ran)

section Few

variable (ran : run (step cbor medium) init tr = some s)
  (few : (admitted (ingressTrace tr)).length ≤ 65535)

include ran few

theorem admitted_seqs_nodup :
    (((admitted (ingressTrace tr)).map (·.toLoraEnvelope)).map fun e => e.seq).Nodup := by
  rw [List.map_map]
  exact IngressTask.seqs_nodup (run_ingress ran) few

theorem dequeued_seqs_nodup : ((dequeued (aTrace tr)).map fun e => e.seq).Nodup :=
  ((dequeued_of_admitted ran).sublist.map _).nodup (admitted_seqs_nodup ran few)

/-- A request is known by its sequence number. -/
theorem same_of_seq {r r' : LoraEnvelope} (member : r ∈ dequeued (aTrace tr))
    (member' : r' ∈ dequeued (aTrace tr)) (same : r.seq = r'.seq) : r = r' :=
  List.inj_on_of_nodup_map (dequeued_seqs_nodup ran few) member member' same

end Few

/-! ## Agreement -/

/-- What the two nodes of a run agree on. -/
structure Agreement (cbor : Minicbor) (tr : List NetLabel) (s : TwoNode) : Prop where
  /-- At the head of the gateway's loop, the requests answered and the one in the
  slot are the requests dequeued, in that order. -/
  accounted : s.a.pc = .receive →
    (answers (aTrace tr)).map Prod.fst ++ s.a.pendingForward.toList = dequeued (aTrace tr)
  seq : ∀ answer ∈ answers (aTrace tr), answer.2.seq = answer.1.seq
  distinct : ((dequeued (aTrace tr)).map fun e => e.seq).Nodup
  /-- A request reported as delivered was handled by the device before. -/
  success : ∀ before request result after, tr = before ++ .a (.enqueued request result) :: after →
    IsSuccess result → Handled cbor before request ∧ result.seq = request.seq ∧
      result.timestampMs = request.timestampMs
  /-- A request reported as not sent is never handled by the device. -/
  failure : ∀ request result, .a (.enqueued request result) ∈ tr → IsFailure result →
    (∀ rx e, .b (.received rx) ∈ tr → rx.heard cbor = some e → e.msgType = .Open →
      e.seq ≠ request.seq) ∧
    ∀ e, .b (.opened e) ∈ tr → e.seq ≠ request.seq

private theorem undisturbed_of_acks (acks : ∀ e, event.heard cbor = some e → e.msgType = .Ack)
    (g : GatewayTask) : Undisturbed cbor g event := by
  intro e heard evicts
  have isAck := acks e heard
  rcases evicts with isOpen | isReply
  · cases isAck.symm.trans isOpen
  · cases isAck.symm.trans isReply

/-- The books of a gateway that hears nothing but Acks balance. -/
theorem accounted_of_accord (ran : run (step cbor medium) init tr = some s)
    (accord : Accord cbor tr s) (head : s.a.pc = .receive) :
    (answers (aTrace tr)).map Prod.fst ++ s.a.pendingForward.toList = dequeued (aTrace tr) := by
  have quiet : Throughout (GatewayTask.step cbor) (Undisturbed cbor) .init (aTrace tr) :=
    throughout_of_forall fun event member => undisturbed_of_acks (accord.acksOnly event member)
  have exact_ := (requests_flow_exact (run_a ran)).mp quiet
  have answered : ((answers (aTrace tr)).map Prod.fst).filter IsRequest =
      (answers (aTrace tr)).map Prod.fst := by
    apply List.filter_eq_self.mpr
    intro e member
    obtain ⟨answer, among, rfl⟩ := List.mem_map.mp member
    exact decide_eq_true (accord.requestsOnly answer among)
  have waiting : kept s.a = s.a.pendingForward.toList := by
    rw [kept, head]
    apply List.filter_eq_self.mpr
    intro e member
    exact decide_eq_true (isRequest_of_forwarded
      (accord.requesting.slot e (Option.mem_toList.mp member)))
  rwa [answered_eq, answered, waiting] at exact_

/-- A success was earned by the very request it reports: no other Open has its
sequence number. -/
theorem handled_of_success {before after : List NetLabel} {request result : LoraEnvelope}
    (ran : run (step cbor medium) init (before ++ .a (.enqueued request result) :: after) = some s)
    (few : (admitted (ingressTrace (before ++ .a (.enqueued request result) :: after))).length ≤
      65535)
    (success : IsSuccess result) :
    Handled cbor before request ∧ result.seq = request.seq ∧
      result.timestampMs = request.timestampMs := by
  obtain ⟨mid, next, first, taken, -⟩ := run_at ran
  obtain ⟨_, rule, _⟩ := step_a.mp taken
  obtain ⟨enqueueing, held⟩ := enqueueing_of_success success rule
  have accord := accord_of_run first
  obtain ⟨pending, opener, held', handled, same, rfl⟩ :=
    accord.requesting.replies result (.inr enqueueing)
  cases held.symm.trans held'
  have fewBefore : (admitted (ingressTrace before)).length ≤ 65535 := by
    refine le_trans ?_ few
    simp [ingressTrace, admitted]
  have dequeues := (forwarded_sublist_dequeued (run_a first)).subset
  have itself := same_of_seq first fewBefore (dequeues (accord.requesting.slot request held))
    (dequeues handled.sent) same
  subst itself
  exact ⟨handled, rfl, rfl⟩

/-- A request that could not be transmitted shares its number with none that was. -/
theorem unsent_of_failure {request result : LoraEnvelope}
    (ran : run (step cbor medium) init tr = some s)
    (few : (admitted (ingressTrace tr)).length ≤ 65535)
    (reported : .a (.enqueued request result) ∈ tr) (failure : IsFailure result)
    (e : LoraEnvelope) (sent : e ∈ forwarded (aTrace tr)) : e.seq ≠ request.seq := by
  have inTrace : GatewayEvent.enqueued request result ∈ aTrace tr :=
    List.mem_filterMap.mpr ⟨_, reported, rfl⟩
  have answered : (request, result) ∈ answers (aTrace tr) :=
    List.mem_flatMap.mpr ⟨_, inTrace, List.mem_singleton_self _⟩
  exact seq_ne_of_failure (run_a ran) (dequeued_seqs_nodup ran few) answered failure sent

/-- **The two nodes agree.**  Over any medium, and with fewer than `2^16` requests
admitted, the gateway answers what it dequeues, a success means that the device
had opened the gate for that request, and a failure that it never does. -/
theorem agreement (ran : run (step cbor medium) init tr = some s)
    (few : (admitted (ingressTrace tr)).length ≤ 65535) : Agreement cbor tr s := by
  have accord := accord_of_run ran
  refine ⟨accounted_of_accord ran accord, GatewayTask.answers_seq (run_a ran),
    dequeued_seqs_nodup ran few, ?_, ?_⟩
  · intro before request result after split success
    subst split
    exact handled_of_success ran few success
  · intro request result reported failure
    have unsent := unsent_of_failure ran few reported failure
    refine ⟨?_, ?_⟩
    · intro rx e member heard isOpen
      exact unsent e (accord.sentOnly rx member e heard isOpen)
    · intro e member
      exact unsent e (accord.openings e member).sent

/-- One request, from the MQTT message to the success, and the device's answer in
between. -/
def handshake : List NetLabel :=
  let request := sampleRequest.toLoraEnvelope
  let result := successResult request (ackFor request)
  [.ingress .locked, .ingress (.received (.ok ("esp32/open", [1, 2, 3])) 1000),
    .ingress (.enqueued sampleRequest), .a (.received .timeout), .a (.polled (some sampleRequest)),
    .a (.sent request (.ok ())),
    .b (.received (.done (.ok (OutgoingFrame.framed request, sampleStatus)))), .b (.opened request),
    .b (.sent (ackFor request) (.ok ())),
    .a (.received (.done (.ok (OutgoingFrame.framed (ackFor request), sampleStatus)))),
    .a (.sent result (.ok ())), .a (.enqueued request result), .a (.polled none)]

theorem handshake_agreement :
    ∃ s, run (step .reference .adversarial) init handshake = some s ∧
      Agreement .reference handshake s := by
  have runs : (run (step .reference .adversarial) init handshake).isSome := by decide
  obtain ⟨s, ran⟩ := Option.isSome_iff_exists.mp runs
  exact ⟨s, ran, agreement ran (by decide)⟩

end HaviliarIot.TwoNode
