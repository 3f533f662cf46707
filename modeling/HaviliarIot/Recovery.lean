import HaviliarIot.Coexistence
import HaviliarIot.Draining
import HaviliarIot.Handshake

/-!
The gateway can come to rest with the help of one device.

`Draining` brings a node to rest if its radio hears what it waits for.  Here what it
waits for is transmitted: the gateway repeats its request, a device, wherever it
stands, can be brought to its poll, hears the request and opens the gate for it, and
its Ack reaches the gateway.  So from every state of the whole system, whatever was
lost and whoever else is in range, the gateway can come to rest (`rests_again`), as
long as its own tasks are not jammed and the medium can still let a frame through.

The device need not come to rest: its slot may be left with an Ack whose Reply was
lost, and it answers the next request all the same.
-/

namespace HaviliarIot

open Runs

namespace GatewayTask

variable {cbor : Minicbor} {g g' : GatewayTask} {event : GatewayEvent}

/-- Nothing is heard, and nothing is dequeued. -/
def Alone (event : GatewayEvent) : Prop := event.frame = none ∧ event.taken = []

/-- A device can be brought to its poll without hearing anything. -/
def PollsAlone (cbor : Minicbor) (g : GatewayTask) : Prop :=
  ∃ slot, Leads (deviceBoard cbor).step Alone g ⟨.receive, slot⟩

theorem device_step (alone : Alone event) (rule : GatewayStep cbor g event g') :
    (deviceBoard cbor).step g event = some g' := by
  change (if event.taken = [] then step cbor g event else none) = some g'
  rw [if_pos alone.2]
  exact step_iff.mpr rule

theorem PollsAlone.of_rule (alone : Alone event) (rule : GatewayStep cbor g event g')
    (rest : PollsAlone cbor g') : PollsAlone cbor g := by
  obtain ⟨slot, leads⟩ := rest
  exact ⟨slot, leads.head alone (device_step alone rule)⟩

theorem pollsAlone_of_drain (slot : Option LoraEnvelope) : PollsAlone cbor ⟨.drain, slot⟩ := by
  have polls : PollsAlone cbor ⟨.receive, slot⟩ := ⟨slot, .refl _⟩
  cases slot with
  | none => exact .of_rule ⟨rfl, rfl⟩ .polledEmpty polls
  | some pending => exact .of_rule ⟨rfl, rfl⟩ (@GatewayStep.resent _ _ (.ok ())) polls

theorem pollsAlone_of_sendAck (ack : LoraEnvelope) (slot : Option LoraEnvelope) :
    PollsAlone cbor ⟨.sendAck ack, slot⟩ :=
  .of_rule ⟨rfl, rfl⟩ (@GatewayStep.ackSent _ _ (.ok ()) _) (pollsAlone_of_drain _)

theorem pollsAlone_of_enqueueSuccess (result pending : LoraEnvelope) :
    PollsAlone cbor ⟨.enqueueSuccess result, some pending⟩ :=
  .of_rule ⟨rfl, rfl⟩ .successEnqueued (pollsAlone_of_drain _)

theorem pollsAlone_of_enqueueFailure (request : ForwardRequest) (slot : Option LoraEnvelope) :
    PollsAlone cbor ⟨.enqueueFailure request, slot⟩ :=
  .of_rule ⟨rfl, rfl⟩ .failureEnqueued ⟨slot, .refl _⟩

/-- Wherever its loop stands. -/
theorem pollsAlone (shape : Shape g) : PollsAlone cbor g := by
  obtain ⟨pc, slot⟩ := g
  cases pc with
  | receive => exact ⟨slot, .refl _⟩
  | backoff => exact .of_rule ⟨rfl, rfl⟩ .backedOff (pollsAlone_of_drain slot)
  | drain => exact pollsAlone_of_drain slot
  | actuate envelope => exact .of_rule ⟨rfl, rfl⟩ .opened (pollsAlone_of_sendAck _ slot)
  | sendAck ack => exact pollsAlone_of_sendAck ack slot
  | sendReply result =>
    obtain ⟨pending, _, held, -⟩ := shape.replying result (.inl rfl)
    cases held
    exact .of_rule ⟨rfl, rfl⟩ (@GatewayStep.replySent _ _ (.ok ()) _)
      (pollsAlone_of_enqueueSuccess result pending)
  | enqueueSuccess result =>
    obtain ⟨pending, _, held, -⟩ := shape.replying result (.inr rfl)
    cases held
    exact pollsAlone_of_enqueueSuccess result pending
  | forward request =>
    have failed : GatewayStep cbor ⟨.forward request, slot⟩
        (.sent request.toLoraEnvelope (.error .Irq)) ⟨.enqueueFailure request, slot⟩ :=
      .forwardFailed (LoraController.result_of_driver_error _)
    exact .of_rule ⟨rfl, rfl⟩ failed (pollsAlone_of_enqueueFailure request slot)
  | enqueueFailure request => exact pollsAlone_of_enqueueFailure request slot

/-- A run of a device is a run of its loop. -/
theorem run_of_device {events : List GatewayEvent}
    (ran : run (deviceBoard cbor).step (deviceBoard cbor).start events = some g) :
    run (step cbor) init events = some g := by
  refine run_induction (P := fun events g => run (step cbor) init events = some g) rfl ?_ ran
  intro events g event g' _ before taken
  exact run_snoc.mpr ⟨g, before, (Option.ite_none_right_eq_some.mp taken).2⟩

end GatewayTask

namespace Broadcast

variable {cbor : Minicbor} {δ β : Type*} {others : β → Board Frame}

/-- Only the gateway and this device do anything, and no message arrives. -/
def Helping (d : δ) : BroadcastLabel cbor δ others → Prop
  | .act .gateway label => ∀ message now, label ≠ NodeLabel.ingress (.received (.ok message) now)
  | .act (.device d') _ => d' = d
  | .act (.bystander _) _ => False
  | .lose .. => True

variable [DecidableEq δ] [DecidableEq β] {medium : Medium Frame} {d : δ} {s s' : Broadcast cbor δ others}
  {tr more : List (BroadcastLabel cbor δ others)} {pending : LoraEnvelope}

theorem frame_of_deaf {label : NodeLabel} (deaf : GatewayNode.Deaf label) : label.frame = none := by
  cases label with
  | ingress | egress => rfl
  | gateway event =>
    cases event with
    | received rx =>
      cases deaf rx rfl
      rfl
    | _ => rfl

omit [DecidableEq δ] [DecidableEq β] in
theorem helping_of_deaf {label : NodeLabel} (deaf : GatewayNode.Deaf label) :
    Helping d (.act .gateway label : BroadcastLabel cbor δ others) := by
  rintro message now rfl
  exact deaf message now rfl

/-- The air may lose whatever it likes. -/
theorem helping_of_loses {i : Role δ β}
    (loses : Leads (Fleet.step medium) (fun label => ∃ place, label = .lose i place) s s') :
    Leads (Fleet.step medium) (Helping d) s s' := by
  refine loses.imp ?_
  rintro _ ⟨place, rfl⟩
  trivial

/-- What the gateway does without hearing anything. -/
theorem gateway_acts (medium : Medium Frame) {label : NodeLabel} {node : GatewayNode}
    (deaf : GatewayNode.Deaf label)
    (stepped : GatewayNode.step cbor (s.board .gateway) label = some node) :
    ∃ s', Leads (Fleet.step medium) (Helping d) s s' ∧ s'.board .gateway = node ∧
      (∀ i, i ≠ .gateway → s'.board i = s.board i) ∧
      ∀ i, i ≠ .gateway → s'.air i = s.air i ++ label.aired := by
  have stepped : (station cbor δ others .gateway).step (s.board .gateway) label = some node := stepped
  have unheard : Fleet.hear medium (s.air .gateway) ((station cbor δ others .gateway).hears label) =
      some (s.air .gateway) := by
    rw [show (station cbor δ others .gateway).hears label = none from frame_of_deaf deaf]
    rfl
  obtain ⟨s', taken, here, -, rest⟩ := Fleet.act medium stepped unheard
  exact ⟨s', .single (helping_of_deaf deaf) taken, here, fun i other => (rest i other).1,
    fun i other => (rest i other).2⟩

/-- The gateway repeats its request, and stands where it stood. -/
theorem repeats_request (medium : Medium Frame) (d : δ)
    (poll : GatewayNode.gateway (s.board .gateway) = ⟨.receive, some pending⟩)
    (fits : pending.intoOutgoing.isSome) (current : pending.version = protocolVersion) :
    ∃ s', Leads (Fleet.step medium) (Helping d) s s' ∧ s'.board = s.board ∧
      OutgoingFrame.framed pending ∈ s'.air (.device d) := by
  obtain ⟨⟨ingress, gateway, egress, forward, results⟩, is⟩ :
      ∃ node : GatewayNode, s.board .gateway = node := ⟨_, rfl⟩
  rw [is] at poll
  cases poll
  have waits : GatewayNode.step cbor (s.board .gateway) (.gateway (.received .timeout)) =
      some ⟨ingress, ⟨.drain, some pending⟩, egress, forward, results⟩ := by
    rw [is]
    exact GatewayNode.step_of_quiet ⟨rfl, by simp⟩ .timedOut
  obtain ⟨s₁, leads₁, here₁, still₁, -⟩ :=
    gateway_acts (d := d) medium (by simp [GatewayNode.Deaf]) waits
  have repeats : GatewayNode.step cbor (s₁.board .gateway) (.gateway (.resent pending (.ok ()))) =
      some ⟨ingress, ⟨.receive, some pending⟩, egress, forward, results⟩ := by
    rw [here₁]
    exact GatewayNode.step_of_quiet ⟨rfl, by simp⟩ .resent
  obtain ⟨s₂, leads₂, here₂, still₂, air₂⟩ :=
    gateway_acts (d := d) medium (by simp [GatewayNode.Deaf]) repeats
  refine ⟨s₂, leads₁.trans leads₂, ?_, ?_⟩
  · funext i
    by_cases gateway : i = .gateway
    · subst gateway
      rw [here₂, is]
    · rw [still₂ i gateway, still₁ i gateway]
  · rw [air₂ _ (by simp)]
    have airs : (NodeLabel.gateway (.resent pending (.ok ()))).aired = [OutgoingFrame.framed pending] :=
      (aired_of_resent current).trans (TwoNode.aired_ok fits)
    rw [airs]
    exact List.mem_append_right _ (List.mem_singleton_self _)

/-- The device hears the request on its way, wherever it stands, and answers it. -/
theorem device_answers (permissive : medium.Permissive)
    (shape : GatewayTask.Shape (s.board (.device d))) (fits : pending.intoOutgoing.isSome)
    (isOpen : pending.msgType = .Open) (onAir : OutgoingFrame.framed pending ∈ s.air (.device d)) :
    ∃ s', Leads (Fleet.step medium) (Helping d) s s' ∧ s'.board .gateway = s.board .gateway ∧
      OutgoingFrame.framed (ackFor pending) ∈ s'.air .gateway := by
  have apart : (Role.gateway : Role δ β) ≠ .device d := by simp
  -- it comes to its poll
  have alone : GatewayTask.PollsAlone cbor (s.board (.device d)) := GatewayTask.pollsAlone shape
  obtain ⟨slot, polls⟩ := alone
  have polls : Leads (station cbor δ others (.device d)).step GatewayTask.Alone
      (s.board (.device d)) ⟨.receive, slot⟩ := polls
  have deaf : ∀ event, GatewayTask.Alone event →
      (station cbor δ others (.device d)).hears event = none := fun _ alone => alone.1
  obtain ⟨s₁, leads₁, here₁, still₁, air₁⟩ := Fleet.drive (Role.device d) deaf polls
  -- the request arrives
  obtain ⟨s₂, leads₂, still₂, air, arrives⟩ := Fleet.lets_through permissive (air₁ _ onAir)
  have hears : (station cbor δ others (.device d)).step (s₂.board (.device d))
      (.received (.done (.ok (OutgoingFrame.framed pending, sampleStatus)))) =
        some ⟨.actuate pending, slot⟩ := by
    rw [still₂, here₁]
    exact GatewayTask.step_iff.mpr (.openHeard (RadioRx.heard_framed fits sampleStatus) isOpen)
  obtain ⟨s₃, taken₃, here₃, -, rest₃⟩ := Fleet.act medium hears arrives
  -- the gate is opened, and the Ack transmitted
  have opens : (station cbor δ others (.device d)).step (s₃.board (.device d)) (.opened pending) =
      some ⟨.sendAck (ackFor pending), slot⟩ := by
    rw [here₃]
    exact GatewayTask.device_step ⟨rfl, rfl⟩ .opened
  obtain ⟨s₄, taken₄, here₄, -, rest₄⟩ := Fleet.act medium opens rfl
  have acks : (station cbor δ others (.device d)).step (s₄.board (.device d))
      (.sent (ackFor pending) (.ok ())) = some ⟨.drain, some (ackFor pending)⟩ := by
    rw [here₄]
    exact GatewayTask.device_step ⟨rfl, rfl⟩ .ackSent
  obtain ⟨s₅, taken₅, -, -, rest₅⟩ := Fleet.act medium acks rfl
  refine ⟨s₅, ?_, ?_, ?_⟩
  · have helps (event : GatewayEvent) : Helping d (atDevice d event : BroadcastLabel cbor δ others) := rfl
    have drives : Leads (Fleet.step medium) (Helping d) s s₁ := by
      refine leads₁.imp ?_
      rintro _ ⟨event, rfl, -⟩
      exact helps event
    have loses : Leads (Fleet.step medium) (Helping d) s₁ s₂ := helping_of_loses leads₂
    exact drives.trans (loses.trans (.head (helps _) taken₃ (.head (helps _) taken₄
      (.single (helps _) taken₅))))
  · rw [(rest₅ _ apart).1, (rest₄ _ apart).1, (rest₃ _ apart).1, still₂, still₁ _ apart]
  · rw [(rest₅ _ apart).2]
    refine List.mem_append_right _ ?_
    have airs : (station cbor δ others (.device d)).airs (.sent (ackFor pending) (.ok ())) =
        [OutgoingFrame.framed (ackFor pending)] := TwoNode.aired_ok (GatewayTask.ackFor_fits pending)
    rw [airs]
    exact List.mem_singleton_self _

/-- So the gateway hears the Ack of the request it polls for. -/
theorem settles_with_help (permissive : medium.Permissive)
    (shape : GatewayTask.Shape (s.board (.device d)))
    (poll : GatewayNode.gateway (s.board .gateway) = ⟨.receive, some pending⟩)
    (fits : pending.intoOutgoing.isSome) (current : pending.version = protocolVersion)
    (isOpen : pending.msgType = .Open) (unjammed : ¬ GatewayNode.Jammed (s.board .gateway)) :
    ∃ s', Leads (Fleet.step medium) (Helping d) s s' ∧ ¬ GatewayNode.Jammed (s'.board .gateway) ∧
      GatewayNode.work (s'.board .gateway) < GatewayNode.work (s.board .gateway) := by
  obtain ⟨s₁, leads₁, same₁, onAir₁⟩ := repeats_request medium d poll fits current
  rw [← same₁] at shape poll unjammed ⊢
  obtain ⟨s₂, leads₂, same₂, onAir₂⟩ := device_answers permissive shape fits isOpen onAir₁
  rw [← same₂] at poll unjammed ⊢
  obtain ⟨s₃, leads₃, same₃, air, arrives⟩ := Fleet.lets_through permissive onAir₂
  rw [← same₃] at poll unjammed ⊢
  have rule : GatewayStep cbor (GatewayNode.gateway (s₃.board .gateway))
      (.received (.done (.ok (OutgoingFrame.framed (ackFor pending), sampleStatus))))
      ⟨.sendReply (successResult pending (ackFor pending)), some pending⟩ := by
    rw [poll]
    exact .ackMatched (RadioRx.heard_framed (GatewayTask.ackFor_fits pending) sampleStatus) rfl rfl
  have hears : (station cbor δ others .gateway).step (s₃.board .gateway)
      (NodeLabel.gateway (.received (.done (.ok (OutgoingFrame.framed (ackFor pending), sampleStatus))))) =
        some _ := GatewayNode.step_of_quiet ⟨rfl, by simp⟩ rule
  obtain ⟨s₄, taken, here, -⟩ := Fleet.act medium hears arrives
  have loses : Leads (Fleet.step medium) (Helping d) s₂ s₃ := helping_of_loses leads₃
  refine ⟨s₄, leads₁.trans (leads₂.trans (loses.trans (.single ?_ taken))), ?_, ?_⟩
  · intro message now is
    cases is
  · rw [here]
    refine GatewayNode.unjammed_of_owes unjammed fun _ => ?_
    rw [poll]
    exact ⟨pending, rfl, isOpen⟩
  · rw [here]
    exact GatewayNode.work_of_answered _ poll

section Tame

variable (tame : ∀ b, (others b).Speaks cbor Tame)

include tame

/-- What the gateway polls for is a request of its own, which fits a frame. -/
theorem slot_of_run (ran : run (Fleet.step medium) Fleet.start tr = some s)
    (held : (GatewayNode.gateway (s.board .gateway)).pendingForward = some pending) :
    pending.intoOutgoing.isSome ∧ pending.version = protocolVersion ∧ pending.msgType = .Open := by
  have sent := (asked tame ran).asking.slot pending held
  exact ⟨(GatewayTask.transmitted_of_run (run_gateway ran) pending held).1,
    (GatewayTask.shape_of_run (run_gateway ran)).version pending held,
    GatewayLedger.isRequest_of_forwarded sent⟩

/-- Short of a jam, the gateway comes closer to rest with the help of the device. -/
theorem progress_with_help (permissive : medium.Permissive) (d : δ)
    (ran : run (Fleet.step medium) Fleet.start tr = some s)
    (unjammed : ¬ GatewayNode.Jammed (s.board .gateway))
    (busy : ¬ GatewayNode.Drained (s.board .gateway)) :
    ∃ s', Leads (Fleet.step medium) (Helping d) s s' ∧ ¬ GatewayNode.Jammed (s'.board .gateway) ∧
      GatewayNode.work (s'.board .gateway) < GatewayNode.work (s.board .gateway) := by
  have next : GatewayNode.Progresses cbor (s.board .gateway) ∨ _ :=
    GatewayNode.progress (GatewayNode.sound_of_run (run_node ran)) unjammed busy
  rcases next with ⟨label, node, deaf, stepped, unjammed', less⟩ | ⟨pending, poll⟩
  · obtain ⟨s', leads, here, -, -⟩ := gateway_acts (d := d) medium deaf stepped
    rw [← here] at unjammed' less
    exact ⟨s', leads, unjammed', less⟩
  · have held : (GatewayNode.gateway (s.board .gateway)).pendingForward = some pending := by rw [poll]
    obtain ⟨fits, current, isOpen⟩ := slot_of_run tame ran held
    have shape := GatewayTask.shape_of_run (GatewayTask.run_of_device (run_device d ran))
    exact settles_with_help permissive shape poll fits current isOpen unjammed

/-- The gateway can always come to rest, if its tasks are not jammed. -/
theorem rests_again (permissive : medium.Permissive) (d : δ)
    (ran : run (Fleet.step medium) Fleet.start tr = some s)
    (unjammed : ¬ GatewayNode.Jammed (s.board .gateway)) :
    ∃ more s', run (Fleet.step medium) s more = some s' ∧ (∀ label ∈ more, Helping d label) ∧
      GatewayNode.Drained (s'.board .gateway) := by
  have rests : CanReach (Fleet.step medium) (fun _ label => Helping d label)
      (fun s => GatewayNode.Drained (s.board .gateway)) s := by
    refine CanReach.of_variant (fun s => (∃ tr, run (Fleet.step medium) Fleet.start tr = some s) ∧
      ¬ GatewayNode.Jammed (s.board .gateway)) (fun s => GatewayNode.work (s.board .gateway)) ?_
      ⟨⟨tr, ran⟩, unjammed⟩
    rintro s ⟨⟨tr, ran⟩, unjammed⟩ busy
    obtain ⟨s', leads, unjammed', less⟩ := progress_with_help tame permissive d ran unjammed busy
    have reached : ∃ tr, run (Fleet.step medium) Fleet.start tr = some s' := by
      obtain ⟨more, -, rest⟩ := leads
      exact ⟨tr ++ more, run_trans ran rest⟩
    exact .of_leads (fun _ helps _ => helps) leads ⟨⟨reached, unjammed'⟩, less⟩
  obtain ⟨more, s', rest, met, drained⟩ := rests
  exact ⟨more, s', rest, forall_of_throughout rest met, drained⟩

end Tame

/-! ## Among the programs of the repository -/

variable {μ κ : Type*} [DecidableEq μ] [DecidableEq κ]

/-- **The gateway can always come to rest** with the help of any one device, whatever was
lost and however many boards of every program are in range, unless its tasks are
jammed. -/
theorem rests_among_programs {s : Broadcast cbor δ (onlookers cbor μ κ)}
    {tr : List (BroadcastLabel cbor δ (onlookers cbor μ κ))} (permissive : medium.Permissive) (d : δ)
    (ran : run (Fleet.step medium) Fleet.start tr = some s)
    (unjammed : ¬ GatewayNode.Jammed (s.board .gateway)) :
    ∃ more s', run (Fleet.step medium) s more = some s' ∧ (∀ label ∈ more, Helping d label) ∧
      GatewayNode.Drained (s'.board .gateway) :=
  rests_again (onlookers_tame cbor μ κ) permissive d ran unjammed

/-- The request is on the air, and nobody has heard it. -/
theorem rests_after_transmission :
    ∃ s more s', run (Fleet.step .lossyFifo) Fleet.start (interrupted.take 7) = some s ∧
      run (Fleet.step .lossyFifo) s more = some s' ∧ (∀ label ∈ more, Helping () label) ∧
        GatewayNode.Drained (s'.board .gateway) := by
  have view : (run (Fleet.step .lossyFifo) Fleet.start (interrupted.take 7)).map
      (fun s => GatewayNode.ingress (s.board .gateway)) = some ⟨.lock, 1, 2⟩ := by decide
  obtain ⟨s, ran, ingress⟩ := Option.map_eq_some_iff.mp view
  obtain ⟨more, s', rest, helps, drained⟩ :=
    rests_among_programs Medium.permissive_lossyFifo () ran fun jam => by
      obtain ⟨request, waits⟩ := jam.ingress
      rw [ingress] at waits
      cases waits
  exact ⟨s, more, s', ran, rest, helps, drained⟩

theorem accepted_of_helping {more : List (BroadcastLabel cbor δ others)}
    (helps : ∀ label ∈ more, Helping d label) :
    accepted (GatewayNode.ingressEvents (nodeTrace more)) = [] := by
  refine GatewayNode.accepted_of_unsent fun event member message now is => ?_
  obtain ⟨label, inNode, ofIngress⟩ := List.mem_filterMap.mp member
  cases label with
  | gateway | egress => cases ofIngress
  | ingress event' =>
    cases ofIngress
    exact helps _ (Fleet.mem_board.mp inNode) message now (congrArg NodeLabel.ingress is)

/-- **With one device every message accepted can still get its status**, in the order of
the messages and none twice, whatever was lost and whatever is on the displays around
it, unless the tasks of the gateway are jammed. -/
theorem all_reported_among_beacons [Subsingleton δ]
    {s : Broadcast cbor δ fun _ : κ => displayNodeBoard}
    {tr : List (BroadcastLabel cbor δ fun _ : κ => displayNodeBoard)}
    (permissive : medium.Permissive) (d : δ) (ran : run (Fleet.step medium) Fleet.start tr = some s)
    (unjammed : ¬ GatewayNode.Jammed (s.board .gateway)) :
    ∃ more s', run (Fleet.step medium) s more = some s' ∧ (∀ label ∈ more, Helping d label) ∧
      (GatewayNode.published (nodeTrace (tr ++ more))).map (fun status => status.1.seq) =
        (List.range (accepted (GatewayNode.ingressEvents (nodeTrace tr))).length).map
          fun k => UInt16.ofNat (k + 1) := by
  have counts (_ : κ) := displayNodeBoard_speaks cbor
  have tame (b : κ) : displayNodeBoard.Speaks cbor Tame :=
    (counts b).mono fun type is => by simp [Tame, is]
  have mute (b : κ) : displayNodeBoard.Speaks cbor (· ≠ .Reply) :=
    (counts b).mono fun type is => by simp [is]
  obtain ⟨more, s', rest, helps, drained⟩ := rests_again tame permissive d ran unjammed
  refine ⟨more, s', rest, helps, ?_⟩
  obtain ⟨exchanges, ends⟩ := single_device_end_to_end tame mute (run_trans ran rest)
  have statuses := GatewayNode.statuses_of_drained ends drained
  have split : nodeTrace (tr ++ more) = nodeTrace tr ++ nodeTrace more := List.filterMap_append
  rwa [split, GatewayNode.ingressEvents_append, accepted, List.flatMap_append, ← accepted, ← accepted,
    accepted_of_helping helps, List.append_nil, ← split] at statuses

/-- After a beacon, the request is on the air. -/
theorem all_reported_after_beacon :
    ∃ s more s', run (Fleet.step .adversarial) Fleet.start (beaconFirst.take 13) = some s ∧
      run (Fleet.step .adversarial) s more = some s' ∧ (∀ label ∈ more, Helping () label) ∧
      (GatewayNode.published (nodeTrace (beaconFirst.take 13 ++ more))).map
        (fun status => status.1.seq) = [1] := by
  have view : (run (Fleet.step .adversarial) Fleet.start (beaconFirst.take 13)).map
      (fun s => GatewayNode.ingress (s.board .gateway)) = some ⟨.lock, 1, 2⟩ := by decide +kernel
  obtain ⟨s, ran, ingress⟩ := Option.map_eq_some_iff.mp view
  obtain ⟨more, s', rest, helps, statuses⟩ :=
    all_reported_among_beacons Medium.permissive_adversarial () ran fun jam => by
      obtain ⟨request, waits⟩ := jam.ingress
      rw [ingress] at waits
      cases waits
  exact ⟨s, more, s', ran, rest, helps, statuses⟩

end Broadcast

end HaviliarIot
