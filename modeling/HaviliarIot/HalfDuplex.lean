import HaviliarIot.GatewayTraces
import HaviliarIot.Separation

/-!
Does `task_lora_gateway` listen between two transmissions of one envelope?

A request that was forwarded goes back to the head of the loop, so its resend
comes after a receive.  The Ack that answers an Open does not: the branch stores
it and falls through to `match pending_forward`, which resends it at once.  A run
keeps the discipline exactly when it hears no Open (`half_duplex_iff`).
-/

namespace HaviliarIot

open Runs Separation

namespace GatewayEvent

/-- A completed receive poll. -/
def listens : GatewayEvent → Bool
  | received _ => true
  | _ => false

/-- An Open arrives. -/
def HearsOpen (cbor : Minicbor) (event : GatewayEvent) : Prop :=
  ∃ envelope, event.heard cbor = some envelope ∧ envelope.msgType = .Open

theorem transmits_of_listens (event : GatewayEvent) (listening : event.listens) :
    event.transmits = none := by
  cases event with
  | received => rfl
  | _ => cases listening

end GatewayEvent

namespace GatewayTask

open GatewayEvent

variable {cbor : Minicbor} {s s' : GatewayTask} {event : GatewayEvent} {tr : List GatewayEvent}

/-- Between two transmissions of the same envelope there is a completed receive
poll. -/
def HalfDuplex (tr : List GatewayEvent) : Prop := Separated transmits listens tr

/-- What was transmitted since the last receive poll, by where the loop stands in
a run that has heard no Open. -/
def Listening (sent : List LoraEnvelope) (s : GatewayTask) : Prop :=
  match s.pc with
  | .receive | .enqueueFailure _ => True
  | .backoff | .sendReply _ => sent = []
  | .actuate _ | .sendAck _ => False
  | .enqueueSuccess _ | .forward _ => ∀ envelope ∈ sent, envelope.msgType = .Reply
  | .drain => (∀ envelope ∈ sent, envelope.msgType = .Reply) ∧
      (s.pendingForward ≠ none → sent = [])

/-- A step that hears no Open transmits nothing it transmitted since it last
listened. -/
theorem listening_step (shape : Shape s) (rule : GatewayStep cbor s event s')
    (deaf : ¬ HearsOpen cbor event) {sent : List LoraEnvelope} (before : Listening sent s) :
    (∀ envelope, event.transmits = some envelope → envelope ∉ sent) ∧
      Listening (if event.listens then [] else sent ++ event.transmits.toList) s' := by
  cases rule with
  | ackMatched | radioError => exact ⟨by simp [transmits], rfl⟩
  | openHeard heard isOpen => exact absurd ⟨_, heard, isOpen⟩ deaf
  | replyHeard | ignored | timedOut =>
    exact ⟨by simp [transmits], by simp [listens], fun _ => rfl⟩
  | backedOff =>
    have none : sent = [] := before
    subst none
    exact ⟨by simp [transmits], by simp [listens, transmits], fun _ => rfl⟩
  | opened | ackSent => exact before.elim
  | @replySent result driver slot =>
    have none : sent = [] := before
    subst none
    obtain ⟨pending, ack, -, rfl⟩ := shape.replying result (.inl rfl)
    refine ⟨by simp, ?_⟩
    intro envelope member
    obtain rfl : envelope = successResult pending ack := by simpa [listens, transmits] using member
    rfl
  | successEnqueued =>
    have replies : ∀ envelope ∈ sent, envelope.msgType = .Reply := before
    refine ⟨by simp [transmits], ?_, fun full => absurd rfl full⟩
    simpa [listens, transmits] using replies
  | @resent pending driver =>
    have none : sent = [] := before.2 (by simp)
    subst none
    exact ⟨by simp, trivial⟩
  | polledEmpty => exact ⟨by simp [transmits], trivial⟩
  | dequeued =>
    refine ⟨by simp [transmits], ?_⟩
    simpa [Listening, listens, transmits] using before.1
  | @forwarded request | @forwardFailed request =>
    refine ⟨?_, trivial⟩
    intro envelope transmitted recently
    cases Option.some.inj transmitted
    -- a request is an Open, and only a Reply can have gone out before it
    have isReply := (show ∀ envelope ∈ sent, _ from before) _ recently
    rw [request.msgType_eq] at isReply
    cases isReply
  | failureEnqueued => exact ⟨by simp [transmits], trivial⟩

/-- A run that hears no Open listens between two transmissions of an envelope. -/
theorem half_duplex_of_run (ran : run (step cbor) init tr = some s)
    (deaf : ∀ event ∈ tr, ¬ HearsOpen cbor event) : HalfDuplex tr := by
  have kept : Separated transmits listens tr ∧ Listening (recent transmits listens tr) s := by
    have met : Throughout (step cbor) (fun _ event => ¬ HearsOpen cbor event) init tr :=
      throughout_of_forall fun event member _ => deaf event member
    refine run_induction_of (P := fun tr s => Separated transmits listens tr ∧
      Listening (recent transmits listens tr) s) ?_ ?_ ran met
    · exact ⟨separated_nil, trivial⟩
    · intro tr s event s' first ⟨separated, listening⟩ unheard taken
      obtain ⟨fresh, listening⟩ :=
        listening_step (shape_of_run first) (step_iff.mp taken) unheard listening
      rw [recent_snoc]
      exact ⟨(separated_snoc transmits_of_listens).mpr ⟨separated, fresh⟩, listening⟩
  exact kept.1

/-- The loop is answering an Open: on its way to the Ack, or with the Ack in the
slot and transmitted since it last listened. -/
def Answering (sent : List LoraEnvelope) (s : GatewayTask) : Prop :=
  match s.pc with
  | .actuate _ | .sendAck _ => True
  | .drain => ∃ ack ∈ sent, s.pendingForward = some ack
  | _ => False

/-- An Open that is heard is answered. -/
theorem answering_of_hears (rule : GatewayStep cbor s event s') (hears : HearsOpen cbor event)
    (sent : List LoraEnvelope) : Answering sent s' := by
  obtain ⟨envelope, heard, isOpen⟩ := hears
  cases rule with
  | openHeard => trivial
  | @ackMatched _ _ _ heard' isAck =>
    cases Option.some.inj (heard'.symm.trans heard)
    cases isOpen.symm.trans isAck
  | replyHeard heard' isReply =>
    cases Option.some.inj (heard'.symm.trans heard)
    cases isOpen.symm.trans isReply
  | ignored heard' notOpen =>
    cases Option.some.inj (heard'.symm.trans heard)
    exact absurd isOpen notOpen
  | radioError failed => cases (RadioRx.heard_of_error failed).symm.trans heard
  | _ => cases heard

/-- While an Open is being answered, the next step goes on answering it or
transmits the Ack again. -/
theorem answering_step (rule : GatewayStep cbor s event s') {sent : List LoraEnvelope}
    (before : Answering sent s) :
    (∃ envelope ∈ sent, event.transmits = some envelope) ∨
      Answering (if event.listens then [] else sent ++ event.transmits.toList) s' := by
  cases rule with
  | opened => exact .inr trivial
  | @ackSent ack =>
    refine .inr ⟨ack, ?_, rfl⟩
    simp [listens, transmits]
  | @resent pending driver =>
    obtain ⟨ack, recently, held⟩ := before
    cases Option.some.inj held
    exact .inl ⟨pending, recently, rfl⟩
  | polledEmpty | dequeued =>
    obtain ⟨ack, -, held⟩ := before
    cases held
  | _ => exact before.elim

/-- A run that keeps the discipline has heard no Open, except one it has not
answered yet. -/
theorem deaf_or_answering (ran : run (step cbor) init tr = some s) (kept : HalfDuplex tr) :
    (∀ event ∈ tr, ¬ HearsOpen cbor event) ∨ Answering (recent transmits listens tr) s := by
  refine run_induction (P := fun tr s => HalfDuplex tr →
    (∀ event ∈ tr, ¬ HearsOpen cbor event) ∨ Answering (recent transmits listens tr) s)
    (fun _ => .inl (by simp)) ?_ ran kept
  intro tr s event s' first ih taken kept
  obtain ⟨separated, fresh⟩ := (separated_snoc transmits_of_listens).mp kept
  have rule := step_iff.mp taken
  rcases ih separated with deaf | answering
  · by_cases hears : HearsOpen cbor event
    · exact .inr (answering_of_hears rule hears _)
    · refine .inl ?_
      intro event' member
      rcases List.mem_append.mp member with earlier | now
      · exact deaf event' earlier
      · rwa [List.mem_singleton.mp now]
  · rcases answering_step rule answering with ⟨envelope, recently, transmitted⟩ | answering
    · exact absurd recently (fresh envelope transmitted)
    · rw [recent_snoc]
      exact .inr answering

/-- **When the node listens between two transmissions of the same frame.**  In
every run that hears no Open; and only in those, once the loop is back at its
head.  Transmissions are attempts: they count whatever the driver answers. -/
theorem half_duplex_iff (ran : run (step cbor) init tr = some s) :
    ((∀ event ∈ tr, ¬ HearsOpen cbor event) → HalfDuplex tr) ∧
      (s.pc = .receive → HalfDuplex tr → ∀ event ∈ tr, ¬ HearsOpen cbor event) := by
  refine ⟨half_duplex_of_run ran, ?_⟩
  intro atHead kept
  rcases deaf_or_answering ran kept with deaf | answering
  · exact deaf
  · simp [Answering, atHead] at answering

/-- A request is sent, nothing is heard, and it is sent again. -/
theorem half_duplex_resent_request :
    HalfDuplex [.received .timeout, .polled (some sampleRequest),
      .sent sampleRequest.toLoraEnvelope (.ok ()), .received .timeout,
      .resent sampleRequest.toLoraEnvelope (.ok ())] := by
  have ran : run (step .reference) init [.received .timeout, .polled (some sampleRequest),
      .sent sampleRequest.toLoraEnvelope (.ok ()), .received .timeout,
      .resent sampleRequest.toLoraEnvelope (.ok ())] =
      some ⟨.receive, some sampleRequest.toLoraEnvelope⟩ := by decide
  refine (half_duplex_iff ran).1 ?_
  intro event member ⟨envelope, heard, _⟩
  simp only [List.mem_cons, List.not_mem_nil, or_false] at member
  rcases member with rfl | rfl | rfl | rfl | rfl <;> cases heard

/-- A peer's Open is answered, and the Ack is sent again before the node has
listened for the peer's answer. -/
theorem ack_resent_unheard :
    let opener := sampleRequest.toLoraEnvelope
    let tr : List GatewayEvent :=
      [.received (.done (.ok (OutgoingFrame.framed opener, sampleStatus))), .opened opener,
        .sent (ackFor opener) (.ok ()), .resent (ackFor opener) (.ok ())]
    run (step .reference) init tr = some ⟨.receive, some (ackFor opener)⟩ ∧ ¬ HalfDuplex tr := by
  refine ⟨by decide, ?_⟩
  intro kept
  obtain ⟨l, between, -⟩ := kept
    [.received (.done (.ok (OutgoingFrame.framed sampleRequest.toLoraEnvelope, sampleStatus))),
      .opened sampleRequest.toLoraEnvelope] _ [] _ [] _ rfl rfl rfl
  cases between

end GatewayTask

end HaviliarIot
