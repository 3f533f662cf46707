import HaviliarIot.HalfDuplex

/-!
How much `task_lora_gateway` can put on the air.

The loop transmits from four places, and an iteration can pass two of them: it
answers what it heard and then resends or forwards.  What pays for a transmission
is a receive poll that completed, and for a second one that this poll heard an Open
or an Ack.  `mayTransmit` is what is still paid for where the loop stands.

So the air is used in proportion to the polls, however the frames, the failures and
the requests come (`airtime_of_run`); in particular a node that hears nothing
transmits at most once in a poll.
-/

namespace HaviliarIot.GatewayTask

open Runs

/-- How many transmissions can follow before the next poll. -/
def mayTransmit (s : GatewayTask) : Nat :=
  match s.pc with
  | .receive | .enqueueFailure _ => 0
  | .backoff | .drain | .enqueueSuccess _ | .forward _ => 1
  | .actuate _ | .sendAck _ | .sendReply _ => 2

/-- A frame of this type is answered in the iteration that hears it. -/
def Answered (e : LoraEnvelope) : Prop := e.msgType = .Open ∨ e.msgType = .Ack

instance : DecidablePred Answered := fun _ => inferInstanceAs (Decidable (_ ∨ _))

/-- The transmissions this event pays for. -/
def allows (cbor : Minicbor) : GatewayEvent → Nat
  | .received rx => 1 + (rx.heard cbor).toList.countP fun e => Answered e
  | _ => 0

/-- The transmissions of this event. -/
def transmissions (event : GatewayEvent) : Nat := event.transmits.toList.length

/-- The bytes of this event's transmission. -/
def airBytes (event : GatewayEvent) : Nat := (event.handed.getD []).length

variable {cbor : Minicbor} {s s' : GatewayTask} {event : GatewayEvent} {tr : List GatewayEvent}

theorem mayTransmit_le (s : GatewayTask) : mayTransmit s ≤ 2 := by
  unfold mayTransmit
  split <;> decide

theorem allows_of_answered {rx : RadioRx} {e : LoraEnvelope} (heard : rx.heard cbor = some e)
    (answered : Answered e) : allows cbor (.received rx) = 2 := by
  simp [allows, heard, answered]

/-- A transmission is paid for by the poll before it. -/
theorem transmissions_step (rule : GatewayStep cbor s event s') :
    transmissions event + mayTransmit s' ≤ mayTransmit s + allows cbor event := by
  cases rule with
  | ackMatched heard isAck =>
    rw [allows_of_answered heard (.inr isAck)]
    simp [transmissions, GatewayEvent.transmits, mayTransmit]
  | openHeard heard isOpen =>
    rw [allows_of_answered heard (.inl isOpen)]
    simp [transmissions, GatewayEvent.transmits, mayTransmit]
  | _ => simp [transmissions, GatewayEvent.transmits, mayTransmit, allows]

/-- The radio is given a frame of at most 255 bytes in a transmission, and nothing
otherwise. -/
theorem airBytes_le (event : GatewayEvent) :
    airBytes event ≤ payloadLength * transmissions event := by
  have sent : ∀ (driver : Except RadioError Unit) (frame : Option (OutgoingFrame payloadLength)),
      ((LoraController.sendFrame driver frame).handed.getD []).length ≤ payloadLength := by
    intro driver frame
    cases frame with
    | none => exact Nat.zero_le _
    | some frame =>
      refine (List.length_take_le _ _).trans ?_
      exact frame.len_le
  cases event with
  | sent envelope driver => exact sent driver envelope.intoOutgoing
  | resent pending driver => exact sent driver _
  | _ => simp [airBytes, GatewayEvent.handed]

theorem transmissions_sum (tr : List GatewayEvent) :
    (tr.map transmissions).sum = (tr.filterMap GatewayEvent.transmits).length := by
  rw [List.filterMap_eq_flatMap_toList, List.length_flatMap]
  rfl

theorem airBytes_sum_le (tr : List GatewayEvent) :
    (tr.map airBytes).sum ≤ payloadLength * (tr.map transmissions).sum := by
  induction tr with
  | nil => simp
  | cons event rest ih =>
    have here := airBytes_le event
    simp only [List.map_cons, List.sum_cons, Nat.mul_add]
    omega

theorem allows_sum (tr : List GatewayEvent) :
    (tr.map (allows cbor)).sum = tr.countP GatewayEvent.listens +
      (tr.filterMap (GatewayEvent.heard cbor)).countP fun e => Answered e := by
  induction tr with
  | nil => rfl
  | cons event rest ih =>
    have here : allows cbor event = (if event.listens then 1 else 0) +
        (event.heard cbor).toList.countP fun e => Answered e := by
      cases event <;> rfl
    rw [List.map_cons, List.sum_cons, ih, here, List.countP_cons]
    cases heard : event.heard cbor with
    | none =>
      rw [List.filterMap_cons_none heard]
      simp only [Option.toList_none, List.countP_nil]
      omega
    | some e =>
      rw [List.filterMap_cons_some heard, List.countP_cons]
      simp only [Option.toList_some, List.countP_singleton]
      omega

/-- The bounds on what a run puts on the air. -/
structure Airtime (cbor : Minicbor) (tr : List GatewayEvent) : Prop where
  /-- One transmission for every poll, and another for every Open or Ack it heard. -/
  transmissions : (tr.filterMap GatewayEvent.transmits).length ≤
    tr.countP GatewayEvent.listens +
      (tr.filterMap (GatewayEvent.heard cbor)).countP fun e => Answered e
  /-- And at most 255 bytes in each. -/
  bytes : (tr.map airBytes).sum ≤ payloadLength * (tr.countP GatewayEvent.listens +
    (tr.filterMap (GatewayEvent.heard cbor)).countP fun e => Answered e)
  /-- Between two polls, two transmissions at most. -/
  window : ∀ before mid after, tr = before ++ mid ++ after →
    (∀ event ∈ mid, event.listens = false) → (mid.filterMap GatewayEvent.transmits).length ≤ 2

/-- **The loop transmits in proportion to its polls.** -/
theorem airtime_of_run (ran : run (step cbor) init tr = some s) : Airtime cbor tr := by
  have pays : ∀ s event s', step cbor s event = some s' →
      transmissions event + mayTransmit s' ≤ mayTransmit s + allows cbor event :=
    fun _ _ _ taken => transmissions_step (step_iff.mp taken)
  have budget := run_budget mayTransmit pays ran
  have none : mayTransmit init = 0 := rfl
  rw [none, allows_sum] at budget
  constructor
  · rw [← transmissions_sum]
    omega
  · refine (airBytes_sum_le tr).trans (Nat.mul_le_mul_left _ ?_)
    omega
  · intro before mid after split silent
    subst split
    rw [← transmissions_sum]
    refine run_window mayTransmit pays mayTransmit_le ran ?_
    intro event member
    cases event with
    | received rx => cases silent _ member
    | _ => rfl

/-- An Open is answered and its Ack resent, all after one poll. -/
theorem airtime_of_answer :
    Airtime .reference
      [.received (.done (.ok (OutgoingFrame.framed sampleRequest.toLoraEnvelope, sampleStatus))),
        .opened sampleRequest.toLoraEnvelope, .sent (ackFor sampleRequest.toLoraEnvelope) (.ok ()),
        .resent (ackFor sampleRequest.toLoraEnvelope) (.ok ())] := by
  have ran : run (step .reference) init
      [.received (.done (.ok (OutgoingFrame.framed sampleRequest.toLoraEnvelope, sampleStatus))),
        .opened sampleRequest.toLoraEnvelope, .sent (ackFor sampleRequest.toLoraEnvelope) (.ok ()),
        .resent (ackFor sampleRequest.toLoraEnvelope) (.ok ())] =
      some ⟨.receive, some (ackFor sampleRequest.toLoraEnvelope)⟩ := by decide
  exact airtime_of_run ran

end HaviliarIot.GatewayTask
