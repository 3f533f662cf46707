import HaviliarIot.Agreement
import HaviliarIot.Outstanding
import HaviliarIot.Requester

/-!
The closed system of a gateway and a device as a stop-and-wait link.

A device that is only ever sent Opens and Replies answers with Acks, so nothing
reaches the gateway that could disturb its exchange: every run of the closed system
is attentive, whatever the medium loses, repeats or reorders, and however many
requests there are.  The gateway then refines the stop-and-wait sender, and its
books are one exchange after another, from the messages ingress accepted on
(`link_of_run`).
-/

namespace HaviliarIot.TwoNode

open Runs StopAndWait

variable {cbor : Minicbor} {medium : Medium Frame} {s s' : TwoNode} {label : NetLabel}
  {tr : List NetLabel}

/-- All the gateway hears in a run is Acks, so every event of it is attentive. -/
theorem attentive_of_run (ran : run (step cbor medium) init tr = some s) :
    Throughout (GatewayTask.step cbor) (Attentive cbor) .init (aTrace tr) := by
  refine throughout_of_forall ?_
  intro event member before e heard
  have isAck := (accord_of_run ran).acksOnly event member e heard
  rw [isAck]
  exact ⟨by simp, by simp⟩

/-- The exchanges account for the requests of the run. -/
structure Link (tr : List NetLabel) (s : TwoNode) (exchanges : List (Exchange LoraEnvelope)) :
    Prop where
  /-- The requests ingress made, in order: exchanged, in hand, in the forward channel,
  and in the hands of ingress. -/
  requests : (admitted (ingressTrace tr) ++ s.ingress.blocked).map ForwardRequest.toLoraEnvelope =
    exchanges.map Exchange.request ++ s.a.sender.inHand ++
      (s.forward.queue ++ s.ingress.blocked).map ForwardRequest.toLoraEnvelope
  /-- The gateway is on the air for one request at a time. -/
  aired : ∃ again, ((aTrace tr).filterMap GatewayEvent.exchange).flatMap Label.airs =
    exchanges.flatMap Exchange.airings ++ s.a.sender.airings again
  /-- Every exchange is reported once, in order, as delivered if it was on the air. -/
  reported : (answers (aTrace tr)).map (fun answer => (answer.1, decide (IsSuccess answer.2))) =
    exchanges.map Exchange.outcome

/-- **The closed system is a stop-and-wait link**: in every run the gateway refines
the sender, and exchanges the requests ingress made, one after another. -/
theorem link_of_run (ran : run (step cbor medium) init tr = some s) :
    run StopAndWait.step .idle ((aTrace tr).filterMap GatewayEvent.exchange) = some s.a.sender ∧
      ∃ exchanges, Link tr s exchanges := by
  have refined := GatewayTask.run_sender (run_a ran) (attentive_of_run ran)
  obtain ⟨exchanges, again, taken, aired, settled⟩ := StopAndWait.sequential_of_run refined
  rw [takes_eq_dequeued, dequeued_eq_taken] at taken
  rw [settles_eq_answers] at settled
  refine ⟨refined, exchanges, ?_, ⟨again, aired⟩, settled⟩
  rw [← forward_fifo ran, List.append_assoc, List.map_append, taken]

theorem handshake_link :
    ∃ s, run (step .reference .adversarial) init handshake = some s ∧
      run StopAndWait.step .idle ((aTrace handshake).filterMap GatewayEvent.exchange) =
        some s.a.sender ∧ ∃ exchanges, Link handshake s exchanges := by
  have runs : (run (step .reference .adversarial) init handshake).isSome := by decide
  obtain ⟨s, ran⟩ := Option.isSome_iff_exists.mp runs
  exact ⟨s, ran, link_of_run ran⟩

end HaviliarIot.TwoNode
