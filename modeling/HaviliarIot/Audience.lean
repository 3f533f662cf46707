import HaviliarIot.Coexistence
import Mathlib.Data.List.Flatten
import Mathlib.Data.List.Range

/-!
A beacon and its audience.

One board runs `lora-display`; any number of others listen, with any programs that do not
transmit Counters themselves.  Over a medium that only loses frames, what a listener
hears of the beacon is its count, in order and without repetition (`hears_in_order`).
A payload carries its number modulo 256 only, so what is missing in between shows which
beacons were lost as long as fewer than 256 were lost in a row.
-/

namespace HaviliarIot

open Runs

/-- What the frames that decode to Counters say. -/
def counters (cbor : Minicbor) (frames : List Frame) : List LoraEnvelope :=
  frames.filterMap fun frame =>
    (LoraParser.decodeEnvelope cbor frame).filter fun e => e.msgType = .Counter

variable {cbor : Minicbor}

theorem counters_eq_nil {frames : List Frame}
    (other : ∀ frame ∈ frames, ∀ e, LoraParser.decodeEnvelope cbor frame = some e →
      e.msgType ≠ .Counter) : counters cbor frames = [] := by
  rw [counters, List.filterMap_eq_nil_iff]
  intro frame member
  rw [Option.filter_eq_none_iff]
  intro e decoded
  simpa using other frame member e decoded

theorem counters_flatMap {α : Type*} (tr : List α) (frames : α → List Frame) :
    counters cbor (tr.flatMap frames) = tr.flatMap fun l => counters cbor (frames l) :=
  List.filterMap_flatMap

/-! ## The beacon -/

namespace DisplayNode

variable {s : DisplayNode} {label : DisplayNodeLabel} {tr : List DisplayNodeLabel}

/-- The payload of the beacon with this number. -/
def payload (number : Nat) : List UInt8 := List.replicate maxAppPayload (UInt8.ofNat number)

/-- The beacons of a run carry the numbers from zero on. -/
theorem payloads_of_run (ran : run step init tr = some s) :
    (beacons tr).map LoraEnvelope.payload = (List.range (beacons tr).length).map payload := by
  refine run_induction (P := fun tr _ => (beacons tr).map LoraEnvelope.payload =
    (List.range (beacons tr).length).map payload) rfl ?_ ran
  intro tr s label s' first before taken
  have counting := counting_of_run first
  have split : beacons (tr ++ [label]) = beacons tr ++ beacon label := by
    simp [beacons]
  rw [split, List.map_append, before]
  cases label with
  | receive | send => simp [beacon]
  | main event =>
    obtain ⟨-, main, rule, -⟩ := step_main.mp taken
    cases rule with
    | sent => simp [beacon, List.range_succ, Beacon.message, LoraEnvelope.new, counting.counter, payload]
    | cleared | drawn | locked | slept => simp [beacon]

/-- What a board transmits is among what it handed to the radio. -/
theorem counters_airs (ran : run step init tr = some s) (member : label ∈ tr) :
    (counters cbor label.airs).Sublist (beacon label) := by
  have single : label.airs.length ≤ 1 := by
    unfold DisplayNodeLabel.airs
    split
    · exact Option.length_toList_le
    · exact Option.length_toList_le
    · exact Nat.zero_le 1
  cases frames : label.airs with
  | nil => exact List.nil_sublist _
  | cons frame rest =>
    have onAir : frame ∈ label.airs := by rw [frames]; exact List.mem_cons_self
    obtain ⟨e, rfl, decoded⟩ := aired_beacon cbor ran member onAir
    rw [frames] at single
    have last : rest = [] := List.eq_nil_of_length_eq_zero (by simpa using single)
    subst last
    by_cases counter : e.msgType = .Counter <;>
      simp [counters, decoded, Option.filter_some, beacon, counter]

end DisplayNode

/-! ## The audience -/

inductive Seat (β : Type*) where
  | beacon
  | listener (b : β)
  deriving DecidableEq

/-- The beacon, and whatever the listeners run. -/
abbrev audience {β : Type*} (listeners : β → Board Frame) : Seat β → Board Frame
  | .beacon => displayNodeBoard
  | .listener b => listeners b

namespace Audience

variable {β : Type*} [DecidableEq β] {listeners : β → Board Frame} {s : Fleet (audience listeners)}
  {tr : List (FleetLabel (audience listeners))} {b : β}

/-- What the beacon did. -/
def beaconTrace (tr : List (FleetLabel (audience listeners))) : List DisplayNodeLabel :=
  tr.filterMap (FleetLabel.ofBoard Seat.beacon)

/-- The Counters a listener received. -/
def heardCounters (cbor : Minicbor) (b : β) (tr : List (FleetLabel (audience listeners))) :
    List LoraEnvelope :=
  counters cbor (tr.flatMap (Fleet.heardBy (.listener b)))

theorem run_beacon {medium : Medium Frame} (ran : run (Fleet.step medium) Fleet.start tr = some s) :
    run DisplayNode.step .init (beaconTrace tr) = some (s.board .beacon) :=
  Fleet.run_board Seat.beacon ran

/-- The beacon a label of the fleet transmits. -/
def beaconOf (label : FleetLabel (audience listeners)) : List LoraEnvelope :=
  ((FleetLabel.ofBoard Seat.beacon label).map DisplayNode.beacon).getD []

theorem beacons_beaconTrace : DisplayNode.beacons (beaconTrace tr) = tr.flatMap beaconOf := by
  induction tr with
  | nil => rfl
  | cons label rest ih =>
    rw [List.flatMap_cons, ← ih]
    cases of : FleetLabel.ofBoard Seat.beacon label <;>
      simp [beaconTrace, beaconOf, DisplayNode.beacons, of]

/-- The Counters on their way to a listener are the beacon's. -/
theorem counters_sentTo {medium : Medium Frame}
    (others : ∀ b, (listeners b).Speaks cbor (· ≠ .Counter))
    (ran : run (Fleet.step medium) Fleet.start tr = some s) :
    (counters cbor (tr.flatMap (Fleet.sentTo (.listener b)))).Sublist
      (DisplayNode.beacons (beaconTrace tr)) := by
  rw [beacons_beaconTrace, counters_flatMap]
  refine List.Sublist.flatMap_right tr fun label member => ?_
  cases label with
  | lose => exact List.nil_sublist _
  | act i l =>
    cases i with
    | beacon =>
      have here : (counters cbor (DisplayNodeLabel.airs l)).Sublist (DisplayNode.beacon l) :=
        DisplayNode.counters_airs (run_beacon ran) (Fleet.mem_board.mpr member)
      simpa [Fleet.sentTo, beaconOf, FleetLabel.ofBoard] using here
    | listener b' =>
      by_cases same : b' = b
      · subst same
        simp [Fleet.sentTo, counters]
      · have silent : counters cbor ((listeners b').airs l) = [] :=
          counters_eq_nil fun frame onAir =>
            others b' _ _ (Fleet.run_board (Seat.listener b') ran) l (Fleet.mem_board.mpr member)
              frame onAir
        have out : Fleet.sentTo (Seat.listener b) (.act (Seat.listener b') l) = (listeners b').airs l :=
          if_neg fun here => same (Seat.listener.inj here)
        rw [out, silent]
        exact List.nil_sublist _

/-- **What a listener hears of a beacon is its count, in order and without repetition**,
over a medium that only loses frames.  The Counters heard are among the beacons, and their
payloads those of increasing numbers; a payload is the same for numbers 256 apart. -/
theorem hears_in_order (others : ∀ b, (listeners b).Speaks cbor (· ≠ .Counter))
    (ran : run (Fleet.step .lossyFifo) Fleet.start tr = some s) (b : β) :
    (heardCounters cbor b tr).Sublist (DisplayNode.beacons (beaconTrace tr)) ∧
      ∃ numbers : List Nat, numbers.Pairwise (· < ·) ∧
        (∀ number ∈ numbers, number < (DisplayNode.beacons (beaconTrace tr)).length) ∧
        (heardCounters cbor b tr).map LoraEnvelope.payload = numbers.map DisplayNode.payload := by
  have heard : (heardCounters cbor b tr).Sublist (DisplayNode.beacons (beaconTrace tr)) :=
    ((Fleet.heard_sublist_of_run ran (.listener b)).filterMap _).trans (counters_sentTo others ran)
  have payloads := heard.map LoraEnvelope.payload
  rw [DisplayNode.payloads_of_run (run_beacon ran), List.sublist_map_iff] at payloads
  obtain ⟨numbers, sub, same⟩ := payloads
  refine ⟨heard, numbers, List.pairwise_lt_range.sublist sub, ?_, same⟩
  exact fun number member => List.mem_range.mp (sub.subset member)

/-- A measuring board misses the first beacon and hears the second. -/
def missesFirst : List (FleetLabel (audience fun _ : Unit => responseTimeBoard .reference)) :=
  let beacons (event : BeaconEvent) := .act .beacon (DisplayNodeLabel.main event)
  let measures (event : ReceiveEvent) := .act (.listener ()) (ResponseLabel.receive event)
  [beacons (.cleared true), beacons (.drawn 0 1000000), beacons .locked,
    beacons (.sent (Beacon.message 0 0 1000) (.ok ())), beacons .slept, beacons (.cleared true),
    beacons (.drawn 1 6100000), beacons .locked,
    beacons (.sent (Beacon.message 1 0 6100) (.ok ())), .lose (.listener ()) 0,
    measures .rngLocked, measures .locked, measures (.received (.done (.ok
      (OutgoingFrame.framed (Beacon.message 1 0 6100), sampleStatus))) 6500000)]

theorem hears_of_missesFirst :
    (heardCounters .reference () missesFirst).Sublist
        (DisplayNode.beacons (beaconTrace missesFirst)) ∧
      ∃ numbers : List Nat, numbers.Pairwise (· < ·) ∧
        (∀ number ∈ numbers, number < (DisplayNode.beacons (beaconTrace missesFirst)).length) ∧
        (heardCounters .reference () missesFirst).map LoraEnvelope.payload =
          numbers.map DisplayNode.payload := by
  have runs : (run (Fleet.step .lossyFifo) Fleet.start missesFirst).isSome := by decide +kernel
  obtain ⟨s, ran⟩ := Option.isSome_iff_exists.mp runs
  refine hears_in_order (fun _ => ?_) ran ()
  exact (responseTimeBoard_speaks .reference).mono fun type is => by simp [is]

end Audience

end HaviliarIot
