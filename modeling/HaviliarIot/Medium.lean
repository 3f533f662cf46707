import Mathlib.Data.List.Basic

/-!
A broadcast medium between two parties: what is on the air is a list of frames,
in the order they were transmitted.

A medium delivers and loses frames but never makes one up; that is a law of the
structure, so what is proved from it holds however badly a medium behaves.
`adversarial` loses, duplicates, delays and reorders at will; `lossyFifo` only
loses.  Both are `Permissive`: every frame on the air may still arrive.
-/

namespace HaviliarIot

/-- How a medium treats the frames on the air. -/
structure Medium (Frame : Type*) where
  /-- The air after this frame arrived, if it can arrive now. -/
  deliver : List Frame → Frame → Option (List Frame)
  /-- The air after the frame at this place was lost. -/
  lose : List Frame → Nat → Option (List Frame)
  deliver_sound : ∀ {air air' frame}, deliver air frame = some air' → frame ∈ air ∧ air' ⊆ air
  lose_sound : ∀ {air air' place}, lose air place = some air' → air' ⊆ air

namespace Medium

variable {Frame : Type*} [DecidableEq Frame]

/-- Any frame ever transmitted may arrive, any number of times, or never. -/
def adversarial : Medium Frame where
  deliver air frame := if frame ∈ air then some air else none
  lose _ _ := none
  deliver_sound := by
    intro air air' frame arrived
    obtain ⟨member, same⟩ := Option.ite_none_right_eq_some.mp arrived
    cases same
    exact ⟨member, List.Subset.refl _⟩
  lose_sound := by
    intro air air' place lost
    cases lost

/-- Frames arrive once and in order, except for those that are lost. -/
def lossyFifo : Medium Frame where
  deliver
    | [], _ => none
    | head :: rest, frame => if frame = head then some rest else none
  lose air place := if place < air.length then some (air.eraseIdx place) else none
  deliver_sound := by
    intro air air' frame arrived
    cases air with
    | nil => cases arrived
    | cons head rest =>
      obtain ⟨rfl, same⟩ := Option.ite_none_right_eq_some.mp arrived
      cases same
      exact ⟨List.mem_cons_self, List.subset_cons_self _ _⟩
  lose_sound := by
    intro air air' place lost
    obtain ⟨-, same⟩ := Option.ite_none_right_eq_some.mp lost
    cases same
    exact List.eraseIdx_subset

/-- What arrives is the oldest frame. -/
theorem lossyFifo_deliver {air air' : List Frame} {frame : Frame}
    (arrived : lossyFifo.deliver air frame = some air') : air = frame :: air' := by
  cases air with
  | nil => cases arrived
  | cons head rest =>
    obtain ⟨rfl, same⟩ := Option.ite_none_right_eq_some.mp arrived
    cases same
    rfl

/-! ## What may arrive -/

/-- Any frame on the air may still arrive, after the loss of others. -/
def Permissive (medium : Medium Frame) : Prop :=
  ∀ air, ∀ frame ∈ air, ∃ (places : List Nat) (left air' : List Frame),
    places.foldlM medium.lose air = some left ∧ medium.deliver left frame = some air'

theorem permissive_adversarial : (adversarial : Medium Frame).Permissive := by
  intro air frame onAir
  exact ⟨[], air, air, rfl, by simp [adversarial, onAir]⟩

/-- It is enough to lose what was transmitted before the frame. -/
theorem permissive_lossyFifo : (lossyFifo : Medium Frame).Permissive := by
  intro air frame onAir
  induction air with
  | nil => cases onAir
  | cons head rest ih =>
    by_cases same : frame = head
    · exact ⟨[], head :: rest, rest, rfl, by simp [lossyFifo, same]⟩
    · obtain ⟨places, left, air', lost, arrived⟩ :=
        ih ((List.mem_cons.mp onAir).resolve_left same)
      refine ⟨0 :: places, left, air', ?_, arrived⟩
      rw [List.foldlM_cons]
      simpa [lossyFifo] using lost

end Medium

end HaviliarIot
