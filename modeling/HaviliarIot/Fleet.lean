import HaviliarIot.Medium
import HaviliarIot.Runs
import Mathlib.Logic.Function.Basic

/-!
Any number of boards on one medium, each running a program of its own.

A `Board` is a machine with what its labels take off the air and put on it.  In a
fleet what one board transmits is on its way to every other, and arrives as the
medium likes.

1. **Components.**  Every board of a run does a run of its own (`run_board`).

2. **Provenance.**  What a board hears, another transmitted before
   (`source_of_heard`).  So what is known of each board's own runs can be followed
   back along the frames.

3. **Order.**  A medium that only loses frames keeps the rest in order: what a board
   hears is a sublist of what the others transmitted (`heard_sublist_of_run`).

4. **Continuations.**  What a board does without hearing anything, the fleet can do
   (`drive`), and a frame on its way can arrive if the medium is permissive
   (`lets_through`).

5. **Silence.**  A board is `Reactive` when it only ever transmits after it has heard
   something.  A fleet cannot talk by itself: as long as no other board transmits,
   nothing is on the air, however many reactive boards there are (`silent_of_run`).
-/

namespace HaviliarIot

open Runs

/-- A program on a radio, as one machine. -/
structure Board (Frame : Type*) where
  State : Type
  Label : Type
  step : State → Label → Option State
  start : State
  /-- The frame this label takes off the air. -/
  hears : Label → Option Frame
  /-- The frames this label puts on the air. -/
  airs : Label → List Frame

namespace Board

variable {Frame : Type*}

/-- Nothing heard, nothing transmitted. -/
def Reactive (b : Board Frame) : Prop :=
  ∀ tr s, run b.step b.start tr = some s → (∀ l ∈ tr, b.hears l = none) → ∀ l ∈ tr, b.airs l = []

/-- It is enough that an invariant keeps what hears nothing from transmitting. -/
theorem reactive_of_invariant {b : Board Frame} (Quiet : b.State → Prop) (start : Quiet b.start)
    (stays : ∀ {s l s'}, Quiet s → b.hears l = none → b.step s l = some s' →
      Quiet s' ∧ b.airs l = []) : b.Reactive := by
  intro tr s ran
  refine (run_induction (P := fun tr s => (∀ l ∈ tr, b.hears l = none) →
    Quiet s ∧ ∀ l ∈ tr, b.airs l = []) ?_ ?_ ran · |>.2)
  · intro _
    exact ⟨start, by simp⟩
  · intro tr s l s' _ before taken deaf
    obtain ⟨deafBefore, deafNow⟩ := List.forall_mem_append.mp deaf
    obtain ⟨quiet, silent⟩ := before deafBefore
    obtain ⟨quiet', silentNow⟩ := stays quiet (deafNow l (List.mem_singleton_self l)) taken
    exact ⟨quiet', List.forall_mem_append.mpr ⟨silent, by simpa using silentNow⟩⟩

end Board

variable {ι Frame : Type*} [DecidableEq ι] {boards : ι → Board Frame}

/-- The boards, and for each the frames on their way to it. -/
structure Fleet (boards : ι → Board Frame) where
  board : ∀ i, (boards i).State
  air : ι → List Frame

inductive FleetLabel (boards : ι → Board Frame) where
  | act (i : ι) (label : (boards i).Label)
  /-- A frame on its way to a board is lost. -/
  | lose (i : ι) (place : Nat)

namespace FleetLabel

/-- The label of this board this is. -/
def ofBoard (i : ι) : FleetLabel boards → Option (boards i).Label
  | act j label => if same : j = i then some (same ▸ label) else none
  | lose .. => none

def hears : FleetLabel boards → Option Frame
  | act i label => (boards i).hears label
  | lose .. => none

def airs : FleetLabel boards → List Frame
  | act i label => (boards i).airs label
  | lose .. => []

end FleetLabel

namespace Fleet

def start : Fleet boards := ⟨fun i => (boards i).start, fun _ => []⟩

/-- What a board takes off the air. -/
def hear (medium : Medium Frame) (air : List Frame) : Option Frame → Option (List Frame)
  | some frame => medium.deliver air frame
  | none => some air

/-- One label of one board, or the loss of a frame. -/
def step (medium : Medium Frame) (s : Fleet boards) : FleetLabel boards → Option (Fleet boards)
  | .act i label =>
    ((boards i).step (s.board i) label).bind fun next =>
      (hear medium (s.air i) ((boards i).hears label)).map fun air =>
        { board := Function.update s.board i next
          air := Function.update (fun j => s.air j ++ (boards i).airs label) i air }
  | .lose i place =>
    (medium.lose (s.air i) place).map fun air => { s with air := Function.update s.air i air }

variable {medium : Medium Frame} {s s' : Fleet boards} {label : FleetLabel boards}
  {tr : List (FleetLabel boards)}

/-- A label of the fleet is a step of one board at most. -/
theorem step_board (i : ι) (taken : step medium s label = some s') :
    Projects (boards i).step (FleetLabel.ofBoard i) (s.board i) (s'.board i) label := by
  cases label with
  | lose j place =>
    obtain ⟨air, -, rfl⟩ := Option.map_eq_some_iff.mp taken
    rfl
  | act j l =>
    simp only [step, Option.bind_eq_some_iff, Option.map_eq_some_iff] at taken
    obtain ⟨next, stepped, air, -, rfl⟩ := taken
    by_cases same : j = i
    · subst same
      simpa [Projects, FleetLabel.ofBoard] using stepped
    · simp [Projects, FleetLabel.ofBoard, same, Function.update_of_ne (Ne.symm same)]

/-- Every board does a run of its own. -/
theorem run_board (i : ι) (ran : run (step medium) start tr = some s) :
    run (boards i).step (boards i).start (tr.filterMap (FleetLabel.ofBoard i)) =
      some (s.board i) :=
  run_project (fun s : Fleet boards => s.board i) (step_board i) ran

/-- A board's own trace is what it does in the fleet's. -/
theorem mem_board {i : ι} {l : (boards i).Label} :
    l ∈ tr.filterMap (FleetLabel.ofBoard i) ↔ .act i l ∈ tr := by
  rw [List.mem_filterMap]
  constructor
  · rintro ⟨label, member, is⟩
    cases label with
    | lose => cases is
    | act j l' =>
      by_cases same : j = i
      · subst same
        simp only [FleetLabel.ofBoard, dite_true, Option.some.injEq] at is
        exact is ▸ member
      · simp [FleetLabel.ofBoard, same] at is
  · intro member
    exact ⟨_, member, by simp [FleetLabel.ofBoard]⟩

/-! ## Provenance -/

/-- Another board transmitted this frame. -/
def SentTo (tr : List (FleetLabel boards)) (i : ι) (frame : Frame) : Prop :=
  ∃ j l, j ≠ i ∧ .act j l ∈ tr ∧ frame ∈ (boards j).airs l

omit [DecidableEq ι] in
theorem SentTo.mono {i : ι} {frame : Frame} (sent : SentTo tr i frame)
    (label : FleetLabel boards) : SentTo (tr ++ [label]) i frame := by
  obtain ⟨j, l, other, member, airs⟩ := sent
  exact ⟨j, l, other, List.mem_append_left _ member, airs⟩

theorem hear_subset {air air' : List Frame} {heard : Option Frame}
    (taken : hear medium air heard = some air') : air' ⊆ air := by
  cases heard with
  | none =>
    cases taken
    exact List.Subset.refl _
  | some frame => exact (medium.deliver_sound taken).2

/-- What is on its way after a step was so before, or is being transmitted. -/
theorem air_step {i : ι} {frame : Frame} (taken : step medium s label = some s')
    (onAir : frame ∈ s'.air i) :
    frame ∈ s.air i ∨ ∃ j l, j ≠ i ∧ label = .act j l ∧ frame ∈ (boards j).airs l := by
  cases label with
  | lose j place =>
    obtain ⟨air, lost, rfl⟩ := Option.map_eq_some_iff.mp taken
    by_cases same : i = j
    · subst same
      have left : frame ∈ air := by simpa using onAir
      exact .inl (medium.lose_sound lost left)
    · left
      simpa [Function.update_of_ne same] using onAir
  | act j l =>
    simp only [step, Option.bind_eq_some_iff, Option.map_eq_some_iff] at taken
    obtain ⟨_, -, air, heard, rfl⟩ := taken
    by_cases same : i = j
    · subst same
      have left : frame ∈ air := by simpa using onAir
      exact .inl (hear_subset heard left)
    · have added : frame ∈ s.air i ∨ frame ∈ (boards j).airs l := by
        simpa [Function.update_of_ne same] using onAir
      exact added.imp_right fun airs => ⟨j, l, Ne.symm same, rfl, airs⟩

/-- What is on its way to a board was transmitted by another. -/
theorem air_of_run (ran : run (step medium) start tr = some s) :
    ∀ i, ∀ frame ∈ s.air i, SentTo tr i frame := by
  refine run_induction (P := fun tr s => ∀ i, ∀ frame ∈ s.air i, SentTo tr i frame) ?_ ?_ ran
  · intro i frame onAir
    cases onAir
  · intro tr s label s' _ before taken i frame onAir
    rcases air_step taken onAir with onAir | ⟨j, l, other, rfl, airs⟩
    · exact (before i frame onAir).mono _
    · exact ⟨j, l, other, List.mem_append_right _ (List.mem_singleton_self _), airs⟩

/-- **Nothing is heard that no other board transmitted before.** -/
theorem source_of_heard {before after : List (FleetLabel boards)} {i : ι} {l : (boards i).Label}
    {frame : Frame} (ran : run (step medium) start (before ++ .act i l :: after) = some s)
    (hears : (boards i).hears l = some frame) : SentTo before i frame := by
  obtain ⟨mid, _, first, taken, -⟩ := run_at ran
  simp only [step, Option.bind_eq_some_iff, Option.map_eq_some_iff] at taken
  obtain ⟨_, -, _, heard, -⟩ := taken
  rw [hears] at heard
  exact air_of_run first i frame (medium.deliver_sound heard).1

/-! ## Order -/

/-- The frame a board takes off the air. -/
def heardBy (i : ι) : FleetLabel boards → List Frame
  | .act j l => if j = i then ((boards j).hears l).toList else []
  | .lose .. => []

/-- The frames put on their way to a board. -/
def sentTo (i : ι) : FleetLabel boards → List Frame
  | .act j l => if j = i then [] else (boards j).airs l
  | .lose .. => []

/-- **What a board hears is in the order of transmission**, if the medium does no more than
lose frames. -/
theorem heard_sublist_of_run [DecidableEq Frame]
    (ran : run (step (.lossyFifo : Medium Frame)) start tr = some s) (i : ι) :
    (tr.flatMap (heardBy i)).Sublist (tr.flatMap (sentTo i)) := by
  have flow : (tr.flatMap (heardBy i) ++ s.air i).Sublist (tr.flatMap (sentTo i)) := by
    refine run_flow (fun s : Fleet boards => s.air i) ?_ ran
    intro _ s label s' _ taken
    cases label with
    | lose j place =>
      obtain ⟨air, lost, rfl⟩ := Option.map_eq_some_iff.mp taken
      obtain ⟨-, same⟩ := Option.ite_none_right_eq_some.mp lost
      cases same
      by_cases here : i = j
      · subst here
        simp [heardBy, sentTo, List.eraseIdx_sublist]
      · simp [heardBy, sentTo, Function.update_of_ne here]
    | act j l =>
      simp only [step, Option.bind_eq_some_iff, Option.map_eq_some_iff] at taken
      obtain ⟨_, -, air, heard, rfl⟩ := taken
      by_cases here : i = j
      · subst here
        have first : ((boards i).hears l).toList ++ air = s.air i := by
          cases hears : (boards i).hears l with
          | none =>
            rw [hears] at heard
            cases heard
            rfl
          | some frame =>
            rw [hears] at heard
            exact (Medium.lossyFifo_deliver heard).symm
        simp [heardBy, sentTo, first]
      · simp [heardBy, sentTo, Function.update_of_ne here, Ne.symm here]
  exact (List.sublist_append_left _ _).trans flow

/-! ## Continuations -/

/-- What a board does is a step of the fleet, if the frame it takes can arrive: the
others stand still, and what it transmits is on its way to them. -/
theorem act (medium : Medium Frame) {i : ι} {l : (boards i).Label} {b : (boards i).State} {air : List Frame}
    (stepped : (boards i).step (s.board i) l = some b)
    (heard : hear medium (s.air i) ((boards i).hears l) = some air) :
    ∃ s', step medium s (.act i l) = some s' ∧ s'.board i = b ∧ s'.air i = air ∧
      ∀ j, j ≠ i → s'.board j = s.board j ∧ s'.air j = s.air j ++ (boards i).airs l := by
  refine ⟨{ board := Function.update s.board i b
            air := Function.update (fun j => s.air j ++ (boards i).airs l) i air }, ?_, ?_, ?_, ?_⟩
  · simp [step, stepped, heard]
  · simp
  · simp
  · intro j other
    simp [Function.update_of_ne other]

/-- What a board does without hearing anything, the fleet can do: the other boards stand
still, and what was on its way still is. -/
theorem drive_run (i : ι) {own : List (boards i).Label} {b : (boards i).State}
    (deaf : ∀ l ∈ own, (boards i).hears l = none)
    (ran : run (boards i).step (s.board i) own = some b) :
    ∃ s', run (step medium) s (own.map (.act i)) = some s' ∧
      s'.board i = b ∧ (∀ j, j ≠ i → s'.board j = s.board j) ∧ ∀ j, s.air j ⊆ s'.air j := by
  induction own generalizing s with
  | nil =>
    cases Option.some.inj ran
    exact ⟨s, rfl, rfl, fun _ _ => rfl, fun _ => List.Subset.refl _⟩
  | cons l own ih =>
    obtain ⟨deafHere, deaf⟩ := List.forall_mem_cons.mp deaf
    rw [run_cons, Option.bind_eq_some_iff] at ran
    obtain ⟨mid, stepped, ran⟩ := ran
    have unheard : hear medium (s.air i) ((boards i).hears l) = some (s.air i) := by
      rw [deafHere]
      rfl
    obtain ⟨next, taken, here, sameAir, rest⟩ := act medium stepped unheard
    obtain ⟨last, driven, reached, others, air⟩ := ih deaf (s := next) (by rw [here]; exact ran)
    refine ⟨last, ?_, reached, ?_, ?_⟩
    · rw [List.map_cons, run_cons, taken]
      exact driven
    · intro j other
      exact (others j other).trans (rest j other).1
    · intro j
      refine List.Subset.trans ?_ (air j)
      by_cases same : j = i
      · subst same
        rw [sameAir]
        exact List.Subset.refl _
      · rw [(rest j same).2]
        exact List.subset_append_left _ _

/-- The same for the labels it is allowed. -/
theorem drive (i : ι) {allowed : (boards i).Label → Prop}
    (deaf : ∀ l, allowed l → (boards i).hears l = none) {b : (boards i).State}
    (leads : Leads (boards i).step allowed (s.board i) b) :
    ∃ s', Leads (step medium) (fun label => ∃ l, label = .act i l ∧ allowed l) s s' ∧
      s'.board i = b ∧ (∀ j, j ≠ i → s'.board j = s.board j) ∧ ∀ j, s.air j ⊆ s'.air j := by
  obtain ⟨own, all, ran⟩ := leads
  obtain ⟨s', driven, rest⟩ := drive_run i (fun l member => deaf l (all l member)) ran
  refine ⟨s', ⟨own.map (.act i), ?_, driven⟩, rest⟩
  exact List.forall_mem_map.mpr fun l member => ⟨l, rfl, all l member⟩

/-- A permissive medium lets a frame through to a board, after losing others. -/
theorem lets_through (permissive : medium.Permissive) {i : ι} {frame : Frame}
    (onAir : frame ∈ s.air i) :
    ∃ s', Leads (step medium) (fun label => ∃ place, label = .lose i place) s s' ∧
      s'.board = s.board ∧ ∃ air, medium.deliver (s'.air i) frame = some air := by
  obtain ⟨places, left, air, lost, arrived⟩ := permissive _ frame onAir
  clear onAir
  induction places generalizing s with
  | nil =>
    cases lost
    exact ⟨s, .refl s, rfl, air, arrived⟩
  | cons place rest ih =>
    rw [List.foldlM_cons, Option.bind_eq_bind, Option.bind_eq_some_iff] at lost
    obtain ⟨mid, lostHere, lost⟩ := lost
    have taken : step medium s (.lose i place) =
        some { s with air := Function.update s.air i mid } := by
      simp [step, lostHere]
    obtain ⟨s', leads, same, arrives⟩ :=
      @ih { s with air := Function.update s.air i mid } (by simpa using lost)
    exact ⟨s', leads.head ⟨place, rfl⟩ taken, same, arrives⟩

/-! ## Silence -/

/-- What a board of the trace hears, the trace hears. -/
theorem deaf_board (i : ι) (deaf : ∀ label ∈ tr, label.hears = none) :
    ∀ l ∈ tr.filterMap (FleetLabel.ofBoard i), (boards i).hears l = none :=
  fun _ within => deaf _ (mem_board.mp within)

/-- Nothing was transmitted, and nothing is on its way. -/
structure Silent (tr : List (FleetLabel boards)) (s : Fleet boards) : Prop where
  labels : ∀ label ∈ tr, label.airs = [] ∧ label.hears = none
  air : ∀ i, s.air i = []

/-- On silent air nothing arrives, so a reactive board stays silent too. -/
theorem silent_step (first : run (step medium) start tr = some s) (silent : Silent tr s)
    (others : ∀ i l, label = .act i l → ¬ (boards i).Reactive → (boards i).airs l = [])
    (taken : step medium s label = some s') : Silent (tr ++ [label]) s' := by
  cases label with
  | lose i place =>
    obtain ⟨air, lost, rfl⟩ := Option.map_eq_some_iff.mp taken
    have none : air = [] := by
      have fewer := medium.lose_sound lost
      rw [silent.air i] at fewer
      exact List.eq_nil_of_subset_nil fewer
    refine ⟨List.forall_mem_append.mpr ⟨silent.labels, by simp [FleetLabel.airs, FleetLabel.hears]⟩, ?_⟩
    intro j
    by_cases same : j = i
    · subst same
      simpa using none
    · exact (Function.update_of_ne same _ _).trans (silent.air j)
  | act i l =>
    have ran : run (step medium) start (tr ++ [.act i l]) = some s' := run_snoc.mpr ⟨s, first, taken⟩
    simp only [step, Option.bind_eq_some_iff, Option.map_eq_some_iff] at taken
    obtain ⟨next, -, air, heard, rfl⟩ := taken
    have deafNow : (boards i).hears l = none := by
      cases hears : (boards i).hears l with
      | none => rfl
      | some frame =>
        rw [hears, silent.air i] at heard
        cases (medium.deliver_sound heard).1
    have deaf : ∀ label ∈ tr ++ [.act i l], label.hears = none :=
      List.forall_mem_append.mpr ⟨fun label member => (silent.labels label member).2,
        List.forall_mem_singleton.mpr deafNow⟩
    have quiet : (boards i).airs l = [] := by
      by_cases reactive : (boards i).Reactive
      · refine reactive _ _ (run_board i ran) (deaf_board i deaf) l ?_
        simp [FleetLabel.ofBoard]
      · exact others i l rfl reactive
    rw [deafNow] at heard
    cases heard
    refine ⟨List.forall_mem_append.mpr ⟨silent.labels, List.forall_mem_singleton.mpr ⟨quiet, deafNow⟩⟩, ?_⟩
    intro j
    by_cases same : j = i
    · subst same
      simpa using silent.air j
    · simp [Function.update_of_ne same, quiet, silent.air j]

/-- **A fleet does not talk by itself**: while no other board transmits, none of the
reactive ones does. -/
theorem silent_of_run (ran : run (step medium) start tr = some s)
    (others : ∀ i l, .act i l ∈ tr → ¬ (boards i).Reactive → (boards i).airs l = []) :
    Silent tr s := by
  refine run_induction (P := fun tr s =>
    (∀ i l, .act i l ∈ tr → ¬ (boards i).Reactive → (boards i).airs l = []) → Silent tr s)
    ?_ ?_ ran others
  · intro _
    exact ⟨by simp, fun _ => rfl⟩
  · intro tr s label s' first silent taken others
    refine silent_step first (silent fun i l member => others i l (List.mem_append_left _ member))
      ?_ taken
    rintro i l rfl
    exact others i l (by simp)

end Fleet

end HaviliarIot
