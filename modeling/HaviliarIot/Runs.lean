import Mathlib.Algebra.GroupWithZero.Nat
import Mathlib.Data.List.Induction

/-!
Runs of a machine given by a partial step function, with the whole trace kept.

`step s l` is `none` when the label `l` cannot happen in `s`; `run` feeds a
trace of labels to it.  A label carries every choice of the environment, so a
run is a function of its trace, and a concrete trace can be evaluated.

1. **Invariants over histories.**  `run_induction` proves a property of the
   trace so far and the state it reaches; `run_induction_of` does so for runs
   whose steps all meet a condition on the state before the step
   (`Throughout`).

2. **Flow.**  When what a step puts out and leaves held was held before or came
   in with it, the same is true of a whole run, in order (`run_flow`); the run
   loses nothing exactly when no step does (`run_flow_exact`).

3. **Budgets.**  When every step pays for what it costs, a run costs no more than it
   gained, up to the potential of where it starts (`run_budget`), and a stretch
   without gain no more than the potential can be (`run_window`).

4. **Projection.**  When every step of a composite machine is a step of one
   component, or leaves it alone, a run of the composite projects to a run of
   the component (`run_project`).  The same says that one machine refines another
   in the runs that meet a condition (`run_refines`).

5. **Continuations.**  `Leads` says that a machine can go from one state to
   another by labels of a given kind.  It is proved one step at a time from the
   end (`Leads.head`), and lifted from a component that steps on its own to the
   composite (`Leads.lift`).

6. **Progress.**  `CanReach` says that a goal can be reached by steps that meet a
   condition.  It can when some such step always makes a variant smaller
   (`CanReach.of_variant`), and cannot from inside a trap that no such step leaves
   (`CanReach.not_of_trap`).

7. **Time.**  `Regardless` says that a goal can be reached whatever a clock reads at
   each step, when labels may carry a reading.  The machine answers one reading after
   the other (`Regardless.head`), and ways are joined end to end (`Regardless.bind`).
-/

namespace HaviliarIot.Runs

variable {State Label State' Label' : Type*}

/-- Feed a trace to a partial step function. -/
def run (step : State → Label → Option State) : State → List Label → Option State
  | s, [] => some s
  | s, l :: rest => (step s l).bind fun next => run step next rest

variable {step : State → Label → Option State} {start s s' : State} {l : Label}
  {tr tr₁ tr₂ : List Label}

@[simp] theorem run_nil : run step s [] = some s := rfl

@[simp] theorem run_cons :
    run step s (l :: tr) = (step s l).bind fun next => run step next tr := rfl

theorem run_append :
    run step start (tr₁ ++ tr₂) = (run step start tr₁).bind fun mid => run step mid tr₂ := by
  induction tr₁ generalizing start with
  | nil => rfl
  | cons l rest ih =>
    cases taken : step start l with
    | none => simp [taken]
    | some next => simp [taken, ih]

/-- Two runs end to end. -/
theorem run_trans {mid : State} (first : run step start tr₁ = some mid)
    (second : run step mid tr₂ = some s) : run step start (tr₁ ++ tr₂) = some s := by
  rw [run_append, first]
  exact second

/-- The last step of a run. -/
theorem run_snoc : run step start (tr ++ [l]) = some s' ↔
    ∃ s, run step start tr = some s ∧ step s l = some s' := by
  rw [run_append, Option.bind_eq_some_iff]
  simp [run]

/-- A prefix of a run is a run, and the rest starts where it ends. -/
theorem run_split (ran : run step start (tr₁ ++ tr₂) = some s) :
    ∃ mid, run step start tr₁ = some mid ∧ run step mid tr₂ = some s := by
  rwa [run_append, Option.bind_eq_some_iff] at ran

/-- The states before and after one step in the middle of a run. -/
theorem run_at (ran : run step start (tr₁ ++ l :: tr₂) = some s) :
    ∃ before after, run step start tr₁ = some before ∧ step before l = some after ∧
      run step after tr₂ = some s := by
  obtain ⟨before, first, rest⟩ := run_split ran
  rw [run_cons, Option.bind_eq_some_iff] at rest
  obtain ⟨after, taken, rest⟩ := rest
  exact ⟨before, after, first, taken, rest⟩

/-! ## Invariants over histories -/

/-- A property of histories that holds of the empty trace and survives every
step holds of every run. -/
theorem run_induction {P : List Label → State → Prop} (init : P [] start)
    (preserve : ∀ {tr s l s'}, run step start tr = some s → P tr s → step s l = some s' →
      P (tr ++ [l]) s')
    (ran : run step start tr = some s) : P tr s := by
  induction tr using List.reverseRecOn generalizing s with
  | nil =>
    cases Option.some.inj ran
    exact init
  | append_singleton tr l ih =>
    obtain ⟨before, first, taken⟩ := run_snoc.mp ran
    exact preserve first (ih first) taken

/-- Every step of the trace meets a condition on the state it starts from. -/
def Throughout (step : State → Label → Option State) (cond : State → Label → Prop) :
    State → List Label → Prop
  | _, [] => True
  | s, l :: rest => cond s l ∧
    match step s l with
    | some next => Throughout step cond next rest
    | none => True

variable {cond : State → Label → Prop}

instance [∀ s l, Decidable (cond s l)] : ∀ s tr, Decidable (Throughout step cond s tr)
  | _, [] => inferInstanceAs (Decidable True)
  | s, l :: rest =>
    match taken : step s l with
    | some next =>
      have := instDecidableThroughout next rest
      decidable_of_iff (cond s l ∧ Throughout step cond next rest) (by simp [Throughout, taken])
    | none => decidable_of_iff (cond s l) (by simp [Throughout, taken])

theorem throughout_append (first : run step start tr₁ = some s) :
    Throughout step cond start (tr₁ ++ tr₂) ↔
      Throughout step cond start tr₁ ∧ Throughout step cond s tr₂ := by
  induction tr₁ generalizing start with
  | nil =>
    cases Option.some.inj first
    simp [Throughout]
  | cons l rest ih =>
    rw [run_cons, Option.bind_eq_some_iff] at first
    obtain ⟨next, taken, first⟩ := first
    simp only [List.cons_append, Throughout, taken, ih first, and_assoc]

theorem throughout_snoc (first : run step start tr = some s) :
    Throughout step cond start (tr ++ [l]) ↔ Throughout step cond start tr ∧ cond s l := by
  rw [throughout_append first]
  have last : Throughout step cond s [l] ↔ cond s l := by
    cases taken : step s l <;> simp [Throughout, taken]
  rw [last]

/-- A condition that holds of a label in every state holds throughout. -/
theorem throughout_of_forall (all : ∀ l ∈ tr, ∀ s, cond s l) : Throughout step cond start tr := by
  induction tr generalizing start with
  | nil => trivial
  | cons l rest ih =>
    refine ⟨all l List.mem_cons_self start, ?_⟩
    cases step start l with
    | none => trivial
    | some next => exact ih fun l member => all l (List.mem_cons_of_mem _ member)

/-- A run goes on meeting a condition while it meets one that implies it. -/
theorem throughout_extend {cond' : State → Label → Prop}
    (implies : ∀ {tr s l}, run step start tr = some s → Throughout step cond start tr → cond' s l →
      cond s l)
    (first : run step start tr₁ = some s) (met : Throughout step cond start tr₁)
    (rest : Throughout step cond' s tr₂) : Throughout step cond start (tr₁ ++ tr₂) := by
  induction tr₂ generalizing tr₁ s with
  | nil => rwa [List.append_nil]
  | cons l tr₂ ih =>
    obtain ⟨here, rest⟩ := rest
    have met' := (throughout_snoc first).mpr ⟨met, implies first met here⟩
    cases taken : step s l with
    | none =>
      refine (throughout_append first).mpr ⟨met, implies first met here, ?_⟩
      rw [taken]
      trivial
    | some next =>
      rw [taken] at rest
      rw [List.append_cons]
      exact ih (run_snoc.mpr ⟨s, first, taken⟩) met' rest

/-- `run_induction` for the runs whose steps all meet the condition. -/
theorem run_induction_of {P : List Label → State → Prop} (init : P [] start)
    (preserve : ∀ {tr s l s'}, run step start tr = some s → P tr s → cond s l →
      step s l = some s' → P (tr ++ [l]) s')
    (ran : run step start tr = some s) (met : Throughout step cond start tr) : P tr s := by
  refine run_induction (P := fun tr s => Throughout step cond start tr → P tr s)
    (fun _ => init) ?_ ran met
  intro tr s l s' first held taken met
  obtain ⟨metBefore, metNow⟩ := (throughout_snoc first).mp met
  exact preserve first (held metBefore) metNow taken

/-- And what holds throughout a run in every state holds of its labels. -/
theorem forall_of_throughout {P : Label → Prop} (ran : run step start tr = some s)
    (met : Throughout step (fun _ l => P l) start tr) : ∀ l ∈ tr, P l := by
  refine run_induction_of (P := fun tr _ => ∀ l ∈ tr, P l) (by simp) ?_ ran met
  intro tr _ l _ _ before here _
  exact List.forall_mem_append.mpr ⟨before, List.forall_mem_singleton.mpr here⟩

/-- A condition on every step, read off the trace and the last state: it is
enough that one step says the same of itself. -/
theorem throughout_iff (good : Label → Prop) (honest : State → Prop) (init : honest start)
    (stepwise : ∀ {tr s l s'}, run step start tr = some s → step s l = some s' →
      (good l ∧ honest s' ↔ honest s ∧ cond s l))
    (ran : run step start tr = some s) :
    Throughout step cond start tr ↔ (∀ l ∈ tr, good l) ∧ honest s := by
  refine run_induction
    (P := fun tr s => Throughout step cond start tr ↔ (∀ l ∈ tr, good l) ∧ honest s) ?_ ?_ ran
  · simp [Throughout, init]
  · intro tr s l s' first ih taken
    rw [throughout_snoc first, ih, and_assoc, ← stepwise first taken, ← and_assoc]
    simp [or_imp, forall_and]

/-! ## Flow -/

variable {α : Type*} {out inn : Label → List α} (held : State → List α)

/-- What a run puts out, followed by what it still holds, was held at the start
or came in, in that order. -/
theorem run_flow
    (balance : ∀ {tr s l s'}, run step start tr = some s → step s l = some s' →
      (out l ++ held s').Sublist (held s ++ inn l))
    (ran : run step start tr = some s) :
    (tr.flatMap out ++ held s).Sublist (held start ++ tr.flatMap inn) := by
  refine run_induction
    (P := fun tr s => (tr.flatMap out ++ held s).Sublist (held start ++ tr.flatMap inn)) ?_ ?_ ran
  · simp
  · intro tr s l s' first ih taken
    have here := (balance first taken).append_left (tr.flatMap out)
    have before := ih.append_right (inn l)
    simp only [List.flatMap_append, List.flatMap_cons, List.flatMap_nil, List.append_nil,
      List.append_assoc] at here before ⊢
    exact here.trans before

/-- A run loses nothing exactly when no step of it does. -/
theorem run_flow_exact
    (balance : ∀ {tr s l s'}, run step start tr = some s → step s l = some s' →
      (out l ++ held s').Sublist (held s ++ inn l))
    (exact_step : ∀ {tr s l s'}, run step start tr = some s → step s l = some s' →
      ((out l ++ held s').length = (held s ++ inn l).length ↔ cond s l))
    (ran : run step start tr = some s) :
    Throughout step cond start tr ↔
      (tr.flatMap out ++ held s).length = (held start ++ tr.flatMap inn).length := by
  refine run_induction (P := fun tr s => Throughout step cond start tr ↔
    (tr.flatMap out ++ held s).length = (held start ++ tr.flatMap inn).length) ?_ ?_ ran
  · simp [Throughout]
  · intro tr s l s' first ih taken
    have bound := (run_flow held balance first).length_le
    have here := (balance first taken).length_le
    rw [throughout_snoc first, ih, ← exact_step first taken]
    simp only [List.flatMap_append, List.flatMap_cons, List.flatMap_nil, List.append_nil,
      List.length_append] at bound here ⊢
    omega

/-! ## Budgets -/

variable {cost gain : Label → Nat} (potential : State → Nat)

/-- When every step pays for what it costs, from what it gains or from the potential
of the state, so does a run. -/
theorem run_budget
    (pays : ∀ s l s', step s l = some s' → cost l + potential s' ≤ potential s + gain l)
    (ran : run step start tr = some s) :
    (tr.map cost).sum + potential s ≤ potential start + (tr.map gain).sum := by
  induction tr generalizing start with
  | nil =>
    cases Option.some.inj ran
    simp
  | cons l rest ih =>
    rw [run_cons, Option.bind_eq_some_iff] at ran
    obtain ⟨next, taken, ran⟩ := ran
    have here := pays _ _ _ taken
    have after := ih ran
    simp only [List.map_cons, List.sum_cons]
    omega

/-- A stretch of a run that gains nothing lives on the potential it starts with. -/
theorem run_window {tr₃ : List Label}
    (pays : ∀ s l s', step s l = some s' → cost l + potential s' ≤ potential s + gain l)
    {bound : Nat} (bounded : ∀ s, potential s ≤ bound)
    (ran : run step start (tr₁ ++ tr₂ ++ tr₃) = some s) (dry : ∀ l ∈ tr₂, gain l = 0) :
    (tr₂.map cost).sum ≤ bound := by
  rw [List.append_assoc] at ran
  obtain ⟨first, -, ran⟩ := run_split ran
  obtain ⟨last, window, -⟩ := run_split ran
  have budget := run_budget potential pays window
  have nothing : (tr₂.map gain).sum = 0 := by
    rw [List.sum_eq_zero_iff_forall_eq_nat, List.forall_mem_map]
    exact dry
  have start := bounded first
  omega

/-! ## Projection to a component -/

/-- What a composite step does to a component: one of its steps, or nothing. -/
def Projects (step' : State' → Label' → Option State') (relabel : Label → Option Label')
    (before after : State') (l : Label) : Prop :=
  match relabel l with
  | some l' => step' before l' = some after
  | none => after = before

/-- A run of a composite machine is, seen from a component, a run of the
component on its own labels. -/
theorem run_project {step' : State' → Label' → Option State'} (view : State → State')
    {relabel : Label → Option Label'}
    (projects : ∀ {s l s'}, step s l = some s' → Projects step' relabel (view s) (view s') l)
    (ran : run step start tr = some s) :
    run step' (view start) (tr.filterMap relabel) = some (view s) := by
  induction tr generalizing start with
  | nil =>
    cases Option.some.inj ran
    rfl
  | cons l rest ih =>
    rw [run_cons, Option.bind_eq_some_iff] at ran
    obtain ⟨next, taken, rest⟩ := ran
    have seen := projects taken
    unfold Projects at seen
    cases label : relabel l with
    | none =>
      rw [label] at seen
      rw [List.filterMap_cons_none label, ← seen]
      exact ih rest
    | some l' =>
      rw [label] at seen
      rw [List.filterMap_cons_some label, run_cons, seen]
      exact ih rest

/-- A condition on the component's steps, read off the composite's. -/
theorem throughout_project {step' : State' → Label' → Option State'} {cond' : State' → Label' → Prop}
    (view : State → State') {relabel : Label → Option Label'}
    (projects : ∀ {s l s'}, step s l = some s' → Projects step' relabel (view s) (view s') l)
    (meets : ∀ {s l l'}, relabel l = some l' → cond s l → cond' (view s) l')
    (ran : run step start tr = some s) (met : Throughout step cond start tr) :
    Throughout step' cond' (view start) (tr.filterMap relabel) := by
  refine run_induction_of (P := fun tr _ =>
    Throughout step' cond' (view start) (tr.filterMap relabel)) trivial ?_ ran met
  intro tr s l s' first before here _
  rw [List.filterMap_append]
  cases label : relabel l with
  | none => simpa [label] using before
  | some l' =>
    rw [List.filterMap_cons_some label, List.filterMap_nil]
    exact (throughout_snoc (run_project view projects first)).mpr ⟨before, meets label here⟩

/-- The same for the runs whose steps all meet a condition, with the history of the
step at hand: such a run refines a run of the other machine. -/
theorem run_refines {step' : State' → Label' → Option State'} (view : State → State')
    {relabel : Label → Option Label'}
    (refines : ∀ {tr s l s'}, run step start tr = some s → Throughout step cond start (tr ++ [l]) →
      step s l = some s' → Projects step' relabel (view s) (view s') l)
    (ran : run step start tr = some s) (met : Throughout step cond start tr) :
    run step' (view start) (tr.filterMap relabel) = some (view s) := by
  refine run_induction (P := fun tr s => Throughout step cond start tr →
    run step' (view start) (tr.filterMap relabel) = some (view s)) (fun _ => rfl) ?_ ran met
  intro tr s l s' first ih taken met
  have before := ih ((throughout_snoc first).mp met).1
  have seen := refines first met taken
  unfold Projects at seen
  rw [List.filterMap_append]
  cases label : relabel l with
  | none =>
    rw [label] at seen
    rw [List.filterMap_cons_none label, List.filterMap_nil, List.append_nil, seen]
    exact before
  | some l' =>
    rw [label] at seen
    rw [List.filterMap_cons_some label, List.filterMap_nil]
    exact run_snoc.mpr ⟨view s, before, seen⟩

/-! ## Continuations -/

/-- Some run of allowed labels leads from one state to the other. -/
def Leads (step : State → Label → Option State) (allowed : Label → Prop) (s s' : State) : Prop :=
  ∃ tr, (∀ l ∈ tr, allowed l) ∧ run step s tr = some s'

namespace Leads

variable {allowed : Label → Prop} {s'' : State}

theorem refl (s : State) : Leads step allowed s s := ⟨[], by simp, rfl⟩

/-- One allowed step, then the rest. -/
theorem head (ok : allowed l) (taken : step s l = some s') (rest : Leads step allowed s' s'') :
    Leads step allowed s s'' := by
  obtain ⟨tr, all, ran⟩ := rest
  refine ⟨l :: tr, List.forall_mem_cons.mpr ⟨ok, all⟩, ?_⟩
  rw [run_cons, taken]
  exact ran

theorem single (ok : allowed l) (taken : step s l = some s') : Leads step allowed s s' :=
  head ok taken (refl s')

theorem trans (first : Leads step allowed s s') (second : Leads step allowed s' s'') :
    Leads step allowed s s'' := by
  obtain ⟨tr, all, ran⟩ := first
  obtain ⟨tr', all', ran'⟩ := second
  exact ⟨tr ++ tr', List.forall_mem_append.mpr ⟨all, all'⟩, run_trans ran ran'⟩

/-- More labels may be allowed. -/
theorem imp {allowed' : Label → Prop} (weaker : ∀ l, allowed l → allowed' l)
    (leads : Leads step allowed s s') : Leads step allowed' s s' := by
  obtain ⟨tr, all, ran⟩ := leads
  exact ⟨tr, fun l member => weaker l (all l member), ran⟩

/-- What every allowed step preserves holds where the labels lead. -/
theorem preserves {P : State → Prop}
    (preserve : ∀ {s l s'}, P s → allowed l → step s l = some s' → P s')
    (leads : Leads step allowed s s') (held : P s) : P s' := by
  obtain ⟨tr, all, ran⟩ := leads
  induction tr generalizing s with
  | nil =>
    cases Option.some.inj ran
    exact held
  | cons l rest ih =>
    rw [run_cons, Option.bind_eq_some_iff] at ran
    obtain ⟨next, taken, ran⟩ := ran
    exact ih (preserve held (all l List.mem_cons_self) taken)
      (fun l member => all l (List.mem_cons_of_mem _ member)) ran

/-- What a component does on its own, the composite can do. -/
theorem lift {step' : State' → Label' → Option State'} {allowed' : Label' → Prop}
    (embed : State' → State) (relabel : Label' → Label) {mid mid' : State'}
    (embeds : ∀ {s l s'}, allowed' l → step' s l = some s' →
      allowed (relabel l) ∧ step (embed s) (relabel l) = some (embed s'))
    (leads : Leads step' allowed' mid mid') : Leads step allowed (embed mid) (embed mid') := by
  refine leads.preserves (P := fun at_ => Leads step allowed (embed mid) (embed at_)) ?_
    (refl _)
  intro s l s' before ok taken
  obtain ⟨ok', taken'⟩ := embeds ok taken
  exact before.trans (single ok' taken')

end Leads

/-! ## Progress -/

/-- Some run whose steps all meet a condition ends in a goal. -/
def CanReach (step : State → Label → Option State) (cond : State → Label → Prop)
    (goal : State → Prop) (s : State) : Prop :=
  ∃ tr s', run step s tr = some s' ∧ Throughout step cond s tr ∧ goal s'

namespace CanReach

variable {goal : State → Prop}

theorem here (reached : goal s) : CanReach step cond goal s := ⟨[], s, rfl, trivial, reached⟩

/-- One step that meets the condition, then the rest. -/
theorem head (ok : cond s l) (taken : step s l = some s') (rest : CanReach step cond goal s') :
    CanReach step cond goal s := by
  obtain ⟨tr, last, ran, met, reached⟩ := rest
  refine ⟨l :: tr, last, ?_, ⟨ok, ?_⟩, reached⟩
  · rw [run_cons, taken]
    exact ran
  · rw [taken]
    exact met

/-- A goal reached is where the way to the next one starts. -/
theorem bind {goal' : State → Prop} (first : CanReach step cond goal s)
    (rest : ∀ s', goal s' → CanReach step cond goal' s') : CanReach step cond goal' s := by
  obtain ⟨tr, mid, ran, met, reached⟩ := first
  obtain ⟨tr', last, ran', met', reached'⟩ := rest mid reached
  exact ⟨tr ++ tr', last, run_trans ran ran', (throughout_append ran).mpr ⟨met, met'⟩, reached'⟩

/-- Labels that are allowed in every state lead where they lead. -/
theorem of_leads {allowed : Label → Prop} (ok : ∀ l, allowed l → ∀ s, cond s l)
    (leads : Leads step allowed s s') (reached : goal s') : CanReach step cond goal s := by
  obtain ⟨tr, all, ran⟩ := leads
  exact ⟨tr, s', ran, throughout_of_forall fun l member s => ok l (all l member) s, reached⟩

/-- The variant rule: an invariant under which a number can always be made smaller,
until the goal is reached. -/
theorem of_variant (inv : State → Prop) (variant : State → Nat)
    (progress : ∀ s, inv s → ¬ goal s →
      CanReach step cond (fun s' => inv s' ∧ variant s' < variant s) s)
    (held : inv s) : CanReach step cond goal s := by
  induction left : variant s using Nat.strongRecOn generalizing s with
  | ind n ih =>
    by_cases reached : goal s
    · exact here reached
    · refine (progress s held reached).bind ?_
      rintro s' ⟨held', less⟩
      rw [left] at less
      exact ih _ less held' rfl

end CanReach

/-! ## Time -/

variable {Time : Type*} {allowed allowed' : Time → Label → Prop} {clock : Nat → Time}

/-- Every label of the trace is allowed at what the clock reads at its step. -/
def Timed (allowed : Time → Label → Prop) (clock : Nat → Time) (tr : List Label) : Prop :=
  ∀ k l, tr[k]? = some l → allowed (clock k) l

theorem timed_nil : Timed allowed clock [] := by
  intro k l there
  cases there

theorem timed_append :
    Timed allowed clock (tr₁ ++ tr₂) ↔
      Timed allowed clock tr₁ ∧ Timed allowed (fun k => clock (tr₁.length + k)) tr₂ := by
  constructor
  · intro timed
    refine ⟨fun k l there => timed k l ?_, fun k l there => timed (tr₁.length + k) l ?_⟩
    · obtain ⟨within, -⟩ := List.getElem?_eq_some_iff.mp there
      rw [List.getElem?_append_left within]
      exact there
    · rw [List.getElem?_append_right (Nat.le_add_right _ _), Nat.add_sub_cancel_left]
      exact there
  · rintro ⟨first, second⟩ k l there
    by_cases within : k < tr₁.length
    · rw [List.getElem?_append_left within] at there
      exact first k l there
    · have beyond : tr₁.length ≤ k := Nat.le_of_not_lt within
      rw [List.getElem?_append_right beyond] at there
      have here : allowed (clock (tr₁.length + (k - tr₁.length))) l := second _ l there
      rwa [Nat.add_sub_cancel' beyond] at here

theorem timed_singleton : Timed allowed clock [l] ↔ allowed (clock 0) l := by
  refine ⟨fun timed => timed 0 l rfl, fun here k l' there => ?_⟩
  cases k with
  | zero =>
    cases there
    exact here
  | succ k => cases there

theorem timed_cons :
    Timed allowed clock (l :: tr) ↔
      allowed (clock 0) l ∧ Timed allowed (fun k => clock (1 + k)) tr := by
  have cut : Timed allowed clock ([l] ++ tr) ↔
      Timed allowed clock [l] ∧ Timed allowed (fun k => clock (1 + k)) tr := timed_append
  rwa [timed_singleton] at cut

/-- Labels that are allowed at any time may come at any time. -/
theorem timed_of_forall (all : ∀ l ∈ tr, ∀ now, allowed now l) : Timed allowed clock tr :=
  fun _ l there => all l (List.mem_of_getElem? there) _

theorem Timed.forall {P : Label → Prop} (timed : Timed allowed clock tr)
    (implies : ∀ now l, allowed now l → P l) : ∀ l ∈ tr, P l := by
  intro l member
  obtain ⟨k, there⟩ := List.getElem?_of_mem member
  exact implies _ l (timed k l there)

theorem Timed.imp (timed : Timed allowed clock tr)
    (weaker : ∀ now l, allowed now l → allowed' now l) : Timed allowed' clock tr :=
  fun k l there => weaker _ l (timed k l there)

/-- The same for the labels of a composite. -/
theorem Timed.map {allowed' : Time → Label' → Prop} {relabel : Label → Label'}
    (timed : Timed allowed clock tr) (embeds : ∀ now l, allowed now l → allowed' now (relabel l)) :
    Timed allowed' clock (tr.map relabel) := by
  intro k l there
  rw [List.getElem?_map, Option.map_eq_some_iff] at there
  obtain ⟨l', there, rfl⟩ := there
  exact embeds _ l' (timed k l' there)

/-- Whatever the clock reads at each step, some run of labels that are allowed then ends
in a goal. -/
def Regardless (step : State → Label → Option State) (allowed : Time → Label → Prop)
    (goal : State → Prop) (s : State) : Prop :=
  ∀ clock : Nat → Time, ∃ tr s', run step s tr = some s' ∧ Timed allowed clock tr ∧ goal s'

namespace Regardless

variable {goal : State → Prop}

theorem here (reached : goal s) : Regardless step allowed goal s :=
  fun _ => ⟨[], s, rfl, timed_nil, reached⟩

/-- A step for each reading, then the rest. -/
theorem head (moves : ∀ now, ∃ l s', allowed now l ∧ step s l = some s' ∧
    Regardless step allowed goal s') : Regardless step allowed goal s := by
  intro clock
  obtain ⟨l, next, ok, taken, rest⟩ := moves (clock 0)
  obtain ⟨tr, last, ran, timed, reached⟩ := rest fun k => clock (1 + k)
  refine ⟨l :: tr, last, ?_, timed_cons.mpr ⟨ok, timed⟩, reached⟩
  rw [run_cons, taken]
  exact ran

/-- A goal reached is where the way to the next one starts. -/
theorem bind {goal' : State → Prop} (first : Regardless step allowed goal s)
    (rest : ∀ s', goal s' → Regardless step allowed goal' s') :
    Regardless step allowed goal' s := by
  intro clock
  obtain ⟨tr, mid, ran, timed, reached⟩ := first clock
  obtain ⟨tr', last, ran', timed', reached'⟩ := rest mid reached fun k => clock (tr.length + k)
  exact ⟨tr ++ tr', last, run_trans ran ran', timed_append.mpr ⟨timed, timed'⟩, reached'⟩

/-- What every step preserves holds at the goal as well. -/
theorem preserves {P : State → Prop} (way : Regardless step allowed goal s)
    (preserve : ∀ {s l s'}, P s → step s l = some s' → P s') (held : P s) :
    Regardless step allowed (fun s' => goal s' ∧ P s') s := by
  intro clock
  obtain ⟨tr, last, ran, timed, reached⟩ := way clock
  refine ⟨tr, last, ran, timed, reached, ?_⟩
  exact run_induction (P := fun _ s => P s) held (fun _ held taken => preserve held taken) ran

end Regardless

end HaviliarIot.Runs
