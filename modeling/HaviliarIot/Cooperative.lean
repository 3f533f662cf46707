import HaviliarIot.Runs
import Mathlib.Logic.Function.Basic

/-!
Cooperative tasks that share one asynchronous mutex.

A task runs until an await that has to wait.  An unlocked mutex is acquired
without waiting; a release makes the waiting tasks runnable and no more, so the
one that released it runs on and may lock it again.  Which runnable task is
polled, which operation has to be waited for and when it completes is arbitrary.

1. **Guards.**  A `Program` is the code of the tasks with its guards scoped: at
   each point of the code the guard is held or it is not.  The holder is then
   the task that stands where the guard is held (`Sound`).

2. **Starvation.**  A task that never waits without the guard, except for the
   mutex itself, keeps every other task from it for ever, once it has the mutex
   (`never_acquires`).

3. **Progress.**  A task gets the mutex it waits for when the code of all others
   can be run to a point where they wait without the guard (`acquires`).
-/

namespace HaviliarIot.Cooperative

open Runs

/-- What a task does at one point of its code. -/
inductive Op (Pc : Type) where
  /-- Code without an await, and every way it can go. -/
  | compute (next : List Pc)
  | lock (next : Pc)
  /-- The guard is dropped. -/
  | unlock (next : Pc)
  /-- An operation that completes at once or has to be waited for. -/
  | await (next : Pc)
  /-- A timer, which always has to be waited for. -/
  | sleep (next : Pc)

namespace Op

variable {Pc : Type}

/-- Where the task may stand afterwards. -/
def next : Op Pc → List Pc
  | compute next => next
  | lock next | unlock next | await next | sleep next => [next]

/-- Whether the guard is held afterwards. -/
def guards (held : Bool) : Op Pc → Bool
  | lock _ => true
  | unlock _ => false
  | compute _ | await _ | sleep _ => held

/-- The task may have to wait here, for something other than the mutex. -/
def waits : Op Pc → Bool
  | await _ | sleep _ => true
  | compute _ | lock _ | unlock _ => false

end Op

/-- The code of the tasks, with scoped guards. -/
structure Program (Task Pc : Type) where
  code : Pc → Op Pc
  /-- The task a point of the code belongs to. -/
  owner : Pc → Task
  /-- The guard is held there. -/
  guarded : Pc → Bool
  start : Task → Pc
  owner_next : ∀ pc, ∀ next ∈ (code pc).next, owner next = owner pc
  guarded_next : ∀ pc, ∀ next ∈ (code pc).next, guarded next = (code pc).guards (guarded pc)
  guarded_lock : ∀ pc next, code pc = .lock next → guarded pc = false
  guarded_unlock : ∀ pc next, code pc = .unlock next → guarded pc = true
  owner_start : ∀ task, owner (start task) = task
  guarded_start : ∀ task, guarded (start task) = false

inductive Status where
  | ready
  /-- Waiting for an operation or a timer. -/
  | suspended
  /-- Waiting for the mutex. -/
  | blocked
  /-- Waiting for the mutex, and runnable since a release. -/
  | woken
  deriving DecidableEq

/-- A release makes a waiting task runnable. -/
def Status.released : Status → Status
  | blocked => woken
  | ready => ready
  | suspended => suspended
  | woken => woken

structure State (Task Pc : Type) where
  pc : Task → Pc
  status : Task → Status
  running : Option Task
  holder : Option Task

inductive Event (Task Pc : Type) where
  /-- The executor polls a runnable task. -/
  | poll (task : Task)
  | compute (next : Pc)
  /-- The operation completes without waiting. -/
  | complete
  | acquire
  /-- The mutex is taken: the task has to wait for it. -/
  | block
  | release
  | suspend
  /-- The operation or timer the task waits for completes. -/
  | wake (task : Task)

variable {Task Pc : Type}

namespace State

/-- The task stands at the next point of its code. -/
def goto [DecidableEq Task] (s : State Task Pc) (task : Task) (next : Pc) : State Task Pc :=
  { s with pc := Function.update s.pc task next }

def setStatus [DecidableEq Task] (s : State Task Pc) (task : Task) (status : Status) :
    State Task Pc :=
  { s with status := Function.update s.status task status }

/-- The task is waiting for the mutex. -/
def Waiting (s : State Task Pc) (task : Task) : Prop :=
  s.status task = .blocked ∨ s.status task = .woken

end State

/-- All tasks spawned, one of them possibly running already. -/
def init (p : Program Task Pc) (running : Option Task) : State Task Pc :=
  ⟨p.start, fun _ => .ready, running, none⟩

variable {p : Program Task Pc} {s s' : State Task Pc}

/-- What holds of every reachable state. -/
structure Sound (p : Program Task Pc) (s : State Task Pc) : Prop where
  home : ∀ task, p.owner (s.pc task) = task
  /-- The holder is where the guard is held. -/
  owned : ∀ task, s.holder = some task ↔ p.guarded (s.pc task) = true
  atLock : ∀ task, s.Waiting task → ∃ next, p.code (s.pc task) = .lock next
  /-- Nobody waits, unwoken, for a free mutex. -/
  blocked : ∀ task, s.status task = .blocked → s.holder ≠ none
  suspended : ∀ task, s.status task = .suspended → (p.code (s.pc task)).waits = true
  runnable : ∀ task, s.running = some task → s.status task = .ready ∨ s.status task = .woken

theorem sound_init (p : Program Task Pc) (running : Option Task) : Sound p (init p running) where
  home := p.owner_start
  owned task := by simp [init, p.guarded_start]
  atLock task waiting := by
    rcases waiting with waiting | waiting <;> cases waiting
  blocked task waiting := by cases waiting
  suspended task waiting := by cases waiting
  runnable task _ := .inl rfl

/-- A task that does something else than lock does not wait for the mutex. -/
theorem Sound.not_waiting (sound : Sound p s) {task : Task}
    (elsewhere : ∀ next, p.code (s.pc task) ≠ .lock next) : ¬ s.Waiting task := by
  intro waiting
  obtain ⟨next, here⟩ := sound.atLock task waiting
  exact elsewhere next here

/-- Where the guard is not held, the task is not the holder. -/
theorem Sound.holder_ne_of_unguarded (sound : Sound p s) {task : Task}
    (unguarded : p.guarded (s.pc task) = false) : s.holder ≠ some task := by
  intro holds
  rw [sound.owned task, unguarded] at holds
  cases holds

theorem Sound.unguarded (sound : Sound p s) {task : Task} (without : s.holder ≠ some task) :
    p.guarded (s.pc task) = false := by
  rw [← Bool.not_eq_true, ← sound.owned task]
  exact without

/-- At a lock, the guard is not held. -/
theorem Sound.holder_ne (sound : Sound p s) {task : Task}
    (atLock : ∃ next, p.code (s.pc task) = .lock next) : s.holder ≠ some task := by
  obtain ⟨next, here⟩ := atLock
  exact sound.holder_ne_of_unguarded (p.guarded_lock _ _ here)

/-- A task that waits for the mutex does not hold it. -/
theorem Sound.not_holder (sound : Sound p s) {task : Task} (waiting : s.Waiting task) :
    s.holder ≠ some task := sound.holder_ne (sound.atLock task waiting)

/-- Who waits for the mutex still does after a release. -/
theorem waiting_released {task : Task} :
    (s.status task).released = .blocked ∨ (s.status task).released = .woken ↔ s.Waiting task := by
  unfold State.Waiting
  cases s.status task <;> simp [Status.released]

theorem released_eq_suspended {status : Status} :
    status.released = .suspended ↔ status = .suspended := by
  cases status <;> simp [Status.released]

/-! ## The executor -/

variable [DecidableEq Task]

/-- The other tasks stay where they are. -/
theorem goto_pc {task other : Task} {next : Pc} (different : other ≠ task) :
    (s.goto task next).pc other = s.pc other := Function.update_of_ne different ..

/-- A task with a status that none was given is another one, and had it before. -/
theorem status_of_update {task other : Task} {given status : Status}
    (now : Function.update s.status task given other = status) (apart : given ≠ status) :
    other ≠ task ∧ s.status other = status := by
  have different : other ≠ task := by
    rintro rfl
    exact apart ((Function.update_self ..).symm.trans now)
  exact ⟨different, (Function.update_of_ne different ..).symm.trans now⟩

/-- So is one that waits for the mutex, when none was made to. -/
theorem waiting_of_update {task other : Task} {given : Status}
    (waiting : Function.update s.status task given other = .blocked ∨
      Function.update s.status task given other = .woken)
    (active : given ≠ .blocked ∧ given ≠ .woken) : other ≠ task ∧ s.Waiting other := by
  rcases waiting with blocked | woken
  · obtain ⟨different, before⟩ := status_of_update blocked active.1
    exact ⟨different, .inl before⟩
  · obtain ⟨different, before⟩ := status_of_update woken active.2
    exact ⟨different, .inr before⟩

/-- What another task does leaves a waiting task waiting. -/
theorem waiting_setStatus {task other : Task} {status : Status} (different : task ≠ other) :
    (s.setStatus other status).Waiting task ↔ s.Waiting task := by
  simp [State.Waiting, State.setStatus, different]

/-- One step of the executor, or of the task it runs. -/
def step [DecidableEq Pc] (p : Program Task Pc) (s : State Task Pc) :
    Event Task Pc → Option (State Task Pc)
  | .poll task =>
    if s.running = none ∧ (s.status task = .ready ∨ s.status task = .woken) then
      some { s with running := some task }
    else none
  | .compute next => s.running.bind fun task =>
    match p.code (s.pc task) with
    | .compute nexts => if next ∈ nexts then some (s.goto task next) else none
    | _ => none
  | .complete => s.running.bind fun task =>
    match p.code (s.pc task) with
    | .await next => some (s.goto task next)
    | _ => none
  | .acquire => s.running.bind fun task =>
    match p.code (s.pc task) with
    | .lock next =>
      if s.holder = none then
        some { (s.goto task next).setStatus task .ready with holder := some task }
      else none
    | _ => none
  | .block => s.running.bind fun task =>
    match p.code (s.pc task) with
    | .lock _ =>
      if s.holder = none then none else some { s.setStatus task .blocked with running := none }
    | _ => none
  | .release => s.running.bind fun task =>
    match p.code (s.pc task) with
    | .unlock next =>
      some { s.goto task next with holder := none, status := fun task => (s.status task).released }
    | _ => none
  | .suspend => s.running.bind fun task =>
    if (p.code (s.pc task)).waits then some { s.setStatus task .suspended with running := none }
    else none
  | .wake task =>
    if s.status task = .suspended then
      match p.code (s.pc task) with
      | .await next | .sleep next => some ((s.goto task next).setStatus task .ready)
      | _ => none
    else none

/-- The steps, one rule for each. -/
inductive Step (p : Program Task Pc) (s : State Task Pc) :
    Event Task Pc → State Task Pc → Prop where
  | poll {task : Task} :
      s.running = none → s.status task = .ready ∨ s.status task = .woken →
      Step p s (.poll task) { s with running := some task }
  | compute {task : Task} {nexts : List Pc} {next : Pc} :
      s.running = some task → p.code (s.pc task) = .compute nexts → next ∈ nexts →
      Step p s (.compute next) (s.goto task next)
  | complete {task : Task} {next : Pc} :
      s.running = some task → p.code (s.pc task) = .await next →
      Step p s .complete (s.goto task next)
  | acquire {task : Task} {next : Pc} :
      s.running = some task → p.code (s.pc task) = .lock next → s.holder = none →
      Step p s .acquire { (s.goto task next).setStatus task .ready with holder := some task }
  | block {task : Task} {next : Pc} :
      s.running = some task → p.code (s.pc task) = .lock next → s.holder ≠ none →
      Step p s .block { s.setStatus task .blocked with running := none }
  | release {task : Task} {next : Pc} :
      s.running = some task → p.code (s.pc task) = .unlock next →
      Step p s .release
        { s.goto task next with holder := none, status := fun task => (s.status task).released }
  | suspend {task : Task} :
      s.running = some task → (p.code (s.pc task)).waits = true →
      Step p s .suspend { s.setStatus task .suspended with running := none }
  | wake {task : Task} {next : Pc} :
      s.status task = .suspended →
      p.code (s.pc task) = .await next ∨ p.code (s.pc task) = .sleep next →
      Step p s (.wake task) ((s.goto task next).setStatus task .ready)

variable {event : Event Task Pc}

/-- The rules are the step function. -/
theorem step_iff [DecidableEq Pc] : step p s event = some s' ↔ Step p s event s' := by
  constructor
  · intro taken
    cases event with
    | poll task =>
      simp only [step, Option.ite_none_right_eq_some, Option.some.injEq] at taken
      obtain ⟨⟨idle, runnable⟩, rfl⟩ := taken
      exact .poll idle runnable
    | wake task =>
      simp only [step, Option.ite_none_right_eq_some] at taken
      obtain ⟨suspended, taken⟩ := taken
      split at taken
      · rename_i here
        cases Option.some.inj taken
        exact .wake suspended (.inl here)
      · rename_i here
        cases Option.some.inj taken
        exact .wake suspended (.inr here)
      · cases taken
    | suspend =>
      obtain ⟨task, running, taken⟩ := Option.bind_eq_some_iff.mp taken
      simp only [Option.ite_none_right_eq_some, Option.some.injEq] at taken
      obtain ⟨waits, rfl⟩ := taken
      exact .suspend running waits
    | compute next =>
      obtain ⟨task, running, taken⟩ := Option.bind_eq_some_iff.mp taken
      split at taken
      · rename_i here
        simp only [Option.ite_none_right_eq_some, Option.some.injEq] at taken
        obtain ⟨member, rfl⟩ := taken
        exact .compute running here member
      · cases taken
    | complete =>
      obtain ⟨task, running, taken⟩ := Option.bind_eq_some_iff.mp taken
      split at taken
      · rename_i here
        cases Option.some.inj taken
        exact .complete running here
      · cases taken
    | acquire =>
      obtain ⟨task, running, taken⟩ := Option.bind_eq_some_iff.mp taken
      split at taken
      · rename_i here
        simp only [Option.ite_none_right_eq_some, Option.some.injEq] at taken
        obtain ⟨free, rfl⟩ := taken
        exact .acquire running here free
      · cases taken
    | block =>
      obtain ⟨task, running, taken⟩ := Option.bind_eq_some_iff.mp taken
      split at taken
      · rename_i here
        simp only [Option.ite_none_left_eq_some, Option.some.injEq] at taken
        obtain ⟨locked, rfl⟩ := taken
        exact .block running here locked
      · cases taken
    | release =>
      obtain ⟨task, running, taken⟩ := Option.bind_eq_some_iff.mp taken
      split at taken
      · rename_i here
        cases Option.some.inj taken
        exact .release running here
      · cases taken
  · intro rule
    cases rule with
    | poll idle runnable => simp [step, idle, runnable]
    | compute running here member => simp [step, running, here, member]
    | complete running here => simp [step, running, here]
    | acquire running here free => simp [step, running, here, free]
    | block running here locked => simp [step, running, here, locked]
    | release running here => simp [step, running, here]
    | suspend running waits => simp [step, running, waits]
    | wake suspended here => rcases here with here | here <;> simp [step, suspended, here]

/-! ## Guards are kept -/

/-- Moving on in its own code keeps a task at home. -/
theorem home_goto (home : ∀ task, p.owner (s.pc task) = task) {task : Task} {next : Pc}
    (member : next ∈ (p.code (s.pc task)).next) :
    ∀ other, p.owner ((s.goto task next).pc other) = other := by
  intro other
  by_cases same : other = task
  · subst same
    simp only [State.goto, Function.update_self]
    rw [p.owner_next _ _ member]
    exact home other
  · rw [goto_pc same]
    exact home other

/-- A step that neither locks nor unlocks leaves the guards where they are. -/
theorem owned_goto (owned : ∀ task, s.holder = some task ↔ p.guarded (s.pc task) = true)
    {task : Task} {next : Pc} (member : next ∈ (p.code (s.pc task)).next)
    (keeps : (p.code (s.pc task)).guards (p.guarded (s.pc task)) = p.guarded (s.pc task)) :
    ∀ other, s.holder = some other ↔ p.guarded ((s.goto task next).pc other) = true := by
  intro other
  by_cases same : other = task
  · subst same
    simp only [State.goto, Function.update_self]
    rw [p.guarded_next _ _ member, keeps]
    exact owned other
  · rw [goto_pc same]
    exact owned other

/-- The other tasks wait where they waited. -/
theorem Sound.atLock_others (sound : Sound p s) {task other : Task} {next : Pc}
    (different : other ≠ task) (waiting : s.Waiting other) :
    ∃ next', p.code ((s.goto task next).pc other) = .lock next' := by
  rw [goto_pc different]
  exact sound.atLock other waiting

theorem Sound.suspended_others (sound : Sound p s) {task other : Task} {next : Pc}
    (different : other ≠ task) (suspended : s.status other = .suspended) :
    (p.code ((s.goto task next).pc other)).waits = true := by
  rw [goto_pc different]
  exact sound.suspended other suspended

/-- A step of the running task that is no lock leaves the waiting tasks where
they are. -/
theorem Sound.atLock_goto (sound : Sound p s) {task : Task} {next : Pc}
    (elsewhere : ∀ next, p.code (s.pc task) ≠ .lock next) :
    ∀ other, s.Waiting other → ∃ next', p.code ((s.goto task next).pc other) = .lock next' := by
  intro other waiting
  have different : other ≠ task := by
    rintro rfl
    exact sound.not_waiting elsewhere waiting
  exact sound.atLock_others different waiting

/-- Nor does it touch a suspended one, being another task. -/
theorem Sound.suspended_goto (sound : Sound p s) {task : Task} {next : Pc}
    (running : s.running = some task) :
    ∀ other, s.status other = .suspended →
      (p.code ((s.goto task next).pc other)).waits = true := by
  intro other suspended
  have different : other ≠ task := by
    rintro rfl
    rcases sound.runnable other running with status | status <;> cases suspended.symm.trans status
  exact sound.suspended_others different suspended

/-- A step of the running task that neither locks nor unlocks. -/
theorem Sound.goto (sound : Sound p s) {task : Task} {next : Pc} (running : s.running = some task)
    (moves : next ∈ (p.code (s.pc task)).next)
    (keeps : (p.code (s.pc task)).guards (p.guarded (s.pc task)) = p.guarded (s.pc task))
    (elsewhere : ∀ next, p.code (s.pc task) ≠ .lock next) : Sound p (s.goto task next) where
  home := home_goto sound.home moves
  owned := owned_goto sound.owned moves keeps
  atLock := sound.atLock_goto elsewhere
  blocked := sound.blocked
  suspended := sound.suspended_goto running
  runnable := sound.runnable

theorem sound_step (sound : Sound p s) (rule : Step p s event s') : Sound p s' := by
  cases rule with
  | @poll task idle runnable =>
    refine ⟨sound.home, sound.owned, sound.atLock, sound.blocked, sound.suspended, ?_⟩
    intro other now
    cases Option.some.inj now
    exact runnable
  | @compute task nexts next running here member =>
    have moves : next ∈ (p.code (s.pc task)).next := by simpa [here, Op.next] using member
    exact sound.goto running moves (by simp [here, Op.guards]) (by simp [here])
  | @complete task next running here =>
    have moves : next ∈ (p.code (s.pc task)).next := by simp [here, Op.next]
    exact sound.goto running moves (by simp [here, Op.guards]) (by simp [here])
  | @acquire task next running here free =>
    have moves : next ∈ (p.code (s.pc task)).next := by simp [here, Op.next]
    refine ⟨home_goto sound.home moves, ?_, ?_, ?_, ?_, ?_⟩
    · intro other
      by_cases same : other = task
      · subst same
        simp [State.goto, State.setStatus, p.guarded_next _ _ moves, here, Op.guards]
      · have without : s.holder ≠ some other := by simp [free]
        have unguarded := sound.unguarded without
        simp [State.goto, State.setStatus, same, Ne.symm same, unguarded]
    · intro other waiting
      obtain ⟨different, waited⟩ := waiting_of_update waiting (by simp)
      exact sound.atLock_others different waited
    · intro other _
      simp
    · intro other suspended
      obtain ⟨-, before⟩ := status_of_update suspended (by simp)
      exact sound.suspended_goto running other before
    · intro other now
      have same : other = task := Option.some.inj (now.symm.trans running)
      subst same
      exact .inl (by simp [State.setStatus])
  | @block task next running here locked =>
    refine ⟨sound.home, sound.owned, ?_, ?_, ?_, by simp⟩
    · intro other waiting
      by_cases same : other = task
      · subst same
        exact ⟨next, here⟩
      · exact sound.atLock other ((waiting_setStatus same).mp waiting)
    · intro _ _
      exact locked
    · intro other suspended
      obtain ⟨-, before⟩ := status_of_update suspended (by simp)
      exact sound.suspended other before
  | @release task next running here =>
    have moves : next ∈ (p.code (s.pc task)).next := by simp [here, Op.next]
    have holds : s.holder = some task := (sound.owned task).mpr (p.guarded_unlock _ _ here)
    refine ⟨home_goto sound.home moves, ?_, ?_, ?_, ?_, ?_⟩
    · intro other
      by_cases same : other = task
      · subst same
        simp [State.goto, p.guarded_next _ _ moves, here, Op.guards]
      · have without : s.holder ≠ some other := by simpa [holds] using Ne.symm same
        have unguarded := sound.unguarded without
        simp [State.goto, same, unguarded]
    · intro other waiting
      exact sound.atLock_goto (by simp [here]) other (waiting_released.mp waiting)
    · intro other blocked
      cases status : s.status other <;> simp [status, Status.released] at blocked
    · intro other suspended
      exact sound.suspended_goto running other (released_eq_suspended.mp suspended)
    · intro other now
      rcases sound.runnable other now with status | status
      · exact .inl (by simp [status, Status.released])
      · exact .inr (by simp [status, Status.released])
  | @suspend task running waits =>
    refine ⟨sound.home, sound.owned, ?_, ?_, ?_, by simp⟩
    · intro other waiting
      obtain ⟨-, waited⟩ := waiting_of_update waiting (by simp)
      exact sound.atLock other waited
    · intro other blocked
      obtain ⟨-, before⟩ := status_of_update blocked (by simp)
      exact sound.blocked other before
    · intro other suspended
      by_cases same : other = task
      · subst same
        exact waits
      · simp only [State.setStatus, Function.update_of_ne same] at suspended
        exact sound.suspended other suspended
  | @wake task next suspended here =>
    have moves : next ∈ (p.code (s.pc task)).next := by
      rcases here with here | here <;> simp [here, Op.next]
    have keeps : (p.code (s.pc task)).guards (p.guarded (s.pc task)) = p.guarded (s.pc task) := by
      rcases here with here | here <;> simp [here, Op.guards]
    have elsewhere : ∀ next, p.code (s.pc task) ≠ .lock next := by
      rcases here with here | here <;> simp [here]
    refine ⟨home_goto sound.home moves, owned_goto sound.owned moves keeps, ?_, ?_, ?_, ?_⟩
    · intro other waiting
      obtain ⟨-, waited⟩ := waiting_of_update waiting (by simp)
      exact sound.atLock_goto elsewhere other waited
    · intro other blocked
      obtain ⟨-, before⟩ := status_of_update blocked (by simp)
      exact sound.blocked other before
    · intro other suspended
      obtain ⟨different, before⟩ := status_of_update suspended (by simp)
      exact sound.suspended_others different before
    · intro other now
      by_cases same : other = task
      · subst same
        exact .inl (by simp [State.setStatus])
      · simp only [State.setStatus, Function.update_of_ne same]
        exact sound.runnable other now

theorem sound_of_run [DecidableEq Pc] {running : Option Task} {tr : List (Event Task Pc)}
    (ran : run (step p) (init p running) tr = some s) : Sound p s := by
  refine run_induction (P := fun _ s => Sound p s) (sound_init p running) ?_ ran
  intro tr s event s' _ sound taken
  exact sound_step sound (step_iff.mp taken)

/-! ## Starvation -/

/-- The mutex is with this task, or free while this task runs. -/
def Monopoly (s : State Task Pc) (task : Task) : Prop :=
  s.holder = some task ∨ (s.running = some task ∧ s.holder = none)

/-- The task waits for nothing but the mutex without the guard. -/
def Grips (p : Program Task Pc) (task : Task) : Prop :=
  ∀ pc, p.owner pc = task → (p.code pc).waits = true → p.guarded pc = true

/-- The mutex does not get away from a task that grips it. -/
theorem monopoly_step {task : Task} (grips : Grips p task) (sound : Sound p s)
    (monopoly : Monopoly s task) (rule : Step p s event s') : Monopoly s' task := by
  cases rule with
  | poll idle =>
    rcases monopoly with holds | ⟨running, -⟩
    · exact .inl holds
    · cases idle.symm.trans running
  | compute | complete | wake => exact monopoly
  | acquire running here free =>
    rcases monopoly with holds | ⟨running', -⟩
    · cases free.symm.trans holds
    · exact .inl (running.symm.trans running')
  | block running here locked =>
    rcases monopoly with holds | ⟨-, free⟩
    · exact .inl holds
    · exact absurd free locked
  | @release other next running here =>
    have owner : s.holder = some other := (sound.owned other).mpr (p.guarded_unlock _ _ here)
    rcases monopoly with holds | ⟨-, free⟩
    · have same : some other = some task := owner.symm.trans holds
      exact .inr ⟨running.trans same, rfl⟩
    · cases free.symm.trans owner
  | @suspend other running waits =>
    rcases monopoly with holds | ⟨running', free⟩
    · exact .inl holds
    · have same : other = task := Option.some.inj (running.symm.trans running')
      subst same
      have guarded := grips _ (sound.home other) waits
      cases free.symm.trans ((sound.owned other).mpr guarded)

/-- A task starts to wait for the mutex where it finds it taken. -/
theorem waited_or_blocks {task : Task} (rule : Step p s event s') (waiting : s'.Waiting task) :
    s.Waiting task ∨ ((∃ next, p.code (s.pc task) = .lock next) ∧ s.holder ≠ none) := by
  cases rule with
  | poll | compute | complete => exact .inl waiting
  | acquire => exact .inl (waiting_of_update waiting (by simp)).2
  | @block other next running here locked =>
    by_cases same : task = other
    · subst same
      exact .inr ⟨⟨next, here⟩, locked⟩
    · exact .inl ((waiting_setStatus same).mp waiting)
  | release => exact .inl (waiting_released.mp waiting)
  | suspend | wake => exact .inl (waiting_of_update waiting (by simp)).2

variable [DecidableEq Pc]

/-- Some continuation gives this task the mutex. -/
def CanAcquire (p : Program Task Pc) (s : State Task Pc) (task : Task) : Prop :=
  ∃ s', Leads (step p) (fun _ => True) s s' ∧ s'.holder = some task

/-- **A task that grips the mutex keeps it** from every other task, whatever
happens next. -/
theorem never_acquires {task other : Task} (grips : Grips p task) (sound : Sound p s)
    (monopoly : Monopoly s task) (different : other ≠ task) : ¬ CanAcquire p s other := by
  rintro ⟨s', leads, holds⟩
  have kept : Sound p s' ∧ Monopoly s' task := by
    refine leads.preserves (P := fun s => Sound p s ∧ Monopoly s task) ?_ ⟨sound, monopoly⟩
    intro s event s' ⟨sound, monopoly⟩ _ taken
    have rule := step_iff.mp taken
    exact ⟨sound_step sound rule, monopoly_step grips sound monopoly rule⟩
  rcases kept.2 with holds' | ⟨-, free⟩
  · exact different (Option.some.inj (holds.symm.trans holds'))
  · cases free.symm.trans holds

/-- Where all others grip the mutex, a task that waits for it waits for one of
them. -/
theorem monopoly_of_waiting {task : Task} (grips : ∀ other, other ≠ task → Grips p other)
    {running : Option Task} {tr : List (Event Task Pc)}
    (ran : run (step p) (init p running) tr = some s) :
    s.Waiting task → ∃ other, other ≠ task ∧ Monopoly s other := by
  refine run_induction (P := fun _ s => s.Waiting task → ∃ other, other ≠ task ∧ Monopoly s other)
    ?_ ?_ ran
  · intro waiting
    rcases waiting with waiting | waiting <;> cases waiting
  · intro tr s event s' first before taken waiting
    have sound := sound_of_run first
    have rule := step_iff.mp taken
    have kept : ∀ other, other ≠ task → Monopoly s other → Monopoly s' other :=
      fun other different monopoly => monopoly_step (grips other different) sound monopoly rule
    rcases waited_or_blocks rule waiting with waited | ⟨atLock, locked⟩
    · obtain ⟨other, different, monopoly⟩ := before waited
      exact ⟨other, different, kept other different monopoly⟩
    · obtain ⟨holder, holds⟩ := Option.ne_none_iff_exists'.mp locked
      have different : holder ≠ task := by
        rintro rfl
        exact sound.holder_ne atLock holds
      exact ⟨holder, different, kept holder different (.inl holds)⟩

/-- A task that grips the mutex and runs first has it from the start, and never
waits for it. -/
theorem monopoly_of_start {task : Task} (grips : Grips p task) {tr : List (Event Task Pc)}
    (ran : run (step p) (init p (some task)) tr = some s) :
    Monopoly s task ∧ ¬ s.Waiting task := by
  refine run_induction (P := fun _ s => Monopoly s task ∧ ¬ s.Waiting task) ?_ ?_ ran
  · refine ⟨.inr ⟨rfl, rfl⟩, ?_⟩
    intro waiting
    rcases waiting with waiting | waiting <;> cases waiting
  · intro tr s event s' first ⟨monopoly, active⟩ taken
    have sound := sound_of_run first
    have rule := step_iff.mp taken
    refine ⟨monopoly_step grips sound monopoly rule, ?_⟩
    intro waiting
    rcases waited_or_blocks rule waiting with waited | ⟨atLock, locked⟩
    · exact active waited
    · rcases monopoly with holds | ⟨-, free⟩
      · exact sound.holder_ne atLock holds
      · exact locked free

/-! ## Progress -/

/-- From this point of its code, a task that runs can come to wait without the
guard. -/
inductive Retires (p : Program Task Pc) : Pc → Prop where
  | rest {pc : Pc} : p.guarded pc = false → (p.code pc).waits = true → Retires p pc
  | compute {pc next : Pc} {nexts : List Pc} :
      p.code pc = .compute nexts → next ∈ nexts → Retires p next → Retires p pc
  | await {pc next : Pc} : p.code pc = .await next → Retires p next → Retires p pc
  | sleep {pc next : Pc} : p.code pc = .sleep next → Retires p next → Retires p pc
  | lock {pc next : Pc} : p.code pc = .lock next → Retires p next → Retires p pc
  | unlock {pc next : Pc} : p.code pc = .unlock next → Retires p next → Retires p pc

theorem CanAcquire.of_leads {task : Task} (leads : Leads (step p) (fun _ => True) s s')
    (later : CanAcquire p s' task) : CanAcquire p s task := by
  obtain ⟨s'', onward, holds⟩ := later
  exact ⟨s'', leads.trans onward, holds⟩

theorem CanAcquire.of_step {task : Task} (rule : Step p s event s')
    (later : CanAcquire p s' task) : CanAcquire p s task :=
  later.of_leads (.single trivial (step_iff.mpr rule))

/-- A waiting task that is polled while the mutex is free gets it. -/
theorem acquires_running {task : Task} (sound : Sound p s) (waiting : s.Waiting task)
    (running : s.running = some task) (free : s.holder = none) : CanAcquire p s task := by
  obtain ⟨next, here⟩ := sound.atLock task waiting
  exact ⟨_, .single trivial (step_iff.mpr (.acquire running here free)), rfl⟩

/-- So does one the executor can poll. -/
theorem acquires_idle {task : Task} (sound : Sound p s) (waiting : s.Waiting task)
    (idle : s.running = none) (free : s.holder = none) : CanAcquire p s task := by
  have woken : s.status task = .woken := by
    rcases waiting with blocked | woken
    · exact absurd free (sound.blocked task blocked)
    · exact woken
  have polled : Step p s (.poll task) { s with running := some task } := .poll idle (.inr woken)
  exact .of_step polled (acquires_running (sound_step sound polled) waiting rfl free)

/-- The task is woken from an operation or a timer, and polled. -/
def State.resume (s : State Task Pc) (task : Task) (next : Pc) : State Task Pc :=
  { (s.goto task next).setStatus task .ready with running := some task }

/-- A suspended task can always be resumed. -/
theorem resumes {task : Task} {next : Pc} (sound : Sound p s) (idle : s.running = none)
    (suspended : s.status task = .suspended)
    (here : p.code (s.pc task) = .await next ∨ p.code (s.pc task) = .sleep next) :
    Leads (step p) (fun _ => True) s (s.resume task next) ∧ Sound p (s.resume task next) := by
  have woke : Step p s (.wake task) ((s.goto task next).setStatus task .ready) :=
    .wake suspended here
  have runnable : ((s.goto task next).setStatus task .ready).status task = .ready :=
    Function.update_self ..
  have polled : Step p ((s.goto task next).setStatus task .ready) (.poll task)
      (s.resume task next) := .poll idle (.inl runnable)
  exact ⟨.head trivial (step_iff.mpr woke) (.single trivial (step_iff.mpr polled)),
    sound_step (sound_step sound woke) polled⟩

/-- A running task that has the mutex, or finds it free, can be run until it waits
without the guard, and then the waiting one gets it. -/
theorem acquires_after {task other : Task} (different : task ≠ other) {pc : Pc}
    (retires : Retires p pc) : ∀ {s : State Task Pc}, s.pc other = pc → Sound p s →
      s.Waiting task → s.running = some other → s.holder = none ∨ s.holder = some other →
      CanAcquire p s task := by
  induction retires with
  | @rest pc unguarded waits =>
    intro s at_ sound waiting running mutex
    subst at_
    have free : s.holder = none := mutex.resolve_right (sound.holder_ne_of_unguarded unguarded)
    have suspended : Step p s .suspend _ := .suspend running waits
    exact .of_step suspended (acquires_idle (sound_step sound suspended)
      ((waiting_setStatus different).mpr waiting) rfl free)
  | @compute pc next nexts here member _ ih =>
    intro s at_ sound waiting running mutex
    subst at_
    have moved : Step p s (.compute next) (s.goto other next) := .compute running here member
    exact .of_step moved (ih (Function.update_self ..) (sound_step sound moved) waiting running mutex)
  | @await pc next here _ ih =>
    intro s at_ sound waiting running mutex
    subst at_
    have moved : Step p s .complete (s.goto other next) := .complete running here
    exact .of_step moved (ih (Function.update_self ..) (sound_step sound moved) waiting running mutex)
  | @sleep pc next here _ ih =>
    intro s at_ sound waiting running mutex
    subst at_
    -- the timer expires and the task is polled again, whoever has the mutex
    have suspended : Step p s .suspend { s.setStatus other .suspended with running := none } :=
      .suspend running (by simp [here, Op.waits])
    obtain ⟨resumed, sound⟩ := resumes (sound_step sound suspended) rfl
      (Function.update_self ..) (.inr here)
    have still : ({ s.setStatus other .suspended with running := none }.resume other
        next).Waiting task :=
      (waiting_setStatus different).mpr ((waiting_setStatus different).mpr waiting)
    exact .of_step suspended (.of_leads resumed (ih (Function.update_self ..) sound still rfl mutex))
  | @lock pc next here _ ih =>
    intro s at_ sound waiting running mutex
    subst at_
    have free : s.holder = none := mutex.resolve_right (sound.holder_ne ⟨next, here⟩)
    have acquired : Step p s .acquire _ := .acquire running here free
    exact .of_step acquired (ih (Function.update_self ..) (sound_step sound acquired)
      ((waiting_setStatus different).mpr waiting) running (.inr rfl))
  | @unlock pc next here _ ih =>
    intro s at_ sound waiting running mutex
    subst at_
    have released : Step p s .release _ := .release running here
    exact .of_step released (ih (Function.update_self ..) (sound_step sound released)
      (waiting_released.mpr waiting) running (.inl rfl))

/-- With no task running, the holder can be polled and run. -/
theorem acquires_stopped {task : Task} (retires : ∀ pc, p.owner pc ≠ task → Retires p pc)
    (sound : Sound p s) (waiting : s.Waiting task) (idle : s.running = none) :
    CanAcquire p s task := by
  cases holder : s.holder with
  | none => exact acquires_idle sound waiting idle holder
  | some other =>
    have different : task ≠ other := by
      rintro rfl
      exact sound.not_holder waiting holder
    have elsewhere : ∀ {s : State Task Pc}, Sound p s → p.owner (s.pc other) ≠ task := by
      intro s sound
      rw [sound.home other]
      exact Ne.symm different
    cases status : s.status other with
    | ready =>
      have polled : Step p s (.poll other) { s with running := some other } :=
        .poll idle (.inl status)
      exact .of_step polled (acquires_after different (retires _ (elsewhere sound)) rfl
        (sound_step sound polled) waiting rfl (.inr holder))
    | blocked => exact absurd holder (sound.not_holder (.inl status))
    | woken => exact absurd holder (sound.not_holder (.inr status))
    | suspended =>
      have waits := sound.suspended other status
      obtain ⟨next, here⟩ : ∃ next, p.code (s.pc other) = .await next ∨
          p.code (s.pc other) = .sleep next := by
        cases code : p.code (s.pc other) <;> simp [code, Op.waits] at waits ⊢
      obtain ⟨resumed, sound⟩ := resumes sound idle status here
      exact .of_leads resumed (acquires_after different (retires _ (elsewhere sound)) rfl sound
        ((waiting_setStatus different).mpr waiting) rfl (.inr holder))

/-- A running task that does not have the mutex can be run until it waits, and then
the holder can be polled. -/
theorem acquires_contended {task other holder : Task}
    (retires : ∀ pc, p.owner pc ≠ task → Retires p pc) (different : task ≠ other)
    (apart : holder ≠ other) {pc : Pc} (retiring : Retires p pc) : ∀ {s : State Task Pc},
      s.pc other = pc → Sound p s → s.Waiting task → s.running = some other →
      s.holder = some holder → CanAcquire p s task := by
  -- wherever the task has to wait, no task is running any more
  have stop : ∀ {s : State Task Pc}, Sound p s → s.Waiting task → s.running = some other →
      (p.code (s.pc other)).waits = true → CanAcquire p s task := by
    intro s sound waiting running waits
    have suspended : Step p s .suspend { s.setStatus other .suspended with running := none } :=
      .suspend running waits
    exact .of_step suspended (acquires_stopped retires (sound_step sound suspended)
      ((waiting_setStatus different).mpr waiting) rfl)
  induction retiring with
  | rest _ waits =>
    intro s at_ sound waiting running _
    subst at_
    exact stop sound waiting running waits
  | await here | sleep here =>
    intro s at_ sound waiting running _
    subst at_
    exact stop sound waiting running (by simp [here, Op.waits])
  | @compute pc next nexts here member _ ih =>
    intro s at_ sound waiting running holds
    subst at_
    have moved : Step p s (.compute next) (s.goto other next) := .compute running here member
    exact .of_step moved (ih (Function.update_self ..) (sound_step sound moved) waiting running holds)
  | lock here =>
    intro s at_ sound waiting running holds
    subst at_
    have blocked : Step p s .block { s.setStatus other .blocked with running := none } :=
      .block running here (by simp [holds])
    exact .of_step blocked (acquires_stopped retires (sound_step sound blocked)
      ((waiting_setStatus different).mpr waiting) rfl)
  | unlock here =>
    intro s at_ sound waiting running holds
    subst at_
    have owner : s.holder = some other := (sound.owned other).mpr (p.guarded_unlock _ _ here)
    exact absurd (Option.some.inj (holds.symm.trans owner)) apart

/-- **A task that waits gets the mutex**, in some continuation, when the code of
all others can be run to a point where they wait without the guard. -/
theorem acquires {task : Task} (retires : ∀ pc, p.owner pc ≠ task → Retires p pc)
    (sound : Sound p s) (waiting : s.Waiting task) : CanAcquire p s task := by
  cases running : s.running with
  | none => exact acquires_stopped retires sound waiting running
  | some other =>
    by_cases same : other = task
    · subst same
      cases holder : s.holder with
      | none => exact acquires_running sound waiting running holder
      | some holder' =>
        obtain ⟨next, here⟩ := sound.atLock other waiting
        have blocked : Step p s .block { s.setStatus other .blocked with running := none } :=
          .block running here (by simp [holder])
        have still : ({ s.setStatus other .blocked with running := none } :
            State Task Pc).Waiting other := .inl (Function.update_self ..)
        exact .of_step blocked (acquires_stopped retires (sound_step sound blocked) still rfl)
    · have elsewhere : p.owner (s.pc other) ≠ task := by
        rw [sound.home other]
        exact same
      have retiring := retires _ elsewhere
      cases holder : s.holder with
      | none => exact acquires_after (Ne.symm same) retiring rfl sound waiting running (.inl holder)
      | some holder' =>
        by_cases mine : holder' = other
        · subst mine
          exact acquires_after (Ne.symm same) retiring rfl sound waiting running (.inr holder)
        · exact acquires_contended retires (Ne.symm same) mine retiring rfl sound waiting running
            holder

end HaviliarIot.Cooperative
