import HaviliarIot.Runs

/-!
The stop-and-wait sender, for requests of any type.

It takes one request at a time, puts it on the air as often as it likes, and lets
it go with an outcome: delivered, if it ever was on the air, or failed, if it never
was.  What can be observed of a run is then one exchange after another
(`sequential_of_run`): the requests taken, the transmissions, in a block for each,
and the outcomes, all in one order.
-/

namespace HaviliarIot.StopAndWait

open Runs

variable {α : Type*}

/-- What the sender has in hand. -/
inductive Sender (α : Type*) where
  | idle
  /-- Taken, and not on the air yet. -/
  | taken (request : α)
  | aired (request : α)

inductive Label (α : Type*) where
  | take (request : α)
  /-- A transmission, the first or a repeated one. -/
  | air (request : α)
  | deliver (request : α)
  | fail (request : α)

/-- One step of the sender. -/
def step [DecidableEq α] : Sender α → Label α → Option (Sender α)
  | .idle, .take request => some (.taken request)
  | .taken request, .air request' => if request' = request then some (.aired request) else none
  | .taken request, .fail request' => if request' = request then some .idle else none
  | .aired request, .air request' => if request' = request then some (.aired request) else none
  | .aired request, .deliver request' => if request' = request then some .idle else none
  | _, _ => none

/-- The steps, one rule for each. -/
inductive Step : Sender α → Label α → Sender α → Prop where
  | take {request : α} : Step .idle (.take request) (.taken request)
  | air {request : α} : Step (.taken request) (.air request) (.aired request)
  | again {request : α} : Step (.aired request) (.air request) (.aired request)
  | deliver {request : α} : Step (.aired request) (.deliver request) .idle
  | fail {request : α} : Step (.taken request) (.fail request) .idle

/-- The rules are the step function. -/
theorem step_iff [DecidableEq α] {s s' : Sender α} {label : Label α} :
    step s label = some s' ↔ Step s label s' := by
  constructor
  · intro stepped
    cases s <;> cases label <;> simp only [step, Option.ite_none_right_eq_some, Option.some.injEq,
      reduceCtorEq] at stepped
    · subst stepped
      exact .take
    · obtain ⟨rfl, rfl⟩ := stepped
      exact .air
    · obtain ⟨rfl, rfl⟩ := stepped
      exact .fail
    · obtain ⟨rfl, rfl⟩ := stepped
      exact .again
    · obtain ⟨rfl, rfl⟩ := stepped
      exact .deliver
  · intro rule
    cases rule <;> simp [step]

/-! ## What can be observed -/

namespace Label

def takes : Label α → List α
  | take request => [request]
  | _ => []

def airs : Label α → List α
  | air request => [request]
  | _ => []

/-- The request let go, and whether it was delivered. -/
def settles : Label α → List (α × Bool)
  | deliver request => [(request, true)]
  | fail request => [(request, false)]
  | _ => []

end Label

namespace Sender

def inHand : Sender α → List α
  | idle => []
  | taken request | aired request => [request]

/-- The transmissions of the request in hand, when it was repeated so often. -/
def airings (again : Nat) : Sender α → List α
  | aired request => List.replicate (again + 1) request
  | idle | taken _ => []

end Sender

/-- A request from being taken to being let go. -/
structure Exchange (α : Type*) where
  request : α
  transmissions : Nat

namespace Exchange

def airings (x : Exchange α) : List α := List.replicate x.transmissions x.request

/-- Delivered, if it was on the air at all. -/
def outcome (x : Exchange α) : α × Bool := (x.request, decide (0 < x.transmissions))

end Exchange

/-- The trace is one exchange after another, and what is in hand. -/
def Sequential (tr : List (Label α)) (s : Sender α) : Prop :=
  ∃ (exchanges : List (Exchange α)) (again : Nat),
    tr.flatMap Label.takes = exchanges.map Exchange.request ++ s.inHand ∧
    tr.flatMap Label.airs = exchanges.flatMap Exchange.airings ++ s.airings again ∧
    tr.flatMap Label.settles = exchanges.map Exchange.outcome

variable {tr : List (Label α)} {s s' : Sender α} {label : Label α}

/-- A step goes on with the exchange under way, or ends it. -/
theorem sequential_step (sequential : Sequential tr s) (rule : Step s label s') :
    Sequential (tr ++ [label]) s' := by
  obtain ⟨exchanges, again, taken, aired, settled⟩ := sequential
  simp only [Sequential, List.flatMap_append, List.flatMap_singleton, taken, aired, settled]
  cases rule with
  | take | air =>
    exact ⟨exchanges, 0, by simp [Sender.inHand, Label.takes], by simp [Sender.airings, Label.airs],
      by simp [Label.settles]⟩
  | again =>
    refine ⟨exchanges, again + 1, by simp [Label.takes], ?_, by simp [Label.settles]⟩
    simp [Sender.airings, Label.airs, ← List.replicate_succ']
  | @deliver request =>
    refine ⟨exchanges ++ [⟨request, again + 1⟩], 0, ?_, ?_, ?_⟩
    · simp [Sender.inHand, Label.takes]
    · simp [Sender.airings, Label.airs, Exchange.airings]
    · simp [Label.settles, Exchange.outcome]
  | @fail request =>
    refine ⟨exchanges ++ [⟨request, 0⟩], 0, ?_, ?_, ?_⟩
    · simp [Sender.inHand, Label.takes]
    · simp [Sender.airings, Label.airs, Exchange.airings]
    · simp [Label.settles, Exchange.outcome]

/-- **A run of the sender is one exchange after another.** -/
theorem sequential_of_run [DecidableEq α] (ran : run step .idle tr = some s) :
    Sequential tr s := by
  refine run_induction (P := Sequential) ?_ ?_ ran
  · exact ⟨[], 0, rfl, rfl, rfl⟩
  · intro tr s label s' _ sequential stepped
    exact sequential_step sequential (step_iff.mp stepped)

end HaviliarIot.StopAndWait
