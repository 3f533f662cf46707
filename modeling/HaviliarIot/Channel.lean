import Mathlib.Data.List.Basic

/-!
A bounded FIFO channel.  The bound is a field, so no operation can overfill one;
`send` and `receive` are `none` exactly where the asynchronous operation would
wait.
-/

namespace HaviliarIot

/-- The messages waiting, oldest first. -/
@[ext] structure Channel (α : Type*) (capacity : Nat) where
  queue : List α
  bounded : queue.length ≤ capacity
  deriving DecidableEq

namespace Channel

variable {α : Type*} {capacity : Nat} {c c' : Channel α capacity} {a : α}

def empty : Channel α capacity := ⟨[], Nat.zero_le _⟩

/-- There is no room for another message. -/
def Full (c : Channel α capacity) : Prop := c.queue.length = capacity

instance (c : Channel α capacity) : Decidable c.Full := inferInstanceAs (Decidable (_ = _))

/-- Append a message, if there is room. -/
def send (c : Channel α capacity) (a : α) : Option (Channel α capacity) :=
  if room : c.queue.length < capacity then some ⟨c.queue ++ [a], by simpa using Nat.succ_le_of_lt room⟩ else none

/-- Take the oldest message, if there is one. -/
def receive : Channel α capacity → Option (α × Channel α capacity)
  | ⟨[], _⟩ => none
  | ⟨a :: rest, bounded⟩ => some (a, ⟨rest, Nat.le_of_succ_le bounded⟩)

/-- A send appends; the bound of the result is what makes it possible. -/
theorem send_eq_some : c.send a = some c' ↔ c'.queue = c.queue ++ [a] := by
  unfold send
  by_cases room : c.queue.length < capacity
  · rw [dif_pos room, Option.some.injEq, Channel.ext_iff]
    exact eq_comm
  · rw [dif_neg room]
    constructor
    · intro impossible
      cases impossible
    · intro appended
      have bounded := c'.bounded
      rw [appended, List.length_append, List.length_singleton] at bounded
      omega

/-- A receive takes the head. -/
theorem receive_eq_some : c.receive = some (a, c') ↔ c.queue = a :: c'.queue := by
  obtain ⟨queue, bounded⟩ := c
  cases queue with
  | nil => simp [receive]
  | cons head rest => simp [receive, Channel.ext_iff]

/-- A receive whose outcome is given: possible when `a` is the oldest message. -/
def take [DecidableEq α] (c : Channel α capacity) (a : α) : Option (Channel α capacity) :=
  match c.receive with
  | some (oldest, rest) => if a = oldest then some rest else none
  | none => none

theorem take_eq_some [DecidableEq α] : c.take a = some c' ↔ c.queue = a :: c'.queue := by
  rw [← receive_eq_some]
  unfold take
  cases c.receive with
  | none => simp
  | some head =>
    obtain ⟨oldest, rest⟩ := head
    simp only [Option.ite_none_right_eq_some, Option.some.injEq, Prod.mk.injEq]
    rw [eq_comm]

end Channel

end HaviliarIot
