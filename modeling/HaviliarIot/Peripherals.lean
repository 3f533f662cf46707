import HaviliarIot.Runs
import Mathlib.Data.List.Nodup
import Mathlib.Data.List.Perm.Basic

/-!
`hal/peripheral_manager.rs`: who gets which peripheral.

`PeripheralManager::new` sorts what `esp_hal::init` returns into five groups, and each
`take` empties the cell of one group.  A `main` calls `PeripheralManagerStatic::init` and
takes what it needs, with an `unwrap()` on every call.  That works out exactly if it
initializes first and once, and takes no group twice (`boots_iff`); then no peripheral
is given to two drivers (`owned_once`).
-/

namespace HaviliarIot

open Runs

/-- The peripherals of the chip that the manager hands out. -/
inductive Peripheral where
  | I2C0 | GPIO4 | GPIO15 | GPIO16
  | SPI2 | GPIO5 | GPIO27 | GPIO19 | GPIO18 | GPIO26 | GPIO14
  | TIMG0 | RNG | WIFI
  | GPIO13 | LEDC
  | TIMG1
  deriving DecidableEq

/-- The cells of a `PeripheralManager`. -/
inductive PeripheralGroup where
  | display
  | lora
  | wifi
  | servo
  | time
  deriving DecidableEq

namespace PeripheralGroup

/-- What `PeripheralManager::new` puts into each cell. -/
def peripherals : PeripheralGroup → List Peripheral
  | display => [.I2C0, .GPIO4, .GPIO15, .GPIO16]
  | lora => [.SPI2, .GPIO5, .GPIO27, .GPIO19, .GPIO18, .GPIO26, .GPIO14]
  | wifi => [.TIMG0, .RNG, .WIFI]
  | servo => [.GPIO13, .LEDC]
  | time => [.TIMG1]

/-- No peripheral is in two groups. -/
theorem disjoint {a b : PeripheralGroup} {peripheral : Peripheral} (inA : peripheral ∈ a.peripherals)
    (inB : peripheral ∈ b.peripherals) : a = b := by
  cases a <;> cases b <;> first | rfl | (revert peripheral; decide)

theorem peripherals_nodup (group : PeripheralGroup) : group.peripherals.Nodup := by
  cases group <;> decide

end PeripheralGroup

/-- `PeripheralManager`: which cells are still full. -/
structure PeripheralManager where
  full : PeripheralGroup → Bool

namespace PeripheralManager

/-- `PeripheralManager::new`. -/
def new : PeripheralManager := ⟨fun _ => true⟩

/-- `take_display_peripherals` and the other four. -/
def take (m : PeripheralManager) (group : PeripheralGroup) :
    Option (List Peripheral) × PeripheralManager :=
  (if m.full group then some group.peripherals else none,
    ⟨fun other => if other = group then false else m.full other⟩)

end PeripheralManager

/-- `PeripheralManagerStatic`. -/
structure PeripheralManagerStatic where
  initialized : Bool
  manager : Option PeripheralManager

namespace PeripheralManagerStatic

inductive Call where
  | init
  /-- A `take`, with the `unwrap()` of its caller; `time_per` has one of its own. -/
  | take (group : PeripheralGroup)
  deriving DecidableEq

/-- `PeripheralManagerStatic::new`. -/
def new : PeripheralManagerStatic := ⟨false, none⟩

/-- One call; `none` is a panic. -/
def call (s : PeripheralManagerStatic) : Call → Option PeripheralManagerStatic
  | .init => if s.initialized then none else some ⟨true, some .new⟩
  | .take group => do
    let manager ← s.manager
    let (taken, rest) := manager.take group
    let _ ← taken
    some { s with manager := some rest }

variable {s s' : PeripheralManagerStatic} {calls : List Call} {groups : List PeripheralGroup}

/-- The calls of a `main` that gets by without a panic. -/
def Boots (calls : List Call) : Prop := (run call new calls).isSome

theorem call_take {manager : PeripheralManager} {group : PeripheralGroup} :
    call ⟨true, some manager⟩ (.take group) =
      if manager.full group then some ⟨true, some (manager.take group).2⟩ else none := by
  cases full : manager.full group <;> simp [call, PeripheralManager.take, full]

/-- After `init`, takes of different groups go through, and nothing else does. -/
theorem takes_iff {manager : PeripheralManager} :
    (run call ⟨true, some manager⟩ calls).isSome ↔ ∃ groups : List PeripheralGroup,
      calls = groups.map .take ∧ groups.Nodup ∧ ∀ group ∈ groups, manager.full group := by
  induction calls generalizing manager with
  | nil =>
    simp only [run_nil, Option.isSome_some, true_iff]
    exact ⟨[], rfl, List.nodup_nil, by simp⟩
  | cons first rest ih =>
    cases first with
    | init =>
      simp only [run_cons, call, if_true, Option.bind_none, Option.isSome_none,
        Bool.false_eq_true, false_iff, not_exists]
      rintro (_ | ⟨group, groups⟩) ⟨same, -⟩ <;> cases same
    | take group =>
      rw [run_cons, call_take]
      constructor
      · intro booted
        by_cases full : manager.full group
        · rw [if_pos full, Option.bind_some, ih] at booted
          obtain ⟨groups, rfl, distinct, left⟩ := booted
          have unused : group ∉ groups := fun member => by simpa [PeripheralManager.take] using left group member
          refine ⟨group :: groups, rfl, List.nodup_cons.mpr ⟨unused, distinct⟩, ?_⟩
          refine List.forall_mem_cons.mpr ⟨full, fun other member => ?_⟩
          have fullThen := left other member
          simp only [PeripheralManager.take] at fullThen
          split at fullThen
          · cases fullThen
          · exact fullThen
        · rw [if_neg full] at booted
          cases booted
      · rintro ⟨_ | ⟨taken, groups⟩, same, distinct, left⟩
        · cases same
        · cases same
          obtain ⟨unused, distinct⟩ := List.nodup_cons.mp distinct
          obtain ⟨full, left⟩ := List.forall_mem_cons.mp left
          rw [if_pos full, Option.bind_some, ih]
          refine ⟨groups, rfl, distinct, fun other member => ?_⟩
          have another : other ≠ group := fun same => unused (same ▸ member)
          simpa [PeripheralManager.take, another] using left other member

/-- **A `main` boots exactly if it initializes first and once, and takes no group twice.** -/
theorem boots_iff : Boots calls ↔ calls = [] ∨ ∃ groups : List PeripheralGroup,
    calls = .init :: groups.map .take ∧ groups.Nodup := by
  cases calls with
  | nil => simp [Boots]
  | cons first rest =>
    cases first with
    | take group =>
      have panics : ¬ Boots (.take group :: rest) := by simp [Boots, run_cons, call, new]
      refine ⟨fun booted => absurd booted panics, ?_⟩
      rintro (same | ⟨groups, same, -⟩) <;> cases same
    | init =>
      have started : Boots (.init :: rest) ↔ (run call ⟨true, some .new⟩ rest).isSome := by
        simp [Boots, run_cons, call, new]
      rw [started, takes_iff]
      constructor
      · rintro ⟨groups, rfl, distinct, -⟩
        exact .inr ⟨groups, rfl, distinct⟩
      · rintro (same | ⟨groups, same, distinct⟩)
        · cases same
        · cases same
          exact ⟨groups, rfl, distinct, fun _ _ => rfl⟩

/-- What the takes of these groups hand out. -/
def owned (groups : List PeripheralGroup) : List Peripheral := groups.flatMap (·.peripherals)

/-- And then no peripheral is handed out twice. -/
theorem owned_once (booted : Boots (.init :: groups.map .take)) : (owned groups).Nodup := by
  rcases boots_iff.mp booted with same | ⟨groups', same, distinct⟩
  · cases same
  · rw [List.cons.injEq] at same
    have itself : groups = groups' :=
      List.map_injective_iff.mpr (fun _ _ => Call.take.inj) same.2
    subst itself
    refine List.nodup_flatMap.mpr ⟨fun group _ => group.peripherals_nodup, ?_⟩
    refine distinct.imp fun another => ?_
    exact fun peripheral inA inB => another (PeripheralGroup.disjoint inA inB)

/-- The five programs. -/
example : Boots [.init, .take .time, .take .wifi, .take .lora, .take .servo] ∧
    Boots [.init, .take .time, .take .display, .take .lora, .take .wifi] ∧
    Boots [.init, .take .time, .take .display, .take .lora] ∧
    Boots [.init, .take .wifi, .take .time, .take .servo] ∧
    Boots [.init, .take .time, .take .display] := by
  refine ⟨?_, ?_, ?_, ?_, ?_⟩ <;> rfl

end PeripheralManagerStatic

end HaviliarIot
