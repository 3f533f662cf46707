import Mathlib.Data.List.Basic
import Mathlib.Data.List.Induction

/-!
Traces in which equal emissions are kept apart by a mark.

`recent` is what a trace has emitted since its last mark.  A trace stays
separated by a step exactly when the step emits nothing recent
(`separated_snoc`), so an invariant about `recent` is enough to prove a whole
run separated.
-/

namespace HaviliarIot.Separation

variable {Label α : Type*} (emits : Label → Option α) (marks : Label → Bool)

/-- Between two emissions of the same value there is a mark. -/
def Separated (tr : List Label) : Prop :=
  ∀ before first mid second after value,
    tr = before ++ first :: mid ++ second :: after →
    emits first = some value → emits second = some value → ∃ l ∈ mid, marks l

/-- What was emitted since the last mark. -/
def recent (tr : List Label) : List α :=
  tr.foldl (fun sofar l => if marks l then [] else sofar ++ (emits l).toList) []

variable {emits marks} {tr : List Label} {l : Label} {value : α}

theorem recent_snoc : recent emits marks (tr ++ [l]) =
    if marks l then [] else recent emits marks tr ++ (emits l).toList := by
  rw [recent, List.foldl_append]
  rfl

theorem separated_nil : Separated emits marks [] := by
  intro before first mid second after value split
  have length := congrArg List.length split
  simp at length

/-- A recent emission has no mark after it. -/
theorem mem_recent : value ∈ recent emits marks tr ↔
    ∃ before first mid, tr = before ++ first :: mid ∧ emits first = some value ∧
      marks first = false ∧ ∀ l ∈ mid, marks l = false := by
  induction tr using List.reverseRecOn with
  | nil => simp [recent]
  | append_singleton tr l ih =>
    rw [recent_snoc]
    constructor
    · intro member
      split at member
      · cases member
      · rename_i unmarked
        have unmarked : marks l = false := by simpa using unmarked
        rcases List.mem_append.mp member with earlier | now
        · obtain ⟨before, first, mid, rfl, emitted, silent, quiet⟩ := ih.mp earlier
          refine ⟨before, first, mid ++ [l], by simp, emitted, silent, ?_⟩
          intro l' within
          rcases List.mem_append.mp within with inside | last
          · exact quiet l' inside
          · rwa [List.mem_singleton.mp last]
        · refine ⟨tr, l, [], rfl, ?_, unmarked, by simp⟩
          simpa [Option.mem_toList] using now
    · rintro ⟨before, first, mid, split, emitted, silent, quiet⟩
      rcases List.eq_nil_or_concat' mid with rfl | ⟨mid, last, rfl⟩
      · obtain ⟨-, same⟩ := List.append_inj' split rfl
        cases same
        rw [if_neg (by simp [silent])]
        exact List.mem_append_right _ (by simp [emitted])
      · rw [← List.cons_append, ← List.append_assoc] at split
        obtain ⟨rfl, same⟩ := List.append_inj' split rfl
        cases same
        have unmarked : marks l = false := quiet l (by simp)
        rw [if_neg (by simp [unmarked])]
        refine List.mem_append_left _ (ih.mpr ⟨before, first, mid, rfl, emitted, silent, ?_⟩)
        intro l' inside
        exact quiet l' (by simp [inside])

/-- A step keeps a trace separated exactly when it emits nothing recent. -/
theorem separated_snoc (exclusive : ∀ l, marks l → emits l = none) :
    Separated emits marks (tr ++ [l]) ↔
      Separated emits marks tr ∧ ∀ value, emits l = some value → value ∉ recent emits marks tr := by
  constructor
  · intro separated
    constructor
    · intro before first mid second after value split
      exact separated before first mid second (after ++ [l]) value (by simp [split])
    · intro value emitted recently
      obtain ⟨before, first, mid, split, emitted', -, quiet⟩ := mem_recent.mp recently
      obtain ⟨l', inside, marked⟩ :=
        separated before first mid l [] value (by simp [split]) emitted' emitted
      rw [quiet l' inside] at marked
      cases marked
  · rintro ⟨separated, fresh⟩ before first mid second after value split emitted emitted'
    rcases List.eq_nil_or_concat' after with rfl | ⟨after, last, rfl⟩
    · obtain ⟨rfl, same⟩ := List.append_inj' split rfl
      cases same
      by_contra unmarked
      simp only [not_exists, not_and, Bool.not_eq_true] at unmarked
      refine fresh value emitted' (mem_recent.mpr ⟨before, first, mid, rfl, emitted, ?_, unmarked⟩)
      by_contra marked
      have silent := exclusive first (by simpa using marked)
      rw [emitted] at silent
      cases silent
    · rw [← List.cons_append, ← List.append_assoc] at split
      obtain ⟨rfl, -⟩ := List.append_inj' split rfl
      exact separated before first mid second after value rfl emitted emitted'

end HaviliarIot.Separation
