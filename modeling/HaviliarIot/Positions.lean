import Mathlib.Data.List.Destutter
import Mathlib.Data.List.Nodup
import Mathlib.Data.List.Range
import Mathlib.Data.List.Sort

/-!
Lists whose elements are known by their position.

The end of a numbered list is numbered backwards from the last
(`reverse_of_suffix`).  Elements listed with their positions in increasing order
are a sublist (`sublist_of_placed`), and a listing that only repeats an element
before it moves on is increasing once the repetitions are collapsed
(`increasing_of_destutter`).
-/

namespace HaviliarIot.Positions

variable {α : Type*}

/-- The end of a numbered list, read backwards. -/
theorem reverse_of_suffix {number : Nat → α} {count : Nat} {part : List α}
    (suffix : part <:+ (List.range count).map number) :
    part.reverse = (List.range part.length).map fun back => number (count - 1 - back) := by
  obtain ⟨before, split⟩ := suffix
  have total : before.length + part.length = count := by
    have length := congrArg List.length split
    simpa only [List.length_append, List.length_map, List.length_range] using length
  apply List.ext_getElem
  · simp only [List.length_reverse, List.length_map, List.length_range]
  · intro back inside inside'
    rw [List.length_reverse] at inside
    have place : (before ++ part)[before.length + (part.length - 1 - back)]? =
        part[part.length - 1 - back]? := by
      rw [List.getElem?_append_right (Nat.le_add_right _ _), Nat.add_sub_cancel_left]
    have here : before.length + (part.length - 1 - back) = count - 1 - back := by omega
    rw [split, here, List.getElem?_map, List.getElem?_range (by omega), Option.map_some,
      List.getElem?_eq_getElem (by omega)] at place
    rw [List.getElem_reverse, List.getElem_map, List.getElem_range]
    exact (Option.some.inj place).symm

/-- Each entry is the element at its position. -/
def Placed (xs : List α) (entries : List (Nat × α)) : Prop :=
  ∀ entry ∈ entries, xs[entry.1]? = some entry.2

variable {xs : List α} {entries : List (Nat × α)}

theorem Placed.sublist {fewer : List (Nat × α)} (placed : Placed xs entries)
    (sub : fewer.Sublist entries) : Placed xs fewer :=
  fun entry member => placed entry (sub.subset member)

/-- Entries in increasing position are a sublist. -/
theorem sublist_of_placed (placed : Placed xs entries)
    (increasing : (entries.map Prod.fst).Pairwise (· < ·)) :
    (entries.map Prod.snd).Sublist xs := by
  have inRange : entries.map Prod.fst ⊆ List.range xs.length := by
    intro position member
    obtain ⟨entry, entered, rfl⟩ := List.mem_map.mp member
    obtain ⟨within, -⟩ := List.getElem?_eq_some_iff.mp (placed entry entered)
    exact List.mem_range.mpr within
  have positions : (entries.map Prod.fst).Sublist (List.range xs.length) :=
    List.sublist_of_subperm_of_pairwise (List.subperm_of_subset increasing.nodup inRange)
      increasing List.pairwise_lt_range
  have looked := positions.map fun position => xs[position]?
  have whole : (List.range xs.length).map (fun position => xs[position]?) = xs.map some := by
    apply List.ext_getElem
    · simp only [List.length_map, List.length_range]
    · intro position inside inside'
      rw [List.length_map] at inside'
      rw [List.getElem_map, List.getElem_range, List.getElem_map, List.getElem?_eq_getElem inside']
  have listed : (entries.map Prod.fst).map (fun position => xs[position]?) =
      (entries.map Prod.snd).map some := by
    rw [List.map_map, List.map_map]
    exact List.map_congr_left fun entry member => placed entry member
  rw [whole, listed] at looked
  simpa [List.filterMap_map] using looked.filterMap id

/-- Entries that only ever move forward, with repetitions collapsed, are in
increasing position. -/
theorem increasing_of_destutter [DecidableEq α] (placed : Placed xs entries)
    (forward : (entries.map Prod.fst).Pairwise (· ≤ ·)) :
    ((entries.destutter (· ≠ ·)).map Prod.fst).Pairwise (· < ·) := by
  have sub : (entries.destutter (· ≠ ·)).Sublist entries := List.destutter_sublist _ _
  have chain : (entries.destutter (· ≠ ·)).IsChain (· ≠ ·) := List.isChain_destutter _ _
  have placed := placed.sublist sub
  have forward := forward.sublist (sub.map Prod.fst)
  clear sub
  generalize entries.destutter (· ≠ ·) = collapsed at chain placed forward
  rw [List.pairwise_map] at forward ⊢
  have steps : collapsed.IsChain fun first second => first.1 < second.1 := by
    induction collapsed with
    | nil => exact .nil
    | cons first rest ih =>
      cases rest with
      | nil => exact .singleton first
      | cons second rest =>
        obtain ⟨different, chain⟩ := List.isChain_cons_cons.mp chain
        obtain ⟨ahead, forward⟩ := List.pairwise_cons.mp forward
        have later := ih chain (placed.sublist (List.sublist_cons_self _ _)) forward
        refine List.isChain_cons_cons.mpr ⟨?_, later⟩
        refine Nat.lt_of_le_of_ne (ahead second List.mem_cons_self) ?_
        intro same
        have element : some first.2 = some second.2 := by
          rw [← placed first List.mem_cons_self, same]
          exact placed second (List.mem_cons_of_mem _ List.mem_cons_self)
        exact different (Prod.ext same (Option.some.inj element))
  exact List.isChain_iff_pairwise.mp steps

end HaviliarIot.Positions
