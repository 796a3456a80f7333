import Mathlib

/-!
# Counting slots

A counter that a program keeps beside a table agrees with the number of slots of a kind.
The kind of a slot is a `Bool` predicate on its index.  A total over all threads
changes by what the one thread that moves changes (`sum_update`).
-/

namespace Trpc.Lib

/-- The number of slots below the capacity with a property. -/
def slotCount (capacity : Nat) (p : Nat → Bool) : Nat :=
  ((Finset.range capacity).filter fun slot => p slot = true).card

/-- Two tables that differ in one slot. -/
theorem slotCount_update {capacity i : Nat} {p q : Nat → Bool}
    (hi : i < capacity) (hsame : ∀ j, j ≠ i → p j = q j) :
    slotCount capacity q + (p i).toNat = slotCount capacity p + (q i).toNat := by
  have split : ∀ r : Nat → Bool, slotCount capacity r =
        (((Finset.range capacity).erase i).filter fun j => r j).card + (r i).toNat := by
    intro r
    have hmem : i ∈ Finset.range capacity := Finset.mem_range.2 hi
    rw [slotCount, ← Finset.insert_erase hmem, Finset.filter_insert]
    cases hr : r i with
    | true => simp
    | false => simp
  have same : (((Finset.range capacity).erase i).filter fun j => p j) =
      ((Finset.range capacity).erase i).filter fun j => q j := by
    refine Finset.filter_congr fun j hj => ?_
    rw [hsame j (Finset.ne_of_mem_erase hj)]
  rw [split p, split q, same]
  omega

/-- Slots with a property, told apart by another. -/
theorem slotCount_split {capacity : Nat} {p : Nat → Bool} (r : Nat → Bool) :
    slotCount capacity p = slotCount capacity (fun s => p s && r s) +
      slotCount capacity (fun s => p s && !r s) := by
  simp only [slotCount, Bool.and_eq_true, Bool.not_eq_true', ← Bool.not_eq_true]
  rw [← Finset.filter_filter, ← Finset.filter_filter, Finset.card_filter_add_card_filter_not]

/-- Two kinds that no slot has both fill at most the table. -/
theorem slotCount_add_le {capacity : Nat} {p q : Nat → Bool}
    (hdisjoint : ∀ j, p j = true → q j = false) :
    slotCount capacity p + slotCount capacity q ≤ capacity := by
  have hunion := Finset.card_le_card (Finset.union_subset
    (Finset.filter_subset (fun j => p j = true) (Finset.range capacity))
    (Finset.filter_subset (fun j => q j = true) (Finset.range capacity)))
  rwa [Finset.card_range, Finset.card_union_of_disjoint
    (Finset.disjoint_filter.mpr fun j _ hp => by simp [hdisjoint j hp])] at hunion

/-- Slots of a kind that each hold an entry of their own are at most the entries. -/
theorem slotCount_le_length {capacity : Nat} {p : Nat → Bool} {f : Nat → Nat}
    {l : List Nat} (hmem : ∀ i, i < capacity → p i = true → f i ∈ l)
    (hinj : ∀ i j, i < capacity → j < capacity → p i = true → p j = true → f i = f j → i = j) :
    slotCount capacity p ≤ l.length := by
  refine le_trans (Finset.card_le_card_of_injOn f ?_ ?_) (List.toFinset_card_le l)
  · intro i hi
    obtain ⟨hlt, hp⟩ := Finset.mem_filter.1 (Finset.mem_coe.1 hi)
    exact Finset.mem_coe.2 (List.mem_toFinset.2 (hmem i (Finset.mem_range.1 hlt) hp))
  · intro i hi j hj hij
    obtain ⟨hilt, hpi⟩ := Finset.mem_filter.1 (Finset.mem_coe.1 hi)
    obtain ⟨hjlt, hpj⟩ := Finset.mem_filter.1 (Finset.mem_coe.1 hj)
    exact hinj i j (Finset.mem_range.1 hilt) (Finset.mem_range.1 hjlt) hpi hpj hij

/-- A sum over indices after one of them has changed. -/
theorem sum_update {τ α : Type} [DecidableEq τ] {all : Finset τ} {t : τ} (ht : t ∈ all)
    (f : τ → α) (x : α) (g : α → Nat) :
    ∑ s ∈ all, g (Function.update f t x s) + g (f t) = ∑ s ∈ all, g (f s) + g x := by
  have hleft := Finset.add_sum_erase all (fun s => g (Function.update f t x s)) ht
  have hright := Finset.add_sum_erase all (fun s => g (f s)) ht
  have hsame : ∑ s ∈ all.erase t, g (Function.update f t x s) = ∑ s ∈ all.erase t, g (f s) := by
    refine Finset.sum_congr rfl fun s hs => ?_
    rw [Function.update_of_ne (Finset.ne_of_mem_erase hs)]
  rw [Function.update_self] at hleft
  omega

/-- One term is at most the sum. -/
theorem le_sum {τ : Type} [Fintype τ] (f : τ → Nat) (t : τ) : f t ≤ ∑ s, f s :=
  Finset.single_le_sum (fun _ _ => Nat.zero_le _) (Finset.mem_univ t)

end Trpc.Lib
