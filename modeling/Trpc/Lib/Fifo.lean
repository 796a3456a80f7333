import Mathlib

/-!
# A queue threaded through a table

The entries of a table are queued without a list of their own: each entry
keeps the index of the next one, and two registers keep the first and the
last.  `Threaded` reads the queue off the links, and `Fifo` adds that no entry
is queued twice and that the last register is right.

`Fifo.push` and `Fifo.pop` are the two operations.  Both are stated for any
table that agrees with the links the operation writes.
-/

namespace Trpc.Lib

variable {next n : Nat → Option Nat} {head tail : Option Nat} {q : List Nat} {i : Nat}

/-- The entries from `head` on along `next`, in order. -/
def Threaded (next : Nat → Option Nat) : Option Nat → List Nat → Prop
  | head, [] => head = none
  | head, i :: q => head = some i ∧ Threaded next (next i) q

/-- The links hold the queue `q`. -/
structure Fifo (next : Nat → Option Nat) (head tail : Option Nat) (q : List Nat) : Prop where
  nodup : q.Nodup
  links : Threaded next head q
  last : tail = q.getLast?

/-- Only the links of the queued entries count. -/
theorem Threaded.congr (h : Threaded next head q) (hsame : ∀ i ∈ q, n i = next i) :
    Threaded n head q := by
  induction q generalizing head with
  | nil => exact h
  | cons i q ih =>
    refine ⟨h.1, ?_⟩
    rw [hsame i List.mem_cons_self]
    exact ih h.2 fun j hj => hsame j (List.mem_cons_of_mem _ hj)

/-- The link of the last entry is the one that an append writes. -/
theorem Threaded.append {t : Nat} (h : Threaded next head q) (hnodup : q.Nodup)
    (hlast : q.getLast? = some t) (htail : n t = some i) (hend : n i = none)
    (hsame : ∀ j ∈ q, j ≠ t → n j = next j) : Threaded n head (q ++ [i]) := by
  induction q generalizing head with
  | nil => simp at hlast
  | cons a q ih =>
    refine ⟨h.1, ?_⟩
    cases q with
    | nil =>
      obtain rfl : a = t := by simpa using hlast
      exact ⟨htail, hend⟩
    | cons b q =>
      have hrest : (b :: q).getLast? = some t := by
        rw [← hlast, List.getLast?_cons_cons]
      have hne : a ≠ t := by
        rintro rfl
        exact (List.nodup_cons.1 hnodup).1 (List.mem_of_getLast? hrest)
      rw [hsame a List.mem_cons_self hne]
      exact ih h.2 (List.nodup_cons.1 hnodup).2 hrest
        fun j hj => hsame j (List.mem_cons_of_mem _ hj)

namespace Fifo

theorem empty : Fifo next none none [] :=
  ⟨List.nodup_nil, rfl, rfl⟩

theorem congr (h : Fifo next head tail q) (hsame : ∀ i ∈ q, n i = next i) : Fifo n head tail q :=
  ⟨h.nodup, h.links.congr hsame, h.last⟩

/-- The first register tells whether the queue is empty. -/
theorem head_eq (h : Fifo next head tail q) : head = q.head? := by
  cases q with
  | nil => exact h.links
  | cons i q => exact h.links.1

/-- Take the first entry off, and clear its link. -/
theorem pop (h : Fifo next (some i) tail q) (hsame : ∀ j, j ≠ i → n j = next j) :
    ∃ rest, q = i :: rest ∧ Fifo n (next i) (if next i = none then none else tail) rest := by
  cases q with
  | nil => exact absurd h.links (by simp [Threaded])
  | cons a rest =>
    obtain ⟨ha, hrest⟩ := h.links
    obtain rfl : i = a := Option.some.inj ha
    have hnodup := List.nodup_cons.1 h.nodup
    refine ⟨rest, rfl, hnodup.2, hrest.congr fun j hj => hsame j ?_, ?_⟩
    · rintro rfl
      exact hnodup.1 hj
    · cases rest with
      | nil =>
        have hnone : next i = none := hrest
        rw [if_pos hnone, List.getLast?_nil]
      | cons b rest =>
        have hnext : next i = some b := hrest.1
        rw [if_neg (by rw [hnext]; exact Option.some_ne_none b), h.last, List.getLast?_cons_cons]

/-- Queue an entry behind the last one. -/
theorem push (h : Fifo next head tail q) (hnew : i ∉ q) (hend : n i = none)
    (htail : ∀ t, tail = some t → n t = some i)
    (hsame : ∀ j, j ≠ i → tail ≠ some j → n j = next j) :
    Fifo n (if tail = none then some i else head) (some i) (q ++ [i]) := by
  refine ⟨List.nodup_append.2 ⟨h.nodup, List.nodup_singleton i, ?_⟩, ?_, by simp⟩
  · intro a ha b hb hab
    rw [List.mem_singleton] at hb
    exact hnew (hb ▸ hab ▸ ha)
  · cases htl : tail with
    | none =>
      have hnil : q = [] := List.getLast?_eq_none_iff.1 (h.last ▸ htl)
      subst hnil
      rw [if_pos rfl]
      exact ⟨rfl, hend⟩
    | some t =>
      rw [if_neg (Option.some_ne_none t)]
      refine h.links.append h.nodup (h.last ▸ htl) (htail t htl) hend fun j hj hne => ?_
      refine hsame j (fun hji => hnew (hji ▸ hj)) fun ht => hne ?_
      exact Option.some.inj (ht ▸ htl)

end Fifo

end Trpc.Lib
