import Mathlib

/-!
# Ranges of a concatenation

A message that is kept as a list of slices is the concatenation of the slices.
A loop that walks the slices to collect a range of the message meets two
cases at each slice: the range starts behind the slice, or it starts inside
it.  `range_skip` and `range_split` are those two cases as equations.
-/

namespace Trpc.Lib

variable {β : Type}

/-- `len` elements from `start` on. -/
def range (start len : Nat) (xs : List β) : List β :=
  (xs.drop start).take len

@[simp] theorem range_zero_len (start : Nat) (xs : List β) : range start 0 xs = [] := by
  simp [range]

theorem range_length {start len : Nat} {xs : List β}
    (h : start + len ≤ xs.length) : (range start len xs).length = len := by
  rw [range, List.length_take, List.length_drop]
  omega

/-- The range starts behind the first slice. -/
theorem range_skip {start : Nat} {p : List β} (len : Nat) (rest : List β) (h : p.length ≤ start) :
    range start len (p ++ rest) = range (start - p.length) len rest := by
  rw [range, range, List.drop_append, List.drop_eq_nil_of_le h, List.nil_append]

/-- The range starts inside the first slice and takes what the slice has of
it. -/
theorem range_split {start : Nat} {p : List β} (len : Nat) (rest : List β) (h : start < p.length) :
    range start len (p ++ rest) = range start (min (p.length - start) len) p ++
        range 0 (len - min (p.length - start) len) rest := by
  have hlen : (p.drop start).length = p.length - start := List.length_drop
  rw [range, range, range, List.drop_append_of_le_length (by omega),
    List.drop_zero, List.take_append, hlen]
  by_cases hle : p.length - start ≤ len
  · have htake : ∀ k, p.length - start ≤ k → (p.drop start).take k = p.drop start :=
      fun k hk => List.take_of_length_le (by omega)
    rw [Nat.min_eq_left hle, htake len hle, htake _ (le_refl _)]
  · rw [Nat.min_eq_right (by omega), Nat.sub_self, Nat.sub_eq_zero_of_le (by omega)]

/-- A range without its first `k` elements. -/
theorem range_drop (start len k : Nat) (xs : List β) :
    (range start len xs).drop k = range (start + k) (len - k) xs := by
  rw [range, range, List.drop_take, List.drop_drop]

end Trpc.Lib
