import Mathlib

/-!
# Ring buffers and counters that skip zero

`RingBuffer` is an array that is used round and round, with the index of the oldest
element, that of the next free cell and the number of elements.  Its `contents`
are a queue: `push` appends and `pop` takes the first one off.

`skipNext` counts in a word of `m` values and leaves out zero, which such programs
keep for "none".  `skipAt` is the value after so many counts; it repeats after
`m - 1` of them and not before (`skipAt_injective`).
-/

namespace Trpc.Lib

structure RingBuffer (α : Type) where
  items : Nat → α
  capacity : Nat
  head : Nat
  tail : Nat
  count : Nat
  pos : 0 < capacity
  count_le : count ≤ capacity
  tail_eq : tail = (head + count) % capacity

namespace RingBuffer

variable {α : Type}

def create (blank : α) (capacity : Nat) (pos : 0 < capacity) : RingBuffer α :=
  ⟨fun _ => blank, capacity, 0, 0, 0, pos, Nat.zero_le _, by simp⟩

/-- The elements, oldest first. -/
def contents (r : RingBuffer α) : List α :=
  (List.range r.count).map fun k => r.items ((r.head + k) % r.capacity)

@[simp] theorem contents_length (r : RingBuffer α) : r.contents.length = r.count := by
  simp [contents]

def push (r : RingBuffer α) (x : α) (h : r.count < r.capacity) : RingBuffer α :=
  { r with
    items := Function.update r.items r.tail x
    tail := (r.tail + 1) % r.capacity
    count := r.count + 1
    count_le := h
    tail_eq := by simp [r.tail_eq, Nat.add_assoc] }

def pop (r : RingBuffer α) (h : r.count ≠ 0) : RingBuffer α :=
  { r with
    head := (r.head + 1) % r.capacity
    count := r.count - 1
    count_le := by
      have := r.count_le
      omega
    tail_eq := by
      rw [Nat.mod_add_mod, show r.head + 1 + (r.count - 1) = r.head + r.count by omega]
      exact r.tail_eq }

theorem contents_push (r : RingBuffer α) (x : α) (h : r.count < r.capacity) :
    (r.push x h).contents = r.contents ++ [x] := by
  have hother : ∀ k < r.count, (r.head + k) % r.capacity ≠ r.tail := by
    intro k hk heq
    rw [r.tail_eq] at heq
    have hmod : k % r.capacity = r.count % r.capacity := Nat.ModEq.add_left_cancel' r.head heq
    rw [Nat.mod_eq_of_lt (by omega), Nat.mod_eq_of_lt h] at hmod
    omega
  unfold contents push
  rw [List.range_succ, List.map_append]
  refine congrArg₂ (· ++ ·) (List.map_congr_left fun k hk => ?_) ?_
  · exact Function.update_of_ne (hother k (List.mem_range.1 hk)) _ _
  · simp [r.tail_eq]

theorem contents_pop (r : RingBuffer α) (h : r.count ≠ 0) :
    r.contents = r.items (r.head % r.capacity) :: (r.pop h).contents := by
  obtain ⟨n, hn⟩ := Nat.exists_eq_succ_of_ne_zero h
  have hrest : (r.pop h).count = n := by
    show r.count - 1 = n
    omega
  unfold contents
  rw [hrest, hn, List.range_succ_eq_map]
  simp only [pop, List.map_cons, List.map_map, Nat.add_zero, Nat.mod_add_mod]
  refine congrArg _ (List.map_congr_left fun k _ => ?_)
  show r.items ((r.head + (k + 1)) % r.capacity) = _
  rw [Nat.add_assoc, Nat.add_comm 1 k]

end RingBuffer

/-! ## Counters -/

/-- One more in a word of `m` values, without zero. -/
def skipNext (m v : Nat) : Nat :=
  if (v + 1) % m = 0 then 1 else (v + 1) % m

/-- The counter after `n` counts from zero. -/
def skipAt (m n : Nat) : Nat :=
  if n = 0 then 0 else (n - 1) % (m - 1) + 1

theorem skipNext_skipAt {m : Nat} (hm : 2 < m) (n : Nat) :
    skipNext m (skipAt m n) = skipAt m (n + 1) := by
  unfold skipNext skipAt
  cases n with
  | zero => simp [Nat.mod_eq_of_lt (show 1 < m by omega)]
  | succ n =>
    have hlt := Nat.mod_lt n (show 0 < m - 1 by omega)
    simp only [Nat.add_one_ne_zero, if_false, Nat.add_sub_cancel]
    rw [Nat.add_mod n 1, Nat.mod_eq_of_lt (show 1 < m - 1 by omega)]
    by_cases hlast : n % (m - 1) + 1 = m - 1
    · rw [hlast, Nat.mod_self, show m - 1 + 1 = m by omega, Nat.mod_self]
      simp
    rw [Nat.mod_eq_of_lt (show n % (m - 1) + 1 < m - 1 by omega),
      Nat.mod_eq_of_lt (show n % (m - 1) + 1 + 1 < m by omega)]
    simp

/-- Two counts less than a round apart that show the same value are the same. -/
theorem skipAt_injective {m k n : Nat} (hk : 0 < k) (hle : k ≤ n) (hround : n < k + (m - 1))
    (heq : skipAt m n = skipAt m k) : n = k := by
  unfold skipAt at heq
  rw [if_neg (by omega), if_neg (by omega)] at heq
  have hmod : (n - 1) % (m - 1) = (k - 1) % (m - 1) := by omega
  have hdvd : m - 1 ∣ n - 1 - (k - 1) := Nat.dvd_of_mod_eq_zero (Nat.sub_mod_eq_zero_of_mod_eq hmod)
  have hzero := Nat.eq_zero_of_dvd_of_lt hdvd (by omega)
  omega

end Trpc.Lib
