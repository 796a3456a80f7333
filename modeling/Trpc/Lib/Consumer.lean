import Mathlib

/-!
# Consumers of a stream

A `Consumer` reads a list from the front and changes its state as it goes.  In
every state it either needs more input or takes something off the front.  What it
takes does not depend on what follows.

`run` goes on for as long as the consumer takes something.  The main result is
`run_append`: giving the input in two pieces, the second behind what the first
left, is giving it at once.  Unlike a decoder of items, what a consumer accepts
next may depend on everything that it took before.
-/

namespace Trpc.Lib

variable {σ β : Type}

/-- One step of reading, with the laws that make it incremental. -/
structure Consumer (σ β : Type) where
  next : σ → List β → Option (σ × List β)
  next_append : ∀ {s xs s' rest} (ys : List β),
    next s xs = some (s', rest) → next s (xs ++ ys) = some (s', rest ++ ys)
  next_shorter : ∀ {s xs s' rest},
    next s xs = some (s', rest) → rest.length < xs.length

namespace Consumer

variable (C : Consumer σ β)

/-- At most `fuel` steps. -/
def runFuel : Nat → σ → List β → σ × List β
  | 0, s, xs => (s, xs)
  | fuel + 1, s, xs =>
    match C.next s xs with
    | none => (s, xs)
    | some (s', rest) => runFuel fuel s' rest

/-- As many steps as the input allows.  Every step takes something, so the length
of the input is fuel enough. -/
def run (s : σ) (xs : List β) : σ × List β :=
  C.runFuel (xs.length + 1) s xs

theorem runFuel_eq_of_lt {m n : Nat} {s : σ} {xs : List β}
    (hm : xs.length < m) (hn : xs.length < n) :
    C.runFuel m s xs = C.runFuel n s xs := by
  induction m generalizing n s xs with
  | zero => omega
  | succ m ih =>
    obtain ⟨n, rfl⟩ : ∃ k, n = k + 1 := ⟨n - 1, by omega⟩
    rw [runFuel, runFuel]
    cases hnext : C.next s xs with
    | none => rfl
    | some found =>
      obtain ⟨s', rest⟩ := found
      have hlen := C.next_shorter hnext
      exact ih (by omega) (by omega)

theorem run_of_none {s : σ} {xs : List β} (h : C.next s xs = none) :
    C.run s xs = (s, xs) := by
  rw [run, runFuel, h]

theorem run_of_some {s s' : σ} {xs rest : List β} (h : C.next s xs = some (s', rest)) :
    C.run s xs = C.run s' rest := by
  have hlen := C.next_shorter h
  rw [run, runFuel, h]
  exact C.runFuel_eq_of_lt (by omega) (Nat.lt_succ_self _)

/-- Reading in two pieces is reading at once. -/
theorem run_append (s : σ) (xs ys : List β) :
    C.run s (xs ++ ys) = C.run (C.run s xs).1 ((C.run s xs).2 ++ ys) := by
  induction h : xs.length using Nat.strongRecOn generalizing s xs with
  | _ n ih =>
    cases hnext : C.next s xs with
    | none => rw [C.run_of_none hnext]
    | some found =>
      obtain ⟨s', rest⟩ := found
      have hlen := C.next_shorter hnext
      rw [C.run_of_some hnext, C.run_of_some (C.next_append ys hnext)]
      exact ih rest.length (h ▸ hlen) s' rest rfl

end Consumer

end Trpc.Lib
