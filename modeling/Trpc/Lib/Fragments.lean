import Trpc.Lib.Runs

/-!
# Messages cut into fragments

A sender cuts a message into fragments of bounded size and marks the first and
the last one: `split`.
-/

namespace Trpc.Lib

variable {α : Type}

/-- One piece of the message with number `id`. -/
structure Fragment (α : Type) where
  first : Bool
  last : Bool
  id : Nat
  body : List α

/-- Cut what is left of a message.  Every step takes at least one element off,
so the length of the message is fuel enough. -/
def splitFuel (limit id : Nat) : Nat → Bool → List α → List (Fragment α)
  | 0, _, _ => []
  | fuel + 1, first, xs =>
    if xs.length ≤ limit then [⟨first, true, id, xs⟩]
    else
      ⟨first, false, id, xs.take limit⟩ :: splitFuel limit id fuel false (xs.drop limit)

/-- The fragments of a message, none longer than `limit`. -/
def split (limit id : Nat) (xs : List α) : List (Fragment α) :=
  splitFuel limit id xs.length true xs

end Trpc.Lib
