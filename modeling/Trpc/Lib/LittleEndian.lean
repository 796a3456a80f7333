import Mathlib

/-!
# Little-endian byte strings

`leBytes k n` is the number `n` in `k` bytes, least significant first, and
`ofLe` reads a byte string back.  The two are inverse on `k`-byte strings
(`ofLe_leBytes`, `leBytes_ofLe`); both are inductions on the width, so the
16, 32 and 64 bit codecs share them.

`or_shiftLeft_eq_add` turns an or of disjoint bit ranges into a sum.
-/

namespace Trpc.Lib

/-- The `k` low bytes of `n`, least significant first. -/
def leBytes : Nat → Nat → List UInt8
  | 0, _ => []
  | k + 1, n => UInt8.ofNat n :: leBytes k (n / 256)

/-- The number that a little-endian byte string denotes. -/
def ofLe : List UInt8 → Nat
  | [] => 0
  | b :: rest => b.toNat + 256 * ofLe rest

/-- Reading back what was written gives the number modulo the width. -/
theorem ofLe_leBytes (k n : Nat) : ofLe (leBytes k n) = n % 256 ^ k := by
  induction k generalizing n with
  | zero => simp [leBytes, ofLe, Nat.mod_one]
  | succ k ih =>
    rw [leBytes, ofLe, ih, pow_succ', Nat.mod_mul]
    simp

/-- Writing back what was read gives the byte string. -/
theorem leBytes_ofLe (bytes : List UInt8) : leBytes bytes.length (ofLe bytes) = bytes := by
  induction bytes with
  | nil => rfl
  | cons b rest ih =>
    have hb := b.toNat_lt
    have hlow : UInt8.ofNat (b.toNat + 256 * ofLe rest) = b := by
      apply UInt8.toNat.inj
      rw [UInt8.toNat_ofNat']
      omega
    have hhigh : (b.toNat + 256 * ofLe rest) / 256 = ofLe rest := by omega
    rw [List.length_cons, ofLe, leBytes, hlow, hhigh, ih]

/-- An or of a low part and a shifted high part is their sum. -/
theorem or_shiftLeft_eq_add {a i : Nat} (b : Nat) (h : a < 2 ^ i) :
    a ||| b <<< i = a + b * 2 ^ i := by
  rw [Nat.or_comm, ← Nat.shiftLeft_add_eq_or_of_lt h, Nat.shiftLeft_eq, Nat.add_comm]

end Trpc.Lib
