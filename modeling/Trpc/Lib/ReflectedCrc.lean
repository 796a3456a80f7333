import Mathlib

/-!
# Reflected cyclic redundancy codes

One step of a reflected CRC moves the register down by one bit and adds the
polynomial if a one falls out.  The step is linear in exclusive or
(`crcShift_xor`), so `k` steps of a register are the `k` steps of its `k` low
bits and the rest of it moved down (`crcShifts_split`).  That is why a table of
the `2 ^ k` low parts is enough.
-/

namespace Trpc.Lib

variable {w : Nat} (poly : BitVec w)

/-- One bit of the register. -/
def crcShift (c : BitVec w) : BitVec w :=
  (c >>> 1) ^^^ (if c.getLsbD 0 then poly else 0#w)

/-- `k` bits of the register. -/
def crcShifts (k : Nat) (c : BitVec w) : BitVec w :=
  (crcShift poly)^[k] c

@[simp] theorem crcShifts_zero (c : BitVec w) : crcShifts poly 0 c = c := rfl

theorem crcShifts_succ (k : Nat) (c : BitVec w) :
    crcShifts poly (k + 1) c = crcShift poly (crcShifts poly k c) :=
  Function.iterate_succ_apply' _ _ _

theorem crcShift_xor (a b : BitVec w) :
    crcShift poly (a ^^^ b) = crcShift poly a ^^^ crcShift poly b := by
  unfold crcShift
  rw [BitVec.getLsbD_xor, BitVec.ushiftRight_xor_distrib]
  cases a.getLsbD 0 <;> cases b.getLsbD 0 <;> simp
  · ac_rfl
  · ac_rfl
  · rw [BitVec.xor_assoc (a >>> 1) poly, BitVec.xor_comm (b >>> 1) poly,
      ← BitVec.xor_assoc poly poly, BitVec.xor_self, BitVec.zero_xor]

theorem crcShifts_xor (k : Nat) (a b : BitVec w) :
    crcShifts poly k (a ^^^ b) = crcShifts poly k a ^^^ crcShifts poly k b := by
  induction k with
  | zero => simp
  | succ k ih => rw [crcShifts_succ, ih, crcShift_xor, ← crcShifts_succ, ← crcShifts_succ]

/-- A register whose `k` low bits are clear only moves down. -/
theorem crcShifts_clear {c : BitVec w} {k : Nat} (hclear : ∀ i < k, c.getLsbD i = false) :
    crcShifts poly k c = c >>> k := by
  induction k with
  | zero => simp
  | succ k ih =>
    have hlow : (c >>> k).getLsbD 0 = false := by
      simpa using hclear k (by omega)
    rw [crcShifts_succ, ih fun i hi => hclear i (by omega), crcShift, hlow]
    simp [BitVec.shiftRight_add]

/-- `k` steps of a register, from its `k` low bits. -/
theorem crcShifts_split (k : Nat) (c : BitVec w) :
    crcShifts poly k c = crcShifts poly k ((c.setWidth k).setWidth w) ^^^ (c >>> k) := by
  have hclear : ∀ i < k, (c ^^^ (c.setWidth k).setWidth w).getLsbD i = false := by
    intro i hi
    by_cases hw : i < w
    · simp [hi, hw]
    · exact BitVec.getLsbD_of_ge _ i (Nat.le_of_not_lt hw)
  have hmoved : (c ^^^ (c.setWidth k).setWidth w) >>> k = c >>> k := by
    ext i hi
    simp
  have hwhole : c = (c.setWidth k).setWidth w ^^^ (c ^^^ (c.setWidth k).setWidth w) := by
    rw [BitVec.xor_comm c, ← BitVec.xor_assoc, BitVec.xor_self, BitVec.zero_xor]
  conv_lhs => rw [hwhole]
  rw [crcShifts_xor, crcShifts_clear poly hclear, hmoved]

/-- A step can be undone if the polynomial has its top bit. -/
theorem crcShift_injective {poly : BitVec (w + 1)} (hpoly : poly.getLsbD w = true) :
    Function.Injective (crcShift poly) := by
  intro a b hab
  rw [← BitVec.xor_eq_zero_iff]
  have hzero : crcShift poly (a ^^^ b) = 0#(w + 1) := by rw [crcShift_xor, hab, BitVec.xor_self]
  generalize a ^^^ b = c at hzero
  rw [crcShift] at hzero
  cases hlow : c.getLsbD 0 with
  | true =>
    rw [hlow, if_pos rfl] at hzero
    have htop := congrArg (BitVec.getLsbD · w) hzero
    rw [BitVec.getLsbD_xor, hpoly, BitVec.getLsbD_ushiftRight,
      BitVec.getLsbD_of_ge c (1 + w) (by omega), BitVec.getLsbD_zero] at htop
    cases htop
  | false =>
    rw [hlow, if_neg Bool.false_ne_true, BitVec.xor_zero] at hzero
    refine BitVec.eq_of_getLsbD_eq fun i _ => ?_
    cases i with
    | zero => rw [hlow, BitVec.getLsbD_zero]
    | succ i => simpa [Nat.add_comm] using congrArg (BitVec.getLsbD · i) hzero

end Trpc.Lib
