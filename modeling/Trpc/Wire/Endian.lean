import Trpc.Lib.LittleEndian

/-!
# Little-endian accessors

The accessors of `endian.h`.  A pointer into a buffer is the tail of the byte
list that starts there, so `getLe16 (raw.drop 4)` is `tr_get_le16(raw + 4)`.
A read past the end of the list answers `0`; the callers read whole headers
only.

The round trips are those of `Lib.leBytes` and `Lib.ofLe`.
-/

namespace Trpc

/-- `tr_get_le16`. -/
def getLe16 : List UInt8 → UInt16
  | p0 :: p1 :: _ => p0.toUInt16 ||| p1.toUInt16 <<< 8
  | _ => 0

/-- `tr_get_le32`. -/
def getLe32 : List UInt8 → UInt32
  | p0 :: p1 :: p2 :: p3 :: _ =>
    p0.toUInt32 ||| p1.toUInt32 <<< 8 ||| p2.toUInt32 <<< 16 ||| p3.toUInt32 <<< 24
  | _ => 0

/-- `tr_get_le64`. -/
def getLe64 : List UInt8 → UInt64
  | p0 :: p1 :: p2 :: p3 :: p4 :: p5 :: p6 :: p7 :: _ =>
    p0.toUInt64 ||| p1.toUInt64 <<< 8 ||| p2.toUInt64 <<< 16 |||
      p3.toUInt64 <<< 24 ||| p4.toUInt64 <<< 32 ||| p5.toUInt64 <<< 40 |||
      p6.toUInt64 <<< 48 ||| p7.toUInt64 <<< 56
  | _ => 0

/-- `tr_put_le16`. -/
def putLe16 (v : UInt16) : List UInt8 :=
  [v.toUInt8, (v >>> 8).toUInt8]

/-- `tr_put_le32`. -/
def putLe32 (v : UInt32) : List UInt8 :=
  [v.toUInt8, (v >>> 8).toUInt8, (v >>> 16).toUInt8, (v >>> 24).toUInt8]

/-- `tr_put_le64`. -/
def putLe64 (v : UInt64) : List UInt8 :=
  [v.toUInt8, (v >>> 8).toUInt8, (v >>> 16).toUInt8, (v >>> 24).toUInt8,
    (v >>> 32).toUInt8, (v >>> 40).toUInt8, (v >>> 48).toUInt8,
    (v >>> 56).toUInt8]

@[simp] theorem putLe16_length (v : UInt16) : (putLe16 v).length = 2 := rfl

/-! ## The accessors as numbers -/

theorem putLe16_eq (v : UInt16) : putLe16 v = Lib.leBytes 2 v.toNat := by
  simp only [putLe16, Lib.leBytes, List.cons.injEq, and_true]
  refine ⟨?_, ?_⟩ <;>
    · apply UInt8.toNat.inj
      simp [Nat.shiftRight_eq_div_pow]

theorem putLe32_eq (v : UInt32) : putLe32 v = Lib.leBytes 4 v.toNat := by
  simp only [putLe32, Lib.leBytes, List.cons.injEq, and_true]
  refine ⟨?_, ?_, ?_, ?_⟩ <;>
    · apply UInt8.toNat.inj
      simp [Nat.shiftRight_eq_div_pow, Nat.div_div_eq_div_mul]

theorem putLe64_eq (v : UInt64) : putLe64 v = Lib.leBytes 8 v.toNat := by
  simp only [putLe64, Lib.leBytes, List.cons.injEq, and_true]
  refine ⟨?_, ?_, ?_, ?_, ?_, ?_, ?_, ?_⟩ <;>
    · apply UInt8.toNat.inj
      simp [Nat.shiftRight_eq_div_pow, Nat.div_div_eq_div_mul]

theorem getLe16_toNat (p0 p1 : UInt8) (rest : List UInt8) :
    (getLe16 (p0 :: p1 :: rest)).toNat = Lib.ofLe [p0, p1] := by
  have h0 := p0.toNat_lt
  have h1 := p1.toNat_lt
  simp only [getLe16, UInt16.toNat_or, UInt16.toNat_shiftLeft,
    UInt8.toNat_toUInt16, UInt16.reduceToNat, Nat.reduceMod]
  rw [Nat.mod_eq_of_lt (by rw [Nat.shiftLeft_eq]; omega), Lib.or_shiftLeft_eq_add _ (by omega)]
  simp only [Lib.ofLe]
  omega

theorem getLe32_toNat (p0 p1 p2 p3 : UInt8) (rest : List UInt8) :
    (getLe32 (p0 :: p1 :: p2 :: p3 :: rest)).toNat = Lib.ofLe [p0, p1, p2, p3] := by
  have h0 := p0.toNat_lt
  have h1 := p1.toNat_lt
  have h2 := p2.toNat_lt
  have h3 := p3.toNat_lt
  simp only [getLe32, UInt32.toNat_or, UInt32.toNat_shiftLeft,
    UInt8.toNat_toUInt32, UInt32.reduceToNat, Nat.reduceMod]
  simp (disch := (rw [Nat.shiftLeft_eq]; omega)) only [Nat.mod_eq_of_lt]
  simp (disch := omega) only [Lib.or_shiftLeft_eq_add]
  simp only [Lib.ofLe]
  omega

theorem getLe64_toNat (p0 p1 p2 p3 p4 p5 p6 p7 : UInt8) (rest : List UInt8) :
    (getLe64 (p0 :: p1 :: p2 :: p3 :: p4 :: p5 :: p6 :: p7 :: rest)).toNat =
      Lib.ofLe [p0, p1, p2, p3, p4, p5, p6, p7] := by
  have h0 := p0.toNat_lt
  have h1 := p1.toNat_lt
  have h2 := p2.toNat_lt
  have h3 := p3.toNat_lt
  have h4 := p4.toNat_lt
  have h5 := p5.toNat_lt
  have h6 := p6.toNat_lt
  have h7 := p7.toNat_lt
  simp only [getLe64, UInt64.toNat_or, UInt64.toNat_shiftLeft,
    UInt8.toNat_toUInt64, UInt64.reduceToNat, Nat.reduceMod]
  simp (disch := (rw [Nat.shiftLeft_eq]; omega)) only [Nat.mod_eq_of_lt]
  simp (disch := omega) only [Lib.or_shiftLeft_eq_add]
  simp only [Lib.ofLe]
  omega

/-! ## Round trips -/

@[simp] theorem getLe16_putLe16 (v : UInt16) (rest : List UInt8) :
    getLe16 (putLe16 v ++ rest) = v := by
  apply UInt16.toNat.inj
  calc (getLe16 (putLe16 v ++ rest)).toNat = Lib.ofLe (putLe16 v) := getLe16_toNat _ _ rest
    _ = v.toNat := by
      rw [putLe16_eq, Lib.ofLe_leBytes]
      exact Nat.mod_eq_of_lt v.toNat_lt

@[simp] theorem getLe32_putLe32 (v : UInt32) (rest : List UInt8) :
    getLe32 (putLe32 v ++ rest) = v := by
  apply UInt32.toNat.inj
  calc (getLe32 (putLe32 v ++ rest)).toNat = Lib.ofLe (putLe32 v) := getLe32_toNat _ _ _ _ rest
    _ = v.toNat := by
      rw [putLe32_eq, Lib.ofLe_leBytes]
      exact Nat.mod_eq_of_lt v.toNat_lt

@[simp] theorem getLe64_putLe64 (v : UInt64) (rest : List UInt8) :
    getLe64 (putLe64 v ++ rest) = v := by
  apply UInt64.toNat.inj
  calc (getLe64 (putLe64 v ++ rest)).toNat
      = Lib.ofLe (putLe64 v) := getLe64_toNat _ _ _ _ _ _ _ _ rest
    _ = v.toNat := by
      rw [putLe64_eq, Lib.ofLe_leBytes]
      exact Nat.mod_eq_of_lt v.toNat_lt

/-! ## Reading from a longer buffer -/

variable {p : List UInt8} {data : List UInt8}

theorem getLe16_drop_append {n : Nat} (h : n + 2 ≤ data.length) (more : List UInt8) :
    getLe16 ((data ++ more).drop n) = getLe16 (data.drop n) := by
  have hlen : 2 ≤ (data.drop n).length := by
    rw [List.length_drop]
    omega
  rw [List.drop_append_of_le_length (by omega)]
  match data.drop n, hlen with
  | _ :: _ :: _, _ => rfl

theorem getLe32_drop_append {n : Nat} (h : n + 4 ≤ data.length) (more : List UInt8) :
    getLe32 ((data ++ more).drop n) = getLe32 (data.drop n) := by
  have hlen : 4 ≤ (data.drop n).length := by
    rw [List.length_drop]
    omega
  rw [List.drop_append_of_le_length (by omega)]
  match data.drop n, hlen with
  | _ :: _ :: _ :: _ :: _, _ => rfl

theorem getLe64_drop_append {n : Nat} (h : n + 8 ≤ data.length) (more : List UInt8) :
    getLe64 ((data ++ more).drop n) = getLe64 (data.drop n) := by
  have hlen : 8 ≤ (data.drop n).length := by
    rw [List.length_drop]
    omega
  rw [List.drop_append_of_le_length (by omega)]
  match data.drop n, hlen with
  | _ :: _ :: _ :: _ :: _ :: _ :: _ :: _ :: _, _ => rfl

/-! ## Writing back what was read -/

/-- A field of `k` bytes at offset `n` followed by what stands behind it. -/
theorem field_append (raw : List UInt8) (n k : Nat) :
    (raw.drop n).take k ++ raw.drop (n + k) = raw.drop n := by
  rw [← List.drop_drop, List.take_append_drop]

/-- A `k`-byte accessor pair that agrees with the numbers is canonical. -/
private theorem leBytes_of_toNat {k n : Nat} (hlen : k ≤ p.length) (h : n = Lib.ofLe (p.take k)) :
    Lib.leBytes k n = p.take k := by
  have hk : (p.take k).length = k := by
    rw [List.length_take]
    omega
  have hbytes := Lib.leBytes_ofLe (p.take k)
  rwa [hk, ← h] at hbytes

theorem putLe16_getLe16 (h : 2 ≤ p.length) :
    putLe16 (getLe16 p) = p.take 2 := by
  rw [putLe16_eq]
  match p, h with
  | p0 :: p1 :: rest, h => exact leBytes_of_toNat h (getLe16_toNat p0 p1 rest)

theorem putLe32_getLe32 (h : 4 ≤ p.length) :
    putLe32 (getLe32 p) = p.take 4 := by
  rw [putLe32_eq]
  match p, h with
  | p0 :: p1 :: p2 :: p3 :: rest, h =>
    exact leBytes_of_toNat h (getLe32_toNat p0 p1 p2 p3 rest)

theorem putLe64_getLe64 (h : 8 ≤ p.length) :
    putLe64 (getLe64 p) = p.take 8 := by
  rw [putLe64_eq]
  match p, h with
  | p0 :: p1 :: p2 :: p3 :: p4 :: p5 :: p6 :: p7 :: rest, h =>
    exact leBytes_of_toNat h (getLe64_toNat p0 p1 p2 p3 p4 p5 p6 p7 rest)

end Trpc
