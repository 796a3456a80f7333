import Trpc.Lib.ReflectedCrc
import Trpc.Reactor.TxItem

/-!
# The ways to compute a checksum

`crc32c.c` has a portable update, which looks a byte up in a table, and one for
SSE4.2, which feeds eight bytes at a time to the processor and picks up the rest
with the smaller instructions.  `reactor.c` walks the slices of a message.  All
of them are the bitwise CRC with the polynomial `0x82f63b78`
(`crc32c_equivalence`).
-/

namespace Trpc

open Lib

/-! ## Bit by bit -/

/-- The reflected Castagnoli polynomial. -/
def crc32cPolynomial : UInt32 := 0x82f63b78

/-- One bit, as the comment of the table has it. -/
def crc32cShift (c : UInt32) : UInt32 :=
  (c >>> 1) ^^^ (if c &&& 1 = 1 then crc32cPolynomial else 0)

/-- One byte: its bits are added to the low end of the state. -/
def crc32cByte (state : UInt32) (byte : UInt8) : UInt32 :=
  crc32cShift^[8] (state ^^^ byte.toUInt32)

/-- A byte string, bit by bit. -/
def crc32cBitwise (state : UInt32) (data : List UInt8) : UInt32 :=
  data.foldl crc32cByte state

theorem crc32cShift_toBitVec (c : UInt32) :
    (crc32cShift c).toBitVec = crcShift crc32cPolynomial.toBitVec c.toBitVec := by
  have hbit : (c &&& 1 = 1) ↔ c.toBitVec.getLsbD 0 = true := by
    rw [← UInt32.toBitVec_inj, UInt32.toBitVec_and]
    have hand : c.toBitVec &&& (1 : UInt32).toBitVec =
        BitVec.setWidth 32 (BitVec.ofBool (c.toBitVec.getLsbD 0)) :=
      BitVec.and_one_eq_setWidth_ofBool_getLsbD
    rw [hand]
    cases c.toBitVec.getLsbD 0 <;> decide
  unfold crc32cShift crcShift
  by_cases hlow : c &&& 1 = 1
  · rw [if_pos hlow, if_pos (hbit.1 hlow)]
    simp
  · rw [if_neg hlow, if_neg (mt hbit.2 hlow)]
    simp

theorem crc32cByte_toBitVec (state : UInt32) (byte : UInt8) : (crc32cByte state byte).toBitVec =
      crcShifts crc32cPolynomial.toBitVec 8 (state.toBitVec ^^^ byte.toBitVec.setWidth 32) := by
  have hiterate : ∀ (k : Nat) (c : UInt32), (crc32cShift^[k] c).toBitVec =
      crcShifts crc32cPolynomial.toBitVec k c.toBitVec := by
    intro k c
    induction k with
    | zero => simp
    | succ k ih => rw [Function.iterate_succ_apply', crc32cShift_toBitVec, ih, crcShifts_succ]
  rw [crc32cByte, hiterate]
  simp

/-- The table holds the eight steps of every byte. -/
theorem crc32cTable_eq (i : Fin 256) : (crc32cTable.getD i 0).toBitVec =
    crcShifts crc32cPolynomial.toBitVec 8 (BitVec.ofNat 32 i) := by
  revert i
  decide +kernel

/-- A lookup is eight steps. -/
theorem crc32cStep_eq (state : UInt32) (byte : UInt8) :
    crc32cStep state byte = crc32cByte state byte := by
  apply UInt32.toBitVec_inj.1
  have hbyte : (byte.toBitVec.setWidth 32) >>> 8 = 0#32 := by
    ext i hi
    simp
  have hlow : ((state ^^^ byte.toUInt32) &&& 0xff).toNat =
      ((state.toBitVec ^^^ byte.toBitVec.setWidth 32).setWidth 8).toNat := by
    rw [UInt32.toNat_and, BitVec.toNat_setWidth]
    exact Nat.and_two_pow_sub_one_eq_mod _ 8
  have hindex := ((state.toBitVec ^^^ byte.toBitVec.setWidth 32).setWidth 8).isLt
  have htable := crc32cTable_eq ⟨_, hindex⟩
  rw [BitVec.ofNat_toNat] at htable
  have hmoved : (state >>> 8).toBitVec = state.toBitVec >>> 8 := by simp
  rw [crc32cByte_toBitVec, crcShifts_split, BitVec.ushiftRight_xor_distrib, hbyte,
    BitVec.xor_zero, BitVec.xor_comm, crc32cStep, hlow, UInt32.toBitVec_xor, htable, hmoved]

theorem crc32cUpdate_eq_bitwise (state : UInt32) (data : List UInt8) :
    crc32cUpdate state data = crc32cBitwise state data := by
  have hstep : crc32cStep = crc32cByte := by
    funext state byte
    exact crc32cStep_eq state byte
  rw [crc32cUpdate, crc32cBitwise, hstep]

/-! ## Eight bytes at a time -/

/-- The CRC32 instructions of SSE4.2: each is as many steps as its operand has
bytes, the least significant one first. -/
structure Sse42 where
  u8 : UInt32 → UInt8 → UInt32
  u16 : UInt32 → UInt16 → UInt32
  u32 : UInt32 → UInt32 → UInt32
  u64 : UInt32 → UInt64 → UInt32
  u8_eq : ∀ state word, u8 state word = crc32cBitwise state [word]
  u16_eq : ∀ state word, u16 state word = crc32cBitwise state (putLe16 word)
  u32_eq : ∀ state word, u32 state word = crc32cBitwise state (putLe32 word)
  u64_eq : ∀ state word, u64 state word = crc32cBitwise state (putLe64 word)

/-- The loop of `tr_crc32c_update_sse42` over whole words: the state and the
bytes that are left. -/
def sse42Words (hw : Sse42) (state : UInt32) (data : List UInt8) : UInt32 × List UInt8 :=
  if _h : 8 ≤ data.length then sse42Words hw (hw.u64 state (getLe64 data)) (data.drop 8)
  else (state, data)
termination_by data.length
decreasing_by simp; omega

/-- `tr_crc32c_update_sse42`. -/
def crc32cUpdateSse42 (hw : Sse42) (state : UInt32) (data : List UInt8) : UInt32 :=
  let (state, data) := sse42Words hw state data
  let (state, data) :=
    if 4 ≤ data.length then (hw.u32 state (getLe32 data), data.drop 4) else (state, data)
  let (state, data) :=
    if 2 ≤ data.length then (hw.u16 state (getLe16 data), data.drop 2) else (state, data)
  match data with
  | [] => state
  | byte :: _ => hw.u8 state byte

/-- `tr_crc32c_update` on a machine that has the instructions or not. -/
def crc32cUpdateBackend (hw : Option Sse42) (state : UInt32) (data : List UInt8) : UInt32 :=
  if data = [] then state
  else
    match hw with
    | some hw => crc32cUpdateSse42 hw state data
    | none => crc32cUpdate state data

theorem bitwise_append (state : UInt32) (xs ys : List UInt8) :
    crc32cBitwise state (xs ++ ys) = crc32cBitwise (crc32cBitwise state xs) ys :=
  List.foldl_append

/-- A word takes its bytes off the front. -/
theorem bitwise_word {state : UInt32} {data word : List UInt8} {k : Nat}
    (hword : word = data.take k) :
    crc32cBitwise (crc32cBitwise state word) (data.drop k) = crc32cBitwise state data := by
  rw [← bitwise_append, hword, List.take_append_drop]

theorem sse42Words_spec (hw : Sse42) (state : UInt32) (data : List UInt8) :
    (sse42Words hw state data).2.length < 8 ∧
      crc32cBitwise (sse42Words hw state data).1 (sse42Words hw state data).2 =
        crc32cBitwise state data := by
  induction state, data using sse42Words.induct hw with
  | case1 state data hlen ih =>
    rw [sse42Words, dif_pos hlen]
    refine ⟨ih.1, ?_⟩
    rw [ih.2, hw.u64_eq]
    exact bitwise_word (putLe64_getLe64 hlen)
  | case2 state data hshort =>
    rw [sse42Words, dif_neg hshort]
    exact ⟨Nat.lt_of_not_le hshort, rfl⟩

/-- The SSE4.2 update is the bitwise one. -/
theorem crc32cUpdateSse42_eq (hw : Sse42) (state : UInt32) (data : List UInt8) :
    crc32cUpdateSse42 hw state data = crc32cBitwise state data := by
  obtain ⟨hlen, hwords⟩ := sse42Words_spec hw state data
  rw [crc32cUpdateSse42, ← hwords]
  generalize sse42Words hw state data = rest at hlen ⊢
  obtain ⟨state, data⟩ := rest
  dsimp only at hlen ⊢
  -- what is left has fewer than eight bytes: four, two and one of them
  have hfour : ∃ state' data', (if 4 ≤ data.length then (hw.u32 state (getLe32 data), data.drop 4)
      else (state, data)) = (state', data') ∧ data'.length < 4 ∧
      crc32cBitwise state' data' = crc32cBitwise state data := by
    by_cases h : 4 ≤ data.length
    · refine ⟨_, _, if_pos h, ?_, ?_⟩
      · rw [List.length_drop]
        omega
      · rw [hw.u32_eq]
        exact bitwise_word (putLe32_getLe32 h)
    · exact ⟨_, _, if_neg h, by omega, rfl⟩
  obtain ⟨state', data', hif, hlen', heq'⟩ := hfour
  rw [hif, ← heq']
  have htwo : ∃ state'' data'', (if 2 ≤ data'.length then
      (hw.u16 state' (getLe16 data'), data'.drop 2) else (state', data')) = (state'', data'') ∧
      data''.length < 2 ∧ crc32cBitwise state'' data'' = crc32cBitwise state' data' := by
    by_cases h : 2 ≤ data'.length
    · refine ⟨_, _, if_pos h, ?_, ?_⟩
      · rw [List.length_drop]
        omega
      · rw [hw.u16_eq]
        exact bitwise_word (putLe16_getLe16 h)
    · exact ⟨_, _, if_neg h, by omega, rfl⟩
  obtain ⟨state'', data'', hif', hlen'', heq''⟩ := htwo
  dsimp only
  rw [hif', ← heq'']
  match data'', hlen'' with
  | [], _ => rfl
  | [byte], _ => exact hw.u8_eq state'' byte

theorem crc32cUpdateBackend_eq (hw : Option Sse42) (state : UInt32) (data : List UInt8) :
    crc32cUpdateBackend hw state data = crc32cUpdate state data := by
  unfold crc32cUpdateBackend
  split
  next hempty => rw [hempty, crc32cUpdate_nil]
  next =>
    cases hw with
    | none => rfl
    | some hw =>
      show crc32cUpdateSse42 hw state data = crc32cUpdate state data
      rw [crc32cUpdateSse42_eq, crc32cUpdate_eq_bitwise]

/-! ## All of them -/

/-- Every way to compute a checksum gives the bitwise CRC: from the table, with the
instructions, piece by piece, and over a range of the slices of a message. -/
theorem crc32c_equivalence :
    (∀ state (data : List UInt8), crc32cUpdate state data = crc32cBitwise state data) ∧
      (∀ hw state (data : List UInt8),
        crc32cUpdateBackend hw state data = crc32cUpdate state data) ∧
      (∀ hw state (data : List UInt8), crc32cUpdateSse42 hw state data = crc32cUpdate state data) ∧
      (∀ state (pieces : List (List UInt8)),
        pieces.foldl crc32cUpdate state = crc32cUpdate state pieces.flatten) ∧
      (∀ pieces : List (List UInt8),
        crc32cFinish (pieces.foldl crc32cUpdate crc32cBegin) = crc32c pieces.flatten) ∧
      (∀ (payloads : List (List UInt8)) (start len : Nat), start + len ≤ payloads.flatten.length →
        txCrcLoop payloads start len crc32cBegin =
          crc32c ((payloads.flatten.drop start).take len)) ∧
      ∀ (request : TxRequest) (start len : Nat), start + len ≤ request.messageLen →
        txCrcRange request start len = crc32c ((request.payloads.flatten.drop start).take len) := by
  have hpieces : ∀ state (pieces : List (List UInt8)),
      pieces.foldl crc32cUpdate state = crc32cUpdate state pieces.flatten := by
    intro state pieces
    induction pieces generalizing state with
    | nil => simp
    | cons piece rest ih =>
      rw [List.foldl_cons, ih, List.flatten_cons, crc32cUpdate_append]
  have hslices : ∀ (payloads : List (List UInt8)) (start len : Nat),
      start + len ≤ payloads.flatten.length →
      txCrcLoop payloads start len crc32cBegin =
        crc32c ((payloads.flatten.drop start).take len) := by
    intro payloads start len hrange
    rw [txCrcLoop_eq _ hrange, crc32c, Lib.range]
  refine ⟨crc32cUpdate_eq_bitwise, crc32cUpdateBackend_eq, ?_, hpieces, ?_, hslices, ?_⟩
  · intro hw state data
    rw [crc32cUpdateSse42_eq, crc32cUpdate_eq_bitwise]
  · intro pieces
    rw [hpieces, crc32c]
  · intro request start len hrange
    exact hslices request.payloads start len hrange

/-- Instructions as the processor documents them. -/
def documentedSse42 : Sse42 where
  u8 state word := crc32cBitwise state [word]
  u16 state word := crc32cBitwise state (putLe16 word)
  u32 state word := crc32cBitwise state (putLe32 word)
  u64 state word := crc32cBitwise state (putLe64 word)
  u8_eq _ _ := rfl
  u16_eq _ _ := rfl
  u32_eq _ _ := rfl
  u64_eq _ _ := rfl

/-- The checksum of fifteen bytes, by one instruction of each width, and that of three bytes in
two slices. -/
theorem crc32c_equivalence_slices :
    crc32cFinish (crc32cUpdateSse42 documentedSse42 crc32cBegin
      [1, 2, 3, 4, 5, 6, 7, 8, 9, 10, 11, 12, 13, 14, 15]) = 0xc8b74611 ∧
    txCrcLoop [[1, 2], [3, 4, 5]] 1 3 crc32cBegin = crc32c [2, 3, 4] := by
  obtain ⟨-, -, hhardware, -, -, hslices, -⟩ := crc32c_equivalence
  refine ⟨?_, hslices [[1, 2], [3, 4, 5]] 1 3 (by decide)⟩
  rw [hhardware]
  decide +kernel

end Trpc
