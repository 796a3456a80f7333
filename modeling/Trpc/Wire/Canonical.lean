import Trpc.Wire.Header

/-!
# The wire header is canonical

The other direction of the header codec of `wire.c`.  `headerBytes_decode` puts
the 40 bytes of a header together again from the fields that were read.
`FrameHeader.Accepted` states in plain values which headers a receiver takes;
the checks of the code amount to the magic, the checksum and this predicate
(`wireHeaderValidate_eq_ok`).
-/

namespace Trpc

/-! ## Writing a decoded header back -/

variable {raw : List UInt8} {header : FrameHeader}

/-- The fields of a header determine all its bytes behind the magic. -/
theorem headerBytes_decode (hlen : raw.length = wireHeaderSize) :
    headerBytes (wireHeaderDecode raw) (wireHeaderDecode raw).headerCrc32c =
      magic ++ raw.drop 4 := by
  have hrest (n : Nat) : (raw.drop n).length = 40 - n := by
    rw [List.length_drop, hlen]
    rfl
  have hlast : (raw.drop 36).take 4 = raw.drop 36 :=
    List.take_of_length_le (by simp [hrest])
  unfold headerBytes wireHeaderDecode
  rw [putLe16_getLe16, putLe16_getLe16, putLe32_getLe32, putLe32_getLe32, putLe64_getLe64,
    putLe32_getLe32, putLe32_getLe32, putLe32_getLe32, putLe32_getLe32, hlast,
    field_append raw 32 4, field_append raw 28 4, field_append raw 24 4, field_append raw 16 8,
    field_append raw 12 4, field_append raw 8 4, field_append raw 6 2, field_append raw 4 2]
  all_goals simp [hrest]

/-- A header with the right magic is its fields written back. -/
theorem headerBytes_decode_eq (hlen : raw.length = wireHeaderSize) (hmagic : raw.take 4 = magic) :
    headerBytes (wireHeaderDecode raw) (wireHeaderDecode raw).headerCrc32c = raw := by
  rw [headerBytes_decode hlen, ← hmagic, List.take_append_drop]

/-- The checksum of a header with the right magic is the one the encoder
computes for its fields. -/
theorem wireHeaderEncode_decode (hlen : raw.length = wireHeaderSize) (hmagic : raw.take 4 = magic)
    (hcrc : headerCrc raw = (wireHeaderDecode raw).headerCrc32c) :
    wireHeaderEncode (wireHeaderDecode raw) = raw := by
  have hbytes := headerBytes_decode_eq hlen hmagic
  have hzero : headerCrc (headerBytes (wireHeaderDecode raw) 0) = headerCrc raw := by
    rw [← headerCrc_headerBytes _ (wireHeaderDecode raw).headerCrc32c, hbytes]
  rw [wireHeaderEncode, hzero, hcrc, hbytes]

/-! ## The accepted headers -/

/-- A chain of checks that ends well took the last branch of the first one. -/
private theorem ite_eq_ok {p : Prop} [Decidable p] {bad rest : Status}
    (h : (if p then bad else rest) = .ok) (hbad : bad ≠ .ok) : ¬ p ∧ rest = .ok := by
  by_cases hp : p
  · rw [if_pos hp] at h
    exact absurd h hbad
  · rw [if_neg hp] at h
    exact ⟨hp, h⟩

/-- What RESET and REFUSED may carry: no flag, no payload, a stream and a
reason.  The reason is the negated status; a refusal has one reason only. -/
structure FrameHeader.ResetAccepted (header : FrameHeader) : Prop where
  flags : header.flags = 0
  payloadLen : header.payloadLen = 0
  streamId : header.streamId ≠ 0
  reason : header.messageId ∈ ([13, 16, 2, 11, 12] : List UInt64)
  refused : header.type = FrameType.streamRefused.code → header.messageId = 2

/-- The headers that a receiver takes under a payload limit, by their values. -/
structure FrameHeader.Accepted (maxPayloadLen : UInt32) (header : FrameHeader) :
    Prop where
  version : header.version = 1
  type : ∃ type : FrameType, header.type = type.code
  flags : header.flags.toNat < 8
  reserved : header.reserved = 0
  payloadLen : header.payloadLen ≤ if maxPayloadLen = 0 then 1024 * 1024 else maxPayloadLen
  reset : header.type = FrameType.streamReset.code ∨
      header.type = FrameType.streamRefused.code → header.ResetAccepted

theorem FrameType.code_of_ofCode {code : UInt16} {type : FrameType}
    (h : FrameType.ofCode code = some type) : code = type.code := by
  unfold FrameType.ofCode at h
  split at h <;> cases h <;> rfl

theorem frameTypeValid_iff {code : UInt16} :
    frameTypeValid code = true ↔ ∃ type : FrameType, code = type.code := by
  rw [frameTypeValid, Option.isSome_iff_exists]
  constructor
  · rintro ⟨type, htype⟩
    exact ⟨type, FrameType.code_of_ofCode htype⟩
  · rintro ⟨type, rfl⟩
    exact ⟨type, FrameType.ofCode_code type⟩

/-- No unknown flag is set exactly if the flags are below the first unknown
one: the known flags are the three lowest bits. -/
theorem flags_known_iff {flags : UInt32} :
    flags &&& ~~~frameFKnownMask = 0 ↔ flags.toNat < 8 := by
  have hlow : (flags &&& frameFKnownMask).toNat = flags.toNat % 8 := by
    rw [UInt32.toNat_and]
    exact Nat.and_two_pow_sub_one_eq_mod _ 3
  constructor
  · intro h
    have hsplit : flags = flags &&& frameFKnownMask := by
      calc flags = flags &&& (frameFKnownMask ||| ~~~frameFKnownMask) := by
            rw [show frameFKnownMask ||| ~~~frameFKnownMask = -1 by decide]
            simp
        _ = flags &&& frameFKnownMask := by
            apply UInt32.toNat.inj
            rw [UInt32.toNat_and, UInt32.toNat_or, Nat.and_or_distrib_left,
              ← UInt32.toNat_and, ← UInt32.toNat_and, h]
            simp
    rw [hsplit, hlow]
    exact Nat.mod_lt _ (by decide)
  · intro h
    have hsplit : flags = flags &&& frameFKnownMask := by
      apply UInt32.toNat.inj
      rw [hlow, Nat.mod_eq_of_lt h]
    rw [hsplit, UInt32.and_assoc]
    rw [show frameFKnownMask &&& ~~~frameFKnownMask = 0 by decide, UInt32.and_zero]

theorem wireStreamResetStatusValid_iff {id : UInt64} (h : id.toNat ≤ 2 ^ 31 - 1) :
    wireStreamResetStatusValid (-(id.toNat : Int)) = true ↔
      id ∈ ([13, 16, 2, 11, 12] : List UInt64) := by
  simp only [wireStreamResetStatusValid, Status.code, Bool.or_eq_true, beq_iff_eq,
    List.mem_cons, List.not_mem_nil, or_false, ← UInt64.toNat_inj]
  simp only [UInt64.reduceToNat]
  omega

theorem wireResetValidate_eq_ok :
    wireResetValidate header = .ok ↔ header.ResetAccepted := by
  unfold wireResetValidate
  constructor
  · intro h
    obtain ⟨hflags, h⟩ := ite_eq_ok h nofun
    obtain ⟨hlen, h⟩ := ite_eq_ok h nofun
    obtain ⟨hreason, h⟩ := ite_eq_ok h nofun
    obtain ⟨hrefused, -⟩ := ite_eq_ok h nofun
    simp only [not_or, not_lt, Bool.not_eq_true] at hreason
    refine ⟨not_not.mp hflags, not_not.mp hlen, hreason.1,
      (wireStreamResetStatusValid_iff hreason.2.1).mp (by simpa using hreason.2.2),
      fun htype => ?_⟩
    have hid : (header.messageId.toNat : Int) = 2 := by
      by_contra hne
      exact hrefused ⟨htype, hne⟩
    apply UInt64.toNat.inj
    exact_mod_cast hid
  · intro h
    have hle : header.messageId.toNat ≤ 2 ^ 31 - 1 := by
      have hreason := h.reason
      simp only [List.mem_cons, List.not_mem_nil, or_false] at hreason
      rcases hreason with hid | hid | hid | hid | hid <;> rw [hid] <;> decide
    rw [if_neg (not_not.mpr h.flags), if_neg (not_not.mpr h.payloadLen), if_neg, if_neg]
    · rintro ⟨htype, hne⟩
      rw [h.refused htype] at hne
      exact hne rfl
    · rintro (hid | hid | hid)
      · exact h.streamId hid
      · omega
      · exact hid ((wireStreamResetStatusValid_iff hle).mpr h.reason)

/-- The checks of the code, as one statement: the magic, the checksum and the
values of the fields. -/
theorem wireHeaderValidate_eq_ok {maxPayloadLen : UInt32} :
    wireHeaderValidate raw header maxPayloadLen = .ok ↔
      raw.take 4 = magic ∧ headerCrc raw = header.headerCrc32c ∧ header.Accepted maxPayloadLen := by
  have hlimit : (if maxPayloadLen = 0 then 1024 * 1024 else maxPayloadLen) =
      wireMaxPayload maxPayloadLen := by
    unfold wireMaxPayload wireDefaultMaxPayload
    split <;> simp_all
  unfold wireHeaderValidate
  constructor
  · intro h
    obtain ⟨hmagic, h⟩ := ite_eq_ok h nofun
    obtain ⟨hcrc, h⟩ := ite_eq_ok h nofun
    obtain ⟨hversion, h⟩ := ite_eq_ok h nofun
    obtain ⟨htype, h⟩ := ite_eq_ok h nofun
    obtain ⟨hflags, h⟩ := ite_eq_ok h nofun
    obtain ⟨hreserved, h⟩ := ite_eq_ok h nofun
    obtain ⟨hlen, h⟩ := ite_eq_ok h nofun
    refine ⟨not_not.mp hmagic, not_not.mp hcrc, not_not.mp hversion,
      frameTypeValid_iff.mp (not_not.mp htype), flags_known_iff.mp (not_not.mp hflags),
      not_not.mp hreserved, ?_, fun hkind => ?_⟩
    · rw [hlimit]
      exact UInt32.not_lt.mp hlen
    · rw [if_pos hkind] at h
      exact wireResetValidate_eq_ok.mp h
  · rintro ⟨hmagic, hcrc, h⟩
    have hlen := h.payloadLen
    rw [hlimit] at hlen
    have hversion : header.version = wireEnvVersion := h.version
    rw [if_neg (not_not.mpr hmagic), if_neg (not_not.mpr hcrc), if_neg (not_not.mpr hversion),
      if_neg (not_not.mpr (frameTypeValid_iff.mpr h.type)),
      if_neg (not_not.mpr (flags_known_iff.mpr h.flags)),
      if_neg (not_not.mpr h.reserved), if_neg (UInt32.not_lt.mpr hlen)]
    split
    next hkind =>
      exact wireResetValidate_eq_ok.mpr (h.reset hkind)
    · rfl

/-- The checksum field takes no part in what is accepted. -/
theorem FrameHeader.Accepted.withCrc {maxPayloadLen : UInt32}
    (h : header.Accepted maxPayloadLen) (crc : UInt32) :
    ({ header with headerCrc32c := crc } : FrameHeader).Accepted maxPayloadLen :=
  ⟨h.version, h.type, h.flags, h.reserved, h.payloadLen, fun hkind =>
    have hreset := h.reset hkind
    ⟨hreset.flags, hreset.payloadLen, hreset.streamId, hreset.reason, hreset.refused⟩⟩

/-- The header codec is a bijection between accepted headers and accepted byte
strings: decoding undoes encoding for all field values, encoding undoes decoding
on every 40-byte string that validates, and the strings that validate are the
encodings of the accepted headers. -/
theorem wire_header_codec : (∀ header : FrameHeader, wireHeaderDecode (wireHeaderEncode header) =
      { header with headerCrc32c := headerCrc (wireHeaderEncode header) }) ∧
    (∀ (raw : List UInt8) (maxPayloadLen : UInt32), raw.length = wireHeaderSize →
      wireHeaderValidate raw (wireHeaderDecode raw) maxPayloadLen = .ok →
      wireHeaderEncode (wireHeaderDecode raw) = raw) ∧
    (∀ (raw : List UInt8) (maxPayloadLen : UInt32), raw.length = wireHeaderSize ∧
        wireHeaderValidate raw (wireHeaderDecode raw) maxPayloadLen = .ok ↔
      ∃ header : FrameHeader, header.Accepted maxPayloadLen ∧ raw = wireHeaderEncode header) := by
  refine ⟨wireHeaderDecode_encode, fun raw limit hlen hvalid => ?_, fun raw limit => ⟨?_, ?_⟩⟩
  · obtain ⟨hmagic, hcrc, -⟩ := wireHeaderValidate_eq_ok.mp hvalid
    exact wireHeaderEncode_decode hlen hmagic hcrc
  · rintro ⟨hlen, hvalid⟩
    obtain ⟨hmagic, hcrc, haccepted⟩ := wireHeaderValidate_eq_ok.mp hvalid
    exact ⟨wireHeaderDecode raw, haccepted, (wireHeaderEncode_decode hlen hmagic hcrc).symm⟩
  · rintro ⟨header, haccepted, rfl⟩
    refine ⟨wireHeaderEncode_length header, wireHeaderValidate_eq_ok.mpr ?_⟩
    rw [wireHeaderDecode_encode]
    exact ⟨wireHeaderEncode_take header, rfl, haccepted.withCrc _⟩

/-- The bytes of a REFUSED of stream 5 validate and are written back. -/
theorem wire_header_codec_refused : let header : FrameHeader :=
      { version := 1, type := 15, flags := 0, streamId := 5, messageId := 2,
        payloadLen := 0, payloadCrc32c := 0, headerCrc32c := 0, reserved := 0 }
    let raw := wireHeaderEncode header
    wireHeaderValidate raw (wireHeaderDecode raw) 0 = .ok ∧
      wireHeaderEncode (wireHeaderDecode raw) = raw := by
  have hvalid : wireHeaderValidate (wireHeaderEncode ⟨1, 15, 0, 5, 2, 0, 0, 0, 0⟩)
      (wireHeaderDecode (wireHeaderEncode ⟨1, 15, 0, 5, 2, 0, 0, 0, 0⟩)) 0 = .ok := by
    decide +kernel
  exact ⟨hvalid, wire_header_codec.2.1 _ 0 rfl hvalid⟩

end Trpc
