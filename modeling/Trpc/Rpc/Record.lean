import Trpc.Status
import Trpc.Wire.Endian
import Trpc.Lib.Checks

/-!
# RPC records

The record codec of `rpc_record.c`: a 48-byte header, followed by the metadata
and the encoded body.

* `rpcRecordValidate` makes the checks of the header under the limits of a
  direction, in the order of the code, and answers the size of the record.
* `rpcRecordEncodeHeader`, `rpcRecordDecodeHeader` and `rpcRecordDecode` are the
  three entry points.  The decoder rejects as soon as the bytes it has show an
  error, and answers `again` while they show nothing.

`size_t` is a parameter: `sizeMax` is `SIZE_MAX`, and the arithmetic of the
record size is taken modulo `sizeMax + 1`.
-/

namespace Trpc

open Lib List

/-- `TR_RPC_RECORD_VERSION`. -/
def rpcRecordVersion : UInt16 := 2

/-- `TR_RPC_RECORD_HEADER_SIZE`. -/
def rpcRecordHeaderSize : Nat := 48

/-- `TR_RPC_METADATA_MAX_BYTES`. -/
def rpcMetadataMaxBytes : UInt32 := 512

/-- `TR_RPC_STATUS_OK`. -/
def rpcStatusOk : UInt32 := 0

/-- `TR_RPC_STATUS_COUNT`. -/
def rpcStatusCount : UInt32 := 17

/-- `enum tr_rpc_record_kind`. -/
inductive RpcRecordKind
  | open
  | initialMetadata
  | message
  | halfClose
  | finalStatus
  deriving DecidableEq, Repr

/-- The number of a record kind. -/
def RpcRecordKind.code : RpcRecordKind → UInt32
  | .open => 1
  | initialMetadata => 2
  | message => 3
  | halfClose => 4
  | finalStatus => 5

/-- `tr_rpc_record_kind_valid`. -/
def rpcRecordKindValid (kind : UInt32) : Bool :=
  RpcRecordKind.open.code ≤ kind ∧ kind ≤ RpcRecordKind.finalStatus.code

/-- `TR_RPC_RECORD_NONE`. -/
def rpcRecordNone : UInt32 := 0

/-- `TR_RPC_RECORD_ZSTD`. -/
def rpcRecordZstd : UInt32 := 1

/-- `TR_RPC_RECORD_ACCEPT_NONE`. -/
def rpcRecordAcceptNone : UInt32 := 1 <<< rpcRecordNone

/-- `TR_RPC_RECORD_ACCEPT_ZSTD`. -/
def rpcRecordAcceptZstd : UInt32 := 1 <<< rpcRecordZstd

/-- `struct tr_rpc_record_header`. -/
structure RpcRecordHeader where
  kind : UInt32
  serviceId : UInt32
  methodId : UInt32
  codecId : UInt32
  compression : UInt32
  encodedSize : UInt32
  decodedSize : UInt32
  metadataSize : UInt32
  status : UInt32
  remainingTimeoutNs : UInt64
  deriving DecidableEq, Repr

/-- `struct tr_rpc_record_limits`. -/
structure RpcRecordLimits where
  maxEncodedSize : UInt32
  maxDecodedSize : UInt32
  maxMetadataSize : UInt32
  acceptedCompression : UInt32
  deriving DecidableEq, Repr

/-- `struct tr_rpc_record_view`.  The pointer of an empty slice is `NULL` in
the code and the empty list here. -/
structure RpcRecordView where
  header : RpcRecordHeader
  metadata : List UInt8
  body : List UInt8
  deriving DecidableEq, Repr

/-- `tr_rpc_record_limits_valid`. -/
def rpcRecordLimitsValid (limits : RpcRecordLimits) : Bool :=
  limits.maxMetadataSize ≤ rpcMetadataMaxBytes ∧
    limits.acceptedCompression &&& rpcRecordAcceptNone ≠ 0 ∧
    limits.acceptedCompression &&& ~~~(rpcRecordAcceptNone ||| rpcRecordAcceptZstd) = 0

/-- The last block of `tr_rpc_record_validate`: what each kind may carry. -/
def rpcRecordKindFields (h : RpcRecordHeader) (limits : RpcRecordLimits)
    (size : Nat) : Except Status Nat :=
  if h.kind ≠ RpcRecordKind.message.code then
    if h.codecId ≠ 0 ∨ h.compression ≠ 0 ∨ h.encodedSize ≠ 0 ∨ h.decodedSize ≠ 0 then
      .error .errBadFlags
    else if h.kind = RpcRecordKind.halfClose.code ∧ h.metadataSize ≠ 0 then
      .error .errBadFlags
    else if h.kind = RpcRecordKind.finalStatus.code ∧ rpcStatusCount ≤ h.status then
      .error .errBadType
    else .ok size
  else if h.metadataSize ≠ 0 then .error .errBadFlags
  else if h.codecId = 0 then .error .errBadType
  else if rpcRecordZstd < h.compression ∨
      limits.acceptedCompression &&& (1 <<< h.compression) = 0 then
    .error .errUnsupported
  else if (h.compression = rpcRecordNone ∧ h.encodedSize ≠ h.decodedSize) ∨
      (h.compression ≠ rpcRecordNone ∧ h.encodedSize = 0) then
    .error .errBadLength
  else .ok size

/-- `tr_rpc_record_validate`; the answer is the size of the whole record. -/
def rpcRecordValidate (sizeMax : Nat) (h : RpcRecordHeader)
    (limits : RpcRecordLimits) : Except Status Nat :=
  if ¬ rpcRecordLimitsValid limits then .error .errInvalid
  else if ¬ rpcRecordKindValid h.kind then .error .errBadType
  else if limits.maxMetadataSize < h.metadataSize ∨ limits.maxEncodedSize < h.encodedSize ∨
      limits.maxDecodedSize < h.decodedSize then
    .error .errBadLength
  else
    let size := (rpcRecordHeaderSize + h.metadataSize.toNat) % (sizeMax + 1)
    if sizeMax - size < h.encodedSize.toNat then .error .errBadLength
    else if h.kind ≠ RpcRecordKind.open.code ∧
        (h.serviceId ≠ 0 ∨ h.methodId ≠ 0 ∨ h.remainingTimeoutNs ≠ 0) then
      .error .errBadFlags
    else if h.kind ≠ RpcRecordKind.finalStatus.code ∧ h.status ≠ 0 then
      .error .errBadFlags
    else
      rpcRecordKindFields h limits ((size + h.encodedSize.toNat) % (sizeMax + 1))

/-- The bytes `TRPC`. -/
def rpcRecordMagic : List UInt8 := [0x54, 0x52, 0x50, 0x43]

/-- The 48 bytes of a header. -/
def rpcRecordHeaderBytes (h : RpcRecordHeader) : List UInt8 :=
  rpcRecordMagic ++ (putLe16 rpcRecordVersion ++ (putLe16 h.kind.toUInt16 ++
    (putLe32 h.serviceId ++ (putLe32 h.methodId ++ (putLe32 h.codecId ++
    (putLe32 h.compression ++ (putLe32 h.encodedSize ++ (putLe32 h.decodedSize ++
    (putLe32 h.metadataSize ++ (putLe32 h.status ++
    putLe64 h.remainingTimeoutNs))))))))))

/-- `tr_rpc_record_encode_header`: what is written to a buffer of the given
capacity. -/
def rpcRecordEncodeHeader (sizeMax capacity : Nat) (h : RpcRecordHeader)
    (limits : RpcRecordLimits) : Except Status (List UInt8) :=
  match rpcRecordValidate sizeMax h limits with
  | .error ret => .error ret
  | .ok _ =>
    if capacity < rpcRecordHeaderSize then .error .errBadLength
    else .ok (rpcRecordHeaderBytes h)

/-- The fields that the decoder reads from a whole header. -/
def rpcRecordFields (data : List UInt8) : RpcRecordHeader where
  kind := (getLe16 (data.drop 6)).toUInt32
  serviceId := getLe32 (data.drop 8)
  methodId := getLe32 (data.drop 12)
  codecId := getLe32 (data.drop 16)
  compression := getLe32 (data.drop 20)
  encodedSize := getLe32 (data.drop 24)
  decodedSize := getLe32 (data.drop 28)
  metadataSize := getLe32 (data.drop 32)
  status := getLe32 (data.drop 36)
  remainingTimeoutNs := getLe64 (data.drop 40)

/-- `tr_rpc_record_decode_header`: the header and the size of its record. -/
def rpcRecordDecodeHeader (sizeMax : Nat) (data : List UInt8)
    (limits : RpcRecordLimits) : Except Status (RpcRecordHeader × Nat) :=
  if ¬ rpcRecordLimitsValid limits then .error .errInvalid
  else if data.length < 4 then .error .again
  else if data.take 4 ≠ rpcRecordMagic then .error .errBadMagic
  else if data.length < 6 then .error .again
  else if getLe16 (data.drop 4) ≠ rpcRecordVersion then .error .errBadVersion
  else if data.length < 8 then .error .again
  else if ¬ rpcRecordKindValid (getLe16 (data.drop 6)).toUInt32 then
    .error .errBadType
  else if data.length < rpcRecordHeaderSize then .error .again
  else
    match rpcRecordValidate sizeMax (rpcRecordFields data) limits with
    | .error ret => .error ret
    | .ok total => .ok (rpcRecordFields data, total)

/-- `tr_rpc_record_decode`: the first record and how many bytes it takes. -/
def rpcRecordDecode (sizeMax : Nat) (data : List UInt8)
    (limits : RpcRecordLimits) : Except Status (RpcRecordView × Nat) :=
  match rpcRecordDecodeHeader sizeMax data limits with
  | .error ret => .error ret
  | .ok (header, total) =>
    if data.length < total then .error .again
    else
      .ok (⟨header, (data.drop rpcRecordHeaderSize).take header.metadataSize.toNat,
        (data.drop (rpcRecordHeaderSize + header.metadataSize.toNat)).take
          header.encodedSize.toNat⟩, total)

/-! ## The header that passes the checks -/

variable {data : List UInt8} {h : RpcRecordHeader} {sizeMax : Nat} {limits : RpcRecordLimits}

theorem rpcRecordKindFields_eq_ok {size total : Nat}
    (hok : rpcRecordKindFields h limits size = .ok total) : total = size := by
  unfold rpcRecordKindFields at hok
  split at hok
  · obtain ⟨-, hok⟩ := check_eq_ok.mp hok
    obtain ⟨-, hok⟩ := check_eq_ok.mp hok
    obtain ⟨-, hok⟩ := check_eq_ok.mp hok
    exact (Except.ok.inj hok).symm
  · obtain ⟨-, hok⟩ := check_eq_ok.mp hok
    iterate 3 obtain ⟨-, hok⟩ := check_eq_ok.mp hok
    exact (Except.ok.inj hok).symm

/-- What every caller needs of a header that passes: its limits and kind are
valid, its sizes are within the limits, and the size of the record is exact. -/
structure RpcRecordSized (sizeMax : Nat) (h : RpcRecordHeader)
    (limits : RpcRecordLimits) (total : Nat) : Prop where
  limitsValid : rpcRecordLimitsValid limits = true
  kind : rpcRecordKindValid h.kind = true
  metadataSize : h.metadataSize ≤ limits.maxMetadataSize
  encodedSize : h.encodedSize ≤ limits.maxEncodedSize
  decodedSize : h.decodedSize ≤ limits.maxDecodedSize
  total_eq : total = rpcRecordHeaderSize + h.metadataSize.toNat + h.encodedSize.toNat
  fits : total ≤ sizeMax

/-- No sum in the size of an accepted record wraps: the metadata is short, and
the body is compared with what is left before it is added. -/
theorem rpcRecordValidate_sized (hmax : 2 ^ 16 - 1 ≤ sizeMax) {total : Nat}
    (hok : rpcRecordValidate sizeMax h limits = .ok total) :
    RpcRecordSized sizeMax h limits total := by
  unfold rpcRecordValidate at hok
  obtain ⟨hlimits, hok⟩ := check_eq_ok.mp hok
  obtain ⟨hkind, hok⟩ := check_eq_ok.mp hok
  obtain ⟨hsizes, hok⟩ := check_eq_ok.mp hok
  simp only [not_or, UInt32.not_lt] at hsizes
  have hlimits' := not_not.mp hlimits
  simp only [rpcRecordLimitsValid, decide_eq_true_eq] at hlimits'
  -- The metadata is at most 512 bytes, so the first sum is exact.
  have hmeta : h.metadataSize.toNat ≤ 512 :=
    UInt32.le_iff_toNat_le.mp (UInt32.le_trans hsizes.1 hlimits'.1)
  have hfirst : (rpcRecordHeaderSize + h.metadataSize.toNat) % (sizeMax + 1) =
      rpcRecordHeaderSize + h.metadataSize.toNat := by
    refine Nat.mod_eq_of_lt ?_
    rw [rpcRecordHeaderSize]
    omega
  dsimp only at hok
  rw [hfirst] at hok
  obtain ⟨hfits, hok⟩ := check_eq_ok.mp hok
  obtain ⟨-, hok⟩ := check_eq_ok.mp hok
  obtain ⟨-, hok⟩ := check_eq_ok.mp hok
  have hsum : rpcRecordHeaderSize + h.metadataSize.toNat + h.encodedSize.toNat ≤ sizeMax := by
    rw [rpcRecordHeaderSize] at hfits ⊢
    omega
  rw [Nat.mod_eq_of_lt (by omega)] at hok
  have htotal := rpcRecordKindFields_eq_ok hok
  exact ⟨not_not.mp hlimits, not_not.mp hkind, hsizes.1, hsizes.2.1, hsizes.2.2,
    htotal, htotal ▸ hsum⟩

/-! ## Reading the header back -/

@[simp] theorem rpcRecordHeaderBytes_length (h : RpcRecordHeader) :
    (rpcRecordHeaderBytes h).length = rpcRecordHeaderSize := rfl

theorem rpcRecordKindValid_toUInt16 {kind : UInt32}
    (h : rpcRecordKindValid kind = true) : kind.toUInt16.toUInt32 = kind := by
  simp only [rpcRecordKindValid, decide_eq_true_eq, UInt32.le_iff_toNat_le] at h
  have hle : kind.toNat ≤ 5 := h.2
  apply UInt32.toNat.inj
  simp only [UInt16.toNat_toUInt32, UInt32.toNat_toUInt16]
  omega

/-- The fields are read back, whatever follows the header. -/
theorem rpcRecordFields_headerBytes (hkind : rpcRecordKindValid h.kind = true) (rest : List UInt8) :
    rpcRecordFields (rpcRecordHeaderBytes h ++ rest) = h := by
  have hk : getLe16 ((rpcRecordHeaderBytes h ++ rest).drop 6) = h.kind.toUInt16 :=
    getLe16_putLe16 _ _
  have h8 : getLe32 ((rpcRecordHeaderBytes h ++ rest).drop 8) = h.serviceId :=
    getLe32_putLe32 _ _
  have h12 : getLe32 ((rpcRecordHeaderBytes h ++ rest).drop 12) = h.methodId :=
    getLe32_putLe32 _ _
  have h16 : getLe32 ((rpcRecordHeaderBytes h ++ rest).drop 16) = h.codecId :=
    getLe32_putLe32 _ _
  have h20 : getLe32 ((rpcRecordHeaderBytes h ++ rest).drop 20) = h.compression :=
    getLe32_putLe32 _ _
  have h24 : getLe32 ((rpcRecordHeaderBytes h ++ rest).drop 24) = h.encodedSize :=
    getLe32_putLe32 _ _
  have h28 : getLe32 ((rpcRecordHeaderBytes h ++ rest).drop 28) = h.decodedSize :=
    getLe32_putLe32 _ _
  have h32 : getLe32 ((rpcRecordHeaderBytes h ++ rest).drop 32) = h.metadataSize :=
    getLe32_putLe32 _ _
  have h36 : getLe32 ((rpcRecordHeaderBytes h ++ rest).drop 36) = h.status :=
    getLe32_putLe32 _ _
  have h40 : getLe64 ((rpcRecordHeaderBytes h ++ rest).drop 40) =
      h.remainingTimeoutNs := getLe64_putLe64 _ _
  simp only [rpcRecordFields, hk, h8, h12, h16, h20, h24, h28, h32, h36, h40,
    rpcRecordKindValid_toUInt16 hkind]

/-- The checks on the leading bytes that the decoder makes before it reads the
other fields. -/
structure RpcRecordLead (data : List UInt8) : Prop where
  size : rpcRecordHeaderSize ≤ data.length
  magic : data.take 4 = rpcRecordMagic
  version : getLe16 (data.drop 4) = rpcRecordVersion
  kind : rpcRecordKindValid (getLe16 (data.drop 6)).toUInt32 = true

/-- A whole header with good leading bytes is decided by the checks of its
fields. -/
theorem rpcRecordDecodeHeader_eq (hlead : RpcRecordLead data)
    (hlimits : rpcRecordLimitsValid limits = true) : rpcRecordDecodeHeader sizeMax data limits =
      match rpcRecordValidate sizeMax (rpcRecordFields data) limits with
      | .error ret => .error ret
      | .ok total => .ok (rpcRecordFields data, total) := by
  have hsize : 48 ≤ data.length := hlead.size
  unfold rpcRecordDecodeHeader
  rw [if_neg (not_not.mpr hlimits), if_neg (by omega),
    if_neg (not_not.mpr hlead.magic), if_neg (by omega),
    if_neg (not_not.mpr hlead.version), if_neg (by omega),
    if_neg (not_not.mpr hlead.kind), if_neg (Nat.not_lt.mpr hlead.size)]

theorem rpcRecordDecodeHeader_eq_ok {header : RpcRecordHeader} {total : Nat} :
    rpcRecordDecodeHeader sizeMax data limits = .ok (header, total) ↔
      RpcRecordLead data ∧ header = rpcRecordFields data ∧
        rpcRecordValidate sizeMax header limits = .ok total := by
  constructor
  · intro hok
    have hok' := hok
    unfold rpcRecordDecodeHeader at hok
    obtain ⟨hlimits, hok⟩ := check_eq_ok.mp hok
    obtain ⟨-, hok⟩ := check_eq_ok.mp hok
    obtain ⟨hmagic, hok⟩ := check_eq_ok.mp hok
    obtain ⟨-, hok⟩ := check_eq_ok.mp hok
    obtain ⟨hversion, hok⟩ := check_eq_ok.mp hok
    obtain ⟨-, hok⟩ := check_eq_ok.mp hok
    obtain ⟨hkind, hok⟩ := check_eq_ok.mp hok
    obtain ⟨hsize, hok⟩ := check_eq_ok.mp hok
    have hlead : RpcRecordLead data := ⟨Nat.not_lt.mp hsize, not_not.mp hmagic,
      not_not.mp hversion, not_not.mp hkind⟩
    cases hvalid : rpcRecordValidate sizeMax (rpcRecordFields data) limits with
    | error ret => rw [hvalid] at hok; cases hok
    | ok size =>
      rw [hvalid] at hok
      cases hok
      exact ⟨hlead, rfl, hvalid⟩
  · rintro ⟨hlead, rfl, hvalid⟩
    have hlimits : rpcRecordLimitsValid limits = true := by
      unfold rpcRecordValidate at hvalid
      exact not_not.mp (check_eq_ok.mp hvalid).1
    rw [rpcRecordDecodeHeader_eq hlead hlimits, hvalid]

/-! ## Longer inputs -/

/-- The decoder looks at the first 48 bytes only. -/
theorem rpcRecordFields_append (hsize : rpcRecordHeaderSize ≤ data.length) (more : List UInt8) :
    rpcRecordFields (data ++ more) = rpcRecordFields data := by
  have hlen : 48 ≤ data.length := hsize
  have h32 (n : Nat) (hn : n + 4 ≤ 48) : getLe32 ((data ++ more).drop n) = getLe32 (data.drop n) :=
    getLe32_drop_append (by omega) more
  simp only [rpcRecordFields, getLe16_drop_append (show 6 + 2 ≤ data.length by omega),
    getLe64_drop_append (show 40 + 8 ≤ data.length by omega), h32 8 (by decide),
    h32 12 (by decide), h32 16 (by decide), h32 20 (by decide), h32 24 (by decide),
    h32 28 (by decide), h32 32 (by decide), h32 36 (by decide)]

/-- A check for missing bytes that did not answer `again` passed. -/
private theorem again_check {α : Type} {short : Prop} [Decidable short] {rest : Except Status α}
    (h : (if short then .error .again else rest) ≠ .error .again) :
    ¬ short ∧ rest ≠ .error .again := by
  by_cases hs : short
  · exact absurd (if_pos hs) h
  · rw [if_neg hs] at h
    exact ⟨hs, h⟩

/-- A decision about a header stands when more bytes arrive. -/
theorem rpcRecordDecodeHeader_append
    (hne : rpcRecordDecodeHeader sizeMax data limits ≠ .error .again) (more : List UInt8) :
    rpcRecordDecodeHeader sizeMax (data ++ more) limits =
      rpcRecordDecodeHeader sizeMax data limits := by
  have hlen : (data ++ more).length = data.length + more.length :=
    length_append
  unfold rpcRecordDecodeHeader at hne ⊢
  by_cases hlimits : ¬ rpcRecordLimitsValid limits
  · rw [if_pos hlimits, if_pos hlimits]
  rw [if_neg hlimits] at hne ⊢
  rw [if_neg hlimits]
  obtain ⟨h4, hne⟩ := again_check hne
  rw [if_neg (by omega), if_neg h4, take_append_of_le_length (show 4 ≤ data.length by omega)]
  by_cases hmagic : data.take 4 ≠ rpcRecordMagic
  · rw [if_pos hmagic, if_pos hmagic]
  rw [if_neg hmagic] at hne ⊢
  rw [if_neg hmagic]
  obtain ⟨h6, hne⟩ := again_check hne
  rw [if_neg (by omega), if_neg h6, getLe16_drop_append (show 4 + 2 ≤ data.length by omega)]
  by_cases hversion : getLe16 (data.drop 4) ≠ rpcRecordVersion
  · rw [if_pos hversion, if_pos hversion]
  rw [if_neg hversion] at hne ⊢
  rw [if_neg hversion]
  obtain ⟨h8, hne⟩ := again_check hne
  rw [if_neg (by omega), if_neg h8, getLe16_drop_append (show 6 + 2 ≤ data.length by omega)]
  by_cases hkind : ¬ rpcRecordKindValid (getLe16 (data.drop 6)).toUInt32
  · rw [if_pos hkind, if_pos hkind]
  rw [if_neg hkind] at hne ⊢
  rw [if_neg hkind]
  obtain ⟨h48, -⟩ := again_check hne
  rw [if_neg (by omega), if_neg h48, rpcRecordFields_append (Nat.not_lt.mp h48)]

/-- What a decoded record holds. -/
theorem rpcRecordDecode_eq_ok {view : RpcRecordView} {consumed : Nat} :
    rpcRecordDecode sizeMax data limits = .ok (view, consumed) ↔
      rpcRecordDecodeHeader sizeMax data limits = .ok (view.header, consumed) ∧
        consumed ≤ data.length ∧
        view.metadata = (data.drop rpcRecordHeaderSize).take view.header.metadataSize.toNat ∧
        view.body = (data.drop (rpcRecordHeaderSize +
          view.header.metadataSize.toNat)).take view.header.encodedSize.toNat := by
  unfold rpcRecordDecode
  cases hheader : rpcRecordDecodeHeader sizeMax data limits with
  | error ret => simp
  | ok result =>
    obtain ⟨header, total⟩ := result
    dsimp only
    constructor
    · intro hok
      obtain ⟨hsize, hok⟩ := check_eq_ok.mp hok
      cases hok
      exact ⟨rfl, Nat.not_lt.mp hsize, rfl, rfl⟩
    · obtain ⟨header', metadata, body⟩ := view
      rintro ⟨hok, hsize, hmeta, hbody⟩
      cases hok
      rw [if_neg (Nat.not_lt.mpr hsize), ← hmeta, ← hbody]

/-- A decision about a record stands when more bytes arrive. -/
theorem rpcRecordDecode_append (hmax : 2 ^ 16 - 1 ≤ sizeMax)
    (hne : rpcRecordDecode sizeMax data limits ≠ .error .again) (more : List UInt8) :
    rpcRecordDecode sizeMax (data ++ more) limits = rpcRecordDecode sizeMax data limits := by
  have hheader : rpcRecordDecodeHeader sizeMax data limits ≠ .error .again := by
    intro hagain
    rw [rpcRecordDecode, hagain] at hne
    exact hne rfl
  have happend := rpcRecordDecodeHeader_append hheader more
  cases hdecode : rpcRecordDecode sizeMax data limits with
  | error ret =>
    unfold rpcRecordDecode at hdecode hne ⊢
    rw [happend]
    cases hresult : rpcRecordDecodeHeader sizeMax data limits with
    | error ret' =>
      rw [hresult] at hdecode
      exact hdecode
    | ok result =>
      rw [hresult] at hne hdecode
      dsimp only at hne hdecode
      obtain ⟨hsize, -⟩ := again_check hne
      rw [if_neg hsize] at hdecode
      cases hdecode
  | ok result =>
    obtain ⟨view, consumed⟩ := result
    obtain ⟨hresult, hsize, hmeta, hbody⟩ := rpcRecordDecode_eq_ok.mp hdecode
    have hvalid := (rpcRecordDecodeHeader_eq_ok.mp hresult).2.2
    -- Both slices end inside the record, hence inside the old bytes.
    have htotal := (rpcRecordValidate_sized hmax hvalid).total_eq
    rw [rpcRecordHeaderSize] at htotal
    refine rpcRecordDecode_eq_ok.mpr ⟨happend.trans hresult, ?_, ?_, ?_⟩
    · rw [length_append]
      omega
    · rw [hmeta, drop_append_of_le_length (by rw [rpcRecordHeaderSize]; omega),
        take_append_of_le_length]
      rw [length_drop, rpcRecordHeaderSize]
      omega
    · rw [hbody, drop_append_of_le_length (by rw [rpcRecordHeaderSize]; omega),
        take_append_of_le_length]
      rw [length_drop, rpcRecordHeaderSize]
      omega

/-! ## Both directions -/

theorem rpcRecordLead_headerBytes (hkind : rpcRecordKindValid h.kind = true) (rest : List UInt8) :
    RpcRecordLead (rpcRecordHeaderBytes h ++ rest) := by
  have hk : getLe16 ((rpcRecordHeaderBytes h ++ rest).drop 6) = h.kind.toUInt16 :=
    getLe16_putLe16 _ _
  refine ⟨?_, rfl, getLe16_putLe16 _ _, ?_⟩
  · rw [length_append, rpcRecordHeaderBytes_length]
    omega
  · rw [hk, rpcRecordKindValid_toUInt16 hkind]
    exact hkind

/-- A header that passes the checks is decoded from its bytes. -/
theorem rpcRecordDecodeHeader_headerBytes (hmax : 2 ^ 16 - 1 ≤ sizeMax) {total : Nat}
    (hvalid : rpcRecordValidate sizeMax h limits = .ok total) (rest : List UInt8) :
    rpcRecordDecodeHeader sizeMax (rpcRecordHeaderBytes h ++ rest) limits = .ok (h, total) := by
  have hkind := (rpcRecordValidate_sized hmax hvalid).kind
  exact rpcRecordDecodeHeader_eq_ok.mpr ⟨rpcRecordLead_headerBytes hkind rest,
    (rpcRecordFields_headerBytes hkind rest).symm, hvalid⟩

/-- The bytes of a whole record are decoded to its header and slices, and the
bytes behind it are not touched. -/
theorem rpcRecordDecode_headerBytes (hmax : 2 ^ 16 - 1 ≤ sizeMax) {total : Nat}
    (hvalid : rpcRecordValidate sizeMax h limits = .ok total) {metadata body : List UInt8}
    (hmeta : metadata.length = h.metadataSize.toNat) (hbody : body.length = h.encodedSize.toNat)
    (trailing : List UInt8) : rpcRecordDecode sizeMax
        (rpcRecordHeaderBytes h ++ (metadata ++ (body ++ trailing))) limits =
      .ok (⟨h, metadata, body⟩, (rpcRecordHeaderBytes h ++ (metadata ++ body)).length) := by
  have htotal : (rpcRecordHeaderBytes h ++ (metadata ++ body)).length = total := by
    simp [hmeta, hbody, (rpcRecordValidate_sized hmax hvalid).total_eq, Nat.add_assoc]
  have hdrop : (rpcRecordHeaderBytes h ++ (metadata ++ (body ++ trailing))).drop
      rpcRecordHeaderSize = metadata ++ (body ++ trailing) :=
    drop_left' (rpcRecordHeaderBytes_length h)
  rw [htotal]
  refine rpcRecordDecode_eq_ok.mpr ⟨rpcRecordDecodeHeader_headerBytes hmax hvalid _, ?_, ?_, ?_⟩
  · rw [← htotal]
    simp
  · rw [hdrop]
    exact (take_left' hmeta).symm
  · rw [← drop_drop, hdrop, drop_left' hmeta]
    exact (take_left' hbody).symm

/-- The fields of a header with good leading bytes determine its 48 bytes. -/
theorem rpcRecordHeaderBytes_fields (hlead : RpcRecordLead data) :
    rpcRecordHeaderBytes (rpcRecordFields data) = data.take rpcRecordHeaderSize := by
  have hsplit : data.take 48 ++ data.drop 48 = data := take_append_drop _ _
  have hlen : (data.take 48).length = 48 := by
    rw [length_take]
    exact Nat.min_eq_left hlead.size
  have hmagic : (data.take 48).take 4 = rpcRecordMagic := by
    rw [← hlead.magic, take_take]
    rfl
  have hversion : putLe16 rpcRecordVersion = ((data.take 48).drop 4).take 2 := by
    rw [← putLe16_getLe16 (by simp [hlen]), ← hlead.version, ← hsplit,
      getLe16_drop_append (by simp [hlen]), hsplit]
  rw [← hsplit, rpcRecordFields_append hlen.ge, hsplit]
  change _ = data.take 48
  generalize data.take 48 = raw at *
  have hrest (n : Nat) : (raw.drop n).length = 48 - n := by
    rw [length_drop, hlen]
  have hlast : (raw.drop 40).take 8 = raw.drop 40 :=
    take_of_length_le (by simp [hrest])
  have hkind : (getLe16 (raw.drop 6)).toUInt32.toUInt16 = getLe16 (raw.drop 6) := by
    simp
  unfold rpcRecordHeaderBytes rpcRecordFields
  dsimp only
  rw [hkind, hversion, putLe16_getLe16, putLe32_getLe32, putLe32_getLe32, putLe32_getLe32,
    putLe32_getLe32, putLe32_getLe32, putLe32_getLe32, putLe32_getLe32, putLe32_getLe32,
    putLe64_getLe64, hlast, field_append raw 36 4, field_append raw 32 4, field_append raw 28 4,
    field_append raw 24 4, field_append raw 20 4, field_append raw 16 4, field_append raw 12 4,
    field_append raw 8 4, field_append raw 6 2, field_append raw 4 2, ← hmagic,
    take_append_drop]
  all_goals simp [hrest]

/-- The record codec.  A valid record is decoded from its bytes whatever follows
them; a decision about some bytes is the decision about every longer input; a
proper part of an accepted record needs more data; the size of a record does not
wrap; and an accepted header is the encoding of its fields. -/
theorem rpc_record_codec {sizeMax : Nat} (hmax : 2 ^ 16 - 1 ≤ sizeMax) (limits : RpcRecordLimits) :
    (∀ (header : RpcRecordHeader) (total : Nat) (metadata body trailing : List UInt8),
      rpcRecordValidate sizeMax header limits = .ok total →
      metadata.length = header.metadataSize.toNat →
      body.length = header.encodedSize.toNat →
      ∃ raw, rpcRecordEncodeHeader sizeMax rpcRecordHeaderSize header limits = .ok raw ∧
        rpcRecordDecode sizeMax (raw ++ (metadata ++ (body ++ trailing))) limits =
          .ok (⟨header, metadata, body⟩, (raw ++ (metadata ++ body)).length)) ∧
    (∀ data more : List UInt8, (rpcRecordDecodeHeader sizeMax data limits ≠ .error .again →
        rpcRecordDecodeHeader sizeMax (data ++ more) limits =
          rpcRecordDecodeHeader sizeMax data limits) ∧
      (rpcRecordDecode sizeMax data limits ≠ .error .again →
        rpcRecordDecode sizeMax (data ++ more) limits = rpcRecordDecode sizeMax data limits)) ∧
    (∀ (data : List UInt8) (view : RpcRecordView) (consumed : Nat),
      rpcRecordDecode sizeMax data limits = .ok (view, consumed) →
      (∀ k < consumed, rpcRecordDecode sizeMax (data.take k) limits = .error .again) ∧
      consumed = rpcRecordHeaderSize + view.header.metadataSize.toNat +
        view.header.encodedSize.toNat ∧
      consumed ≤ sizeMax ∧ consumed ≤ data.length) ∧
    (∀ (data : List UInt8) (header : RpcRecordHeader) (total : Nat),
      rpcRecordDecodeHeader sizeMax data limits = .ok (header, total) →
      rpcRecordEncodeHeader sizeMax rpcRecordHeaderSize header limits =
        .ok (data.take rpcRecordHeaderSize)) := by
  refine ⟨fun header total metadata body trailing hvalid hmeta hbody => ?_,
    fun data more => ⟨fun hne => rpcRecordDecodeHeader_append hne more,
      fun hne => rpcRecordDecode_append hmax hne more⟩,
    fun data view consumed hok => ?_, fun data header total hok => ?_⟩
  · refine ⟨rpcRecordHeaderBytes header, ?_,
      rpcRecordDecode_headerBytes hmax hvalid hmeta hbody trailing⟩
    rw [rpcRecordEncodeHeader, hvalid]
    rfl
  · obtain ⟨hheader, hsize, -, -⟩ := rpcRecordDecode_eq_ok.mp hok
    have hsized := rpcRecordValidate_sized hmax (rpcRecordDecodeHeader_eq_ok.mp hheader).2.2
    refine ⟨fun k hk => ?_, hsized.total_eq, hsized.fits, hsize⟩
    by_contra hne
    -- A decision about fewer bytes would be the decision about all of them.
    have hstable := rpcRecordDecode_append hmax hne (data.drop k)
    rw [List.take_append_drop, hok] at hstable
    have hle := (rpcRecordDecode_eq_ok.mp hstable.symm).2.1
    have hk' := List.length_take_le k data
    omega
  · obtain ⟨hlead, rfl, hvalid⟩ := rpcRecordDecodeHeader_eq_ok.mp hok
    rw [rpcRecordEncodeHeader, hvalid, ← rpcRecordHeaderBytes_fields hlead]
    rfl

/-- An OPEN with its metadata and a message with its body, each followed by one byte of the
next record, on a machine with 16-bit sizes. -/
theorem rpc_record_codec_parts : (∃ raw, rpcRecordEncodeHeader (2 ^ 16 - 1) rpcRecordHeaderSize
        ⟨1, 7, 9, 0, 0, 0, 0, 3, 0, 0⟩ ⟨2, 2, 8, 1⟩ = .ok raw ∧
      rpcRecordDecode (2 ^ 16 - 1) (raw ++ ([1, 0, 0] ++ ([] ++ [0x54]))) ⟨2, 2, 8, 1⟩ =
        .ok (⟨⟨1, 7, 9, 0, 0, 0, 0, 3, 0, 0⟩, [1, 0, 0], []⟩, (raw ++ ([1, 0, 0] ++ [])).length)) ∧
    ∃ raw, rpcRecordEncodeHeader (2 ^ 16 - 1) rpcRecordHeaderSize
        ⟨3, 0, 0, 5, 0, 2, 2, 0, 0, 0⟩ ⟨2, 2, 8, 1⟩ = .ok raw ∧
      rpcRecordDecode (2 ^ 16 - 1) (raw ++ ([] ++ ([8, 9] ++ [0x54]))) ⟨2, 2, 8, 1⟩ =
        .ok (⟨⟨3, 0, 0, 5, 0, 2, 2, 0, 0, 0⟩, [], [8, 9]⟩, (raw ++ ([] ++ [8, 9])).length) :=
  ⟨(rpc_record_codec (le_refl _) ⟨2, 2, 8, 1⟩).1 _ 51 _ _ _ (by decide) rfl rfl,
    (rpc_record_codec (le_refl _) ⟨2, 2, 8, 1⟩).1 _ 50 _ _ _ (by decide) rfl rfl⟩

end Trpc
