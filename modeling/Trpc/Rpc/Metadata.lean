import Trpc.Lib.Checks
import Trpc.Rpc.Record

/-!
# Metadata

`rpc_v2.c` writes the metadata of a call and reads it back; the receiver of a record
checks it first (`tr_record_metadata_valid` of `rpc_record_stream.c`).  The three walk
the same bytes with loops of their own.

`metadataEntryBytes` is the layout of one entry.  Each loop is at a point between two
entries, so its invariant is the list of the entries before that point.
-/

namespace Trpc

open Lib List

/-! ## The model -/

/-- `TR_RPC_METADATA_MAX_KEY_LEN`. -/
def rpcMetadataMaxKeyLen : Nat := 63

/-- `struct tr_rpc_metadata`.  The key is a C string, so no byte of it is zero, and
the length of the value is a `uint16_t`. -/
@[ext]
structure RpcMetadata where
  key : List UInt8
  value : List UInt8
  key_text : 0 ∉ key
  value_lt : value.length < 2 ^ 16

/-- The bytes that a metadata key may hold. -/
def recordKeyByte (ch : UInt8) : Bool :=
  (97 ≤ ch && ch ≤ 122) || (48 ≤ ch && ch ≤ 57) || ch = 95 || ch = 46 || ch = 45

/-- The loop that measures a key.  It stops behind the limit. -/
def metadataKeySize (key : List UInt8) : Nat :=
  (key.take (rpcMetadataMaxKeyLen + 1)).length

/-- The loop that looks for a key among the entries already passed. -/
def metadataPrior (key : List UInt8) : Nat → List UInt8 → Bool
  | 0, _ => false
  | fuel + 1, prior =>
    if prior = [] then false
    else
      let n := (prior.headD 0).toNat
      if n = key.length ∧ (prior.drop 3).take n = key then true
      else metadataPrior key fuel (prior.drop (3 + n + (getLe16 (prior.drop 1)).toNat))

/-- The bytes of one entry. -/
def metadataEntryBytes (key value : List UInt8) : List UInt8 :=
  UInt8.ofNat key.length :: (putLe16 (UInt16.ofNat value.length) ++ (key ++ value))

/-- The loop of `tr_rpc_v2_metadata_encode`; `out` is what has been written. -/
def metadataEncodeLoop : List RpcMetadata → List UInt8 → Except Status (List UInt8)
  | [], out => .ok out
  | entry :: rest, out =>
    let keySize := metadataKeySize entry.key
    let entrySize := 3 + keySize + entry.value.length
    if keySize = 0 ∨ rpcMetadataMaxKeyLen < keySize ∨
        rpcMetadataMaxBytes.toNat - out.length < entrySize then .error .errBadLength
    else if ¬ (entry.key.take keySize).all recordKeyByte then .error .errBadFlags
    else if metadataPrior (entry.key.take keySize) (out.length + 1) out then
      .error .errBadFlags
    else
      metadataEncodeLoop rest (out ++ metadataEntryBytes (entry.key.take keySize) entry.value)

/-- `tr_rpc_v2_metadata_encode`. -/
def metadataEncode (entries : List RpcMetadata) : Except Status (List UInt8) :=
  if rpcMetadataMaxBytes.toNat / 4 < entries.length then .error .errInvalid
  else metadataEncodeLoop entries []

/-- The loop of `tr_record_metadata_valid`. -/
def recordMetadataLoop (data : List UInt8) : Nat → Nat → Status
  | 0, _ => .ok
  | fuel + 1, offset =>
    if data.length ≤ offset then .ok
    else if data.length - offset < 3 then .errBadLength
    else
      let keySize := ((data.drop offset).headD 0).toNat
      let entrySize := 3 + keySize + (getLe16 (data.drop (offset + 1))).toNat
      if keySize = 0 ∨ rpcMetadataMaxKeyLen < keySize ∨
          data.length - offset < entrySize then .errBadLength
      else
        let key := (data.drop (offset + 3)).take keySize
        if ¬ key.all recordKeyByte then .errBadFlags
        else if metadataPrior key (offset + 1) (data.take offset) then .errBadFlags
        else recordMetadataLoop data fuel (offset + entrySize)

/-- `tr_record_metadata_valid`.  An entry takes at least four bytes, so the length
is fuel enough. -/
def recordMetadataValid (data : List UInt8) : Status :=
  if rpcMetadataMaxBytes.toNat < data.length then .errBadLength
  else recordMetadataLoop data (data.length + 1) 0

/-- `struct tr_rpc_v2_metadata_entry`. -/
structure MetadataEntryView where
  key : List UInt8
  value : List UInt8
  deriving DecidableEq, Repr

/-- `tr_rpc_v2_metadata_next`: the entry at the offset, and the offset behind it. -/
def metadataNext (data : List UInt8) (offset : Nat) : Except Status (MetadataEntryView × Nat) :=
  if rpcMetadataMaxBytes.toNat < data.length ∨ data.length < offset then .error .errInvalid
  else if offset = data.length then .error .errStale
  else if data.length - offset < 3 then .error .errInvalid
  else
    let keySize := ((data.drop offset).headD 0).toNat
    let valueSize := (getLe16 (data.drop (offset + 1))).toNat
    let pos := offset + 3
    if keySize = 0 ∨ rpcMetadataMaxKeyLen < keySize ∨ data.length - pos < keySize ∨
        data.length - pos - keySize < valueSize then .error .errInvalid
    else
      .ok (⟨(data.drop pos).take keySize, (data.drop (pos + keySize)).take valueSize⟩,
        pos + keySize + valueSize)

/-- The loop of `tr_rpc_v2_metadata_count`. -/
def metadataCountLoop (data : List UInt8) : Nat → Nat → Nat → Nat
  | 0, _, _ => 0
  | fuel + 1, offset, count =>
    match metadataNext data offset with
    | .ok (_, offset) => metadataCountLoop data fuel offset (count + 1)
    | .error .errStale => count
    | .error _ => 0

/-- `tr_rpc_v2_metadata_count`. -/
def metadataCount (data : List UInt8) : Nat :=
  metadataCountLoop data (data.length + 1) 0 0

/-- The loop of `tr_rpc_v2_metadata_at`, `index` turns before its end. -/
def metadataAtLoop (data : List UInt8) : Nat → Nat → Except Status MetadataEntryView
  | index, offset =>
    match metadataNext data offset with
    | .error ret => .error ret
    | .ok (entry, offset) =>
      match index with
      | 0 => .ok entry
      | index + 1 => metadataAtLoop data index offset

/-- `tr_rpc_v2_metadata_at`. -/
def metadataAt (data : List UInt8) (index : Nat) : Except Status MetadataEntryView :=
  metadataAtLoop data index 0

/-- The loop of `tr_rpc_v2_metadata_find`. -/
def metadataFindLoop (data key : List UInt8) : Nat → Nat → Except Status (List UInt8)
  | 0, _ => .error .errInvalid
  | fuel + 1, offset =>
    match metadataNext data offset with
    | .error ret => .error ret
    | .ok (entry, offset) =>
      if entry.key.length = key.length ∧ entry.key = key then .ok entry.value
      else metadataFindLoop data key fuel offset

/-- `tr_rpc_v2_metadata_find`, for a C string. -/
def metadataFind (data key : List UInt8) : Except Status (List UInt8) :=
  let keySize := metadataKeySize key
  if keySize = 0 ∨ rpcMetadataMaxKeyLen < keySize then .error .errInvalid
  else metadataFindLoop data (key.take keySize) (data.length + 1) 0

/-! ## One entry -/

/-- The length of a key that the format can express. -/
def RpcMetadata.Sized (entry : RpcMetadata) : Prop :=
  0 < entry.key.length ∧ entry.key.length ≤ rpcMetadataMaxKeyLen

/-- A key that the encoder takes. -/
structure RpcMetadata.Valid (entry : RpcMetadata) : Prop where
  sized : entry.Sized
  bytes : entry.key.all recordKeyByte = true

def RpcMetadata.bytes (entry : RpcMetadata) : List UInt8 :=
  metadataEntryBytes entry.key entry.value

/-- The bytes that an entry takes. -/
def RpcMetadata.size (entry : RpcMetadata) : Nat :=
  3 + entry.key.length + entry.value.length

def RpcMetadata.view (entry : RpcMetadata) : MetadataEntryView :=
  ⟨entry.key, entry.value⟩

theorem RpcMetadata.bytes_length (entry : RpcMetadata) : entry.bytes.length = entry.size := by
  simp only [bytes, metadataEntryBytes, size, length_cons, length_append, putLe16_length]
  omega

theorem RpcMetadata.bytes_append (entry : RpcMetadata) (more : List UInt8) :
    entry.bytes ++ more = UInt8.ofNat entry.key.length ::
      (putLe16 (UInt16.ofNat entry.value.length) ++ (entry.key ++ (entry.value ++ more))) := by
  simp only [bytes, metadataEntryBytes, cons_append, append_assoc]

section Front

variable {entry : RpcMetadata} (more : List UInt8)

theorem RpcMetadata.Sized.head (h : entry.Sized) :
    ((entry.bytes ++ more).headD 0).toNat = entry.key.length := by
  rw [bytes_append, headD_cons, UInt8.toNat_ofNat']
  refine Nat.mod_eq_of_lt (h.2.trans_lt ?_)
  decide

theorem RpcMetadata.value_field :
    (getLe16 ((entry.bytes ++ more).drop 1)).toNat = entry.value.length := by
  rw [bytes_append, drop_succ_cons, drop_zero, getLe16_putLe16, UInt16.toNat_ofNat']
  exact Nat.mod_eq_of_lt entry.value_lt

theorem RpcMetadata.drop_three :
    (entry.bytes ++ more).drop 3 = entry.key ++ (entry.value ++ more) := by
  rw [bytes_append]
  rfl

theorem RpcMetadata.key_field :
    ((entry.bytes ++ more).drop 3).take entry.key.length = entry.key := by
  rw [drop_three, take_left]

theorem RpcMetadata.value_bytes :
    ((entry.bytes ++ more).drop (3 + entry.key.length)).take entry.value.length = entry.value := by
  rw [← drop_drop, drop_three, drop_left, take_left]

theorem RpcMetadata.drop_bytes : (entry.bytes ++ more).drop entry.size = more := by
  rw [← bytes_length, drop_left]

end Front

/-- The zero byte is not a byte of a key. -/
theorem recordKeyByte_ne_zero {key : List UInt8} (h : key.all recordKeyByte = true) :
    0 ∉ key := by
  intro hmem
  have hzero := all_eq_true.mp h 0 hmem
  revert hzero
  decide

/-- The entry at the front of bytes that are long enough. -/
theorem exists_entry {data : List UInt8} {n k : Nat} (hsize : 3 + n + k ≤ data.length)
    (hn : (data.headD 0).toNat = n) (hk : (getLe16 (data.drop 1)).toNat = k)
    (hkey : ((data.drop 3).take n).all recordKeyByte = true) :
    ∃ entry : RpcMetadata, entry.key = (data.drop 3).take n ∧ entry.key.length = n ∧
      entry.value.length = k ∧ data = entry.bytes ++ data.drop (3 + n + k) := by
  have hlen : ((data.drop 3).take n).length = n := by
    rw [length_take, length_drop]
    omega
  have hvalue : ((data.drop (3 + n)).take k).length = k := by
    rw [length_take, length_drop]
    omega
  refine ⟨⟨(data.drop 3).take n, (data.drop (3 + n)).take k, recordKeyByte_ne_zero hkey, ?_⟩,
    rfl, hlen, hvalue, ?_⟩
  · rw [hvalue, ← hk]
    exact UInt16.toNat_lt _
  · rw [RpcMetadata.bytes_append]
    dsimp only
    rw [hlen, hvalue, ← hn, ← hk, UInt8.ofNat_toNat, UInt16.ofNat_toNat, hn, hk]
    have hthree : 3 ≤ data.length := by omega
    match data, hthree with
    | a :: b :: c :: rest, _ =>
      have hput : putLe16 (getLe16 ((a :: b :: c :: rest).drop 1)) = [b, c] :=
        putLe16_getLe16 (Nat.le_add_left _ _)
      rw [hput]
      simp only [headD_cons, drop_succ_cons, drop_zero, cons_append,
        nil_append]
      rw [show 3 + n = n + 3 by omega, show n + 3 + k = (n + k) + 3 by omega]
      simp only [drop_succ_cons]
      rw [← drop_drop, take_append_drop, take_append_drop]

/-! ## Lists of entries -/

/-- The encoding of a list of entries. -/
def metadataBytes (entries : List RpcMetadata) : List UInt8 :=
  entries.flatMap RpcMetadata.bytes

@[simp] theorem metadataBytes_nil : metadataBytes [] = [] := rfl

@[simp] theorem metadataBytes_cons (entry : RpcMetadata) (rest : List RpcMetadata) :
    metadataBytes (entry :: rest) = entry.bytes ++ metadataBytes rest := rfl

theorem metadataBytes_append (done rest : List RpcMetadata) :
    metadataBytes (done ++ rest) = metadataBytes done ++ metadataBytes rest :=
  flatMap_append

theorem metadataBytes_snoc (done : List RpcMetadata) (entry : RpcMetadata) :
    metadataBytes (done ++ [entry]) =
      metadataBytes done ++ metadataEntryBytes entry.key entry.value := by
  rw [metadataBytes_append, metadataBytes_cons, metadataBytes_nil, append_nil]
  rfl

theorem metadataBytes_snoc_length (done : List RpcMetadata) (entry : RpcMetadata) :
    (metadataBytes (done ++ [entry])).length = (metadataBytes done).length + entry.size := by
  rw [metadataBytes_snoc, length_append]
  exact congrArg _ entry.bytes_length

theorem metadataBytes_length (entries : List RpcMetadata) :
    (metadataBytes entries).length = (entries.map RpcMetadata.size).sum := by
  induction entries with
  | nil => rfl
  | cons entry rest ih =>
    rw [metadataBytes_cons, length_append, entry.bytes_length, ih, map_cons,
      sum_cons]

/-! ## The walkers -/

variable {entries : List RpcMetadata}

/-- The scan finds exactly the keys of the entries it walks. -/
theorem metadataPrior_eq (h : ∀ e ∈ entries, e.Sized) (key : List UInt8) {fuel : Nat}
    (hfuel : (metadataBytes entries).length < fuel) :
    metadataPrior key fuel (metadataBytes entries) = true ↔ key ∈ entries.map RpcMetadata.key := by
  induction fuel generalizing entries with
  | zero => exact absurd hfuel (Nat.not_lt_zero _)
  | succ fuel ih =>
    unfold metadataPrior
    cases entries with
    | nil => simp
    | cons entry rest =>
      have hentry := h entry mem_cons_self
      have hsize := entry.bytes_length
      rw [metadataBytes_cons, length_append, hsize, RpcMetadata.size] at hfuel
      rw [metadataBytes_cons]
      have hne : ¬ entry.bytes ++ metadataBytes rest = [] := by
        intro hnil
        have hlen := congrArg length hnil
        rw [length_append, hsize, RpcMetadata.size, length_nil] at hlen
        omega
      rw [if_neg hne]
      dsimp only
      rw [hentry.head, RpcMetadata.value_field, RpcMetadata.key_field]
      rw [show 3 + entry.key.length + entry.value.length = entry.size from rfl,
        RpcMetadata.drop_bytes, map_cons, mem_cons]
      by_cases hkey : key = entry.key
      · rw [if_pos ⟨by rw [hkey], hkey.symm⟩]
        exact ⟨fun _ => .inl hkey, fun _ => rfl⟩
      rw [if_neg fun hsame => hkey hsame.2.symm,
        ih (fun e he => h e (mem_cons_of_mem _ he)) (by omega)]
      exact ⟨.inr, fun hmem => hmem.resolve_left hkey⟩

/-- What the measured size of a key says. -/
theorem metadataKeySize_eq {key : List UInt8} (h : ¬ rpcMetadataMaxKeyLen < metadataKeySize key) :
    metadataKeySize key = key.length ∧ key.take (metadataKeySize key) = key := by
  have hsize : metadataKeySize key = key.length := by
    rw [metadataKeySize, length_take, rpcMetadataMaxKeyLen] at *
    omega
  exact ⟨hsize, by rw [hsize, take_length]⟩

theorem metadataKeySize_of_le {key : List UInt8} (h : key.length ≤ rpcMetadataMaxKeyLen) :
    metadataKeySize key = key.length := by
  rw [metadataKeySize, length_take]
  omega

/-- The lists that the encoder takes. -/
structure MetadataList (entries : List RpcMetadata) : Prop where
  valid : ∀ e ∈ entries, e.Valid
  distinct : (entries.map RpcMetadata.key).Nodup
  fits : (entries.map RpcMetadata.size).sum ≤ rpcMetadataMaxBytes.toNat

theorem MetadataList.sized (h : MetadataList entries) : ∀ e ∈ entries, e.Sized :=
  fun e he => (h.valid e he).sized

theorem MetadataList.left {done rest : List RpcMetadata} (h : MetadataList (done ++ rest)) :
    MetadataList done where
  valid e he := h.valid e (mem_append_left _ he)
  distinct := by
    have hall := h.distinct
    rw [map_append] at hall
    exact (nodup_append.mp hall).1
  fits := by
    have hall := h.fits
    rw [map_append, sum_append] at hall
    omega

/-- One more entry. -/
theorem metadataList_snoc {done : List RpcMetadata} (h : MetadataList done) (entry : RpcMetadata) :
    MetadataList (done ++ [entry]) ↔ entry.Valid ∧ entry.key ∉ done.map RpcMetadata.key ∧
      entry.size ≤ rpcMetadataMaxBytes.toNat - (metadataBytes done).length := by
  have hfits := h.fits
  rw [metadataBytes_length]
  constructor
  · intro hall
    refine ⟨hall.valid entry (by simp), ?_, ?_⟩
    · have hnodup := hall.distinct
      rw [map_append, nodup_append] at hnodup
      intro hmem
      exact hnodup.2.2 _ hmem _ (by simp) rfl
    · have hsum := hall.fits
      rw [map_append, sum_append] at hsum
      simp only [map_cons, map_nil, sum_cons, sum_nil] at hsum
      omega
  · rintro ⟨hvalid, hkey, hsize⟩
    refine ⟨fun e he => ?_, ?_, ?_⟩
    · rcases mem_append.mp he with he | he
      · exact h.valid e he
      · rw [mem_singleton.mp he]
        exact hvalid
    · rw [map_append, nodup_append]
      refine ⟨h.distinct, nodup_singleton _, fun a ha b hb hab => hkey ?_⟩
      rw [map_singleton, mem_singleton] at hb
      rw [← hb, ← hab]
      exact ha
    · rw [map_append, sum_append]
      simp only [map_cons, map_nil, sum_cons, sum_nil]
      omega

/-- The encoder, behind a list that it has written. -/
theorem metadataEncodeLoop_ok {done rest : List RpcMetadata} (h : MetadataList done)
    {out : List UInt8} :
    metadataEncodeLoop rest (metadataBytes done) = .ok out ↔
      MetadataList (done ++ rest) ∧ out = metadataBytes (done ++ rest) := by
  induction rest generalizing done with
  | nil =>
    rw [append_nil]
    unfold metadataEncodeLoop
    exact ⟨fun hok => ⟨h, (Except.ok.inj hok).symm⟩, fun hok => by rw [hok.2]⟩
  | cons entry rest ih =>
    have hprior := metadataPrior_eq h.sized entry.key (Nat.lt_succ_self _)
    rw [append_cons]
    unfold metadataEncodeLoop
    dsimp only
    constructor
    · intro hok
      obtain ⟨hsize, hok⟩ := check_eq_ok.mp hok
      obtain ⟨hbytes, hok⟩ := check_eq_ok.mp hok
      obtain ⟨hfresh, hok⟩ := check_eq_ok.mp hok
      simp only [not_or] at hsize
      obtain ⟨hpos, hlimit, hfits⟩ := hsize
      obtain ⟨hlen, htake⟩ := metadataKeySize_eq hlimit
      rw [htake] at hbytes hfresh hok
      rw [hlen] at hpos hlimit hfits
      have hone : MetadataList (done ++ [entry]) := by
        refine (metadataList_snoc h entry).mpr ⟨⟨⟨?_, ?_⟩, not_not.mp hbytes⟩, ?_, ?_⟩
        · omega
        · omega
        · exact fun hmem => hfresh (hprior.mpr hmem)
        · rw [RpcMetadata.size]
          omega
      rw [← metadataBytes_snoc] at hok
      exact (ih hone).mp hok
    · rintro ⟨hall, hout⟩
      have hone := hall.left
      obtain ⟨hvalid, hfresh, hfits⟩ := (metadataList_snoc h entry).mp hone
      have hlen := metadataKeySize_of_le hvalid.sized.2
      rw [hlen, take_length, if_neg, if_neg (not_not.mpr hvalid.bytes),
        if_neg fun hmem => hfresh (hprior.mp hmem)]
      · rw [← metadataBytes_snoc]
        exact (ih hone).mpr ⟨hall, hout⟩
      · have hpos := hvalid.sized.1
        have hle := hvalid.sized.2
        rw [RpcMetadata.size] at hfits
        omega

theorem metadataList_nil : MetadataList [] where
  valid := fun _ he => absurd he not_mem_nil
  distinct := nodup_nil
  fits := Nat.zero_le _

/-- An entry takes four bytes or more. -/
theorem MetadataList.four_le (h : MetadataList entries) :
    4 * entries.length ≤ (metadataBytes entries).length := by
  have hsized := h.sized
  clear h
  induction entries with
  | nil => exact Nat.le_refl _
  | cons entry rest ih =>
    have hrest := ih fun e he => hsized e (mem_cons_of_mem _ he)
    have hpos := (hsized entry mem_cons_self).1
    rw [metadataBytes_cons, length_append, entry.bytes_length, RpcMetadata.size,
      length_cons]
    omega

/-- A list that fits has few entries, so the bound on their number never decides. -/
theorem MetadataList.count_le (h : MetadataList entries) :
    entries.length ≤ rpcMetadataMaxBytes.toNat / 4 := by
  have hfour := h.four_le
  have hfits := h.fits
  rw [← metadataBytes_length] at hfits
  omega

theorem metadataEncode_ok {out : List UInt8} : metadataEncode entries = .ok out ↔
      MetadataList entries ∧ out = metadataBytes entries := by
  have hloop := @metadataEncodeLoop_ok [] entries metadataList_nil out
  rw [nil_append, metadataBytes_nil] at hloop
  unfold metadataEncode
  constructor
  · intro hok
    exact hloop.mp (check_eq_ok.mp hok).2
  · intro hall
    rw [if_neg (Nat.not_lt.mpr hall.1.count_le)]
    exact hloop.mpr hall

/-- An encoding that fails says so. -/
theorem metadataEncode_error {entries : List RpcMetadata} {ret : Status}
    (h : metadataEncode entries = .error ret) : ret ≠ .ok := by
  have hloop : ∀ entries out, metadataEncodeLoop entries out = .error ret → ret ≠ .ok := by
    intro entries
    induction entries with
    | nil => exact fun _ h => by cases h
    | cons entry rest ih =>
      intro out h
      unfold metadataEncodeLoop at h
      dsimp only at h
      iterate 3
        split at h
        · cases h
          decide
      exact ih _ h
  exact check_error (P := (· ≠ .ok)) h (by decide) (hloop _ _)

/-- The validator, behind a list that it has passed. -/
theorem recordMetadataLoop_ok {done : List RpcMetadata} (h : MetadataList done) (rest : List UInt8)
    (hsize : (metadataBytes done ++ rest).length ≤ rpcMetadataMaxBytes.toNat)
    {fuel : Nat} (hfuel : rest.length < fuel) :
    recordMetadataLoop (metadataBytes done ++ rest) fuel (metadataBytes done).length = .ok ↔
      ∃ entries, rest = metadataBytes entries ∧ MetadataList (done ++ entries) := by
  induction fuel generalizing done rest with
  | zero => exact absurd hfuel (Nat.not_lt_zero _)
  | succ fuel ih =>
    have hlen : (metadataBytes done ++ rest).length - (metadataBytes done).length =
        rest.length := by
      rw [length_append]
      omega
    have hdrop : ∀ n, (metadataBytes done ++ rest).drop ((metadataBytes done).length + n) =
        rest.drop n := fun n => by
      rw [← drop_drop, drop_left]
    unfold recordMetadataLoop
    by_cases hnil : rest = []
    · subst hnil
      rw [if_pos (by rw [append_nil])]
      refine ⟨fun _ => ⟨[], rfl, by rw [append_nil]; exact h⟩, fun _ => rfl⟩
    have hpos := length_pos_of_ne_nil hnil
    rw [if_neg (by rw [length_append]; omega)]
    dsimp only
    rw [hlen, drop_left, hdrop 1, hdrop 3, take_left]
    constructor
    · intro hok
      obtain ⟨hthree, hok⟩ := (check_eq (by decide)).mp hok
      obtain ⟨hsizes, hok⟩ := (check_eq (by decide)).mp hok
      obtain ⟨hbytes, hok⟩ := (check_eq (by decide)).mp hok
      obtain ⟨hfresh, hok⟩ := (check_eq (by decide)).mp hok
      simp only [not_or, Nat.not_lt] at hsizes
      obtain ⟨entry, hkey, hkeyLen, hvalueLen, hrest⟩ :=
        exists_entry hsizes.2.2 rfl rfl (not_not.mp hbytes)
      have hentry : 3 + (rest.headD 0).toNat + (getLe16 (rest.drop 1)).toNat = entry.size := by
        rw [RpcMetadata.size, hkeyLen, hvalueLen]
      rw [hentry] at hok hrest hsizes
      rw [← hkey] at hbytes hfresh
      have hone : MetadataList (done ++ [entry]) := by
        refine (metadataList_snoc h entry).mpr ⟨⟨⟨?_, ?_⟩, not_not.mp hbytes⟩, ?_, ?_⟩
        · rw [hkeyLen]
          omega
        · rw [hkeyLen]
          exact hsizes.2.1
        · exact fun hmem => hfresh ((metadataPrior_eq h.sized _ (Nat.lt_succ_self _)).mpr hmem)
        · rw [length_append] at hsize
          omega
      have hwhole : metadataBytes done ++ rest =
          metadataBytes (done ++ [entry]) ++ rest.drop entry.size := by
        rw [metadataBytes_snoc, append_assoc]
        exact congrArg _ hrest
      rw [hwhole, ← metadataBytes_snoc_length] at hok
      obtain ⟨entries, hentries, hall⟩ := (ih hone (rest.drop entry.size)
        (by rw [← hwhole]; exact hsize)
        (by rw [length_drop, RpcMetadata.size]; omega)).mp hok
      refine ⟨entry :: entries, ?_, ?_⟩
      · rw [metadataBytes_cons, ← hentries]
        exact hrest
      · rw [append_assoc] at hall
        exact hall
    · rintro ⟨entries, hentries, hall⟩
      cases entries with
      | nil => exact absurd hentries hnil
      | cons entry entries =>
        rw [metadataBytes_cons] at hentries
        rw [append_cons] at hall
        have hone := hall.left
        obtain ⟨hvalid, hfresh, hfits⟩ := (metadataList_snoc h entry).mp hone
        have hrestLen : rest.length = entry.size + (metadataBytes entries).length := by
          rw [hentries, length_append, entry.bytes_length]
        have hwhole : metadataBytes done ++ rest =
            metadataBytes (done ++ [entry]) ++ metadataBytes entries := by
          rw [metadataBytes_snoc, append_assoc, hentries]
          rfl
        have hhead := hvalid.sized.head (metadataBytes entries)
        have hvalue := entry.value_field (metadataBytes entries)
        have hkey := entry.key_field (metadataBytes entries)
        rw [← hentries] at hhead hvalue hkey
        rw [hhead, hvalue, hkey,
          show 3 + entry.key.length + entry.value.length = entry.size from rfl]
        have hpos := hvalid.sized.1
        have hle := hvalid.sized.2
        have hthree : ¬ rest.length < 3 := by
          rw [hrestLen, RpcMetadata.size]
          omega
        have hsizes : ¬ (entry.key.length = 0 ∨ rpcMetadataMaxKeyLen < entry.key.length ∨
            rest.length < entry.size) := by omega
        rw [if_neg hthree, if_neg hsizes, if_neg (not_not.mpr hvalid.bytes), if_neg fun hmem =>
            hfresh ((metadataPrior_eq h.sized _ (Nat.lt_succ_self _)).mp hmem),
          hwhole, ← metadataBytes_snoc_length]
        refine (ih hone _ (by rw [← hwhole]; exact hsize) ?_).mpr ⟨entries, rfl, hall⟩
        rw [hrestLen, RpcMetadata.size] at hfuel
        omega

theorem recordMetadataValid_ok {data : List UInt8} :
    recordMetadataValid data = .ok ↔
      ∃ entries, data = metadataBytes entries ∧ MetadataList entries := by
  unfold recordMetadataValid
  rw [check_eq (by decide)]
  constructor
  · rintro ⟨hsize, hloop⟩
    exact (@recordMetadataLoop_ok [] metadataList_nil data (Nat.not_lt.mp hsize) _
      (Nat.lt_succ_self _)).mp hloop
  · rintro ⟨entries, rfl, hall⟩
    have hsize : (metadataBytes entries).length ≤ rpcMetadataMaxBytes.toNat := by
      rw [metadataBytes_length]
      exact hall.fits
    exact ⟨Nat.not_lt.mpr hsize, (@recordMetadataLoop_ok [] metadataList_nil
      (metadataBytes entries) hsize _ (Nat.lt_succ_self _)).mpr ⟨entries, rfl, hall⟩⟩

section View

variable {done rest : List RpcMetadata} {entry : RpcMetadata}

/-- The iterator at the end. -/
theorem metadataNext_end (h : MetadataList done) :
    metadataNext (metadataBytes done) (metadataBytes done).length = .error .errStale := by
  have hfits := h.fits
  rw [← metadataBytes_length] at hfits
  unfold metadataNext
  rw [if_neg (by omega), if_pos rfl]

/-- The iterator before an entry. -/
theorem metadataNext_entry (h : MetadataList (done ++ entry :: rest)) :
    metadataNext (metadataBytes (done ++ entry :: rest)) (metadataBytes done).length =
      .ok (entry.view, (metadataBytes (done ++ [entry])).length) := by
  have hfits := h.fits
  rw [← metadataBytes_length] at hfits
  have hsized := h.sized entry (by simp)
  have hpos := hsized.1
  have hle := hsized.2
  have hbytes : metadataBytes (done ++ entry :: rest) =
      metadataBytes done ++ (entry.bytes ++ metadataBytes rest) := by
    rw [metadataBytes_append, metadataBytes_cons]
  have hlen : (metadataBytes (done ++ entry :: rest)).length =
      (metadataBytes done).length + (entry.size + (metadataBytes rest).length) := by
    rw [hbytes, length_append, length_append, entry.bytes_length]
  have hsize : entry.size = 3 + entry.key.length + entry.value.length := rfl
  have hdrop : ∀ n, (metadataBytes (done ++ entry :: rest)).drop
      ((metadataBytes done).length + n) = (entry.bytes ++ metadataBytes rest).drop n :=
    fun n => by rw [hbytes, ← drop_drop, drop_left]
  have hhere := hdrop 0
  rw [Nat.add_zero, drop_zero] at hhere
  unfold metadataNext
  rw [if_neg (by omega), if_neg (by omega), if_neg (by omega)]
  dsimp only
  rw [hhere, hdrop 1, hdrop 3, Nat.add_assoc, hdrop, hsized.head, entry.value_field,
    entry.key_field, entry.value_bytes, if_neg (by omega), metadataBytes_snoc_length, hsize]
  rw [RpcMetadata.view]
  congr 2
  omega

/-- What counting from an entry on adds. -/
theorem metadataCountLoop_eq (h : MetadataList (done ++ rest)) {fuel : Nat}
    (hfuel : rest.length < fuel) (count : Nat) :
    metadataCountLoop (metadataBytes (done ++ rest)) fuel (metadataBytes done).length count =
      count + rest.length := by
  induction fuel generalizing done rest count with
  | zero => exact absurd hfuel (Nat.not_lt_zero _)
  | succ fuel ih =>
    unfold metadataCountLoop
    cases rest with
    | nil =>
      rw [append_nil] at h ⊢
      rw [metadataNext_end h]
      rfl
    | cons entry rest =>
      rw [metadataNext_entry h]
      dsimp only
      rw [append_cons] at h ⊢
      rw [length_cons] at hfuel ⊢
      rw [ih h (by omega)]
      omega

theorem metadataAtLoop_eq (h : MetadataList (done ++ rest)) (index : Nat) :
    metadataAtLoop (metadataBytes (done ++ rest)) index (metadataBytes done).length =
      match rest[index]? with
      | some entry => .ok entry.view
      | none => .error .errStale := by
  induction rest generalizing done index with
  | nil =>
    rw [append_nil] at h ⊢
    unfold metadataAtLoop
    rw [metadataNext_end h]
    rfl
  | cons entry rest ih =>
    unfold metadataAtLoop
    rw [metadataNext_entry h]
    cases index with
    | zero => rfl
    | succ index =>
      rw [append_cons done entry rest] at h ⊢
      exact ih h index

/-- The search finds the first entry with the key. -/
theorem metadataFindLoop_eq (h : MetadataList (done ++ rest)) (key : List UInt8) {fuel : Nat}
    (hfuel : rest.length < fuel) :
    metadataFindLoop (metadataBytes (done ++ rest)) key fuel (metadataBytes done).length =
      match rest.find? (fun e => decide (e.key = key)) with
      | some entry => .ok entry.value
      | none => .error .errStale := by
  induction fuel generalizing done rest with
  | zero => exact absurd hfuel (Nat.not_lt_zero _)
  | succ fuel ih =>
    unfold metadataFindLoop
    cases rest with
    | nil =>
      rw [append_nil] at h ⊢
      rw [metadataNext_end h]
      rfl
    | cons entry rest =>
      rw [metadataNext_entry h]
      dsimp only [RpcMetadata.view]
      rw [find?_cons]
      by_cases hkey : entry.key = key
      · rw [if_pos ⟨congrArg _ hkey, hkey⟩, decide_eq_true hkey]
      rw [if_neg fun hsame => hkey hsame.2, decide_eq_false hkey]
      rw [append_cons] at h ⊢
      exact ih h (Nat.lt_of_succ_lt_succ hfuel)

end View

/-- The number of entries is fuel for the loops that walk them. -/
theorem MetadataList.length_lt (h : MetadataList entries) :
    entries.length < (metadataBytes entries).length + 1 := by
  have hfour := h.four_le
  omega

/-- A list is read back from its bytes. -/
theorem MetadataList.read (h : MetadataList entries) :
    metadataCount (metadataBytes entries) = entries.length ∧
      (∀ index, metadataAt (metadataBytes entries) index = match entries[index]? with
        | some entry => .ok entry.view
        | none => .error .errStale) ∧
      ∀ entry ∈ entries, metadataFind (metadataBytes entries) entry.key = .ok entry.value := by
  refine ⟨?_, fun index => @metadataAtLoop_eq [] entries h index, fun entry hentry => ?_⟩
  · have hcount := @metadataCountLoop_eq [] entries h _ h.length_lt 0
    rw [Nat.zero_add] at hcount
    exact hcount
  · have hsized := h.sized entry hentry
    have hsize := metadataKeySize_of_le hsized.2
    unfold metadataFind
    dsimp only
    rw [hsize, if_neg (by have := hsized.1; have := hsized.2; omega), take_length]
    refine (@metadataFindLoop_eq [] entries h entry.key _ h.length_lt).trans ?_
    cases hfind : entries.find? (fun e => decide (e.key = entry.key)) with
    | none =>
      have hnone := find?_eq_none.mp hfind entry hentry
      exact absurd (decide_eq_true rfl) hnone
    | some found =>
      have hkey : found.key = entry.key := by simpa using find?_some hfind
      rw [inj_on_of_nodup_map h.distinct (mem_of_find?_eq_some hfind) hentry hkey]

/-- Two lists with the same bytes are the same list. -/
theorem MetadataList.eq_of_bytes {entries' : List RpcMetadata} (h : MetadataList entries)
    (h' : MetadataList entries') (hbytes : metadataBytes entries = metadataBytes entries') :
    entries = entries' := by
  obtain ⟨hcount, hat, _⟩ := h.read
  obtain ⟨hcount', hat', _⟩ := h'.read
  rw [hbytes] at hcount hat
  refine ext_getElem (hcount.symm.trans hcount') fun index hi hi' => ?_
  have hview := (hat index).symm.trans (hat' index)
  rw [getElem?_eq_getElem hi, getElem?_eq_getElem hi'] at hview
  have hsame := Except.ok.inj hview
  exact RpcMetadata.ext (congrArg MetadataEntryView.key hsame)
    (congrArg MetadataEntryView.value hsame)

/-- The codec of metadata: which lists the encoder takes, that the receiver accepts what
it writes and reads the same entries, and that every byte string that the receiver
accepts is the encoding of one list. -/
theorem metadata_codec : (∀ entries, (∃ out, metadataEncode entries = .ok out) ↔
      (∀ e ∈ entries, e.key ≠ [] ∧ e.key.length ≤ rpcMetadataMaxKeyLen ∧
        ∀ ch ∈ e.key, recordKeyByte ch = true) ∧
      (entries.map RpcMetadata.key).Nodup ∧
      (entries.map fun e => 3 + e.key.length + e.value.length).sum ≤ rpcMetadataMaxBytes.toNat) ∧
    (∀ entries out, metadataEncode entries = .ok out →
      recordMetadataValid out = .ok ∧ metadataCount out = entries.length ∧
      (∀ index, metadataAt out index = match entries[index]? with
        | some e => .ok ⟨e.key, e.value⟩
        | none => .error .errStale) ∧
      ∀ e ∈ entries, (∀ e' ∈ entries, e'.key = e.key → e' = e) ∧
        metadataFind out e.key = .ok e.value) ∧
    (∀ data, recordMetadataValid data = .ok → ∃! entries, metadataEncode entries = .ok data) := by
  refine ⟨fun entries => ?_, fun entries out hok => ?_, fun data hdata => ?_⟩
  · constructor
    · rintro ⟨out, hok⟩
      obtain ⟨hall, _⟩ := metadataEncode_ok.mp hok
      refine ⟨fun e he => ?_, hall.distinct, hall.fits⟩
      have hvalid := hall.valid e he
      exact ⟨List.ne_nil_of_length_pos hvalid.sized.1, hvalid.sized.2,
        List.all_eq_true.mp hvalid.bytes⟩
    · rintro ⟨hkeys, hdistinct, hfits⟩
      refine ⟨_, metadataEncode_ok.mpr ⟨⟨fun e he => ?_, hdistinct, hfits⟩, rfl⟩⟩
      obtain ⟨hne, hle, hbytes⟩ := hkeys e he
      exact ⟨⟨List.length_pos_of_ne_nil hne, hle⟩, List.all_eq_true.mpr hbytes⟩
  · obtain ⟨hall, rfl⟩ := metadataEncode_ok.mp hok
    obtain ⟨hcount, hat, hfind⟩ := hall.read
    refine ⟨recordMetadataValid_ok.mpr ⟨entries, rfl, hall⟩, hcount, hat, fun e he =>
      ⟨fun e' he' hkey => ?_, hfind e he⟩⟩
    exact List.inj_on_of_nodup_map hall.distinct he' he hkey
  · obtain ⟨entries, rfl, hall⟩ := recordMetadataValid_ok.mp hdata
    refine ⟨entries, metadataEncode_ok.mpr ⟨hall, rfl⟩, fun entries' hok => ?_⟩
    obtain ⟨hall', hbytes⟩ := metadataEncode_ok.mp hok
    exact hall'.eq_of_bytes hall hbytes.symm

/-- The entries `a: "z"` and `b: ""`. -/
theorem metadata_codec_pair : recordMetadataValid [1, 1, 0, 97, 122, 1, 0, 0, 98] = .ok ∧
    metadataFind [1, 1, 0, 97, 122, 1, 0, 0, 98] [98] = .ok [] ∧
    ∃! entries, metadataEncode entries = .ok [1, 1, 0, 97, 122, 1, 0, 0, 98] := by
  obtain ⟨hvalid, _, _, hfind⟩ := metadata_codec.2.1
    [⟨[97], [122], by decide, by decide⟩, ⟨[98], [], by decide, by decide⟩]
    [1, 1, 0, 97, 122, 1, 0, 0, 98] rfl
  exact ⟨hvalid, (hfind _ (.tail _ (.head _))).2, metadata_codec.2.2 _ hvalid⟩

end Trpc
