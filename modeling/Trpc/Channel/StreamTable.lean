import Trpc.Lib.Counting
import Trpc.Lib.Probing
import Trpc.Lib.Runs
import Trpc.Channel.Slot

/-!
# The stream table

How a Channel stores its streams: an array of slots with a free list threaded
through it, and an index from stream ids to slots, which is a hash table with
linear probing.

The deletion loop of the index has no bound in the code; here it has the fuel
`indexCapacity`, and no answer stands for a loop that goes on.  A slot is here
what the table knows about it.  Positions are `size_t` of 64 bits.

`StreamTable.Ok` is the invariant.  The index part of it is `Lib.Probing.Sound`;
the masks of the code are the remainders of the library.
-/

namespace Trpc

open Function List Option Lib

/-- `TR_STREAM_FREE_NONE`. -/
def streamFreeNone : Nat := uint32Max

/-- `struct tr_stream_index_entry`; a zero id marks an empty entry. -/
structure StreamIndexEntry where
  streamId : UInt32
  slot : Nat
  deriving DecidableEq, Repr

/-- What the table knows about a slot; no state stands for
`TR_STREAM_SLOT_FREE`. -/
structure TableSlot where
  generation : Nat
  freeNext : Nat
  state : Option SlotState
  lane : Lane
  streamId : UInt32
  deriving DecidableEq, Repr

/-- A slot cleared with `memset`. -/
def TableSlot.zero : TableSlot := ⟨0, 0, none, .control, 0⟩

/-- The fields of `struct tr_channel` that make up the table. -/
structure StreamTable where
  maxStreams : Nat
  mode : ChannelMode
  slots : Nat → TableSlot
  freeStreamHead : Nat
  index : Nat → StreamIndexEntry
  indexCapacity : Nat
  activeStreams : Nat
  drainActive : Lane → Nat

/-- `struct tr_stream_handle` without its channel. -/
structure StreamHandle where
  slot : Nat
  generation : Nat
  deriving DecidableEq, Repr

/-! ## The index -/

/-- `tr_channel_stream_id_hash`. -/
def channelStreamIdHash (streamId : UInt32) : UInt32 :=
  let value := streamId
  let value := value ^^^ (value >>> 16)
  let value := value * 0x7feb352d
  let value := value ^^^ (value >>> 15)
  let value := value * 0x846ca68b
  value ^^^ (value >>> 16)

/-- The loop of `tr_stream_index_capacity_for`; the capacity doubles. -/
def streamIndexGrow : Nat → Nat → Nat → Nat
  | 0, _, _ => 0
  | fuel + 1, capacity, target =>
    if capacity < target then
      if (2 ^ 64 - 1) / 2 < capacity then 0
      else streamIndexGrow fuel (capacity * 2) target
    else capacity

/-- `tr_stream_index_capacity_for`. -/
def streamIndexCapacityFor (maxStreams : Nat) : Nat :=
  if maxStreams = 0 then 0 else streamIndexGrow 65 1 (maxStreams * 2)

/-- `tr_stream_index_home`. -/
def streamIndexHome (capacity : Nat) (streamId : UInt32) : Nat :=
  (channelStreamIdHash streamId).toNat &&& (capacity - 1)

/-- `(from - to) & mask` on `size_t`. -/
def maskedDistance (mask stop start : Nat) : Nat :=
  ((stop + 2 ^ 64 - start) % 2 ^ 64) &&& mask

/-- The probe loop that insertion, removal and lookup share: it ends at an entry
with the id or at an empty entry. -/
def streamIndexFind (index : Nat → StreamIndexEntry) (mask : Nat) (streamId : UInt32) :
    Nat → Nat → Lib.Probing.Found
  | 0, _ => .exhausted
  | probes + 1, pos =>
    if (index pos).streamId = 0 then .vacant pos
    else if (index pos).streamId = streamId then .hit pos
    else streamIndexFind index mask streamId probes ((pos + 1) &&& mask)

/-- `tr_stream_index_insert_locked`. -/
def streamIndexInsert (t : StreamTable) (streamId : UInt32) (slot : Nat) :
    Status × (Nat → StreamIndexEntry) :=
  if streamId = 0 ∨ t.maxStreams ≤ slot ∨ t.indexCapacity = 0 then
    (.errInvalid, t.index)
  else
    match streamIndexFind t.index (t.indexCapacity - 1) streamId t.indexCapacity
        (streamIndexHome t.indexCapacity streamId) with
    | .vacant pos => (.ok, update t.index pos ⟨streamId, slot⟩)
    | .hit _ => (.errState, t.index)
    | .exhausted => (.again, t.index)

/-- The loop of `tr_stream_index_remove_locked` that closes the gap. -/
def streamIndexShift (capacity : Nat) : Nat → (Nat → StreamIndexEntry) → Nat → Nat →
    Option ((Nat → StreamIndexEntry) × Nat)
  | 0, _, _, _ => none
  | fuel + 1, index, hole, scan =>
    if (index scan).streamId = 0 then some (index, hole)
    else
      let mask := capacity - 1
      let home := streamIndexHome capacity (index scan).streamId
      let scanDistance := maskedDistance mask scan home
      let holeDistance := maskedDistance mask hole home
      if holeDistance < scanDistance then
        streamIndexShift capacity fuel (update index hole (index scan)) scan
          ((scan + 1) &&& mask)
      else streamIndexShift capacity fuel index hole ((scan + 1) &&& mask)

/-- `tr_stream_index_remove_locked`; no answer if its loop does not end. -/
def streamIndexRemove (t : StreamTable) (streamId : UInt32) :
    Option (Status × (Nat → StreamIndexEntry)) :=
  if streamId = 0 ∨ t.indexCapacity = 0 then some (.errInvalid, t.index)
  else
    match streamIndexFind t.index (t.indexCapacity - 1) streamId t.indexCapacity
        (streamIndexHome t.indexCapacity streamId) with
    | .hit hole =>
      match streamIndexShift t.indexCapacity t.indexCapacity t.index hole
          ((hole + 1) &&& (t.indexCapacity - 1)) with
      | none => none
      | some (index, hole) => some (.ok, update index hole ⟨0, 0⟩)
    | _ => some (.errStale, t.index)

/-- `tr_stream_lookup_id`: the slot of a stream id. -/
def streamLookupId (t : StreamTable) (streamId : UInt32) : Option Nat :=
  if streamId = 0 ∨ t.indexCapacity = 0 then none
  else
    match streamIndexFind t.index (t.indexCapacity - 1) streamId t.indexCapacity
        (streamIndexHome t.indexCapacity streamId) with
    | .hit pos =>
      let slot := (t.index pos).slot
      if t.maxStreams ≤ slot then none
      else if (t.slots slot).state = none ∨ (t.slots slot).streamId ≠ streamId then none
      else some slot
    | _ => none

/-! ## Slots -/

/-- `tr_stream_lookup_handle`. -/
def streamLookupHandle (t : StreamTable) (handle : StreamHandle) : Option TableSlot :=
  if t.maxStreams ≤ handle.slot then none
  else if (t.slots handle.slot).state = none ∨
      (t.slots handle.slot).generation ≠ handle.generation then none
  else some (t.slots handle.slot)

/-- Clear a slot but for its generation, and put it at the head of the free list
unless its generations are used up. -/
def StreamTable.retire (t : StreamTable) (slot generation : Nat) : StreamTable :=
  if generation ≠ uint32Max then
    { t with
      slots := update t.slots slot
        { TableSlot.zero with generation, freeNext := t.freeStreamHead }
      freeStreamHead := slot }
  else
    { t with
      slots := update t.slots slot
        { TableSlot.zero with generation, freeNext := streamFreeNone } }

/-- The connection whose count a stream of the lane is in. -/
def StreamTable.connection (t : StreamTable) (lane : Lane) : Lane :=
  channelConnection t.mode lane

/-- `tr_stream_free_locked`; no answer if the index loop does not end. -/
def streamFree (t : StreamTable) (slot : Nat) : Option StreamTable :=
  if t.maxStreams ≤ slot then some t
  else
    let stream := t.slots slot
    if stream.state = none then some t
    else
      let conn := t.connection stream.lane
      match streamIndexRemove t stream.streamId with
      | none => none
      | some (_, index) =>
        some { StreamTable.retire { t with index } slot stream.generation with
          drainActive := update t.drainActive conn (t.drainActive conn - 1)
          activeStreams := t.activeStreams - 1 }

/-- `tr_stream_allocate_locked`: the status, the handle and the table. -/
def streamAllocate (t : StreamTable) (streamId : UInt32) (lane : Lane)
    (state : SlotState) : Status × Option StreamHandle × StreamTable :=
  let slot := t.freeStreamHead
  if slot = streamFreeNone then (.again, none, t)
  else
    let generation := (t.slots slot).generation + 1
    let taken := { t with
      freeStreamHead := (t.slots slot).freeNext
      slots := update t.slots slot
        ⟨generation, streamFreeNone, some state, lane, streamId⟩ }
    match streamIndexInsert taken streamId slot with
    | (.ok, index) =>
      let conn := t.connection lane
      (.ok, some ⟨slot, generation⟩, { taken with
        index
        activeStreams := t.activeStreams + 1
        drainActive := update t.drainActive conn (t.drainActive conn + 1) })
    | (ret, _) => (ret, none, taken.retire slot generation)

/-- The table that `tr_channel_create` builds. -/
def StreamTable.create (maxStreams : Nat) (mode : ChannelMode) : StreamTable where
  maxStreams := maxStreams
  mode := mode
  slots i := { TableSlot.zero with
    freeNext := if i + 1 < maxStreams then i + 1 else streamFreeNone }
  freeStreamHead := 0
  index _ := ⟨0, 0⟩
  indexCapacity := streamIndexCapacityFor maxStreams
  activeStreams := 0
  drainActive _ := 0

/-! ## Runs -/

/-- The operations on the table. -/
inductive TableOp
  | allocate (streamId : UInt32) (lane : Lane) (state : SlotState)
  | free (slot : Nat)
  deriving DecidableEq, Repr

/-- A table and the handles of the streams that were freed. -/
structure TableRun where
  table : StreamTable
  freed : List StreamHandle

/-- One operation; a freed stream leaves its handle behind. -/
def tableStep (r : TableRun) : TableOp → Option TableRun
  | .allocate streamId lane state =>
    some { r with table := (streamAllocate r.table streamId lane state).2.2 }
  | .free slot =>
    (streamFree r.table slot).map fun table =>
      if slot < r.table.maxStreams ∧ (r.table.slots slot).state ≠ none then
        ⟨table, ⟨slot, (r.table.slots slot).generation⟩ :: r.freed⟩
      else ⟨table, r.freed⟩

/-! ## The loops of the index and those of the library -/

/-- The id of an entry that is in use. -/
def StreamIndexEntry.key (entry : StreamIndexEntry) : Option UInt32 :=
  if entry.streamId = 0 then none else some entry.streamId

variable {entry : StreamIndexEntry}

theorem StreamIndexEntry.key_eq_none :
    entry.key = none ↔ entry.streamId = 0 := by
  unfold key
  split <;> simp_all

theorem StreamIndexEntry.key_eq_some {id : UInt32} :
    entry.key = some id ↔ entry.streamId = id ∧ id ≠ 0 := by
  unfold key
  split
  · simp_all
  constructor
  · intro h
    cases h
    exact ⟨rfl, ‹_›⟩
  · rintro ⟨rfl, -⟩
    rfl

open StreamIndexEntry StreamTable

section Loops

variable {k : Nat}

theorem and_mask (n : Nat) : n &&& (2 ^ k - 1) = n % 2 ^ k :=
  Nat.and_two_pow_sub_one_eq_mod n k

theorem maskedDistance_eq (hk : k ≤ 64) {start stop : Nat} (hstart : start < 2 ^ k) :
    maskedDistance (2 ^ k - 1) stop start = Lib.Probing.dist (2 ^ k) start stop := by
  have hpow : 2 ^ 64 = 2 ^ k * 2 ^ (64 - k) := by
    rw [← pow_add]
    congr 1
    omega
  have hpos : 0 < 2 ^ (64 - k) := Nat.two_pow_pos _
  -- The two sums differ by a multiple of the capacity.
  have hsum : stop + 2 ^ 64 - start = stop + 2 ^ k - start + 2 ^ k * (2 ^ (64 - k) - 1) := by
    have hmul : 2 ^ k * 2 ^ (64 - k) = 2 ^ k + 2 ^ k * (2 ^ (64 - k) - 1) := by
      rw [Nat.mul_sub_one]
      have := Nat.le_mul_of_pos_right (2 ^ k) hpos
      omega
    rw [hpow, hmul]
    omega
  rw [maskedDistance, and_mask, Nat.mod_mod_of_dvd _ (hpow ▸ Nat.dvd_mul_right _ _),
    hsum, Nat.add_mul_mod_self_left, Lib.Probing.dist]

theorem streamIndexHome_lt (streamId : UInt32) : streamIndexHome (2 ^ k) streamId < 2 ^ k := by
  rw [streamIndexHome, and_mask]
  exact Nat.mod_lt _ (Nat.two_pow_pos k)

theorem streamIndexFind_eq (index : Nat → StreamIndexEntry) (streamId : UInt32) (probes pos : Nat) :
    streamIndexFind index (2 ^ k - 1) streamId probes pos =
      Lib.Probing.probe (2 ^ k) StreamIndexEntry.key index streamId probes pos := by
  induction probes generalizing pos with
  | zero => rfl
  | succ probes ih =>
    rw [streamIndexFind, Lib.Probing.probe, and_mask, ih, key]
    by_cases h0 : (index pos).streamId = 0
    · rw [if_pos h0, if_pos h0]
    · rw [if_neg h0, if_neg h0]
      rfl

theorem streamIndexShift_eq (hk : k ≤ 64) (fuel : Nat) (index : Nat → StreamIndexEntry)
    (hole scan : Nat) :
    streamIndexShift (2 ^ k) fuel index hole scan =
      Lib.Probing.shift (2 ^ k) (streamIndexHome (2 ^ k)) StreamIndexEntry.key fuel index
        hole scan := by
  induction fuel generalizing index hole scan with
  | zero => rfl
  | succ fuel ih =>
    rw [streamIndexShift, Lib.Probing.shift, key]
    by_cases h0 : (index scan).streamId = 0
    · rw [if_pos h0, if_pos h0]
    rw [if_neg h0, if_neg h0]
    dsimp only
    rw [maskedDistance_eq hk (streamIndexHome_lt _),
      maskedDistance_eq hk (streamIndexHome_lt _), and_mask, ih, ih]
    rfl

end Loops

/-! ## The index holds the live slots -/

/-- The id of a slot that is in use. -/
def TableSlot.live (slot : TableSlot) : Option UInt32 :=
  if slot.state = none then none else some slot.streamId

/-- The index, for the ids of the live slots. -/
structure IndexOk (max cap : Nat) (ids : Nat → Option UInt32)
    (index : Nat → StreamIndexEntry) : Prop where
  power : ∃ k ≤ 64, cap = 2 ^ k
  room : max < cap
  sound : Lib.Probing.Sound cap (streamIndexHome cap) StreamIndexEntry.key index
  entry : ∀ pos < cap, (index pos).streamId ≠ 0 →
    (index pos).slot < max ∧ ids (index pos).slot = some (index pos).streamId
  stored : ∀ slot < max, ∀ id, ids slot = some id → id ≠ 0 ∧ ∃ pos < cap, index pos = ⟨id, slot⟩

section Index

variable {max cap : Nat} {ids : Nat → Option UInt32} {index : Nat → StreamIndexEntry}

/-- The probe loop for an id. -/
def indexFind (cap : Nat) (index : Nat → StreamIndexEntry) (id : UInt32) : Lib.Probing.Found :=
  streamIndexFind index (cap - 1) id cap (streamIndexHome cap id)

section

variable (h : IndexOk max cap ids index)

include h

variable {id : UInt32}

/-- The probe loop finds the entry of a live slot. -/
theorem IndexOk.find_live {slot : Nat} (hslot : slot < max) (hid : ids slot = some id) :
    ∃ pos < cap, index pos = ⟨id, slot⟩ ∧ indexFind cap index id = .hit pos := by
  obtain ⟨k, -, rfl⟩ := h.power
  obtain ⟨h0, pos, hpos, hentry⟩ := h.stored slot hslot id hid
  refine ⟨pos, hpos, hentry, ?_⟩
  rw [indexFind, streamIndexFind_eq]
  refine h.sound.probe_hit hpos (key_eq_some.mpr ⟨?_, h0⟩)
  rw [hentry]

/-- The probe loop for an id that no live slot has ends at an empty entry, where
the id may be stored. -/
theorem IndexOk.find_absent (habsent : ∀ slot < max, ids slot ≠ some id) :
    ∃ pos < cap, (index pos).streamId = 0 ∧ indexFind cap index id = .vacant pos ∧
      ∀ d < Lib.Probing.dist cap (streamIndexHome cap id) pos,
        (index ((streamIndexHome cap id + d) % cap)).key ≠ none := by
  obtain ⟨k, -, rfl⟩ := h.power
  obtain ⟨pos, hpos, hnone, hprobe, hpath⟩ := h.sound.probe_vacant (k := id)
    (fun pos hpos hkey => by
      obtain ⟨rfl, h0⟩ := key_eq_some.mp hkey
      obtain ⟨hslot, hid⟩ := h.entry pos hpos h0
      exact habsent _ hslot hid)
  refine ⟨pos, hpos, key_eq_none.mp hnone, ?_, hpath⟩
  rw [indexFind, streamIndexFind_eq]
  exact hprobe

/-- No slot is stored in two entries. -/
theorem IndexOk.entry_inj {i j : Nat} (hi : i < cap)
    (hj : j < cap) (hi0 : (index i).streamId ≠ 0) (hj0 : (index j).streamId ≠ 0)
    (heq : (index i).slot = (index j).slot) : i = j := by
  have hids := (h.entry i hi hi0).2
  rw [heq, (h.entry j hj hj0).2] at hids
  refine h.sound.inj i hi j hj (index i).streamId (key_eq_some.mpr ⟨rfl, hi0⟩)
    (key_eq_some.mpr ⟨some.inj hids, hi0⟩)

/-- Storing a new id in the empty entry at which its search ended. -/
theorem IndexOk.insert {slot pos : Nat} (hslot : slot < max) (hfree : ids slot = none) (h0 : id ≠ 0)
    (habsent : ∀ s < max, ids s ≠ some id) (hpos : pos < cap)
    (hempty : (index pos).streamId = 0)
    (hpath : ∀ d < Lib.Probing.dist cap (streamIndexHome cap id) pos,
      (index ((streamIndexHome cap id + d) % cap)).key ≠ none) :
    IndexOk max cap (update ids slot (some id))
      (update index pos ⟨id, slot⟩) := by
  have hother {i : Nat} (hi : i < cap) (hi0 : (index i).streamId ≠ 0) :
      i ≠ pos ∧ (index i).slot ≠ slot := by
    have := h.entry i hi hi0
    grind
  have hcell (i : Nat) : update index pos ⟨id, slot⟩ i =
      if i = pos then ⟨id, slot⟩ else index i := update_apply ..
  have hids (s : Nat) : update ids slot (some id) s =
      if s = slot then some id else ids s := update_apply ..
  have hnew : (⟨id, slot⟩ : StreamIndexEntry).key = some id :=
    StreamIndexEntry.key_eq_some.mpr ⟨rfl, h0⟩
  -- The entries still point injectively into the slots, so one stays empty.
  obtain ⟨vacant, hvacant, hnone⟩ := @Lib.Probing.exists_vacant _ _ cap
    StreamIndexEntry.key (update index pos ⟨id, slot⟩) max
    StreamIndexEntry.slot h.room
    (fun i hi hkey => by have := h.entry i hi; grind [key_eq_none])
    (fun i hi j hj hki hkj heq => by grind [h.entry_inj, key_eq_none])
  have hvp : vacant ≠ pos := by grind
  rw [update_of_ne hvp] at hnone
  refine ⟨h.power, h.room, ?_, fun i hi hi0 => ?_, fun s hs id' hid => ?_⟩
  · refine h.sound.insert hnew
      (fun i hi hkey => ?_) hpath ⟨vacant, hvacant, hvp, hnone⟩
    obtain ⟨rfl, hi0⟩ := key_eq_some.mp hkey
    obtain ⟨hs, hid⟩ := h.entry i hi hi0
    exact habsent _ hs hid
  · grind [h.entry i]
  · by_cases heq : s = slot
    · exact ⟨by grind, pos, hpos, by grind⟩
    · obtain ⟨hid0, i, hi, hentry⟩ := h.stored s hs id' (by grind)
      exact ⟨hid0, i, hi, by grind⟩

/-- Taking the entry of a live slot out: the deletion loop ends. -/
theorem IndexOk.remove {slot : Nat} (hslot : slot < max) (hid : ids slot = some id) :
    ∃ hole index' hole', indexFind cap index id = .hit hole ∧
      streamIndexShift cap cap index hole ((hole + 1) &&& (cap - 1)) = some (index', hole') ∧
      IndexOk max cap (update ids slot none) (update index' hole' ⟨0, 0⟩) := by
  obtain ⟨hole, hhole, hentry, hfind⟩ := h.find_live hslot hid
  have hid0 := (h.stored slot hslot id hid).1
  have hids (s : Nat) : update ids slot none s = if s = slot then none else ids s :=
    update_apply ..
  obtain ⟨k, hk, rfl⟩ := h.power
  obtain ⟨index', hole', hrun, hsound, hcells⟩ := h.sound.remove hhole
    (show (index hole).key = some id from
      key_eq_some.mpr ⟨by rw [hentry], hid0⟩)
    (show (⟨0, 0⟩ : StreamIndexEntry).key = none from rfl)
  refine ⟨hole, index', hole', hfind, ?_, h.power, h.room, hsound, fun i hi hi0 => ?_,
    fun s hs id' hid' => ?_⟩
  · rw [streamIndexShift_eq hk, and_mask]
    exact hrun
  · -- An entry that is left is an old entry of another slot.
    obtain ⟨j, hj, hne, heq⟩ := (hcells _ fun hnone => hi0 (key_eq_none.mp hnone)).mp ⟨i, hi, rfl⟩
    rw [← heq] at hi0 ⊢
    have := h.entry_inj hj hhole hi0
    grind [h.entry j hj hi0]
  · obtain ⟨h0, j, hj, heq⟩ := h.stored s hs id' (by grind)
    exact ⟨h0, (hcells ⟨id', s⟩ fun hnone => h0 (key_eq_none.mp hnone)).mpr
      ⟨j, hj, by grind, heq⟩⟩

end

end Index

/-! ## The free list -/

/-- The list that starts at a head and is threaded through the slots. -/
inductive FreeChain (slots : Nat → TableSlot) : Nat → List Nat → Prop
  | nil : FreeChain slots streamFreeNone []
  | cons {slot : Nat} {rest : List Nat} (ne : slot ≠ streamFreeNone)
      (tail : FreeChain slots (slots slot).freeNext rest) :
      FreeChain slots slot (slot :: rest)

/-- The free list holds the free slots that have a generation left, each once. -/
structure FreeOk (max : Nat) (slots : Nat → TableSlot) (head : Nat) (list : List Nat) :
    Prop where
  chain : FreeChain slots head list
  nodup : list.Nodup
  mem : ∀ slot, slot ∈ list ↔
    slot < max ∧ (slots slot).state = none ∧ (slots slot).generation ≠ uint32Max

section Free

variable {max head slot : Nat} {slots : Nat → TableSlot} {list : List Nat}

/-- A slot outside the list may change. -/
theorem FreeChain.update (h : FreeChain slots head list) (hslot : slot ∉ list)
    (value : TableSlot) : FreeChain (update slots slot value) head list := by
  induction h with
  | nil => exact .nil
  | @cons s rest ne _ ih =>
    have hne : s ≠ slot := fun heq => hslot (heq ▸ mem_cons_self)
    refine .cons ne ?_
    rw [update_of_ne hne]
    exact ih fun hmem => hslot (mem_cons_of_mem _ hmem)

/-- Taking the head of the list. -/
theorem FreeOk.take (h : FreeOk max slots head list) (hhead : head ≠ streamFreeNone) :
    ∃ rest, list = head :: rest := by
  cases h.chain with
  | nil => exact absurd rfl hhead
  | cons ne tail => exact ⟨_, rfl⟩

/-- The rest of the list, when its head is in use. -/
theorem FreeOk.taken {rest : List Nat} (h : FreeOk max slots head (head :: rest))
    {value : TableSlot} (hvalue : value.state ≠ none) :
    FreeOk max (update slots head value) (slots head).freeNext rest := by
  obtain ⟨hnot, hnodup⟩ := nodup_cons.mp h.nodup
  cases h.chain with
  | cons ne tail =>
    refine ⟨tail.update hnot value, hnodup, fun s => ?_⟩
    rw [update_apply]
    grind [h.mem s]

/-- A slot in use goes back to the list, or is not used again. -/
theorem FreeOk.retire (h : FreeOk max slots head list) (hslot : slot < max)
    (hmax : max ≤ uint32Max) (hlive : (slots slot).state ≠ none) (generation : Nat) :
    ∃ list', FreeOk max (update slots slot { TableSlot.zero with
        generation, freeNext := if generation ≠ uint32Max then head else streamFreeNone })
      (if generation ≠ uint32Max then slot else head) list' := by
  have hnot : slot ∉ list := fun hmem => hlive ((h.mem slot).mp hmem).2.1
  generalize hvalue : { TableSlot.zero with
    generation
    freeNext := if generation ≠ uint32Max then head else streamFreeNone } = value
  have hchain := h.chain.update hnot value
  have hcell (s : Nat) : update slots slot value s = if s = slot then value else slots s :=
    update_apply ..
  have hstate : value.state = none := hvalue ▸ rfl
  by_cases hleft : generation ≠ uint32Max
  · rw [if_pos hleft]
    refine ⟨slot :: list, .cons ?_ ?_, nodup_cons.mpr ⟨hnot, h.nodup⟩, fun s => ?_⟩
    · rw [streamFreeNone]
      omega
    · rwa [update_self, show value.freeNext = head from hvalue ▸ if_pos hleft]
    · grind [h.mem s]
  · rw [if_neg hleft]
    exact ⟨list, hchain, h.nodup, fun s => by grind [h.mem s]⟩

end Free

/-! ## The counters -/

/-- Slots in use. -/
def StreamTable.isLive (t : StreamTable) (slot : Nat) : Bool :=
  (t.slots slot).state.isSome

/-- Slots in use whose streams run on a connection. -/
def StreamTable.isLiveOn (t : StreamTable) (conn : Lane) (slot : Nat) : Bool :=
  t.isLive slot && decide (t.connection (t.slots slot).lane = conn)

/-! ## The invariant of the table -/

/-- Index, free list and counters agree on which slots are in use. -/
structure StreamTable.Ok (t : StreamTable) : Prop where
  max_le : t.maxStreams ≤ uint32Max
  index : IndexOk t.maxStreams t.indexCapacity (fun slot => (t.slots slot).live) t.index
  free : ∃ list, FreeOk t.maxStreams t.slots t.freeStreamHead list
  active : t.activeStreams = slotCount t.maxStreams t.isLive
  drain : ∀ conn, t.drainActive conn = slotCount t.maxStreams (t.isLiveOn conn)

/-- Slots grow older, and one that comes into use is older than it was. -/
structure StreamTable.Ages (t t' : StreamTable) : Prop where
  max_eq : t'.maxStreams = t.maxStreams
  generation_le : ∀ slot, (t.slots slot).generation ≤ (t'.slots slot).generation
  live : ∀ slot, (t'.slots slot).state ≠ none → (t.slots slot).state ≠ none ∨
      (t.slots slot).generation < (t'.slots slot).generation

section Create

/-- The capacity is the first power of two that reaches the target. -/
theorem streamIndexGrow_eq {fuel j target : Nat} (htarget : target ≤ 2 ^ 33)
    (hj : j ≤ 33) (hfuel : 34 ≤ j + fuel) :
    ∃ k ≤ 33, streamIndexGrow fuel (2 ^ j) target = 2 ^ k ∧ target ≤ 2 ^ k := by
  induction fuel generalizing j with
  | zero => omega
  | succ fuel ih =>
    rw [streamIndexGrow]
    by_cases hlt : 2 ^ j < target
    · have hj' : j < 33 := (Nat.pow_lt_pow_iff_right (by decide)).mp (hlt.trans_le htarget)
      have hsmall : ¬ (2 ^ 64 - 1) / 2 < 2 ^ j := by
        have : 2 ^ j ≤ 2 ^ 33 := hlt.le.trans htarget
        omega
      rw [if_pos hlt, if_neg hsmall, ← pow_succ]
      exact ih hj' (by omega)
    · rw [if_neg hlt]
      exact ⟨j, hj, rfl, Nat.not_lt.mp hlt⟩

variable {maxStreams : Nat}

theorem streamIndexCapacityFor_eq (h0 : 0 < maxStreams) (hmax : maxStreams ≤ uint32Max) :
    ∃ k ≤ 64, streamIndexCapacityFor maxStreams = 2 ^ k ∧ maxStreams * 2 ≤ 2 ^ k := by
  rw [streamIndexCapacityFor, if_neg (by omega)]
  obtain ⟨k, hk, heq, hle⟩ := @streamIndexGrow_eq 65 0 (maxStreams * 2)
    (by rw [uint32Max] at hmax; omega) (by decide) (by decide)
  exact ⟨k, by omega, heq, hle⟩

/-- The free list of a new table. -/
theorem freeChain_create {mode : ChannelMode}
    (hmax : maxStreams ≤ uint32Max) {n i : Nat} (hi : i + (n + 1) = maxStreams) :
    FreeChain (StreamTable.create maxStreams mode).slots i (List.range' i (n + 1)) := by
  induction n generalizing i with
  | zero =>
    refine .cons (by rw [streamFreeNone]; omega) ?_
    rw [show ((create maxStreams mode).slots i).freeNext = streamFreeNone from
      if_neg (by omega)]
    exact .nil
  | succ n ih =>
    refine .cons (by rw [streamFreeNone]; omega) ?_
    rw [show ((create maxStreams mode).slots i).freeNext = i + 1 from
      if_pos (by omega)]
    exact ih (by omega)

theorem StreamTable.create_ok (mode : ChannelMode)
    (h0 : 0 < maxStreams) (hmax : maxStreams ≤ uint32Max) :
    (StreamTable.create maxStreams mode).Ok := by
  obtain ⟨k, hk, hcap, hroom⟩ := streamIndexCapacityFor_eq h0 hmax
  refine ⟨hmax, ⟨⟨k, hk, hcap⟩, ?_, ?_, fun _ _ h => absurd rfl h, nofun⟩,
    ⟨range' 0 maxStreams, ?_, nodup_range', fun slot => ?_⟩, ?_, fun conn => ?_⟩
  · change maxStreams < streamIndexCapacityFor maxStreams
    omega
  · have hempty : Lib.Probing.Sound (2 ^ k) (streamIndexHome (2 ^ k))
        key fun _ => ⟨0, 0⟩ :=
      ⟨streamIndexHome_lt, nofun, nofun, 0, Nat.two_pow_pos k, rfl⟩
    rw [← hcap] at hempty
    exact hempty
  · obtain ⟨n, rfl⟩ : ∃ n, maxStreams = n + 1 := ⟨maxStreams - 1, by omega⟩
    change FreeChain _ 0 _
    exact freeChain_create hmax (Nat.zero_add _)
  · rw [mem_range'_1, Nat.zero_add]
    exact ⟨fun h => ⟨h.2, rfl, by change 0 ≠ uint32Max; decide⟩, fun h => ⟨Nat.zero_le _, h.1⟩⟩
  · simp [slotCount, create, isLive, TableSlot.zero]
  · simp [slotCount, create, isLiveOn, isLive, TableSlot.zero]

end Create

section Operations

variable {t : StreamTable} {slot generation : Nat}

theorem StreamTable.retire_spec (t : StreamTable) (slot generation : Nat) :
    (t.retire slot generation).slots = update t.slots slot { TableSlot.zero with
        generation
        freeNext := if generation ≠ uint32Max then t.freeStreamHead else streamFreeNone } ∧
      (t.retire slot generation).freeStreamHead =
        (if generation ≠ uint32Max then slot else t.freeStreamHead) ∧
      (t.retire slot generation).maxStreams = t.maxStreams ∧
      (t.retire slot generation).mode = t.mode ∧
      (t.retire slot generation).index = t.index ∧
      (t.retire slot generation).indexCapacity = t.indexCapacity ∧
      (t.retire slot generation).activeStreams = t.activeStreams ∧
      (t.retire slot generation).drainActive = t.drainActive := by
  unfold retire
  split <;> exact ⟨rfl, rfl, rfl, rfl, rfl, rfl, rfl, rfl⟩

variable {ids : Nat → Option UInt32} {id : UInt32}

/-- Insertion stores the id, or leaves the index as it is. -/
theorem streamIndexInsert_spec
    (h : IndexOk t.maxStreams t.indexCapacity ids t.index) (hslot : slot < t.maxStreams)
    (hfree : ids slot = none) :
    (∃ index, streamIndexInsert t id slot = (.ok, index) ∧
      IndexOk t.maxStreams t.indexCapacity (update ids slot (some id)) index) ∨
    (∃ ret, ret ≠ .ok ∧ streamIndexInsert t id slot = (ret, t.index)) := by
  have hroom := h.room
  unfold streamIndexInsert
  by_cases h0 : id = 0
  · exact .inr ⟨.errInvalid, nofun, if_pos (.inl h0)⟩
  have hargs : ¬ (id = 0 ∨ t.maxStreams ≤ slot ∨ t.indexCapacity = 0) :=
    not_or.mpr ⟨h0, by omega⟩
  rw [if_neg hargs]
  rw [← indexFind]
  by_cases hpresent : ∃ s < t.maxStreams, ids s = some id
  · obtain ⟨s, hs, hid⟩ := hpresent
    obtain ⟨pos, -, -, hfind⟩ := h.find_live hs hid
    rw [hfind]
    exact .inr ⟨.errState, nofun, rfl⟩
  · have habsent : ∀ s < t.maxStreams, ids s ≠ some id :=
      fun s hs hid => hpresent ⟨s, hs, hid⟩
    obtain ⟨pos, hpos, hempty, hfind, hpath⟩ := h.find_absent habsent
    rw [hfind]
    exact .inl ⟨_, rfl, h.insert hslot hfree h0 habsent hpos hempty hpath⟩

/-- Removal of a live id ends and takes it out. -/
theorem streamIndexRemove_spec
    (h : IndexOk t.maxStreams t.indexCapacity ids t.index) (hslot : slot < t.maxStreams)
    (hid : ids slot = some id) :
    ∃ index, streamIndexRemove t id = some (.ok, index) ∧
      IndexOk t.maxStreams t.indexCapacity (update ids slot none) index := by
  have hroom := h.room
  have h0 := (h.stored slot hslot id hid).1
  obtain ⟨hole, index', hole', hfind, hshift, hok⟩ := h.remove hslot hid
  refine ⟨_, ?_, hok⟩
  unfold streamIndexRemove
  have hargs : ¬ (id = 0 ∨ t.indexCapacity = 0) := not_or.mpr ⟨h0, by omega⟩
  rw [if_neg hargs]
  rw [← indexFind, hfind]
  dsimp only
  rw [hshift]

/-- Lookup by id finds exactly the live slot with the id. -/
theorem StreamTable.Ok.lookup (h : t.Ok) :
    streamLookupId t id = some slot ↔ slot < t.maxStreams ∧ (t.slots slot).live = some id := by
  have hroom := h.index.room
  have hlive {s : Nat} (hs : (t.slots s).live = some id) :
      (t.slots s).state ≠ none ∧ (t.slots s).streamId = id := by
    unfold TableSlot.live at hs
    split at hs
    · cases hs
    · exact ⟨‹_›, some.inj hs⟩
  unfold streamLookupId
  by_cases h0 : id = 0
  · rw [if_pos (.inl h0)]
    constructor
    · nofun
    · rintro ⟨hs, hid⟩
      exact absurd h0 (h.index.stored slot hs id hid).1
  have hargs : ¬ (id = 0 ∨ t.indexCapacity = 0) := not_or.mpr ⟨h0, by omega⟩
  rw [if_neg hargs]
  rw [← indexFind]
  by_cases hpresent : ∃ s < t.maxStreams, (t.slots s).live = some id
  · obtain ⟨s, hs, hid⟩ := hpresent
    obtain ⟨pos, hpos, hentry, hfind⟩ := h.index.find_live hs hid
    obtain ⟨hstate, hstream⟩ := hlive hid
    rw [hfind]
    dsimp only
    rw [hentry, if_neg (Nat.not_le.mpr hs), if_neg (by simp [hstate, hstream])]
    constructor
    · intro heq
      cases heq
      exact ⟨hs, hid⟩
    · rintro ⟨hs', hid'⟩
      -- Two live slots with one id would be two entries of one id.
      obtain ⟨pos', -, hentry', hfind'⟩ := h.index.find_live hs' hid'
      rw [hfind] at hfind'
      cases hfind'
      rw [hentry] at hentry'
      rw [(StreamIndexEntry.mk.inj hentry').2]
  · obtain ⟨pos, -, -, hfind, -⟩ := h.index.find_absent (fun s hs hid => hpresent ⟨s, hs, hid⟩)
    rw [hfind]
    constructor
    · nofun
    · exact fun hs => absurd ⟨slot, hs⟩ hpresent

end Operations

section Counters

variable {t t' : StreamTable} {slot : Nat}

/-- One more slot in use: its connection and the table count one more. -/
theorem counts_add {lane : Lane} (hmode : t'.mode = t.mode) (hslot : slot < t.maxStreams)
    (hbefore : (t.slots slot).state = none) (hafter : (t'.slots slot).state ≠ none)
    (hlane : (t'.slots slot).lane = lane) (hsame : ∀ s, s ≠ slot → t'.slots s = t.slots s) :
    slotCount t.maxStreams t'.isLive = slotCount t.maxStreams t.isLive + 1 ∧
    ∀ conn, slotCount t.maxStreams (t'.isLiveOn conn) = slotCount t.maxStreams (t.isLiveOn conn) +
        if t.connection lane = conn then 1 else 0 := by
  subst hlane
  have hconn (lane : Lane) : t'.connection lane = t.connection lane := by
    rw [connection, connection, hmode]
  have hlive := @slotCount_update t.maxStreams slot t.isLive t'.isLive hslot
    fun s hs => by rw [isLive, isLive, hsame s hs]
  refine ⟨?_, fun conn => ?_⟩
  · simpa [isLive, hbefore, isSome_iff_ne_none.mpr hafter] using hlive
  · have hon := @slotCount_update t.maxStreams slot (t.isLiveOn conn) (t'.isLiveOn conn) hslot
      fun s hs => by simp only [isLiveOn, isLive, hsame s hs, hconn]
    simp only [isLiveOn, isLive, hbefore, isSome_iff_ne_none.mpr hafter, hconn] at hon ⊢
    split <;> simp_all

/-- No slot comes into use or out of it. -/
theorem counts_same (hmode : t'.mode = t.mode) (hsame : ∀ s, t'.slots s = t.slots s ∨
      (t'.slots s).state = none ∧ (t.slots s).state = none) :
    slotCount t.maxStreams t'.isLive = slotCount t.maxStreams t.isLive ∧
    ∀ conn, slotCount t.maxStreams (t'.isLiveOn conn) =
      slotCount t.maxStreams (t.isLiveOn conn) := by
  have hlive : t'.isLive = t.isLive := funext fun s => by grind [isLive, hsame s]
  refine ⟨congrArg _ hlive, fun conn => congrArg _ (funext fun s => ?_)⟩
  rw [isLiveOn, isLiveOn, hlive]
  grind [isLive, connection, hsame s]

end Counters

section Steps

variable {t : StreamTable}

theorem live_update (slots : Nat → TableSlot) (slot : Nat) (value : TableSlot) :
    (fun s => (update slots slot value s).live) =
      update (fun s => (slots s).live) slot value.live :=
  comp_update TableSlot.live slots slot value

/-- One slot changes, and grows older. -/
theorem StreamTable.Ages.update {t' : StreamTable} {slot : Nat} {value : TableSlot}
    (hmax : t'.maxStreams = t.maxStreams) (hslots : t'.slots = update t.slots slot value)
    (hold : (t.slots slot).generation ≤ value.generation)
    (hlive : value.state ≠ none → (t.slots slot).generation < value.generation) : t.Ages t' := by
  have hcell (s : Nat) : t'.slots s = if s = slot then value else t.slots s := by
    rw [hslots, update_apply]
  exact ⟨hmax, fun s => by grind, fun s hs => by grind⟩

/-- A slot that was taken from the free list and goes back at once. -/
theorem StreamTable.Ok.giveBack (h : t.Ok) {value : TableSlot} {rest : List Nat}
    (hlist : FreeOk t.maxStreams t.slots t.freeStreamHead (t.freeStreamHead :: rest))
    (hused : value.state ≠ none) :
    (StreamTable.retire { t with
        freeStreamHead := (t.slots t.freeStreamHead).freeNext
        slots := update t.slots t.freeStreamHead value }
      t.freeStreamHead ((t.slots t.freeStreamHead).generation + 1)).Ok ∧
    t.Ages (StreamTable.retire { t with
        freeStreamHead := (t.slots t.freeStreamHead).freeNext
        slots := update t.slots t.freeStreamHead value }
      t.freeStreamHead ((t.slots t.freeStreamHead).generation + 1)) := by
  obtain ⟨hslot, hstate, -⟩ := (hlist.mem _).mp mem_cons_self
  obtain ⟨list', hlist'⟩ := (hlist.taken hused).retire hslot h.max_le
    (by rw [update_self]; exact hused) ((t.slots t.freeStreamHead).generation + 1)
  obtain ⟨hslots, hhead, hmax, hmode, hindex, hcap, hactive, hdrain⟩ :=
    retire_spec { t with
      freeStreamHead := (t.slots t.freeStreamHead).freeNext
      slots := update t.slots t.freeStreamHead value } t.freeStreamHead
        ((t.slots t.freeStreamHead).generation + 1)
  generalize retire _ _ _ = t' at *
  dsimp only at hslots hhead hmax hmode hindex hcap hactive hdrain
  rw [← hslots, ← hhead] at hlist'
  rw [update_idem] at hslots
  have hcounts := @counts_same t t' hmode fun s => by
    rw [hslots, update_apply]
    grind [TableSlot.zero]
  refine ⟨⟨hmax ▸ h.max_le, ?_, ⟨list', hmax ▸ hlist'⟩, ?_, fun conn => ?_⟩,
    .update hmax hslots (Nat.le_succ _) fun hused => absurd rfl hused⟩
  · have hlive : (fun s => (t'.slots s).live) = fun s => (t.slots s).live := by
      rw [hslots, live_update]
      exact update_eq_self_iff.mpr (if_pos hstate).symm
    rw [hmax, hcap, hindex, hlive]
    exact h.index
  · rw [hactive, hmax, hcounts.1]
    exact h.active
  · rw [hdrain, hmax, hcounts.2 conn]
    exact h.drain conn

/-- Allocation keeps the table sound, whatever it answers. -/
theorem StreamTable.Ok.allocate (h : t.Ok) (id : UInt32) (lane : Lane) (state : SlotState) :
    (streamAllocate t id lane state).2.2.Ok ∧ t.Ages (streamAllocate t id lane state).2.2 := by
  unfold streamAllocate
  by_cases hnone : t.freeStreamHead = streamFreeNone
  · rw [if_pos hnone]
    exact ⟨h, rfl, fun _ => le_refl _, fun _ hs => .inl hs⟩
  rw [if_neg hnone]
  obtain ⟨list, hlist⟩ := h.free
  obtain ⟨rest, rfl⟩ := hlist.take hnone
  obtain ⟨hslot, hstate, -⟩ := (hlist.mem _).mp mem_cons_self
  have hdead : (t.slots t.freeStreamHead).live = none := if_pos hstate
  dsimp only
  generalize hvalue : TableSlot.mk ((t.slots t.freeStreamHead).generation + 1)
    streamFreeNone (some state) lane id = value
  have hlive : value.live = some id := by
    rw [← hvalue]
    rfl
  have hused : value.state ≠ none := by
    rw [← hvalue]
    nofun
  have hgeneration : value.generation = (t.slots t.freeStreamHead).generation + 1 := by
    rw [← hvalue]
  have hlane : value.lane = lane := by rw [← hvalue]
  have hfree := hlist.taken hused
  rcases @streamIndexInsert_spec { t with
      freeStreamHead := (t.slots t.freeStreamHead).freeNext
      slots := update t.slots t.freeStreamHead value } _ _ id h.index hslot hdead
    with ⟨index, hinsert, hindex⟩ | ⟨ret, hret, hinsert⟩
  · rw [hinsert]
    dsimp only
    obtain ⟨hactive, hdrain⟩ := @counts_add t { t with
        freeStreamHead := (t.slots t.freeStreamHead).freeNext
        slots := update t.slots t.freeStreamHead value } _ lane rfl hslot hstate
      (by dsimp only; rw [update_self]; exact hused)
      (by dsimp only; rw [update_self]; exact hlane)
      (fun s hs => update_of_ne hs _ _)
    refine ⟨⟨h.max_le, ?_, ⟨rest, hfree⟩, ?_, fun conn => ?_⟩,
      .update rfl rfl (hgeneration ▸ Nat.le_succ _) fun _ => hgeneration ▸ Nat.lt_succ_self _⟩
    · dsimp only
      rw [live_update, hlive]
      exact hindex
    · exact (congrArg (· + 1) h.active).trans hactive.symm
    · refine Eq.trans ?_ (hdrain conn).symm
      grind [h.drain conn, update_apply]
  · -- The slot goes back with a generation used up.
    rw [hinsert]
    have hback := h.giveBack hlist hused
    cases ret <;> first | exact absurd rfl hret | exact hback

/-- Freeing ends and keeps the table sound. -/
theorem StreamTable.Ok.freeSlot (h : t.Ok) (slot : Nat) :
    ∃ t', streamFree t slot = some t' ∧ t'.Ok ∧ t.Ages t' ∧
      (slot < t.maxStreams → (t'.slots slot).state = none) := by
  unfold streamFree
  by_cases hslot : t.maxStreams ≤ slot
  · rw [if_pos hslot]
    exact ⟨t, rfl, h, ⟨rfl, fun _ => le_refl _, fun _ hs => .inl hs⟩,
      fun hlt => absurd hlt (Nat.not_lt.mpr hslot)⟩
  rw [if_neg hslot]
  dsimp only
  by_cases hstate : (t.slots slot).state = none
  · rw [if_pos hstate]
    exact ⟨t, rfl, h, ⟨rfl, fun _ => le_refl _, fun _ hs => .inl hs⟩, fun _ => hstate⟩
  rw [if_neg hstate]
  have hslot' : slot < t.maxStreams := Nat.not_le.mp hslot
  obtain ⟨index, hremove, hindex⟩ := streamIndexRemove_spec h.index hslot'
    (show (t.slots slot).live = some (t.slots slot).streamId from if_neg hstate)
  obtain ⟨list, hlist⟩ := h.free
  obtain ⟨list', hlist'⟩ := hlist.retire hslot' h.max_le hstate (t.slots slot).generation
  rw [hremove]
  dsimp only
  refine ⟨_, rfl, ?_⟩
  obtain ⟨hslots, hhead, hmax, hmode, hindex', hcap, hactive, hdrain⟩ :=
    retire_spec { t with index } slot (t.slots slot).generation
  generalize retire { t with index } slot (t.slots slot).generation = t' at *
  dsimp only at hslots hhead hmax hmode hindex' hcap hactive hdrain
  rw [← hslots, ← hhead] at hlist'
  have hdead : (t'.slots slot).state = none := by
    rw [hslots, update_self]
    rfl
  have hsame (s : Nat) (hs : s ≠ slot) : t.slots s = t'.slots s := by
    rw [hslots, update_of_ne hs]
  -- The old table has one more slot in use than the new one.
  have hcounts := @counts_add t' t slot _ hmode.symm (hmax ▸ hslot') hdead hstate rfl hsame
  rw [hmax] at hcounts
  have hconn : t'.connection (t.slots slot).lane = t.connection (t.slots slot).lane := by
    rw [connection, connection, hmode]
  rw [hconn] at hcounts
  refine ⟨⟨hmax ▸ h.max_le, ?_, ⟨list', hmax ▸ hlist'⟩, ?_, fun conn => ?_⟩,
    .update hmax hslots le_rfl fun hused => absurd rfl hused, fun _ => hdead⟩
  · dsimp only
    rw [hmax, hcap, hindex', hslots, live_update]
    exact hindex
  · have hone := hcounts.1
    have hold := h.active
    change t.activeStreams - 1 = slotCount t'.maxStreams t'.isLive
    rw [hmax]
    omega
  · have hone := hcounts.2 conn
    have hold := h.drain conn
    change update t.drainActive (t.connection (t.slots slot).lane) _ conn =
      slotCount t'.maxStreams (t'.isLiveOn conn)
    rw [hmax, update_apply]
    grind

/-! ## Runs of the table -/

/-- A sound table, and no freed handle that could resolve again. -/
structure TableRun.Ok (max : Nat) (r : TableRun) : Prop where
  table : r.table.Ok
  max_eq : r.table.maxStreams = max
  freed : ∀ handle ∈ r.freed, handle.generation ≤ (r.table.slots handle.slot).generation ∧
      ((r.table.slots handle.slot).state ≠ none →
        handle.generation < (r.table.slots handle.slot).generation)

/-- A handle that cannot resolve stays so as the slots age. -/
theorem StreamTable.Ages.stale {t t' : StreamTable} (h : t.Ages t') {handle : StreamHandle}
    (hstale : handle.generation ≤ (t.slots handle.slot).generation ∧
      ((t.slots handle.slot).state ≠ none → handle.generation < (t.slots handle.slot).generation)) :
    handle.generation ≤ (t'.slots handle.slot).generation ∧ ((t'.slots handle.slot).state ≠ none →
        handle.generation < (t'.slots handle.slot).generation) := by
  have hle := h.generation_le handle.slot
  refine ⟨hstale.1.trans hle, fun hlive => ?_⟩
  rcases h.live handle.slot hlive with hbefore | hyounger
  · exact (hstale.2 hbefore).trans_le hle
  · exact hstale.1.trans_lt hyounger

/-- Every operation ends and keeps the invariant. -/
theorem TableRun.Ok.step {max : Nat} {r : TableRun} (h : r.Ok max) (op : TableOp) :
    ∃ r', tableStep r op = some r' ∧ r'.Ok max := by
  cases op with
  | allocate id lane state =>
    obtain ⟨hok, hages⟩ := h.table.allocate id lane state
    exact ⟨_, rfl, hok, hages.max_eq.trans h.max_eq,
      fun handle hmem => hages.stale (h.freed handle hmem)⟩
  | free slot =>
    obtain ⟨t', hfree, hok, hages, hdead⟩ := h.table.freeSlot slot
    rw [tableStep, hfree]
    refine ⟨_, rfl, ?_⟩
    dsimp only
    split
    next hlive =>
      refine ⟨hok, hages.max_eq.trans h.max_eq, fun handle hmem => ?_⟩
      rcases mem_cons.mp hmem with rfl | hmem
      · exact ⟨hages.generation_le slot, fun hne => absurd (hdead hlive.1) hne⟩
      · exact hages.stale (h.freed handle hmem)
    · exact ⟨hok, hages.max_eq.trans h.max_eq, fun handle hmem => hages.stale (h.freed handle hmem)⟩

theorem slotCount_connections (t : StreamTable) : slotCount t.maxStreams t.isLive =
      slotCount t.maxStreams (t.isLiveOn .control) + slotCount t.maxStreams (t.isLiveOn .bulk) := by
  rw [slotCount_split fun s => decide (t.connection (t.slots s).lane = .control)]
  congr 1
  refine congrArg _ (funext fun s => ?_)
  rw [isLiveOn]
  congr 1
  cases t.connection (t.slots s).lane <;> rfl

/-- The stream table is sound after every sequence of allocations and frees: an id
is looked up to the live slot that has it, the free list holds the free slots
that have a generation left, each once, the counters count the live slots, the
index keeps an empty entry and every operation ends, and a freed handle does not
resolve again. -/
theorem stream_table_sound {maxStreams : Nat} (mode : ChannelMode) (h0 : 0 < maxStreams)
    (hmax : maxStreams ≤ uint32Max) (ops : List TableOp) (r : TableRun)
    (hrun : Lib.runSteps tableStep ⟨.create maxStreams mode, []⟩ ops = some r) :
    (∀ id slot, streamLookupId r.table id = some slot ↔
      slot < maxStreams ∧ (r.table.slots slot).state ≠ none ∧ (r.table.slots slot).streamId = id) ∧
    (∃ list, FreeChain r.table.slots r.table.freeStreamHead list ∧ list.Nodup ∧
      ∀ slot, slot ∈ list ↔ slot < maxStreams ∧ (r.table.slots slot).state = none ∧
        (r.table.slots slot).generation ≠ uint32Max) ∧
    (r.table.activeStreams = slotCount maxStreams r.table.isLive ∧ r.table.activeStreams =
        r.table.drainActive .control + r.table.drainActive .bulk ∧
      ∀ conn, r.table.drainActive conn = slotCount maxStreams (r.table.isLiveOn conn)) ∧
    (∃ pos < r.table.indexCapacity, (r.table.index pos).streamId = 0) ∧
    (∀ op, ∃ r', tableStep r op = some r') ∧
    (∀ handle ∈ r.freed, streamLookupHandle r.table handle = none) := by
  have h : r.Ok maxStreams := Lib.runSteps_invariant (fun s op s' hok hstep => by
      obtain ⟨s'', hs'', hok'⟩ := hok.step op
      rw [hstep] at hs''
      cases hs''
      exact hok')
    ⟨create_ok mode h0 hmax, rfl, fun _ hmem => absurd hmem List.not_mem_nil⟩ hrun
  have hmax' := h.max_eq
  refine ⟨fun id slot => ?_, ?_, ⟨?_, ?_, fun conn => ?_⟩, ?_, fun op => ?_, fun handle hmem => ?_⟩
  · rw [h.table.lookup, hmax', TableSlot.live]
    split
    next hstate =>
      simp [hstate]
    next hstate =>
      simp [hstate]
  · obtain ⟨list, hlist⟩ := h.table.free
    exact ⟨list, hlist.chain, hlist.nodup, hmax' ▸ hlist.mem⟩
  · exact hmax' ▸ h.table.active
  · rw [h.table.active, slotCount_connections, ← h.table.drain, ← h.table.drain]
  · exact hmax' ▸ h.table.drain conn
  · obtain ⟨pos, hpos, hnone⟩ := h.table.index.sound.vacant
    exact ⟨pos, hpos, key_eq_none.mp hnone⟩
  · obtain ⟨r', hstep, -⟩ := h.step op
    exact ⟨r', hstep⟩
  · unfold streamLookupHandle
    split
    · rfl
    rw [if_pos]
    by_cases hstate : (r.table.slots handle.slot).state = none
    · exact .inl hstate
    · exact .inr ((h.freed handle hmem).2 hstate).ne'

/-- Two streams are opened on a table of two slots and the first is freed: its
handle is stale and the second is still found. -/
theorem stream_table_sound_freed : ∃ r, Lib.runSteps tableStep ⟨.create 2 .splitConnections, []⟩
        [.allocate 1 .control .opening, .allocate 3 .bulk .opening, .free 0] = some r ∧
      ⟨0, 1⟩ ∈ r.freed ∧ streamLookupHandle r.table ⟨0, 1⟩ = none := by
  have hfreed : (Lib.runSteps tableStep ⟨.create 2 .splitConnections, []⟩
      [.allocate 1 .control .opening, .allocate 3 .bulk .opening, .free 0]).map
        TableRun.freed = some [⟨0, 1⟩] := by
    decide
  obtain ⟨r, hrun, hr⟩ := Option.map_eq_some_iff.mp hfreed
  have hmem : ⟨0, 1⟩ ∈ r.freed := by
    rw [hr]
    exact List.mem_cons_self
  exact ⟨r, hrun, hmem, (stream_table_sound .splitConnections (by decide) (by decide) _ r
    hrun).2.2.2.2.2 _ hmem⟩

end Steps

end Trpc
