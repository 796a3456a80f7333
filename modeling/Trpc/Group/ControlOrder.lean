import Trpc.Group.ControlPeers

/-!
# When a CONTROL connection survives

The invariant of the runs in which every step is `Ordered`, and a run that is not: the
server offers an index again while the client still holds the connection before it.
-/

namespace Trpc

open Lib Lib.Tombstones Function List Option

/-! ## What the server keeps -/

/-- The pipeline keeps its name and every generation. -/
structure Pipeline.Steady (p p' : Pipeline) : Prop where
  capacity : p'.dataCapacity = p.dataCapacity
  ownerShardId : p'.ownerShardId = p.ownerShardId
  pipelineId : p'.pipelineId = p.pipelineId
  epoch : p'.epoch = p.epoch
  generation : ∀ i, (p'.dataSlots i).generation = (p.dataSlots i).generation

variable {p : Pipeline} {rest : List (List UInt8)} {bytes : List UInt8}

namespace Pipeline.Steady

theorem refl (p : Pipeline) : Steady p p := ⟨rfl, rfl, rfl, rfl, fun _ => rfl⟩

theorem trans {q r : Pipeline} (h : Steady p q) (h' : Steady q r) : Steady p r :=
  ⟨h'.capacity.trans h.capacity, h'.ownerShardId.trans h.ownerShardId,
    h'.pipelineId.trans h.pipelineId, h'.epoch.trans h.epoch,
    fun i => (h'.generation i).trans (h.generation i)⟩

/-- A write of one slot that keeps its generation. -/
theorem update_generation {slots : Nat → DataSlot} {i : Nat} {slot : DataSlot}
    (h : slot.generation = (slots i).generation) (j : Nat) :
    (update slots i slot j).generation = (slots j).generation := by
  by_cases hj : j = i
  · rw [hj, update_self]
    exact h
  · rw [update_of_ne hj]

section

variable (p : Pipeline)

theorem freeSlot (i : Nat) : Steady p (p.freeSlot i) :=
  ⟨rfl, rfl, rfl, rfl, update_generation rfl⟩

theorem attachSlot (i : Nat) (connection : ConnHandle) :
    Steady p (p.attachSlot i connection) :=
  ⟨rfl, rfl, rfl, rfl, update_generation rfl⟩

theorem dropMember (i : Nat) : Steady p (p.dropMember i) :=
  ⟨rfl, rfl, rfl, rfl, update_generation rfl⟩

theorem cancelDataReservation (data : DataRef) :
    Steady p (pipelineCancelDataReservation p data).2 := by
  unfold pipelineCancelDataReservation
  split_ifs
  · exact freeSlot p _
  · exact refl p

theorem cancelDataOffer (data : DataRef) :
    Steady p (pipelineCancelDataOffer p data).2 := by
  unfold pipelineCancelDataOffer
  split_ifs
  · exact refl p
  · exact refl p
  · split
    · exact freeSlot p _
    · exact refl p
    · exact refl p

theorem cancelData (route : RoutePreface) :
    Steady p (controlCancelData p route).2 := by
  unfold controlCancelData
  split_ifs
  · exact cancelDataOffer p _
  · exact refl p

theorem transportFrame (payload : List UInt8) :
    Steady p (controlTransportFrame p payload).2 := by
  unfold controlTransportFrame
  split
  · exact refl p
  split_ifs
  · exact refl p
  · exact refl p
  · unfold controlCancelDataWire
    split
    · exact refl p
    split_ifs
    · exact refl p
    · exact cancelData p _

theorem removeData (data : DataRef) : Steady p (pipelineRemoveData p data).2 := by
  unfold pipelineRemoveData
  split_ifs
  · exact dropMember p _
  · exact refl p

theorem unbindStream (streamId : UInt32) :
    Steady p (pipelineUnbindStream p streamId).2 := by
  unfold pipelineUnbindStream
  split_ifs
  · exact refl p
  split
  · exact refl p
  · exact ⟨rfl, rfl, rfl, rfl, fun _ => rfl⟩

theorem prepareTransfer (streamId : UInt32) :
    Steady p (pipelinePrepareTransfer p streamId).2.1 := by
  unfold pipelinePrepareTransfer
  iterate 3
    split
    · exact refl p
  · exact refl p
  · split
    · exact refl p
    · split
      · exact refl p
      · exact ⟨rfl, rfl, rfl, rfl, fun _ => rfl⟩

theorem acceptData (data : DataRef) (connection : ConnHandle) :
    Steady p (controlAcceptData p data connection) := by
  have hattach : Steady p (pipelineAttachData p data connection).2 := by
    rcases pipelineAttachData_cases p data connection with ⟨_, hsame⟩ | ⟨_, _, _, _, _, heq⟩
    · rw [hsame]
      exact refl p
    · rw [heq]
      exact attachSlot p _ _
  unfold controlAcceptData
  split
  next heq =>
    rw [heq] at hattach
    exact hattach
  rename_i heq
  rw [heq] at hattach
  exact hattach.trans (cancelDataReservation _ _)

end

end Pipeline.Steady

namespace Pipeline

/-- A message or a route carries the name of this group. -/
def Named (p : Pipeline) (shard : UInt32) (id epoch : UInt64) : Prop :=
  shard = p.ownerShardId ∧ id = p.pipelineId ∧ epoch = p.epoch

/-- A capability of the present generation of its slot. -/
def Current (p : Pipeline) (data : DataRef) : Prop :=
  data.index < p.dataCapacity ∧ data.generation ≠ 0 ∧
    (p.dataSlots data.index).generation = data.generation

theorem Steady.named {p' : Pipeline} (h : Steady p p') {shard : UInt32} {id epoch : UInt64}
    (hname : p.Named shard id epoch) : p'.Named shard id epoch :=
  ⟨hname.1.trans h.ownerShardId.symm, hname.2.1.trans h.pipelineId.symm,
    hname.2.2.trans h.epoch.symm⟩

theorem Steady.current {p' : Pipeline} (h : Steady p p') {data : DataRef}
    (hcurrent : p.Current data) : p'.Current data :=
  ⟨h.capacity ▸ hcurrent.1, hcurrent.2.1, (h.generation _).trans hcurrent.2.2⟩

end Pipeline

/-! ## The invariant -/

namespace ClientDataState

/-- Between the offer and the end of the connect. -/
def pending (state : ClientDataState) : Prop := state = .queued ∨ state = .connecting

variable {state : ClientDataState}

theorem pending.used (h : state.pending) : state ≠ .free := by
  rcases h with rfl | rfl <;> simp

theorem pending.inactive (h : state.pending) : state ≠ .active := by
  rcases h with rfl | rfl <;> simp

end ClientDataState

/-- The client holds no connection for an index. -/
def ClientGroup.Lacks (g : ClientGroup) (index : UInt32) : Prop :=
  ∀ k, (g.data k).state ≠ .free → (g.data k).route.memberIndex ≠ index

/-- Two frames to the client do not offer one index. -/
def Apart (a b : List UInt8) : Prop :=
  ∀ m m', controlWireDecode a = .ok m → controlWireDecode b = .ok m' →
    m.type = controlDataOffer → m'.type = controlDataOffer → m.dataIndex ≠ m'.dataIndex

theorem readyStream_ready {message : ControlWireMessage}
    (hdecode : controlWireDecode bytes = .ok message)
    (htype : message.type = controlTransferReady) : readyStream bytes = some message.streamId := by
  rw [readyStream, hdecode]
  exact if_pos htype

/-- A search comes to every cell. -/
theorem affinityProbe_cover {capacity : Nat} (hsize : capacity ≤ 2 ^ 31) (streamId : UInt32)
    {pos : Nat} (hpos : pos < capacity) :
    ∃ d < capacity, affinityProbe capacity streamId d = pos := by
  unfold affinityProbe
  have hhome := Nat.mod_lt (pipelineStreamHash streamId).toNat (Nat.zero_lt_of_lt hpos)
  generalize (pipelineStreamHash streamId).toNat % capacity = home at hhome
  by_cases hle : home ≤ pos
  · refine ⟨pos - home, by omega, ?_⟩
    rw [show (home + (pos - home)) % 2 ^ 32 = pos by omega, Nat.mod_eq_of_lt hpos]
  · refine ⟨pos + capacity - home, by omega, ?_⟩
    rw [show (home + (pos + capacity - home)) % 2 ^ 32 = pos + capacity by omega,
      Nat.add_mod_right, Nat.mod_eq_of_lt hpos]

namespace ClientGroup.roomFor

variable {g : ClientGroup} {streams : List UInt32}

theorem sublist {fewer : List UInt32} (h : g.roomFor streams) (hsub : fewer <+ streams) :
    g.roomFor fewer := by
  obtain ⟨hnodup, habsent, hcells, hlimit, hsize⟩ := h
  have hle := hsub.length_le
  refine ⟨hnodup.sublist hsub, fun id hid => habsent id (hsub.subset hid), by omega, by omega,
    hsize.imp_left ?_⟩
  rintro rfl
  exact sublist_nil.mp hsub

/-- The first stream finds a cell, and leaves room for the others. -/
theorem stored {streamId : UInt32} (h : g.roomFor (streamId :: streams)) :
    ∃ pos < g.transferCapacity, g.transferFind streamId = .missing (some pos) ∧
      g.transferCount < g.transferLimit ∧ ∀ value, roomFor { g with
        transfers := update g.transfers pos (.used streamId value)
        transferCount := g.transferCount + 1 } streams := by
  obtain ⟨hnodup, habsent, hcells, hlimit, hsize⟩ := h
  rw [length_cons] at hcells hlimit
  have hsize' : g.transferCapacity ≤ 2 ^ 31 := hsize.resolve_left (cons_ne_nil _ _)
  obtain ⟨vacant, hvacant⟩ := Finset.card_pos.mp (Nat.lt_of_lt_of_le (Nat.succ_pos _) hcells)
  rw [Finset.mem_filter, Finset.mem_range, isNone_iff_eq_none] at hvacant
  have hprobe (id : UInt32) (d : Nat) :
      affinityProbe g.transferCapacity id d < g.transferCapacity :=
    Nat.mod_lt _ (Nat.zero_lt_of_lt hvacant.1)
  obtain ⟨pos, hpos, hfind, hnone⟩ := find_place hprobe
    (fun _ => affinityProbe_cover hsize' streamId) (habsent streamId mem_cons_self)
    ⟨vacant, hvacant⟩
  refine ⟨pos, hpos, hfind, by omega, fun value => ⟨hnodup.tail, fun id hid other hother => ?_, ?_,
    ?_, .inr hsize'⟩⟩
  · have hne : id ≠ streamId := fun heq => (nodup_cons.mp hnodup).1 (heq ▸ hid)
    have := habsent id (mem_cons_of_mem _ hid) other hother
    show (update g.transfers pos _ other).key? ≠ _
    rw [update_apply]
    grind [Cell.key?]
  · have hcount := @slotCount_update g.transferCapacity pos
      (fun pos => (g.transfers pos).key?.isNone)
      (fun other => (update g.transfers pos (.used streamId value) other).key?.isNone) hpos
      fun other hne => by rw [update_of_ne hne]
    rw [update_self, hnone] at hcount
    exact Nat.le_of_succ_le_succ (hcells.trans hcount.ge)
  · dsimp only
    omega

end ClientGroup.roomFor

namespace Peers

/-- What the client must have for a frame on its way. -/
def Welcome (w : Peers) (message : ControlWireMessage) : Prop :=
  (message.type = controlDataOffer ∧ w.server.Current message.data ∧
      w.client.Lacks message.dataIndex) ∨
    (message.type = controlTransferReady ∧
      w.client.activeMember message.dataIndex message.dataGeneration)

/-- The invariant. -/
structure Ok (w : Peers) : Prop where
  small : w.server.dataCapacity < 2 ^ 32
  identity : w.server.Named w.client.controlRoute.ownerShardId
    w.client.controlRoute.pipelineId w.client.controlRoute.epoch
  down : ∀ bytes ∈ w.toClient, ∃ message, controlWireDecode bytes = .ok message ∧
    w.server.Named message.ownerShardId message.pipelineId message.epoch ∧ w.Welcome message
  apart : w.toClient.Pairwise Apart
  room : w.client.roomFor w.announced
  up : ∀ bytes ∈ w.client.outbox, ∃ message, controlWireDecode bytes = .ok message ∧
    w.server.Named message.ownerShardId message.pipelineId message.epoch ∧
    message.type = controlDataCancel ∧ w.server.Current message.data
  entries : ∀ k, (w.client.data k).state ≠ .free → k < w.client.dataCapacity ∧
    w.server.Named (w.client.data k).route.ownerShardId (w.client.data k).route.pipelineId
      (w.client.data k).route.epoch ∧
    w.server.Current (w.client.data k).route.member
  idle : ∀ k, (w.client.data k).state = .free ∨ (w.client.data k).state = .queued →
    (w.client.data k).connection = none
  connector : ∀ k, w.client.connectorSlot = some k →
    (w.client.data k).state = .connecting ∧ (w.client.data k).connection = none

namespace Ok

variable {w : Peers}

section

variable (h : w.Ok)

include h

/-- The server's turns that keep the generations. -/
theorem steady (hp : w.server.Steady p) : { w with server := p }.Ok where
  small := hp.capacity ▸ h.small
  identity := hp.named h.identity
  down := by
    intro bytes hbytes
    obtain ⟨message, hdecode, hname, hwelcome⟩ := h.down bytes hbytes
    refine ⟨message, hdecode, hp.named hname, ?_⟩
    rcases hwelcome with ⟨htype, hcurrent, hlacks⟩ | hready
    · exact .inl ⟨htype, hp.current hcurrent, hlacks⟩
    · exact .inr hready
  apart := h.apart
  room := h.room
  up := by
    intro bytes hbytes
    obtain ⟨message, hdecode, hname, htype, hcurrent⟩ := h.up bytes hbytes
    exact ⟨message, hdecode, hp.named hname, htype, hp.current hcurrent⟩
  entries := by
    intro k hstate
    obtain ⟨hk, hname, hcurrent⟩ := h.entries k hstate
    exact ⟨hk, hp.named hname, hp.current hcurrent⟩
  idle := h.idle
  connector := h.connector

/-- A frame has been taken off its way. -/
theorem taken (hqueue : w.toClient = bytes :: rest) :
    { w with toClient := rest }.Ok where
  small := h.small
  identity := h.identity
  down := fun b hb => h.down b (by rw [hqueue]; exact mem_cons_of_mem _ hb)
  apart := by
    have hapart := h.apart
    rw [hqueue] at hapart
    exact (pairwise_cons.mp hapart).2
  room := h.room.sublist (.filterMap _ (by rw [hqueue]; exact sublist_cons_self _ _))
  up := h.up
  entries := h.entries
  idle := h.idle
  connector := h.connector

/-- The server has read a frame. -/
theorem read (hqueue : w.client.outbox = bytes :: rest) :
    { w with client := { w.client with outbox := rest } }.Ok :=
  { h with up := fun b hb => h.up b (by rw [hqueue]; exact mem_cons_of_mem _ hb) }

/-- The client gives a capability back that is not the one of a later generation. -/
theorem cancelled {route : RoutePreface}
    (hname : w.server.Named route.ownerShardId route.pipelineId route.epoch)
    (hcurrent : w.server.Current route.member)
    (hencode : controlWireEncode (clientCancelMessage route) = .ok bytes) :
    { w with client := { w.client with outbox := w.client.outbox ++ [bytes] } }.Ok :=
  { h with
    up := by
      intro b hb
      rcases Lib.mem_concat.1 hb with hb | rfl
      · exact h.up b hb
      · exact ⟨_, (controlWireDecode_encode hencode).1, hname, rfl, hcurrent⟩ }

variable {k : Nat}

/-- A slot of the client's table changes: no offer on its way is for its index, and a READY
on its way finds it as it was. -/
theorem put {entry : ClientData}
    (hoffer : entry.state ≠ .free → ∀ bytes ∈ w.toClient, reads bytes fun message =>
      message.type = controlDataOffer → w.client.Lacks message.dataIndex →
        entry.route.memberIndex ≠ message.dataIndex)
    (hready : (w.client.data k).state = .active →
      (entry.state = .active ∧ entry.route = (w.client.data k).route) ∨ w.Unnamed k)
    (hentry : entry.state ≠ .free → k < w.client.dataCapacity ∧
      w.server.Named entry.route.ownerShardId entry.route.pipelineId entry.route.epoch ∧
      w.server.Current entry.route.member)
    (hidle : entry.state = .free ∨ entry.state = .queued → entry.connection = none)
    (hconnector : w.client.connectorSlot ≠ some k) :
    { w with client := w.client.put k entry }.Ok := by
  refine { h with down := ?_, entries := ?_, idle := ?_, connector := ?_ }
  · intro bytes hbytes
    obtain ⟨message, hdecode, hname, hwelcome⟩ := h.down bytes hbytes
    refine ⟨message, hdecode, hname, ?_⟩
    rcases hwelcome with ⟨htype, hcurrent, hlacks⟩ | ⟨htype, j, hj, hjstate, hmember⟩
    · refine .inl ⟨htype, hcurrent, ?_⟩
      refine (forall_update_iff w.client.data (p := fun _ e => e.state ≠ .free →
        e.route.memberIndex ≠ message.dataIndex)).mpr ⟨fun hstate => ?_, fun j _ => hlacks j⟩
      have hother := hoffer hstate bytes hbytes
      rw [reads_of_decode hdecode] at hother
      exact hother htype hlacks
    · refine .inr ⟨htype, j, hj, ?_⟩
      by_cases hjk : j = k
      · subst hjk
        rcases hready hjstate with ⟨hstate, hroute⟩ | hno
        · simp only [ClientGroup.put_self, hroute]
          exact ⟨hstate, hmember⟩
        · have hno := hno bytes hbytes
          rw [reads_of_decode hdecode] at hno
          exact absurd hmember.1.symm (hno htype)
      · simp only [ClientGroup.put_of_ne _ _ hjk]
        exact ⟨hjstate, hmember⟩
  · exact (forall_update_iff w.client.data (p := fun j e => e.state ≠ .free →
      j < w.client.dataCapacity ∧
        w.server.Named e.route.ownerShardId e.route.pipelineId e.route.epoch ∧
        w.server.Current e.route.member)).mpr ⟨hentry, fun j _ => h.entries j⟩
  · exact (forall_update_iff w.client.data (p := fun _ e =>
      e.state = .free ∨ e.state = .queued → e.connection = none)).mpr
      ⟨hidle, fun j _ => h.idle j⟩
  · intro j hj
    have hjk : j ≠ k := by
      rintro rfl
      exact hconnector hj
    simp only [ClientGroup.put_of_ne _ _ hjk]
    exact h.connector j hj

/-- A DATA connection that is not active yet gets on. -/
theorem advanced (entry : ClientData) (hpending : (w.client.data k).state.pending)
    (hroute : entry.route = (w.client.data k).route)
    (hstate : entry.state = .connecting ∨ entry.state = .active)
    (hconnector : w.client.connectorSlot ≠ some k) :
    { w with client := w.client.put k entry }.Ok := by
  have hused := hpending.used
  refine h.put (fun _ bytes hbytes => ?_) (fun hold => absurd hold hpending.inactive)
    (fun _ => hroute ▸ h.entries k hused) (fun hidle => ?_) hconnector
  · obtain ⟨message, hdecode, _⟩ := h.down bytes hbytes
    rw [reads_of_decode hdecode, hroute]
    exact fun _ hlacks => hlacks k hused
  · rcases hstate with hstate | hstate <;> rw [hstate] at hidle <;> simp at hidle

/-- A slot is cleared, and no READY on its way needs it. -/
theorem cleared (hunnamed : (w.client.data k).state = .active → w.Unnamed k)
    (hconnector : w.client.connectorSlot ≠ some k) :
    { w with client := w.client.put k {} }.Ok :=
  h.put (fun hfree => absurd rfl hfree) (fun hold => .inr (hunnamed hold))
    (fun hfree => absurd rfl hfree) (fun _ => rfl) hconnector

/-- An offer takes a free slot. -/
theorem queued {route : RoutePreface} (hk : k < w.client.dataCapacity)
    (hfree : (w.client.data k).state = .free)
    (hname : w.server.Named route.ownerShardId route.pipelineId route.epoch)
    (hcurrent : w.server.Current route.member)
    (hothers : ∀ bytes ∈ w.toClient, reads bytes fun message =>
      message.type = controlDataOffer → message.dataIndex ≠ route.memberIndex) :
    { w with
      client := w.client.put k { w.client.data k with route := route, state := .queued } }.Ok := by
  refine h.put (fun _ bytes hbytes => ?_) (fun hactive => ?_) (fun _ => ⟨hk, hname, hcurrent⟩)
    (fun _ => h.idle k (.inl hfree)) fun hslot => ?_
  · obtain ⟨message, hdecode, _⟩ := h.down bytes hbytes
    have hother := hothers bytes hbytes
    rw [reads_of_decode hdecode] at hother ⊢
    exact fun htype _ => (hother htype).symm
  · rw [hfree] at hactive
    cases hactive
  · have hold := (h.connector k hslot).1
    rw [hfree] at hold
    cases hold

/-- Transfers leave the client's table. -/
theorem buried {transfers : Nat → Cell UInt32 (Nat × UInt32)} {count : Nat}
    (hcells : ∀ pos, transfers pos = w.client.transfers pos ∨ transfers pos = .tombstone)
    (hcount : count ≤ w.client.transferCount) :
    { w with
      client := { w.client with transfers := transfers, transferCount := count } }.Ok :=
  { h with
    room := by
      have hkey (pos : Nat) : (transfers pos).key? = (w.client.transfers pos).key? ∨
          (transfers pos).key? = none := by
        rcases hcells pos with hsame | htomb
        · exact .inl (congrArg Cell.key? hsame)
        · exact .inr (congrArg Cell.key? htomb)
      obtain ⟨hnodup, habsent, hvacant, hlimit, hsize⟩ := h.room
      refine ⟨hnodup, fun id hid pos hpos => ?_, hvacant.trans ?_, ?_, hsize⟩
      · have := habsent id hid pos hpos
        grind [hkey pos]
      · refine Finset.card_le_card (Finset.monotone_filter_right _ fun pos _ hnone => ?_)
        grind [hkey pos]
      · exact hlimit.trans (Nat.sub_le_sub_left hcount _) }

/-- A frame is sent to the client. -/
theorem sent {message : ControlWireMessage} (hdecode : controlWireDecode bytes = .ok message)
    (hname : w.server.Named message.ownerShardId message.pipelineId message.epoch)
    (hwelcome : w.Welcome message) (hapart : ∀ b ∈ w.toClient, Apart b bytes)
    (hroom : w.client.roomFor (w.announced ++ (readyStream bytes).toList)) :
    { w with toClient := w.toClient ++ [bytes] }.Ok :=
  { h with
    down := by
      exact Lib.forall_mem_concat.2 ⟨h.down, ⟨message, hdecode, hname, hwelcome⟩⟩
    apart := by
      refine pairwise_append.mpr ⟨h.apart, pairwise_singleton _ _, ?_⟩
      intro a ha b hb
      obtain rfl := mem_singleton.mp hb
      exact hapart a ha
    room := by
      show w.client.roomFor ((w.toClient ++ [bytes]).filterMap readyStream)
      rw [filterMap_append]
      cases hready : readyStream bytes <;> simpa [hready, announced] using hroom }

end

end Ok

/-! ## The client's turns -/

/-- The client's turn kept the invariant, or a call of its own failed. -/
def Serves (w : Peers) (out : ClientGroup × Option Refusal) : Prop :=
  (out.2 = none ∧ { w with client := out.1 }.Ok) ∨ ∃ ret, out.2 = some (.resource ret)

theorem clientSendCancel_cases (g : ClientGroup) (route : RoutePreface) (answer : Status) :
    (∃ ret, ret ≠ .ok ∧ clientSendCancel g route answer = (ret, g)) ∨
      ∃ bytes, controlWireEncode (clientCancelMessage route) = .ok bytes ∧
        clientSendCancel g route answer = (.ok, { g with outbox := g.outbox ++ [bytes] }) := by
  unfold clientSendCancel
  cases hencode : controlWireEncode (clientCancelMessage route) with
  | error ret =>
    refine .inl ⟨ret, ?_, rfl⟩
    rintro rfl
    unfold controlWireEncode at hencode
    split_ifs at hencode
    cases hencode
  | ok bytes =>
    dsimp only
    by_cases hanswer : answer = .ok
    · rw [if_pos hanswer]
      exact .inr ⟨bytes, rfl, rfl⟩
    · rw [if_neg hanswer]
      exact .inl ⟨answer, hanswer, rfl⟩

variable {w : Peers}

section

variable (h : w.Ok)

include h

/-- An offer that takes no slot. -/
theorem Ok.declined {route : RoutePreface} (env : ClientEnv)
    (hname : w.server.Named route.ownerShardId route.pipelineId route.epoch)
    (hcurrent : w.server.Current route.member) :
    w.Serves (clientDecline w.client route env) := by
  unfold clientDecline
  rcases clientSendCancel_cases w.client route env.reply with
    ⟨ret, hret, heq⟩ | ⟨bytes, hencode, heq⟩
  · rw [heq]
    split
    next hok =>
      cases hok
      exact absurd rfl hret
    · exact .inr ⟨_, rfl⟩
  · rw [heq]
    exact .inl ⟨rfl, h.cancelled hname hcurrent hencode⟩

/-- A DATA connection that the client gives up. -/
theorem Ok.dropped {k : Nat} (answer : Status) (hstate : (w.client.data k).state ≠ .free)
    (hunnamed : (w.client.data k).state = .active → w.Unnamed k)
    (hconnector : w.client.connectorSlot ≠ some k) :
    w.Serves (clientDropData w.client k answer) ∧
      (clientDropData w.client k answer).1.connectorSlot = w.client.connectorSlot := by
  obtain ⟨_, hname, hcurrent⟩ := h.entries k hstate
  unfold clientDropData
  rcases clientSendCancel_cases (w.client.put k {}) (w.client.data k).route answer with
    ⟨ret, hret, heq⟩ | ⟨bytes, hencode, heq⟩
  · rw [heq]
    split
    next hok =>
      cases hok
      exact absurd rfl hret
    rename_i hfail
    cases hfail
    exact ⟨.inr ⟨_, rfl⟩, rfl⟩
  · rw [heq]
    exact ⟨.inl ⟨rfl, (h.cleared hunnamed hconnector).cancelled hname hcurrent hencode⟩, rfl⟩

/-- A DATA connection that is not active yet is given up, and the turn goes on. -/
theorem Ok.droppedThen {k : Nat} (answer : Status) {f : ClientGroup → ClientGroup × Option Refusal}
    (hpending : (w.client.data k).state.pending) (hconnector : w.client.connectorSlot = none)
    (hf : ∀ g : ClientGroup, { w with client := g }.Ok → g.connectorSlot = none →
      w.Serves (f g)) :
    w.Serves (match clientDropData w.client k answer with
      | (g, some refusal) => (g, some refusal)
      | (g, none) => f g) := by
  have hfree : w.client.connectorSlot ≠ some k := by
    rw [hconnector]
    simp
  obtain ⟨hserves, hslot⟩ := h.dropped answer hpending.used
    (fun ha => absurd ha hpending.inactive) hfree
  generalize clientDropData w.client k answer = out at hserves hslot
  obtain ⟨g, refusal⟩ := out
  rcases hserves with ⟨hnone, hok⟩ | ⟨ret, hret⟩
  · cases hnone
    exact hf g hok (hslot.trans hconnector)
  · cases hret
    exact .inr ⟨ret, rfl⟩

/-- The loop goes over the slots; each is passed, started or given up. -/
theorem Ok.startLoop (env : ClientEnv) (slots : List Nat)
    (hconnector : w.client.connectorSlot = none) :
    w.Serves (clientStartLoop env slots w.client) := by
  induction slots generalizing w with
  | nil => exact .inl ⟨rfl, h⟩
  | cons k rest ih =>
    rw [clientStartLoop]
    by_cases hqueued : (w.client.data k).state ≠ .queued
    · rw [if_pos hqueued]
      exact ih h hconnector
    rw [if_neg hqueued]
    have hstate : (w.client.data k).state = .queued := not_not.mp hqueued
    have hfree : w.client.connectorSlot ≠ some k := by
      rw [hconnector]
      simp
    by_cases hstart : env.start k = .ok
    · rw [if_pos hstart]
      have hok := h.advanced { w.client.data k with state := .connecting } (.inl hstate) rfl
        (.inl rfl) hfree
      refine .inl ⟨rfl, { hok with connector := ?_ }⟩
      intro j hj
      obtain rfl : k = j := by simpa using hj
      simp only [ClientGroup.put_self]
      exact ⟨trivial, h.idle k (.inr hstate)⟩
    · rw [if_neg hstart]
      exact h.droppedThen (env.send k) (.inl hstate) hconnector fun _ hok => ih hok

theorem Ok.startNext (env : ClientEnv) : w.Serves (clientStartNext w.client env) := by
  unfold clientStartNext
  split_ifs with hbusy
  · exact .inl ⟨rfl, h⟩
  · push Not at hbusy
    exact h.startLoop env _ hbusy.2.2

omit h in
theorem Serves.thenStart {out : ClientGroup × Option Refusal} (h : w.Serves out)
    (env : ClientEnv) : w.Serves (clientThenStart out env) := by
  obtain ⟨g, refusal⟩ := out
  rcases h with ⟨hnone, hok⟩ | ⟨ret, hret⟩
  · cases hnone
    exact hok.startNext env
  · cases hret
    exact .inr ⟨ret, rfl⟩

theorem Ok.invalidated (k : Nat) (generation : UInt32) :
    { w with client := clientInvalidateDataTransfers w.client k generation }.Ok := by
  refine h.buried (fun pos => ?_) (Nat.sub_le _ _)
  split_ifs
  · exact .inr rfl
  · exact .inl rfl

/-- A DATA connection has ended at the client. -/
theorem Ok.dataEvent {connection : ConnHandle} (env : ClientEnv)
    (hunnamed : ∀ k ∈ w.client.dataSlotOf connection, w.Unnamed k) :
    w.Serves (clientDataEvent w.client connection env) := by
  unfold clientDataEvent
  cases hslot : w.client.dataSlotOf connection with
  | none => exact h.startNext env
  | some k =>
    have hfound := find?_some hslot
    simp only [decide_eq_true_eq] at hfound
    obtain ⟨hstate, hconnection⟩ := hfound
    have hused : (w.client.data k).state ≠ .free := by
      intro hfree
      rw [hfree] at hstate
      simp at hstate
    have hconnector : w.client.connectorSlot ≠ some k := by
      intro hslot'
      rw [(h.connector k hslot').2] at hconnection
      cases hconnection
    have hno : w.Unnamed k := hunnamed k hslot
    have hburied := h.invalidated k (w.client.data k).route.memberGeneration
    dsimp only
    split_ifs with hclosing
    · exact .inl ⟨rfl, hburied.cleared (fun _ => hno) hconnector⟩
    · exact Serves.thenStart (hburied.dropped (env.send k) hused (fun _ => hno) hconnector).1 env

/-- The connector is done with its slot. -/
theorem Ok.idleConnector :
    { w with client := { w.client with connectorSlot := none } }.Ok :=
  { h with connector := fun _ hslot => absurd hslot (some_ne_none _).symm }

theorem Ok.connectorComplete (result : Except Status ConnHandle) (env : ClientEnv) :
    w.Serves (clientConnectorComplete w.client result env) := by
  unfold clientConnectorComplete
  cases hslot : w.client.connectorSlot with
  | none => exact .inl ⟨rfl, h⟩
  | some k =>
    have hpending : (w.client.data k).state.pending := .inr (h.connector k hslot).1
    have hfree : (none : Option Nat) ≠ some k := (some_ne_none k).symm
    cases result with
    | error ret =>
      exact h.idleConnector.droppedThen (env.send k) hpending rfl fun g hok _ => hok.startNext env
    | ok connection =>
      have hstate : (if w.client.tls then ClientDataState.connecting else .active) = .connecting ∨
          (if w.client.tls then ClientDataState.connecting else .active) = .active := by
        cases w.client.tls with
        | true => exact .inl rfl
        | false => exact .inr rfl
      have hok := h.idleConnector.advanced
        { w.client.data k with
          connection := some connection
          state := if w.client.tls then .connecting else .active }
        hpending rfl hstate hfree
      exact hok.startNext env

theorem Ok.tlsPrefaceSent (connection : ConnHandle) :
    { w with client := clientTlsPrefaceSent w.client connection }.Ok := by
  unfold clientTlsPrefaceSent
  split
  · exact h
  rename_i k hfind
  have hfound := find?_some hfind
  simp only [decide_eq_true_eq] at hfound
  obtain ⟨hstate, hconnection⟩ := hfound
  refine h.advanced _ (.inr hstate) rfl (.inr rfl) fun hslot => ?_
  rw [(h.connector k hslot).2] at hconnection
  cases hconnection

theorem Ok.releaseTransfer (streamId : UInt32) :
    { w with client := clientReleaseTransfer w.client streamId }.Ok := by
  unfold clientReleaseTransfer
  split
  · exact h
  rename_i slot hfind
  refine h.buried (fun pos => ?_) (Nat.sub_le _ _)
  by_cases hpos : pos = slot
  · subst hpos
    exact .inr (update_self _ _ _)
  · exact .inl (update_of_ne hpos _ _)

theorem Ok.transferConnection (streamId : UInt32) :
    { w with client := (clientTransferConnection w.client streamId).2 }.Ok := by
  unfold clientTransferConnection
  iterate 3
    split
    · exact h
  split
  · split
    · exact h
    · exact h.releaseTransfer streamId
  · exact h.releaseTransfer streamId

theorem Ok.drainLoop (env : ClientEnv) (slots : List Nat)
    (hconnector : w.client.connectorSlot = none) :
    w.Serves (clientDrainLoop env slots w.client) := by
  induction slots generalizing w with
  | nil => exact .inl ⟨rfl, h⟩
  | cons k rest ih =>
    rw [clientDrainLoop]
    by_cases hpending : (w.client.data k).state = .queued ∨
        ((w.client.data k).state = .connecting ∧ (w.client.data k).connection ≠ none)
    · rw [if_pos hpending]
      split_ifs with hclose
      · exact .inr ⟨_, rfl⟩
      · exact h.droppedThen (env.send k) (hpending.imp_right And.left) hconnector
          fun _ hok => ih hok
    · rw [if_neg hpending]
      exact ih h hconnector

theorem Ok.beginDrain (env : ClientEnv) : w.Serves (clientBeginDrain w.client env) := by
  have hdrain : { w with client := { w.client with draining := true } }.Ok := { h with }
  unfold clientBeginDrain
  dsimp only
  split
  next hslot =>
    exact hdrain.drainLoop env _ hslot
  rename_i k hslot
  by_cases hcancel : env.cancelConnector ≠ .ok
  · rw [if_pos hcancel]
    exact .inl ⟨rfl, hdrain⟩
  rw [if_neg hcancel]
  exact hdrain.idleConnector.droppedThen (env.send k) (.inr (h.connector k hslot).1) rfl
    fun _ hok => hok.drainLoop env _

/-! ## The frames -/

variable {message : ControlWireMessage}

/-- An offer finds its index unused. -/
theorem Ok.offered (env : ClientEnv)
    (hqueue : w.toClient = bytes :: rest) (hdecode : controlWireDecode bytes = .ok message)
    (htype : message.type = controlDataOffer)
    (hname : w.server.Named message.ownerShardId message.pipelineId message.epoch)
    (hcurrent : w.server.Current message.data) (hlacks : w.client.Lacks message.dataIndex) :
    { w with toClient := rest }.Serves
      (clientQueueOffer w.client (controlWireDataRoute message) env) := by
  have htaken := h.taken hqueue
  have hfirst : clientOfferDuplicate w.client (controlWireDataRoute message) = false := by
    rw [clientOfferDuplicate, List.any_eq_false]
    intro k _ hsame
    simp only [decide_eq_true_eq] at hsame
    exact hlacks k hsame.1 hsame.2
  have hothers : ∀ b ∈ rest, reads b fun m =>
      m.type = controlDataOffer → m.dataIndex ≠ message.dataIndex := by
    intro b hb
    obtain ⟨other, hother, _⟩ := htaken.down b hb
    rw [reads_of_decode hother]
    have hapart := h.apart
    rw [hqueue] at hapart
    intro hoffer hsame
    exact (pairwise_cons.mp hapart).1 b hb message other hdecode hother htype hoffer hsame.symm
  unfold clientQueueOffer
  rw [hfirst]
  simp only [Bool.false_eq_true, if_false]
  split
  next k hfind =>
    have hk := mem_range.mp (mem_of_find?_eq_some hfind)
    have hfree : (w.client.data k).state = .free := by simpa using find?_some hfind
    have hcurrent' : w.server.Current (controlWireDataRoute message).member := hcurrent
    exact Ok.startNext (@Ok.queued _ htaken k (controlWireDataRoute message) hk hfree hname
      hcurrent' hothers) env
  · exact htaken.declined env hname hcurrent

/-- A READY finds its member active and a place for its stream. -/
theorem Ok.readied (hqueue : w.toClient = bytes :: rest)
    (hdecode : controlWireDecode bytes = .ok message) (htype : message.type = controlTransferReady)
    (hname : w.server.Named message.ownerShardId message.pipelineId message.epoch)
    (hactive : w.client.activeMember message.dataIndex message.dataGeneration) :
    { w with toClient := rest }.Serves (clientAcceptTransferReady w.client message) := by
  have htaken := h.taken hqueue
  have hroom : w.client.roomFor (message.streamId :: rest.filterMap readyStream) := by
    have hroom := h.room
    rwa [announced, hqueue, filterMap_cons_some (readyStream_ready hdecode htype)] at hroom
  obtain ⟨pos, hpos, hfind, hlimit, hstored⟩ := hroom.stored
  obtain ⟨j, hj, hstate, hindex, hgeneration⟩ := hactive
  have hslot : ∃ k, clientReadyDataSlot w.client message = some k := by
    rw [← isSome_iff_exists, clientReadyDataSlot, find?_isSome]
    obtain ⟨_, ⟨hshard, hid, hepoch⟩, _⟩ := h.entries j (by rw [hstate]; simp)
    refine ⟨j, mem_range.mpr hj, ?_⟩
    simp only [decide_eq_true_eq]
    exact ⟨hstate, hindex, hgeneration, hshard.trans hname.1.symm, hid.trans hname.2.1.symm,
      hepoch.trans hname.2.2.symm⟩
  obtain ⟨k, hslot⟩ := hslot
  unfold clientAcceptTransferReady
  rw [if_neg (Nat.ne_of_gt (Nat.lt_of_le_of_lt (Nat.zero_le _) hpos)), hfind]
  dsimp only
  rw [if_neg (Nat.not_le.mpr hlimit), hslot]
  exact .inl ⟨rfl, { htaken with room := hstored _ }⟩

/-- The client reads a frame. -/
theorem Ok.controlFrame (env : ClientEnv) (hqueue : w.toClient = bytes :: rest) :
    { w with toClient := rest }.Serves (clientControlFrame w.client bytes env) := by
  have htaken := h.taken hqueue
  obtain ⟨message, hdecode, hname, hwelcome⟩ :=
    h.down bytes (by rw [hqueue]; exact mem_cons_self)
  have hmatches : w.client.messageMatches message = true := by
    rw [ClientGroup.messageMatches, decide_eq_true_eq]
    exact ⟨hname.1.trans h.identity.1.symm, hname.2.1.trans h.identity.2.1.symm,
      hname.2.2.trans h.identity.2.2.symm⟩
  rw [clientControlFrame, hdecode]
  dsimp only
  rw [if_neg (not_not.mpr hmatches)]
  rcases hwelcome with ⟨htype, hcurrent, hlacks⟩ | ⟨htype, hactive⟩
  · rw [if_pos htype]
    split_ifs with hdecline
    · exact htaken.declined env hname hcurrent
    · exact h.offered env hqueue hdecode htype hname hcurrent hlacks
  · rw [htype, if_neg (by decide), if_pos rfl]
    split_ifs with hdraining
    · exact .inl ⟨rfl, htaken⟩
    · exact h.readied hqueue hdecode htype hname hactive

omit h in
/-- A CANCEL of the present generation is applied or ignored. -/
theorem pipelineCancelDataOffer_current {data : DataRef} (h : p.Current data) :
    (pipelineCancelDataOffer p data).1 = .ok := by
  obtain ⟨hindex, hgeneration, hsame⟩ := h
  unfold pipelineCancelDataOffer
  rw [if_neg (by push Not; exact ⟨hindex, hgeneration⟩), if_neg (not_not.mpr hsame)]
  split <;> rfl

/-- The server reads a frame. -/
theorem Ok.transportFrame (hqueue : w.client.outbox = bytes :: rest) :
    (controlTransportFrame w.server bytes).1 = .ok := by
  obtain ⟨message, hdecode, hname, htype, hcurrent⟩ :=
    h.up bytes (by rw [hqueue]; exact mem_cons_self)
  have hmatches : controlTransportMessageMatches w.server message = true := by
    rw [controlTransportMessageMatches, decide_eq_true_eq]
    exact hname
  have hoffer : controlOfferMatches w.server (controlWireDataRoute message) = true := by
    rw [controlOfferMatches, decide_eq_true_eq]
    exact ⟨controlWireDataRoute_valid (controlWireDecode_valid hdecode), rfl, hname⟩
  rw [controlTransportFrame, hdecode]
  dsimp only
  rw [if_neg (by simp [hmatches, htype]), controlCancelDataWire, hdecode]
  dsimp only
  rw [if_neg (not_not.mpr htype), controlCancelData, if_neg (not_not.mpr hoffer)]
  exact pipelineCancelDataOffer_current hcurrent

end

/-! ## The server's turns -/

theorem pipelineNextGeneration_lt (generation : Nat) :
    pipelineNextGeneration generation ≠ 0 ∧ pipelineNextGeneration generation < 2 ^ 32 := by
  unfold pipelineNextGeneration
  split_ifs with hzero
  · exact ⟨by decide, by decide⟩
  · exact ⟨hzero, Nat.mod_lt _ (by decide)⟩

theorem reserveSlot_generation (p : Pipeline) (i : Nat) :
    ((p.reserveSlot i).dataSlots i).generation =
      pipelineNextGeneration (p.dataSlots i).generation := by
  show (update p.dataSlots i _ i).generation = _
  rw [update_self]

/-- A capability of another slot stays current over a reservation. -/
theorem current_reserveSlot {data : DataRef} {i : Nat} (h : p.Current data) (hne : data.index ≠ i) :
    (p.reserveSlot i).Current data := by
  refine ⟨h.1, h.2.1, ?_⟩
  show (update p.dataSlots i _ data.index).generation = _
  rw [update_of_ne hne]
  exact h.2.2

/-- A reservation of an index of which nothing is left. -/
theorem Ok.reserved (h : w.Ok) {i : Nat} (hsilent : w.Silent i) :
    { w with server := w.server.reserveSlot i }.Ok := by
  obtain ⟨hentries, hframes⟩ := hsilent
  refine { h with down := ?_, up := ?_, entries := ?_ }
  · intro bytes hbytes
    obtain ⟨message, hdecode, hname, hwelcome⟩ := h.down bytes hbytes
    refine ⟨message, hdecode, hname, ?_⟩
    rcases hwelcome with ⟨htype, hcurrent, hlacks⟩ | hready
    · have hne := hframes bytes (mem_append_left _ hbytes)
      rw [reads_of_decode hdecode] at hne
      exact .inl ⟨htype, current_reserveSlot hcurrent hne, hlacks⟩
    · exact .inr hready
  · intro bytes hbytes
    obtain ⟨message, hdecode, hname, htype, hcurrent⟩ := h.up bytes hbytes
    have hne := hframes bytes (mem_append_right _ hbytes)
    rw [reads_of_decode hdecode] at hne
    exact ⟨message, hdecode, hname, htype, current_reserveSlot hcurrent hne⟩
  · intro k hstate
    obtain ⟨hk, hname, hcurrent⟩ := h.entries k hstate
    exact ⟨hk, hname, current_reserveSlot hcurrent (hentries k hk hstate)⟩

/-- The capability in a message of the server. -/
theorem controlMessage_data (p : Pipeline) (type : UInt16) (streamId : UInt32) {data : DataRef}
    (hindex : data.index < 2 ^ 32) (hgeneration : data.generation < 2 ^ 32) :
    (controlMessage p type streamId data).data = data := by
  have hi : (UInt32.ofNat data.index).toNat = data.index := by
    rw [UInt32.toNat_ofNat', Nat.mod_eq_of_lt hindex]
  have hg : (UInt32.ofNat data.generation).toNat = data.generation := by
    rw [UInt32.toNat_ofNat', Nat.mod_eq_of_lt hgeneration]
  rw [ControlWireMessage.data, controlMessage, hi, hg]

theorem serve_none (w : Peers) (p : Pipeline) : w.serve (p, none) = { w with server := p } := by
  rw [serve, toList_none, append_nil]

theorem Ok.sendDataOffer (h : w.Ok) (answer : Status)
    (hordered : ∀ data ∈ (pipelineReserveData w.server).2.2, w.Silent data.index) :
    (w.serve (controlSendDataOffer w.server answer)).Ok := by
  unfold controlSendDataOffer
  rcases pipelineReserveData_cases w.server with ⟨hret, hsame⟩ | ⟨i, hi, _, _, heq⟩
  · split
    next hok =>
      rw [hok] at hret
      exact absurd rfl hret
    next hother =>
      rw [hother] at hsame
      dsimp only at hsame
      subst hsame
      rw [serve_none]
      exact h
  · rw [heq] at hordered ⊢
    have hsilent : w.Silent i := hordered _ rfl
    have hreserved := h.reserved hsilent
    have hcancel : { w with
        server := (controlCancelData (w.server.reserveSlot i) (controlWireDataRoute
          (controlMessage (w.server.reserveSlot i) controlDataOffer 0
            ((w.server.reserveSlot i).refOf i)))).2 }.Ok :=
      hreserved.steady (Pipeline.Steady.cancelData _ _)
    dsimp only
    split
    · rw [serve_none]
      exact hcancel
    rename_i bytes hencode
    by_cases hanswer : answer = .ok
    · rw [if_pos hanswer]
      obtain ⟨hdecode, _⟩ := controlWireDecode_encode hencode
      obtain ⟨hnonzero, hlt⟩ := pipelineNextGeneration_lt (w.server.dataSlots i).generation
      have hgeneration := reserveSlot_generation w.server i
      have hsmall : ((w.server.reserveSlot i).refOf i).generation < 2 ^ 32 := by
        rw [Pipeline.refOf, hgeneration]
        exact hlt
      have hdata := controlMessage_data (w.server.reserveSlot i) controlDataOffer 0
        (Nat.lt_trans hi h.small) hsmall
      have hindex : (UInt32.ofNat i).toNat = i := congrArg DataRef.index hdata
      have hnone : readyStream bytes = none := by
        rw [readyStream, hdecode]
        rfl
      refine hreserved.sent hdecode ⟨rfl, rfl, rfl⟩ (.inl ⟨rfl, ?_, fun k hk hsame => ?_⟩) ?_
        (by rw [hnone, toList_none, append_nil]; exact hreserved.room)
      · rw [hdata]
        exact ⟨hi, by rw [Pipeline.refOf, hgeneration]; exact hnonzero, rfl⟩
      · refine hsilent.1 k (h.entries k hk).1 hk ?_
        rw [hsame]
        exact hindex
      · intro b hb m m' hm hm'
        have hne := hsilent.2 b (mem_append_left _ hb)
        rw [reads_of_decode hm] at hne
        obtain rfl : controlMessage _ _ _ _ = m' := Except.ok.inj (hdecode.symm.trans hm')
        refine fun _ _ hsame => hne ?_
        rw [hsame]
        exact hindex
    · rw [if_neg hanswer, serve_none]
      exact hcancel

theorem Ok.sendTransferReady (h : w.Ok) (streamId : UInt32) (answer : Status)
    (hordered : ∀ data ∈ (pipelinePrepareTransfer w.server streamId).2.2, w.Awaits streamId data) :
    (w.serve (controlSendTransferReady w.server streamId answer)).Ok := by
  have hsteady := Pipeline.Steady.prepareTransfer w.server streamId
  unfold controlSendTransferReady
  generalize pipelinePrepareTransfer w.server streamId = out at hordered hsteady ⊢
  obtain ⟨ret, p, found⟩ := out
  have hprepared : { w with server := p }.Ok := h.steady hsteady
  have hquiet : (w.serve (p, none)).Ok := by
    rw [serve_none]
    exact hprepared
  have hundone : (w.serve ((pipelineUnbindStream p streamId).2, none)).Ok := by
    rw [serve_none]
    exact hprepared.steady (Pipeline.Steady.unbindStream _ _)
  split
  next p' data hout =>
    cases hout
    obtain ⟨hactive, hroom⟩ := hordered data rfl
    split
    · exact hundone
    rename_i bytes hencode
    by_cases hanswer : answer = .ok
    · rw [if_pos hanswer]
      obtain ⟨hdecode, _⟩ := controlWireDecode_encode hencode
      refine hprepared.sent hdecode ⟨rfl, rfl, rfl⟩ (.inr ⟨rfl, hactive⟩) ?_
        (by rw [readyStream_ready hdecode rfl]; exact hroom)
      intro b hb m m' hm hm' _ hoffer
      obtain rfl : controlMessage _ _ _ _ = m' := Except.ok.inj (hdecode.symm.trans hm')
      exact absurd (show controlTransferReady = controlDataOffer from hoffer) (by decide)
    · rw [if_neg hanswer]
      exact hundone
  next hout =>
    cases hout
    exact hquiet

/-! ## Runs -/

/-- CONTROL is up and will stay so, was closed on purpose, or a call of the client's own
failed. -/
def Peaceful (w : Peers) : Prop :=
  (w.control = .up ∧ w.Ok) ∨ w.control = .closed ∨
    ∃ side ret, w.control = .aborted side (.resource ret)

theorem Serves.settled {out : ClientGroup × Option Refusal} (h : w.Serves out) :
    (w.settle out).Peaceful := by
  obtain ⟨g, refusal⟩ := out
  rcases h with ⟨hnone, hok⟩ | ⟨ret, hret⟩
  · cases hnone
    exact .inl ⟨rfl, { hok with }⟩
  · cases hret
    exact .inr (.inr ⟨.client, ret, rfl⟩)

/-- One step. -/
theorem Peaceful.step {w' : Peers} {action : PeersAction} (h : w.Peaceful)
    (hordered : w.Ordered action) (hstep : peersStep w action = some w') : w'.Peaceful := by
  unfold peersStep at hstep
  obtain ⟨hup, hstep⟩ := ite_none_left_eq_some.mp hstep
  have hcontrol : w.control = .up := not_not.mp hup
  have hok : w.Ok := by
    rcases h with ⟨_, hok⟩ | hclosed | ⟨side, ret, haborted⟩
    · exact hok
    · rw [hcontrol] at hclosed
      cases hclosed
    · rw [hcontrol] at haborted
      cases haborted
  cases action with
  | serverOffer answer =>
    cases hstep
    exact .inl ⟨hcontrol, hok.sendDataOffer answer hordered⟩
  | serverReady streamId answer =>
    cases hstep
    exact .inl ⟨hcontrol, hok.sendTransferReady streamId answer hordered⟩
  | serverRelease streamId =>
    cases hstep
    exact .inl ⟨hcontrol, hok.steady (Pipeline.Steady.unbindStream _ _)⟩
  | serverAccept data connection =>
    obtain ⟨_, hstep⟩ := ite_none_right_eq_some.mp hstep
    cases hstep
    exact .inl ⟨hcontrol, { hok.steady (Pipeline.Steady.acceptData _ data connection) with }⟩
  | serverReject data =>
    obtain ⟨_, hstep⟩ := ite_none_right_eq_some.mp hstep
    cases hstep
    exact .inl ⟨hcontrol, { hok.steady (Pipeline.Steady.cancelDataReservation _ data) with }⟩
  | serverDataClosed data =>
    cases hstep
    exact .inl ⟨hcontrol, hok.steady (Pipeline.Steady.removeData _ _)⟩
  | serverFrame =>
    dsimp only at hstep
    split at hstep
    · cases hstep
    rename_i bytes rest hqueue
    cases hstep
    have hframe := hok.transportFrame hqueue
    have hread := (hok.read hqueue).steady (Pipeline.Steady.transportFrame w.server bytes)
    refine .inl ⟨?_, { hread with }⟩
    dsimp only
    rw [if_pos hframe]
  | clientFrame env =>
    dsimp only at hstep
    split at hstep
    · cases hstep
    rename_i bytes rest hqueue
    cases hstep
    exact (hok.controlFrame env hqueue).settled
  | clientConnected result env =>
    cases hstep
    rcases (hok.connectorComplete result env).settled with ⟨hup', hok'⟩ | hclosed | haborted
    · exact .inl ⟨hup', { hok' with }⟩
    · exact .inr (.inl hclosed)
    · exact .inr (.inr haborted)
  | clientPrefaceSent connection =>
    cases hstep
    exact .inl ⟨hcontrol, { hok.tlsPrefaceSent connection with }⟩
  | clientDataEvent connection env =>
    cases hstep
    exact (hok.dataEvent env hordered).settled
  | clientRelease streamId =>
    cases hstep
    exact .inl ⟨hcontrol, hok.releaseTransfer streamId⟩
  | clientLookup streamId =>
    cases hstep
    exact .inl ⟨hcontrol, hok.transferConnection streamId⟩
  | clientDrain env =>
    cases hstep
    exact (hok.beginDrain env).settled
  | clientClose ret =>
    dsimp only at hstep
    split_ifs at hstep with hret
    · cases hstep
      exact .inr (.inl rfl)
    · cases hstep
      exact .inl ⟨hcontrol, { hok with }⟩
  | closed =>
    cases hstep
    exact .inr (.inl rfl)

/-- A group whose CONTROL connection has just come up: nothing is on its way, and the
client has neither a DATA connection nor a transfer. -/
structure Fresh (w : Peers) : Prop where
  up : w.control = .up
  capacity : w.server.dataCapacity < 2 ^ 32
  identity : w.client.controlRoute.ownerShardId = w.server.ownerShardId ∧
    w.client.controlRoute.pipelineId = w.server.pipelineId ∧
    w.client.controlRoute.epoch = w.server.epoch
  toClient : w.toClient = []
  toServer : w.client.outbox = []
  data : w.client.data = fun _ => {}
  connector : w.client.connectorSlot = none

theorem Fresh.peaceful (h : w.Fresh) : w.Peaceful := by
  refine .inl ⟨h.up, ?_⟩
  exact
    { small := h.capacity
      identity := h.identity
      down := by simp [h.toClient]
      apart := by simp [h.toClient]
      room := by simp [announced, h.toClient, ClientGroup.roomFor]
      up := by simp [h.toServer]
      entries := by simp [h.data]
      idle := by simp [h.data]
      connector := by simp [h.connector] }

end Peers

/-- In a run whose steps are all ordered, neither end ever refuses a message of the other. -/
theorem control_survives_ordered_runs {w w' : Peers} {actions : List PeersAction}
    (hfresh : w.Fresh) (hordered : StepsMeet peersStep Peers.Ordered w actions)
    (hrun : runSteps peersStep w actions = some w') :
    ∀ side ret, w'.control ≠ .aborted side (.message ret) := by
  have hpeaceful : w'.Peaceful :=
    runSteps_invariant_of (fun _ _ _ h hmeets hstep => h.step hmeets hstep) hfresh.peaceful
      hordered hrun
  intro side ret hmessage
  rcases hpeaceful with ⟨hup, _⟩ | hclosed | ⟨side', ret', haborted⟩
  · rw [hup] at hmessage
    cases hmessage
  · rw [hclosed] at hmessage
    cases hmessage
  · rw [haborted] at hmessage
    cases hmessage

/-- A group with one DATA slot, its CONTROL connection up at both ends. -/
def examplePeers : Peers where
  server :=
    { owner := 1
      ownerShardId := 0
      pipelineId := 7
      epoch := 1
      control := some ⟨1, 1, 1⟩
      dataCapacity := 1
      affinityCapacity := 4 }
  client :=
    { controlRoute := { routePrefaceZero with ownerShardId := 0, pipelineId := 7, epoch := 1 }
      dataCapacity := 1
      transferLimit := 2
      transferCapacity := 4 }

/-- The slot is offered, the client connects, and the server takes the connection in. -/
def exampleJoin : List PeersAction :=
  [.serverOffer .ok, .clientFrame clientEnvOk, .clientConnected (.ok ⟨2, 0, 1⟩) clientEnvOk,
    .serverAccept ⟨0, 1⟩ ⟨1, 2, 1⟩]

theorem examplePeers_fresh : examplePeers.Fresh where
  up := rfl
  capacity := by decide
  identity := ⟨rfl, rfl, rfl⟩
  toClient := rfl
  toServer := rfl
  data := rfl
  connector := rfl

/-- The DATA connection joins and two streams are announced on it, in order. -/
theorem control_survives_join : ∃ w', runSteps peersStep examplePeers
        (exampleJoin ++ [.serverReady 5 .ok, .serverReady 7 .ok, .clientFrame clientEnvOk,
          .clientFrame clientEnvOk]) = some w' ∧
      w'.client.transferCount = 2 ∧ ∀ side ret, w'.control ≠ .aborted side (.message ret) := by
  exact exists_of_map (f := fun w => w.client.transferCount) (by decide)
    fun _ hw' hcount =>
      ⟨hcount, control_survives_ordered_runs examplePeers_fresh (by decide) hw'⟩

/-- Three honest runs that end CONTROL.  The DATA connection has joined.  In the first the
server sees it end and offers the slot again, and the client still holds it.  In the
second the client sees it end while a READY for it is on its way.  In the third both have
seen it end, and the server has offered the slot again when the CANCEL comes in. -/
theorem control_aborts_unordered_runs : (runSteps peersStep examplePeers
        (exampleJoin ++ [.serverDataClosed ⟨0, 1⟩, .serverOffer .ok, .clientFrame clientEnvOk])).map
          (·.control) = some (.aborted .client (.message .errState)) ∧
      (runSteps peersStep examplePeers
        (exampleJoin ++ [.serverReady 5 .ok, .clientDataEvent ⟨2, 0, 1⟩ clientEnvOk,
          .clientFrame clientEnvOk])).map
          (·.control) = some (.aborted .client (.message .errStale)) ∧
      (runSteps peersStep examplePeers
        (exampleJoin ++ [.clientDataEvent ⟨2, 0, 1⟩ clientEnvOk, .serverDataClosed ⟨0, 1⟩,
          .serverOffer .ok, .serverFrame])).map
          (·.control) = some (.aborted .server (.message .errStale)) := by
  decide

end Trpc
