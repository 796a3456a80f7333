import Trpc.Lib.Runs
import Trpc.Channel.Hello

/-!
# Negotiation on a connection

The handshake of `channel.c` on one connection, for arbitrary version ranges,
features and limits.  A Channel is created with one version only; its own checks
are those of `ChannelConfig.handshake`.

Two ends run the handshake over a FIFO connection.  Each is started at some time,
keeps a HELLO that comes before its start and handles it then.  A check that
fails aborts the connection at that end, and the other end gets to know it later,
if at all before it has handled what is under way.

`HandshakeOk` is the invariant.  Whichever frame an end handles first, it stores
the same capabilities (`agreedCaps`), and an end that has stored them has its
HELLO_ACK under way to the other end, or handled there.
-/

namespace Trpc

open Function List Option

/-! ## What an end stores -/

/-- What an end may send to its peer. -/
def agreedCaps (cfg peer : HandshakeConfig) : Capabilities where
  protocolVersion := highVersion peer.maxVersion cfg.maxVersion
  laneMask := cfg.laneMask
  maxFramePayloadBytes :=
    if peer.maxFramePayload < cfg.maxFramePayload then peer.maxFramePayload
    else cfg.maxFramePayload
  maxMessageBytes := peer.maxMessageBytes
  featureBits := peer.featureBits &&& cfg.featureBits

/-- What the HELLO_ACK of an end says. -/
def agreedAck (cfg peer : HandshakeConfig) : Capabilities where
  protocolVersion := highVersion peer.maxVersion cfg.maxVersion
  laneMask := cfg.laneMask
  maxFramePayloadBytes := cfg.maxFramePayload
  maxMessageBytes := cfg.maxMessageBytes
  featureBits := peer.featureBits &&& cfg.featureBits

/-- Both ends speak a version. -/
def Overlap (cfg peer : HandshakeConfig) : Prop :=
  lowVersion peer.minVersion cfg.minVersion ≤ highVersion peer.maxVersion cfg.maxVersion

/-- The common features hold what an end requires. -/
def Covers (cfg peer : HandshakeConfig) : Prop :=
  (peer.featureBits &&& cfg.featureBits) &&& cfg.requiredFeatureBits = cfg.requiredFeatureBits

section Versions

variable {a b : UInt16}

theorem highVersion_comm : highVersion a b = highVersion b a := by
  unfold highVersion
  split <;> split
  · exact absurd ‹b < a› (UInt16.lt_asymm ‹a < b›)
  · rfl
  · rfl
  · exact UInt16.le_antisymm (UInt16.not_lt.mp ‹_›) (UInt16.not_lt.mp ‹_›)

theorem lowVersion_comm : lowVersion a b = lowVersion b a := by
  unfold lowVersion
  split <;> split
  · exact absurd ‹b < a› (UInt16.lt_asymm ‹a < b›)
  · rfl
  · rfl
  · exact UInt16.le_antisymm (UInt16.not_lt.mp ‹_›) (UInt16.not_lt.mp ‹_›)

theorem highVersion_le_left : highVersion a b ≤ a := by
  unfold highVersion
  split
  · exact UInt16.le_refl a
  · exact UInt16.not_lt.mp ‹_›

theorem le_lowVersion_left : a ≤ lowVersion a b := by
  unfold lowVersion
  split
  · exact UInt16.le_refl a
  · exact UInt16.not_lt.mp ‹_›

theorem le_highVersion {v : UInt16} (ha : v ≤ a) (hb : v ≤ b) : v ≤ highVersion a b := by
  unfold highVersion
  split
  · exact ha
  · exact hb

end Versions

variable {cfg peer : HandshakeConfig}

theorem Overlap.symm (h : Overlap cfg peer) :
    Overlap peer cfg := by
  unfold Overlap at *
  rwa [lowVersion_comm, highVersion_comm]

/-- A HELLO of the peer that passes settles the capabilities and the answer. -/
theorem HandshakeConfig.negotiate_hello {negotiated ack : Capabilities}
    (h : cfg.negotiate peer.hello = .ok (negotiated, ack)) :
    negotiated = agreedCaps cfg peer ∧ ack = agreedAck cfg peer ∧ Overlap cfg peer ∧
      Covers cfg peer := by
  unfold HandshakeConfig.negotiate at h
  rw [HandshakeConfig.hello, decodeHello_encode] at h
  obtain ⟨-, h⟩ := Lib.check_eq_ok.mp h
  obtain ⟨-, h⟩ := Lib.check_eq_ok.mp h
  obtain ⟨hversion, h⟩ := Lib.check_eq_ok.mp h
  obtain ⟨hfeatures, h⟩ := Lib.check_eq_ok.mp h
  obtain ⟨rfl, rfl⟩ := Prod.mk.inj (Except.ok.inj h)
  refine ⟨rfl, rfl, UInt16.not_lt.mp hversion, ?_⟩
  by_contra hcovers
  exact hfeatures (.inr (.inr hcovers))

/-- The HELLO_ACK of the peer that passes settles the same capabilities. -/
theorem HandshakeConfig.acceptAck_agreed
    (h : cfg.acceptAck (encodeHelloAck (agreedAck peer cfg)) = .ok caps) :
    caps = agreedCaps cfg peer ∧ Covers cfg peer := by
  unfold HandshakeConfig.acceptAck at h
  rw [decodeHelloAck_encode] at h
  obtain ⟨-, h⟩ := Lib.check_eq_ok.mp h
  obtain ⟨hok, h⟩ := Lib.check_eq_ok.mp h
  simp only [not_or, not_not] at hok
  obtain ⟨-, -, hmask, -, -, -, hcovers⟩ := hok
  have hmask' : peer.laneMask = cfg.laneMask := hmask
  refine ⟨?_, ?_⟩
  · split at h
    next hlt =>
      rw [← Except.ok.inj h]
      simp only [agreedAck, agreedCaps, hmask', UInt64.and_comm cfg.featureBits,
        @highVersion_comm cfg.maxVersion] at hlt ⊢
      rw [if_neg (UInt32.not_lt.mpr (UInt32.le_of_lt hlt))]
    next hge =>
      rw [← Except.ok.inj h]
      simp only [agreedAck, agreedCaps, hmask', UInt64.and_comm cfg.featureBits,
        @highVersion_comm cfg.maxVersion] at hge ⊢
      split
      · rfl
      next hnlt =>
        rw [UInt32.le_antisymm (UInt32.not_lt.mp hge) (UInt32.not_lt.mp hnlt)]
  · unfold Covers
    rw [UInt64.and_comm peer.featureBits]
    exact hcovers

/-! ## Two ends -/

/-- A frame of the handshake. -/
inductive HandshakeFrame
  | hello (payload : List UInt8)
  | ack (payload : List UInt8)
  deriving DecidableEq, Repr

/-- What `tr_channel_start` has still to do. -/
inductive HandshakeTask
  | replay (payload : List UInt8)
  | hello
  deriving DecidableEq, Repr

/-- What an end knows of the connection. -/
structure HandshakeEnd where
  /-- `control_alive` and `bulk_alive`. -/
  alive : Bool
  /-- `handshake_started`. -/
  started : Bool
  /-- `pending_hello`. -/
  pending : Option (List UInt8)
  /-- The tasks of `tr_channel_start` that are left. -/
  tasks : List HandshakeTask
  /-- `control_caps` and `bulk_caps`, when ready. -/
  caps : Option Capabilities
  /-- The frames under way to the other end. -/
  out : List HandshakeFrame
  deriving DecidableEq, Repr

namespace HandshakeEnd

/-- A new connection. -/
def init : HandshakeEnd := ⟨true, false, none, [], none, []⟩

/-- `tr_channel_on_connection_event` when the connection has ended, by an abort
of this end or otherwise. -/
def abort (e : HandshakeEnd) : HandshakeEnd :=
  { e with alive := false, pending := none, tasks := [], caps := none }

/-- `tr_channel_set_caps_locked`: the first capabilities stay. -/
def setCaps (e : HandshakeEnd) (caps : Capabilities) : HandshakeEnd :=
  if e.caps.isSome then e else { e with caps := some caps }

/-- `tr_channel_handle_hello`.  `accept` says whether the Channel has not taken a
GOAWAY on the connection and the reactor takes the HELLO_ACK. -/
def handleHello (cfg : HandshakeConfig) (e : HandshakeEnd) (payload : List UInt8)
    (accept : Bool) : HandshakeEnd :=
  match cfg.negotiate payload with
  | .error _ => e.abort
  | .ok (negotiated, ack) =>
    if accept then
      { e with out := e.out ++ [HandshakeFrame.ack (encodeHelloAck ack)] }.setCaps negotiated
    else e.abort

/-- `tr_channel_handle_hello_ack`. -/
def handleHelloAck (cfg : HandshakeConfig) (e : HandshakeEnd) (payload : List UInt8) :
    HandshakeEnd :=
  match cfg.acceptAck payload with
  | .error _ => e.abort
  | .ok caps => e.setCaps caps

/-- `tr_channel_on_frame` for the frames of the handshake, with
`tr_channel_defer_hello_before_start`. -/
def onFrame (cfg : HandshakeConfig) (e : HandshakeEnd) (frame : HandshakeFrame)
    (accept : Bool) : HandshakeEnd :=
  match frame with
  | .hello payload =>
    if e.started then e.handleHello cfg payload accept
    else { e with pending := some payload }
  | .ack payload => e.handleHelloAck cfg payload

/-- The part of `tr_channel_start` under the lock. -/
def start (e : HandshakeEnd) : HandshakeEnd :=
  { e with
    started := true
    pending := none
    tasks := (e.pending.map .replay).toList ++ [.hello] }

/-- The next task of `tr_channel_start`.  A HELLO that is not taken ends it. -/
def startNext (cfg : HandshakeConfig) (e : HandshakeEnd) (accept : Bool) : Option HandshakeEnd :=
  match e.tasks with
  | [] => none
  | .replay payload :: rest =>
    some ({ e with tasks := rest }.handleHello cfg payload accept)
  | .hello :: rest =>
    if accept then
      some { e with tasks := rest, out := e.out ++ [.hello cfg.hello] }
    else some { e with tasks := [] }

end HandshakeEnd

/-- The two ends of a connection. -/
abbrev Handshake : Type := Role → HandshakeEnd

/-- What can happen on a connection. -/
inductive HandshakeAction
  /-- The end is started. -/
  | start (role : Role)
  /-- The start goes on. -/
  | startNext (role : Role) (accept : Bool)
  /-- The next frame comes to the end. -/
  | deliver (role : Role) (accept : Bool)
  /-- The end loses the connection, or sees that the other has aborted it. -/
  | lose (role : Role)
  deriving DecidableEq, Repr

/-- One step of a connection. -/
def handshakeStep (cfg : Role → HandshakeConfig) (s : Handshake) :
    HandshakeAction → Option Handshake
  | .start role =>
    if (s role).alive ∧ ¬ (s role).started then
      some (Function.update s role (s role).start)
    else none
  | .startNext role accept =>
    if (s role).alive then
      ((s role).startNext (cfg role) accept).map (Function.update s role)
    else none
  | .deliver role accept =>
    match (s role).alive, (s role.peer).out with
    | true, frame :: rest =>
      some (Function.update (Function.update s role.peer { s role.peer with out := rest })
        role ((s role).onFrame (cfg role) frame accept))
    | _, _ => none
  | .lose role =>
    if (s role).alive then some (Function.update s role (s role).abort) else none

/-- Two ends of a new connection. -/
def Handshake.init : Handshake := fun _ => .init

/-! ## The invariant -/

/-- What holds at one end whatever the other does. -/
structure HandshakeEnd.Ok (cfg peer : HandshakeConfig) (e : HandshakeEnd) : Prop where
  hello : ∀ payload, .hello payload ∈ e.out → payload = cfg.hello
  pending : ∀ payload, e.pending = some payload → payload = peer.hello
  replay : ∀ payload, .replay payload ∈ e.tasks → payload = peer.hello
  ack : ∀ payload, .ack payload ∈ e.out →
    payload = encodeHelloAck (agreedAck cfg peer) ∧ Overlap cfg peer ∧
      (e.caps.isSome ∨ e.alive = false)
  caps : ∀ caps, e.caps = some caps →
    caps = agreedCaps cfg peer ∧ Overlap cfg peer ∧ Covers cfg peer
  live : e.caps.isSome → e.alive

/-- An end that has capabilities has told the other end, as long as that is
there. -/
def HandshakeEnd.Told (e other : HandshakeEnd) : Prop :=
  e.caps.isSome → other.caps.isSome ∨ other.alive = false ∨ ∃ payload, .ack payload ∈ e.out

/-- An end keeps its capabilities until it loses the connection, and does not
get the connection back. -/
def HandshakeEnd.Keeps (e e' : HandshakeEnd) : Prop :=
  (e.alive = false → e'.alive = false) ∧
    ∀ caps, e.caps = some caps → e'.caps = some caps ∨ e'.alive = false

structure HandshakeOk (cfg : Role → HandshakeConfig) (s : Handshake) : Prop where
  ok : ∀ role, (s role).Ok (cfg role) (cfg role.peer)
  told : ∀ role, (s role).Told (s role.peer)

variable {accept : Bool} {caps : Capabilities} {frame : HandshakeFrame}

namespace HandshakeEnd

variable {cfg peer : HandshakeConfig} {e e' e'' other : HandshakeEnd}

theorem Keeps.refl (e : HandshakeEnd) : e.Keeps e :=
  ⟨id, fun _ => .inl⟩

theorem Keeps.trans (h : e.Keeps e') (h' : e'.Keeps e'') : e.Keeps e'' := by
  refine ⟨h'.1 ∘ h.1, fun caps hcaps => ?_⟩
  rcases h.2 caps hcaps with hcaps' | hdead
  · exact h'.2 caps hcaps'
  · exact .inr (h'.1 hdead)

/-- What the other end does cannot take away what it was told. -/
theorem Told.keeps (h : other.Told e) (hkeeps : e.Keeps e') : other.Told e' := by
  intro hcaps
  rcases h hcaps with hknows | hdead | hack
  · obtain ⟨caps, hcaps⟩ := isSome_iff_exists.mp hknows
    rcases hkeeps.2 caps hcaps with hcaps' | hdead
    · exact .inl (isSome_iff_exists.mpr ⟨caps, hcaps'⟩)
    · exact .inr (.inl hdead)
  · exact .inr (.inl (hkeeps.1 hdead))
  · exact .inr (.inr hack)

theorem keeps_abort : e.Keeps e.abort :=
  ⟨fun _ => rfl, fun _ _ => .inr rfl⟩

theorem Ok.abort (h : e.Ok cfg peer) : e.abort.Ok cfg peer where
  hello := h.hello
  pending := nofun
  replay := nofun
  ack payload hmem :=
    ⟨(h.ack payload hmem).1, (h.ack payload hmem).2.1, .inr rfl⟩
  caps := nofun
  live := nofun

theorem told_abort : e.abort.Told other :=
  nofun

theorem keeps_setCaps : e.Keeps (e.setCaps caps) := by
  unfold setCaps
  split
  · exact .refl e
  rename_i hnone
  refine ⟨id, fun c hc => ?_⟩
  rw [hc] at hnone
  exact absurd rfl hnone

theorem setCaps_isSome : (e.setCaps caps).caps.isSome := by
  unfold setCaps
  split
  · assumption
  · rfl

section

variable (h : e.Ok cfg peer)

include h

/-- The capabilities come after the HELLO_ACK that tells them, if there is one. -/
theorem Ok.setCaps (halive : e.alive) (hcaps : caps = agreedCaps cfg peer)
    (hoverlap : Overlap cfg peer) (hcovers : Covers cfg peer) {out : List HandshakeFrame}
    (hout : ∀ frame ∈ out, frame ∈ e.out ∨ frame = .ack (encodeHelloAck (agreedAck cfg peer))) :
    ({ e with out := out }.setCaps caps).Ok cfg peer := by
  have hhello : ∀ payload, .hello payload ∈ out → payload = cfg.hello := by
    intro payload hmem
    rcases hout _ hmem with hold | hnew
    · exact h.hello payload hold
    · cases hnew
  have hack : ∀ payload, .ack payload ∈ out → payload = encodeHelloAck (agreedAck cfg peer) := by
    intro payload hmem
    rcases hout _ hmem with hold | hnew
    · exact (h.ack payload hold).1
    · exact HandshakeFrame.ack.inj hnew
  unfold HandshakeEnd.setCaps
  split
  next hsome =>
    exact { h with
      hello := hhello
      ack := fun payload hmem => ⟨hack payload hmem, hoverlap, .inl hsome⟩ }
  · exact { h with
      hello := hhello
      ack := fun payload hmem => ⟨hack payload hmem, hoverlap, .inl rfl⟩
      caps := fun c hc => ⟨(some.inj hc) ▸ hcaps, hoverlap, hcovers⟩
      live := fun _ => halive }

/-! ## The steps of one end -/

omit h in
theorem handleHello_told {payload : List UInt8} : e.Keeps (e.handleHello cfg payload accept) ∧
      (e.handleHello cfg payload accept).Told other := by
  unfold handleHello
  split
  · exact ⟨keeps_abort, told_abort⟩
  rename_i negotiated ack hnegotiate
  split
  · have hsend : e.Keeps
        { e with out := e.out ++ [HandshakeFrame.ack (encodeHelloAck ack)] } :=
      ⟨id, fun _ => .inl⟩
    refine ⟨hsend.trans keeps_setCaps, fun _ => .inr (.inr ⟨encodeHelloAck ack, ?_⟩)⟩
    unfold setCaps
    split <;> exact mem_append_right _ (mem_singleton_self _)
  · exact ⟨keeps_abort, told_abort⟩

/-- A HELLO of the peer leaves the end with what both have agreed on, or without
the connection. -/
theorem Ok.handleHello (halive : e.alive) (accept : Bool) :
    (e.handleHello cfg peer.hello accept).Ok cfg peer := by
  unfold HandshakeEnd.handleHello
  cases hnegotiate : cfg.negotiate peer.hello with
  | error ret => exact h.abort
  | ok caps =>
    obtain ⟨negotiated, ack⟩ := caps
    obtain ⟨hcaps, hack, hoverlap, hcovers⟩ :=
      HandshakeConfig.negotiate_hello hnegotiate
    dsimp only
    split
    · refine h.setCaps halive hcaps hoverlap hcovers fun frame hmem => ?_
      rw [hack, mem_append, mem_singleton] at hmem
      exact hmem
    · exact h.abort

omit h in
theorem keeps_handleHelloAck {payload : List UInt8} :
    e.Keeps (e.handleHelloAck cfg payload) := by
  unfold handleHelloAck
  split
  · exact keeps_abort
  · exact keeps_setCaps

omit h in
/-- An end that has handled a HELLO_ACK has capabilities or no connection. -/
theorem handleHelloAck_knows {payload : List UInt8} :
    (e.handleHelloAck cfg payload).caps.isSome ∨ (e.handleHelloAck cfg payload).alive = false := by
  unfold handleHelloAck
  split
  · exact .inr rfl
  · exact .inl setCaps_isSome

theorem Ok.handleHelloAck (halive : e.alive) (hoverlap : Overlap peer cfg) :
    (e.handleHelloAck cfg (encodeHelloAck (agreedAck peer cfg))).Ok cfg peer := by
  unfold HandshakeEnd.handleHelloAck
  cases haccept : cfg.acceptAck (encodeHelloAck (agreedAck peer cfg)) with
  | error ret => exact h.abort
  | ok caps =>
    obtain ⟨hcaps, hcovers⟩ := HandshakeConfig.acceptAck_agreed haccept
    exact h.setCaps halive hcaps hoverlap.symm hcovers fun _ => .inl

omit h in
theorem keeps_onFrame : e.Keeps (e.onFrame cfg frame accept) := by
  unfold onFrame
  split
  · split
    · exact (@handleHello_told accept cfg e e _).1
    · exact ⟨id, fun _ => .inl⟩
  · exact keeps_handleHelloAck

theorem Ok.start : e.start.Ok cfg peer where
  hello := h.hello
  pending := nofun
  replay payload hmem := by
    rcases mem_append.mp hmem with hpending | hnew
    · rw [mem_toList, map_eq_some_iff] at hpending
      obtain ⟨kept, hkept, heq⟩ := hpending
      cases heq
      exact h.pending _ hkept
    · cases mem_singleton.mp hnew
  ack := h.ack
  caps := h.caps
  live := h.live

/-- Fewer tasks are as good. -/
theorem Ok.tasks {rest : List HandshakeTask}
    (hsub : ∀ task ∈ rest, task ∈ e.tasks) : { e with tasks := rest }.Ok cfg peer where
  hello := h.hello
  pending := h.pending
  replay payload hmem := h.replay payload (hsub _ hmem)
  ack := h.ack
  caps := h.caps
  live := h.live

theorem Ok.startNext (htold : e.Told other) (halive : e.alive)
    (hstep : e.startNext cfg accept = some e') :
    e'.Ok cfg peer ∧ e'.Told other ∧ e.Keeps e' := by
  unfold HandshakeEnd.startNext at hstep
  split at hstep
  · cases hstep
  next payload rest htasks =>
    cases hstep
    have hpayload := h.replay payload (htasks ▸ mem_cons_self)
    have hrest : { e with tasks := rest }.Ok cfg peer :=
      h.tasks fun task hmem => htasks ▸ mem_cons_of_mem _ hmem
    have htake : e.Keeps { e with tasks := rest } := ⟨id, fun _ => .inl⟩
    rw [hpayload]
    exact ⟨hrest.handleHello halive accept, handleHello_told.2,
      htake.trans (@handleHello_told accept cfg _ other _).1⟩
  next rest htasks =>
    have hrest : { e with tasks := rest }.Ok cfg peer :=
      h.tasks fun task hmem => htasks ▸ mem_cons_of_mem _ hmem
    split at hstep
    · cases hstep
      refine ⟨{ hrest with hello := fun payload hmem => ?_, ack := fun payload hmem => ?_ },
        fun hcaps => ?_, id, fun _ => .inl⟩
      · rcases mem_append.mp hmem with hold | hnew
        · exact h.hello payload hold
        · cases mem_singleton.mp hnew
          rfl
      · rcases mem_append.mp hmem with hold | hnew
        · exact h.ack payload hold
        · cases mem_singleton.mp hnew
      · exact (htold hcaps).imp_right (Or.imp_right fun ⟨payload, hmem⟩ =>
          ⟨payload, mem_append_left _ hmem⟩)
    · cases hstep
      exact ⟨h.tasks nofun, htold, id, fun _ => .inl⟩

/-- Taking the first frame off the queue of the other end. -/
theorem Ok.pop {rest : List HandshakeFrame} (hout : e.out = frame :: rest) :
    { e with out := rest }.Ok cfg peer where
  hello payload hmem := h.hello payload (hout ▸ mem_cons_of_mem _ hmem)
  pending := h.pending
  replay := h.replay
  ack payload hmem := h.ack payload (hout ▸ mem_cons_of_mem _ hmem)
  caps := h.caps
  live := h.live

theorem Ok.onFrame (halive : e.alive) (hother : other.Ok peer cfg)
    (hmem : frame ∈ other.out) (accept : Bool) : (e.onFrame cfg frame accept).Ok cfg peer := by
  cases frame with
  | hello payload =>
    rw [hother.hello payload hmem]
    unfold HandshakeEnd.onFrame
    dsimp only
    split
    · exact h.handleHello halive accept
    · exact { h with pending := fun payload hpending => (some.inj hpending).symm }
  | ack payload =>
    obtain ⟨hpayload, hoverlap, -⟩ := hother.ack payload hmem
    rw [hpayload]
    exact h.handleHelloAck halive hoverlap

end

variable {rest : List HandshakeFrame}

/-- A HELLO_ACK that leaves the queue has done its work. -/
theorem Told.pop (h : other.Told e) (hout : other.out = frame :: rest)
    : { other with out := rest }.Told (e.onFrame cfg frame accept) := by
  intro hcaps
  cases frame with
  | hello payload =>
    rcases h.keeps keeps_onFrame hcaps with hknows | hdead | ⟨payload', hmem⟩
    · exact .inl hknows
    · exact .inr (.inl hdead)
    · rw [hout] at hmem
      rcases mem_cons.mp hmem with heq | hrest
      · cases heq
      · exact .inr (.inr ⟨payload', hrest⟩)
  | ack payload =>
    rcases @handleHelloAck_knows cfg e payload with hknows | hdead
    · exact .inl hknows
    · exact .inr (.inl hdead)

/-- An end that gets capabilities by a frame has answered it, or the frame was
the answer. -/
theorem Told.onFrame (h : e.Told other) (hother : other.Ok peer cfg)
    (hout : other.out = frame :: rest) :
    (e.onFrame cfg frame accept).Told { other with out := rest } := by
  cases frame with
  | hello payload =>
    unfold HandshakeEnd.onFrame
    dsimp only
    split
    · exact handleHello_told.2
    · exact h
  | ack payload =>
    intro _
    obtain ⟨-, -, hknows⟩ := hother.ack payload (hout ▸ mem_cons_self)
    rcases hknows with hknows | hdead
    · exact .inl hknows
    · exact .inr (.inl hdead)

end HandshakeEnd

/-! ## The steps of a connection -/

section Connection

variable {cfg : Role → HandshakeConfig} {s s' : Handshake}

variable {role : Role}

theorem HandshakeEnd.Keeps.update {e : HandshakeEnd} (h : (s role).Keeps e)
    (other : Role) : (s other).Keeps (Function.update s role e other) := by
  rcases role.eq_or_eq_peer other with rfl | rfl
  · rwa [update_self]
  · rw [update_of_ne role.peer_ne]
    exact .refl _

/-- A step of one end that is sound there and keeps what the other was told. -/
theorem HandshakeOk.update {e : HandshakeEnd} (h : HandshakeOk cfg s)
    (hok : e.Ok (cfg role) (cfg role.peer)) (htold : e.Told (s role.peer))
    (hkeeps : (s role).Keeps e) : HandshakeOk cfg (Function.update s role e) where
  ok other := by
    rcases role.eq_or_eq_peer other with rfl | rfl
    · rw [update_self]
      exact hok
    · rw [update_of_ne role.peer_ne]
      exact h.ok role.peer
  told other := by
    rcases role.eq_or_eq_peer other with rfl | rfl
    · rw [update_self, update_of_ne other.peer_ne]
      exact htold
    rw [Role.peer_peer, update_self, update_of_ne role.peer_ne]
    have htold' := h.told role.peer
    rw [Role.peer_peer] at htold'
    exact htold'.keeps hkeeps

theorem HandshakeOk.deliver {rest : List HandshakeFrame} (h : HandshakeOk cfg s)
    (halive : (s role).alive) (hout : (s role.peer).out = frame :: rest) (accept : Bool) :
    HandshakeOk cfg (Function.update (Function.update s role.peer { s role.peer with out := rest })
      role ((s role).onFrame (cfg role) frame accept)) := by
  have hok := h.ok role
  have hpeer := h.ok role.peer
  have htold := h.told role
  have htold' := h.told role.peer
  rw [Role.peer_peer] at hpeer htold'
  refine { ok := fun other => ?_, told := fun other => ?_ }
  · rcases role.eq_or_eq_peer other with rfl | rfl
    · rw [update_self]
      exact hok.onFrame halive hpeer (hout ▸ mem_cons_self) accept
    · rw [update_of_ne role.peer_ne, update_self, Role.peer_peer]
      exact hpeer.pop hout
  · rcases role.eq_or_eq_peer other with rfl | rfl
    · rw [update_self, update_of_ne other.peer_ne, update_self]
      exact htold.onFrame hpeer hout
    · rw [Role.peer_peer, update_self, update_of_ne role.peer_ne,
        update_self]
      exact htold'.pop hout

/-- No step changes the capabilities of an end that keeps the connection. -/
theorem HandshakeOk.step {action : HandshakeAction} (h : HandshakeOk cfg s)
    (hstep : handshakeStep cfg s action = some s') :
    HandshakeOk cfg s' ∧ ∀ role, (s role).Keeps (s' role) := by
  cases action with
  | start role =>
    simp only [handshakeStep, ite_none_right_eq_some, some.injEq] at hstep
    obtain ⟨-, rfl⟩ := hstep
    have hkeeps : (s role).Keeps (s role).start := ⟨id, fun _ => .inl⟩
    exact ⟨h.update (h.ok role).start (h.told role) hkeeps, hkeeps.update⟩
  | startNext role accept =>
    simp only [handshakeStep, ite_none_right_eq_some, map_eq_some_iff] at hstep
    obtain ⟨halive, e, he, rfl⟩ := hstep
    obtain ⟨hok, htold, hkeeps⟩ := (h.ok role).startNext (h.told role) halive he
    exact ⟨h.update hok htold hkeeps, hkeeps.update⟩
  | deliver role accept =>
    unfold handshakeStep at hstep
    dsimp only at hstep
    split at hstep
    next frame rest halive hout =>
      cases hstep
      have hpop : (s role.peer).Keeps { s role.peer with out := rest } := ⟨id, fun _ => .inl⟩
      refine ⟨h.deliver halive hout accept, fun other => (hpop.update other).trans ?_⟩
      refine HandshakeEnd.Keeps.update ?_ other
      rw [update_of_ne role.ne_peer]
      exact HandshakeEnd.keeps_onFrame
    · cases hstep
  | lose role =>
    simp only [handshakeStep, ite_none_right_eq_some, some.injEq] at hstep
    obtain ⟨-, rfl⟩ := hstep
    have hkeeps : (s role).Keeps (s role).abort := HandshakeEnd.keeps_abort
    exact ⟨h.update (h.ok role).abort HandshakeEnd.told_abort hkeeps, hkeeps.update⟩

theorem HandshakeOk.init : HandshakeOk cfg Handshake.init where
  ok _ := ⟨nofun, nofun, nofun, nofun, nofun, nofun⟩
  told _ := nofun

theorem HandshakeOk.run_keeps {history : List HandshakeAction} (h : HandshakeOk cfg s)
    (hrun : Lib.runSteps (handshakeStep cfg) s history = some s') (role : Role) :
    (s role).Keeps (s' role) :=
  @Lib.runSteps_rel _ _ (handshakeStep cfg) (HandshakeOk cfg)
    (fun s t => (s role).Keeps (t role)) (fun _ => .refl _) (fun _ _ _ => .trans)
    (fun _ _ _ h hstep => (h.step hstep).1) (fun _ _ _ h hstep => (h.step hstep).2 role)
    _ _ _ h hrun

end Connection

/-! ## Agreement -/

/-- The version lies in the range of a configuration. -/
def HandshakeConfig.Speaks (cfg : HandshakeConfig) (version : UInt16) : Prop :=
  cfg.minVersion ≤ version ∧ version ≤ cfg.maxVersion

/-- The features hold all that a configuration requires. -/
def HandshakeConfig.Satisfied (cfg : HandshakeConfig) (features : UInt64) : Prop :=
  features &&& cfg.requiredFeatureBits = cfg.requiredFeatureBits

/-- What the capabilities of an end must be for the two configurations. -/
structure CapsHonoured (cfg peer : HandshakeConfig) (caps : Capabilities) : Prop where
  spoken : cfg.Speaks caps.protocolVersion ∧ peer.Speaks caps.protocolVersion
  highest : ∀ version, cfg.Speaks version → peer.Speaks version → version ≤ caps.protocolVersion
  features : caps.featureBits = cfg.featureBits &&& peer.featureBits
  required : cfg.Satisfied caps.featureBits
  frame_le : caps.maxFramePayloadBytes ≤ peer.maxFramePayload
  message_le : caps.maxMessageBytes ≤ peer.maxMessageBytes

theorem agreedCaps_honoured {cfg peer : HandshakeConfig} (hoverlap : Overlap cfg peer)
    (hcovers : Covers cfg peer) : CapsHonoured cfg peer (agreedCaps cfg peer) where
  spoken := by
    have hlow := le_lowVersion_left (a := peer.minVersion) (b := cfg.minVersion)
    have hlow' := le_lowVersion_left (a := cfg.minVersion) (b := peer.minVersion)
    rw [lowVersion_comm] at hlow'
    have hhigh := highVersion_le_left (a := peer.maxVersion) (b := cfg.maxVersion)
    have hhigh' := highVersion_le_left (a := cfg.maxVersion) (b := peer.maxVersion)
    rw [highVersion_comm] at hhigh'
    exact ⟨⟨UInt16.le_trans hlow' hoverlap, hhigh'⟩, ⟨UInt16.le_trans hlow hoverlap, hhigh⟩⟩
  highest _ hown hpeer := le_highVersion hpeer.2 hown.2
  features := UInt64.and_comm ..
  required := hcovers
  frame_le := by
    dsimp only [agreedCaps]
    split
    · exact UInt32.le_refl _
    · exact UInt32.not_lt.mp ‹_›
  message_le := UInt32.le_refl _

/-- Nothing is left to happen of itself: no frame is under way to an end that
has the connection, and an end has it only with the other. -/
def Handshake.Settled (s : Handshake) : Prop :=
  ∀ role, ((s role).alive → (s role.peer).out = []) ∧ ((s role).alive = (s role.peer).alive)

variable {cfg : Role → HandshakeConfig}

theorem HandshakeOk.both {s : Handshake} (h : HandshakeOk cfg s)
    {role : Role} (hcaps : (s role).caps = some caps) (hpeer : (s role.peer).caps.isSome) :
    (cfg role.peer).Satisfied caps.featureBits := by
  obtain ⟨caps', hcaps'⟩ := isSome_iff_exists.mp hpeer
  obtain ⟨rfl, -, -⟩ := (h.ok role).caps caps hcaps
  obtain ⟨-, -, hcovers⟩ := (h.ok role.peer).caps caps' hcaps'
  rw [Role.peer_peer] at hcovers
  unfold HandshakeConfig.Satisfied
  dsimp only [agreedCaps]
  rw [UInt64.and_comm (cfg role.peer).featureBits]
  exact hcovers

/-- When a connection has settled, an end with capabilities has a peer with
capabilities. -/
theorem HandshakeOk.settled {s : Handshake}
    (h : HandshakeOk cfg s) (hsettled : s.Settled) {role : Role}
    (hcaps : (s role).caps.isSome) : (s role.peer).caps.isSome := by
  have halive := (h.ok role).live hcaps
  obtain ⟨-, halike⟩ := hsettled role
  obtain ⟨hempty, -⟩ := hsettled role.peer
  rw [Role.peer_peer] at hempty
  have hpeer : (s role.peer).alive = true := halike ▸ halive
  rcases h.told role hcaps with hknows | hdead | ⟨payload, hmem⟩
  · exact hknows
  · rw [hpeer] at hdead
    cases hdead
  · rw [hempty hpeer] at hmem
    cases hmem

/-- Whichever frames the ends handle first, both ends of a connection agree.  The
capabilities of an end are within what both configurations allow and hold what
its own requires, and they stay while the connection does.  They hold what the
peer requires as soon as that is ready too, and in any case once the connection
has settled. -/
theorem handshake_agreement (cfg : Role → HandshakeConfig)
    (history : List HandshakeAction) (s : Handshake)
    (hrun : Lib.runSteps (handshakeStep cfg) .init history = some s) :
    (∀ role caps, (s role).caps = some caps → CapsHonoured (cfg role) (cfg role.peer) caps) ∧
    (∀ role caps caps', (s role).caps = some caps → (s role.peer).caps = some caps' →
      caps.protocolVersion = caps'.protocolVersion ∧ caps.featureBits = caps'.featureBits ∧
        (cfg role.peer).Satisfied caps.featureBits) ∧
    (∀ later s' role caps, Lib.runSteps (handshakeStep cfg) s later = some s' →
      (s role).caps = some caps → (s' role).alive → (s' role).caps = some caps) ∧
    (s.Settled → ∀ role caps, (s role).caps = some caps →
      (cfg role.peer).Satisfied caps.featureBits) := by
  have h : HandshakeOk cfg s :=
    Lib.runSteps_invariant (fun _ _ _ hok hstep => (hok.step hstep).1) .init hrun
  refine ⟨fun role caps hcaps => ?_, fun role caps caps' hcaps hcaps' => ?_,
    fun later s' role caps hlater hcaps halive => ?_,
    fun hsettled role caps hcaps => ?_⟩
  · obtain ⟨rfl, hoverlap, hcovers⟩ := (h.ok role).caps caps hcaps
    exact agreedCaps_honoured hoverlap hcovers
  · have hpeer := h.both hcaps (Option.isSome_iff_exists.mpr ⟨caps', hcaps'⟩)
    obtain ⟨rfl, -, -⟩ := (h.ok role).caps caps hcaps
    obtain ⟨rfl, -, -⟩ := (h.ok role.peer).caps caps' hcaps'
    rw [Role.peer_peer]
    exact ⟨highVersion_comm, UInt64.and_comm .., hpeer⟩
  · rcases (h.run_keeps hlater role).2 caps hcaps with hkept | hdead
    · exact hkept
    · rw [hdead] at halive
      cases halive
  · exact h.both hcaps (h.settled hsettled (Option.isSome_iff_exists.mpr ⟨caps, hcaps⟩))

/-- A client of the versions 1 to 5 and a server of the versions 2 to 4.  The
server is started late and answers the HELLO it has kept before it sends its
own. -/
def exampleHandshake : Role → HandshakeConfig
  | .client => ⟨1, 5, .sharedConnection, .control, 100, 1000, 7, 2⟩
  | .server => ⟨2, 4, .sharedConnection, .control, 200, 500, 6, 4⟩

theorem handshake_agreement_late_start : ∃ s, Lib.runSteps (handshakeStep exampleHandshake) .init
        [.start .client, .startNext .client true, .deliver .server true,
          .start .server, .startNext .server true, .startNext .server true,
          .deliver .client true, .deliver .client true, .deliver .server true] =
        some s ∧
      (s .client).caps = some ⟨4, 3, 100, 500, 6⟩ ∧
      (s .server).caps = some ⟨4, 3, 100, 1000, 6⟩ ∧
      CapsHonoured (exampleHandshake .client) (exampleHandshake .server) ⟨4, 3, 100, 500, 6⟩ := by
  have hcaps : (Lib.runSteps (handshakeStep exampleHandshake) .init
      [.start .client, .startNext .client true, .deliver .server true,
        .start .server, .startNext .server true, .startNext .server true,
        .deliver .client true, .deliver .client true, .deliver .server true]).map
      (fun s => ((s .client).caps, (s .server).caps)) =
      some (some ⟨4, 3, 100, 500, 6⟩, some ⟨4, 3, 100, 1000, 6⟩) := by
    decide
  obtain ⟨s, hrun, hends⟩ := Option.map_eq_some_iff.mp hcaps
  obtain ⟨hclient, hserver⟩ := Prod.mk.inj hends
  exact ⟨s, hrun, hclient, hserver,
    (handshake_agreement exampleHandshake _ s hrun).1 .client _ hclient⟩

end Trpc
