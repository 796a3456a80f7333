import Trpc.Channel.Slot
import Trpc.Rpc.RecordState

/-!
# Limits and credit

`tr_rpc_v2_prepare_limits` of `rpc_v2.c` and the check of `server.c` that a record server makes
of its configuration.  A record is sent whole, so the credit that a receiver keeps back must
never be what the next record needs.

* `FacadeLimits.Carries`: the limits hold the largest metadata record, and what the threshold
  allows to be kept back leaves room for the largest record.
* `sendWindowUpdateLocked_credit`: the credit a sender has left after `tr_stream_consume`.
-/

namespace Trpc

/-! ## The functions -/

/-- `struct tr_facade_limits`. -/
structure FacadeLimits where
  maxStreams : UInt32
  maxMethods : UInt32
  maxCalls : UInt32
  maxFramePayloadBytes : UInt32
  maxMessageBytes : UInt32
  initialWindowBytes : UInt64
  windowUpdateThresholdBytes : UInt64
  deriving DecidableEq, Repr

/-- `TR_RPC_RECORD_HEADER_SIZE + TR_RPC_METADATA_MAX_BYTES`. -/
def rpcRecordMinimum : UInt32 := 48 + rpcMetadataMaxBytes

/-- The largest threshold: `window - record_limit + 1`. -/
def rpcRecordThreshold (message : UInt32) (window : UInt64) : UInt64 :=
  let recordLimit := if window < message.toUInt64 then window else message.toUInt64
  window - recordLimit + 1

/-- `tr_rpc_v2_prepare_limits`. -/
def rpcV2PrepareLimits (limits : FacadeLimits) : Except Status FacadeLimits :=
  if limits.maxMessageBytes = 0 ∨ limits.initialWindowBytes = 0 ∨
      limits.maxFramePayloadBytes = 0 ∨ limits.maxMessageBytes < limits.maxFramePayloadBytes ∨
      0xffffffff - 48 < limits.maxMessageBytes ∨
      0xffffffffffffffff - 48 < limits.initialWindowBytes then .error .errInvalid
  else
    let message := limits.maxMessageBytes + 48
    let message := if message < rpcRecordMinimum then rpcRecordMinimum else message
    let window := limits.initialWindowBytes + 48
    let window := if window < rpcRecordMinimum.toUInt64 then rpcRecordMinimum.toUInt64 else window
    let threshold := rpcRecordThreshold message window
    .ok { limits with
      maxMessageBytes := message
      initialWindowBytes := window
      windowUpdateThresholdBytes :=
        if limits.windowUpdateThresholdBytes = 0 ∨ threshold < limits.windowUpdateThresholdBytes
        then threshold else limits.windowUpdateThresholdBytes }

/-- `struct tr_server_config` with its `connection_groups`, as far as the check reads it; of a
pointer only whether it is set. -/
structure ServerConfig where
  limits : FacadeLimits
  shardCount : Nat
  maxGroups : Nat
  maxConnections : Nat
  maxDataConnectionsPerGroup : Nat
  maxStreamsPerGroup : Nat
  authorize : Bool
  onMessage : Bool
  onDataEvent : Bool
  callbackArg : Bool

/-- `struct tr_server_record_config` with the endpoint and the tasks in it. -/
structure ServerRecordConfig where
  dispatchCapacity : Nat
  maxPendingPerCall : Nat
  maxRepliesPerEvent : Nat
  completionLimit : Nat
  progressLimit : Nat
  progressPeriodNs : Nat
  finalWaitNs : Nat
  workers : Nat
  taskCapacity : Nat
  memoryBudgetBytes : Nat

/-- `struct tr_rpc_dispatch_method`; of a function only whether it is set. -/
structure DispatchMethod where
  descriptor : RpcMethodDesc
  work : Bool
  v2Work : Bool
  v2Terminal : Bool

/-- What the check refuses in a method. -/
def serverMethodBad (limits : FacadeLimits) (method : DispatchMethod) : Bool :=
  method.work = method.v2Work ∨ (method.v2Terminal ∧ ¬ method.v2Work) ∨
    method.descriptor.requestCodecId = 0 ∨ method.descriptor.responseCodecId = 0 ∨
    1 < method.descriptor.lane ∨
    limits.maxMessageBytes.toNat < method.descriptor.maxRequestBytes.toNat + rpcRecordHeaderSize ∨
    limits.maxMessageBytes.toNat < method.descriptor.maxResponseBytes.toNat + rpcRecordHeaderSize ∨
    limits.initialWindowBytes.toNat <
      method.descriptor.maxRequestBytes.toNat + rpcRecordHeaderSize ∨
    limits.initialWindowBytes.toNat <
      method.descriptor.maxResponseBytes.toNat + rpcRecordHeaderSize ∨
    ¬ (rpcRecordStateInit method.descriptor.requestCardinality
      method.descriptor.responseCardinality).isOk

/-- The loop over the methods; `earlier` are those that have passed. -/
def serverMethodsValid (limits : FacadeLimits) (earlier : List DispatchMethod) :
    List DispatchMethod → Bool
  | [] => true
  | method :: rest =>
    ¬ serverMethodBad limits method ∧
      (∀ other ∈ earlier, ¬ (other.descriptor.serviceId = method.descriptor.serviceId ∧
        other.descriptor.methodId = method.descriptor.methodId)) ∧
      serverMethodsValid limits (earlier ++ [method]) rest

/-- `tr_server_record_config_valid`; `methodsMax` is the number of methods that memory can
hold. -/
def serverRecordConfigValid (methodsMax : Nat) (config : ServerConfig)
    (record : ServerRecordConfig) (methods : List DispatchMethod) : Status :=
  let limits := config.limits
  if config.maxGroups ≠ 0 ∨ config.maxConnections ≠ 0 ∨ config.maxDataConnectionsPerGroup ≠ 0 ∨
      config.maxStreamsPerGroup ≠ 0 ∨ config.authorize ∨ config.onMessage ∨
      config.onDataEvent ∨ config.callbackArg then .errUnsupported
  else if methods.length = 0 ∨ limits.maxMethods.toNat < methods.length ∨
      methodsMax < methods.length ∨ record.memoryBudgetBytes < config.shardCount ∨
      record.workers < config.shardCount ∨ record.taskCapacity < record.workers ∨
      2 ^ 32 - 1 ≤ record.taskCapacity ∨ record.dispatchCapacity = 0 ∨
      limits.maxCalls.toNat < record.dispatchCapacity ∨
      limits.maxStreams.toNat < record.dispatchCapacity ∨ record.maxPendingPerCall = 0 ∨
      record.maxRepliesPerEvent = 0 ∨ record.completionLimit = 0 ∨ record.progressLimit = 0 ∨
      record.progressPeriodNs < 1000000 ∨ 1000000000 < record.progressPeriodNs ∨
      record.finalWaitNs = 0 ∨ limits.maxMessageBytes < rpcRecordMinimum ∨
      limits.initialWindowBytes < rpcRecordMinimum.toUInt64 ∨
      rpcRecordThreshold limits.maxMessageBytes limits.initialWindowBytes <
        limits.windowUpdateThresholdBytes then .errInvalid
  else if ¬ serverMethodsValid limits [] methods then .errInvalid
  else .ok

/-! ## What the limits hold -/

/-- The largest metadata record fits, and what stays below the threshold may be kept back. -/
structure FacadeLimits.Carries (limits : FacadeLimits) : Prop where
  metadata : rpcRecordHeaderSize + rpcMetadataMaxBytes.toNat ≤
    min limits.maxMessageBytes.toNat limits.initialWindowBytes.toNat
  withheld : ∀ withheld < limits.windowUpdateThresholdBytes.toNat,
    min limits.maxMessageBytes.toNat limits.initialWindowBytes.toNat + withheld ≤
      limits.initialWindowBytes.toNat

/-- The largest threshold does not wrap, since no record is empty. -/
theorem rpcRecordThreshold_toNat {message : UInt32} {window : UInt64} (hmessage : 0 < message.toNat)
    (hwindow : 0 < window.toNat) :
    (rpcRecordThreshold message window).toNat =
      window.toNat - min message.toNat window.toNat + 1 := by
  have hlt := window.toNat_lt
  unfold rpcRecordThreshold
  dsimp only
  split
  next hless =>
    rw [UInt64.lt_iff_toNat_lt, UInt32.toNat_toUInt64] at hless
    rw [UInt64.sub_self]
    simp
    omega
  next hless =>
    rw [UInt64.not_lt, UInt64.le_iff_toNat_le, UInt32.toNat_toUInt64] at hless
    rw [UInt64.toNat_add, UInt64.toNat_sub_of_le _ _ (by
      rw [UInt64.le_iff_toNat_le, UInt32.toNat_toUInt64]
      exact hless), UInt32.toNat_toUInt64]
    simp only [UInt64.toNat_one]
    omega

/-- A threshold that is not above the largest one keeps back what it may. -/
theorem FacadeLimits.carries_of_le {limits : FacadeLimits}
    (hmessage : 560 ≤ limits.maxMessageBytes.toNat)
    (hwindow : 560 ≤ limits.initialWindowBytes.toNat)
    (hthreshold : limits.windowUpdateThresholdBytes ≤
      rpcRecordThreshold limits.maxMessageBytes limits.initialWindowBytes) : limits.Carries := by
  rw [UInt64.le_iff_toNat_le, rpcRecordThreshold_toNat (by omega) (by omega)] at hthreshold
  constructor
  · show 48 + 512 ≤ _
    omega
  · intro withheld hlt
    omega

/-- The header is added without a wrap. -/
theorem rpcMessage_toNat {message : UInt32} (h : ¬ 0xffffffff - 48 < message) :
    (if message + 48 < rpcRecordMinimum then rpcRecordMinimum else message + 48).toNat =
      max (message.toNat + 48) 560 := by
  rw [UInt32.not_lt, UInt32.le_iff_toNat_le,
    show (0xffffffff - 48 : UInt32).toNat = 2 ^ 32 - 49 by decide] at h
  have hsum : (message + 48).toNat = message.toNat + 48 := by
    rw [UInt32.toNat_add]
    exact Nat.mod_eq_of_lt (show message.toNat + 48 < 2 ^ 32 by omega)
  have hminimum : rpcRecordMinimum.toNat = 560 := by decide
  split <;> rename_i hless <;> rw [UInt32.lt_iff_toNat_lt, hsum, hminimum] at hless <;> omega

theorem rpcWindow_toNat {window : UInt64} (h : ¬ 0xffffffffffffffff - 48 < window) :
    (if window + 48 < rpcRecordMinimum.toUInt64 then rpcRecordMinimum.toUInt64
      else window + 48).toNat = max (window.toNat + 48) 560 := by
  rw [UInt64.not_lt, UInt64.le_iff_toNat_le,
    show (0xffffffffffffffff - 48 : UInt64).toNat = 2 ^ 64 - 49 by decide] at h
  have hsum : (window + 48).toNat = window.toNat + 48 := by
    rw [UInt64.toNat_add]
    exact Nat.mod_eq_of_lt (show window.toNat + 48 < 2 ^ 64 by omega)
  have hminimum : rpcRecordMinimum.toUInt64.toNat = 560 := by decide
  split <;> rename_i hless <;> rw [UInt64.lt_iff_toNat_lt, hsum, hminimum] at hless <;> omega

theorem rpcV2PrepareLimits_ok {limits effective : FacadeLimits}
    (h : rpcV2PrepareLimits limits = .ok effective) :
    effective.maxMessageBytes.toNat = max (limits.maxMessageBytes.toNat + 48) 560 ∧
      effective.initialWindowBytes.toNat = max (limits.initialWindowBytes.toNat + 48) 560 ∧
      0 < effective.windowUpdateThresholdBytes.toNat ∧ effective.Carries := by
  unfold rpcV2PrepareLimits at h
  split at h
  · cases h
  rename_i hvalid
  simp only [not_or] at hvalid
  obtain ⟨_, _, _, _, hmessage, hwindow⟩ := hvalid
  have hmessage := rpcMessage_toNat hmessage
  have hwindow := rpcWindow_toNat hwindow
  dsimp only at h
  generalize (if limits.maxMessageBytes + 48 < rpcRecordMinimum then _ else _) = message at *
  generalize (if limits.initialWindowBytes + 48 < rpcRecordMinimum.toUInt64 then _ else _) =
    window at *
  have hbound := @rpcRecordThreshold_toNat message window (by omega) (by omega)
  cases h
  refine ⟨hmessage, hwindow, ?_, FacadeLimits.carries_of_le (by dsimp only; omega)
    (by dsimp only; omega) ?_⟩
  · dsimp only
    split
    · omega
    next hgiven =>
      exact Nat.pos_of_ne_zero fun hzero => (not_or.mp hgiven).1 (UInt64.toNat_inj.mp hzero)
  · dsimp only
    split
    · exact UInt64.le_refl _
    next hgiven =>
      exact UInt64.not_lt.mp (not_or.mp hgiven).2

/-- The methods that pass fit. -/
theorem serverMethodsValid_fits {limits : FacadeLimits} {earlier methods : List DispatchMethod}
    (h : serverMethodsValid limits earlier methods = true) {method : DispatchMethod}
    (hmem : method ∈ methods) :
    max method.descriptor.maxRequestBytes.toNat method.descriptor.maxResponseBytes.toNat +
        rpcRecordHeaderSize ≤
      min limits.maxMessageBytes.toNat limits.initialWindowBytes.toNat := by
  induction methods generalizing earlier with
  | nil => cases hmem
  | cons first rest ih =>
    simp only [serverMethodsValid, decide_eq_true_eq] at h
    obtain ⟨hgood, _, hrest⟩ := h
    rcases List.mem_cons.mp hmem with rfl | hmem
    · simp only [serverMethodBad, decide_eq_true_eq, not_or] at hgood
      omega
    · exact ih hrest hmem

theorem serverRecordConfigValid_ok {methodsMax : Nat} {config : ServerConfig}
    {record : ServerRecordConfig} {methods : List DispatchMethod}
    (h : serverRecordConfigValid methodsMax config record methods = .ok) :
    config.limits.Carries ∧ serverMethodsValid config.limits [] methods = true := by
  unfold serverRecordConfigValid at h
  dsimp only at h
  split at h
  · cases h
  split at h
  · cases h
  rename_i hvalid
  split at h
  · cases h
  rename_i hmethods
  simp only [not_or] at hvalid
  obtain ⟨hmessage, hwindow, hthreshold⟩ := hvalid.2.2.2.2.2.2.2.2.2.2.2.2.2.2.2.2.2
  exact ⟨FacadeLimits.carries_of_le (UInt32.le_iff_toNat_le.mp (UInt32.not_lt.mp hmessage))
    (UInt64.le_iff_toNat_le.mp (UInt64.not_lt.mp hwindow)) (UInt64.not_lt.mp hthreshold),
    not_not.mp hmethods⟩

/-! ## What a receiver keeps back -/

/-- A Channel with these limits. -/
structure FacadeLimits.Configures (limits : FacadeLimits) (cfg : ChannelConfig) : Prop where
  message : cfg.maxMessageBytes = limits.maxMessageBytes
  window : cfg.initialWindowBytes = limits.initialWindowBytes.toNat
  threshold : cfg.windowUpdateThresholdBytes = limits.windowUpdateThresholdBytes.toNat

/-- A receiver that has nothing left to announce leaves its sender credit for the largest record,
whatever the peer has advertised. -/
def FacadeLimits.NeverStrands (limits : FacadeLimits) : Prop :=
  ∀ cfg lane slot bytes accept slot', limits.Configures cfg → slot.rxCreditStopped = false →
    slot.rxReceivedBytes + cfg.initialWindowBytes ≤ uint64Max →
    slot.rxConsumedBytes ≤ slot.rxReceivedBytes →
    (streamConsumeLocked cfg lane slot bytes accept).slot = some slot' →
    slot'.pendingAdvertisedLimit = 0 →
    slot'.rxConsumedBytes + min cfg.maxMessageBytes.toNat cfg.initialWindowBytes ≤
      slot'.rxAdvertisedLimit

/-- The capabilities of the peer only lower the threshold. -/
theorem windowUpdateThreshold_le (cfg : ChannelConfig) (caps : Capabilities) :
    windowUpdateThreshold cfg caps ≤ cfg.windowUpdateThresholdBytes := by
  unfold windowUpdateThreshold
  dsimp only
  split <;> omega

/-- What the receiver announces or keeps back, as long as the sum of what was consumed and the
window is a 64-bit number. -/
theorem sendWindowUpdateLocked_credit {cfg : ChannelConfig} {lane : LaneState}
    {slot slot' : StreamSlot} {accept : Bool} {record : Nat}
    (hrecord : ∀ withheld < cfg.windowUpdateThresholdBytes,
      record + withheld ≤ cfg.initialWindowBytes)
    (hopen : slot.rxCreditStopped = false)
    (hsum : slot.rxConsumedBytes + cfg.initialWindowBytes ≤ uint64Max)
    (hout : (sendWindowUpdateLocked cfg lane slot accept).slot = some slot')
    (hpending : slot'.pendingAdvertisedLimit = 0) :
    slot'.rxConsumedBytes + record ≤ slot'.rxAdvertisedLimit := by
  have htarget : addSatU64 slot.rxConsumedBytes cfg.initialWindowBytes =
      slot.rxConsumedBytes + cfg.initialWindowBytes := if_neg (by omega)
  have hfits := hrecord 0 cfg.threshold_pos
  unfold sendWindowUpdateLocked at hout
  simp only [htarget] at hout
  split at hout
  next hkeep =>
    cases hout
    have hle : slot.rxConsumedBytes + cfg.initialWindowBytes ≤ slot.rxAdvertisedLimit :=
      hkeep.resolve_left (by simp [hopen])
    dsimp only
    omega
  split at hout
  next hkeep =>
    cases hout
    have hroom := hrecord _ (hkeep.1.trans_le (windowUpdateThreshold_le cfg lane.caps))
    omega
  rename_i hmore _
  split at hout
  · cases hout
    dsimp only
    omega
  · cases hout
    dsimp only at hpending
    simp only [not_or] at hmore
    omega

theorem FacadeLimits.Carries.neverStrands {limits : FacadeLimits} (h : limits.Carries) :
    limits.NeverStrands := by
  intro cfg lane slot bytes accept slot' hcfg hopen hsum hconsumed hout hpending
  have hrecord := h.withheld
  rw [← hcfg.message, ← hcfg.window, ← hcfg.threshold] at hrecord
  unfold streamConsumeLocked at hout
  refine sendWindowUpdateLocked_credit hrecord ?_ ?_ hout hpending
  · exact hopen
  · dsimp only
    split <;> omega

/-- An application message within the limits that were prepared fits with its header, as does
every message of the methods that a record server accepts.  In both, and whatever the peer has
advertised, the credit that a receiver may keep back leaves room for the largest record; a
sender whose bytes were all consumed has it, as long as bytes and window stay below 2^64. -/
theorem rpc_limits_never_strand : (∀ limits effective, rpcV2PrepareLimits limits = .ok effective →
        effective.maxMessageBytes.toNat = max (limits.maxMessageBytes.toNat + 48) 560 ∧
        effective.initialWindowBytes.toNat = max (limits.initialWindowBytes.toNat + 48) 560 ∧
        0 < effective.windowUpdateThresholdBytes.toNat ∧
        effective.Carries ∧ effective.NeverStrands ∧
        ∀ size ≤ min limits.maxMessageBytes.toNat limits.initialWindowBytes.toNat,
          size + rpcRecordHeaderSize ≤
            min effective.maxMessageBytes.toNat effective.initialWindowBytes.toNat) ∧
      ∀ methodsMax config record methods,
        serverRecordConfigValid methodsMax config record methods = .ok →
        config.limits.Carries ∧ config.limits.NeverStrands ∧
        ∀ method ∈ methods, ∀ size ≤ max method.descriptor.maxRequestBytes.toNat
            method.descriptor.maxResponseBytes.toNat,
          size + rpcRecordHeaderSize ≤
            min config.limits.maxMessageBytes.toNat config.limits.initialWindowBytes.toNat := by
  refine ⟨fun limits effective h => ?_, fun methodsMax config record methods h => ?_⟩
  · obtain ⟨hmessage, hwindow, hpos, hcarries⟩ := rpcV2PrepareLimits_ok h
    refine ⟨hmessage, hwindow, hpos, hcarries, hcarries.neverStrands, fun size hsize => ?_⟩
    show size + 48 ≤ _
    omega
  · obtain ⟨hcarries, hmethods⟩ := serverRecordConfigValid_ok h
    refine ⟨hcarries, hcarries.neverStrands, fun method hmem size hsize => ?_⟩
    have hfits := serverMethodsValid_fits hmethods hmem
    omega

/-- The channel of limits that were prepared from 512 bytes for a message and 952 for the
window. -/
def narrowConfig : ChannelConfig where
  mode := .sharedConnection
  maxStreams := 1
  initialWindowBytes := 1000
  windowUpdateThresholdBytes := 441
  maxMessageBytes := 560
  reassemblyPool := none
  featureBits := 0
  requiredFeatureBits := 0
  maxPayloadLen := 512
  streams_pos := Nat.zero_lt_one
  window_pos := by decide
  window_le := by decide
  threshold_pos := by decide
  threshold_le := by decide
  pool_le := nofun
  required_le := by decide
  payload_pos := by decide

/-- A peer that takes messages of one byte only.  All that may be kept back, 440 bytes, is
consumed and not announced; the sender still has credit for a record of 560 bytes.  A server
accepts the same limits. -/
theorem rpc_limits_never_strand_narrow :
    (∃ slot', (streamConsumeLocked narrowConfig ⟨true, ⟨3, 3, 512, 1, 0⟩⟩
        { streamSlotInit narrowConfig 1 .control .opened with rxReceivedBytes := 440 }
        440 true).slot = some slot' ∧
      slot'.rxAdvertisedLimit = 1000 ∧ slot'.rxConsumedBytes + 560 ≤ slot'.rxAdvertisedLimit) ∧
    FacadeLimits.NeverStrands ⟨1, 1, 1, 512, 560, 1000, 441⟩ := by
  obtain ⟨hprepared, hserver⟩ := rpc_limits_never_strand
  obtain ⟨-, -, -, -, hstrand, -⟩ := hprepared ⟨1, 1, 1, 512, 512, 952, 0⟩ _ rfl
  refine ⟨?_, ?_⟩
  · refine Lib.exists_of_map (f := fun slot => (slot.rxAdvertisedLimit,
      slot.pendingAdvertisedLimit)) (y := (1000, 0)) (by decide) fun slot' hout hleft => ?_
    obtain ⟨hlimit, hpending⟩ := Prod.ext_iff.1 hleft
    exact ⟨hlimit, hstrand narrowConfig _ _ _ _ slot' ⟨rfl, rfl, rfl⟩ rfl (by decide) (by decide)
      hout hpending⟩
  · exact (hserver 1 ⟨⟨1, 1, 1, 512, 560, 1000, 441⟩, 1, 0, 0, 0, 0, false, false, false, false⟩
      ⟨1, 1, 1, 1, 1, 1000000, 1, 1, 1, 1⟩
      [⟨⟨1, 2, .one, .one, 1, 1, 0, 64, 64⟩, true, false, false⟩] (by decide)).2.1

/-- Near the end of the counters the sum is cut to 2^64 - 1: 300 bytes stay below the threshold,
nothing is announced, and the sender has credit for 400 bytes where a record takes 560. -/
theorem saturated_credit_strands :
    rpcV2PrepareLimits ⟨1, 1, 1, 512, 512, 952, 0⟩ = .ok ⟨1, 1, 1, 512, 560, 1000, 441⟩ ∧
      ∃ slot slot' lane, slot.rxCreditStopped = false ∧ slot.rxReceivedBytes ≤ uint64Max ∧
        (streamConsumeLocked narrowConfig lane slot 300 true).slot = some slot' ∧
        slot'.pendingAdvertisedLimit = 0 ∧
        slot'.rxConsumedBytes + 400 = slot'.rxAdvertisedLimit ∧
        min narrowConfig.maxMessageBytes.toNat narrowConfig.initialWindowBytes = 560 := by
  refine ⟨by decide, { streamSlotInit narrowConfig 1 .control .opened with
    rxReceivedBytes := 2 ^ 64 - 701
    rxConsumedBytes := 2 ^ 64 - 1001
    rxAdvertisedLimit := 2 ^ 64 - 301 }, _, ⟨true, ⟨3, 3, 512, 560, 0⟩⟩, rfl, by decide, rfl, rfl,
    by decide, by decide⟩

end Trpc
