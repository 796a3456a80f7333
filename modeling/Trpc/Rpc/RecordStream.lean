import Trpc.Lib.Consumer
import Trpc.Lib.Runs
import Trpc.Rpc.Metadata
import Trpc.Rpc.RecordState

/-!
# The binding of a call to its stream

`rpc_record_stream.c`: records come out of a stream of bytes that arrives in
pieces.  There are three ways to a whole record.  It may lie whole in the piece at
hand; its header may have to be collected first; or its bytes may have to be
collected in storage that is charged to a budget.

* `recordStreamReceive` is the code, with its loop.
* `streamConsumer` is what the loop is for: a reader of one byte string, which
  looks at the record at the front and knows nothing of pieces or storage.
* `receiveLoop_run` is the refinement.  With `run_append` it says that the pieces
  do not matter.

The application acts inside the `received` callback: it is a function of the
records delivered so far, and may send and abort there.  What it may not do there
(receive, destroy) is refused by the code and has no effect.
-/

namespace Trpc

open Lib List Bool

/-! ## Checks of one record -/

/-- `struct tr_rpc_record_stream_config`, with `SIZE_MAX` and the bytes that the
budget has left for collecting a record. -/
structure RecordStreamConfig where
  sizeMax : Nat
  limit : Nat
  sendDirection : RpcRecordDirection
  method : RpcMethodDesc

/-- `tr_record_receive_direction`. -/
def RecordStreamConfig.receiveDirection (cfg : RecordStreamConfig) : RpcRecordDirection :=
  match cfg.sendDirection with
  | .request => .response
  | .response => .request

/-- The limits for records in a direction, as the binding is created with. -/
def RecordStreamConfig.limits (cfg : RecordStreamConfig) (direction : RpcRecordDirection) :
    RpcRecordLimits :=
  let size := match direction with
    | .request => cfg.method.maxRequestBytes
    | .response => cfg.method.maxResponseBytes
  { maxEncodedSize := size
    maxDecodedSize := size
    maxMetadataSize := rpcMetadataMaxBytes
    acceptedCompression := rpcRecordAcceptNone }

/-- `call->rx_limits`. -/
def RecordStreamConfig.rxLimits (cfg : RecordStreamConfig) : RpcRecordLimits :=
  cfg.limits cfg.receiveDirection

/-- `tr_record_preflight`. -/
def recordPreflight (cfg : RecordStreamConfig) (state : RpcRecordState)
    (direction : RpcRecordDirection) (header : RpcRecordHeader) :
    Except Status RpcRecordState :=
  let codec := match direction with
    | .request => cfg.method.requestCodecId
    | .response => cfg.method.responseCodecId
  if header.kind = RpcRecordKind.open.code ∧ (header.serviceId ≠ cfg.method.serviceId ∨
      header.methodId ≠ cfg.method.methodId) then .error .errBadType
  else if header.kind = RpcRecordKind.message.code ∧ header.codecId ≠ codec then
    .error .errBadType
  else if header.kind = RpcRecordKind.message.code ∧
      (cfg.limits direction).maxDecodedSize < header.decodedSize then .error .errBadLength
  else rpcRecordStateNext cfg.sizeMax state direction header

/-- What the application does to a binding.  `taken` is the answer of the memory
budget and of `tr_stream_sendv`. -/
inductive RecordOp
  | send (header : RpcRecordHeader) (metadata : List UInt8) (bodyLen : Nat)
      (taken : Status)
  | abort (status : UInt32)

/-- `tr_rpc_record_stream_send_on_owner`: the state afterwards. -/
def recordSend (cfg : RecordStreamConfig) (state : RpcRecordState)
    (header : RpcRecordHeader) (metadata : List UInt8) (bodyLen : Nat) (taken : Status) :
    RpcRecordState :=
  if state.terminal then state
  else match rpcRecordEncodeHeader cfg.sizeMax rpcRecordHeaderSize header
      (cfg.limits cfg.sendDirection) with
    | .error _ => state
    | .ok _ =>
      if header.encodedSize.toNat ≠ bodyLen then state
      else if recordMetadataValid metadata ≠ .ok then state
      else match recordPreflight cfg state cfg.sendDirection header with
        | .error _ => state
        | .ok next => if taken = .ok then next else state

/-- One operation of the application. -/
def recordOp (cfg : RecordStreamConfig) (state : RpcRecordState) : RecordOp → RpcRecordState
  | .send header metadata bodyLen taken =>
    recordSend cfg state header metadata bodyLen taken
  | .abort status => (rpcRecordStateAbort state status).2

/-- What the application does in its `received` callback. -/
abbrev RecordApp := List RpcRecordView → List RecordOp

/-! ## The binding -/

/-- The call as the application knows it: its state and the records it was given. -/
structure RecordCall where
  state : RpcRecordState
  delivered : List RpcRecordView := []

/-- `struct tr_rpc_record_stream`.  `part` is the storage with its size, if there
is any, `header` the header bytes collected so far, and `notified` the status that
the terminal callback was given. -/
structure RecordStream where
  call : RecordCall
  part : Option (Nat × List UInt8) := none
  header : List UInt8 := []
  notified : Option UInt32 := none

/-- The bytes that are charged to the budget for collecting a record. -/
def RecordStream.charged (s : RecordStream) : Nat :=
  match s.part with
  | none => 0
  | some (size, _) => size

/-- A record is committed and given to the application. -/
def RecordCall.deliver (cfg : RecordStreamConfig) (app : RecordApp) (call : RecordCall)
    (next : RpcRecordState) (view : RpcRecordView) : RecordCall :=
  let delivered := call.delivered ++ [view]
  { state := (app delivered).foldl (recordOp cfg) next
    delivered := delivered }

/-- `tr_record_accept`. -/
def RecordCall.accept (cfg : RecordStreamConfig) (app : RecordApp) (call : RecordCall)
    (bytes : List UInt8) : Except Status RecordCall :=
  match rpcRecordDecode cfg.sizeMax bytes cfg.rxLimits with
  | .error ret => .error ret
  | .ok (view, _) =>
    match recordMetadataValid view.metadata with
    | .ok =>
      match recordPreflight cfg call.state cfg.receiveDirection view.header with
      | .error ret => .error ret
      | .ok next => .ok (call.deliver cfg app next view)
    | ret => .error ret

/-- How one round of the loop of `tr_rpc_record_stream_receive_on_owner` ends: the
loop breaks with a status, or goes on with the rest of the piece. -/
inductive ReceiveRound
  | stop (ret : Status) (s : RecordStream)
  | more (s : RecordStream) (data : List UInt8)

/-- The round that goes on behind a record, or breaks when it is not accepted. -/
def receiveWhole (cfg : RecordStreamConfig) (app : RecordApp) (s : RecordStream)
    (bytes rest : List UInt8) : ReceiveRound :=
  match s.call.accept cfg app bytes with
  | .error ret => .stop ret { s with part := none, header := [] }
  | .ok call => .more { s with call := call, part := none, header := [] } rest

/-- One round of the loop. -/
def receiveRound (cfg : RecordStreamConfig) (app : RecordApp) (s : RecordStream)
    (data : List UInt8) : ReceiveRound :=
  if s.call.state.terminal then .stop .errState s
  else match s.part with
  | some (size, bytes) =>
    let amount := min (size - bytes.length) data.length
    let bytes := bytes ++ data.take amount
    if bytes.length = size then receiveWhole cfg app s bytes (data.drop amount)
    else .more { s with part := some (size, bytes) } (data.drop amount)
  | none =>
    if s.header ≠ [] then
      let amount := min (rpcRecordHeaderSize - s.header.length) data.length
      let head := s.header ++ data.take amount
      match rpcRecordDecodeHeader cfg.sizeMax head cfg.rxLimits with
      | .error .again => .stop .ok { s with header := head }
      | .error ret => .stop ret { s with header := head }
      | .ok (header, total) =>
        match recordPreflight cfg s.call.state cfg.receiveDirection header with
        | .error ret => .stop ret { s with header := head }
        | .ok _ =>
          if total = rpcRecordHeaderSize then receiveWhole cfg app s head (data.drop amount)
          else if cfg.limit < total then .stop .errNomem { s with header := head }
          else .more { s with part := some (total, head), header := [] } (data.drop amount)
    else
      match rpcRecordDecodeHeader cfg.sizeMax data cfg.rxLimits with
      | .error .again => .stop .ok { s with header := data }
      | .error ret => .stop ret s
      | .ok (header, total) =>
        match recordPreflight cfg s.call.state cfg.receiveDirection header with
        | .error ret => .stop ret s
        | .ok _ =>
          if total ≤ data.length then
            receiveWhole cfg app s (data.take total) (data.drop total)
          else if cfg.limit < total then .stop .errNomem s
          else .more { s with part := some (total, data) } []

/-- The loop itself. -/
def receiveLoop (cfg : RecordStreamConfig) (app : RecordApp) :
    Nat → RecordStream → List UInt8 → Status × RecordStream
  | 0, s, _ => (.ok, s)
  | fuel + 1, s, data =>
    if data = [] then (.ok, s)
    else match receiveRound cfg app s data with
      | .stop ret s => (ret, s)
      | .more s data => receiveLoop cfg app fuel s data

/-- `TR_RPC_STATUS_INVALID_ARGUMENT` and `TR_RPC_STATUS_RESOURCE_EXHAUSTED`: how an
input error ends a call. -/
def recordErrorStatus (ret : Status) : UInt32 :=
  if ret = .errNomem then 8 else 3

/-- An input error ends a call that has not ended yet. -/
def RecordCall.fail (call : RecordCall) (ret : Status) : RecordCall :=
  { call with state := (rpcRecordStateAbort call.state (recordErrorStatus ret)).2 }

/-- The end of `tr_rpc_record_stream_receive_on_owner` before the notice. -/
def receiveEnd (result : Status × RecordStream) : RecordStream :=
  let s := result.2
  let s := if result.1 ≠ .ok then { s with call := s.call.fail result.1 } else s
  if s.call.state.terminal then { s with part := none, header := [] } else s

/-- `tr_record_notify_terminal`. -/
def RecordStream.notify (s : RecordStream) : RecordStream :=
  if s.call.state.terminal = true ∧ s.notified = none then
    { s with notified := some s.call.state.finalStatus }
  else s

/-- `tr_rpc_record_stream_receive_on_owner`. -/
def recordStreamReceive (cfg : RecordStreamConfig) (app : RecordApp) (s : RecordStream)
    (data : List UInt8) : Status × RecordStream :=
  if s.call.state.terminal then (.errState, s)
  else
    let result := receiveLoop cfg app (data.length + 1) s data
    (result.1, (receiveEnd result).notify)

/-- The stream messages of a call, one after the other. -/
def recordStreamReceiveAll (cfg : RecordStreamConfig) (app : RecordApp) (s : RecordStream)
    (chunks : List (List UInt8)) : RecordStream :=
  chunks.foldl (fun s data => (recordStreamReceive cfg app s data).2) s

/-- `tr_rpc_record_stream_create_on_owner`, on a stream of the given lane. -/
def recordStreamCreate (cfg : RecordStreamConfig) (lane : UInt32) : Except Status RecordStream :=
  if cfg.method.requestCodecId = 0 ∨ cfg.method.responseCodecId = 0 then
    .error .errInvalid
  else match rpcRecordStateInit cfg.method.requestCardinality cfg.method.responseCardinality with
    | .error ret => .error ret
    | .ok state =>
      if lane ≠ cfg.method.lane then .error .errBadType
      else .ok { call := { state := state } }

/-! ## The reader of one byte string -/

/-- One step: the record at the front, or the end of the call.  An ended call
takes bytes and does nothing with them. -/
def streamNext (cfg : RecordStreamConfig) (app : RecordApp) (call : RecordCall) :
    List UInt8 → Option (RecordCall × List UInt8)
  | [] => none
  | byte :: rest =>
    let data := byte :: rest
    if call.state.terminal then some (call, rest)
    else match rpcRecordDecodeHeader cfg.sizeMax data cfg.rxLimits with
    | .error .again => none
    | .error ret => some (call.fail ret, rest)
    | .ok (header, total) =>
      match recordPreflight cfg call.state cfg.receiveDirection header with
      | .error ret => some (call.fail ret, rest)
      | .ok _ =>
        if data.length < total then none
        else match call.accept cfg app (data.take total) with
          | .error ret => some (call.fail ret, rest)
          | .ok call => some (call, data.drop total)

/-! ## What the header decoder decides -/

variable {cfg : RecordStreamConfig} {app : RecordApp} {limits : RpcRecordLimits}
  {sizeMax : Nat}

variable {s : RecordStream} {data : List UInt8} {ret : Status} {header : RpcRecordHeader}
  {call : RecordCall}

/-- The size of a record whose header passed. -/
theorem rpcRecordDecodeHeader_total (hmax : 2 ^ 16 - 1 ≤ sizeMax) {total : Nat}
    (h : rpcRecordDecodeHeader sizeMax data limits = .ok (header, total)) :
    rpcRecordHeaderSize ≤ data.length ∧
      total = rpcRecordHeaderSize + header.metadataSize.toNat + header.encodedSize.toNat ∧
      header.metadataSize ≤ limits.maxMetadataSize ∧
      header.encodedSize ≤ limits.maxEncodedSize := by
  obtain ⟨hlead, _, hvalid⟩ := rpcRecordDecodeHeader_eq_ok.mp h
  have hsized := rpcRecordValidate_sized hmax hvalid
  exact ⟨hlead.size, hsized.total_eq, hsized.metadataSize, hsized.encodedSize⟩

/-- An error that is about the bytes, not about missing bytes or memory. -/
def AboutBytes (ret : Status) : Prop := ret ≠ .again ∧ ret ≠ .errNomem ∧ ret ≠ .ok

instance (ret : Status) : Decidable (AboutBytes ret) :=
  inferInstanceAs (Decidable (_ ∧ _ ∧ _))

theorem rpcRecordKindFields_error {size : Nat}
    (h : rpcRecordKindFields header limits size = .error ret) : AboutBytes ret := by
  unfold rpcRecordKindFields at h
  split at h
  · iterate 3 refine check_error h (by decide) fun h => ?_
    cases h
  iterate 4 refine check_error h (by decide) fun h => ?_
  cases h

theorem rpcRecordValidate_error (h : rpcRecordValidate sizeMax header limits = .error ret) :
    AboutBytes ret := by
  unfold rpcRecordValidate at h
  iterate 6 refine check_error h (by decide) fun h => ?_
  exact rpcRecordKindFields_error h

/-- A header is undecided only while bytes of it are missing. -/
theorem rpcRecordDecodeHeader_again (h : rpcRecordDecodeHeader sizeMax data limits = .error .again)
    : data.length < rpcRecordHeaderSize := by
  by_contra hlong
  have hsize : 48 ≤ data.length := Nat.not_lt.mp hlong
  unfold rpcRecordDecodeHeader at h
  split at h
  · cases h
  iterate 3
    rw [if_neg (by omega)] at h
    split at h
    · cases h
  split at h
  next ret hvalid =>
    cases h
    exact (rpcRecordValidate_error hvalid).1 rfl
  · cases h

/-- The decoder looks at the first 48 bytes. -/
theorem rpcRecordDecodeHeader_take (data : List UInt8) :
    rpcRecordDecodeHeader sizeMax (data.take rpcRecordHeaderSize) limits =
      rpcRecordDecodeHeader sizeMax data limits := by
  by_cases hlong : rpcRecordHeaderSize ≤ data.length
  · have hlen : (data.take rpcRecordHeaderSize).length = rpcRecordHeaderSize := by
      rw [length_take]
      omega
    have hne : rpcRecordDecodeHeader sizeMax (data.take rpcRecordHeaderSize) limits ≠
        .error .again := fun hagain => by
      have := rpcRecordDecodeHeader_again hagain
      omega
    have happend := rpcRecordDecodeHeader_append hne (data.drop rpcRecordHeaderSize)
    rw [take_append_drop] at happend
    exact happend.symm
  · rw [take_of_length_le (by omega)]

/-- An error that is not about memory. -/
def NotMemory (ret : Status) : Prop := ret ≠ .errNomem ∧ ret ≠ .ok

instance (ret : Status) : Decidable (NotMemory ret) :=
  inferInstanceAs (Decidable (_ ∧ _))

/-- A header is never rejected for want of memory. -/
theorem rpcRecordDecodeHeader_error (h : rpcRecordDecodeHeader sizeMax data limits = .error ret) :
    NotMemory ret := by
  unfold rpcRecordDecodeHeader at h
  iterate 8 refine check_error h (by decide) fun h => ?_
  cases hvalid : rpcRecordValidate sizeMax (rpcRecordFields data) limits with
  | error ret' =>
    rw [hvalid] at h
    cases h
    exact (rpcRecordValidate_error hvalid).2
  | ok total =>
    rw [hvalid] at h
    cases h

/-! ## The reader is a consumer -/

theorem streamNext_of_terminal (h : call.state.terminal = true) (byte : UInt8) (rest : List UInt8) :
    streamNext cfg app call (byte :: rest) = some (call, rest) := by
  unfold streamNext
  dsimp only
  rw [if_pos h]

variable {call' : RecordCall} {direction : RpcRecordDirection} {state next : RpcRecordState}

theorem streamNext_append {rest : List UInt8} (more : List UInt8)
    (h : streamNext cfg app call data = some (call', rest)) :
    streamNext cfg app call (data ++ more) = some (call', rest ++ more) := by
  cases data with
  | nil => cases h
  | cons byte tail =>
    rw [cons_append]
    unfold streamNext at h ⊢
    dsimp only at h ⊢
    split at h
    next hterm =>
      cases h
      rw [if_pos hterm]
    rename_i hterm
    rw [if_neg hterm]
    have happend : ∀ result, result ≠ Except.error Status.again →
        rpcRecordDecodeHeader cfg.sizeMax (byte :: tail) cfg.rxLimits = result →
        rpcRecordDecodeHeader cfg.sizeMax (byte :: (tail ++ more)) cfg.rxLimits = result :=
      fun result hne hdec => (rpcRecordDecodeHeader_append (hdec ▸ hne) more).trans hdec
    split at h
    · cases h
    next ret hne hdec =>
      cases h
      rw [happend _ (fun heq => hne (Except.error.inj heq)) hdec]
      split
      next heq =>
        exact absurd (Except.error.inj heq) hne
      next heq =>
        cases heq
        rfl
      next heq =>
        cases heq
    next header total hdec =>
      rw [happend (.ok (header, total)) (fun heq => nomatch heq) hdec]
      dsimp only
      cases hpre : recordPreflight cfg call.state cfg.receiveDirection header with
      | error ret =>
        rw [hpre] at h
        cases h
        rfl
      | ok next =>
        rw [hpre] at h
        dsimp only at h ⊢
        split at h
        · cases h
        rename_i hlong
        have hlen : total ≤ (byte :: tail).length := Nat.not_lt.mp hlong
        have hmore : ¬ (byte :: (tail ++ more)).length < total := by
          simp only [length_cons, length_append] at hlen ⊢
          omega
        have htake : (byte :: tail ++ more).take total = (byte :: tail).take total :=
          take_append_of_le_length hlen
        have hdrop : (byte :: tail ++ more).drop total = (byte :: tail).drop total ++ more :=
          drop_append_of_le_length hlen
        rw [cons_append] at htake hdrop
        rw [if_neg hmore, htake, hdrop]
        cases hacc : call.accept cfg app ((byte :: tail).take total) with
        | error ret | ok next =>
          rw [hacc] at h
          cases h
          rfl

theorem streamNext_shorter (hmax : 2 ^ 16 - 1 ≤ cfg.sizeMax)
    {rest : List UInt8} (h : streamNext cfg app call data = some (call', rest)) :
    rest.length < data.length := by
  cases data with
  | nil => cases h
  | cons byte tail =>
    unfold streamNext at h
    dsimp only at h
    have htail : tail.length < (byte :: tail).length := Nat.lt_succ_self _
    split at h
    · cases h
      exact htail
    split at h
    · cases h
    · cases h
      exact htail
    next header total hdec =>
      obtain ⟨hsize, htotal, _⟩ := rpcRecordDecodeHeader_total hmax hdec
      split at h
      · cases h
        exact htail
      split at h
      · cases h
      split at h
      · cases h
        exact htail
      cases h
      rw [length_drop, rpcRecordHeaderSize] at *
      omega

/-- The reader of one byte string. -/
def streamConsumer (cfg : RecordStreamConfig) (app : RecordApp)
    (hmax : 2 ^ 16 - 1 ≤ cfg.sizeMax) : Consumer RecordCall UInt8 where
  next := streamNext cfg app
  next_append := fun more h => streamNext_append more h
  next_shorter := fun h => streamNext_shorter hmax h

/-! ## States that have been initialised -/

theorem rpcRecordStateNext_initialized {record : RpcRecordHeader}
    (h : rpcRecordStateNext sizeMax state direction record = .ok next) :
    next.initialized = state.initialized := by
  unfold rpcRecordStateNext rpcRecordStateUnopened rpcRecordStateRequest rpcRecordStateResponse at h
  repeat' split at h
  all_goals cases h
  all_goals rfl

theorem recordPreflight_next (h : recordPreflight cfg state direction header = .ok next) :
    rpcRecordStateNext cfg.sizeMax state direction header = .ok next := by
  unfold recordPreflight at h
  obtain ⟨_, h⟩ := check_eq_ok.mp h
  obtain ⟨_, h⟩ := check_eq_ok.mp h
  exact (check_eq_ok.mp h).2

/-- A send leaves the state as it is, or applies the record to it. -/
theorem recordSend_cases (state : RpcRecordState) (header : RpcRecordHeader)
    (metadata : List UInt8) (bodyLen : Nat) (taken : Status) :
    recordSend cfg state header metadata bodyLen taken = state ∨
      rpcRecordStateNext cfg.sizeMax state cfg.sendDirection header =
        .ok (recordSend cfg state header metadata bodyLen taken) := by
  unfold recordSend
  iterate 5
    split
    · exact .inl rfl
  rename_i hpre
  split
  · exact .inr (recordPreflight_next hpre)
  · exact .inl rfl

theorem rpcRecordStateAbort_initialized (state : RpcRecordState) (status : UInt32) :
    (rpcRecordStateAbort state status).2.initialized = state.initialized := by
  unfold rpcRecordStateAbort
  split
  · rfl
  · split <;> rfl

theorem recordOp_initialized (state : RpcRecordState) (op : RecordOp) :
    (recordOp cfg state op).initialized = state.initialized := by
  cases op with
  | abort status => exact rpcRecordStateAbort_initialized state status
  | send header metadata bodyLen taken =>
    rcases @recordSend_cases cfg state header metadata bodyLen taken with hsame | hnext
    · exact congrArg RpcRecordState.initialized hsame
    · exact rpcRecordStateNext_initialized hnext

theorem accept_initialized {bytes : List UInt8} (h : call.accept cfg app bytes = .ok call') :
    call'.state.initialized = call.state.initialized := by
  have hops : ∀ (ops : List RecordOp) (state : RpcRecordState),
      (ops.foldl (recordOp cfg) state).initialized = state.initialized := by
    intro ops
    induction ops with
    | nil => exact fun _ => rfl
    | cons op rest ih => exact fun state => (ih _).trans (recordOp_initialized state op)
  unfold RecordCall.accept at h
  split at h
  · cases h
  split at h
  · split at h
    · cases h
    next hpre =>
      cases h
      exact (hops _ _).trans (rpcRecordStateNext_initialized (recordPreflight_next hpre))
  · cases h

/-- An input error ends a call that has been initialised. -/
theorem fail_terminal (hinit : call.state.initialized = true) (ret : Status) :
    (call.fail ret).state.terminal = true := by
  have hstatus : ¬ (¬ call.state.initialized = true ∨ recordErrorStatus ret = rpcStatusOk ∨
      rpcStatusCount ≤ recordErrorStatus ret) := by
    rw [hinit]
    unfold recordErrorStatus
    split <;> decide
  unfold RecordCall.fail rpcRecordStateAbort
  dsimp only
  rw [if_neg hstatus]
  split
  · assumption
  · rfl

theorem fail_of_terminal (hterm : call.state.terminal = true) (ret : Status) :
    call.fail ret = call := by
  have habort : (rpcRecordStateAbort call.state (recordErrorStatus ret)).2 = call.state := by
    unfold rpcRecordStateAbort
    rw [if_pos hterm]
    split <;> rfl
  unfold RecordCall.fail
  rw [habort]

/-! ## The refinement -/

/-- The bytes that a binding has taken and not yet delivered. -/
def RecordStream.pending (s : RecordStream) : List UInt8 :=
  match s.part with
  | none => s.header
  | some (_, bytes) => bytes

/-- What the storage of a binding holds between two pieces: nothing once the call
has ended, else the beginning of a header, or a record whose header has passed. -/
structure RecordStream.Ok (cfg : RecordStreamConfig) (s : RecordStream) : Prop where
  initialized : s.call.state.initialized = true
  ended : s.call.state.terminal = true → s.part = none ∧ s.header = []
  header : s.part = none → s.header ≠ [] →
    rpcRecordDecodeHeader cfg.sizeMax s.header cfg.rxLimits = .error .again
  part : ∀ size bytes, s.part = some (size, bytes) → s.header = [] ∧
    bytes.length < size ∧ ∃ header next,
      rpcRecordDecodeHeader cfg.sizeMax bytes cfg.rxLimits = .ok (header, size) ∧
      recordPreflight cfg s.call.state cfg.receiveDirection header = .ok next

/-- The budget has room for every record that the method allows. -/
def RecordStreamConfig.Ample (cfg : RecordStreamConfig) : Prop :=
  rpcRecordHeaderSize + rpcMetadataMaxBytes.toNat + cfg.rxLimits.maxEncodedSize.toNat ≤ cfg.limit

instance (cfg : RecordStreamConfig) : Decidable cfg.Ample :=
  inferInstanceAs (Decidable (_ ≤ _))

theorem RecordStreamConfig.Ample.total (hbudget : cfg.Ample) (hmax : 2 ^ 16 - 1 ≤ cfg.sizeMax)
    {total : Nat} (h : rpcRecordDecodeHeader cfg.sizeMax data cfg.rxLimits = .ok (header, total)) :
    ¬ cfg.limit < total := by
  obtain ⟨_, htotal, hmeta, henc⟩ := rpcRecordDecodeHeader_total hmax h
  have hm := UInt32.le_iff_toNat_le.mp hmeta
  have he := UInt32.le_iff_toNat_le.mp henc
  have hlimit : cfg.rxLimits.maxMetadataSize = rpcMetadataMaxBytes := rfl
  rw [hlimit] at hm
  unfold RecordStreamConfig.Ample at hbudget
  omega

section Refinement

variable (hmax : 2 ^ 16 - 1 ≤ cfg.sizeMax)

/-- An ended call takes every byte. -/
theorem run_of_terminal (h : call.state.terminal = true) (data : List UInt8) :
    (streamConsumer cfg app hmax).run call data = (call, []) := by
  induction data with
  | nil => exact Consumer.run_of_none _ rfl
  | cons byte rest ih =>
    rw [Consumer.run_of_some _ (streamNext_of_terminal h byte rest)]
    exact ih

/-- A call that fails ends there. -/
theorem run_of_fail {rest : List UInt8} (hinit : call.state.initialized = true)
    (h : streamNext cfg app call data = some (call.fail ret, rest)) :
    (streamConsumer cfg app hmax).run call data = (call.fail ret, []) := by
  rw [Consumer.run_of_some (streamConsumer cfg app hmax) h]
  exact run_of_terminal hmax (fail_terminal hinit ret) rest

end Refinement

/-! One lemma for each thing that the reader can find at the front. -/

theorem decoded_ne_nil {total : Nat}
    (h : rpcRecordDecodeHeader sizeMax data limits = .ok (header, total)) : data ≠ [] := by
  have hlead := (rpcRecordDecodeHeader_eq_ok.mp h).1.size
  rintro rfl
  cases hlead

section Next

variable {call : RecordCall} {data : List UInt8} (hlive : call.state.terminal = false)
include hlive

theorem streamNext_again (h : rpcRecordDecodeHeader cfg.sizeMax data cfg.rxLimits = .error .again) :
    streamNext cfg app call data = none := by
  cases data with
  | nil => rfl
  | cons byte rest => simp [streamNext, hlive, h]

theorem streamNext_bad (hdata : data ≠ [])
    (h : rpcRecordDecodeHeader cfg.sizeMax data cfg.rxLimits = .error ret) (hret : ret ≠ .again) :
    streamNext cfg app call data = some (call.fail ret, data.tail) := by
  obtain ⟨byte, rest, rfl⟩ := exists_cons_of_ne_nil hdata
  simp [streamNext, hlive, h]

variable {header : RpcRecordHeader} {total : Nat}
  (hheader : rpcRecordDecodeHeader cfg.sizeMax data cfg.rxLimits = .ok (header, total))
include hheader

theorem streamNext_refused
    (h : recordPreflight cfg call.state cfg.receiveDirection header = .error ret) :
    streamNext cfg app call data = some (call.fail ret, data.tail) := by
  obtain ⟨byte, rest, rfl⟩ := exists_cons_of_ne_nil (decoded_ne_nil hheader)
  simp [streamNext, hlive, hheader, h]

variable {next : RpcRecordState}
  (hpre : recordPreflight cfg call.state cfg.receiveDirection header = .ok next)
include hpre

theorem streamNext_short (h : data.length < total) : streamNext cfg app call data = none := by
  obtain ⟨byte, rest, rfl⟩ := exists_cons_of_ne_nil (decoded_ne_nil hheader)
  have h : rest.length + 1 < total := h
  simp [streamNext, hlive, hheader, hpre, h]

theorem streamNext_whole (h : total ≤ data.length) :
    streamNext cfg app call data = some (match call.accept cfg app (data.take total) with
      | .error ret => (call.fail ret, data.tail)
      | .ok call => (call, data.drop total)) := by
  obtain ⟨byte, rest, rfl⟩ := exists_cons_of_ne_nil (decoded_ne_nil hheader)
  have h : ¬ rest.length + 1 < total := Nat.not_lt.mpr h
  simp only [streamNext, hlive, hheader, hpre, length_cons, h, if_false, Bool.false_eq_true]
  split <;> rfl

end Next

theorem recordPreflight_error {state : RpcRecordState} {direction : RpcRecordDirection}
    (h : recordPreflight cfg state direction header = .error ret) : ret ≠ .ok := by
  unfold recordPreflight at h
  rintro rfl
  dsimp only at h
  split_ifs at h
  all_goals
    first
    | exact rpcRecordStateNext_ne_ok h
    | cases h

theorem accept_error {bytes : List UInt8} (h : call.accept cfg app bytes = .error ret) :
    ret ≠ .ok := by
  unfold RecordCall.accept at h
  split at h
  next hdec =>
    cases h
    unfold rpcRecordDecode at hdec
    split at hdec
    next hheader =>
      cases hdec
      exact (rpcRecordDecodeHeader_error hheader).2
    split at hdec
    · cases hdec
      exact nofun
    · cases hdec
  · split at h
    · split at h
      next hpre =>
        cases h
        exact recordPreflight_error hpre
      · cases h
    next hne =>
      cases h
      exact hne

/-- What a binding is after it has read some bytes: the reader's call, and in its
storage what the reader left. -/
structure Reads (want : RecordCall × List UInt8) (cfg : RecordStreamConfig)
    (s : RecordStream) (result : Status × RecordStream) : Prop where
  call : (receiveEnd result).call = want.1
  pending : (receiveEnd result).pending = want.2
  ok : (receiveEnd result).Ok cfg
  notified : (receiveEnd result).notified = s.notified
  failed : result.1 ≠ .ok → (receiveEnd result).call.state.terminal = true

theorem reads_fail {s' : RecordStream} (hret : ret ≠ .ok) (hinit : s'.call.state.initialized = true)
    (hcall : s'.call = s.call) (hnotified : s'.notified = s.notified) :
    Reads (s.call.fail ret, []) cfg s (ret, s') := by
  have hterm := fail_terminal hinit ret
  have hend : receiveEnd (ret, s') =
      { s' with call := s'.call.fail ret, part := none, header := [] } := by
    unfold receiveEnd
    dsimp only
    rw [if_pos hret, if_pos hterm]
  refine ⟨?_, ?_, ?_, ?_, fun _ => ?_⟩
  all_goals rw [hend]
  · exact congrArg (RecordCall.fail · ret) hcall
  · rfl
  · exact ⟨(rpcRecordStateAbort_initialized _ _).trans hinit, fun _ => ⟨rfl, rfl⟩,
      fun _ hne => absurd rfl hne, fun _ _ h => nomatch h⟩
  · exact hnotified
  · exact hterm

/-- The input is used up, or the call has ended. -/
theorem reads_done {s s' : RecordStream} (hok : s'.Ok cfg) (hnotified : s'.notified = s.notified) :
    Reads (s'.call, s'.pending) cfg s (.ok, s') := by
  have hend : receiveEnd (.ok, s') = s' := by
    unfold receiveEnd
    dsimp only
    rw [if_neg (not_not.mpr rfl)]
    split
    next hterm =>
      obtain ⟨hpart, hheader⟩ := hok.ended hterm
      cases s'
      simp_all
    · rfl
  refine ⟨?_, ?_, ?_, ?_, fun h => absurd rfl h⟩
  all_goals rw [hend]
  · exact hok
  · exact hnotified

theorem Reads.of_eq {want want' : RecordCall × List UInt8} {s' : RecordStream}
    {result : Status × RecordStream} (h : Reads want' cfg s' result) (hwant : want = want')
    (hnotified : s'.notified = s.notified) : Reads want cfg s result := by
  subst hwant
  exact ⟨h.call, h.pending, h.ok, h.notified.trans hnotified, h.failed⟩

/-- Between two pieces the reader would find nothing to take. -/
theorem RecordStream.Ok.next_none (hok : s.Ok cfg) :
    streamNext cfg app s.call s.pending = none := by
  unfold RecordStream.pending
  cases hterm : s.call.state.terminal with
  | true =>
    obtain ⟨hpart, hheader⟩ := hok.ended hterm
    rw [hpart, hheader]
    rfl
  | false =>
    cases hpart : s.part with
    | none =>
      dsimp only
      by_cases hheader : s.header = []
      · rw [hheader]
        rfl
      · exact streamNext_again hterm (hok.header hpart hheader)
    | some found =>
      obtain ⟨size, bytes⟩ := found
      obtain ⟨_, hshort, header, next, hdec, hpre⟩ := hok.part size bytes hpart
      exact streamNext_short hterm hdec hpre hshort

/-- A call that took a record has nothing in storage. -/
theorem RecordStream.Ok.fresh {s : RecordStream} (hinit : s.call.state.initialized = true)
    (hpart : s.part = none) (hheader : s.header = []) : s.Ok cfg :=
  ⟨hinit, fun _ => ⟨hpart, hheader⟩, fun _ hne => absurd hheader hne,
    fun _ _ h => by rw [hpart] at h; cases h⟩

/-- The header is still not whole. -/
theorem reads_header (hinit : s.call.state.initialized = true)
    (hlive : s.call.state.terminal = false) {head : List UInt8}
    (hagain : rpcRecordDecodeHeader cfg.sizeMax head cfg.rxLimits = .error .again) :
    Reads (s.call, head) cfg s (.ok, { s with part := none, header := head }) := by
  refine @reads_done cfg s { s with part := none, header := head } ?_ rfl
  refine ⟨hinit, fun h => ?_, fun _ _ => hagain, fun _ _ h => (nomatch h)⟩
  rw [hlive] at h
  cases h

/-- What a round may come to: it breaks where the reader would stop, or goes on with
less to read. -/
def RoundOk (cfg : RecordStreamConfig) (app : RecordApp) (hmax : 2 ^ 16 - 1 ≤ cfg.sizeMax)
    (s : RecordStream) (data : List UInt8) : ReceiveRound → Prop
  | .stop ret t =>
    Reads ((streamConsumer cfg app hmax).run s.call (s.pending ++ data)) cfg s (ret, t)
  | .more t rest => t.Ok cfg ∧ rest.length < data.length ∧ t.notified = s.notified ∧
    (streamConsumer cfg app hmax).run s.call (s.pending ++ data) =
      (streamConsumer cfg app hmax).run t.call (t.pending ++ rest)

section Round

variable (hmax : 2 ^ 16 - 1 ≤ cfg.sizeMax) {s : RecordStream} {data : List UInt8}

/-- A whole record at the front: the call goes on behind it or fails. -/
theorem receiveWhole_ok (hinit : s.call.state.initialized = true)
    (hlive : s.call.state.terminal = false) {total : Nat}
    (hdec : rpcRecordDecodeHeader cfg.sizeMax (s.pending ++ data) cfg.rxLimits =
      .ok (header, total)) {next : RpcRecordState}
    (hpre : recordPreflight cfg s.call.state cfg.receiveDirection header = .ok next)
    {bytes rest : List UInt8} (hsplit : s.pending ++ data = bytes ++ rest)
    (hbytes : bytes.length = total) (hrest : rest.length < data.length) :
    RoundOk cfg app hmax s data (receiveWhole cfg app s bytes rest) := by
  have htake : (s.pending ++ data).take total = bytes := by
    rw [hsplit, ← hbytes]
    exact take_left
  have hdrop : (s.pending ++ data).drop total = rest := by
    rw [hsplit, ← hbytes]
    exact drop_left
  have hlong : total ≤ (s.pending ++ data).length := by
    rw [hsplit, length_append]
    omega
  have hnext := @streamNext_whole cfg app _ _ hlive _ _ hdec _ hpre hlong
  rw [htake, hdrop] at hnext
  unfold receiveWhole
  cases hacc : s.call.accept cfg app bytes with
  | error ret =>
    rw [hacc] at hnext
    show Reads _ cfg s _
    rw [run_of_fail hmax hinit hnext]
    exact reads_fail (accept_error hacc) hinit rfl rfl
  | ok call =>
    rw [hacc] at hnext
    exact ⟨.fresh ((accept_initialized hacc).trans hinit) rfl rfl, hrest, rfl,
      Consumer.run_of_some (streamConsumer cfg app hmax) hnext⟩

/-- The bytes of a record are collected further. -/
theorem receiveRound_part (hok : s.Ok cfg) (hlive : s.call.state.terminal = false)
    (hdata : data ≠ []) {size : Nat} {bytes : List UInt8} (hpart : s.part = some (size, bytes)) :
    RoundOk cfg app hmax s data (receiveRound cfg app s data) := by
  have hpos : 0 < data.length := length_pos_of_ne_nil hdata
  obtain ⟨hheader, hshort, header, next, hdec, hpre⟩ := hok.part size bytes hpart
  have hpending : s.pending = bytes := by
    unfold RecordStream.pending
    rw [hpart]
  have hgrow : ∀ more, rpcRecordDecodeHeader cfg.sizeMax (bytes ++ more) cfg.rxLimits =
      .ok (header, size) := fun more => by
    rw [rpcRecordDecodeHeader_append _ more, hdec]
    rw [hdec]
    exact fun h => nomatch h
  unfold receiveRound
  rw [hlive, if_neg Bool.false_ne_true, hpart]
  dsimp only
  generalize hamount : min (size - bytes.length) data.length = amount
  have hsplit : s.pending ++ data = (bytes ++ data.take amount) ++ data.drop amount := by
    rw [hpending, append_assoc, take_append_drop]
  have hrest : (data.drop amount).length < data.length := by
    rw [length_drop]
    omega
  split
  next hfull =>
    refine receiveWhole_ok hmax hok.initialized hlive ?_ hpre hsplit hfull hrest
    rw [hpending]
    exact hgrow data
  next hfull =>
    have hlen : (bytes ++ data.take amount).length < size := by
      rw [length_append, length_take] at hfull ⊢
      omega
    refine ⟨⟨hok.initialized, fun h => ?_, fun h => (nomatch h), fun _ _ h => ?_⟩, hrest, rfl, ?_⟩
    · rw [hlive] at h
      cases h
    · cases h
      exact ⟨hheader, hlen, header, next, hgrow _, hpre⟩
    · rw [hsplit]
      rfl

/-- The header is collected further. -/
theorem receiveRound_header (hbudget : cfg.Ample) (hok : s.Ok cfg)
    (hlive : s.call.state.terminal = false) (hdata : data ≠ []) (hpart : s.part = none)
    (hheader : s.header ≠ []) :
    RoundOk cfg app hmax s data (receiveRound cfg app s data) := by
  have hpos : 0 < data.length := List.length_pos_of_ne_nil hdata
  have hagain := rpcRecordDecodeHeader_again (hok.header hpart hheader)
  have hpending : s.pending = s.header := by
    unfold RecordStream.pending
    rw [hpart]
  unfold receiveRound
  rw [hlive, if_neg Bool.false_ne_true, hpart]
  dsimp only
  rw [if_pos hheader]
  generalize hamount : min (rpcRecordHeaderSize - s.header.length) data.length = amount
  generalize hhead : s.header ++ data.take amount = head
  have hsplit : s.pending ++ data = head ++ data.drop amount := by
    rw [hpending, ← hhead, append_assoc, take_append_drop]
  have hrest : (data.drop amount).length < data.length := by
    rw [length_drop]
    omega
  have htake : head = (s.pending ++ data).take rpcRecordHeaderSize := by
    rw [hpending, take_append, take_of_length_le hagain.le, ← hhead]
    congr 1
    rw [← hamount]
    by_cases hle : rpcRecordHeaderSize - s.header.length ≤ data.length
    · rw [Nat.min_eq_left hle]
    · rw [Nat.min_eq_right (by omega), take_of_length_le (le_refl _),
        take_of_length_le (by omega)]
  have hsame : rpcRecordDecodeHeader cfg.sizeMax (s.pending ++ data) cfg.rxLimits =
      rpcRecordDecodeHeader cfg.sizeMax head cfg.rxLimits := by
    rw [htake, rpcRecordDecodeHeader_take]
  have hne : s.pending ++ data ≠ [] := by
    rw [hpending]
    exact append_ne_nil_of_left_ne_nil hheader _
  cases hdec : rpcRecordDecodeHeader cfg.sizeMax head cfg.rxLimits with
  | error ret =>
    rw [hdec] at hsame
    by_cases hret : ret = .again
    · subst hret
      dsimp only
      have hheadlen := rpcRecordDecodeHeader_again hdec
      have hall : s.pending ++ data = head := by
        rw [htake, take_of_length_le]
        have hlen := congrArg length htake
        rw [length_take] at hlen
        omega
      show Reads _ cfg s _
      rw [Consumer.run_of_none (streamConsumer cfg app hmax) (streamNext_again hlive hsame), hall]
      exact reads_header hok.initialized hlive hdec
    · have hstop : RoundOk cfg app hmax s data
          (.stop ret { s with part := none, header := head }) := by
        show Reads _ cfg s _
        rw [run_of_fail hmax hok.initialized (streamNext_bad hlive hne hsame hret)]
        exact reads_fail (rpcRecordDecodeHeader_error hdec).2 hok.initialized rfl rfl
      cases ret <;> first | exact absurd rfl hret | exact hstop
  | ok found =>
    obtain ⟨header, total⟩ := found
    rw [hdec] at hsame
    obtain ⟨hsize, htotal, _⟩ := rpcRecordDecodeHeader_total hmax hdec
    have hheadlen : head.length = rpcRecordHeaderSize := by
      have hlen := congrArg length htake
      rw [length_take] at hlen
      omega
    dsimp only
    cases hpre : recordPreflight cfg s.call.state cfg.receiveDirection header with
    | error ret =>
      show Reads _ cfg s _
      rw [run_of_fail hmax hok.initialized (streamNext_refused hlive hsame hpre)]
      exact reads_fail (recordPreflight_error hpre) hok.initialized rfl rfl
    | ok next =>
      dsimp only
      split
      next hwhole =>
        exact receiveWhole_ok hmax hok.initialized hlive hsame hpre hsplit
          (hheadlen.trans hwhole.symm) hrest
      rename_i hlonger
      rw [if_neg (hbudget.total hmax hdec)]
      refine ⟨⟨hok.initialized, fun h => ?_, fun h => (nomatch h), fun _ _ h => ?_⟩, hrest, rfl, ?_⟩
      · rw [hlive] at h
        cases h
      · cases h
        exact ⟨rfl, by omega, header, next, hdec, hpre⟩
      · rw [hsplit]
        rfl

/-- Nothing is pending: the record may lie whole in the piece. -/
theorem receiveRound_front (hbudget : cfg.Ample) (hok : s.Ok cfg)
    (hlive : s.call.state.terminal = false) (hdata : data ≠ []) (hpart : s.part = none)
    (hheader : s.header = []) :
    RoundOk cfg app hmax s data (receiveRound cfg app s data) := by
  have hpos : 0 < data.length := List.length_pos_of_ne_nil hdata
  have hpending : s.pending ++ data = data := by
    unfold RecordStream.pending
    rw [hpart, hheader]
    rfl
  unfold receiveRound
  rw [hlive, if_neg Bool.false_ne_true, hpart]
  dsimp only
  rw [if_neg (not_not.mpr hheader)]
  cases hdec : rpcRecordDecodeHeader cfg.sizeMax data cfg.rxLimits with
  | error ret =>
    by_cases hret : ret = .again
    · subst hret
      dsimp only
      show Reads _ cfg s _
      rw [hpending, Consumer.run_of_none (streamConsumer cfg app hmax)
        (streamNext_again hlive hdec)]
      exact reads_header hok.initialized hlive hdec
    · have hstop : RoundOk cfg app hmax s data (.stop ret s) := by
        show Reads _ cfg s _
        rw [hpending, run_of_fail hmax hok.initialized (streamNext_bad hlive hdata hdec hret)]
        exact reads_fail (rpcRecordDecodeHeader_error hdec).2 hok.initialized rfl rfl
      cases ret <;> first | exact absurd rfl hret | exact hstop
  | ok found =>
    obtain ⟨header, total⟩ := found
    obtain ⟨hsize, htotal, _⟩ := rpcRecordDecodeHeader_total hmax hdec
    dsimp only
    cases hpre : recordPreflight cfg s.call.state cfg.receiveDirection header with
    | error ret =>
      show Reads _ cfg s _
      rw [hpending, run_of_fail hmax hok.initialized (streamNext_refused hlive hdec hpre)]
      exact reads_fail (recordPreflight_error hpre) hok.initialized rfl rfl
    | ok next =>
      dsimp only
      split
      next hwhole =>
        refine receiveWhole_ok hmax hok.initialized hlive (by rw [hpending]; exact hdec) hpre
          (hpending.trans (take_append_drop total data).symm)
          (length_take_of_le hwhole) ?_
        rw [length_drop, rpcRecordHeaderSize] at *
        omega
      next hshort =>
        rw [if_neg (hbudget.total hmax hdec)]
        refine ⟨⟨hok.initialized, fun h => ?_, fun h => ?_, fun _ _ h => ?_⟩, hpos, rfl, ?_⟩
        · rw [hlive] at h
          cases h
        · cases h
        · cases h
          exact ⟨hheader, Nat.not_le.mp hshort, header, next, hdec, hpre⟩
        · rw [hpending]
          show _ = (streamConsumer cfg app hmax).run s.call (data ++ [])
          rw [append_nil]

/-- One round does what the reader does. -/
theorem receiveRound_ok (hbudget : cfg.Ample) (hok : s.Ok cfg) (hdata : data ≠ []) :
    RoundOk cfg app hmax s data (receiveRound cfg app s data) := by
  cases hterm : s.call.state.terminal with
  | true =>
    unfold receiveRound
    rw [if_pos hterm]
    show Reads _ cfg s _
    have hfail : Reads (s.call.fail .errState, []) cfg s (.errState, s) :=
      reads_fail (by decide) hok.initialized rfl rfl
    rw [fail_of_terminal hterm] at hfail
    rwa [run_of_terminal hmax hterm]
  | false =>
    cases hpart : s.part with
    | some found => exact receiveRound_part hmax hok hterm hdata hpart
    | none =>
      by_cases hheader : s.header = []
      · exact receiveRound_front hmax hbudget hok hterm hdata hpart hheader
      · exact receiveRound_header hmax hbudget hok hterm hdata hpart hheader

/-- The loop does what the reader does with the bytes that are pending and the bytes
at hand together.  By induction on the fuel; each round takes at least one byte. -/
theorem receiveLoop_run (hbudget : cfg.Ample) (fuel : Nat) {s : RecordStream}
    (hok : s.Ok cfg) {data : List UInt8} (hfuel : data.length < fuel) :
    Reads ((streamConsumer cfg app hmax).run s.call (s.pending ++ data)) cfg s
      (receiveLoop cfg app fuel s data) := by
  induction fuel generalizing s data with
  | zero => exact absurd hfuel (Nat.not_lt_zero _)
  | succ fuel ih =>
    rw [receiveLoop]
    by_cases hdata : data = []
    · rw [if_pos hdata, hdata, append_nil,
        Consumer.run_of_none (streamConsumer cfg app hmax) hok.next_none]
      exact reads_done hok rfl
    rw [if_neg hdata]
    have hround := @receiveRound_ok cfg app hmax s data hbudget hok hdata
    cases hresult : receiveRound cfg app s data with
    | stop ret t =>
      rw [hresult] at hround
      exact hround
    | more t rest =>
      rw [hresult] at hround
      obtain ⟨hok', hrest, hnotified, hrun⟩ := hround
      exact (ih hok' (by omega)).of_eq hrun hnotified

end Round

/-! ## Whole streams -/

/-- A binding between two pieces, whose application knows whether the call ended. -/
structure RecordStream.Settled (cfg : RecordStreamConfig) (s : RecordStream) : Prop where
  ok : s.Ok cfg
  told : s.notified = if s.call.state.terminal then some s.call.state.finalStatus else none

theorem receive_of_terminal (h : s.call.state.terminal = true) (data : List UInt8) :
    recordStreamReceive cfg app s data = (.errState, s) := by
  unfold recordStreamReceive
  rw [if_pos h]

section Whole

variable (hmax : 2 ^ 16 - 1 ≤ cfg.sizeMax) (hbudget : cfg.Ample)
include hbudget

/-- One piece. -/
theorem receive_run {s : RecordStream} (hs : s.Settled cfg) (data : List UInt8) :
    let s' := (recordStreamReceive cfg app s data).2
    (s'.call, s'.pending) = (streamConsumer cfg app hmax).run s.call (s.pending ++ data) ∧
      s'.Settled cfg ∧
      ((recordStreamReceive cfg app s data).1 ≠ .ok → s'.call.state.terminal = true) := by
  cases hterm : s.call.state.terminal with
  | true =>
    rw [receive_of_terminal hterm, run_of_terminal hmax hterm]
    obtain ⟨hpart, hheader⟩ := hs.ok.ended hterm
    refine ⟨?_, hs, fun _ => hterm⟩
    unfold RecordStream.pending
    rw [hpart, hheader]
  | false =>
    have hreads := @receiveLoop_run cfg app hmax hbudget (data.length + 1) s hs.ok data
      (Nat.lt_succ_self _)
    have htold := hs.told
    rw [hterm, if_neg Bool.false_ne_true] at htold
    unfold recordStreamReceive
    rw [hterm, if_neg Bool.false_ne_true]
    dsimp only
    generalize receiveLoop cfg app (data.length + 1) s data = result at hreads
    obtain ⟨hcall, hpending, hok, hnotified, hfailed⟩ := hreads
    rw [htold] at hnotified
    generalize receiveEnd result = ended at *
    unfold RecordStream.notify
    split
    next hnotify =>
      refine ⟨Prod.ext hcall hpending, ⟨⟨hok.initialized, hok.ended, hok.header, hok.part⟩, ?_⟩,
        hfailed⟩
      show some _ = if ended.call.state.terminal = true then _ else _
      rw [if_pos hnotify.1]
    next hnotify =>
      refine ⟨Prod.ext hcall hpending, ⟨hok, ?_⟩, hfailed⟩
      rw [hnotified, if_neg fun h => hnotify ⟨h, hnotified⟩]

/-- Any number of pieces: only their concatenation matters. -/
theorem receiveAll_run {s : RecordStream} (hs : s.Settled cfg) (chunks : List (List UInt8)) :
    let s' := recordStreamReceiveAll cfg app s chunks
    (s'.call, s'.pending) = (streamConsumer cfg app hmax).run s.call (s.pending ++ chunks.flatten) ∧
      s'.Settled cfg := by
  induction chunks generalizing s with
  | nil =>
    refine ⟨?_, hs⟩
    rw [flatten_nil, append_nil,
      Consumer.run_of_none (streamConsumer cfg app hmax) hs.ok.next_none]
    rfl
  | cons data rest ih =>
    obtain ⟨hone, hsettled, _⟩ := @receive_run cfg app hmax hbudget s hs data
    obtain ⟨hrest, hdone⟩ := ih hsettled
    refine ⟨?_, hdone⟩
    rw [flatten_cons, ← append_assoc, Consumer.run_append, ← hone]
    exact hrest

include hmax in
/-- Two bindings that were given the same bytes have the same call, and their
applications know the same. -/
theorem receiveAll_congr (hs : s.Settled cfg) {chunks chunks' : List (List UInt8)}
    (h : chunks.flatten = chunks'.flatten) : (recordStreamReceiveAll cfg app s chunks).call =
        (recordStreamReceiveAll cfg app s chunks').call ∧
      (recordStreamReceiveAll cfg app s chunks).notified =
        (recordStreamReceiveAll cfg app s chunks').notified := by
  obtain ⟨hrun, hsettled⟩ := @receiveAll_run cfg app hmax hbudget s hs chunks
  obtain ⟨hrun', hsettled'⟩ := @receiveAll_run cfg app hmax hbudget s hs chunks'
  rw [← h, ← hrun] at hrun'
  have hcall : (recordStreamReceiveAll cfg app s chunks').call =
      (recordStreamReceiveAll cfg app s chunks).call := congrArg Prod.fst hrun'
  refine ⟨hcall.symm, ?_⟩
  rw [hsettled.told, hsettled'.told, hcall]

end Whole

theorem recordStreamCreate_settled {lane : UInt32} (h : recordStreamCreate cfg lane = .ok s) :
    s.Settled cfg ∧ s.pending = [] ∧ s.call.delivered = [] ∧
      s.call.state = .init cfg.method.requestCardinality cfg.method.responseCardinality := by
  unfold recordStreamCreate at h
  obtain ⟨_, h⟩ := check_eq_ok.mp h
  split at h
  · cases h
  rename_i state hinit
  obtain ⟨_, h⟩ := check_eq_ok.mp h
  unfold rpcRecordStateInit at hinit
  obtain ⟨_, hinit⟩ := check_eq_ok.mp hinit
  cases hinit
  cases h
  exact ⟨⟨.fresh rfl rfl rfl, rfl⟩, rfl, rfl, rfl⟩

/-! ## Storage -/

/-- `tr_rpc_record_stream_abort_on_owner`, outside a receive. -/
def recordStreamAbort (s : RecordStream) (status : UInt32) : RecordStream :=
  match rpcRecordStateAbort s.call.state status with
  | (.ok, state) =>
    RecordStream.notify
      { s with call := { s.call with state := state }, part := none, header := [] }
  | _ => s

/-- `tr_rpc_record_stream_send_on_owner`, outside a receive.  The storage is left as
it is, whatever the record does to the call. -/
def recordStreamSend (cfg : RecordStreamConfig) (s : RecordStream) (header : RpcRecordHeader)
    (metadata : List UInt8) (bodyLen : Nat) (taken : Status) : RecordStream :=
  RecordStream.notify { s with call := { s.call with
    state := recordSend cfg s.call.state header metadata bodyLen taken } }

/-- What can happen to a binding.  An event of the stream aborts the call or does
nothing. -/
inductive StreamInput
  | receive (data : List UInt8)
  | send (header : RpcRecordHeader) (metadata : List UInt8) (bodyLen : Nat) (taken : Status)
  | abort (status : UInt32)

def streamStep (cfg : RecordStreamConfig) (app : RecordApp) (s : RecordStream) :
    StreamInput → Option RecordStream
  | .receive data => some (recordStreamReceive cfg app s data).2
  | .send header metadata bodyLen taken =>
    some (recordStreamSend cfg s header metadata bodyLen taken)
  | .abort status => some (recordStreamAbort s status)

/-- A FINAL_STATUS is sent only while no record has been received in part. -/
def EndsClean (s : RecordStream) : StreamInput → Prop
  | .send header _ _ _ => header.kind = RpcRecordKind.finalStatus.code → s.part = none
  | _ => True

instance (s : RecordStream) : (input : StreamInput) → Decidable (EndsClean s input)
  | .receive _ => isTrue trivial
  | .send _ _ _ _ => inferInstanceAs (Decidable (_ → _))
  | .abort _ => isTrue trivial

/-- No storage is charged once the call has ended. -/
def RecordStream.Clean (s : RecordStream) : Prop :=
  s.call.state.terminal = true → s.charged = 0

theorem charged_notify (s : RecordStream) : s.notify.charged = s.charged := by
  unfold RecordStream.notify
  split <;> rfl

theorem call_notify (s : RecordStream) : s.notify.call = s.call := by
  unfold RecordStream.notify
  split <;> rfl

theorem clean_receiveEnd (result : Status × RecordStream) : (receiveEnd result).Clean := by
  unfold receiveEnd
  extract_lets s t
  split
  · exact fun _ => rfl
  next hlive =>
    exact fun hterm => absurd hterm hlive

/-- No other record ends a call. -/
theorem rpcRecordStateNext_terminal_eq {sizeMax : Nat} {state next : RpcRecordState}
    {direction : RpcRecordDirection} {record : RpcRecordHeader}
    (hkind : record.kind ≠ RpcRecordKind.finalStatus.code)
    (h : rpcRecordStateNext sizeMax state direction record = .ok next) :
    next.terminal = state.terminal := by
  unfold rpcRecordStateNext rpcRecordStateUnopened rpcRecordStateRequest rpcRecordStateResponse at h
  repeat' split at h
  all_goals cases h
  all_goals first | rfl | simp_all

theorem RecordStream.Clean.step {s' : RecordStream} {input : StreamInput} (h : s.Clean)
    (hcond : EndsClean s input) (hstep : streamStep cfg app s input = some s') : s'.Clean := by
  cases input with
  | receive data =>
    cases hstep
    unfold recordStreamReceive
    split
    · exact h
    generalize receiveLoop cfg app (data.length + 1) s data = result
    unfold RecordStream.Clean
    dsimp only
    rw [call_notify, charged_notify]
    exact clean_receiveEnd result
  | send header metadata bodyLen taken =>
    cases hstep
    unfold RecordStream.Clean recordStreamSend
    rw [call_notify, charged_notify]
    by_cases hkind : header.kind = RpcRecordKind.finalStatus.code
    · intro _
      show RecordStream.charged s = 0
      unfold RecordStream.charged
      rw [hcond hkind]
    · rcases @recordSend_cases cfg s.call.state header metadata bodyLen taken with hsame | hnext
      · rw [hsame]
        exact h
      · rw [rpcRecordStateNext_terminal_eq hkind hnext]
        exact h
  | abort status =>
    cases hstep
    unfold recordStreamAbort
    split
    · unfold RecordStream.Clean
      rw [charged_notify]
      exact fun _ => rfl
    · exact h

end Trpc
