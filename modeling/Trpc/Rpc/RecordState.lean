import Trpc.Lib.Runs
import Trpc.Rpc.Record

/-!
# The record state machine

The per-call automaton of `rpc_record.c` and the language it accepts.

* `rpcRecordStateApply` is the automaton with its out-parameter: it answers a
  status and the state that the caller finds afterwards.  The code works on a
  local copy `next`, which is `rpcRecordStateNext` here.
* `RpcCall` is the language of complete calls, stated without counters: the
  records of each direction in their order, and how the call ends.

The automaton accepts exactly the beginnings of calls.
-/

namespace Trpc

open Lib List

/-- `enum tr_rpc_cardinality`. -/
inductive RpcCardinality
  | none
  | one
  | many
  deriving DecidableEq, Repr

/-- `enum tr_rpc_record_direction`. -/
inductive RpcRecordDirection
  | request
  | response
  deriving DecidableEq, Repr

/-- `struct tr_rpc_method_desc`. -/
structure RpcMethodDesc where
  serviceId : UInt32
  methodId : UInt32
  requestCardinality : RpcCardinality
  responseCardinality : RpcCardinality
  requestCodecId : UInt32
  responseCodecId : UInt32
  lane : UInt32
  maxRequestBytes : UInt32
  maxResponseBytes : UInt32
  deriving DecidableEq, Repr

/-- `struct tr_rpc_record_state`. -/
structure RpcRecordState where
  requestCardinality : RpcCardinality
  responseCardinality : RpcCardinality
  requestMessages : Nat
  responseMessages : Nat
  finalStatus : UInt32
  initialized : Bool
  opened : Bool
  requestClosed : Bool
  responseHeaders : Bool
  terminal : Bool
  deriving DecidableEq, Repr

/-- `tr_rpc_record_cardinality_valid`. -/
def rpcRecordCardinalityValid (value : RpcCardinality) : Bool :=
  value = .one ∨ value = .many

/-- The state that `tr_rpc_record_state_init` writes. -/
def RpcRecordState.init (request response : RpcCardinality) : RpcRecordState where
  requestCardinality := request
  responseCardinality := response
  requestMessages := 0
  responseMessages := 0
  finalStatus := 0
  initialized := true
  opened := false
  requestClosed := false
  responseHeaders := false
  terminal := false

/-- `tr_rpc_record_state_init`. -/
def rpcRecordStateInit (request response : RpcCardinality) : Except Status RpcRecordState :=
  if ¬ rpcRecordCardinalityValid request ∨ ¬ rpcRecordCardinalityValid response then
    .error .errInvalid
  else .ok (.init request response)

/-- The limits `shape` of `tr_rpc_record_state_apply`. -/
def rpcRecordShape : RpcRecordLimits where
  maxEncodedSize := 0xffffffff
  maxDecodedSize := 0xffffffff
  maxMetadataSize := rpcMetadataMaxBytes
  acceptedCompression := rpcRecordAcceptNone ||| rpcRecordAcceptZstd

/-- `UINT64_MAX`, at which a message counter stops. -/
def rpcMessagesMax : Nat := 2 ^ 64 - 1

/-- The block of `tr_rpc_record_state_apply` before the call is opened.  The
answer of the peer may come first: a stream can be rejected before its OPEN. -/
def rpcRecordStateUnopened (next : RpcRecordState) (direction : RpcRecordDirection)
    (record : RpcRecordHeader) : Except Status RpcRecordState :=
  if record.kind = RpcRecordKind.open.code ∧ direction = .request then
    .ok { next with opened := true }
  else if record.kind = RpcRecordKind.finalStatus.code ∧ direction = .response ∧
      record.status ≠ rpcStatusOk then
    .ok { next with terminal := true, finalStatus := record.status }
  else .error .errState

/-- The block of `tr_rpc_record_state_apply` for the request direction. -/
def rpcRecordStateRequest (next : RpcRecordState) (record : RpcRecordHeader) :
    Except Status RpcRecordState :=
  if next.requestClosed then .error .errState
  else if record.kind = RpcRecordKind.message.code then
    if next.requestMessages = rpcMessagesMax ∨
        (next.requestCardinality = .one ∧ next.requestMessages ≠ 0) then
      .error .errState
    else .ok { next with requestMessages := next.requestMessages + 1 }
  else if record.kind = RpcRecordKind.halfClose.code then
    if next.requestCardinality = .one ∧ next.requestMessages ≠ 1 then
      .error .errState
    else .ok { next with requestClosed := true }
  else .error .errState

/-- The block of `tr_rpc_record_state_apply` for the response direction. -/
def rpcRecordStateResponse (next : RpcRecordState) (record : RpcRecordHeader) :
    Except Status RpcRecordState :=
  if record.kind = RpcRecordKind.initialMetadata.code then
    if next.responseHeaders then .error .errState
    else .ok { next with responseHeaders := true }
  else if record.kind = RpcRecordKind.message.code then
    if ¬ next.responseHeaders ∨ next.responseMessages = rpcMessagesMax ∨
        (next.responseCardinality = .one ∧ next.responseMessages ≠ 0) then
      .error .errState
    else .ok { next with responseMessages := next.responseMessages + 1 }
  else if record.kind = RpcRecordKind.finalStatus.code then
    if record.status = rpcStatusOk ∧ ((next.requestCardinality = .one ∧ next.requestMessages ≠ 1) ∨
          (next.responseCardinality = .one ∧ next.responseMessages ≠ 1)) then
      .error .errState
    else .ok { next with terminal := true, finalStatus := record.status }
  else .error .errState

/-- The local copy `next` of `tr_rpc_record_state_apply`, or why the record is
rejected. -/
def rpcRecordStateNext (sizeMax : Nat) (state : RpcRecordState)
    (direction : RpcRecordDirection) (record : RpcRecordHeader) :
    Except Status RpcRecordState :=
  if ¬ state.initialized then .error .errInvalid
  else if state.terminal then .error .errState
  else
    match rpcRecordValidate sizeMax record rpcRecordShape with
    | .error ret => .error ret
    | .ok _ =>
      if ¬ state.opened then rpcRecordStateUnopened state direction record
      else
        match direction with
        | .request => rpcRecordStateRequest state record
        | .response => rpcRecordStateResponse state record

/-- `tr_rpc_record_state_apply`: the status and the state afterwards. -/
def rpcRecordStateApply (sizeMax : Nat) (state : RpcRecordState)
    (direction : RpcRecordDirection) (record : RpcRecordHeader) :
    Status × RpcRecordState :=
  match rpcRecordStateNext sizeMax state direction record with
  | .error ret => (ret, state)
  | .ok next => (.ok, next)

/-- `tr_rpc_record_state_abort`: the status and the state afterwards. -/
def rpcRecordStateAbort (state : RpcRecordState) (status : UInt32) : Status × RpcRecordState :=
  if ¬ state.initialized ∨ status = rpcStatusOk ∨ rpcStatusCount ≤ status then
    (.errInvalid, state)
  else if state.terminal then (.errState, state)
  else (.ok, { state with terminal := true, finalStatus := status })

/-- A record and the direction in which it travels. -/
structure RpcRecordEvent where
  direction : RpcRecordDirection
  record : RpcRecordHeader
  deriving DecidableEq, Repr

/-- One accepted record. -/
def rpcRecordStep (sizeMax : Nat) (state : RpcRecordState) (event : RpcRecordEvent) :
    Option RpcRecordState :=
  match rpcRecordStateApply sizeMax state event.direction event.record with
  | (.ok, next) => some next
  | _ => none

/-! ## One record -/

variable {sizeMax : Nat} {state : RpcRecordState} {record : RpcRecordHeader}
  {direction : RpcRecordDirection}

theorem rpcRecordValidate_ne_ok {h : RpcRecordHeader} {limits : RpcRecordLimits} :
    rpcRecordValidate sizeMax h limits ≠ .error .ok := by
  intro hok
  unfold rpcRecordValidate at hok
  iterate 6 have hok := ((check_eq (by nofun)).mp hok).2
  unfold rpcRecordKindFields at hok
  split at hok
  · iterate 3 have hok := ((check_eq (by nofun)).mp hok).2
    cases hok
  iterate 4 have hok := ((check_eq (by nofun)).mp hok).2
  cases hok

theorem rpcRecordStateNext_ne_ok :
    rpcRecordStateNext sizeMax state direction record ≠ .error .ok := by
  unfold rpcRecordStateNext
  intro hok
  split at hok
  · cases hok
  split at hok
  · cases hok
  cases hvalid : rpcRecordValidate sizeMax record rpcRecordShape with
  | error ret =>
    rw [hvalid] at hok
    cases hok
    exact rpcRecordValidate_ne_ok hvalid
  | ok total =>
    simp only [hvalid, rpcRecordStateUnopened, rpcRecordStateRequest, rpcRecordStateResponse] at hok
    repeat' split at hok
    all_goals cases hok

/-- A record is accepted exactly if the local copy becomes the state. -/
theorem rpcRecordStateApply_eq_ok {next : RpcRecordState} :
    rpcRecordStateApply sizeMax state direction record = (.ok, next) ↔
      rpcRecordStateNext sizeMax state direction record = .ok next := by
  unfold rpcRecordStateApply
  cases hnext : rpcRecordStateNext sizeMax state direction record with
  | error ret =>
    constructor
    · intro h
      cases h
      exact absurd hnext rpcRecordStateNext_ne_ok
    · nofun
  | ok s => simp

theorem rpcRecordStep_eq_some {next : RpcRecordState} {event : RpcRecordEvent} :
    rpcRecordStep sizeMax state event = some next ↔
      rpcRecordStateNext sizeMax state event.direction event.record = .ok next := by
  rw [← rpcRecordStateApply_eq_ok]
  unfold rpcRecordStep
  split
  next h =>
    simp [h]
  rename_i h
  constructor
  · nofun
  · exact fun heq => absurd heq (h next)

/-- The record has a form that some limits allow. -/
def RpcRecordShaped (sizeMax : Nat) (record : RpcRecordHeader) : Prop :=
  ∃ total, rpcRecordValidate sizeMax record rpcRecordShape = .ok total

/-- A rejected record leaves the state as it was. -/
theorem rpcRecordStateApply_rejected
    (h : (rpcRecordStateApply sizeMax state direction record).1 ≠ .ok) :
    (rpcRecordStateApply sizeMax state direction record).2 = state := by
  unfold rpcRecordStateApply at h ⊢
  cases hnext : rpcRecordStateNext sizeMax state direction record with
  | error ret => rfl
  | ok next =>
    rw [hnext] at h
    exact absurd rfl h

/-- After the end of a call nothing is accepted. -/
theorem rpcRecordStateApply_terminal (h : state.terminal = true) (direction : RpcRecordDirection)
    (record : RpcRecordHeader) : (rpcRecordStateApply sizeMax state direction record).1 ≠ .ok := by
  unfold rpcRecordStateApply rpcRecordStateNext
  by_cases hinit : state.initialized
  · simp [h, hinit]
  · simp [hinit]

/-- A state in which a record is accepted has not ended. -/
theorem rpcRecordStateNext_terminal {next : RpcRecordState}
    (h : rpcRecordStateNext sizeMax state direction record = .ok next) :
    state.terminal = false := by
  by_contra hne
  exact rpcRecordStateApply_terminal (Bool.not_eq_false _ ▸ hne) direction record
    (congrArg Prod.fst (rpcRecordStateApply_eq_ok.mpr h))

/-! ## The states of an open call -/

/-- The state of a call that is open and not ended, by what has been read. -/
def rpcCallState (req resp : RpcCardinality) (m n : Nat) (closed headers : Bool) : RpcRecordState :=
  { RpcRecordState.init req resp with
    opened := true
    requestMessages := m
    responseMessages := n
    requestClosed := closed
    responseHeaders := headers }

/-- The state of a call that ended in a state. -/
def RpcRecordState.ended (state : RpcRecordState) (status : UInt32) : RpcRecordState :=
  { state with terminal := true, finalStatus := status }

section Steps

variable {sizeMax : Nat} {req resp : RpcCardinality} {m n : Nat}
  {closed headers : Bool} {record : RpcRecordHeader} {next : RpcRecordState}

/-- A live state rejects a record without a form, and looks at the others. -/
theorem rpcRecordStateNext_live {next : RpcRecordState} (hinit : state.initialized = true)
    (hlive : state.terminal = false) :
    rpcRecordStateNext sizeMax state direction record = .ok next ↔ RpcRecordShaped sizeMax record ∧
      (if ¬ state.opened then rpcRecordStateUnopened state direction record
        else match direction with
          | .request => rpcRecordStateRequest state record
          | .response => rpcRecordStateResponse state record) = .ok next := by
  unfold rpcRecordStateNext RpcRecordShaped
  rw [if_neg (by simp [hinit]), if_neg (by simp [hlive])]
  cases rpcRecordValidate sizeMax record rpcRecordShape with
  | error ret => simp
  | ok total => simp

/-- The records that a call starts with. -/
theorem rpcRecordStateNext_init :
    rpcRecordStateNext sizeMax (.init req resp) direction record = .ok next ↔
      RpcRecordShaped sizeMax record ∧
      ((record.kind = RpcRecordKind.open.code ∧ direction = .request ∧
          next = rpcCallState req resp 0 0 false false) ∨
        (record.kind = RpcRecordKind.finalStatus.code ∧ direction = .response ∧ record.status ≠ 0 ∧
          next = (RpcRecordState.init req resp).ended record.status)) := by
  rw [rpcRecordStateNext_live rfl rfl, if_pos nofun]
  refine and_congr_right fun _ => ?_
  unfold rpcRecordStateUnopened
  split_ifs with hopen hfinal
  · simp [hopen, rpcCallState, RpcRecordState.init, RpcRecordKind.code, eq_comm]
  · have hstatus : record.status ≠ 0 := hfinal.2.2
    simp [hfinal, hstatus, RpcRecordState.ended, RpcRecordKind.code, eq_comm]
  · simp only [rpcStatusOk] at hfinal
    simp
    tauto

/-- The records of the request direction. -/
theorem rpcRecordStateNext_request :
    rpcRecordStateNext sizeMax (rpcCallState req resp m n closed headers) .request
        record = .ok next ↔
      RpcRecordShaped sizeMax record ∧ closed = false ∧
      ((record.kind = RpcRecordKind.message.code ∧ m ≠ rpcMessagesMax ∧ (req = .one → m = 0) ∧
          next = rpcCallState req resp (m + 1) n false headers) ∨
        (record.kind = RpcRecordKind.halfClose.code ∧ (req = .one → m = 1) ∧
          next = rpcCallState req resp m n true headers)) := by
  rw [rpcRecordStateNext_live rfl rfl, if_neg (by simp [rpcCallState])]
  refine and_congr_right fun _ => ?_
  unfold rpcRecordStateRequest
  rw [check_eq_ok, Bool.not_eq_true]
  refine and_congr_right fun (hclosed : closed = false) => ?_
  by_cases hmessage : record.kind = RpcRecordKind.message.code
  · rw [if_pos hmessage, check_eq_ok]
    simp [rpcCallState, RpcRecordState.init, hmessage, hclosed, RpcRecordKind.code, and_assoc,
      eq_comm]
  by_cases hclose : record.kind = RpcRecordKind.halfClose.code
  · rw [if_neg hmessage, if_pos hclose, check_eq_ok]
    simp [rpcCallState, RpcRecordState.init, hclose, RpcRecordKind.code, eq_comm]
  simp [hmessage, hclose]

/-- The records of the response direction. -/
theorem rpcRecordStateNext_response :
    rpcRecordStateNext sizeMax (rpcCallState req resp m n closed headers) .response
        record = .ok next ↔
      RpcRecordShaped sizeMax record ∧
      ((record.kind = RpcRecordKind.initialMetadata.code ∧ headers = false ∧
          next = rpcCallState req resp m n closed true) ∨
        (record.kind = RpcRecordKind.message.code ∧ headers = true ∧
          n ≠ rpcMessagesMax ∧ (resp = .one → n = 0) ∧
          next = rpcCallState req resp m (n + 1) closed headers) ∨
        (record.kind = RpcRecordKind.finalStatus.code ∧
          (record.status = 0 → (req = .one → m = 1) ∧ (resp = .one → n = 1)) ∧
          next = (rpcCallState req resp m n closed headers).ended record.status)) := by
  rw [rpcRecordStateNext_live rfl rfl, if_neg (by simp [rpcCallState])]
  refine and_congr_right fun _ => ?_
  unfold rpcRecordStateResponse
  by_cases hinitial : record.kind = RpcRecordKind.initialMetadata.code
  · rw [if_pos hinitial, check_eq_ok]
    simp [rpcCallState, RpcRecordState.init, hinitial, RpcRecordKind.code, eq_comm]
  by_cases hmessage : record.kind = RpcRecordKind.message.code
  · rw [if_neg hinitial, if_pos hmessage, check_eq_ok]
    simp [rpcCallState, RpcRecordState.init, hmessage, RpcRecordKind.code, and_assoc, eq_comm]
  by_cases hfinal : record.kind = RpcRecordKind.finalStatus.code
  · rw [if_neg hinitial, if_neg hmessage, if_pos hfinal, check_eq_ok]
    simp [rpcCallState, RpcRecordState.init, hfinal, rpcStatusOk, RpcRecordKind.code, eq_comm,
      RpcRecordState.ended]
  simp [hinitial, hmessage, hfinal]

end Steps

/-! ## The language of calls -/

/-- The kinds of the records that travel in one direction, in their order. -/
def rpcKinds (direction : RpcRecordDirection) (events : List RpcRecordEvent) : List UInt32 :=
  (events.filter fun event => event.direction = direction).map fun event =>
    event.record.kind

/-- How many messages a direction may carry. -/
def RpcCardinality.Allows (cardinality : RpcCardinality) (count : Nat) : Prop :=
  count ≤ rpcMessagesMax ∧ (cardinality = .one → count ≤ 1)

/-- What lies between the OPEN of a call and its FINAL: `m` request messages,
ended by a half close or not, and in the other direction `n` response messages
behind the initial metadata. -/
structure RpcCallBody (req resp : RpcCardinality) (body : List RpcRecordEvent)
    (m n : Nat) (closed headers : Bool) : Prop where
  request : rpcKinds .request body = List.replicate m RpcRecordKind.message.code ++
      if closed then [RpcRecordKind.halfClose.code] else []
  response : rpcKinds .response body =
    (if headers then [RpcRecordKind.initialMetadata.code] else []) ++
      List.replicate n RpcRecordKind.message.code
  headers : headers = false → n = 0
  requests : req.Allows m
  responses : resp.Allows n
  closed : closed = true → req = .one → m = 1

/-- A complete call.  A stream may be rejected before its OPEN; otherwise OPEN
comes first and FINAL last, and success needs one message in each direction that
has one. -/
inductive RpcCall (sizeMax : Nat) (req resp : RpcCardinality) :
    List RpcRecordEvent → Prop
  | rejected {record : RpcRecordHeader} (shaped : RpcRecordShaped sizeMax record)
      (kind : record.kind = RpcRecordKind.finalStatus.code)
      (status : record.status ≠ 0) : RpcCall sizeMax req resp [⟨.response, record⟩]
  | answered {first final : RpcRecordHeader} {body : List RpcRecordEvent} {m n : Nat}
      {closed headers : Bool}
      (shaped : RpcRecordShaped sizeMax first)
      (bodyShaped : ∀ event ∈ body, RpcRecordShaped sizeMax event.record)
      (finalShaped : RpcRecordShaped sizeMax final)
      (kind : first.kind = RpcRecordKind.open.code)
      (body_eq : RpcCallBody req resp body m n closed headers)
      (finalKind : final.kind = RpcRecordKind.finalStatus.code)
      (success : final.status = 0 → (req = .one → m = 1) ∧ (resp = .one → n = 1)) :
      RpcCall sizeMax req resp (⟨.request, first⟩ :: (body ++ [⟨.response, final⟩]))

theorem rpcKinds_append (direction : RpcRecordDirection) (events more : List RpcRecordEvent) :
    rpcKinds direction (events ++ more) = rpcKinds direction events ++ rpcKinds direction more := by
  simp [rpcKinds]

theorem rpcKinds_self (direction : RpcRecordDirection) (record : RpcRecordHeader) :
    rpcKinds direction [⟨direction, record⟩] = [record.kind] := by
  simp [rpcKinds]

theorem rpcKinds_other {other : RpcRecordDirection} (h : direction ≠ other)
    (record : RpcRecordHeader) : rpcKinds other [⟨direction, record⟩] = [] := by
  simp [rpcKinds, h]

section Language

variable {sizeMax : Nat} {req resp : RpcCardinality} {m n : Nat}
  {closed headers : Bool}

/-- One more message is allowed if the counter has not stopped and a single one
has not been sent. -/
theorem RpcCardinality.allows_succ {c : RpcCardinality} {k : Nat} :
    c.Allows (k + 1) ↔ k ≠ rpcMessagesMax ∧ (c = .one → k = 0) ∧ c.Allows k := by
  unfold Allows
  constructor
  · rintro ⟨hmax, hone⟩
    refine ⟨by omega, fun h => ?_, by omega, fun h => ?_⟩
    · have := hone h
      omega
    · have := hone h
      omega
  · rintro ⟨hne, hone, hmax, -⟩
    refine ⟨by omega, fun h => ?_⟩
    rw [hone h]

/-- A list of kinds that ends with `kind` and is messages and possibly a half
close: the last one is the half close or the last message. -/
private theorem request_last {kinds : List UInt32} {kind : UInt32}
    (h : kinds ++ [kind] = List.replicate m RpcRecordKind.message.code ++
      if closed then [RpcRecordKind.halfClose.code] else []) :
    (closed = true ∧ kind = RpcRecordKind.halfClose.code ∧
      kinds = List.replicate m RpcRecordKind.message.code) ∨
    (closed = false ∧ kind = RpcRecordKind.message.code ∧
      ∃ k, m = k + 1 ∧ kinds = List.replicate k RpcRecordKind.message.code) := by
  cases closed with
  | true =>
    obtain ⟨hkinds, hkind⟩ := append_inj' h rfl
    exact .inl ⟨rfl, singleton_inj.mp hkind, hkinds⟩
  | false =>
    rw [if_neg nofun, append_nil] at h
    cases m with
    | zero => simp at h
    | succ k =>
      rw [replicate_succ'] at h
      obtain ⟨hkinds, hkind⟩ := append_inj' h rfl
      exact .inr ⟨rfl, singleton_inj.mp hkind, k, rfl, hkinds⟩

/-- A list of kinds that ends with `kind` and is initial metadata and messages:
the last one is the last message, or there is only the metadata. -/
private theorem response_last {kinds : List UInt32} {kind : UInt32}
    (h : kinds ++ [kind] = (if headers then [RpcRecordKind.initialMetadata.code] else []) ++
        List.replicate n RpcRecordKind.message.code) :
    (n = 0 ∧ headers = true ∧ kind = RpcRecordKind.initialMetadata.code ∧ kinds = []) ∨
    (kind = RpcRecordKind.message.code ∧ ∃ k, n = k + 1 ∧ kinds =
      (if headers then [RpcRecordKind.initialMetadata.code] else []) ++
        List.replicate k RpcRecordKind.message.code) := by
  cases n with
  | zero =>
    cases headers with
    | false => simp at h
    | true =>
      obtain ⟨hkinds, hkind⟩ := append_inj'
        (show kinds ++ [kind] = [] ++ [RpcRecordKind.initialMetadata.code] from h) rfl
      exact .inl ⟨rfl, rfl, singleton_inj.mp hkind, hkinds⟩
  | succ k =>
    rw [replicate_succ', ← append_assoc] at h
    obtain ⟨hkinds, hkind⟩ := append_inj' h rfl
    exact .inr ⟨singleton_inj.mp hkind, k, rfl, hkinds⟩

variable {body : List RpcRecordEvent} {events : List RpcRecordEvent}

/-- One more request record. -/
theorem RpcCallBody.request_iff :
    RpcCallBody req resp (body ++ [⟨.request, record⟩]) m n closed headers ↔
      (closed = true ∧ record.kind = RpcRecordKind.halfClose.code ∧
        (req = .one → m = 1) ∧ RpcCallBody req resp body m n false headers) ∨
      (closed = false ∧ record.kind = RpcRecordKind.message.code ∧ ∃ k, m = k + 1 ∧
        k ≠ rpcMessagesMax ∧ (req = .one → k = 0) ∧
        RpcCallBody req resp body k n false headers) := by
  have hreq : rpcKinds .request (body ++ [⟨.request, record⟩]) =
      rpcKinds .request body ++ [record.kind] := by
    rw [rpcKinds_append, rpcKinds_self]
  have hresp : rpcKinds .response (body ++ [⟨.request, record⟩]) = rpcKinds .response body := by
    rw [rpcKinds_append, rpcKinds_other (show .request ≠ .response by decide), append_nil]
  constructor
  · intro h
    have hlast := h.request
    rw [hreq] at hlast
    rcases request_last hlast with ⟨hclosed, hkind, hkinds⟩ | ⟨hclosed, hkind, k, rfl, hkinds⟩
    · exact .inl ⟨hclosed, hkind, h.closed hclosed,
        ⟨by simpa using hkinds, hresp ▸ h.response, h.headers, h.requests, h.responses, nofun⟩⟩
    obtain ⟨hmax, hone, hallows⟩ := RpcCardinality.allows_succ.mp h.requests
    exact .inr ⟨hclosed, hkind, k, rfl, hmax, hone, by simpa using hkinds,
      hresp ▸ h.response, h.headers, hallows, h.responses, nofun⟩
  · rintro (⟨rfl, hkind, hone, h⟩ | ⟨rfl, hkind, k, rfl, hmax, hone, h⟩)
    · refine ⟨?_, hresp ▸ h.response, h.headers, h.requests, h.responses, fun _ => hone⟩
      rw [hreq, h.request, hkind]
      simp
    · refine ⟨?_, hresp ▸ h.response, h.headers,
        RpcCardinality.allows_succ.mpr ⟨hmax, hone, h.requests⟩, h.responses, nofun⟩
      rw [hreq, h.request, hkind, replicate_succ']
      simp

/-- One more response record that does not end the call. -/
theorem RpcCallBody.response_iff :
    RpcCallBody req resp (body ++ [⟨.response, record⟩]) m n closed headers ↔
      (record.kind = RpcRecordKind.initialMetadata.code ∧ headers = true ∧ n = 0 ∧
        RpcCallBody req resp body m 0 closed false) ∨
      (record.kind = RpcRecordKind.message.code ∧ headers = true ∧ ∃ k, n = k + 1 ∧
        k ≠ rpcMessagesMax ∧ (resp = .one → k = 0) ∧
        RpcCallBody req resp body m k closed true) := by
  have hreq : rpcKinds .request (body ++ [⟨.response, record⟩]) = rpcKinds .request body := by
    rw [rpcKinds_append, rpcKinds_other (show .response ≠ .request by decide), append_nil]
  have hresp : rpcKinds .response (body ++ [⟨.response, record⟩]) =
      rpcKinds .response body ++ [record.kind] := by
    rw [rpcKinds_append, rpcKinds_self]
  constructor
  · intro h
    have hlast := h.response
    rw [hresp] at hlast
    rcases response_last hlast with ⟨rfl, hheaders, hkind, hkinds⟩ | ⟨hkind, k, rfl, hkinds⟩
    · exact .inl ⟨hkind, hheaders, rfl, hreq ▸ h.request, by simpa using hkinds,
        fun _ => rfl, h.requests, h.responses, h.closed⟩
    have hheaders : headers = true := by
      by_contra hne
      exact absurd (h.headers (Bool.not_eq_true _ ▸ hne)) (Nat.succ_ne_zero k)
    subst hheaders
    obtain ⟨hmax, hone, hallows⟩ := RpcCardinality.allows_succ.mp h.responses
    exact .inr ⟨hkind, rfl, k, rfl, hmax, hone, hreq ▸ h.request, hkinds, nofun, h.requests,
      hallows, h.closed⟩
  · rintro (⟨hkind, rfl, rfl, h⟩ | ⟨hkind, rfl, k, rfl, hmax, hone, h⟩)
    · refine ⟨hreq ▸ h.request, ?_, nofun, h.requests, h.responses, h.closed⟩
      rw [hresp, h.response, hkind]
      simp
    · refine ⟨hreq ▸ h.request, ?_, nofun, h.requests,
        RpcCardinality.allows_succ.mpr ⟨hmax, hone, h.responses⟩, h.closed⟩
      rw [hresp, h.response, hkind, replicate_succ']
      simp

/-- The automaton that is not yet through with a call has read a body, and its
counters say which one. -/
theorem rpcRecordRun_iff :
    Lib.runSteps (rpcRecordStep sizeMax) (rpcCallState req resp 0 0 false false) body =
        some state ∧ state.terminal = false ↔
      (∀ event ∈ body, RpcRecordShaped sizeMax event.record) ∧
      ∃ m n closed headers, RpcCallBody req resp body m n closed headers ∧
        state = rpcCallState req resp m n closed headers := by
  induction body using reverseRecOn generalizing state with
  | nil =>
    constructor
    · rintro ⟨hrun, -⟩
      obtain rfl : rpcCallState req resp 0 0 false false = state := by simpa using hrun
      exact ⟨by simp, 0, 0, false, false, ⟨rfl, rfl, fun _ => rfl, ⟨by simp, by simp⟩,
        ⟨by simp, by simp⟩, nofun⟩, rfl⟩
    · rintro ⟨-, m, n, closed, headers, hbody, rfl⟩
      have hreq := hbody.request
      have hresp := hbody.response
      cases closed <;> cases headers <;> simp_all [rpcKinds, rpcCallState,
        RpcRecordState.init]
  | append_singleton body event ih =>
    obtain ⟨direction, record⟩ := event
    constructor
    · rintro ⟨hrun, hterminal⟩
      obtain ⟨mid, hmid, hstep⟩ := runSteps_append.mp hrun
      rw [runSteps_singleton, rpcRecordStep_eq_some] at hstep
      obtain ⟨hshaped, m, n, closed, headers, hbody, rfl⟩ :=
        ih.mp ⟨hmid, rpcRecordStateNext_terminal hstep⟩
      have hall (h : RpcRecordShaped sizeMax record) : ∀ event ∈
          body ++ [(⟨direction, record⟩ : RpcRecordEvent)],
          RpcRecordShaped sizeMax event.record := by
        simpa [or_imp, forall_and] using ⟨hshaped, h⟩
      cases direction with
      | request =>
        obtain ⟨hrecord, rfl, ⟨hkind, hmax, hone, rfl⟩ | ⟨hkind, hone, rfl⟩⟩ :=
          rpcRecordStateNext_request.mp hstep
        · exact ⟨hall hrecord, m + 1, n, false, headers,
            RpcCallBody.request_iff.mpr (.inr ⟨rfl, hkind, m, rfl, hmax, hone, hbody⟩), rfl⟩
        · exact ⟨hall hrecord, m, n, true, headers,
            RpcCallBody.request_iff.mpr (.inl ⟨rfl, hkind, hone, hbody⟩), rfl⟩
      | response =>
        obtain ⟨hrecord, ⟨hkind, rfl, rfl⟩ | ⟨hkind, rfl, hmax, hone, rfl⟩ | ⟨-, -, rfl⟩⟩ :=
          rpcRecordStateNext_response.mp hstep
        · obtain rfl := hbody.headers rfl
          exact ⟨hall hrecord, m, 0, closed, true,
            RpcCallBody.response_iff.mpr (.inl ⟨hkind, rfl, rfl, hbody⟩), rfl⟩
        · exact ⟨hall hrecord, m, n + 1, closed, true,
            RpcCallBody.response_iff.mpr (.inr ⟨hkind, rfl, n, rfl, hmax, hone, hbody⟩), rfl⟩
        · cases hterminal
    · rintro ⟨hshaped, m, n, closed, headers, hbody, rfl⟩
      have hrecord : RpcRecordShaped sizeMax record := hshaped ⟨direction, record⟩ (by simp)
      have hfront : ∀ event ∈ body, RpcRecordShaped sizeMax event.record :=
        fun event hevent => hshaped event (mem_append_left _ hevent)
      -- The run over the front reaches the state of the body without its last record.
      have hlast {m' n' : Nat} {closed' headers' : Bool}
          (h : RpcCallBody req resp body m' n' closed' headers')
          (hnext : rpcRecordStateNext sizeMax (rpcCallState req resp m' n' closed' headers')
            direction record = .ok (rpcCallState req resp m n closed headers)) :
          Lib.runSteps (rpcRecordStep sizeMax) (rpcCallState req resp 0 0 false false)
            (body ++ [⟨direction, record⟩]) = some (rpcCallState req resp m n closed headers) :=
        runSteps_append.mpr ⟨_, (ih.mpr ⟨hfront, _, _, _, _, h, rfl⟩).1,
          runSteps_singleton.mpr (rpcRecordStep_eq_some.mpr hnext)⟩
      refine ⟨?_, rfl⟩
      cases direction with
      | request =>
        rcases RpcCallBody.request_iff.mp hbody with ⟨rfl, hkind, hone, h⟩ |
          ⟨rfl, hkind, k, rfl, hmax, hone, h⟩
        · exact hlast h (rpcRecordStateNext_request.mpr ⟨hrecord, rfl, .inr ⟨hkind, hone, rfl⟩⟩)
        · exact hlast h (rpcRecordStateNext_request.mpr
            ⟨hrecord, rfl, .inl ⟨hkind, hmax, hone, rfl⟩⟩)
      | response =>
        rcases RpcCallBody.response_iff.mp hbody with ⟨hkind, rfl, rfl, h⟩ |
          ⟨hkind, rfl, k, rfl, hmax, hone, h⟩
        · exact hlast h (rpcRecordStateNext_response.mpr ⟨hrecord, .inl ⟨hkind, rfl, rfl⟩⟩)
        · exact hlast h (rpcRecordStateNext_response.mpr
            ⟨hrecord, .inr (.inl ⟨hkind, rfl, hmax, hone, rfl⟩)⟩)

/-- A terminal state has no run but the empty one. -/
theorem rpcRecordRun_terminal {last : RpcRecordState} (hterminal : state.terminal = true)
    (hrun : Lib.runSteps (rpcRecordStep sizeMax) state events = some last) : events = [] := by
  cases events with
  | nil => rfl
  | cons event rest =>
    obtain ⟨mid, hstep, -⟩ := runSteps_cons_eq_some.mp hrun
    cases hterminal.symm.trans (rpcRecordStateNext_terminal (rpcRecordStep_eq_some.mp hstep))

/-- The FINAL that ends a call early. -/
def rpcFinalStatus (status : UInt32) : RpcRecordHeader :=
  ⟨RpcRecordKind.finalStatus.code, 0, 0, 0, 0, 0, 0, 0, status, 0⟩

theorem rpcFinalStatus_shaped (sizeMax : Nat) : RpcRecordShaped sizeMax (rpcFinalStatus 1) := by
  refine ⟨(48 % (sizeMax + 1) + 0) % (sizeMax + 1), ?_⟩
  unfold rpcRecordValidate
  rw [if_neg (by decide), if_neg (by decide), if_neg (by decide)]
  dsimp only
  rw [if_neg (by simp [rpcFinalStatus]), if_neg (by decide), if_neg (by decide)]
  rfl

/-- A call that can go on can be ended with an error. -/
theorem RpcCallBody.ends {first : RpcRecordHeader} (hfirst : RpcRecordShaped sizeMax first)
    (hkind : first.kind = RpcRecordKind.open.code)
    (hshaped : ∀ event ∈ body, RpcRecordShaped sizeMax event.record)
    (hbody : RpcCallBody req resp body m n closed headers) :
    RpcCall sizeMax req resp (⟨.request, first⟩ :: (body ++ [⟨.response, rpcFinalStatus 1⟩])) :=
  .answered hfirst hshaped (rpcFinalStatus_shaped sizeMax) hkind hbody rfl nofun

/-- The automaton reads a complete call. -/
theorem RpcCall.accepted (h : RpcCall sizeMax req resp events) :
    ∃ state, Lib.runSteps (rpcRecordStep sizeMax) (.init req resp) events = some state := by
  cases h with
  | @rejected record shaped kind status =>
    exact ⟨_, runSteps_singleton.mpr (rpcRecordStep_eq_some.mpr
      (rpcRecordStateNext_init.mpr ⟨shaped, .inr ⟨kind, rfl, status, rfl⟩⟩))⟩
  | @answered first final body m n closed headers shaped bodyShaped finalShaped kind
      body_eq finalKind success =>
    have hfirst : rpcRecordStep sizeMax (.init req resp) ⟨.request, first⟩ =
        some (rpcCallState req resp 0 0 false false) :=
      rpcRecordStep_eq_some.mpr (rpcRecordStateNext_init.mpr ⟨shaped, .inl ⟨kind, rfl, rfl⟩⟩)
    have hbody := (rpcRecordRun_iff.mpr ⟨bodyShaped, m, n, closed, headers, body_eq, rfl⟩).1
    have hlast : rpcRecordStep sizeMax (rpcCallState req resp m n closed headers)
        ⟨.response, final⟩ = some ((rpcCallState req resp m n closed headers).ended final.status) :=
      rpcRecordStep_eq_some.mpr (rpcRecordStateNext_response.mpr
        ⟨finalShaped, .inr (.inr ⟨finalKind, success, rfl⟩)⟩)
    exact ⟨_, runSteps_cons_eq_some.mpr ⟨_, hfirst,
      runSteps_append.mpr ⟨_, hbody, runSteps_singleton.mpr hlast⟩⟩⟩

/-- What the automaton has read can be completed to a call. -/
theorem RpcCall.of_accepted (hrun : Lib.runSteps (rpcRecordStep sizeMax) (.init req resp) events =
      some state) : ∃ rest, RpcCall sizeMax req resp (events ++ rest) := by
  cases events with
  | nil =>
    exact ⟨[⟨.response, rpcFinalStatus 1⟩], .rejected (rpcFinalStatus_shaped sizeMax) rfl nofun⟩
  | cons event body =>
    obtain ⟨direction, record⟩ := event
    obtain ⟨opened, hopen, hrun⟩ := runSteps_cons_eq_some.mp hrun
    rw [rpcRecordStep_eq_some] at hopen
    obtain ⟨hrecord, ⟨hkind, rfl, rfl⟩ | ⟨hkind, rfl, hstatus, rfl⟩⟩ :=
      rpcRecordStateNext_init.mp hopen
    · cases hterminal : state.terminal with
      | false =>
        obtain ⟨hshaped, m, n, closed, headers, hbody, -⟩ :=
          rpcRecordRun_iff.mp ⟨hrun, hterminal⟩
        exact ⟨[⟨.response, rpcFinalStatus 1⟩], hbody.ends hrecord hkind hshaped⟩
      | true =>
        -- The last record read is the FINAL, and the others are a body.
        induction body using reverseRecOn with
        | nil =>
          obtain rfl : rpcCallState req resp 0 0 false false = state := by
            simpa using hrun
          cases hterminal
        | append_singleton front last _ =>
          obtain ⟨mid, hmid, hlast⟩ := runSteps_append.mp hrun
          rw [runSteps_singleton, rpcRecordStep_eq_some] at hlast
          obtain ⟨hshaped, m, n, closed, headers, hbody, rfl⟩ :=
            rpcRecordRun_iff.mp ⟨hmid, rpcRecordStateNext_terminal hlast⟩
          obtain ⟨direction, final⟩ := last
          refine ⟨[], ?_⟩
          cases direction with
          | request =>
            obtain ⟨-, -, ⟨-, -, -, rfl⟩ | ⟨-, -, rfl⟩⟩ :=
              rpcRecordStateNext_request.mp hlast <;> cases hterminal
          | response =>
            obtain ⟨hfinal, ⟨-, -, rfl⟩ | ⟨-, -, -, -, rfl⟩ | ⟨hfinalKind, hsuccess, -⟩⟩ :=
              rpcRecordStateNext_response.mp hlast
            · cases hterminal
            · cases hterminal
            · rw [append_nil]
              exact .answered hrecord hshaped hfinal hkind hbody hfinalKind hsuccess
    · obtain rfl := rpcRecordRun_terminal rfl hrun
      exact ⟨[], .rejected hrecord hkind hstatus⟩

end Language

/-- The automaton accepts exactly the beginnings of calls.  A rejected record
changes nothing, nothing is accepted after the end, and an abort of a call that
has ended changes nothing. -/
theorem rpc_record_grammar (sizeMax : Nat) {req resp : RpcCardinality}
    {state : RpcRecordState} (hinit : rpcRecordStateInit req resp = .ok state) :
    (∀ events : List RpcRecordEvent,
      (∃ last, Lib.runSteps (rpcRecordStep sizeMax) state events = some last) ↔
        ∃ rest, RpcCall sizeMax req resp (events ++ rest)) ∧
    (∀ (s : RpcRecordState) (direction : RpcRecordDirection) (record : RpcRecordHeader),
      ((rpcRecordStateApply sizeMax s direction record).1 ≠ .ok →
        (rpcRecordStateApply sizeMax s direction record).2 = s) ∧
      (s.terminal = true → (rpcRecordStateApply sizeMax s direction record).1 ≠ .ok)) ∧
    (∀ (s : RpcRecordState) (status : UInt32),
      (rpcRecordStateAbort s status).2 ≠ s → s.terminal = false) := by
  obtain ⟨-, hinit⟩ := check_eq_ok.mp hinit
  cases hinit
  refine ⟨fun events => ⟨?_, ?_⟩, fun s direction record =>
    ⟨rpcRecordStateApply_rejected, fun h => rpcRecordStateApply_terminal h direction record⟩,
    fun s status hne => ?_⟩
  · rintro ⟨last, hrun⟩
    exact RpcCall.of_accepted hrun
  · rintro ⟨rest, hcall⟩
    obtain ⟨last, hrun⟩ := hcall.accepted
    obtain ⟨mid, hmid, -⟩ := runSteps_append.mp hrun
    exact ⟨mid, hmid⟩
  · by_contra hterminal
    unfold rpcRecordStateAbort at hne
    split at hne
    · exact hne rfl
    · rw [if_pos (Bool.not_eq_false _ ▸ hterminal)] at hne
      exact hne rfl

/-- A unary call up to its FINAL: the automaton accepts the records, so the call can be
completed. -/
theorem rpc_record_grammar_unary : ∃ rest, RpcCall 0xffff .one .one
      ([⟨.request, ⟨1, 7, 9, 0, 0, 0, 0, 0, 0, 0⟩⟩, ⟨.request, ⟨3, 0, 0, 5, 0, 2, 2, 0, 0, 0⟩⟩,
        ⟨.response, ⟨2, 0, 0, 0, 0, 0, 0, 6, 0, 0⟩⟩, ⟨.request, ⟨4, 0, 0, 0, 0, 0, 0, 0, 0, 0⟩⟩,
        ⟨.response, ⟨3, 0, 0, 5, 0, 4, 4, 0, 0, 0⟩⟩] ++ rest) :=
  ((@rpc_record_grammar 0xffff .one .one _ rfl).1 _).mp ⟨_, rfl⟩

/-- The first accepted record need not be an OPEN: a failed FINAL is accepted in
the initial state. -/
theorem rpc_record_rejected_first :
    (rpcRecordStateApply 0xffff (.init .one .one) .response (rpcFinalStatus 14)).1 = .ok ∧
      (rpcFinalStatus 14).kind ≠ RpcRecordKind.open.code := by
  decide

end Trpc
