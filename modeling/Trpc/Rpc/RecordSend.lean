import Trpc.Rpc.RecordStream

/-!
# Sending a record

`tr_rpc_record_stream_send_on_owner` with the memory it needs.  The record is checked against a
copy of the state; its header and metadata go into a prefix that is charged to the budget; and
only when the Channel has taken prefix and body is the state committed and the body's handle
cleared.  The Channel may call back into the binding meanwhile, which finds `sending` set.
-/

namespace Trpc

open Lib

/-- A `struct tr_buffer`. -/
structure SendBody where
  id : Nat
  len : Nat
  capacity : Nat
  hasData : Bool
  deriving DecidableEq, Repr

/-- A binding with the budget it charges: `held` are the sizes of the prefixes that the Channel
has not yet released, `sent` the bodies that it was given, and `released` those that were let go
because they are empty. -/
structure SendBinding where
  stream : RecordStream
  receiving : Bool := false
  sending : Bool := false
  callbackDepth : Nat := 0
  charge : Nat := 0
  held : List Nat := []
  sent : List Nat := []
  released : List Nat := []

/-- The outcomes of a send: the owner's context, the budget, the allocation, the calls into the
binding from within `tr_stream_sendv`, its answer, and the calls from the release hook of an
empty body. -/
structure SendEnv where
  owner : Bool := true
  reserve : Status := .ok
  alloc : Bool := true
  inside : List (SendBinding → SendBinding) := []
  sendv : Status := .ok
  hook : List (SendBinding → SendBinding) := []

namespace SendBinding

/-- `call->state`. -/
def state (s : SendBinding) : RpcRecordState := s.stream.call.state

/-- A call into the binding.  Each of the functions that change one (`send`, `receive`, `abort`,
`event` and `destroy`) refuses a binding that is sending; `rest` is what it does otherwise. -/
def reenter (s : SendBinding) (rest : SendBinding → SendBinding) : SendBinding :=
  if s.sending then s else rest s

/-- `tr_record_notify_terminal`. -/
def notify (s : SendBinding) : SendBinding :=
  if s.receiving ∨ s.sending ∨ s.callbackDepth ≠ 0 then s else { s with stream := s.stream.notify }

/-- `tr_record_metadata_valid` at the caller's pointer. -/
def metadataValid (metadata : Option (List UInt8)) (size : Nat) : Status :=
  match metadata with
  | none => if size = 0 then .ok else .errBadLength
  | some data => recordMetadataValid (data.take size)

/-- `tr_rpc_record_stream_send_on_owner`.  `prefixBytes` is the size of
`struct tr_rpc_record_prefix`; the last part of the answer is the caller's handle. -/
def send (prefixBytes : Nat) (cfg : RecordStreamConfig) (s : SendBinding)
    (header : RpcRecordHeader) (metadata : Option (List UInt8)) (body : Option SendBody)
    (env : SendEnv) : Status × SendBinding × Option SendBody :=
  if ¬ env.owner then (.errState, s, body)
  else if s.sending ∨ s.state.terminal then (.errState, s, body)
  else match rpcRecordEncodeHeader cfg.sizeMax rpcRecordHeaderSize header
      (cfg.limits cfg.sendDirection) with
  | .error ret => (ret, s, body)
  | .ok _ =>
    let len := (body.map SendBody.len).getD 0
    let valid := metadataValid metadata header.metadataSize.toNat
    if (∃ b ∈ body, b.capacity < b.len ∨ b.len ≠ 0 ∧ ¬ b.hasData) ∨
        header.encodedSize.toNat ≠ len then (.errBadLength, s, body)
    else if valid ≠ .ok then (valid, s, body)
    else match recordPreflight cfg s.state cfg.sendDirection header with
    | .error ret => (ret, s, body)
    | .ok next =>
      let bytes := prefixBytes + (rpcRecordHeaderSize + header.metadataSize.toNat)
      if env.reserve ≠ .ok then (env.reserve, s, body)
      else
        let s := { s with charge := s.charge + bytes }
        if ¬ env.alloc then (.errNomem, { s with charge := s.charge - bytes }, body)
        else
          let s := env.inside.foldl reenter { s with sending := true }
          if env.sendv = .ok then
            let ids := (body.map SendBody.id).toList
            let s := { s with
              stream := { s.stream with call := { s.stream.call with state := next } }
              held := s.held ++ [bytes]
              sent := if len = 0 then s.sent else s.sent ++ ids
              released := if len = 0 then s.released ++ ids else s.released }
            let s := env.hook.foldl reenter s
            (.ok, { s with sending := false }.notify, none)
          else
            (env.sendv, { s with charge := s.charge - bytes, sending := false }.notify, body)

/-- The Channel releases one of the prefixes that it holds. -/
def release (s : SendBinding) (i : Nat) : Option SendBinding :=
  s.held[i]?.map fun bytes => { s with held := s.held.eraseIdx i, charge := s.charge - bytes }

end SendBinding

/-- What can happen to the budget of a binding: a send, or the release of a prefix. -/
inductive SendAction
  | send (header : RpcRecordHeader) (metadata : Option (List UInt8)) (body : Option SendBody)
      (env : SendEnv)
  | release (i : Nat)

/-- One of them. -/
def sendStep (prefixBytes : Nat) (cfg : RecordStreamConfig) (s : SendBinding) :
    SendAction → Option SendBinding
  | .send header metadata body env =>
    some (s.send prefixBytes cfg header metadata body env).2.1
  | .release i => s.release i

namespace SendBinding

variable {prefixBytes : Nat} {cfg : RecordStreamConfig} {s s' : SendBinding}

/-- A call into the binding during a send is refused. -/
theorem reenterAll_eq (calls : List (SendBinding → SendBinding)) (h : s.sending = true) :
    calls.foldl reenter s = s := by
  induction calls with
  | nil => rfl
  | cons call rest ih => rw [List.foldl_cons, reenter, if_pos h, ih]

/-- A binding whose call goes on tells nobody. -/
theorem notify_live (h : s.state.terminal = false) : s.notify = s := by
  have hstream : s.stream.notify = s.stream := by
    unfold RecordStream.notify
    rw [if_neg fun hterm => ?_]
    exact Bool.noConfusion (h.symm.trans hterm.1)
  unfold notify
  rw [hstream, ite_self]

/-- Only the application's notice is new in a binding that told its end. -/
theorem notify_eq (s : SendBinding) :
    s.notify = { s with stream := s.notify.stream } ∧ s.notify.state = s.state := by
  unfold notify state RecordStream.notify
  split_ifs <;> exact ⟨rfl, rfl⟩

theorem rpcRecordEncodeHeader_error {sizeMax capacity : Nat} {header : RpcRecordHeader}
    {limits : RpcRecordLimits} {ret : Status}
    (h : rpcRecordEncodeHeader sizeMax capacity header limits = .error ret) : ret ≠ .ok := by
  unfold rpcRecordEncodeHeader at h
  split at h
  next hvalid =>
    cases h
    exact (rpcRecordValidate_error hvalid).2.2
  · split_ifs at h
    cases h
    decide

theorem recordPreflight_next {state next : RpcRecordState} {direction : RpcRecordDirection}
    {header : RpcRecordHeader} (h : recordPreflight cfg state direction header = .ok next) :
    rpcRecordStateNext cfg.sizeMax state direction header = .ok next :=
  (check_eq_ok.mp (check_eq_ok.mp (check_eq_ok.mp h).2).2).2

/-- The binding after a send that was taken. -/
def committed (s : SendBinding) (next : RpcRecordState) (bytes len : Nat) (ids : List Nat) :
    SendBinding :=
  { s with
    stream := { s.stream with call := { s.stream.call with state := next } }
    charge := s.charge + bytes
    held := s.held ++ [bytes]
    sent := if len = 0 then s.sent else s.sent ++ ids
    released := if len = 0 then s.released ++ ids else s.released }

/-- A send changes nothing or is taken whole. -/
theorem send_cases {header : RpcRecordHeader} {metadata : Option (List UInt8)}
    {body : Option SendBody} {env : SendEnv} {result : Status × SendBinding × Option SendBody}
    (h : s.send prefixBytes cfg header metadata body env = result) :
    (result.1 ≠ .ok ∧ result.2 = (s, body)) ∨
    ∃ next, rpcRecordStateNext cfg.sizeMax s.state cfg.sendDirection header = .ok next ∧
      result = (.ok, (s.committed next
        (prefixBytes + (rpcRecordHeaderSize + header.metadataSize.toNat))
        ((body.map SendBody.len).getD 0) (body.map SendBody.id).toList).notify, none) := by
  subst h
  unfold send
  split
  · exact .inl ⟨by simp, rfl⟩
  split
  · exact .inl ⟨by simp, rfl⟩
  rename_i hbusy
  simp only [not_or, Bool.not_eq_true] at hbusy
  split
  next hencode =>
    exact .inl ⟨rpcRecordEncodeHeader_error hencode, rfl⟩
  dsimp only
  split
  · exact .inl ⟨by simp, rfl⟩
  split
  next hvalid =>
    exact .inl ⟨hvalid, rfl⟩
  split
  next hpre =>
    exact .inl ⟨recordPreflight_error hpre, rfl⟩
  rename_i next hpre
  split
  next hreserve =>
    exact .inl ⟨hreserve, rfl⟩
  split
  · rw [Nat.add_sub_cancel]
    exact .inl ⟨by simp, rfl⟩
  rw [reenterAll_eq env.inside rfl]
  split
  · rw [reenterAll_eq env.hook rfl]
    refine .inr ⟨next, recordPreflight_next hpre, ?_⟩
    rw [committed, hbusy.1]
  next hsent =>
    rw [notify_live (by exact hbusy.2)]
    refine .inl ⟨hsent, ?_⟩
    dsimp only
    rw [Nat.add_sub_cancel, ← hbusy.1]

/-- What a binding has charged beyond its base is what the Channel holds. -/
theorem charge_step {base : Nat} {action : SendAction} (h : s.charge = base + s.held.sum)
    (hstep : sendStep prefixBytes cfg s action = some s') : s'.charge = base + s'.held.sum := by
  cases action with
  | send header metadata body env =>
    cases hstep
    generalize hresult : s.send prefixBytes cfg header metadata body env = result
    rcases send_cases hresult with ⟨_, hsame⟩ | ⟨next, _, rfl⟩
    · rw [hsame]
      exact h
    · rw [(notify_eq _).1]
      simp only [committed, List.sum_append, List.sum_singleton]
      omega
  | release i =>
    obtain ⟨bytes, hget, rfl⟩ := Option.map_eq_some_iff.mp hstep
    obtain ⟨hi, rfl⟩ := List.getElem?_eq_some_iff.mp hget
    have hsum := (List.getElem_cons_eraseIdx_perm hi).sum_eq
    rw [List.sum_cons] at hsum
    dsimp only
    omega

end SendBinding

/-- A send that fails leaves the binding, its budget and the caller's handle as they were.  One
that succeeds moves the state on by its record, takes the body once, and charges the prefix.
Over a whole run the charge is that of the prefixes the Channel has not released. -/
theorem record_send_atomic (prefixBytes : Nat) (cfg : RecordStreamConfig) (s : SendBinding) :
    (∀ header metadata body env,
      let result := s.send prefixBytes cfg header metadata body env
      let bytes := prefixBytes + (rpcRecordHeaderSize + header.metadataSize.toNat)
      (result.1 ≠ .ok → result.2 = (s, body)) ∧
      (result.1 = .ok →
        rpcRecordStateNext cfg.sizeMax s.state cfg.sendDirection header =
          .ok result.2.1.state ∧
        result.2.2 = none ∧
        (∀ b ∈ body, result.2.1.sent = (if b.len = 0 then s.sent else s.sent ++ [b.id]) ∧
          result.2.1.released = if b.len = 0 then s.released ++ [b.id] else s.released) ∧
        (body = none → result.2.1.sent = s.sent ∧ result.2.1.released = s.released) ∧
        result.2.1.charge = s.charge + bytes ∧ result.2.1.held = s.held ++ [bytes])) ∧
    ∀ base actions s', s.charge = base + s.held.sum →
      runSteps (sendStep prefixBytes cfg) s actions = some s' →
      s'.charge = base + s'.held.sum := by
  refine ⟨fun header metadata body env => ?_, fun base actions s' hcharge hrun =>
    runSteps_invariant (fun _ _ _ h hstep => SendBinding.charge_step h hstep) hcharge hrun⟩
  generalize hresult : s.send prefixBytes cfg header metadata body env = result
  rcases SendBinding.send_cases hresult with ⟨hfail, hsame⟩ | ⟨next, hnext, rfl⟩
  · exact ⟨fun _ => hsame, fun hok => absurd hok hfail⟩
  · refine ⟨fun hfail => absurd rfl hfail, fun _ => ?_⟩
    dsimp only
    rw [(SendBinding.notify_eq _).2, (SendBinding.notify_eq _).1]
    refine ⟨hnext, rfl, ?_, ?_, rfl, rfl⟩
    · rintro b rfl
      exact ⟨rfl, rfl⟩
    · rintro rfl
      exact ⟨rfl, List.append_nil _⟩

/-- A client of a unary method of service 7. -/
def sendConfig : RecordStreamConfig :=
  ⟨2 ^ 64 - 1, 4096, .request, ⟨7, 9, .one, .one, 5, 5, 0, 64, 64⟩⟩

/-- A call after its OPEN. -/
def sendOpened : SendBinding where
  stream := { call := { state := { RpcRecordState.init .one .one with opened := true } } }

/-- A message of two bytes whose `tr_stream_sendv` fails leaves everything as it was; the same
send is then taken, and the Channel holds the prefix until it releases it. -/
theorem record_send_atomic_retried :
    let send := sendOpened.send 16 sendConfig ⟨3, 0, 0, 5, 0, 2, 2, 0, 0, 0⟩ none
      (some ⟨8, 2, 2, true⟩)
    (send { sendv := .again }).1 = .again ∧
    (send { sendv := .again }).2 = (sendOpened, some ⟨8, 2, 2, true⟩) ∧
    (send {}).1 = .ok ∧ (send {}).2.2 = none ∧ (send {}).2.1.sent = [8] ∧
    (send {}).2.1.charge = 16 + rpcRecordHeaderSize ∧
    ∃ s', runSteps (sendStep 16 sendConfig) (send {}).2.1 [.release 0] = some s' ∧
      s'.charge = s'.held.sum := by
  have hfails := ((record_send_atomic 16 sendConfig sendOpened).1
    ⟨3, 0, 0, 5, 0, 2, 2, 0, 0, 0⟩ none (some ⟨8, 2, 2, true⟩) { sendv := .again }).1 (by decide)
  obtain ⟨_, htaken, hbody, _, hcharge, hheld⟩ := ((record_send_atomic 16 sendConfig sendOpened).1
    ⟨3, 0, 0, 5, 0, 2, 2, 0, 0, 0⟩ none (some ⟨8, 2, 2, true⟩) {}).2 (by decide)
  refine ⟨by decide, hfails, by decide, htaken, (hbody _ rfl).1, hcharge, ?_⟩
  refine exists_of_map (f := SendBinding.charge) (y := 0) (by decide) fun s' hs' _ => ?_
  exact (((record_send_atomic 16 sendConfig _).2 0 _ s' (by decide) hs').trans (Nat.zero_add _))

end Trpc
