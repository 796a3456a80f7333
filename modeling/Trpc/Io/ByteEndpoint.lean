import Trpc.Status

/-!
# The byte endpoint's write side

`tr_byte_endpoint_write` over a TLS driver.  A driver that answers `TR_AGAIN`
must be offered the same buffer and length again, so the endpoint retains
them: until the retry succeeds a write of anything else is refused.

The buffer is an address, so the endpoint is generic in the type of addresses
and the driver's answer is an argument.  Only the fields that the write path
reads are here; the handshake, the read side and the shutdown are not.
-/

namespace Trpc

/-- `TR_BYTE_ENDPOINT_EVENT_MASK`: read or write readiness. -/
def byteEndpointEventMask : UInt32 := 3

/-- The states of `enum tr_byte_endpoint_state` that the write path tells
apart. -/
inductive ByteEndpointState
  | negotiating
  | authenticated
  | closing
  deriving DecidableEq, Repr

/-- The write side of `struct tr_byte_endpoint`.  `writeBuffer` is the retained
buffer and its length. -/
structure ByteEndpoint (ρ : Type) where
  state : ByteEndpointState
  eventsBound : Bool
  writeWait : UInt32
  writeBuffer : Option (ρ × Nat)
  deriving DecidableEq

/-- What a driver says about one write. -/
structure DriverAnswer where
  status : Status
  writtenBytes : Nat
  waitEvents : UInt32
  deriving DecidableEq, Repr

variable {ρ : Type}

/-- `tr_byte_endpoint_fail`. -/
def byteEndpointFail (endpoint : ByteEndpoint ρ) (status : Status) :
    Status × Nat × ByteEndpoint ρ :=
  (if 0 ≤ status.code then .errSys else status, 0,
    { endpoint with state := .closing, writeWait := 0, writeBuffer := none })

/-- `tr_byte_endpoint_valid_wait`. -/
def byteEndpointValidWait (waitEvents : UInt32) : Bool :=
  waitEvents ≠ 0 ∧ waitEvents &&& ~~~byteEndpointEventMask = 0

/-- `tr_byte_endpoint_retry_ready`. -/
def byteEndpointRetryReady (waitEvents readyEvents : UInt32) : Bool :=
  waitEvents = 0 ∨ waitEvents &&& readyEvents ≠ 0

/-- `tr_byte_endpoint_write` with a TLS driver: the status, the bytes the
driver took, and the endpoint afterwards. -/
def byteEndpointWrite [DecidableEq ρ] (endpoint : ByteEndpoint ρ) (buffer : ρ)
    (length : Nat) (readyEvents : UInt32) (answer : DriverAnswer) :
    Status × Nat × ByteEndpoint ρ :=
  if length = 0 ∨ readyEvents &&& ~~~byteEndpointEventMask ≠ 0 then
    (.errInvalid, 0, endpoint)
  else if endpoint.state ≠ .authenticated then (.errState, 0, endpoint)
  else if ¬ endpoint.eventsBound then (.errState, 0, endpoint)
  else if endpoint.writeBuffer.isSome ∧ endpoint.writeBuffer ≠ some (buffer, length) then
    (.errState, 0, endpoint)
  else if ¬ byteEndpointRetryReady endpoint.writeWait readyEvents then
    (.again, 0, endpoint)
  else if answer.status = .again then
    if ¬ byteEndpointValidWait answer.waitEvents ∨ answer.writtenBytes ≠ 0 then
      byteEndpointFail endpoint .errState
    else
      (.again, 0, { endpoint with
        writeBuffer := some (buffer, length)
        writeWait := answer.waitEvents })
  else if answer.status ≠ .ok then byteEndpointFail endpoint answer.status
  else if answer.writtenBytes = 0 ∨ length < answer.writtenBytes ∨ answer.waitEvents ≠ 0 then
    byteEndpointFail endpoint .errState
  else
    (.ok, answer.writtenBytes, { endpoint with
      writeWait := 0
      writeBuffer := none })

/-! ## What a write can do -/

theorem byteEndpointFail_status (endpoint : ByteEndpoint ρ) (status : Status) :
    (byteEndpointFail endpoint status).1 ≠ .ok ∧
    (byteEndpointFail endpoint status).1 ≠ .again := by
  cases status <;> simp [byteEndpointFail, Status.code]

/-- A write waits without calling the driver, retains the buffer, takes some
bytes of it, or fails. -/
theorem byteEndpointWrite_cases [DecidableEq ρ] (endpoint : ByteEndpoint ρ)
    (buffer : ρ) (length : Nat) (readyEvents : UInt32) (answer : DriverAnswer) :
    byteEndpointWrite endpoint buffer length readyEvents answer = (.again, 0, endpoint) ∨
    (0 < length ∧ byteEndpointWrite endpoint buffer length readyEvents answer =
      (.again, 0, { endpoint with
        writeBuffer := some (buffer, length)
        writeWait := answer.waitEvents })) ∨
    (∃ n, 0 < n ∧ n ≤ length ∧ byteEndpointWrite endpoint buffer length readyEvents answer =
        (.ok, n, { endpoint with writeWait := 0, writeBuffer := none })) ∨
    ((byteEndpointWrite endpoint buffer length readyEvents answer).1 ≠ .ok ∧
      (byteEndpointWrite endpoint buffer length readyEvents answer).1 ≠ .again) := by
  unfold byteEndpointWrite
  split
  · exact .inr (.inr (.inr ⟨by simp, by simp⟩))
  rename_i hlength
  iterate 3
    split
    · exact .inr (.inr (.inr ⟨by simp, by simp⟩))
  split
  · exact .inl rfl
  split
  · split
    · exact .inr (.inr (.inr (byteEndpointFail_status _ _)))
    · exact .inr (.inl ⟨by omega, rfl⟩)
  split
  · exact .inr (.inr (.inr (byteEndpointFail_status _ _)))
  split
  · exact .inr (.inr (.inr (byteEndpointFail_status _ _)))
  next hcount =>
    exact .inr (.inr (.inl ⟨answer.writtenBytes, by omega, by omega, rfl⟩))

end Trpc
