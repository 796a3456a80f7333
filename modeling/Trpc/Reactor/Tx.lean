import Trpc.Lib.Runs
import Trpc.Io.ByteEndpoint
import Trpc.Reactor.TxItem

/-!
# The transmit side of a connection

The transmit queue of `reactor.c`: one FIFO of all items, a second FIFO that
links the non-DATA items, the item under way, and the count of control frames
since the last DATA frame.  `connectionNextTx` picks the next item,
`connectionFlushTx` is the flush turn, and `enqueueTxItemOwner` appends.

Items are told apart by their tag, which stands for their address.  A system
call and a driver call answer from outside, so a flush takes the list of their
answers; a turn also ends where the list ends.

The last three fields of the connection are observations.  `wire` collects
what the socket or the driver accepted, `frames` the frames that `tx_frames`
counts, and `accepted` the requests in the order in which they were queued.

Not here: the TLS preface, the TLS shutdown and the bookkeeping of the epoll
interest.
-/

namespace Trpc

/-- `TR_CONTROL_BURST`. -/
def controlBurst : Nat := 8

/-- `TR_IO_QUANTUM`. -/
def ioQuantum : Nat := 64 * 1024

/-- One frame that was written to its end.  `overtook` says that its item was
not at the head of the queue. -/
structure SentFrame where
  tag : Nat
  request : TxRequest
  pos : Nat
  overtook : Bool
  deriving DecidableEq

def SentFrame.isData (frame : SentFrame) : Bool :=
  frame.request.isData

def SentFrame.bytes (frame : SentFrame) : List UInt8 :=
  frameBytes frame.request frame.pos

/-- The transmit side of `struct tr_connection`.  `closed` is the status the
connection was closed with. -/
structure TxConnection where
  queue : List TxItem
  control : List Nat
  active : Option Nat
  controlStreak : Nat
  endpoint : Option (ByteEndpoint TxPointer)
  byteReadyEvents : UInt32
  closed : Option Status
  wire : List UInt8
  frames : List SentFrame
  accepted : List TxRequest
  deriving DecidableEq

/-- A new connection, plain or over a TLS endpoint that has authenticated. -/
def txConnectionInit (endpoint : Option (ByteEndpoint TxPointer)) : TxConnection :=
  ⟨[], [], none, 0, endpoint, 0, none, [], [], []⟩

/-- The endpoint of a TLS connection after its handshake. -/
def tlsEndpointInit : ByteEndpoint TxPointer :=
  ⟨.authenticated, true, 0, none⟩

namespace TxConnection

/-- The queued item with a tag. -/
def find (conn : TxConnection) (tag : Nat) : Option TxItem :=
  conn.queue.find? (·.tag == tag)

/-- Write the item back to its place in the queue. -/
def setItem (conn : TxConnection) (item : TxItem) : TxConnection :=
  { conn with
    queue := conn.queue.map fun it => if it.tag = item.tag then item else it }

/-- `tr_connection_close_internal`, as far as the transmit side goes: nothing
is sent any more. -/
def close (conn : TxConnection) (status : Status) : TxConnection :=
  { conn with closed := some status }

/-- What an address points to. -/
def bytesAt (conn : TxConnection) (pointer : TxPointer) : List UInt8 :=
  match conn.find pointer.tag with
  | none => []
  | some item => item.bytesAt pointer

end TxConnection

/-- The choice of `tr_connection_next_tx` when no frame is under way. -/
def chooseTx (conn : TxConnection) : Option TxItem :=
  match conn.queue.head?, conn.control.head?.bind conn.find with
  | none, _ => none
  | some item, none => some item
  | some item, some control =>
    if item.isData ∧ conn.controlStreak < controlBurst ∧ txCanBypassData control.request then
      some control
    else some item

/-- `tr_connection_next_tx`. -/
def connectionNextTx (conn : TxConnection) : Option TxItem × TxConnection :=
  match conn.active.bind conn.find with
  | some item =>
    if item.wirePos ≠ 0 then (some item, conn)
    else (chooseTx conn, { conn with active := (chooseTx conn).map (·.tag) })
  | none => (chooseTx conn, { conn with active := (chooseTx conn).map (·.tag) })

/-- `tr_connection_complete_tx`. -/
def connectionCompleteTx (conn : TxConnection) (item : TxItem) : TxConnection :=
  { conn with
    queue := conn.queue.filter fun it => it.tag ≠ item.tag
    control := if item.isData then conn.control else conn.control.tail }

/-- The end of a frame in `tr_connection_flush_tx`. -/
def connectionFinishFrame (conn : TxConnection) (item : TxItem) : TxConnection :=
  let conn := { conn with
    active := none
    frames := conn.frames ++ [⟨item.tag, item.request, item.messagePos,
      conn.queue.head?.map (·.tag) != some item.tag⟩] }
  if item.isData then
    let conn := { conn with controlStreak := 0 }
    let item := { item with
      messagePos := item.messagePos + item.framePayloadLen }
    if item.messagePos < item.request.messageLen then
      conn.setItem { item with wirePos := 0, wireLen := 0 }
    else connectionCompleteTx conn item
  else
    let conn :=
      if txCanBypassData item.request ∧ conn.controlStreak < controlBurst then
        { conn with controlStreak := conn.controlStreak + 1 }
      else conn
    connectionCompleteTx conn item

/-- The block of `tr_connection_flush_tx` that credits `n` written bytes to
the selected item. -/
def connectionCreditTx (conn : TxConnection) (item : TxItem) (n : Nat) : TxConnection :=
  let item := { item with wirePos := item.wirePos + n }
  if item.wirePos = item.wireLen then connectionFinishFrame conn item
  else conn.setItem item

/-- What `sendmsg` says. -/
inductive SocketAnswer
  | sent (n : Nat)
  | interrupted
  | again
  | error
  deriving DecidableEq, Repr

/-- The answer to one write attempt, from the socket of a plain connection or
from the TLS driver. -/
inductive IoAnswer
  | socket (answer : SocketAnswer)
  | driver (answer : DriverAnswer)
  deriving DecidableEq, Repr

/-- The plain branch of the flush: the new connection, and the bytes written
if the loop goes on.  The kernel takes at most what it was offered. -/
def flushPlain (conn : TxConnection) (item : TxItem) (iov : List IoVec) :
    SocketAnswer → TxConnection × Option Nat
  | .sent n =>
    let offered := iov.flatMap item.vecBytes
    let n := min n offered.length
    if n = 0 then (conn.close .errState, none)
    else
      (connectionCreditTx { conn with wire := conn.wire ++ offered.take n }
        item n, some n)
  | .interrupted => (conn, some 0)
  | .again => (conn, none)
  | .error => (conn.close .errSys, none)

/-- The buffer and length that the TLS branch offers: the retained ones, or
the first element of the scatter list. -/
def tlsOffer (endpoint : ByteEndpoint TxPointer) (iov : List IoVec) : TxPointer × Nat :=
  match endpoint.writeBuffer, iov with
  | some retained, _ => retained
  | none, vec :: _ => (vec.base, vec.len)
  | none, [] => (⟨0, none, 0⟩, 0)

/-- The TLS branch of the flush.  Whatever the driver took is credited to the
selected item. -/
def flushTls (conn : TxConnection) (item : TxItem) (iov : List IoVec)
    (budget : Nat) (endpoint : ByteEndpoint TxPointer) (answer : DriverAnswer) :
    TxConnection × Option Nat :=
  let (buffer, length) := tlsOffer endpoint iov
  if endpoint.state ≠ .authenticated then (conn, none)
  else if endpoint.writeBuffer.isSome ∧ budget < length then (conn, none)
  else
    let (ret, n, endpoint) :=
      byteEndpointWrite endpoint buffer length conn.byteReadyEvents answer
    if ret = .again then
      ({ conn with endpoint := some endpoint, byteReadyEvents := 0 }, none)
    else if ret ≠ .ok then
      ({ conn with endpoint := some endpoint }.close ret, none)
    else
      (connectionCreditTx { conn with
        endpoint := some endpoint
        wire := conn.wire ++ (conn.bytesAt buffer).take n } item n, some n)

/-- The write of one turn: a connection with a byte endpoint writes through
it, a plain one to its socket. -/
def flushWrite (conn : TxConnection) (item : TxItem) (iov : List IoVec)
    (budget : Nat) (answer : IoAnswer) : TxConnection × Option Nat :=
  match conn.endpoint, answer with
  | none, .socket answer => flushPlain conn item iov answer
  | some endpoint, .driver answer =>
    flushTls conn item iov budget endpoint answer
  | _, _ => (conn, none)

section FlushWrite

variable {conn : TxConnection} {item : TxItem} {iov : List IoVec} {budget : Nat}

theorem flushWrite_plain (h : conn.endpoint = none) (answer : SocketAnswer) :
    flushWrite conn item iov budget (.socket answer) = flushPlain conn item iov answer := by
  unfold flushWrite
  rw [h]

theorem flushWrite_plain_driver (h : conn.endpoint = none) (answer : DriverAnswer) :
    flushWrite conn item iov budget (.driver answer) = (conn, none) := by
  unfold flushWrite
  rw [h]

theorem flushWrite_tls {endpoint : ByteEndpoint TxPointer}
    (h : conn.endpoint = some endpoint) (answer : DriverAnswer) :
    flushWrite conn item iov budget (.driver answer) =
      flushTls conn item iov budget endpoint answer := by
  unfold flushWrite
  rw [h]

theorem flushWrite_tls_socket {endpoint : ByteEndpoint TxPointer}
    (h : conn.endpoint = some endpoint) (answer : SocketAnswer) :
    flushWrite conn item iov budget (.socket answer) = (conn, none) := by
  unfold flushWrite
  rw [h]

end FlushWrite

/-- One turn of the loop of `tr_connection_flush_tx`. -/
def flushOnce (conn : TxConnection) (budget : Nat) (answer : IoAnswer) :
    TxConnection × Option Nat :=
  match connectionNextTx conn with
  | (none, conn) => (conn.close .errState, none)
  | (some item, conn) =>
    match if item.wireLen = 0 then txPrepareFrame item else .ok item with
    | .error ret => (conn.close ret, none)
    | .ok item =>
      let conn := conn.setItem item
      match txBuildIov item with
      | none => (conn.close .errState, none)
      | some [] => (conn.close .errState, none)
      | some iov => flushWrite conn item (capIov budget iov) budget answer

/-- The loop of `tr_connection_flush_tx`, one answer for each turn. -/
def flushLoop : List IoAnswer → Nat → TxConnection → TxConnection
  | [], _, conn => conn
  | answer :: rest, budget, conn =>
    if budget = 0 ∨ conn.closed ≠ none ∨ conn.queue = [] then conn
    else
      match flushOnce conn budget answer with
      | (conn, none) => conn
      | (conn, some n) => flushLoop rest (budget - n) conn

/-- `tr_connection_flush_tx`, with the bytes left to the reactor's turn. -/
def connectionFlushTx (conn : TxConnection) (left : Nat) (answers : List IoAnswer) : TxConnection :=
  flushLoop answers (min left ioQuantum) conn

/-- `tr_enqueue_tx_item_owner`. -/
def enqueueTxItemOwner (conn : TxConnection) (item : TxItem) : TxConnection :=
  { conn with
    queue := conn.queue ++ [item]
    control := if item.isData then conn.control else conn.control ++ [item.tag]
    accepted := conn.accepted ++ [item.request] }

/-- The frames that have a reserved item: GOAWAY, and RESET or REFUSED. -/
def isReserved (request : TxRequest) : Bool :=
  (request.type = .goaway ∨ request.type = .streamReset ∨ request.type = .streamRefused) ∧
    request.payloads = [] ∧ request.baseFlags = 0

/-- What can happen to the transmit side: a send is accepted, a reserved item
enters the queue, the readiness of the descriptor changes, or a flush turn
runs. -/
inductive TxAction
  | send (request : TxRequest)
  | reserve (request : TxRequest)
  | ready (events : UInt32)
  | flush (left : Nat) (answers : List IoAnswer)
  deriving DecidableEq

/-- One step of the transmit side.  A send prepares its first frame at once, a
reserved item when it is first selected. -/
def txStep (conn : TxConnection) (action : TxAction) : Option TxConnection :=
  if conn.closed ≠ none then none
  else
    match action with
    | .send request =>
      match txPrepareFrame (txItemInit conn.accepted.length request) with
      | .error _ => none
      | .ok item => some (enqueueTxItemOwner conn item)
    | .reserve request =>
      if isReserved request then
        some (enqueueTxItemOwner conn (txItemInit conn.accepted.length request))
      else none
    | .ready events => some { conn with byteReadyEvents := events }
    | .flush left answers => some (connectionFlushTx conn left answers)

end Trpc
