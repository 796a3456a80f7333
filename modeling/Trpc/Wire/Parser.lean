import Trpc.Wire.Header

/-!
# The incremental frame parser

The state machine of `parser.c`.  The receiver asks for the writable span, has
the kernel write into it, and reports how many bytes arrived.  Here the bytes
that arrived are the argument of `parserProduce`, and the two buffers are the
bytes they hold so far: `headerBuf` is `header_buf[0 .. header_have)` and
`payload` is the acquired buffer up to `payload_have`.

The payload pool belongs to other connections too, so its state is an argument
of the calls that acquire from it.
-/

namespace Trpc

/-- What an acquire reads of `struct tr_buffer_pool`.  The pool is one of
fixed buffers; the growth of a budgeted pool is not modelled. -/
structure BufferPool where
  closed : Bool
  bufferSize : Nat
  freeCount : Nat

/-- The status of `tr_buffer_acquire`. -/
def bufferAcquire (pool : BufferPool) (minCapacity : Nat) : Status :=
  if minCapacity = 0 then .errInvalid
  else if pool.closed then .errClosed
  else if pool.bufferSize < minCapacity then .errBadLength
  else if pool.freeCount = 0 then .again
  else .ok

/-- `struct tr_frame`.  A frame without a payload buffer has no payload
bytes. -/
structure Frame where
  header : FrameHeader
  payload : List UInt8
  deriving DecidableEq, Repr

/-- `enum tr_parser_state`. -/
inductive ParserState
  | header
  | waitPayloadBuffer
  | payload
  deriving DecidableEq, Repr

/-- `struct tr_parser`. -/
structure Parser where
  state : ParserState
  headerBuf : List UInt8
  header : FrameHeader
  payload : Option (List UInt8)
  payloadCrcState : UInt32
  maxPayloadLen : UInt32
  deriving DecidableEq, Repr

/-- The header after `memset(&parser->header, 0, ...)`. -/
def zeroHeader : FrameHeader := ⟨0, 0, 0, 0, 0, 0, 0, 0, 0⟩

/-- `tr_parser_clear_current`, and `tr_parser_reset`, which also gives the
payload buffer back. -/
def parserReset (parser : Parser) : Parser :=
  { parser with
    state := .header
    headerBuf := []
    header := zeroHeader
    payload := none
    payloadCrcState := crc32cBegin }

/-- `tr_parser_init`. -/
def parserInit (maxPayloadLen : UInt32) : Parser where
  state := .header
  headerBuf := []
  header := zeroHeader
  payload := none
  payloadCrcState := crc32cBegin
  maxPayloadLen := wireMaxPayload maxPayloadLen

/-- `tr_parser_prepare`. -/
def parserPrepare (pool : BufferPool) (parser : Parser) : Status × Parser :=
  let ret := bufferAcquire pool parser.header.payloadLen.toNat
  if parser.state ≠ .waitPayloadBuffer then (.ok, parser)
  else if ret ≠ .ok then (ret, parser)
  else
    (.ok, { parser with
      payload := some []
      payloadCrcState := crc32cBegin
      state := .payload })

/-- `tr_parser_write_len`. -/
def parserWriteLen (parser : Parser) : Nat :=
  match parser.state, parser.payload with
  | .header, _ => wireHeaderSize - parser.headerBuf.length
  | .payload, some have_ => parser.header.payloadLen.toNat - have_.length
  | _, _ => 0

/-- `tr_parser_emit_empty`. -/
def parserEmitEmpty (parser : Parser) : Status × Parser × Option Frame :=
  if parser.header.payloadCrc32c ≠ crc32c [] then (.errPayloadCrc, parser, none)
  else (.frameReady, parserReset parser, some ⟨parser.header, []⟩)

/-- The label `fail` of `tr_parser_produce`. -/
def parserFail (ret : Status) (parser : Parser) : Status × Parser × Option Frame :=
  (ret, parserReset parser, none)

/-- The header branch of `tr_parser_produce`, once all forty bytes are
there. -/
def parserHeaderDone (pool : BufferPool) (parser : Parser) : Status × Parser × Option Frame :=
  let parser := { parser with header := wireHeaderDecode parser.headerBuf }
  let ret := wireHeaderValidate parser.headerBuf parser.header parser.maxPayloadLen
  if ret ≠ .ok then parserFail ret parser
  else if parser.header.payloadLen = 0 then
    let (ret, parser, frame) := parserEmitEmpty parser
    if ret.code < 0 then parserFail ret parser else (ret, parser, frame)
  else
    let (ret, parser) :=
      parserPrepare pool { parser with state := .waitPayloadBuffer }
    if ret = .again then (.again, parser, none)
    else if ret ≠ .ok then parserFail ret parser
    else (.ok, parser, none)

/-- The payload branch of `tr_parser_produce`. -/
def parserPayloadProduce (parser : Parser) (have_ chunk : List UInt8) :
    Status × Parser × Option Frame :=
  let crcState := crc32cUpdate parser.payloadCrcState chunk
  let parser := { parser with
    payloadCrcState := crcState
    payload := some (have_ ++ chunk) }
  if (have_ ++ chunk).length ≠ parser.header.payloadLen.toNat then
    (.ok, parser, none)
  else if crc32cFinish crcState ≠ parser.header.payloadCrc32c then
    parserFail .errPayloadCrc parser
  else
    (.frameReady, parserReset parser, some ⟨parser.header, have_ ++ chunk⟩)

/-- `tr_parser_produce`, with the bytes that were written into the span. -/
def parserProduce (pool : BufferPool) (parser : Parser) (chunk : List UInt8) :
    Status × Parser × Option Frame :=
  if chunk.length = 0 ∨ parserWriteLen parser < chunk.length then
    (.errInvalid, parser, none)
  else
    match parser.state, parser.payload with
    | .header, _ =>
      let parser := { parser with headerBuf := parser.headerBuf ++ chunk }
      if parser.headerBuf.length ≠ wireHeaderSize then (.ok, parser, none)
      else parserHeaderDone pool parser
    | .payload, some have_ => parserPayloadProduce parser have_ chunk
    | _, _ => (.errState, parser, none)

/-! ## The branches of one call -/

variable {parser : Parser} {pool : BufferPool}

theorem parserWriteLen_header (hstate : parser.state = .header) :
    parserWriteLen parser = wireHeaderSize - parser.headerBuf.length := by
  rw [parserWriteLen, hstate]

theorem parserWriteLen_wait (hstate : parser.state = .waitPayloadBuffer) :
    parserWriteLen parser = 0 := by
  rw [parserWriteLen, hstate]

theorem parserWriteLen_payload {have_ : List UInt8} (hstate : parser.state = .payload)
    (hhave : parser.payload = some have_) :
    parserWriteLen parser = parser.header.payloadLen.toNat - have_.length := by
  rw [parserWriteLen, hstate, hhave]

theorem parserPrepare_of_ne (hstate : parser.state ≠ .waitPayloadBuffer) :
    parserPrepare pool parser = (.ok, parser) := by
  rw [parserPrepare, if_pos hstate]

theorem parserPrepare_again (hstate : parser.state = .waitPayloadBuffer)
    (hacquire : bufferAcquire pool parser.header.payloadLen.toNat = .again) :
    parserPrepare pool parser = (.again, parser) := by
  simp [parserPrepare, hstate, hacquire]

theorem parserPrepare_ok (hstate : parser.state = .waitPayloadBuffer)
    (hacquire : bufferAcquire pool parser.header.payloadLen.toNat = .ok) :
    parserPrepare pool parser = (.ok, { parser with
      payload := some []
      payloadCrcState := crc32cBegin
      state := .payload }) := by
  simp [parserPrepare, hstate, hacquire]

theorem parserProduce_header {chunk : List UInt8} (hstate : parser.state = .header)
    (hpos : chunk.length ≠ 0) (hfit : chunk.length ≤ parserWriteLen parser) :
    parserProduce pool parser chunk = if (parser.headerBuf ++ chunk).length ≠ wireHeaderSize then
        (.ok, { parser with headerBuf := parser.headerBuf ++ chunk }, none)
      else
        parserHeaderDone pool
          { parser with headerBuf := parser.headerBuf ++ chunk } := by
  rw [parserProduce, if_neg (by omega)]
  obtain ⟨state, headerBuf, header, payload, crcState, limit⟩ := parser
  cases hstate
  rfl

theorem parserProduce_payload {have_ chunk : List UInt8} (hstate : parser.state = .payload)
    (hhave : parser.payload = some have_) (hpos : chunk.length ≠ 0)
    (hfit : chunk.length ≤ parserWriteLen parser) : parserProduce pool parser chunk =
      parserPayloadProduce parser have_ chunk := by
  rw [parserProduce, if_neg (by omega)]
  obtain ⟨state, headerBuf, header, payload, crcState, limit⟩ := parser
  cases hstate
  cases hhave
  rfl

end Trpc
