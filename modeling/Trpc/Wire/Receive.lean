import Trpc.Lib.Runs
import Trpc.Wire.Grammar

/-!
# Runs of the parser

The read loop of the reactor drives the parser: before every receive it
prepares the parser, it offers the kernel the writable span, and it reports
what arrived.  A run is a list of `RxAction`s.  Every action carries the pool
as it is at that moment, so a run may meet an exhausted pool any number of
times, and a receive may return any positive number of bytes that fits the
span.

The invariant `RxInv` ties the parser to the grammar.  What was consumed so far
parses to the frames emitted so far, and the parser's buffers hold exactly the
bytes of the unfinished frame (`ParserRel`).
-/

namespace Trpc

open List Option

/-- The pool never closes and its buffers hold every payload the limit
allows.  The reactor checks the second part when it is configured. -/
structure BufferPool.Usable (maxPayloadLen : UInt32) (pool : BufferPool) :
    Prop where
  notClosed : pool.closed = false
  bufferSize : (wireMaxPayload maxPayloadLen).toNat ≤ pool.bufferSize

/-- One turn of the read loop: prepare the parser, or receive `count` bytes
into the writable span. -/
inductive RxAction
  | prepare (pool : BufferPool)
  | receive (pool : BufferPool) (count : Nat)

/-- The pool an action meets. -/
def RxAction.pool : RxAction → BufferPool
  | .prepare pool => pool
  | .receive pool _ => pool

/-- A connection's receive side: the parser, the bytes taken from the byte
stream so far, those still to come, the frames handed on, and the status the
connection was closed with. -/
structure RxState where
  parser : Parser
  consumed : List UInt8
  input : List UInt8
  frames : List Frame
  err : Option Status

/-- A fresh connection in front of a byte stream. -/
def rxInit (maxPayloadLen : UInt32) (input : List UInt8) : RxState where
  parser := parserInit maxPayloadLen
  consumed := []
  input := input
  frames := []
  err := none

/-- The error of a call of the parser: `TR_OK`, `TR_AGAIN` and
`TR_FRAME_READY` keep the connection. -/
def rxError (ret : Status) : Option Status :=
  if ret = .ok ∨ ret = .again ∨ ret = .frameReady then none else some ret

/-- One action of the read loop.  A connection that was closed does nothing
more, and a receive needs a span and bytes to put into it. -/
def rxStep (s : RxState) (action : RxAction) : Option RxState :=
  if s.err ≠ none then none
  else
    match action with
    | .prepare pool =>
      let (ret, parser) := parserPrepare pool s.parser
      some { s with parser := parser, err := rxError ret }
    | .receive pool count =>
      if count = 0 ∨ parserWriteLen s.parser < count ∨ s.input.length < count then
        none
      else
        let (ret, parser, frame) :=
          parserProduce pool s.parser (s.input.take count)
        some {
          parser := parser
          consumed := s.consumed ++ s.input.take count
          input := s.input.drop count
          frames := s.frames ++ frame.toList
          err := rxError ret }

/-! ## The parser and the unfinished frame -/

/-- The parser holds exactly the bytes `rest` of an unfinished frame. -/
inductive ParserRel (maxPayloadLen : UInt32) (parser : Parser) :
    List UInt8 → Prop
  | header (hstate : parser.state = .header)
      (hlen : parser.headerBuf.length < wireHeaderSize) :
      ParserRel maxPayloadLen parser parser.headerBuf
  | wait {raw : List UInt8} (hstate : parser.state = .waitPayloadBuffer)
      (hraw : raw.length = wireHeaderSize)
      (hheader : parser.header = wireHeaderDecode raw)
      (hvalid : wireHeaderValidate raw (wireHeaderDecode raw) maxPayloadLen = .ok)
      (hpos : (wireHeaderDecode raw).payloadLen ≠ 0) :
      ParserRel maxPayloadLen parser raw
  | payload {raw have_ : List UInt8} (hstate : parser.state = .payload)
      (hraw : raw.length = wireHeaderSize)
      (hheader : parser.header = wireHeaderDecode raw)
      (hvalid : wireHeaderValidate raw (wireHeaderDecode raw) maxPayloadLen = .ok)
      (hhave : parser.payload = some have_)
      (hlen : have_.length < (wireHeaderDecode raw).payloadLen.toNat)
      (hcrc : parser.payloadCrcState = crc32cUpdate crc32cBegin have_) :
      ParserRel maxPayloadLen parser (raw ++ have_)

/-- What every reachable state of the receive side satisfies. -/
structure RxInv (maxPayloadLen : UInt32) (whole : List UInt8) (s : RxState) :
    Prop where
  stream : s.consumed ++ s.input = whole
  limit : s.parser.maxPayloadLen = wireMaxPayload maxPayloadLen
  frames : (parseAll maxPayloadLen s.consumed).items = s.frames
  err : (parseAll maxPayloadLen s.consumed).err = s.err
  parser : s.err = none → ParserRel maxPayloadLen s.parser (parseAll maxPayloadLen s.consumed).rest

/-! ## One call of the parser -/

/-- A call of the parser over an unfinished frame `rest` and new bytes `chunk`
does what the grammar says about the two together. -/
def ProduceSpec (maxPayloadLen : UInt32) (bytes : List UInt8)
    (result : Status × Parser × Option Frame) : Prop :=
  (frameDecode maxPayloadLen bytes = .more ∧ rxError result.1 = none ∧
    result.2.2 = none ∧ ParserRel maxPayloadLen result.2.1 bytes) ∨
  (∃ err, frameDecode maxPayloadLen bytes = .bad err ∧
    rxError result.1 = some err ∧ result.2.2 = none) ∨
  (∃ frame, frameDecode maxPayloadLen bytes = .item frame [] ∧
    rxError result.1 = none ∧ result.2.2 = some frame ∧
    ParserRel maxPayloadLen result.2.1 [])

theorem wireMaxPayload_idem (maxPayloadLen : UInt32) :
    wireMaxPayload (wireMaxPayload maxPayloadLen) = wireMaxPayload maxPayloadLen := by
  unfold wireMaxPayload
  split
  · rfl
  · rw [if_pos (by decide)]

/-- The default that `tr_parser_init` fills in is the one that the checks use
for a zero limit. -/
theorem wireHeaderValidate_limit (raw : List UInt8) (header : FrameHeader)
    (maxPayloadLen : UInt32) :
    wireHeaderValidate raw header (wireMaxPayload maxPayloadLen) =
      wireHeaderValidate raw header maxPayloadLen := by
  rw [wireHeaderValidate, wireHeaderValidate, wireMaxPayload_idem]

theorem wireResetValidate_ne {header : FrameHeader} {ret : Status}
    (h : wireResetValidate header = ret) : ret ≠ .again ∧ ret ≠ .frameReady := by
  unfold wireResetValidate at h
  repeat' split at h
  all_goals
    subst h
    decide

variable {s : RxState} {maxPayloadLen : UInt32} {raw : List UInt8} {parser : Parser}
  {pool : BufferPool}

theorem wireHeaderValidate_ne {header : FrameHeader} {ret : Status}
    (h : wireHeaderValidate raw header maxPayloadLen = ret) : ret ≠ .again ∧ ret ≠ .frameReady := by
  unfold wireHeaderValidate at h
  repeat' split at h
  all_goals first
    | exact wireResetValidate_ne h
    | subst h; decide

/-- A failed header check is an error of the connection. -/
theorem rxError_wireHeaderValidate {header : FrameHeader}
    (h : wireHeaderValidate raw header maxPayloadLen ≠ .ok) :
    rxError (wireHeaderValidate raw header maxPayloadLen) =
      some (wireHeaderValidate raw header maxPayloadLen) := by
  obtain ⟨hagain, hready⟩ := wireHeaderValidate_ne
    (rfl : wireHeaderValidate raw header maxPayloadLen = _)
  rw [rxError, if_neg (by simp [h, hagain, hready])]

theorem parserReset_rel (maxPayloadLen : UInt32) (parser : Parser) :
    ParserRel maxPayloadLen (parserReset parser) [] :=
  .header rfl (by show 0 < wireHeaderSize; decide)

section

variable (hpool : pool.Usable maxPayloadLen)

include hpool

/-- An acquire from a usable pool finds a buffer or has to wait. -/
theorem bufferAcquire_usable {len : Nat} (hpos : len ≠ 0)
    (hlen : len ≤ (wireMaxPayload maxPayloadLen).toNat) :
    bufferAcquire pool len = if pool.freeCount = 0 then .again else .ok := by
  have hsize := hpool.bufferSize
  unfold bufferAcquire
  rw [if_neg hpos, hpool.notClosed, if_neg (by simp), if_neg (by omega)]

omit hpool in
/-- A validated header respects the payload limit. -/
theorem payloadLen_le_of_validate {header : FrameHeader}
    (h : wireHeaderValidate raw header maxPayloadLen = .ok) :
    header.payloadLen.toNat ≤ (wireMaxPayload maxPayloadLen).toNat := by
  by_contra hlt
  have hlt' : wireMaxPayload maxPayloadLen < header.payloadLen :=
    UInt32.lt_iff_toNat_lt.mpr (by omega)
  revert h
  unfold wireHeaderValidate
  simp only [hlt', if_true]
  split_ifs <;> simp

/-- Preparing a waiting parser gives it a buffer or leaves it waiting. -/
theorem parserPrepare_wait
    (hstate : parser.state = .waitPayloadBuffer) (hraw : raw.length = wireHeaderSize)
    (hheader : parser.header = wireHeaderDecode raw)
    (hvalid : wireHeaderValidate raw (wireHeaderDecode raw) maxPayloadLen = .ok)
    (hpos : (wireHeaderDecode raw).payloadLen ≠ 0) : (parserPrepare pool parser).1 =
      (if pool.freeCount = 0 then .again else .ok) ∧
    (parserPrepare pool parser).2.maxPayloadLen = parser.maxPayloadLen ∧
    ParserRel maxPayloadLen (parserPrepare pool parser).2 raw := by
  have hpos' : (wireHeaderDecode raw).payloadLen.toNat ≠ 0 := by
    intro hzero
    exact hpos (UInt32.toNat.inj hzero)
  have hacquire := bufferAcquire_usable hpool hpos' (payloadLen_le_of_validate hvalid)
  rw [← hheader] at hacquire
  by_cases hfree : pool.freeCount = 0
  · rw [if_pos hfree] at hacquire ⊢
    rw [parserPrepare_again hstate hacquire]
    exact ⟨rfl, rfl, .wait hstate hraw hheader hvalid hpos⟩
  rw [if_neg hfree] at hacquire ⊢
  rw [parserPrepare_ok hstate hacquire]
  refine ⟨rfl, rfl, ?_⟩
  have hrel : ParserRel maxPayloadLen { parser with
      payload := some []
      payloadCrcState := crc32cBegin
      state := .payload } (raw ++ []) :=
    .payload rfl hraw hheader hvalid rfl (Nat.pos_of_ne_zero hpos') rfl
  rwa [append_nil] at hrel

/-- The header branch at the fortieth byte. -/
theorem parserHeaderDone_spec (hlimit : parser.maxPayloadLen = wireMaxPayload maxPayloadLen)
    (hraw : parser.headerBuf.length = wireHeaderSize) :
    ProduceSpec maxPayloadLen parser.headerBuf (parserHeaderDone pool parser) ∧
    (parserHeaderDone pool parser).2.1.maxPayloadLen = parser.maxPayloadLen := by
  have hdecode := @frameDecode_append maxPayloadLen _ hraw []
  rw [append_nil] at hdecode
  have hret : wireHeaderValidate parser.headerBuf
      (wireHeaderDecode parser.headerBuf) parser.maxPayloadLen =
      wireHeaderValidate parser.headerBuf (wireHeaderDecode parser.headerBuf) maxPayloadLen := by
    rw [hlimit, wireHeaderValidate_limit]
  unfold parserHeaderDone
  simp only [hret]
  by_cases hvalid : wireHeaderValidate parser.headerBuf
      (wireHeaderDecode parser.headerBuf) maxPayloadLen = .ok
  · rw [if_neg (by simpa using hvalid)] at hdecode ⊢
    by_cases hzero : (wireHeaderDecode parser.headerBuf).payloadLen = 0
    · -- An empty payload ends the frame here, and its checksum is checked.
      rw [if_pos hzero]
      unfold payloadDecode at hdecode
      simp only [hzero, UInt32.toNat_zero, take_zero, drop_zero,
        length_nil, lt_irrefl, if_false] at hdecode
      unfold parserEmitEmpty
      by_cases hcrc : (wireHeaderDecode parser.headerBuf).payloadCrc32c = crc32c []
      · rw [if_neg (by simpa using hcrc.symm)] at hdecode
        simp only [hcrc, ne_eq, not_true_eq_false, if_false]
        exact ⟨.inr (.inr ⟨_, hdecode, rfl, rfl, parserReset_rel _ _⟩), rfl⟩
      rw [if_pos (by simpa using Ne.symm hcrc)] at hdecode
      simp only [hcrc, ne_eq, not_false_eq_true, if_true]
      exact ⟨.inr (.inl ⟨_, hdecode, rfl, rfl⟩), rfl⟩
    · rw [if_neg hzero]
      have hpos : 0 < (wireHeaderDecode parser.headerBuf).payloadLen.toNat := by
        refine Nat.pos_of_ne_zero fun h => hzero (UInt32.toNat.inj h)
      have hmore : frameDecode maxPayloadLen parser.headerBuf = .more := by
        rw [hdecode, payloadDecode, if_pos (by simpa using hpos)]
      let waiting := { parser with
        header := wireHeaderDecode parser.headerBuf
        state := .waitPayloadBuffer }
      have hheader : waiting.header = wireHeaderDecode parser.headerBuf := rfl
      obtain ⟨hstatus, hmax, hrel⟩ :=
        parserPrepare_wait hpool rfl hraw hheader hvalid hzero
      by_cases hfree : pool.freeCount = 0
      · rw [if_pos hfree] at hstatus
        rw [hstatus, if_pos rfl]
        exact ⟨.inl ⟨hmore, rfl, rfl, hrel⟩, hmax⟩
      rw [if_neg hfree] at hstatus
      rw [hstatus, if_neg (by decide), if_neg (by decide)]
      exact ⟨.inl ⟨hmore, rfl, rfl, hrel⟩, hmax⟩
  · rw [if_pos hvalid] at hdecode ⊢
    refine ⟨.inr (.inl ⟨_, hdecode, ?_, rfl⟩), rfl⟩
    exact rxError_wireHeaderValidate hvalid

omit hpool in
/-- The payload branch. -/
theorem parserPayloadProduce_spec {have_ chunk : List UInt8} (hstate : parser.state = .payload)
    (hraw : raw.length = wireHeaderSize) (hheader : parser.header = wireHeaderDecode raw)
    (hvalid : wireHeaderValidate raw (wireHeaderDecode raw) maxPayloadLen = .ok)
    (hcrc : parser.payloadCrcState = crc32cUpdate crc32cBegin have_)
    (hfit : (have_ ++ chunk).length ≤
      (wireHeaderDecode raw).payloadLen.toNat) : ProduceSpec maxPayloadLen (raw ++ have_ ++ chunk)
      (parserPayloadProduce parser have_ chunk) ∧
    (parserPayloadProduce parser have_ chunk).2.1.maxPayloadLen = parser.maxPayloadLen := by
  have hdecode : frameDecode maxPayloadLen (raw ++ have_ ++ chunk) =
      payloadDecode (wireHeaderDecode raw) (have_ ++ chunk) := by
    rw [append_assoc, frameDecode_append hraw, if_neg (by simpa using hvalid)]
  have hcrc' : crc32cUpdate parser.payloadCrcState chunk =
      crc32cUpdate crc32cBegin (have_ ++ chunk) := by
    rw [hcrc, crc32cUpdate_append]
  unfold payloadDecode at hdecode
  unfold parserPayloadProduce
  simp only [hcrc', hheader]
  by_cases hlen : (have_ ++ chunk).length = (wireHeaderDecode raw).payloadLen.toNat
  · rw [if_neg (by omega), ← hlen, take_length, drop_length] at hdecode
    rw [if_neg (by simpa using hlen)]
    by_cases hsum : crc32c (have_ ++ chunk) = (wireHeaderDecode raw).payloadCrc32c
    · rw [if_neg (by simpa using hsum)] at hdecode
      rw [if_neg (by simpa [crc32c] using hsum)]
      exact ⟨.inr (.inr ⟨_, hdecode, rfl, rfl, parserReset_rel _ _⟩), rfl⟩
    rw [if_pos hsum] at hdecode
    rw [if_pos (by simpa [crc32c] using hsum)]
    exact ⟨.inr (.inl ⟨_, hdecode, rfl, rfl⟩), rfl⟩
  · rw [if_pos (by omega)] at hdecode
    rw [if_pos hlen]
    refine ⟨.inl ⟨hdecode, rfl, rfl, ?_⟩, rfl⟩
    rw [append_assoc]
    exact .payload hstate hraw rfl hvalid rfl (by omega) rfl

/-- One call of `tr_parser_produce` on a span that fits does what the grammar
says about the unfinished frame and the new bytes. -/
theorem parserProduce_spec {rest chunk : List UInt8}
    (hlimit : parser.maxPayloadLen = wireMaxPayload maxPayloadLen)
    (hrel : ParserRel maxPayloadLen parser rest) (hpos : chunk.length ≠ 0)
    (hfit : chunk.length ≤ parserWriteLen parser) : ProduceSpec maxPayloadLen (rest ++ chunk)
      (parserProduce pool parser chunk) ∧
    (parserProduce pool parser chunk).2.1.maxPayloadLen = parser.maxPayloadLen := by
  cases hrel with
  | header hstate hlen =>
    rw [parserProduce_header hstate hpos hfit]
    rw [parserWriteLen_header hstate] at hfit
    by_cases hdone : (parser.headerBuf ++ chunk).length = wireHeaderSize
    · rw [if_neg (by simpa using hdone)]
      let done := { parser with headerBuf := parser.headerBuf ++ chunk }
      have hlimit' : done.maxPayloadLen = wireMaxPayload maxPayloadLen := hlimit
      exact parserHeaderDone_spec hpool hlimit' hdone
    · rw [if_pos (by simpa using hdone)]
      have hlt : (parser.headerBuf ++ chunk).length < wireHeaderSize := by
        rw [length_append] at hdone ⊢
        omega
      exact ⟨.inl ⟨frameDecode_of_lt hlt, rfl, rfl, .header hstate hlt⟩, rfl⟩
  | wait hstate =>
    rw [parserWriteLen_wait hstate] at hfit
    omega
  | payload hstate hraw hheader hvalid hhave hlen hcrc =>
    rw [parserProduce_payload hstate hhave hpos hfit]
    rw [parserWriteLen_payload hstate hhave, hheader] at hfit
    refine parserPayloadProduce_spec hstate hraw hheader hvalid hcrc ?_
    rw [length_append]
    omega

/-- One call of `tr_parser_prepare` moves no bytes. -/
theorem parserPrepare_spec {rest : List UInt8}
    (hrel : ParserRel maxPayloadLen parser rest) : rxError (parserPrepare pool parser).1 = none ∧
    (parserPrepare pool parser).2.maxPayloadLen = parser.maxPayloadLen ∧
    ParserRel maxPayloadLen (parserPrepare pool parser).2 rest := by
  by_cases hstate : parser.state = .waitPayloadBuffer
  · cases hrel with
    | header h | payload h => rw [hstate] at h; cases h
    | wait _ hraw hheader hvalid hpos =>
      obtain ⟨hstatus, hmax, hrel'⟩ :=
        parserPrepare_wait hpool hstate hraw hheader hvalid hpos
      refine ⟨?_, hmax, hrel'⟩
      rw [hstatus]
      split <;> rfl
  · rw [parserPrepare_of_ne hstate]
    exact ⟨rfl, rfl, hrel⟩

end

/-! ## Runs -/

/-- What one action of the read loop can do. -/
theorem rxStep_cases {s' : RxState} {action : RxAction} (h : rxStep s action = some s') :
    s.err = none ∧
    ((∃ pool, action = .prepare pool ∧ s' = { s with
          parser := (parserPrepare pool s.parser).2
          err := rxError (parserPrepare pool s.parser).1 }) ∨
      (∃ pool count, action = .receive pool count ∧ count ≠ 0 ∧
        count ≤ parserWriteLen s.parser ∧ count ≤ s.input.length ∧
        s' = {
          parser := (parserProduce pool s.parser (s.input.take count)).2.1
          consumed := s.consumed ++ s.input.take count
          input := s.input.drop count
          frames := s.frames ++ (parserProduce pool s.parser (s.input.take count)).2.2.toList
          err := rxError (parserProduce pool s.parser (s.input.take count)).1 })) := by
  unfold rxStep at h
  split at h
  · cases h
  rename_i herr
  refine ⟨by simpa using herr, ?_⟩
  cases action with
  | prepare pool =>
    exact .inl ⟨pool, rfl, (some.inj h).symm⟩
  | receive pool count =>
    simp only at h
    split at h
    · cases h
    rename_i hcount
    exact .inr ⟨pool, count, rfl, by omega, by omega, by omega, (some.inj h).symm⟩

/-- A receive that fits the span and the stream goes through. -/
theorem rxStep_receive {count : Nat} (herr : s.err = none) (hpos : 0 < count)
    (hfit : count ≤ parserWriteLen s.parser) (havail : count ≤ s.input.length) :
    rxStep s (.receive pool count) = some {
      parser := (parserProduce pool s.parser (s.input.take count)).2.1
      consumed := s.consumed ++ s.input.take count
      input := s.input.drop count
      frames := s.frames ++ (parserProduce pool s.parser (s.input.take count)).2.2.toList
      err := rxError (parserProduce pool s.parser (s.input.take count)).1 } := by
  rw [rxStep, if_neg (by simpa using herr)]
  exact if_neg (by omega)

theorem rxInit_inv (maxPayloadLen : UInt32) (whole : List UInt8) :
    RxInv maxPayloadLen whole (rxInit maxPayloadLen whole) := by
  refine ⟨rfl, rfl, ?_, ?_, ?_⟩
  · exact congrArg _ (parseAll_nil maxPayloadLen)
  · exact congrArg _ (parseAll_nil maxPayloadLen)
  · intro _
    show ParserRel maxPayloadLen _ (parseAll maxPayloadLen []).rest
    rw [parseAll_nil]
    exact .header rfl (by show 0 < wireHeaderSize; decide)

variable {whole : List UInt8}

/-- Every action keeps the parser in step with the grammar. -/
theorem rxStep_inv {s' : RxState} {action : RxAction}
    (hinv : RxInv maxPayloadLen whole s) (hpool : action.pool.Usable maxPayloadLen)
    (h : rxStep s action = some s') : RxInv maxPayloadLen whole s' := by
  obtain ⟨herr, hcase⟩ := rxStep_cases h
  have hrel := hinv.parser herr
  have hnone : (parseAll maxPayloadLen s.consumed).err = none :=
    hinv.err.trans herr
  rcases hcase with ⟨pool, rfl, rfl⟩ | ⟨pool, count, rfl, hpos, hfit, havail, rfl⟩
  · obtain ⟨hstatus, hmax, hrel'⟩ := parserPrepare_spec hpool hrel
    refine ⟨hinv.stream, hmax.trans hinv.limit, hinv.frames, ?_, fun _ => hrel'⟩
    exact hnone.trans hstatus.symm
  generalize hchunk : s.input.take count = chunk
  have hlen : chunk.length = count := by
    rw [← hchunk, length_take]
    omega
  have husable : pool.Usable maxPayloadLen := hpool
  obtain ⟨hspec, hmax⟩ := parserProduce_spec husable hinv.limit hrel
    (show chunk.length ≠ 0 by omega) (by omega)
  have happend := parseAll_append hnone chunk
  have hstream : s.consumed ++ chunk ++ s.input.drop count = whole := by
    rw [← hchunk, append_assoc, take_append_drop, hinv.stream]
  have hlimit := hmax.trans hinv.limit
  -- The grammar's answer about the unfinished frame and the new bytes.
  rcases hspec with ⟨hdec, hstatus, hframe, hrel'⟩ |
    ⟨err, hdec, hstatus, hframe⟩ | ⟨frame, hdec, hstatus, hframe, hrel'⟩
  · rw [parseAll_of_more hdec] at happend
    refine ⟨hstream, hlimit, ?_, ?_, fun _ => ?_⟩
    · rw [happend]
      simpa [hframe] using hinv.frames
    · rw [happend]
      exact hstatus.symm
    · rw [happend]
      exact hrel'
  · rw [parseAll_of_bad hdec] at happend
    refine ⟨hstream, hlimit, ?_, ?_, fun hcontra => ?_⟩
    · rw [happend]
      simpa [hframe] using hinv.frames
    · rw [happend]
      exact hstatus.symm
    · cases hstatus.symm.trans hcontra
  · rw [parseAll_of_frame hdec] at happend
    refine ⟨hstream, hlimit, ?_, ?_, fun _ => ?_⟩
    · rw [happend]
      simpa [hframe] using hinv.frames
    · rw [happend]
      exact hstatus.symm
    · rw [happend]
      exact hrel'

/-- What every state of a run over usable pools satisfies. -/
theorem rx_reachable {actions : List RxAction}
    (hpool : ∀ action ∈ actions, action.pool.Usable maxPayloadLen)
    (hrun : Lib.runSteps rxStep (rxInit maxPayloadLen whole) actions = some s) :
    RxInv maxPayloadLen whole s :=
  Lib.runSteps_invariant_of (fun _ _ _ hinv hcond hstep =>
      rxStep_inv hinv hcond hstep)
    (rxInit_inv maxPayloadLen whole) (Lib.stepsMeet_of_forall_mem hpool) hrun

/-! ## Frame boundaries and progress -/

/-- The span never reaches past the end of the unfinished frame, and the frame
is unfinished. -/
theorem parserRel_extent {rest : List UInt8} (hrel : ParserRel maxPayloadLen parser rest) :
    rest.length < frameExtent rest ∧
    rest.length + parserWriteLen parser ≤ frameExtent rest := by
  cases hrel with
  | header hstate hlen =>
    rw [frameExtent, if_pos hlen, parserWriteLen_header hstate]
    omega
  | wait hstate hraw hheader hvalid hpos =>
    have hpos' : (wireHeaderDecode rest).payloadLen.toNat ≠ 0 :=
      fun hzero => hpos (UInt32.toNat.inj hzero)
    rw [frameExtent, if_neg (by omega), parserWriteLen_wait hstate, ← hraw, take_length]
    omega
  | @payload raw have_ hstate hraw hheader hvalid hhave hlen hcrc =>
    have htake : (raw ++ have_).take wireHeaderSize = raw := by
      rw [← hraw, take_left]
    rw [frameExtent, parserWriteLen_payload hstate hhave, hheader, htake,
      length_append, hraw, if_neg (by omega)]
    omega

/-- Preparing with a free buffer opens a span. -/
theorem parserPrepare_writeLen {rest : List UInt8} (hpool : pool.Usable maxPayloadLen)
    (hfree : pool.freeCount ≠ 0) (hrel : ParserRel maxPayloadLen parser rest) :
    0 < parserWriteLen (parserPrepare pool parser).2 := by
  by_cases hstate : parser.state = .waitPayloadBuffer
  · cases hrel with
    | header h | payload h => rw [hstate] at h; cases h
    | wait _ hraw hheader hvalid hpos =>
      have hpos' : parser.header.payloadLen.toNat ≠ 0 := by
        rw [hheader]
        exact fun hzero => hpos (UInt32.toNat.inj hzero)
      have hacquire := bufferAcquire_usable hpool hpos' (hheader ▸ payloadLen_le_of_validate hvalid)
      rw [if_neg hfree] at hacquire
      rw [parserPrepare_ok hstate hacquire]
      show 0 < parser.header.payloadLen.toNat - 0
      omega
  · rw [parserPrepare_of_ne hstate]
    cases hrel with
    | header h hlen =>
      rw [parserWriteLen_header h]
      omega
    | wait h => exact absurd h hstate
    | payload h hraw hheader hvalid hhave hlen hcrc =>
      rw [parserWriteLen_payload h hhave, hheader]
      omega

/-- A pool that always has a buffer, used to finish a run. -/
def amplePool (maxPayloadLen : UInt32) : BufferPool where
  closed := false
  bufferSize := (wireMaxPayload maxPayloadLen).toNat
  freeCount := 1

theorem amplePool_usable (maxPayloadLen : UInt32) :
    (amplePool maxPayloadLen).Usable maxPayloadLen :=
  ⟨rfl, le_refl _⟩

/-- With a free buffer at hand one more byte can always be received. -/
theorem rx_receive_enabled (hinv : RxInv maxPayloadLen whole s)
    (herr : s.err = none) (hinput : s.input ≠ []) :
    ∃ t, Lib.runSteps rxStep s [.prepare (amplePool maxPayloadLen),
        .receive (amplePool maxPayloadLen) 1] = some t ∧
      t.input.length < s.input.length := by
  have hpool := amplePool_usable maxPayloadLen
  have hrel := hinv.parser herr
  obtain ⟨hstatus, -, -⟩ := parserPrepare_spec hpool hrel
  have hspan := parserPrepare_writeLen hpool (show 1 ≠ 0 by decide) hrel
  have hlen : 0 < s.input.length := length_pos_iff.mpr hinput
  let mid : RxState := { s with
    parser := (parserPrepare (amplePool maxPayloadLen) s.parser).2
    err := rxError (parserPrepare (amplePool maxPayloadLen) s.parser).1 }
  have hmid : rxStep s (.prepare (amplePool maxPayloadLen)) = some mid := by
    rw [rxStep, if_neg (by simp [herr])]
  have hlast : ∃ t, rxStep mid (.receive (amplePool maxPayloadLen) 1) = some t ∧
      t.input = s.input.drop 1 :=
    ⟨_, rxStep_receive hstatus Nat.one_pos hspan hlen, rfl⟩
  obtain ⟨t, ht, hinput'⟩ := hlast
  refine ⟨t, ?_, ?_⟩
  · rw [Lib.runSteps_cons_eq_some]
    exact ⟨mid, hmid, Lib.runSteps_singleton.mpr ht⟩
  · rw [hinput', length_drop]
    omega

/-- Every run can be finished: whatever pools it has met so far, it reaches
the end of the stream or an error once buffers are free again. -/
theorem rx_finishes (hinv : RxInv maxPayloadLen whole s) :
    ∃ actions t, (∀ action ∈ actions, action.pool.Usable maxPayloadLen) ∧
      Lib.runSteps rxStep s actions = some t ∧
      (t.input = [] ∨ t.err ≠ none) := by
  induction hn : s.input.length using Nat.strongRecOn generalizing s with
  | _ n ih =>
    by_cases hdone : s.input = [] ∨ s.err ≠ none
    · exact ⟨[], s, by simp, rfl, hdone⟩
    push Not at hdone
    obtain ⟨mid, hmid, hlt⟩ := rx_receive_enabled hinv hdone.2 hdone.1
    have hpool : ∀ action ∈ [RxAction.prepare (amplePool maxPayloadLen),
        .receive (amplePool maxPayloadLen) 1],
        action.pool.Usable maxPayloadLen := by
      intro action hmem
      have hample := amplePool_usable maxPayloadLen
      simp only [mem_cons, not_mem_nil, or_false] at hmem
      rcases hmem with rfl | rfl
      · exact hample
      · exact hample
    have hinv' : RxInv maxPayloadLen whole mid :=
      Lib.runSteps_invariant_of (fun _ _ _ hinv hcond hstep =>
        rxStep_inv hinv hcond hstep) hinv
        (Lib.stepsMeet_of_forall_mem hpool) hmid
    obtain ⟨actions, t, husable, hrun, hend⟩ := ih _ (hn ▸ hlt) hinv' rfl
    refine ⟨_ ++ actions, t, ?_, Lib.runSteps_append.mpr ⟨mid, hmid, hrun⟩, hend⟩
    intro action hmem
    rcases mem_append.mp hmem with hfirst | hrest
    · exact hpool action hfirst
    · exact husable action hrest

/-- The parser is invariant under the splitting of the byte stream.  In every
state of every run over usable pools the frames handed on and the error are
those of the bytes consumed so far, so a run that reaches the end of the
stream or an error has the frames and the error of the whole stream; the span
stays inside the unfinished frame; every run can be finished; and a stream of
encoded valid frames gives exactly those frames and no error. -/
theorem parser_split_invariance (maxPayloadLen : UInt32) (whole : List UInt8)
    (actions : List RxAction) (s : RxState)
    (hpool : ∀ action ∈ actions, action.pool.Usable maxPayloadLen)
    (hrun : Lib.runSteps rxStep (rxInit maxPayloadLen whole) actions = some s) :
    s.consumed ++ s.input = whole ∧
    s.frames = (parseAll maxPayloadLen s.consumed).items ∧
    s.err = (parseAll maxPayloadLen s.consumed).err ∧
    (s.input = [] ∨ s.err ≠ none → s.frames = (parseAll maxPayloadLen whole).items ∧
      s.err = (parseAll maxPayloadLen whole).err) ∧
    (s.err = none → (parseAll maxPayloadLen s.consumed).rest.length <
        frameExtent (parseAll maxPayloadLen s.consumed).rest ∧
      (parseAll maxPayloadLen s.consumed).rest.length + parserWriteLen s.parser ≤
          frameExtent (parseAll maxPayloadLen s.consumed).rest) ∧
    (∃ more t, (∀ action ∈ more, action.pool.Usable maxPayloadLen) ∧
      Lib.runSteps rxStep s more = some t ∧ (t.input = [] ∨ t.err ≠ none)) ∧
    (∀ frames : List Frame, (∀ frame ∈ frames, frame.Valid maxPayloadLen) →
      whole = frames.flatMap encodeFrame →
      s.err = none ∧ (s.input = [] → s.frames = frames)) := by
  have hinv := rx_reachable hpool hrun
  have hend : s.input = [] ∨ s.err ≠ none → s.frames = (parseAll maxPayloadLen whole).items ∧
      s.err = (parseAll maxPayloadLen whole).err := by
    intro hdone
    rw [← hinv.stream]
    cases herr : s.err with
    | none =>
      have hinput : s.input = [] := hdone.resolve_right (by simp [herr])
      rw [hinput, List.append_nil]
      exact ⟨hinv.frames.symm, herr.symm.trans hinv.err.symm⟩
    | some err =>
      obtain ⟨hitems, herr'⟩ :=
        parseAll_append_of_err (hinv.err.trans herr) s.input
      exact ⟨hinv.frames.symm.trans hitems.symm, herr'.symm⟩
  refine ⟨hinv.stream, hinv.frames.symm, hinv.err.symm, hend, ?_, rx_finishes hinv, ?_⟩
  · intro herr
    exact parserRel_extent (hinv.parser herr)
  · intro frames hvalid hwhole
    have hparse := parseAll_encodeFrame hvalid
    rw [← hwhole] at hparse
    have herr : s.err = none := by
      by_contra hne
      have := (hend (.inr hne)).2
      rw [hparse] at this
      exact hne this
    refine ⟨herr, fun hinput => ?_⟩
    rw [(hend (.inl hinput)).1, hparse]

/-- The bytes of a DATA frame with three bytes of payload. -/
def dataBytes : List UInt8 :=
  wireHeaderEncode ⟨1, FrameType.data.code, 0, 5, 1, 3, crc32c [1, 2, 3], 0, 0⟩ ++ [1, 2, 3]

/-- The frame is received in four pieces: its header in two, a wait while the pool is
exhausted, and its payload in two. -/
def parkedRun : List RxAction :=
  [.receive ⟨false, 1048576, 0⟩ 7, .receive ⟨false, 1048576, 0⟩ 33,
    .prepare ⟨false, 1048576, 0⟩, .prepare ⟨false, 1048576, 1⟩,
    .receive ⟨false, 1048576, 0⟩ 2, .receive ⟨false, 1048576, 0⟩ 1]

theorem parser_split_invariance_parked : ∃ s,
    Lib.runSteps rxStep (rxInit 0 dataBytes) parkedRun = some s ∧
      s.frames.map Frame.payload = [[1, 2, 3]] ∧ s.frames = (parseAll 0 dataBytes).items := by
  refine Lib.exists_of_map (f := fun s => (s.input, s.frames.map Frame.payload))
    (y := ([], [[1, 2, 3]])) (by decide +kernel) fun s hrun hs => ?_
  obtain ⟨hinput, hframes⟩ := Prod.mk.inj hs
  refine ⟨hframes, ((parser_split_invariance 0 dataBytes _ s ?_ hrun).2.2.2.1 (.inl hinput)).1⟩
  intro action hmem
  simp only [parkedRun, List.mem_cons, List.not_mem_nil, or_false] at hmem
  rcases hmem with rfl | rfl | rfl | rfl | rfl | rfl <;>
    exact ⟨rfl, by show (wireMaxPayload 0).toNat ≤ 1048576; decide⟩

end Trpc
