import Trpc.Group.ClientGroup

/-!
# The wire formats of a group

The codecs of `group/pipeline_route.c` and `group/pipeline_control_wire.c` in both
directions, the route parser over pieces, and the route that an offer stands for.
-/

namespace Trpc

open Lib List

/-! ## The route -/

theorem routePrefaceDecode_bytes (preface : RoutePreface) (crc : UInt32) :
    routePrefaceDecode (routePrefaceBytes preface crc) = { preface with headerCrc32c := crc } := by
  -- The layout is that of a CONTROL message, with the checksum in the place of a generation.
  have h := controlWireFields_groupWireBytes 0x54 0x52 0x52 0x31
    ⟨preface.version, preface.role, preface.flags, preface.ownerShardId, preface.pipelineId,
      preface.epoch, preface.memberIndex, preface.memberGeneration, crc, preface.reserved⟩
  generalize hbytes : routePrefaceBytes preface crc = bytes
  have hfields : controlWireFields bytes = ⟨preface.version, preface.role, preface.flags,
      preface.ownerShardId, preface.pipelineId, preface.epoch, preface.memberIndex,
      preface.memberGeneration, crc, preface.reserved⟩ := hbytes ▸ h
  show RoutePreface.mk (controlWireFields bytes).version (controlWireFields bytes).type
    (controlWireFields bytes).flags (controlWireFields bytes).ownerShardId
    (controlWireFields bytes).pipelineId (controlWireFields bytes).epoch
    (controlWireFields bytes).streamId (controlWireFields bytes).dataIndex
    (controlWireFields bytes).dataGeneration (controlWireFields bytes).reserved = _
  rw [hfields]

/-- The checksum is computed with its own field zero. -/
theorem routeHeaderCrc_bytes (preface : RoutePreface) (crc : UInt32) :
    routeHeaderCrc (routePrefaceBytes preface crc) =
      routeHeaderCrc (routePrefaceBytes preface 0) := rfl

theorem routePrefaceBytes_decode {raw : List UInt8} (hlen : raw.length = routePrefaceSize)
    (hmagic : raw.take 4 = routeMagic) :
    routePrefaceBytes (routePrefaceDecode raw) (routePrefaceDecode raw).headerCrc32c = raw :=
  groupWireBytes_get hlen hmagic

/-- What the validator accepts, the encoder writes. -/
theorem routePrefaceEncode_decode {raw : List UInt8} (hlen : raw.length = routePrefaceSize)
    (hvalid : routePrefaceValidate raw (routePrefaceDecode raw) = .ok) :
    routePrefaceEncode (routePrefaceDecode raw) = raw := by
  unfold routePrefaceValidate at hvalid
  split_ifs at hvalid with hmagic hcrc
  have hbytes := routePrefaceBytes_decode hlen (not_not.mp hmagic)
  rw [routePrefaceEncode, ← routeHeaderCrc_bytes _ (routePrefaceDecode raw).headerCrc32c, hbytes,
    not_not.mp hcrc, hbytes]

/-! ## The parser -/

/-- What the parser answers to each piece: the status, the bytes consumed and the route. -/
def routeParserFeeds : RouteParser → List (List UInt8) → List (Status × Nat × Option RoutePreface)
  | _, [] => []
  | parser, data :: rest =>
    match routeParserFeed parser data with
    | (ret, parser', consumed, route) => (ret, consumed, route) :: routeParserFeeds parser' rest

/-- A parser that has decided takes nothing more. -/
theorem routeParserFeeds_done {parser : RouteParser} (h : parser.done = true)
    (pieces : List (List UInt8)) :
    routeParserFeeds parser pieces = pieces.map fun _ => (.errState, 0, none) := by
  induction pieces with
  | nil => rfl
  | cons data rest ih =>
    have hfeed : routeParserFeed parser data = (.errState, parser, 0, none) := if_pos h
    rw [routeParserFeeds, hfeed]
    dsimp only
    rw [ih, map_cons]

/-- The answer to a complete preface. -/
def routeDecision (raw : List UInt8) : Status × Option RoutePreface :=
  match routePrefaceValidate raw (routePrefaceDecode raw) with
  | .ok => (.ok, some (routePrefaceDecode raw))
  | ret => (ret, none)

theorem routeDecision_of_valid {raw : List UInt8}
    (h : routePrefaceValidate raw (routePrefaceDecode raw) = .ok) :
    routeDecision raw = (.ok, some (routePrefaceDecode raw)) := by
  unfold routeDecision
  rw [h]

/-- A parser that has not decided: a piece is taken whole, or it completes the preface. -/
theorem routeParserFeed_cases {raw : List UInt8} (data : List UInt8)
    (hraw : raw.length < routePrefaceSize) :
    (raw.length + data.length < routePrefaceSize ∧
        routeParserFeed ⟨raw, false⟩ data = (.ok, ⟨raw ++ data, false⟩, data.length, none)) ∨
      routePrefaceSize ≤ raw.length + data.length ∧ routeParserFeed ⟨raw, false⟩ data =
          ((routeDecision ((raw ++ data).take routePrefaceSize)).1,
            ⟨(raw ++ data).take routePrefaceSize, true⟩, routePrefaceSize - raw.length,
            (routeDecision ((raw ++ data).take routePrefaceSize)).2) := by
  unfold routeParserFeed
  dsimp only
  rw [if_neg Bool.false_ne_true]
  rcases Nat.lt_or_ge (raw.length + data.length) routePrefaceSize with hlt | hge
  · have htake : min data.length (routePrefaceSize - raw.length) = data.length := by omega
    refine .inl ⟨hlt, ?_⟩
    rw [htake, take_length, if_pos (by rw [length_append]; omega)]
  have htake : min data.length (routePrefaceSize - raw.length) =
      routePrefaceSize - raw.length := by omega
  have hfirst : raw ++ data.take (routePrefaceSize - raw.length) =
      (raw ++ data).take routePrefaceSize := by
    rw [take_append, take_of_length_le hraw.le]
  have hlength : ((raw ++ data).take routePrefaceSize).length = routePrefaceSize := by
    rw [length_take, length_append]
    omega
  refine .inr ⟨hge, ?_⟩
  rw [htake, hfirst, if_neg (not_not.mpr hlength)]
  unfold routeDecision
  split <;> simp_all

/-- Pieces that do not complete the preface are taken whole. -/
theorem routeParserFeeds_append {raw : List UInt8} {before : List (List UInt8)}
    (rest : List (List UInt8)) (h : (raw ++ before.flatten).length < routePrefaceSize) :
    routeParserFeeds ⟨raw, false⟩ (before ++ rest) =
      before.map (fun piece => (.ok, piece.length, none)) ++
        routeParserFeeds ⟨raw ++ before.flatten, false⟩ rest := by
  induction before generalizing raw with
  | nil => rw [flatten_nil, append_nil, nil_append, map_nil, nil_append]
  | cons data before ih =>
    rw [flatten_cons, ← append_assoc] at h ⊢
    have hlt : (raw ++ data).length < routePrefaceSize := by
      rw [length_append] at h
      omega
    rw [length_append] at hlt
    rcases @routeParserFeed_cases raw data (by omega) with ⟨_, heq⟩ | ⟨hge, _⟩
    · rw [cons_append, routeParserFeeds, heq]
      dsimp only
      rw [ih h, map_cons, cons_append]
    · omega

/-- The answers to pieces: nothing while the preface is incomplete, the decision on the piece
that completes it, and errors behind it. -/
def DecidesOnce (decision : Status × Option RoutePreface) (pieces : List (List UInt8))
    (answers : List (Status × Nat × Option RoutePreface)) : Prop :=
  ∃ before data after, pieces = before ++ data :: after ∧
    before.flatten.length < routePrefaceSize ∧
    routePrefaceSize ≤ before.flatten.length + data.length ∧
    answers = before.map (fun piece => (.ok, piece.length, none)) ++
      (decision.1, routePrefaceSize - before.flatten.length, decision.2) ::
        after.map fun _ => (.errState, 0, none)

/-- Some piece takes the pieces over a length that all of them reach. -/
theorem exists_piece_reaching {pieces : List (List UInt8)} {n : Nat} (hpos : 0 < n)
    (h : n ≤ pieces.flatten.length) : ∃ before data after, pieces = before ++ data :: after ∧
      before.flatten.length < n ∧ n ≤ before.flatten.length + data.length := by
  induction pieces generalizing n with
  | nil =>
    rw [flatten_nil, length_nil] at h
    omega
  | cons data rest ih =>
    rw [flatten_cons, length_append] at h
    rcases Nat.lt_or_ge data.length n with hlt | hge
    · obtain ⟨before, last, after, rfl, hbefore, hlast⟩ := ih (n := n - data.length)
        (by omega) (by omega)
      refine ⟨data :: before, last, after, rfl, ?_, ?_⟩ <;>
        rw [flatten_cons, length_append] <;> omega
    · exact ⟨[], data, rest, rfl, hpos, hge.trans (Nat.le_add_left _ _)⟩

theorem routeParserFeeds_decides {preface more : List UInt8} {pieces : List (List UInt8)}
    (hlen : preface.length = routePrefaceSize) (hflat : pieces.flatten = preface ++ more) :
    DecidesOnce (routeDecision preface) pieces (routeParserFeeds {} pieces) := by
  have hreach : routePrefaceSize ≤ pieces.flatten.length := by
    rw [hflat, length_append]
    omega
  obtain ⟨before, data, after, rfl, hbefore, hdata⟩ :=
    exists_piece_reaching (by decide) hreach
  refine ⟨before, data, after, rfl, hbefore, hdata, ?_⟩
  have hpreface : (before.flatten ++ data).take routePrefaceSize = preface := by
    rw [flatten_append, flatten_cons, ← append_assoc] at hflat
    have htake := congrArg (take routePrefaceSize) hflat
    rw [take_append_of_le_length (by rw [length_append]; exact hdata)] at htake
    rw [htake, ← hlen, take_left]
  rw [@routeParserFeeds_append [] before _ hbefore, nil_append, routeParserFeeds]
  rcases routeParserFeed_cases data hbefore with ⟨hlt, _⟩ | ⟨_, heq⟩
  · omega
  rw [heq, hpreface]
  dsimp only
  rw [routeParserFeeds_done rfl]

/-! ## CONTROL messages -/

/-- What the decoder accepts, the encoder writes. -/
theorem controlWireEncode_decode {bytes : List UInt8} {message : ControlWireMessage}
    (h : controlWireDecode bytes = .ok message) : controlWireEncode message = .ok bytes := by
  have hvalid := controlWireDecode_valid h
  obtain ⟨hlength, h⟩ := check_eq_ok.mp h
  obtain ⟨hmagic, h⟩ := check_eq_ok.mp h
  simp only [check_eq_ok] at h
  obtain ⟨_, _, _, _, _, h⟩ := h
  injection h with h
  have hbytes : controlWireBytes (controlWireFields bytes) = bytes :=
    groupWireBytes_get (not_not.mp hlength) (not_not.mp hmagic)
  unfold controlWireEncode
  rw [if_neg (by simp [hvalid]), ← h, hbytes]

/-- The wire formats of a group.  A valid route or CONTROL message is decoded to what was
encoded, with the checksum filled in, and bytes that are accepted are what the encoder
writes.  However a preface and what follows it are cut into pieces, the parser takes whole
pieces and answers nothing until the preface is complete, decides once, refuses all further
pieces, and consumes the 48 bytes.  A valid offer stands for a valid DATA route with the shard,
group, epoch, index and generation it names. -/
theorem group_wire_codecs : (∀ preface, routePrefaceValidateFields preface = .ok →
        (routePrefaceEncode preface).length = routePrefaceSize ∧
        routePrefaceDecode (routePrefaceEncode preface) =
          { preface with headerCrc32c := routeHeaderCrc (routePrefaceEncode preface) } ∧
        routePrefaceValidate (routePrefaceEncode preface)
          (routePrefaceDecode (routePrefaceEncode preface)) = .ok) ∧
      (∀ raw, raw.length = routePrefaceSize →
        routePrefaceValidate raw (routePrefaceDecode raw) = .ok →
        routePrefaceEncode (routePrefaceDecode raw) = raw) ∧
      (∀ message, controlWireFieldsValid message = true →
        ∃ bytes, controlWireEncode message = .ok bytes ∧ controlWireDecode bytes = .ok message) ∧
      (∀ bytes message, controlWireDecode bytes = .ok message →
        controlWireEncode message = .ok bytes) ∧
      (∀ pieces : List (List UInt8), pieces.flatten.length < routePrefaceSize →
        routeParserFeeds {} pieces = pieces.map fun piece => (.ok, piece.length, none)) ∧
      (∀ preface more pieces, preface.length = routePrefaceSize → pieces.flatten = preface ++ more →
        DecidesOnce (routeDecision preface) pieces (routeParserFeeds {} pieces) ∧
          ((routeParserFeeds {} pieces).map fun answer => answer.2.1).sum = routePrefaceSize) ∧
      ∀ message, controlWireFieldsValid message = true → message.type = controlDataOffer →
        routePrefaceValidateFields (controlWireDataRoute message) = .ok ∧
        (controlWireDataRoute message).role = routeData ∧
        (controlWireDataRoute message).ownerShardId = message.ownerShardId ∧
        (controlWireDataRoute message).pipelineId = message.pipelineId ∧
        (controlWireDataRoute message).epoch = message.epoch ∧
        (controlWireDataRoute message).member = message.data := by
  refine ⟨fun preface hvalid => ⟨rfl, ?_, ?_⟩, fun raw hlen hvalid => ?_,
    fun message hvalid => ?_, fun bytes message hdecode => ?_,
    fun pieces hlen => ?_, fun preface more pieces hlen hflat => ?_, fun message hvalid _ => ?_⟩
  · exact routePrefaceDecode_bytes _ _
  · rw [routePrefaceEncode, routePrefaceDecode_bytes]
    unfold routePrefaceValidate
    split_ifs with hmagic hcrc
    · exact absurd rfl hmagic
    · exact absurd (routeHeaderCrc_bytes _ _) hcrc
    · exact hvalid
  · exact routePrefaceEncode_decode hlen hvalid
  · have hencode : controlWireEncode message = .ok (controlWireBytes message) :=
      if_neg (by simp [hvalid])
    exact ⟨_, hencode, (controlWireDecode_encode hencode).1⟩
  · exact controlWireEncode_decode hdecode
  · have h := @routeParserFeeds_append [] pieces [] hlen
    rw [List.append_nil] at h
    exact h.trans (List.append_nil _)
  · have h := routeParserFeeds_decides hlen hflat
    refine ⟨h, ?_⟩
    obtain ⟨before, data, after, -, hbefore, -, hanswers⟩ := h
    have hsum : (before.map fun piece => piece.length).sum = before.flatten.length :=
      List.length_flatten.symm
    simp only [hanswers, List.map_append, List.map_cons, List.map_map, Function.comp_def,
      List.map_const', List.map_replicate, List.sum_append, List.sum_cons, List.sum_replicate,
      smul_zero, hsum]
    omega
  · exact ⟨controlWireDataRoute_valid hvalid, rfl, rfl, rfl, rfl, rfl⟩

/-- A DATA connection for the second slot of a group. -/
def joiningRoute : RoutePreface := ⟨routeVersion, routeData, 0, 3, 7, 9, 1, 5, 0, 0⟩

/-- The offer of that slot. -/
def joiningOffer : ControlWireMessage where
  type := controlDataOffer
  ownerShardId := 3
  pipelineId := 7
  epoch := 9
  dataIndex := 1
  dataGeneration := 5

/-- The route comes in two pieces, the second with a byte of what follows. -/
theorem group_wire_codecs_cut : ∃ bytes offer, bytes = routePrefaceEncode joiningRoute ∧
    DecidesOnce (.ok, some { joiningRoute with headerCrc32c := routeHeaderCrc bytes })
      [bytes.take 20, bytes.drop 20 ++ [1], [2, 3]]
      (routeParserFeeds {} [bytes.take 20, bytes.drop 20 ++ [1], [2, 3]]) ∧
    controlWireEncode joiningOffer = .ok offer ∧ controlWireDecode offer = .ok joiningOffer ∧
    (controlWireDataRoute joiningOffer).member = joiningRoute.member := by
  obtain ⟨hroute, -, hcontrol, -, -, hpieces, hoffer⟩ := group_wire_codecs
  obtain ⟨hlen, hdecode, hvalid⟩ := hroute joiningRoute (by decide)
  obtain ⟨offer, hencode, hback⟩ := hcontrol joiningOffer (by decide)
  obtain ⟨-, -, -, -, -, hmember⟩ := hoffer joiningOffer (by decide) rfl
  refine ⟨_, offer, rfl, ?_, hencode, hback, hmember⟩
  rw [← hdecode, ← routeDecision_of_valid hvalid]
  exact (hpieces _ [1, 2, 3] _ hlen (by simp [← List.append_assoc (List.take _ _)])).1

end Trpc
