import Trpc.Group.Pipeline
import Trpc.Lib.Checks
import Trpc.Wire.Crc32c
import Trpc.Wire.Endian

/-!
# The route of a connection

`group/pipeline_route.c`: the 48 bytes that a connection sends before anything else.
They name the group, and for a DATA connection the capability it joins with.  The
parser collects them from any number of pieces and decides once.
-/

namespace Trpc

/-- `TR_PIPELINE_ROUTE_PREFACE_SIZE`. -/
def routePrefaceSize : Nat := 48

/-- `TR_PIPELINE_ROUTE_VERSION`. -/
def routeVersion : UInt16 := 1

/-- `TR_PIPELINE_ROUTE_CONTROL`. -/
def routeControl : UInt16 := 1

/-- `TR_PIPELINE_ROUTE_DATA`. -/
def routeData : UInt16 := 2

/-- `TR_PIPELINE_ROUTE_MEMBER_CONTROL`. -/
def routeMemberControl : UInt32 := 0xffffffff

/-- `struct tr_pipeline_route_preface`. -/
structure RoutePreface where
  version : UInt16
  role : UInt16
  flags : UInt32
  ownerShardId : UInt32
  pipelineId : UInt64
  epoch : UInt64
  memberIndex : UInt32
  memberGeneration : UInt32
  headerCrc32c : UInt32
  reserved : UInt32
  deriving DecidableEq, Repr

/-- The capability that a route names. -/
def RoutePreface.member (route : RoutePreface) : DataRef :=
  ⟨route.memberIndex.toNat, route.memberGeneration.toNat⟩

/-- The magic bytes `TRR1`. -/
def routeMagic : List UInt8 := [0x54, 0x52, 0x52, 0x31]

/-- `tr_pipeline_route_header_crc`: the checksum over the bytes with its own field zero. -/
def routeHeaderCrc (raw : List UInt8) : UInt32 :=
  crc32c (raw.take 40 ++ [0, 0, 0, 0] ++ raw.drop 44)

/-- The 48 bytes of a route and of a CONTROL message: both have ten fields of these widths
behind a magic. -/
def groupWireBytes (magic : List UInt8) (version kind : UInt16) (flags shard : UInt32)
    (id epoch : UInt64) (first second third last : UInt32) : List UInt8 :=
  magic ++ (putLe16 version ++ (putLe16 kind ++ (putLe32 flags ++ (putLe32 shard ++
    (putLe64 id ++ (putLe64 epoch ++ (putLe32 first ++ (putLe32 second ++
    (putLe32 third ++ putLe32 last)))))))))

/-- Ten fields that were read make up the bytes behind the magic. -/
theorem groupWireBytes_get {raw magic : List UInt8} (hlen : raw.length = 48)
    (hmagic : raw.take 4 = magic) :
    groupWireBytes magic (getLe16 (raw.drop 4)) (getLe16 (raw.drop 6)) (getLe32 (raw.drop 8))
      (getLe32 (raw.drop 12)) (getLe64 (raw.drop 16)) (getLe64 (raw.drop 24))
      (getLe32 (raw.drop 32)) (getLe32 (raw.drop 36)) (getLe32 (raw.drop 40))
      (getLe32 (raw.drop 44)) = raw := by
  have hrest (n : Nat) : (raw.drop n).length = 48 - n := by
    rw [List.length_drop, hlen]
  have hlast : (raw.drop 44).take 4 = raw.drop 44 :=
    List.take_of_length_le (by simp [hrest])
  unfold groupWireBytes
  rw [putLe16_getLe16, putLe16_getLe16, putLe32_getLe32, putLe32_getLe32, putLe64_getLe64,
    putLe64_getLe64, putLe32_getLe32, putLe32_getLe32, putLe32_getLe32, putLe32_getLe32, hlast,
    field_append raw 40 4, field_append raw 36 4, field_append raw 32 4, field_append raw 24 8,
    field_append raw 16 8, field_append raw 12 4, field_append raw 8 4, field_append raw 6 2,
    field_append raw 4 2, ← hmagic, List.take_append_drop]
  all_goals simp [hrest]

/-- The bytes of a preface with a checksum. -/
def routePrefaceBytes (preface : RoutePreface) (crc : UInt32) : List UInt8 :=
  groupWireBytes routeMagic preface.version preface.role preface.flags preface.ownerShardId
    preface.pipelineId preface.epoch preface.memberIndex preface.memberGeneration crc
    preface.reserved

/-- `tr_pipeline_route_preface_encode`. -/
def routePrefaceEncode (preface : RoutePreface) : List UInt8 :=
  routePrefaceBytes preface (routeHeaderCrc (routePrefaceBytes preface 0))

/-- `tr_pipeline_route_preface_decode`. -/
def routePrefaceDecode (raw : List UInt8) : RoutePreface where
  version := getLe16 (raw.drop 4)
  role := getLe16 (raw.drop 6)
  flags := getLe32 (raw.drop 8)
  ownerShardId := getLe32 (raw.drop 12)
  pipelineId := getLe64 (raw.drop 16)
  epoch := getLe64 (raw.drop 24)
  memberIndex := getLe32 (raw.drop 32)
  memberGeneration := getLe32 (raw.drop 36)
  headerCrc32c := getLe32 (raw.drop 40)
  reserved := getLe32 (raw.drop 44)

/-- `tr_pipeline_route_preface_validate_fields`; no flag is known. -/
def routePrefaceValidateFields (preface : RoutePreface) : Status :=
  if preface.version ≠ routeVersion then .errBadVersion
  else if preface.role ≠ routeControl ∧ preface.role ≠ routeData then .errBadType
  else if preface.flags ≠ 0 then .errBadFlags
  else if preface.reserved ≠ 0 then .errReserved
  else if preface.pipelineId = 0 ∨ preface.epoch = 0 ∨ preface.ownerShardId = 0xffffffff ∨
      preface.memberGeneration = 0 then .errInvalid
  else if preface.role = routeControl then
    if preface.memberIndex ≠ routeMemberControl then .errInvalid else .ok
  else if preface.memberIndex = routeMemberControl then .errInvalid
  else .ok

/-- `tr_pipeline_route_preface_validate`. -/
def routePrefaceValidate (raw : List UInt8) (preface : RoutePreface) : Status :=
  if raw.take 4 ≠ routeMagic then .errBadMagic
  else if routeHeaderCrc raw ≠ preface.headerCrc32c then .errHeaderCrc
  else routePrefaceValidateFields preface

/-- `struct tr_pipeline_route_parser`; `raw` holds the first `have` bytes. -/
structure RouteParser where
  raw : List UInt8 := []
  done : Bool := false
  deriving DecidableEq, Repr

/-- `tr_pipeline_route_parser_feed`: the status, the bytes consumed, and the route once it
is complete and valid. -/
def routeParserFeed (parser : RouteParser) (data : List UInt8) :
    Status × RouteParser × Nat × Option RoutePreface :=
  if parser.done then (.errState, parser, 0, none)
  else
    let take := min data.length (routePrefaceSize - parser.raw.length)
    let raw := parser.raw ++ data.take take
    if raw.length ≠ routePrefaceSize then (.ok, { parser with raw := raw }, take, none)
    else
      let decoded := routePrefaceDecode raw
      match routePrefaceValidate raw decoded with
      | .ok => (.ok, { raw := raw, done := true }, take, some decoded)
      | ret => (ret, { raw := raw, done := true }, take, none)

end Trpc
