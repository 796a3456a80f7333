import Mathlib

/-!
# Status codes

The enumeration `enum tr_status` of `tr/status.h`.  The numbers matter where a
status travels in a frame: a RESET carries the negated code as its message id.
-/

namespace Trpc

/-- `enum tr_status`. -/
inductive Status
  | ok
  | again
  | frameReady
  | inProgress
  | errInvalid
  | errNomem
  | errBadMagic
  | errBadVersion
  | errBadType
  | errBadFlags
  | errBadLength
  | errHeaderCrc
  | errPayloadCrc
  | errReserved
  | errState
  | errSys
  | errClosed
  | errStale
  | errUnsupported
  | errTimeout
  deriving DecidableEq, Repr

/-- The number of a status. -/
def Status.code : Status → Int
  | ok => 0
  | again => 1
  | frameReady => 2
  | inProgress => 3
  | errInvalid => -1
  | errNomem => -2
  | errBadMagic => -3
  | errBadVersion => -4
  | errBadType => -5
  | errBadFlags => -6
  | errBadLength => -7
  | errHeaderCrc => -8
  | errPayloadCrc => -9
  | errReserved => -10
  | errState => -11
  | errSys => -12
  | errClosed => -13
  | errStale => -14
  | errUnsupported => -15
  | errTimeout => -16

/-- `tr_wire_stream_reset_status_valid`: the reasons a RESET may carry. -/
def wireStreamResetStatusValid (status : Int) : Bool :=
  status == Status.errClosed.code || status == Status.errTimeout.code ||
    status == Status.errNomem.code || status == Status.errState.code ||
    status == Status.errSys.code

end Trpc
