import Trpc.Status

/-!
# Deadlines

`deadline.c`, and the timer timeout of `reactor.c`.  Both turn the time that is left into the
milliseconds of one `poll`.

* `TimeType`: the integer types of a target, as far as deadlines depend on them.
* `Wait`: what a wait has to be, for a deadline and a clock in nanoseconds.
-/

namespace Trpc

/-! ## The functions -/

/-- The types `uintmax_t` and `time_t`.  No integer type is wider than `uintmax_t`, which has
at least the values of `uint64_t`. -/
structure TimeType where
  maxBits : Nat
  bits : Nat
  signed : Bool
  max_wide : 64 ≤ maxBits
  bits_pos : 0 < bits
  bits_le : bits ≤ maxBits

/-- `struct timespec`. -/
structure Timespec where
  sec : Int
  nsec : Int
  deriving DecidableEq, Repr

/-- `struct tr_deadline`. -/
structure Deadline where
  absolute : Timespec
  infinite : Bool
  deriving DecidableEq, Repr

/-- `INT_MAX`. -/
def intMax : Nat := 2147483647

/-- The cast to `uintmax_t`. -/
def TimeType.toUintmax (t : TimeType) (x : Int) : Nat := (x % 2 ^ t.maxBits).toNat

/-- The cast from `uintmax_t` to `time_t`. -/
def TimeType.ofUintmax (t : TimeType) (n : Nat) : Int :=
  if t.signed then Int.bmod n (2 ^ t.bits) else (n % 2 ^ t.bits : Nat)

/-- A difference of two values of `uintmax_t`. -/
def TimeType.sub (t : TimeType) (a b : Nat) : Nat := (a + 2 ^ t.maxBits - b) % 2 ^ t.maxBits

/-- `tr_deadline_time_t_max`. -/
def deadlineTimeTMax (t : TimeType) : Nat :=
  if t.bits ≥ t.maxBits then
    if t.signed then (2 ^ t.maxBits - 1) / 2 else 2 ^ t.maxBits - 1
  else if t.signed then 2 ^ (t.bits - 1) % 2 ^ t.maxBits - 1
  else 2 ^ t.bits % 2 ^ t.maxBits - 1

/-- A reading of the clock that both functions take. -/
def Timespec.accepted (now : Timespec) : Bool :=
  ¬ (now.sec < 0 ∨ now.nsec < 0 ∨ now.nsec ≥ 1000000000)

/-- `tr_deadline_init_ms`; the clock answers with a time or fails. -/
def deadlineInitMs (t : TimeType) (clock : Option Timespec) (timeoutMs : UInt32) :
    Except Status Deadline :=
  match clock with
  | none => .error .errSys
  | some now =>
    if ¬ now.accepted then .error .errSys
    else
      let maxSeconds := deadlineTimeTMax t
      let seconds := t.toUintmax now.sec
      let nanos := (now.nsec.toNat + (timeoutMs.toNat % 1000) * 1000000) % 2 ^ 64
      let addSeconds := (timeoutMs.toNat / 1000 + nanos / 1000000000) % 2 ^ t.maxBits
      let nanos := nanos % 1000000000
      if addSeconds > t.sub maxSeconds seconds then
        .ok ⟨⟨t.ofUintmax maxSeconds, 999999999⟩, false⟩
      else .ok ⟨⟨t.ofUintmax ((seconds + addSeconds) % 2 ^ t.maxBits), nanos⟩, false⟩

/-- `tr_deadline_poll_ms`: the wait and whether the deadline has passed. -/
def deadlinePollMs (t : TimeType) (deadline : Deadline) (clock : Option Timespec) :
    Except Status (Int × Bool) :=
  if deadline.infinite then .ok (-1, false)
  else
    match clock with
    | none => .error .errSys
    | some now =>
      if ¬ now.accepted then .error .errSys
      else if now.sec > deadline.absolute.sec ∨
          (now.sec = deadline.absolute.sec ∧ now.nsec ≥ deadline.absolute.nsec) then .ok (0, true)
      else
        let seconds := t.sub (t.toUintmax deadline.absolute.sec) (t.toUintmax now.sec)
        let nanos := Int.bmod (deadline.absolute.nsec - now.nsec) (2 ^ 64)
        -- The borrow.
        let seconds' := if nanos < 0 then t.sub seconds 1 else seconds
        let nanos' := if nanos < 0 then Int.bmod (nanos + 1000000000) (2 ^ 64) else nanos
        if seconds' > intMax / 1000 then .ok (intMax, false)
        else
          let millis := (seconds' * 1000 + (nanos'.toNat + 1000000 - 1) % 2 ^ 64 / 1000000) %
            2 ^ t.maxBits
          .ok (if millis > intMax then (intMax : Int) else millis, false)

/-- `tr_reactor_now_ns`. -/
def reactorNowNs : Option Timespec → Nat
  | none => 0
  | some ts => ((ts.sec % 2 ^ 64).toNat * 1000000000 + (ts.nsec % 2 ^ 64).toNat) % 2 ^ 64

/-- `tr_reactor_timer_timeout_ms`; the earliest deadline of the queue is zero when no timer is
armed. -/
def reactorTimerTimeoutMs (deadlineNs : UInt64) (clock : Option Timespec) : Int :=
  let nowNs := reactorNowNs clock
  if deadlineNs = 0 then -1
  else if nowNs = 0 ∨ deadlineNs.toNat ≤ nowNs then 0
  else
    let deltaNs := deadlineNs.toNat - nowNs
    let timeoutMs := deltaNs / 1000000 + (if deltaNs % 1000000 ≠ 0 then 1 else 0)
    if timeoutMs > intMax then intMax else timeoutMs

/-! ## What they are for -/

/-- The largest value of `time_t`. -/
def TimeType.max (t : TimeType) : Nat := if t.signed then 2 ^ (t.bits - 1) - 1 else 2 ^ t.bits - 1

/-- The nanoseconds of a time. -/
def Timespec.ns (ts : Timespec) : Int := ts.sec * 1000000000 + ts.nsec

/-- A time that is not negative and that `time_t` holds, with its nanoseconds normalised. -/
structure Timespec.Valid (t : TimeType) (ts : Timespec) : Prop where
  sec_nonneg : 0 ≤ ts.sec
  sec_le : ts.sec ≤ t.max
  nsec_nonneg : 0 ≤ ts.nsec
  nsec_lt : ts.nsec < 1000000000

/-- The largest time there is. -/
def TimeType.maxNs (t : TimeType) : Int := t.max * 1000000000 + 999999999

/-- The milliseconds up to the deadline, rounded up. -/
def remainingMs (deadline now : Int) : Int := (deadline - now + 999999) / 1000000

/-- What a wait must be.  The last field says why the milliseconds are rounded up. -/
structure Wait (deadline now wait : Int) (expired : Bool) : Prop where
  range : 0 ≤ wait ∧ wait ≤ intMax
  expired_iff : expired = true ↔ deadline ≤ now
  zero_iff : wait = 0 ↔ deadline ≤ now
  value : now < deadline → wait = min (intMax : Int) (remainingMs deadline now)
  uncapped : now < deadline → remainingMs deadline now ≤ intMax →
    deadline ≤ now + wait * 1000000 ∧ now + wait * 1000000 < deadline + 1000000

theorem Wait.passed {deadline now : Int} (h : deadline ≤ now) : Wait deadline now 0 true where
  range := ⟨le_refl 0, Int.natCast_nonneg _⟩
  expired_iff := ⟨fun _ => h, fun _ => rfl⟩
  zero_iff := ⟨fun _ => h, fun _ => rfl⟩
  value := fun hlt => absurd h (not_le.mpr hlt)
  uncapped := fun hlt => absurd h (not_le.mpr hlt)

/-- The capped and rounded time that is left. -/
theorem Wait.ahead {deadline now wait : Int} (h : now < deadline)
    (hwait : wait = min (intMax : Int) (remainingMs deadline now)) :
    Wait deadline now wait false := by
  have hleft : 0 < remainingMs deadline now := by
    rw [remainingMs]
    omega
  have hpositive : 0 < wait ∧ wait ≤ intMax := by
    rw [hwait, intMax]
    omega
  refine ⟨⟨hpositive.1.le, hpositive.2⟩, ?_, ?_, fun _ => hwait, fun _ hsmall => ?_⟩
  · simp [h]
  · have hne := hpositive.1.ne'
    simp [h, hne]
  · rw [min_eq_right hsmall] at hwait
    rw [hwait, remainingMs]
    omega

/-! ## The types -/

namespace TimeType

variable (t : TimeType)

theorem two_pow_le : (2 : Nat) ^ 64 ≤ 2 ^ t.maxBits := Nat.pow_le_pow_right (by decide) t.max_wide

/-- The sign takes one of the bits. -/
theorem two_pow_bits : 2 ^ t.bits = 2 * 2 ^ (t.bits - 1) := by
  rw [← pow_succ', Nat.sub_add_cancel t.bits_pos]

theorem max_lt_bits : t.max < 2 ^ t.bits := by
  have hbits := t.two_pow_bits
  have hpos : 0 < 2 ^ (t.bits - 1) := Nat.two_pow_pos _
  unfold max
  split <;> omega

theorem max_lt : t.max < 2 ^ t.maxBits :=
  lt_of_lt_of_le t.max_lt_bits (Nat.pow_le_pow_right (by decide) t.bits_le)

theorem sub_eq {a b : Nat} (hle : b ≤ a) (hlt : a < 2 ^ t.maxBits) : t.sub a b = a - b := by
  rw [sub, Nat.sub_add_comm hle, Nat.add_mod_right, Nat.mod_eq_of_lt (by omega)]

theorem deadlineTimeTMax_eq : deadlineTimeTMax t = t.max := by
  have hbits := t.two_pow_bits
  have hpos : 0 < 2 ^ (t.bits - 1) := Nat.two_pow_pos _
  unfold deadlineTimeTMax max
  by_cases hwide : t.bits ≥ t.maxBits
  · rw [if_pos hwide, ← Nat.le_antisymm t.bits_le hwide]
    split <;> omega
  · have hnarrow : (2 : Nat) ^ t.bits < 2 ^ t.maxBits :=
      Nat.pow_lt_pow_right (by decide) (not_le.mp hwide)
    rw [if_neg hwide, Nat.mod_eq_of_lt hnarrow, Nat.mod_eq_of_lt (by omega)]

variable {t}

theorem toUintmax_cast {x : Int} (hnonneg : 0 ≤ x) (hle : x ≤ t.max) :
    (t.toUintmax x : Int) = x := by
  have hlt : (t.max : Int) < 2 ^ t.maxBits := by exact_mod_cast t.max_lt
  rw [toUintmax, Int.emod_eq_of_lt hnonneg (lt_of_le_of_lt hle hlt), Int.toNat_of_nonneg hnonneg]

theorem ofUintmax_eq {n : Nat} (h : n ≤ t.max) : t.ofUintmax n = n := by
  have hlt := lt_of_le_of_lt h t.max_lt_bits
  have hbits := t.two_pow_bits
  unfold ofUintmax
  split
  next hsigned =>
    rw [max, if_pos hsigned] at h
    have hpos : 0 < 2 ^ (t.bits - 1) := Nat.two_pow_pos _
    exact Int.bmod_eq_of_le (by omega) (by omega)
  · rw [Nat.mod_eq_of_lt hlt]

end TimeType

namespace Timespec.Valid

variable {t : TimeType} {now : Timespec}

theorem accepted (h : now.Valid t) : now.accepted = true := by
  have := h.sec_nonneg
  have := h.nsec_nonneg
  have := h.nsec_lt
  rw [Timespec.accepted, decide_eq_true_eq]
  omega

end Timespec.Valid

/-! ## The lemmas -/

section

variable {t : TimeType} {now : Timespec}

/-- The deadline is the sum, or the largest time when the sum is beyond it. -/
theorem deadlineInitMs_spec (h : now.Valid t) (timeoutMs : UInt32) :
    ∃ absolute, deadlineInitMs t (some now) timeoutMs = .ok ⟨absolute, false⟩ ∧
      absolute.Valid t ∧ absolute.ns = min (now.ns + timeoutMs.toNat * 1000000) t.maxNs := by
  have hwide := t.two_pow_le
  have hmax := t.max_lt
  have hseconds := TimeType.toUintmax_cast h.sec_nonneg h.sec_le
  have hsec := h.sec_le
  have hnonneg := h.nsec_nonneg
  have hlt := h.nsec_lt
  have htimeout := timeoutMs.toNat_lt
  simp only [deadlineInitMs, h.accepted, not_true_eq_false, if_false, t.deadlineTimeTMax_eq]
  generalize t.toUintmax now.sec = seconds at hseconds ⊢
  generalize timeoutMs.toNat = timeout at htimeout ⊢
  obtain ⟨nsec, hnsec⟩ := Int.eq_ofNat_of_zero_le hnonneg
  have hnanos : (nsec + timeout % 1000 * 1000000) % 2 ^ 64 = nsec + timeout % 1000 * 1000000 :=
    Nat.mod_eq_of_lt (by omega)
  have hadd : (timeout / 1000 + (nsec + timeout % 1000 * 1000000) / 1000000000) % 2 ^ t.maxBits =
      timeout / 1000 + (nsec + timeout % 1000 * 1000000) / 1000000000 :=
    Nat.mod_eq_of_lt (by omega)
  have hroom : t.sub t.max seconds = t.max - seconds := t.sub_eq (by omega) hmax
  simp only [hnsec, Int.toNat_natCast, hnanos, hadd, hroom]
  split_ifs with hover
  · rw [TimeType.ofUintmax_eq le_rfl]
    refine ⟨_, rfl, ⟨Int.natCast_nonneg _, le_refl _, by norm_num, by norm_num⟩, ?_⟩
    simp only [Timespec.ns, TimeType.maxNs]
    omega
  · have hsum : (seconds + (timeout / 1000 + (nsec + timeout % 1000 * 1000000) / 1000000000)) %
        2 ^ t.maxBits =
        seconds + (timeout / 1000 + (nsec + timeout % 1000 * 1000000) / 1000000000) :=
      Nat.mod_eq_of_lt (by omega)
    rw [hsum, TimeType.ofUintmax_eq (by omega)]
    refine ⟨_, rfl, ⟨by dsimp only; omega, by dsimp only; omega, by dsimp only; omega,
      by dsimp only; omega⟩, ?_⟩
    simp only [Timespec.ns, TimeType.maxNs]
    omega

/-- The borrow and the products are exact. -/
theorem deadlinePollMs_wait {deadline : Timespec} (hdeadline : deadline.Valid t) (h : now.Valid t) :
    ∃ wait expired, deadlinePollMs t ⟨deadline, false⟩ (some now) = .ok (wait, expired) ∧
      Wait deadline.ns now.ns wait expired := by
  have hwide := t.two_pow_le
  have hmax := t.max_lt
  have hnow := TimeType.toUintmax_cast h.sec_nonneg h.sec_le
  have habs := TimeType.toUintmax_cast hdeadline.sec_nonneg hdeadline.sec_le
  have haccepted := h.accepted
  obtain ⟨_, hsec, hnonneg, hlt⟩ := h
  obtain ⟨_, hdsec, hdnonneg, hdlt⟩ := hdeadline
  simp only [deadlinePollMs, haccepted, not_true_eq_false, if_false, Bool.false_eq_true]
  by_cases hpassed : now.sec > deadline.sec ∨ (now.sec = deadline.sec ∧ now.nsec ≥ deadline.nsec)
  · rw [if_pos hpassed]
    refine ⟨0, true, rfl, Wait.passed ?_⟩
    simp only [Timespec.ns]
    omega
  rw [if_neg hpassed]
  generalize t.toUintmax now.sec = seconds at hnow ⊢
  generalize t.toUintmax deadline.sec = dseconds at habs ⊢
  have hdiff : t.sub dseconds seconds = dseconds - seconds := t.sub_eq (by omega) (by omega)
  have hnanos : Int.bmod (deadline.nsec - now.nsec) (2 ^ 64) = deadline.nsec - now.nsec :=
    Int.bmod_eq_of_le (by omega) (by omega)
  -- What is left, after the borrow.
  obtain ⟨left, nanos, hleft, hrest, hless, hsum⟩ : ∃ left nanos : Nat,
      (if deadline.nsec - now.nsec < 0 then t.sub (dseconds - seconds) 1
        else dseconds - seconds) = left ∧
      (if deadline.nsec - now.nsec < 0 then
        Int.bmod (deadline.nsec - now.nsec + 1000000000) (2 ^ 64)
        else deadline.nsec - now.nsec) = nanos ∧
      nanos < 1000000000 ∧ (left * 1000000000 + nanos : Int) = deadline.ns - now.ns := by
    simp only [Timespec.ns]
    split_ifs with hneg
    · refine ⟨dseconds - seconds - 1, (deadline.nsec - now.nsec + 1000000000).toNat, ?_, ?_,
        by omega, by omega⟩
      · exact t.sub_eq (by omega) (by omega)
      · rw [Int.bmod_eq_of_le (by omega) (by omega), Int.toNat_of_nonneg (by omega)]
    · exact ⟨dseconds - seconds, (deadline.nsec - now.nsec).toNat, rfl,
        (Int.toNat_of_nonneg (not_lt.mp hneg)).symm, by omega, by omega⟩
  simp only [hdiff, hnanos, hleft, hrest, Int.toNat_natCast]
  refine ⟨_, false, ?_, Wait.ahead ?_ rfl⟩
  · have hround : (nanos + 1000000 - 1) % 2 ^ 64 = nanos + 999999 := by
      rw [Nat.mod_eq_of_lt (by omega)]
      omega
    have hremaining : remainingMs deadline.ns now.ns =
        (left * 1000 + (nanos + 999999) / 1000000 : Nat) := by
      rw [remainingMs, ← hsum]
      omega
    rw [hround, hremaining]
    by_cases hcap : left > intMax / 1000
    · rw [if_pos hcap, min_eq_left]
      rw [intMax] at hcap ⊢
      omega
    · have hexact : (left * 1000 + (nanos + 999999) / 1000000) % 2 ^ t.maxBits =
          left * 1000 + (nanos + 999999) / 1000000 := by
        rw [intMax] at hcap
        exact Nat.mod_eq_of_lt (by omega)
      rw [if_neg hcap, hexact]
      generalize left * 1000 + (nanos + 999999) / 1000000 = millis
      by_cases hmillis : millis > intMax
      · rw [if_pos hmillis, min_eq_left (by omega)]
      · rw [if_neg hmillis, min_eq_right (by omega)]
  · simp only [Timespec.ns]
    omega

/-- A clock that is neither zero nor beyond 64 bits. -/
theorem reactorTimerTimeoutMs_wait {deadlineNs : UInt64} (hdeadline : deadlineNs ≠ 0)
    (h : now.Valid t) (hpos : 0 < now.ns) (hfits : now.ns < 2 ^ 64) :
    Wait deadlineNs.toNat now.ns (reactorTimerTimeoutMs deadlineNs (some now))
      (deadlineNs.toNat ≤ reactorNowNs (some now)) := by
  obtain ⟨hsec, _, hnsec, hlt⟩ := h
  have hnow : (reactorNowNs (some now) : Int) = now.ns := by
    rw [Timespec.ns] at hfits ⊢
    rw [reactorNowNs]
    omega
  unfold reactorTimerTimeoutMs
  generalize reactorNowNs (some now) = nowNs at hnow ⊢
  rw [← hnow] at hpos ⊢
  have hnonzero : nowNs ≠ 0 := by omega
  simp only [hdeadline, hnonzero, if_false, false_or]
  by_cases hpassed : deadlineNs.toNat ≤ nowNs
  · simp only [hpassed, if_true, decide_true]
    exact Wait.passed (Int.ofNat_le.mpr hpassed)
  · simp only [hpassed, if_false, decide_false]
    refine Wait.ahead (by omega) ?_
    have hround : (deadlineNs.toNat - nowNs) / 1000000 +
        (if (deadlineNs.toNat - nowNs) % 1000000 ≠ 0 then 1 else 0) =
        remainingMs deadlineNs.toNat nowNs := by
      rw [remainingMs]
      split_ifs <;> omega
    rw [← hround]
    split_ifs <;> omega

end

/-- Deadlines and waits are exact on every target.  The reactor's clock is, from one nanosecond
up to the end of 64 bits. -/
theorem deadline_arithmetic (t : TimeType) : (∀ now : Timespec, now.Valid t → ∀ timeoutMs : UInt32,
      ∃ absolute, deadlineInitMs t (some now) timeoutMs = .ok ⟨absolute, false⟩ ∧
        absolute.Valid t ∧ absolute.ns = min (now.ns + timeoutMs.toNat * 1000000) t.maxNs ∧
        ∀ later : Timespec, later.Valid t →
          ∃ wait expired, deadlinePollMs t ⟨absolute, false⟩ (some later) = .ok (wait, expired) ∧
            Wait absolute.ns later.ns wait expired) ∧
    ∀ now : Timespec, now.Valid t → 0 < now.ns → now.ns < 2 ^ 64 →
      ∀ deadlineNs : UInt64, deadlineNs ≠ 0 →
        Wait deadlineNs.toNat now.ns (reactorTimerTimeoutMs deadlineNs (some now))
          (deadlineNs.toNat ≤ reactorNowNs (some now)) := by
  refine ⟨fun now hnow timeoutMs => ?_, fun now hnow hpos hfits deadlineNs hdeadline => ?_⟩
  · obtain ⟨absolute, hinit, hvalid, hns⟩ := deadlineInitMs_spec hnow timeoutMs
    exact ⟨absolute, hinit, hvalid, hns, fun later hlater => deadlinePollMs_wait hvalid hlater⟩
  · exact reactorTimerTimeoutMs_wait hdeadline hnow hpos hfits

/-- A signed `time_t` of 64 bits. -/
def exampleTimeType : TimeType := ⟨64, 64, true, le_refl 64, Nat.zero_lt_succ 63, le_refl 64⟩

/-- A deadline of one millisecond that carries into the next second. -/
theorem deadline_arithmetic_carry : (∃ absolute wait expired,
      deadlineInitMs exampleTimeType (some ⟨5, 999500000⟩) 1 = .ok ⟨absolute, false⟩ ∧
      deadlinePollMs exampleTimeType ⟨absolute, false⟩ (some ⟨6, 0⟩) = .ok (wait, expired) ∧
      absolute.ns = 6000500000 ∧ Wait absolute.ns 6000000000 wait expired) ∧
    Wait 7000000000 6000000000 (reactorTimerTimeoutMs 7000000000 (some ⟨6, 0⟩)) false := by
  have hnow : Timespec.Valid exampleTimeType ⟨5, 999500000⟩ :=
    ⟨by decide, by decide, by decide, by decide⟩
  have hlater : Timespec.Valid exampleTimeType ⟨6, 0⟩ :=
    ⟨by decide, by decide, by decide, by decide⟩
  obtain ⟨absolute, hinit, _, hns, hpoll⟩ := (deadline_arithmetic exampleTimeType).1 _ hnow 1
  obtain ⟨wait, expired, hpoll, hwait⟩ := hpoll _ hlater
  exact ⟨⟨absolute, wait, expired, hinit, hpoll, hns.trans (by decide), hwait⟩,
    (deadline_arithmetic exampleTimeType).2 _ hlater (by decide) (by decide) 7000000000
      (by decide)⟩

/-- A clock of zero is taken for one that failed, so the wait is zero before the deadline; and a
clock beyond 64 bits wraps, so there is a wait after it. -/
theorem reactor_clock_extremes : (Timespec.Valid exampleTimeType ⟨0, 0⟩ ∧
      ¬ ∃ expired, Wait (5 : UInt64).toNat (Timespec.ns ⟨0, 0⟩)
        (reactorTimerTimeoutMs 5 (some ⟨0, 0⟩)) expired) ∧
    Timespec.Valid exampleTimeType ⟨18446744074, 0⟩ ∧
      ¬ ∃ expired, Wait (1000000000 : UInt64).toNat (Timespec.ns ⟨18446744074, 0⟩)
        (reactorTimerTimeoutMs 1000000000 (some ⟨18446744074, 0⟩)) expired := by
  refine ⟨⟨⟨by decide, by decide, by decide, by decide⟩, ?_⟩,
    ⟨by decide, by decide, by decide, by decide⟩, ?_⟩
  · rintro ⟨expired, hwait⟩
    exact absurd (hwait.zero_iff.mp (by decide)) (by decide)
  · rintro ⟨expired, hwait⟩
    exact absurd (hwait.zero_iff.mpr (by decide)) (by decide)

end Trpc
