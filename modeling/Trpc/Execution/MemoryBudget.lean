import Trpc.Lib.Counting
import Trpc.Lib.Runs
import Trpc.Status

/-!
# The two levels of the memory budget

`memory_budget.h`: a child budget charges its parent first and then itself, and
gives the parent back if it has no room.  Every level is one counter that is
changed by compare-and-swap, so other threads may run between any two accesses.

A step is one atomic access.  `BudgetCall` is a call under way: the level it is
for, how far it is, and what it has added at its own level (`own`) and at the
parent (`up`).  `held` is what returned calls have reserved and nobody gives back
yet.  A weak compare-and-swap may fail for no reason (`spurious`).
-/

namespace Trpc

open Lib Function Option

/-- `UINT64_MAX`. -/
def budgetMax : Nat := 2 ^ 64 - 1

/-! ## One level -/

/-- `struct tr_memory_budget`, without its parent. -/
structure BudgetLevel where
  limitBytes : Nat
  currentBytes : Nat := 0
  peakBytes : Nat := 0
  rejectionEvents : Nat := 0

/-- The next access of `tr_memory_budget_reserve_local`. -/
inductive ReservePc
  | load
  | swap (current : Nat)
  | loadPeak (next : Nat)
  | swapPeak (next peak : Nat)

/-- Whether the bytes are charged. -/
def ReservePc.charged : ReservePc → Bool
  | .load | .swap _ => false
  | .loadPeak _ | .swapPeak _ _ => true

namespace BudgetLevel

/-- One access of `tr_memory_budget_reserve_local`: what comes next, or what it
returns. -/
def reserveLocal (b : BudgetLevel) (bytes : Nat) (spurious : Bool) :
    ReservePc → BudgetLevel × (ReservePc ⊕ Status)
  | .load => (b, .inl (.swap b.currentBytes))
  | .swap current =>
    if budgetMax - current < bytes then (b, .inr .errState)
    else
      let next := (current + bytes) % 2 ^ 64
      if b.limitBytes ≠ 0 ∧ b.limitBytes < next then
        ({ b with rejectionEvents := (b.rejectionEvents + 1) % 2 ^ 64 }, .inr .again)
      else if b.currentBytes = current ∧ spurious = false then
        ({ b with currentBytes := next }, .inl (.loadPeak next))
      else (b, .inl (.swap b.currentBytes))
  | .loadPeak next => (b, .inl (.swapPeak next b.peakBytes))
  | .swapPeak next peak =>
    if peak < next then
      if b.peakBytes = peak ∧ spurious = false then ({ b with peakBytes := next }, .inr .ok)
      else (b, .inl (.swapPeak next b.peakBytes))
    else (b, .inr .ok)

/-- One access of `tr_memory_budget_release_local`; `none` is its first load. -/
def releaseLocal (b : BudgetLevel) (bytes : Nat) (spurious : Bool) :
    Option Nat → BudgetLevel × (Option Nat ⊕ Status)
  | none => (b, .inl (some b.currentBytes))
  | some current =>
    if current < bytes then (b, .inr .errState)
    else if b.currentBytes = current ∧ spurious = false then
      ({ b with currentBytes := current - bytes }, .inr .ok)
    else (b, .inl (some b.currentBytes))

/-- A level within its limit. -/
def Fits (b : BudgetLevel) : Prop :=
  b.currentBytes ≤ budgetMax ∧ (b.limitBytes ≠ 0 → b.currentBytes ≤ b.limitBytes)

/-- What an access may make of a level within its limit. -/
def Keeps (b b' : BudgetLevel) : Prop :=
  b'.Fits ∧ b'.limitBytes = b.limitBytes

variable {bytes : Nat}

/-- An access that goes on charges the bytes when it passes the swap. -/
theorem reserveLocal_next {b b' : BudgetLevel} {spurious : Bool}
    {pc pc' : ReservePc} (h : b.reserveLocal bytes spurious pc = (b', .inl pc'))
    (hpos : 0 < bytes) (hfits : b.Fits) : b.Keeps b' ∧
      ∃ more, b'.currentBytes = b.currentBytes + more ∧
        (if pc.charged then bytes else 0) + more = if pc'.charged then bytes else 0 := by
  cases pc with
  | load =>
    cases h
    simp [ReservePc.charged, Keeps, hfits]
  | swap current =>
    simp only [reserveLocal] at h
    split at h
    · cases h
    next hroom =>
      split at h
      · cases h
      next hlimit =>
        have hnext : (current + bytes) % 2 ^ 64 = current + bytes :=
          Nat.mod_eq_of_lt (by simp only [budgetMax] at hroom; omega)
        rw [hnext] at h hlimit
        split at h
        next hswap =>
          cases h
          refine ⟨⟨⟨?_, ?_⟩, rfl⟩, ?_⟩
          · simp only [budgetMax] at hroom ⊢
            omega
          · intro hne
            simp only at hne ⊢
            by_contra hover
            exact hlimit ⟨hne, by omega⟩
          · exact ⟨bytes, by simp [hswap.1], by simp [ReservePc.charged]⟩
        · cases h
          simp [ReservePc.charged, Keeps, hfits]
  | loadPeak next =>
    cases h
    simp [ReservePc.charged, Keeps, hfits]
  | swapPeak next peak =>
    simp only [reserveLocal] at h
    split at h
    · split at h
      · cases h
      · cases h
        simp [ReservePc.charged, Keeps, hfits]
    · cases h

/-- A return is OK exactly if the bytes are charged, and changes nothing. -/
theorem reserveLocal_return {b b' : BudgetLevel} {spurious : Bool}
    {pc : ReservePc} {ret : Status} (h : b.reserveLocal bytes spurious pc = (b', .inr ret)) :
    (b.Fits → b.Keeps b') ∧ b'.currentBytes = b.currentBytes ∧
      (ret = .ok ↔ pc.charged = true) := by
  cases pc with
  | load => cases h
  | swap current =>
    simp only [reserveLocal] at h
    split at h
    · cases h
      exact ⟨fun hfits => ⟨hfits, rfl⟩, rfl, by simp [ReservePc.charged]⟩
    split at h
    · cases h
      exact ⟨fun hfits => ⟨hfits, rfl⟩, rfl, by simp [ReservePc.charged]⟩
    · split at h <;> cases h
  | loadPeak next => cases h
  | swapPeak next peak =>
    simp only [reserveLocal] at h
    split at h
    · split at h
      · cases h
        exact ⟨fun hfits => ⟨hfits, rfl⟩, rfl, by simp [ReservePc.charged]⟩
      · cases h
    · cases h
      exact ⟨fun hfits => ⟨hfits, rfl⟩, rfl, by simp [ReservePc.charged]⟩

/-- A release of bytes that are charged goes on or returns them.  A value that
was read earlier may be out of date, and is then read again. -/
theorem releaseLocal_spec {b : BudgetLevel} (spurious : Bool) (pc : Option Nat)
    (hseen : ∀ current, pc = some current → bytes ≤ current) (hcharged : bytes ≤ b.currentBytes) :
    (∃ current, b.releaseLocal bytes spurious pc = (b, .inl (some current)) ∧ bytes ≤ current) ∨
      b.releaseLocal bytes spurious pc =
        ({ b with currentBytes := b.currentBytes - bytes }, .inr .ok) := by
  cases pc with
  | none => exact .inl ⟨_, rfl, hcharged⟩
  | some current =>
    have hle := hseen current rfl
    simp only [releaseLocal]
    rw [if_neg (by omega)]
    split
    next hswap =>
      right
      rw [hswap.1]
    next => exact .inl ⟨_, rfl, hcharged⟩

end BudgetLevel

/-! ## The calls -/

/-- Where a call is. -/
inductive BudgetStage
  | reserveParent (pc : ReservePc)
  | reserveOwn (pc : ReservePc)
  | rollback (ret : Status) (pc : Option Nat)
  | releaseOwn (pc : Option Nat)
  | releaseParent (pc : Option Nat)

/-- A call of `tr_memory_budget_reserve` or `tr_memory_budget_release` for a
child, or for the parent itself (`none`). -/
structure BudgetCall (ι : Type) where
  level : Option ι
  bytes : Nat
  stage : BudgetStage
  own : Nat
  up : Nat

/-- A call that returned, with what it left at the two levels. -/
structure BudgetReturn (ι : Type) where
  level : Option ι
  bytes : Nat
  reserves : Bool
  ret : Status
  own : Nat
  up : Nat

/-- Whether a call reserves. -/
def BudgetStage.reserves : BudgetStage → Bool
  | .reserveParent _ | .reserveOwn _ | .rollback _ _ => true
  | .releaseOwn _ | .releaseParent _ => false

variable {ι τ : Type} [DecidableEq ι] [DecidableEq τ]

/-- A parent, its children, and the threads that use them. -/
structure Budgets (ι τ : Type) where
  root : BudgetLevel
  child : ι → BudgetLevel
  call : τ → Option (BudgetCall ι)
  held : Option ι → Nat
  returns : List (BudgetReturn ι)

namespace Budgets

/-- The level that a call is for. -/
def level (b : Budgets ι τ) : Option ι → BudgetLevel
  | none => b.root
  | some i => b.child i

def setLevel (b : Budgets ι τ) (l : Option ι) (v : BudgetLevel) : Budgets ι τ :=
  match l with
  | none => { b with root := v }
  | some i => { b with child := update b.child i v }

/-- The thread goes on with its call. -/
def proceed (b : Budgets ι τ) (t : τ) (c : BudgetCall ι) : Budgets ι τ :=
  { b with call := update b.call t (some c) }

/-- The call of the thread returns. -/
def finish (b : Budgets ι τ) (t : τ) (c : BudgetCall ι) (ret : Status) : Budgets ι τ :=
  { b with
    call := update b.call t none
    held := if c.stage.reserves ∧ ret = .ok then
        update b.held c.level (b.held c.level + c.bytes)
      else b.held
    returns := b.returns ++ [⟨c.level, c.bytes, c.stage.reserves, ret, c.own, c.up⟩] }

/-- The next access of a call.  `own` and `up` follow the counters. -/
def advance (b : Budgets ι τ) (t : τ) (c : BudgetCall ι) (spurious : Bool) : Budgets ι τ :=
  match c.stage with
  | .reserveParent pc =>
    let (root, out) := b.root.reserveLocal c.bytes spurious pc
    let c := { c with up := c.up + (root.currentBytes - b.root.currentBytes) }
    let b := { b with root := root }
    match out with
    | .inl pc => b.proceed t { c with stage := .reserveParent pc }
    | .inr .ok => b.proceed t { c with stage := .reserveOwn .load }
    | .inr ret => b.finish t c ret
  | .reserveOwn pc =>
    let (v, out) := (b.level c.level).reserveLocal c.bytes spurious pc
    let c := { c with own := c.own + (v.currentBytes - (b.level c.level).currentBytes) }
    let b := b.setLevel c.level v
    match out with
    | .inl pc => b.proceed t { c with stage := .reserveOwn pc }
    | .inr ret =>
      if ret ≠ .ok ∧ c.level.isSome then b.proceed t { c with stage := .rollback ret none }
      else b.finish t c ret
  | .rollback ret pc =>
    let (root, out) := b.root.releaseLocal c.bytes spurious pc
    let c := { c with up := c.up - (b.root.currentBytes - root.currentBytes) }
    let b := { b with root := root }
    match out with
    | .inl pc => b.proceed t { c with stage := .rollback ret pc }
    | .inr .ok => b.finish t c ret
    | .inr rollbackRet => b.finish t c rollbackRet
  | .releaseOwn pc =>
    let (v, out) := (b.level c.level).releaseLocal c.bytes spurious pc
    let c := { c with own := c.own - ((b.level c.level).currentBytes - v.currentBytes) }
    let b := b.setLevel c.level v
    match out with
    | .inl pc => b.proceed t { c with stage := .releaseOwn pc }
    | .inr ret =>
      if ret ≠ .ok ∨ c.level = none then b.finish t c ret
      else b.proceed t { c with stage := .releaseParent none }
  | .releaseParent pc =>
    let (root, out) := b.root.releaseLocal c.bytes spurious pc
    let c := { c with up := c.up - (b.root.currentBytes - root.currentBytes) }
    let b := { b with root := root }
    match out with
    | .inl pc => b.proceed t { c with stage := .releaseParent pc }
    | .inr ret => b.finish t c ret

/-- What a thread does next.  A call with no bytes returns at once and touches
nothing, so calls start with some. -/
inductive Action (ι τ : Type)
  | reserve (t : τ) (level : Option ι) (bytes : Nat)
  | release (t : τ) (level : Option ι) (bytes : Nat)
  | advance (t : τ) (spurious : Bool)

/-- One step.  Threads release only what was reserved at that level. -/
def step (b : Budgets ι τ) : Action ι τ → Option (Budgets ι τ)
  | .reserve t level bytes =>
    if (b.call t).isSome ∨ bytes = 0 ∨ budgetMax < bytes then none
    else
      let stage : BudgetStage :=
        if level.isSome then .reserveParent .load else .reserveOwn .load
      some (b.proceed t ⟨level, bytes, stage, 0, 0⟩)
  | .release t level bytes =>
    if (b.call t).isSome ∨ bytes = 0 ∨ b.held level < bytes then none
    else
      let b := { b with held := update b.held level (b.held level - bytes) }
      some (b.proceed t ⟨level, bytes, .releaseOwn none, bytes, if level.isSome then bytes else 0⟩)
  | .advance t spurious =>
    match b.call t with
    | none => none
    | some c => some (b.advance t c spurious)

omit [DecidableEq τ] in
/-- A level that was written lets the other fields be. -/
theorem setLevel_frame (b : Budgets ι τ) (l : Option ι) (v : BudgetLevel) :
    (b.setLevel l v).call = b.call ∧ (b.setLevel l v).held = b.held ∧
      (b.setLevel l v).returns = b.returns := by
  cases l <;> exact ⟨rfl, rfl, rfl⟩

/-- Fresh budgets with the given limits; 0 is no limit. -/
def create (limit : Option ι → Nat) : Budgets ι τ where
  root := { limitBytes := limit none }
  child := fun i => { limitBytes := limit (some i) }
  call := fun _ => none
  held := fun _ => 0
  returns := []

end Budgets

/-! ## The invariant -/

/-- What a call has charged, by where it is. -/
def BudgetCall.Ok (c : BudgetCall ι) : Prop :=
  0 < c.bytes ∧ c.bytes ≤ budgetMax ∧ match c.stage with
    | .reserveParent pc =>
      c.level.isSome = true ∧ c.own = 0 ∧ c.up = if pc.charged then c.bytes else 0
    | .reserveOwn pc =>
      (c.own = if pc.charged then c.bytes else 0) ∧ c.up = if c.level.isSome then c.bytes else 0
    | .rollback ret pc => c.level.isSome = true ∧ ret ≠ .ok ∧ c.own = 0 ∧ c.up = c.bytes ∧
      ∀ current, pc = some current → c.bytes ≤ current
    | .releaseOwn pc => c.own = c.bytes ∧ (c.up = if c.level.isSome then c.bytes else 0) ∧
      ∀ current, pc = some current → c.bytes ≤ current
    | .releaseParent pc => c.level.isSome = true ∧ c.own = 0 ∧ c.up = c.bytes ∧
      ∀ current, pc = some current → c.bytes ≤ current

/-- What a call has charged to a child. -/
def BudgetCall.ownAt (i : ι) : Option (BudgetCall ι) → Nat
  | some c => if c.level = some i then c.own else 0
  | none => 0

/-- What a call has charged to the parent and to no child. -/
def BudgetCall.transit : Option (BudgetCall ι) → Nat
  | some c => if c.level.isSome then c.up - c.own else c.own
  | none => 0

/-- What a call is worth after a step: it goes on at its level, or it is over. -/
def BudgetCall.Worth (c : BudgetCall ι) (new : Option (BudgetCall ι)) (own up : Nat) : Prop :=
  new = none ∧ own = 0 ∧ up = 0 ∨
    ∃ c', new = some c' ∧ c'.level = c.level ∧ c'.own = own ∧ c'.up = up

theorem BudgetCall.Worth.ownAt {c : BudgetCall ι} {new : Option (BudgetCall ι)} {own up : Nat}
    (h : c.Worth new own up) (i : ι) :
    BudgetCall.ownAt i new = if c.level = some i then own else 0 := by
  rcases h with ⟨rfl, rfl, _⟩ | ⟨c', rfl, hlevel, rfl, _⟩
  · simp [BudgetCall.ownAt]
  · simp [BudgetCall.ownAt, hlevel]

omit [DecidableEq ι] in
theorem BudgetCall.Worth.transit {c : BudgetCall ι} {new : Option (BudgetCall ι)} {own up : Nat}
    (h : c.Worth new own up) :
    BudgetCall.transit new = if c.level.isSome then up - own else own := by
  rcases h with ⟨rfl, rfl, rfl⟩ | ⟨c', rfl, hlevel, rfl, rfl⟩
  · simp [BudgetCall.transit]
  · simp [BudgetCall.transit, hlevel]

/-- What a call left behind. -/
def BudgetReturn.Clean (r : BudgetReturn ι) : Prop :=
  (r.reserves = false → r.ret = .ok) ∧ (r.ret ≠ .ok → r.own = 0 ∧ r.up = 0)

namespace Budgets

variable [Fintype ι] [Fintype τ] {b b' : Budgets ι τ}

/-- Nothing is charged that nobody holds. -/
structure Ok (b : Budgets ι τ) : Prop where
  fits : ∀ l, (b.level l).Fits
  calls : ∀ t c, b.call t = some c → c.Ok
  children : ∀ i, (b.child i).currentBytes = b.held (some i) + ∑ t, BudgetCall.ownAt i (b.call t)
  parent : b.root.currentBytes =
    ∑ i, (b.child i).currentBytes + b.held none + ∑ t, BudgetCall.transit (b.call t)
  returns : ∀ r ∈ b.returns, r.Clean

/-- Budgets that a step may lead to: the limits are what they were. -/
def Keeps (b b' : Budgets ι τ) : Prop :=
  b'.Ok ∧ ∀ l, (b'.level l).limitBytes = (b.level l).limitBytes

section

variable (h : b.Ok)

include h

/-- One thread moves, and its charges with it. -/
theorem Ok.change {t : τ} {new : Option (BudgetCall ι)}
    (hcall : b'.call = update b.call t new)
    (hlevels : ∀ l, (b.level l).Keeps (b'.level l))
    (hnew : ∀ c, new = some c → c.Ok)
    (hown : ∀ i, (b'.child i).currentBytes + b.held (some i) + BudgetCall.ownAt i (b.call t) =
        (b.child i).currentBytes + b'.held (some i) + BudgetCall.ownAt i new)
    (hup : b'.root.currentBytes + ∑ i, (b.child i).currentBytes + b.held none +
      BudgetCall.transit (b.call t) =
        b.root.currentBytes + ∑ i, (b'.child i).currentBytes + b'.held none +
          BudgetCall.transit new)
    (hreturns : ∀ r ∈ b'.returns, r.Clean) : b.Keeps b' := by
  refine ⟨⟨fun l => (hlevels l).1, fun s c hc => ?_, fun i => ?_, ?_, hreturns⟩,
    fun l => (hlevels l).2⟩
  · have hold := h.calls s c
    rw [hcall, update_apply] at hc
    grind
  · have hsum := sum_update (Finset.mem_univ t) b.call new (BudgetCall.ownAt i)
    have hold := h.children i
    have hmove := hown i
    rw [hcall]
    omega
  · have hsum := sum_update (Finset.mem_univ t) b.call new BudgetCall.transit
    have hold := h.parent
    rw [hcall]
    omega

omit [DecidableEq τ] in
theorem Ok.levels (l : Option ι) : (b.level l).Keeps (b.level l) :=
  ⟨h.fits l, rfl⟩

variable {v : BudgetLevel} {t : τ}

/-- A step of a call at its own level. -/
theorem Ok.ownAccess {c : BudgetCall ι} (hc : b.call t = some c)
    (hv : (b.level c.level).Keeps v) {new : Option (BudgetCall ι)} {o u : Nat}
    (hworth : c.Worth new o u) (hnew : ∀ c, new = some c → c.Ok)
    {held : Option ι → Nat} (hheld : ∀ l, l ≠ c.level → held l = b.held l)
    (hbalance : v.currentBytes + b.held c.level + c.own =
      (b.level c.level).currentBytes + held c.level + o)
    (hup : c.level.isSome = true →
      v.currentBytes + (u - o) = (b.level c.level).currentBytes + (c.up - c.own))
    {returns : List (BudgetReturn ι)} (hreturns : ∀ r ∈ returns, r.Clean) :
    b.Keeps { b.setLevel c.level v with
      call := update b.call t new, held := held, returns := returns } := by
  have hwas : c.Worth (b.call t) c.own c.up := .inr ⟨c, hc, rfl, rfl, rfl⟩
  cases hlevel : c.level with
  | none =>
    rw [hlevel] at hbalance hv hheld
    refine h.change rfl ?_ hnew (fun i => ?_) ?_ hreturns
    · rintro (_ | i)
      · exact hv
      · exact h.levels (some i)
    · rw [hwas.ownAt, hworth.ownAt, hlevel]
      simp [setLevel, hheld (some i)]
    · rw [hwas.transit, hworth.transit, hlevel]
      simp only [setLevel, level, isSome_none, Bool.false_eq_true, if_false] at hbalance ⊢
      omega
  | some i =>
    rw [hlevel] at hbalance hup hv hheld
    have hup := hup rfl
    refine h.change rfl ?_ hnew (fun j => ?_) ?_ hreturns
    · rintro (_ | j)
      · exact h.levels none
      · have hsame := h.levels (some j)
        simp only [setLevel, level, update_apply] at hv hsame ⊢
        grind
    · rw [hwas.ownAt, hworth.ownAt, hlevel]
      have hsame := hheld (some j)
      simp only [setLevel, level, update_apply] at hbalance ⊢
      grind
    · have hsum := sum_update (Finset.mem_univ i) b.child v BudgetLevel.currentBytes
      rw [hwas.transit, hworth.transit, hlevel]
      simp only [setLevel, level, isSome_some, if_true, hheld none nofun] at hup ⊢
      omega

/-- A step of a call for a child at the parent. -/
theorem Ok.parentAccess {c : BudgetCall ι} (hc : b.call t = some c)
    (hchild : c.level.isSome = true) (hv : b.root.Keeps v)
    {new : Option (BudgetCall ι)} {u : Nat} (hworth : c.Worth new c.own u)
    (hnew : ∀ c, new = some c → c.Ok)
    (hbalance : v.currentBytes + (c.up - c.own) = b.root.currentBytes + (u - c.own))
    {returns : List (BudgetReturn ι)} (hreturns : ∀ r ∈ returns, r.Clean) :
    b.Keeps { b with root := v, call := update b.call t new, returns := returns } := by
  have hwas : c.Worth (b.call t) c.own c.up := .inr ⟨c, hc, rfl, rfl, rfl⟩
  refine h.change rfl ?_ hnew (fun i => ?_) ?_ hreturns
  · rintro (_ | i)
    · exact hv
    · exact h.levels (some i)
  · rw [hwas.ownAt, hworth.ownAt]
  · rw [hwas.transit, hworth.transit]
    simp only [hchild, if_true]
    omega

theorem Ok.proceedOwn {c c' : BudgetCall ι} (hc : b.call t = some c)
    (hv : (b.level c.level).Keeps v) (hlevel : c'.level = c.level)
    (hnew : c'.Ok)
    (hbalance : v.currentBytes + c.own = (b.level c.level).currentBytes + c'.own)
    (hup : c.level.isSome = true → v.currentBytes + (c'.up - c'.own) =
      (b.level c.level).currentBytes + (c.up - c.own)) :
    b.Keeps ((b.setLevel c.level v).proceed t c') := by
  obtain ⟨hcalls, hheld, hreturns⟩ := setLevel_frame b c.level v
  unfold proceed
  rw [hcalls, hheld, hreturns]
  exact h.ownAccess hc hv (.inr ⟨c', rfl, hlevel, rfl, rfl⟩)
    (fun _ heq => some.inj heq ▸ hnew) (fun _ _ => rfl) (by omega) hup h.returns

theorem Ok.proceedParent {c c' : BudgetCall ι} (hc : b.call t = some c)
    (hchild : c.level.isSome = true) (hv : b.root.Keeps v)
    (hlevel : c'.level = c.level) (hown : c'.own = c.own) (hnew : c'.Ok)
    (hbalance : v.currentBytes + (c.up - c.own) = b.root.currentBytes + (c'.up - c.own)) :
    b.Keeps (proceed { b with root := v } t c') :=
  h.parentAccess hc hchild hv (.inr ⟨c', rfl, hlevel, hown, rfl⟩)
    (fun _ heq => some.inj heq ▸ hnew) hbalance h.returns

omit [DecidableEq τ] in
/-- What a call has charged is there. -/
theorem Ok.own_le {t : τ} {c : BudgetCall ι} (hc : b.call t = some c) :
    c.own ≤ (b.level c.level).currentBytes := by
  cases hlevel : c.level with
  | none =>
    have hle := le_sum (fun t => BudgetCall.transit (b.call t)) t
    have hterm : BudgetCall.transit (b.call t) = c.own := by
      simp [hc, BudgetCall.transit, hlevel]
    have hparent := h.parent
    simp only [hterm, level] at hle ⊢
    omega
  | some i =>
    have hle := le_sum (fun t => BudgetCall.ownAt i (b.call t)) t
    have hterm : BudgetCall.ownAt i (b.call t) = c.own := by
      simp [hc, BudgetCall.ownAt, hlevel]
    have hchild := h.children i
    simp only [hterm, level] at hle ⊢
    omega

omit [DecidableEq τ] in
theorem Ok.up_le {t : τ} {c : BudgetCall ι} (hc : b.call t = some c)
    (hchild : c.level.isSome = true) : c.up - c.own ≤ b.root.currentBytes := by
  have hle := le_sum (fun t => BudgetCall.transit (b.call t)) t
  have hterm : BudgetCall.transit (b.call t) = c.up - c.own := by
    simp [hc, BudgetCall.transit, hchild]
  have hparent := h.parent
  simp only [hterm] at hle
  omega

/-! ## The steps -/

omit [DecidableEq τ] in
theorem Ok.returned {r : BudgetReturn ι} (hr : r.Clean) :
    ∀ r' ∈ b.returns ++ [r], r'.Clean :=
  forall_mem_concat.2 ⟨h.returns, hr⟩

end

section Steps

variable {t : τ} {level : Option ι} {bytes own up : Nat}

theorem Ok.reserveParent (h : b.Ok) {pc : ReservePc}
    (hc : b.call t = some ⟨level, bytes, .reserveParent pc, own, up⟩) (spurious : Bool) :
    b.Keeps (b.advance t ⟨level, bytes, .reserveParent pc, own, up⟩ spurious) := by
  obtain ⟨hpos, hmax, hchild, hown, hup⟩ := h.calls t _ hc
  dsimp only at hpos hmax hchild hown hup
  unfold advance
  dsimp only
  cases hout : b.root.reserveLocal bytes spurious pc with
  | mk v out =>
    cases out with
    | inl pc' =>
      obtain ⟨hfits, more, hmove, hmore⟩ :=
        BudgetLevel.reserveLocal_next hout hpos (h.fits none)
      have hcharge : up + (v.currentBytes - b.root.currentBytes) =
          if pc'.charged then bytes else 0 := by
        rw [hup, ← hmore]
        omega
      refine h.proceedParent hc hchild hfits rfl rfl ⟨hpos, hmax, hchild, hown, hcharge⟩ ?_
      dsimp only
      omega
    | inr ret =>
      obtain ⟨hfits, hsame, hcharged⟩ := BudgetLevel.reserveLocal_return hout
      have hfits := hfits (h.fits none)
      have hkept : up + (v.currentBytes - b.root.currentBytes) = up := by omega
      dsimp only
      rw [hkept]
      by_cases hret : ret = .ok
      · subst hret
        refine h.proceedParent hc hchild hfits rfl rfl ⟨hpos, hmax, hown, by grind⟩ ?_
        dsimp only
        omega
      · have hfinish : b.Keeps (finish { b with root := v } t
            ⟨level, bytes, .reserveParent pc, own, up⟩ ret) := by
          unfold finish
          rw [if_neg fun hboth => hret hboth.2]
          exact h.parentAccess (u := 0) hc hchild hfits (.inl ⟨rfl, hown, rfl⟩)
            nofun (by grind) (h.returned ⟨nofun, fun _ => ⟨hown, by grind⟩⟩)
        cases ret
        case ok => exact absurd rfl hret
        all_goals exact hfinish

theorem Ok.reserveOwn (h : b.Ok) {pc : ReservePc}
    (hc : b.call t = some ⟨level, bytes, .reserveOwn pc, own, up⟩) (spurious : Bool) :
    b.Keeps (b.advance t ⟨level, bytes, .reserveOwn pc, own, up⟩ spurious) := by
  obtain ⟨hpos, hmax, hown, hup⟩ := h.calls t _ hc
  dsimp only at hpos hmax hown hup
  unfold advance
  dsimp only
  cases hout : (b.level level).reserveLocal bytes spurious pc with
  | mk v out =>
    obtain ⟨hcalls, hheld, hreturns⟩ := setLevel_frame b level v
    cases out with
    | inl pc' =>
      obtain ⟨hfits, more, hmove, hmore⟩ :=
        BudgetLevel.reserveLocal_next hout hpos (h.fits level)
      have hcharge : own + (v.currentBytes - (b.level level).currentBytes) =
          if pc'.charged then bytes else 0 := by
        rw [hown, ← hmore]
        omega
      refine h.proceedOwn hc hfits rfl ⟨hpos, hmax, hcharge, hup⟩ ?_ ?_ <;> grind
    | inr ret =>
      obtain ⟨hfits, hsame, hcharged⟩ := BudgetLevel.reserveLocal_return hout
      have hfits := hfits (h.fits level)
      have hkept : own + (v.currentBytes - (b.level level).currentBytes) = own := by omega
      have hzero : ret ≠ .ok → own = 0 := by grind
      dsimp only
      rw [hkept]
      split
      next hback =>
        have hback2 : level.isSome = true := hback.2
        rw [hback2, if_pos rfl] at hup
        exact h.proceedOwn hc hfits rfl
          ⟨hpos, hmax, hback2, hback.1, hzero hback.1, hup, nofun⟩
          (by dsimp only; omega) (fun _ => by dsimp only; omega)
      next hend =>
        unfold finish
        rw [hcalls, hheld, hreturns]
        by_cases hret : ret = .ok
        · -- the reservation is the caller's from now on
          rw [if_pos ⟨rfl, hret⟩]
          refine h.ownAccess (o := 0) (u := 0) hc hfits (.inl ⟨rfl, rfl, rfl⟩)
            nofun (fun l hl => update_of_ne hl _ _)
            ?_ ?_ (h.returned ⟨fun _ => hret, fun hno => absurd hret hno⟩)
          · dsimp only
            rw [update_self]
            grind
          · grind
        · have hdirect : level = none := by simpa [hret] using hend
          have hup0 : up = 0 := by rw [hup, hdirect]; rfl
          rw [if_neg fun hboth => hret hboth.2]
          exact h.ownAccess (o := 0) (u := 0) hc hfits (.inl ⟨rfl, rfl, rfl⟩)
            nofun (fun _ _ => rfl) (by dsimp only; grind) (by simp [hdirect])
            (h.returned ⟨nofun, fun _ => ⟨hzero hret, hup0⟩⟩)

/-- What a release leaves of a level. -/
theorem keeps_sub {v : BudgetLevel} (hv : v.Fits) (bytes : Nat) :
    v.Keeps { v with currentBytes := v.currentBytes - bytes } :=
  ⟨⟨by have := hv.1; dsimp only; omega, fun hne => by have := hv.2 hne; dsimp only; omega⟩, rfl⟩

variable {pc : Option Nat}

theorem Ok.rollback (h : b.Ok) {ret : Status}
    (hc : b.call t = some ⟨level, bytes, .rollback ret pc, own, up⟩) (spurious : Bool) :
    b.Keeps (b.advance t ⟨level, bytes, .rollback ret pc, own, up⟩ spurious) := by
  obtain ⟨hpos, hmax, hchild, hret, hown, hup, hseen⟩ := h.calls t _ hc
  have hle := h.up_le hc hchild
  dsimp only at hpos hmax hchild hret hown hup hseen hle
  unfold advance
  dsimp only
  rcases BudgetLevel.releaseLocal_spec spurious pc hseen (b := b.root) (by omega) with
    ⟨current, hout, hcurrent⟩ | hout
  · rw [hout]
    dsimp only
    rw [Nat.sub_self, Nat.sub_zero]
    exact h.proceedParent hc hchild (h.levels none) rfl rfl ⟨hpos, hmax, hchild, hret, hown, hup,
      fun seen hseen => some.inj hseen ▸ hcurrent⟩ rfl
  · rw [hout]
    dsimp only
    have hzero : up - (b.root.currentBytes - (b.root.currentBytes - bytes)) = 0 := by omega
    rw [hzero]
    unfold finish
    rw [if_neg fun hboth => hret hboth.2]
    exact h.parentAccess (u := 0) hc hchild (keeps_sub (h.fits none) bytes)
      (.inl ⟨rfl, hown, rfl⟩) nofun
      (by dsimp only [Budgets.level]; omega)
      (h.returned ⟨nofun, fun _ => ⟨hown, rfl⟩⟩)

theorem Ok.releaseOwn (h : b.Ok)
    (hc : b.call t = some ⟨level, bytes, .releaseOwn pc, own, up⟩) (spurious : Bool) :
    b.Keeps (b.advance t ⟨level, bytes, .releaseOwn pc, own, up⟩ spurious) := by
  obtain ⟨hpos, hmax, hown, hup, hseen⟩ := h.calls t _ hc
  have hle := h.own_le hc
  dsimp only at hpos hmax hown hup hseen hle
  unfold advance
  dsimp only
  rcases BudgetLevel.releaseLocal_spec spurious pc hseen (b := b.level level) (by omega) with
    ⟨current, hout, hcurrent⟩ | hout
  · rw [hout]
    dsimp only
    rw [Nat.sub_self, Nat.sub_zero]
    exact h.proceedOwn hc (h.levels level) rfl ⟨hpos, hmax, hown, hup,
      fun seen hseen => some.inj hseen ▸ hcurrent⟩ rfl (fun _ => rfl)
  · rw [hout]
    dsimp only
    obtain ⟨hcalls, hheld, hreturns⟩ := setLevel_frame b level
      { b.level level with currentBytes := (b.level level).currentBytes - bytes }
    have hzero : own - ((b.level level).currentBytes -
        ((b.level level).currentBytes - bytes)) = 0 := by omega
    rw [hzero]
    have hfits := keeps_sub (h.fits level) bytes
    split
    next hend =>
      have hdirect : level = none := hend.resolve_left fun hno => hno rfl
      unfold finish
      rw [hcalls, hheld, hreturns, if_neg fun hboth => nomatch hboth.1]
      exact h.ownAccess (o := 0) (u := 0) hc hfits (.inl ⟨rfl, rfl, rfl⟩)
        nofun (fun _ _ => rfl) (by dsimp only; omega) (by simp [hdirect])
        (h.returned ⟨fun _ => rfl, fun hno => absurd rfl hno⟩)
    next hgoing =>
      have hchild : level.isSome = true :=
        isSome_iff_ne_none.2 fun hnone => hgoing (.inr hnone)
      rw [hchild, if_pos rfl] at hup
      exact h.proceedOwn hc hfits rfl
        ⟨hpos, hmax, hchild, rfl, hup, nofun⟩
        (by dsimp only; omega) (fun _ => by dsimp only; omega)

theorem Ok.releaseParent (h : b.Ok)
    (hc : b.call t = some ⟨level, bytes, .releaseParent pc, own, up⟩) (spurious : Bool) :
    b.Keeps (b.advance t ⟨level, bytes, .releaseParent pc, own, up⟩ spurious) := by
  obtain ⟨hpos, hmax, hchild, hown, hup, hseen⟩ := h.calls t _ hc
  have hle := h.up_le hc hchild
  dsimp only at hpos hmax hchild hown hup hseen hle
  unfold advance
  dsimp only
  rcases BudgetLevel.releaseLocal_spec spurious pc hseen (b := b.root) (by omega) with
    ⟨current, hout, hcurrent⟩ | hout
  · rw [hout]
    dsimp only
    rw [Nat.sub_self, Nat.sub_zero]
    exact h.proceedParent hc hchild (h.levels none) rfl rfl ⟨hpos, hmax, hchild, hown, hup,
      fun seen hseen => some.inj hseen ▸ hcurrent⟩ rfl
  · rw [hout]
    dsimp only
    unfold finish
    rw [if_neg fun hboth => nomatch hboth.1]
    exact h.parentAccess (u := 0) hc hchild (keeps_sub (h.fits none) bytes)
      (.inl ⟨rfl, hown, rfl⟩) nofun
      (by dsimp only [Budgets.level]; omega)
      (h.returned ⟨fun _ => rfl, fun hno => absurd rfl hno⟩)

end Steps

theorem Ok.advance (h : b.Ok) {t : τ} {c : BudgetCall ι} (hc : b.call t = some c)
    (spurious : Bool) : b.Keeps (b.advance t c spurious) := by
  obtain ⟨level, bytes, stage, own, up⟩ := c
  cases stage with
  | reserveParent pc => exact h.reserveParent hc spurious
  | reserveOwn pc => exact h.reserveOwn hc spurious
  | rollback ret pc => exact h.rollback hc spurious
  | releaseOwn pc => exact h.releaseOwn hc spurious
  | releaseParent pc => exact h.releaseParent hc spurious

theorem Ok.reserve (h : b.Ok) {t : τ} {level : Option ι} {bytes : Nat}
    (hstep : b.step (.reserve t level bytes) = some b') : b.Keeps b' := by
  obtain ⟨hguard, ⟨⟩⟩ := ite_none_left_eq_some.1 hstep
  simp only [not_or, Bool.not_eq_true, isSome_eq_false_iff, isNone_iff_eq_none,
    not_lt] at hguard
  obtain ⟨hfree, hpos, hmax⟩ := hguard
  refine h.change rfl h.levels ?_ ?_ ?_ h.returns
  · rintro _ ⟨rfl⟩
    cases level with
    | none => exact ⟨Nat.pos_of_ne_zero hpos, hmax, rfl, rfl⟩
    | some i => exact ⟨Nat.pos_of_ne_zero hpos, hmax, rfl, rfl, rfl⟩
  · intro i
    rw [hfree]
    simp [BudgetCall.ownAt, proceed]
  · rw [hfree]
    simp [BudgetCall.transit, proceed]

theorem Ok.release (h : b.Ok) {t : τ} {level : Option ι} {bytes : Nat}
    (hstep : b.step (.release t level bytes) = some b') : b.Keeps b' := by
  obtain ⟨hguard, ⟨⟩⟩ := ite_none_left_eq_some.1 hstep
  simp only [not_or, Bool.not_eq_true, isSome_eq_false_iff, isNone_iff_eq_none,
    not_lt] at hguard
  obtain ⟨hfree, hpos, hheld⟩ := hguard
  -- what is held at a level is charged there
  have hmax : bytes ≤ budgetMax := by
    have hfits := (h.fits level).1
    have hparent := h.parent
    have hchildren := h.children
    cases level <;> grind [Budgets.level]
  refine h.change rfl h.levels ?_ (fun i => ?_) ?_ h.returns
  · rintro _ ⟨rfl⟩
    exact ⟨Nat.pos_of_ne_zero hpos, hmax, rfl, rfl, nofun⟩
  · rw [hfree]
    simp only [BudgetCall.ownAt, proceed, update_apply]
    grind
  · rw [hfree]
    simp only [BudgetCall.transit, proceed, update_apply]
    cases level <;> grind

theorem Ok.step (h : b.Ok) {action : Action ι τ} (hstep : b.step action = some b') :
    b.Keeps b' := by
  cases action with
  | reserve t level bytes => exact h.reserve hstep
  | release t level bytes => exact h.release hstep
  | advance t spurious =>
    unfold Budgets.step at hstep
    cases hc : b.call t with
    | none =>
      simp only [hc] at hstep
      cases hstep
    | some c =>
      simp only [hc] at hstep
      cases hstep
      exact h.advance hc spurious

omit [DecidableEq τ] in
theorem create_ok (limit : Option ι → Nat) : (create limit : Budgets ι τ).Ok where
  fits := fun l => by
    cases l <;> exact ⟨Nat.zero_le _, fun _ => Nat.zero_le _⟩
  calls := nofun
  children := fun i => by simp [create, BudgetCall.ownAt]
  parent := by simp [create, BudgetCall.transit]
  returns := fun _ hr => absurd hr List.not_mem_nil

end Budgets

/-- Whatever the threads do, the parent's usage is that of its children, what is
held of the parent itself and what calls under way have charged to it alone; no
level passes its limit; a reserve that fails has charged nothing; and when all is
given back nothing is left. -/
theorem memory_budget_conservation [Fintype ι] [Fintype τ] {limit : Option ι → Nat}
    {actions : List (Budgets.Action ι τ)} {b : Budgets ι τ}
    (hrun : runSteps Budgets.step (.create limit) actions = some b) :
    (b.root.currentBytes = ∑ i, (b.child i).currentBytes + b.held none +
        ∑ t, BudgetCall.transit (b.call t)) ∧
      (∀ l, (b.level l).currentBytes < 2 ^ 64 ∧
        (limit l ≠ 0 → (b.level l).currentBytes ≤ limit l)) ∧
      (∀ r ∈ b.returns, (r.reserves = true → r.ret ≠ .ok → r.own = 0 ∧ r.up = 0) ∧
        (r.reserves = false → r.ret = .ok)) ∧
      ((∀ t, b.call t = none) → (∀ l, b.held l = 0) → ∀ l, (b.level l).currentBytes = 0) := by
  obtain ⟨h, hlimits⟩ := @runSteps_invariant _ _ Budgets.step
    (fun b => b.Ok ∧ ∀ l, (b.level l).limitBytes = limit l)
    (fun _ _ _ h hstep => ⟨(h.1.step hstep).1, fun l => ((h.1.step hstep).2 l).trans (h.2 l)⟩)
    _ _ _ ⟨Budgets.create_ok limit, fun l => by cases l <;> rfl⟩ hrun
  refine ⟨h.parent, fun l => ⟨?_, fun hne => ?_⟩, fun r hr => ⟨fun _ => (h.returns r hr).2,
    (h.returns r hr).1⟩, fun hidle hheld => ?_⟩
  · have hmax := (h.fits l).1
    simp only [budgetMax] at hmax
    omega
  · rw [← hlimits l] at hne ⊢
    exact (h.fits l).2 hne
  · have hchildren : ∀ i, (b.child i).currentBytes = 0 := by
      intro i
      rw [h.children i, hheld]
      simp [hidle, BudgetCall.ownAt]
    intro l
    cases l with
    | none =>
      rw [Budgets.level, h.parent]
      simp [hchildren, hheld, hidle, BudgetCall.transit]
    | some i => exact hchildren i

/-- A child with a limit of four bytes under a parent with six.  One thread
reserves two bytes of the child, another asks for three and is turned away. -/
def tightRun : List (Budgets.Action (Fin 1) (Fin 2)) :=
  [.reserve 0 (some 0) 2, .advance 0 false, .advance 0 false, .advance 0 false,
    .advance 0 false, .advance 0 false, .advance 0 false, .advance 0 false, .advance 0 false,
    .reserve 1 (some 0) 3, .advance 1 false, .advance 1 false, .advance 1 false,
    .advance 1 false, .advance 1 false, .advance 1 false, .advance 1 false, .advance 1 false]

theorem memory_budget_conservation_tight : ∃ b : Budgets (Fin 1) (Fin 2),
    runSteps Budgets.step (.create fun l => if l = none then 6 else 4) tightRun = some b ∧
      b.root.currentBytes = 2 ∧ b.returns.map BudgetReturn.ret = [.ok, .again] ∧
      b.root.currentBytes = ∑ i, (b.child i).currentBytes + b.held none +
        ∑ t, BudgetCall.transit (b.call t) := by
  refine exists_of_map (f := fun b => (b.root.currentBytes, b.returns.map BudgetReturn.ret))
    (y := (2, [.ok, .again])) (by decide) fun b hb heq => ?_
  obtain ⟨hbytes, hrets⟩ := Prod.mk.inj heq
  exact ⟨hbytes, hrets, (memory_budget_conservation hb).1⟩

end Trpc
