import Trpc.Lib.Runs
import Trpc.Status

/-!
# Transforming a message

`transform.c`: one operation that is prepared, run once and finished, while any number of
threads may cancel it.  A step has at most one access to the atomic state word; what the run
does on its own between two of them is one step.

A call of `tr_message_transform_cancel` is a number of accesses, a load and then exchanges, and
so is the entry of the run.  What an access does depends on the word alone, except that an
exchange may fail and then is a load.  `exchange` says whether it succeeds if the word allows
it.  The run calls cancel for its own checks like any thread does.

The codec is a parameter, which ends with any outcome.  So are the allocations, the release of
the input message and what else the budget is charged with (`others`).  The fields from `told`
on are history: whether a cancel returned OK, how often the work was started, what the run
computed, what finish reported and whether it gave out a message.
-/

namespace Trpc

open Lib Option

/-- `enum tr_message_transform_outcome`. -/
inductive TransformOutcome
  | ok
  | cancelled
  | limit
  | nomem
  | badData
  | internal
  deriving DecidableEq, Repr

/-- The state word without its cancel bit. -/
inductive TransformBase
  | ready
  | running
  | done
  deriving DecidableEq, Repr

/-- Where the run is: before it, at its first check, in the codec, after the work, at its last
check, at its commit, in the clean-up of a commit that failed, or at its end. -/
inductive RunPc
  | idle
  | checking
  | coding
  | settling (outcome : TransformOutcome)
  | closing
  | committing
  | revoking
  | returned

/-- How far the run is. -/
def RunPc.stage : RunPc → Nat
  | .idle => 0
  | .checking => 1
  | .coding => 2
  | .settling _ => 3
  | .closing | .committing => 4
  | .revoking => 5
  | .returned => 6

/-- `struct tr_message_transform` with its budget, its input and the message it gives out. -/
structure Transform where
  operationSize : Nat
  outputSize : Nat
  workspaceSize : Nat
  limit : Nat
  used : Nat
  others : Nat
  input : Bool := true
  live : Bool := false
  base : TransformBase := .ready
  cancel : Bool := false
  capacity : Nat := 0
  workspace : Bool := false
  reserved : Bool := false
  output : Bool := false
  outcome : TransformOutcome := .ok
  pc : RunPc := .idle
  message : Bool := false
  told : Bool := false
  coded : Nat := 0
  computed : Option TransformOutcome := none
  finished : Option TransformOutcome := none
  published : Bool := false

namespace Transform

variable {t t' : Transform} {k : Nat}

/-- `tr_memory_budget_release`. -/
def giveBack (used bytes : Nat) : Bool × Nat :=
  if bytes ≤ used then (true, used - bytes) else (false, used)

/-- What the storage reserves.  An empty message has one byte too. -/
def storage (t : Transform) : Nat :=
  if t.capacity ≠ 0 then t.capacity else 1

/-- `tr_message_transform_prepare`, with the answers of the plan and of the allocations. -/
def prepare (t : Transform) (plan : Option Nat) (allocated : Bool) : Status × Transform :=
  match plan with
  | none => (.errInvalid, t)
  | some capacity =>
    let reservation := t.operationSize + t.outputSize + t.workspaceSize
    let size := if capacity ≠ 0 then capacity else 1
    if t.limit < t.used + reservation then (.again, t)
    else
      let used := t.used + reservation
      if allocated = false then (.errNomem, { t with used := (giveBack used reservation).2 })
      else if t.limit < used + size then (.again, { t with used := (giveBack used reservation).2 })
      else if t.input = false then
        (.errState, { t with used := (giveBack (giveBack (used + size) size).2 reservation).2 })
      else (.ok, { t with
        used := used + size
        input := false
        live := true
        capacity := capacity
        workspace := true
        reserved := true })

/-- An access of `tr_message_transform_cancel`. -/
def cancelAccess (t : Transform) (exchange : Bool) : Transform :=
  if t.base = .done then t
  else if t.cancel then { t with told := true }
  else if exchange then { t with cancel := true, told := true }
  else t

/-- The output goes: `tr_transform_output_release`, and then its payload. -/
def dropOutput (t : Transform) : Transform :=
  if t.output then
    { t with output := false, used := (giveBack (giveBack t.used t.outputSize).2 t.storage).2 }
  else t

/-- Finish takes the output of an operation that went well, and drops any other. -/
def takeOutput (t : Transform) : Transform :=
  if t.outcome = .ok then { t with output := false, message := t.output } else t.dropOutput

/-- What the run does after the work: `tr_transform_output_discard`, the workspace, the input. -/
def settle (t : Transform) (outcome : TransformOutcome) (released : Bool) : Transform :=
  let first := if t.reserved then giveBack t.used t.storage else (true, t.used)
  let second := if t.reserved then giveBack first.2 t.outputSize else (true, first.2)
  let third := giveBack second.2 t.workspaceSize
  let outcome := if first.1 && second.1 && third.1 && released then outcome else .internal
  { t with
    reserved := false
    workspace := false
    used := third.2
    computed := some outcome
    pc := .closing }

inductive Action
  | prepare (plan : Option Nat) (allocated : Bool)
  | others (bytes : Nat)
  | enter (exchange : Bool)
  | check
  | codecFail (outcome : TransformOutcome)
  | codecBuilt (length : Nat)
  | settle (released : Bool)
  | close
  | commit
  | revoke
  | cancel (exchange : Bool)
  | finish
  | drop

/-- A step of the run, by where it is. -/
def runStep (t : Transform) : RunPc → Action → Option Transform
  | .idle, .enter exchange =>
    if t.live ∧ t.base = .ready ∧ exchange then some { t with base := .running, pc := .checking }
    else none
  | .checking, .check =>
    if t.cancel then some { t with pc := .settling .cancelled }
    else some { t with pc := .coding, coded := t.coded + 1 }
  | .coding, .codecFail outcome =>
    if outcome = .ok then none else some { t with pc := .settling outcome }
  | .coding, .codecBuilt length =>
    -- Only `tr_message_storage_publish` looks at the length.
    if length ≤ t.storage then
      some { t with reserved := false, output := true, pc := .settling .ok }
    else some { t with pc := .settling .internal }
  | .settling outcome, .settle released => some (t.settle outcome released)
  | .closing, .close => some { t with pc := .committing, outcome := t.computed.getD .ok }
  | .committing, .commit =>
    if t.cancel then some { t with pc := .revoking }
    else some { t with base := .done, pc := .returned }
  | .revoking, .revoke => some { t.dropOutput with
      base := .done
      cancel := false
      outcome := .cancelled
      pc := .returned }
  | _, _ => none

def step (t : Transform) : Action → Option Transform
  | .prepare plan allocated =>
    if t.live || t.finished.isSome then none else some (t.prepare plan allocated).2
  | .others bytes =>
    if t.used - t.others + bytes ≤ t.limit then
      some { t with used := t.used - t.others + bytes, others := bytes }
    else none
  | .cancel exchange => if t.live then some (t.cancelAccess exchange) else none
  | .finish =>
    if t.live = false then none
    else if t.base ≠ .done then some t
    else some { t.takeOutput with
      live := false
      used := (giveBack t.takeOutput.used t.operationSize).2
      finished := some t.outcome
      published := t.takeOutput.message }
  | .drop =>
    if t.message then
      some { t with
        message := false
        used := (giveBack (giveBack t.used t.outputSize).2 t.storage).2 }
    else none
  | action => t.runStep t.pc action

/-! ## The invariant -/

/-- What the operation and its output are charged with. -/
def charge (t : Transform) : Nat :=
  (if t.live then t.operationSize else 0) + (if t.workspace then t.workspaceSize else 0) +
    (if t.reserved || t.output || t.message then t.outputSize + t.storage else 0)

/-- What holds at the stage `k` of the run. -/
structure Core (t : Transform) (k : Nat) : Prop where
  ledger : t.used = t.others + t.charge
  base : t.base = if k = 0 then .ready else if k = 6 then .done else .running
  bit : t.cancel = (t.told && decide (k ≠ 6))
  dead : t.live = false → t.output = false ∧ t.reserved = false ∧
    (k = 0 ∧ t.finished = none ∧ t.message = false ∨ k = 6 ∧ t.finished.isSome)
  alive : t.live = true → t.finished = none ∧ t.message = false
  workspace : t.workspace = (t.live && decide (k ≤ 3))
  early : t.live = true → k ≤ 2 → t.reserved = true ∧ t.output = false
  late : 4 ≤ k → t.reserved = false
  computed : k = 4 ∨ k = 5 → ∃ c, t.computed = some c ∧ (c = .ok → t.output = true)
  revoking : k = 5 → t.told = true
  cancelled : k = 6 → t.told = true → t.outcome = .cancelled ∧ t.output = false
  kept : k = 6 → t.told = false → t.computed = some t.outcome
  output : k = 6 → t.live = true → t.outcome = .ok → t.output = true
  finished : ∀ o, t.finished = some o → t.outcome = o ∧ (t.published = true ↔ o = .ok)
  coded : t.coded ≤ 1 ∧ (k ≤ 1 → t.coded = 0)

structure Ok (t : Transform) : Prop where
  core : t.Core t.pc.stage
  settling : ∀ o, t.pc = .settling o → (o = .ok ↔ t.output = true) ∧ t.reserved = !t.output
  committing : t.pc = .committing → t.computed = some t.outcome

theorem Core.live (h : t.Core k) (hk : k ≠ 0) (hdone : k ≠ 6) : t.live = true := by
  by_contra hdead
  rcases (h.dead (by simpa using hdead)).2.2 with hcase | hcase
  · exact hk hcase.1
  · exact hdone hcase.1

/-- A place of the run of which only the stage matters. -/
theorem Core.ok (h : t.Core t.pc.stage) (hsettling : ∀ o, t.pc ≠ .settling o)
    (hcommitting : t.pc ≠ .committing) : t.Ok :=
  ⟨h, fun o ho => absurd ho (hsettling o), fun hc => absurd hc hcommitting⟩

theorem giveBack_of_le {used bytes : Nat} (h : bytes ≤ used) :
    giveBack used bytes = (true, used - bytes) :=
  if_pos h

/-! ## Steps -/

theorem Core.prepare (h : t.Core 0) (hlive : t.live = false) (plan : Option Nat)
    (allocated : Bool) : (t.prepare plan allocated).2.Core 0 ∧
      ((t.prepare plan allocated).1 ≠ .ok → (t.prepare plan allocated).2 = t) := by
  have hback : ∀ n, giveBack (t.used + n) n = (true, t.used) := fun n => by simp [giveBack]
  have hagain : ∀ n m, giveBack (t.used + n + m) m = (true, t.used + n) :=
    fun n m => by simp [giveBack]
  unfold Transform.prepare
  dsimp only
  simp only [hback, hagain]
  split
  · exact ⟨h, fun _ => rfl⟩
  next capacity =>
    generalize hsize : (if capacity ≠ 0 then capacity else 1) = size
    split_ifs
    iterate 4 · exact ⟨h, fun _ => rfl⟩
    · refine ⟨?_, fun hne => absurd rfl hne⟩
      constructor <;> grind -linarith [Core, charge, storage]

theorem prepare_pc (t : Transform) (plan : Option Nat) (allocated : Bool) :
    (t.prepare plan allocated).2.pc = t.pc := by
  unfold Transform.prepare
  cases plan with
  | none => rfl
  | some capacity =>
    dsimp only
    split_ifs <;> rfl

theorem Ok.cancel (h : t.Ok) (hlive : t.live = true) (exchange : Bool) :
    (t.cancelAccess exchange).Ok := by
  have hcore := h.core
  unfold cancelAccess
  split
  · exact h
  next hdone =>
  have hnot : t.pc.stage ≠ 6 := fun hsix => hdone (by rw [hcore.base, hsix]; rfl)
  generalize hk : t.pc.stage = k at hcore hnot
  split
  · refine ⟨hk ▸ ?_, h.settling, h.committing⟩
    constructor <;> grind -linarith [Core, charge, storage]
  split
  · refine ⟨hk ▸ ?_, h.settling, h.committing⟩
    constructor <;> grind -linarith [Core, charge, storage]
  · exact h

/-- The work ends, with an output or without. -/
theorem Core.end (h : t.Core k) (hk : k = 1 ∨ k = 2) {output : Bool} {outcome : TransformOutcome}
    (hone : outcome = .ok ↔ output = true) :
    Ok { t with reserved := !output, output := output, pc := .settling outcome } where
  core := by
    have hlive : t.live = true := h.live (by omega) (by omega)
    show Core _ 3
    rcases hk with rfl | rfl <;> constructor <;> grind -linarith [Core, charge, storage]
  settling := fun o ho => by
    obtain rfl := RunPc.settling.inj ho
    exact ⟨hone, rfl⟩
  committing := nofun

/-- No release of the run fails. -/
theorem Core.settle_eq (h : t.Core 3) (hout : t.reserved = !t.output) (outcome : TransformOutcome)
    (released : Bool) : t.settle outcome released = { t with
      reserved := false
      workspace := false
      used := t.others + t.operationSize + if t.output then t.outputSize + t.storage else 0
      computed := some (if released then outcome else .internal)
      pc := .closing } := by
  have hlive := h.live (by decide) (by decide)
  have hworkspace : t.workspace = true := by rw [h.workspace, hlive]; rfl
  have hledger : t.used = t.others + (t.operationSize + t.workspaceSize +
      (t.outputSize + t.storage)) := by
    rw [h.ledger]
    simp [charge, hlive, hworkspace, hout]
  cases ho : t.output with
  | true =>
    have hreserved : t.reserved = false := by rw [hout, ho]; rfl
    have hused : t.used - t.workspaceSize =
        t.others + t.operationSize + (t.outputSize + t.storage) := by omega
    simp only [Transform.settle, hreserved, Bool.false_eq_true, if_false,
      giveBack_of_le (show t.workspaceSize ≤ t.used by omega), hused]
    cases released <;> simp [ho]
  | false =>
    have hreserved : t.reserved = true := by rw [hout, ho]; rfl
    have hused : t.used - t.storage - t.outputSize - t.workspaceSize =
        t.others + t.operationSize := by omega
    simp only [Transform.settle, hreserved, if_true,
      giveBack_of_le (show t.storage ≤ t.used by omega),
      giveBack_of_le (show t.outputSize ≤ t.used - t.storage by omega),
      giveBack_of_le (show t.workspaceSize ≤ t.used - t.storage - t.outputSize by omega), hused]
    cases released <;> simp [ho]

theorem Core.affords (h : t.Core k) (hout : t.output = true ∨ t.message = true) :
    t.outputSize + t.storage + (if t.live then t.operationSize else 0) ≤ t.used := by
  have hledger := h.ledger
  have hor : (t.reserved || t.output || t.message) = true := by
    rcases hout with hout | hout <;> simp [hout]
  rw [charge, hor, if_pos rfl] at hledger
  omega

theorem Core.dropOutput_eq (h : t.Core k) : t.dropOutput = { t with
    output := false
    used := t.used - if t.output then t.outputSize + t.storage else 0 } := by
  unfold dropOutput
  cases ho : t.output with
  | false =>
    rw [if_neg Bool.false_ne_true, if_neg Bool.false_ne_true, Nat.sub_zero]
    obtain ⟨⟩ := t
    cases ho
    rfl
  | true =>
    have hle := h.affords (.inl ho)
    simp only [if_true, giveBack_of_le (show t.outputSize ≤ t.used by omega),
      giveBack_of_le (show t.storage ≤ t.used - t.outputSize by omega), Nat.sub_sub]

theorem Core.fail (h : t.Core k) (hk : k = 1 ∨ k = 2) {outcome : TransformOutcome}
    (hne : outcome ≠ .ok) : Ok { t with pc := .settling outcome } := by
  obtain ⟨hreserved, houtput⟩ := h.early (h.live (by omega) (by omega)) (by omega)
  have hend := @Core.end _ _ h hk false outcome (by simp [hne])
  rwa [show (!false) = t.reserved from hreserved.symm, ← houtput] at hend

theorem Core.enter (h : t.Core 0) (hlive : t.live = true) :
    Core { t with base := .running, pc := .checking } 1 := by
  constructor <;> grind -linarith [Core, charge, storage]

theorem Core.code (h : t.Core 1) : Core { t with pc := .coding, coded := t.coded + 1 } 2 := by
  constructor <;> grind -linarith [Core, charge, storage]

theorem Core.settle (h : t.Core 3) {outcome : TransformOutcome}
    (hout : (outcome = .ok ↔ t.output = true) ∧ t.reserved = !t.output) (released : Bool) :
    (t.settle outcome released).Core 4 := by
  have hlive := h.live nofun nofun
  rw [h.settle_eq hout.2]
  constructor <;> grind -linarith [Core, charge, storage]

theorem Core.close (h : t.Core 4) (outcome : TransformOutcome) :
    Core { t with pc := .committing, outcome := outcome } 4 := by
  have hlive := h.live nofun nofun
  constructor <;> grind -linarith [Core, charge, storage]

theorem Core.commit (h : t.Core 4) (hcommit : t.computed = some t.outcome)
    (hbit : t.cancel = false) : Core { t with base := .done, pc := .returned } 6 := by
  constructor <;> grind -linarith [Core, charge, storage]

theorem Core.refuse (h : t.Core 4) (hbit : t.cancel = true) :
    Core { t with pc := .revoking } 5 := by
  constructor <;> grind -linarith [Core, charge, storage]

theorem Core.revoke (h : t.Core 5) : Core { t.dropOutput with
    base := .done
    cancel := false
    outcome := .cancelled
    pc := .returned } 6 := by
  have hlive := h.live nofun nofun
  rw [h.dropOutput_eq]
  constructor <;> grind -linarith [Core, charge, storage]

theorem Ok.run (h : t.Ok) {action : Action} (hstep : t.runStep t.pc action = some t') :
    t'.Ok := by
  have hcore := h.core
  generalize hpc : t.pc = pc at hstep hcore
  unfold runStep at hstep
  split at hstep
  · obtain ⟨hgo, ⟨⟩⟩ := ite_none_right_eq_some.1 hstep
    exact (hcore.enter hgo.1).ok nofun nofun
  · split at hstep <;> cases hstep
    · exact hcore.fail (.inl rfl) nofun
    · exact hcore.code.ok nofun nofun
  · obtain ⟨hne, ⟨⟩⟩ := ite_none_left_eq_some.1 hstep
    exact hcore.fail (.inr rfl) hne
  · split at hstep <;> cases hstep
    · exact @Core.end _ _ hcore (.inr rfl) true .ok (by simp)
    · exact hcore.fail (.inr rfl) nofun
  next outcome released =>
    cases hstep
    exact (hcore.settle (h.settling outcome hpc) released).ok nofun nofun
  · cases hstep
    obtain ⟨c, hc, -⟩ := hcore.computed (.inl rfl)
    exact ⟨hcore.close _, nofun, fun _ => by simp [hc]⟩
  · by_cases hbit : t.cancel = true
    · rw [if_pos hbit] at hstep
      exact some.inj hstep ▸ (hcore.refuse hbit).ok nofun nofun
    · rw [if_neg hbit] at hstep
      have hcommit := hcore.commit (h.committing hpc) (Bool.eq_false_iff.2 hbit)
      exact some.inj hstep ▸ hcommit.ok nofun nofun
  · cases hstep
    exact hcore.revoke.ok nofun nofun
  · cases hstep

theorem Core.finish (h : t.Core 6) (hlive : t.live = true) : Core { t.takeOutput with
      live := false
      used := (giveBack t.takeOutput.used t.operationSize).2
      finished := some t.outcome
      published := t.takeOutput.message } 6 := by
  have hmessage := (h.alive hlive).2
  have hworkspace : t.workspace = false := by rw [h.workspace, hlive]; rfl
  have hledger : t.used = t.others + (t.operationSize +
      if t.output then t.outputSize + t.storage else 0) := by
    rw [h.ledger]
    simp [charge, hlive, hworkspace, h.late (by decide), hmessage]
  unfold takeOutput
  split
  next hok =>
    rw [h.output rfl hlive hok, if_pos rfl] at hledger
    dsimp only
    rw [giveBack_of_le (by omega)]
    constructor <;> grind -linarith [Core, charge, storage]
  next hok =>
    rw [h.dropOutput_eq]
    dsimp only
    rw [giveBack_of_le (by rw [hledger]; omega)]
    constructor <;> grind -linarith [Core, charge, storage]

theorem Core.drop (h : t.Core k) (hmessage : t.message = true) : Core { t with
    message := false
    used := (giveBack (giveBack t.used t.outputSize).2 t.storage).2 } k := by
  have hle := h.affords (.inr hmessage)
  rw [giveBack_of_le (show t.outputSize ≤ t.used by omega),
    giveBack_of_le (show t.storage ≤ t.used - t.outputSize by omega)]
  constructor <;> grind -linarith [Core, charge, storage]

theorem RunPc.eq_returned {pc : RunPc} (h : pc.stage = 6) : pc = .returned := by
  cases pc with
  | returned => rfl
  | _ => cases h

theorem takeOutput_pc (t : Transform) : t.takeOutput.pc = t.pc := by
  unfold takeOutput dropOutput
  split_ifs <;> rfl

theorem Ok.step (h : t.Ok) {action : Action} (hstep : t.step action = some t') : t'.Ok := by
  have hcore := h.core
  unfold Transform.step at hstep
  split at hstep
  next plan allocated =>
    obtain ⟨hnew, ⟨⟩⟩ := ite_none_left_eq_some.1 hstep
    obtain ⟨hlive, hnone⟩ := Bool.or_eq_false_iff.1 (Bool.eq_false_iff.2 hnew)
    have hidle : t.pc = .idle := by
      rcases (hcore.dead hlive).2.2 with hcase | hcase
      · cases hpc : t.pc <;> rw [hpc] at hcase <;> first | rfl | cases hcase.1
      · rw [hnone] at hcase
        cases hcase.2
    rw [hidle] at hcore
    have hpc := (t.prepare_pc plan allocated).trans hidle
    refine Core.ok ?_ (fun o ho => ?_) fun hc => ?_
    · rw [hpc]
      exact (hcore.prepare hlive plan allocated).1
    · rw [hpc] at ho
      cases ho
    · rw [hpc] at hc
      cases hc
  next bytes =>
    obtain ⟨-, ⟨⟩⟩ := ite_none_right_eq_some.1 hstep
    have hledger := hcore.ledger
    refine { h with core := { hcore with ledger := ?_ } }
    show t.used - t.others + bytes = bytes + t.charge
    omega
  next exchange =>
    obtain ⟨hlive, hstep⟩ := ite_none_right_eq_some.1 hstep
    exact some.inj hstep ▸ h.cancel hlive exchange
  next =>
    obtain ⟨hlive, hstep⟩ := ite_none_left_eq_some.1 hstep
    by_cases hdone : t.base = .done
    · rw [if_neg (not_not.2 hdone)] at hstep
      cases hstep
      have hsix : t.pc.stage = 6 := by
        by_contra hne
        have hbase := hcore.base
        rw [hdone, if_neg hne] at hbase
        split at hbase <;> cases hbase
      have hpc := t.takeOutput_pc.trans (RunPc.eq_returned hsix)
      rw [hsix] at hcore
      have hfinish := hcore.finish (Bool.eq_true_of_not_eq_false hlive)
      rw [show (6 : Nat) = t.takeOutput.pc.stage by rw [hpc]; rfl] at hfinish
      refine Core.ok hfinish (fun o ho => ?_) fun hc => ?_
      · cases hpc.symm.trans ho
      · cases hpc.symm.trans hc
    · rw [if_pos hdone] at hstep
      exact some.inj hstep ▸ h
  next =>
    obtain ⟨hmessage, ⟨⟩⟩ := ite_none_right_eq_some.1 hstep
    exact { h with core := hcore.drop hmessage }
  next => exact h.run hstep

/-! ## Runs -/

/-- A budget with the input message at hand. -/
def create (operationSize outputSize workspaceSize limit others : Nat) : Transform where
  operationSize := operationSize
  outputSize := outputSize
  workspaceSize := workspaceSize
  limit := limit
  used := others
  others := others

theorem create_ok (operationSize outputSize workspaceSize limit others : Nat) :
    (create operationSize outputSize workspaceSize limit others).Ok := by
  refine Core.ok ?_ nofun nofun
  constructor <;> simp [create, charge, RunPc.stage]

/-- What holds of the operation after any run. -/
structure Settled (t : Transform) : Prop where
  once : t.coded ≤ 1
  /-- A cancel that returned OK wins, and otherwise the outcome is the one of the run. -/
  cancelled : ∀ o, t.finished = some o → t.told = true → o = .cancelled
  computed : ∀ o, t.finished = some o → t.told = false → t.computed = some o
  output : ∀ o, t.finished = some o → (t.published = true ↔ o = .ok)
  unfinished : t.finished = none → t.message = false
  /-- After finish only the message that was given out is charged. -/
  charge : t.finished.isSome = true →
    t.used = t.others + if t.message then t.outputSize + t.storage else 0
  prepare : t.live = false → t.finished = none → ∀ plan allocated,
    (t.prepare plan allocated).1 ≠ .ok → (t.prepare plan allocated).2 = t

/-- An operation that is not there was not prepared yet or is finished. -/
theorem Core.gone (h : t.Core k) (hlive : t.live = false) :
    k = 0 ∧ t.finished = none ∧ t.message = false ∨ k = 6 ∧ ∃ o, t.finished = some o :=
  (h.dead hlive).2.2.imp_right fun hcase => ⟨hcase.1, isSome_iff_exists.1 hcase.2⟩

theorem Ok.settled (h : t.Ok) : t.Settled := by
  have hcore := h.core
  have hdead : ∀ o, t.finished = some o → t.live = false ∧ t.pc.stage = 6 := fun o ho => by
    cases hlive : t.live with
    | true => cases ho.symm.trans (hcore.alive hlive).1
    | false =>
      rcases hcore.gone hlive with hcase | hcase
      · cases ho.symm.trans hcase.2.1
      · exact ⟨rfl, hcase.1⟩
  exact {
    once := hcore.coded.1
    cancelled := fun o ho htold => by
      rw [← (hcore.finished o ho).1]
      exact (hcore.cancelled (hdead o ho).2 htold).1
    computed := fun o ho htold => by
      rw [← (hcore.finished o ho).1]
      exact hcore.kept (hdead o ho).2 htold
    output := fun o ho => (hcore.finished o ho).2
    unfinished := fun hnone => by
      cases hlive : t.live with
      | true => exact (hcore.alive hlive).2
      | false =>
        rcases hcore.gone hlive with hcase | ⟨-, o, ho⟩
        · exact hcase.2.2
        · cases hnone.symm.trans ho
    charge := fun hsome => by
      obtain ⟨o, ho⟩ := isSome_iff_exists.1 hsome
      obtain ⟨houtput, hreserved, -⟩ := hcore.dead (hdead o ho).1
      rw [hcore.ledger, Transform.charge, hcore.workspace, (hdead o ho).1, hreserved, houtput]
      simp
    prepare := fun hlive hnone plan allocated => by
      rcases hcore.gone hlive with hcase | ⟨-, o, ho⟩
      · rw [hcase.1] at hcore
        exact (hcore.prepare hlive plan allocated).2
      · cases hnone.symm.trans ho }

end Transform

/-- After every interleaving of cancels with the run and the finish of an operation, its outcome,
its output and the budget agree. -/
theorem transform_settles (operationSize outputSize workspaceSize limit others : Nat)
    (actions : List Transform.Action) (t : Transform)
    (hrun : runSteps Transform.step
      (.create operationSize outputSize workspaceSize limit others) actions = some t) :
    t.Settled :=
  (runSteps_invariant (fun _ _ _ h hstep => h.step hstep)
    (Transform.create_ok operationSize outputSize workspaceSize limit others) hrun : t.Ok).settled

/-- An output is given out and dropped, after a plan that failed; and a cancel overtakes a run
that has built its output.  Everything is given back. -/
theorem transform_settles_overtaken :
    (∃ t : Transform, runSteps Transform.step (.create 10 20 30 200 5)
        [.prepare none true, .prepare (some 40) true, .enter true, .check, .codecBuilt 25,
          .settle true, .close, .commit, .finish, .drop] = some t ∧
      (t.finished, t.told, t.published, t.used) = (some .ok, false, true, 5) ∧ t.Settled) ∧
    ∃ t : Transform, runSteps Transform.step (.create 10 20 30 200 5)
        [.prepare (some 40) true, .enter true, .check, .cancel false, .codecBuilt 25,
          .settle true, .close, .cancel true, .commit, .revoke, .finish] = some t ∧
      (t.finished, t.told, t.published, t.used) = (some .cancelled, true, false, 5) ∧
      t.Settled := by
  constructor <;>
    exact exists_of_map (f := fun t => (t.finished, t.told, t.published, t.used))
      (by decide) fun t ht hfields => ⟨hfields, transform_settles 10 20 30 200 5 _ t ht⟩

end Trpc
