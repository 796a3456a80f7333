import Trpc.Lib.Runs
import Trpc.Rpc.Metadata

/-!
# The mailbox of a producer

`rpc_record_producer.c`: application threads hand the messages of a call to the owner
thread through a mailbox of one slot.  A submission takes the slot (`building`), is
built outside the lock and published; the owner borrows the command, sends it and
completes it.  Close, failure and release may fall between any two of these.

Every locked section of the source is one function here and one step of
`producerStep`.  What happens between two sections of one thread is part of its call
(`ProducerCall`) or of the owner (`OwnerState`).

`Mailbox` adds the calls under way, the owner, and the history: what was asked for,
what was published and what was completed as accepted, and what became of each body.
-/

namespace Trpc

open Lib List Option

/-! ## The locked sections -/

/-- `struct tr_producer_body`; every allocation has a number of its own. -/
structure ProducerBody where
  id : Nat
  data : List UInt8
  deriving DecidableEq, Repr

/-- `struct tr_rpc_record_producer_command`. -/
structure ProducerCommand where
  kind : RpcRecordKind
  status : UInt32
  body : Option ProducerBody
  metadata : List UInt8
  deriving DecidableEq, Repr

/-- `struct tr_rpc_v2_producer`.  The kind 0 is `none`, and `metadata` holds the first
`metadata_size` bytes. -/
structure Producer where
  refs : Nat
  appRefs : Nat
  maxMessage : Nat
  abandoned : Bool := false
  body : Option ProducerBody := none
  kind : Option RpcRecordKind := none
  status : UInt32 := 0
  metadata : List UInt8 := []
  active : Bool := false
  closed : Bool := false
  finished : Bool := false
  initialClosed : Bool
  building : Bool := false
  inSend : Bool := false
  deriving DecidableEq, Repr

namespace Producer

/-- The command in the slot. -/
def command (p : Producer) : Option ProducerCommand :=
  p.kind.map fun kind => ⟨kind, p.status, p.body, p.metadata⟩

/-- `tr_rpc_record_producer_create`. -/
def create (maxMessage : Nat) (headersSent : Bool) : Producer where
  refs := 2
  appRefs := 1
  maxMessage := maxMessage
  initialClosed := headersSent

/-- `tr_producer_writable`. -/
def writable (p : Producer) : Status :=
  if p.closed then .errClosed
  else if p.finished then .errState
  else if p.kind.isSome ∨ p.building ∨ p.inSend then .again
  else .ok

/-- `tr_producer_begin`. -/
def begin (p : Producer) (initial : Bool) : Status × Producer :=
  let ret := p.writable
  let ret := if ret = .ok ∧ initial ∧ p.initialClosed then .errState else ret
  if ret = .ok then (ret, { p with building := true }) else (ret, p)

/-- `tr_producer_publish`: the result, the producer, and the body that is released. -/
def publish (p : Producer) (command : ProducerCommand) (result : Status) :
    Status × Producer × Option ProducerBody :=
  let result := if p.closed then .errClosed else result
  if result = .ok then
    (result, { p with
      kind := some command.kind
      body := command.body
      metadata := command.metadata
      status := command.status
      finished := if command.kind = .finalStatus then true else p.finished
      initialClosed := if command.kind = .finalStatus then p.initialClosed else true
      building := false }, none)
  else (result, { p with building := false }, command.body)

/-- `tr_rpc_v2_producer_retain`. -/
def retain (p : Producer) : Producer :=
  if p.refs = 0 ∨ 2 ^ 32 - 2 ≤ p.refs then p
  else { p with refs := p.refs + 1, appRefs := p.appRefs + 1 }

/-- `tr_rpc_v2_producer_release`. -/
def release (p : Producer) : Producer :=
  { p with
    appRefs := p.appRefs - 1
    abandoned := if p.appRefs - 1 = 0 ∧ ¬ p.finished ∧ ¬ p.closed then true else p.abandoned
    refs := p.refs - 1 }

/-- `tr_rpc_record_producer_put`. -/
def put (p : Producer) : Producer :=
  { p with refs := p.refs - 1 }

/-- `tr_rpc_record_producer_activate`. -/
def activate (p : Producer) : Producer :=
  if p.closed then p else { p with active := true }

/-- `tr_rpc_record_producer_take`.  The lock may be busy. -/
def take (p : Producer) (busy : Bool) : Except Status (ProducerCommand × Producer) :=
  if busy then .error .again
  else if p.closed then .error .errClosed
  else match p.kind with
    | none => .error .again
    | some kind =>
      if ¬ p.active ∨ p.building ∨ p.inSend then .error .again
      else .ok (⟨kind, p.status, p.body, p.metadata⟩, { p with inSend := true })

/-- `tr_rpc_record_producer_complete`. -/
def complete (p : Producer) (accepted : Bool) : Producer :=
  if accepted then { p with body := none, kind := none, metadata := [], inSend := false }
  else { p with inSend := false }

/-- `tr_rpc_record_producer_fail`: the status, the producer, and the released body. -/
def fail (p : Producer) (status : UInt32) : Status × Producer × Option ProducerBody :=
  if status = rpcStatusOk ∨ rpcStatusCount ≤ status then (.errInvalid, p, none)
  else if p.closed ∨ p.inSend ∨ p.building then
    (if p.closed then .errClosed else .again, p, none)
  else
    (.ok, { p with
      body := none
      metadata := if p.kind = some .finalStatus then p.metadata else []
      kind := some .finalStatus
      status := status
      finished := true }, p.body)

/-- `tr_rpc_record_producer_close`: the status, the producer, and the released body. -/
def close (p : Producer) : Status × Producer × Option ProducerBody :=
  let p := { p with closed := true, active := false }
  if p.inSend then (.again, p, none)
  else (.ok, { p with body := none, kind := none, metadata := [] }, p.body)

end Producer

/-! ## The steps -/

/-- What an application thread asks for. -/
inductive ProducerRequest
  | send (message : List UInt8)
  | initialMetadata (entries : List RpcMetadata)
  | finish (status : UInt32) (trailing : List RpcMetadata)

/-- The check before the slot is taken. -/
def ProducerRequest.allowed (p : Producer) : ProducerRequest → Bool
  | .send message => message.length ≤ p.maxMessage
  | .initialMetadata _ => true
  | .finish status _ => status < rpcStatusCount

def ProducerRequest.isInitial : ProducerRequest → Bool
  | .initialMetadata _ => true
  | _ => false

/-- What `tr_producer_publish` is called with.  `alloc` is the answer of the domain's
budget and of `malloc`, `id` the number of the allocation. -/
def ProducerRequest.build (alloc : Status) (id : Nat) : ProducerRequest → ProducerCommand × Status
  | .send message =>
    (⟨.message, rpcStatusOk, if alloc = .ok then some ⟨id, message⟩ else none, []⟩, alloc)
  | .initialMetadata entries =>
    match metadataEncode entries with
    | .ok bytes => (⟨.initialMetadata, rpcStatusOk, none, bytes⟩, .ok)
    | .error ret => (⟨.initialMetadata, rpcStatusOk, none, []⟩, ret)
  | .finish status trailing =>
    match metadataEncode trailing with
    | .ok bytes => (⟨.finalStatus, status, none, bytes⟩, .ok)
    | .error ret => (⟨.finalStatus, status, none, []⟩, ret)

/-- What the command of a request has to carry. -/
def ProducerRequest.Carries : ProducerRequest → ProducerCommand → Prop
  | .send message, command => command.kind = .message ∧ command.status = rpcStatusOk ∧
      command.body.map ProducerBody.data = some message ∧ command.metadata = []
  | .initialMetadata entries, command => command.kind = .initialMetadata ∧
      command.status = rpcStatusOk ∧ command.body = none ∧
      metadataEncode entries = .ok command.metadata
  | .finish status trailing, command => command.kind = .finalStatus ∧
      command.status = status ∧ command.body = none ∧
      metadataEncode trailing = .ok command.metadata

/-- A submission between its two locked sections. -/
structure ProducerCall where
  thread : Nat
  request : ProducerRequest
  built : Option (ProducerCommand × Status) := none

/-- The bodies that a call holds. -/
def ProducerCall.bodies (call : ProducerCall) : List Nat :=
  match call.built with
  | none => []
  | some (command, _) => (command.body.map ProducerBody.id).toList

/-- The owner in `tr_dispatch_producer_step`.  `sent` holds the kind of the header that
was sent and the answer of the transport; `rejected` follows a send that was not
allowed at this point of the call. -/
inductive OwnerState
  | idle
  | borrowed (command : ProducerCommand)
  | sent (command : ProducerCommand) (header : RpcRecordKind) (ret : Status)
  | rejected

/-- Whether the command itself was sent. -/
def OwnerState.handedOver : OwnerState → Bool
  | .sent command header ret => ret = .ok ∧ header = command.kind
  | _ => false

def OwnerState.command : OwnerState → Option ProducerCommand
  | .borrowed command => some command
  | .sent command _ _ => some command
  | _ => none

/-- A producer with its threads, its owner and its history. -/
structure Mailbox where
  producer : Producer
  calls : List ProducerCall := []
  owner : OwnerState := .idle
  headersSent : Bool
  closedOk : Bool := false
  ownerGone : Bool := false
  nextBody : Nat := 0
  requests : List ProducerRequest := []
  published : List ProducerCommand := []
  accepted : List ProducerCommand := []
  failed : Bool := false
  released : List Nat := []
  handed : List Nat := []

namespace Mailbox

def create (maxMessage : Nat) (headersSent : Bool) : Mailbox where
  producer := .create maxMessage headersSent
  headersSent := headersSent

/-- The body that a section lets go is released. -/
def freeing (m : Mailbox) (body : Option ProducerBody) : Mailbox :=
  { m with released := m.released ++ (body.map ProducerBody.id).toList }

/-- A thread starts a submission.  It holds a reference of its own. -/
def begin (m : Mailbox) (thread : Nat) (request : ProducerRequest) : Option Mailbox :=
  if m.calls.any (·.thread = thread) ∨ m.producer.appRefs ≤ m.calls.length then none
  else if ¬ request.allowed m.producer then some m
  else match m.producer.begin request.isInitial with
    | (.ok, p) =>
      some { m with producer := p, calls := m.calls ++ [⟨thread, request, none⟩] }
    | (_, p) => some { m with producer := p }

/-- A thread builds its command outside the lock. -/
def build (m : Mailbox) (thread : Nat) (alloc : Status) : Option Mailbox :=
  match m.calls.find? (·.thread = thread) with
  | some ⟨_, request, none⟩ =>
    let built := request.build alloc m.nextBody
    some { m with
      calls := m.calls.map fun call =>
        if call.thread = thread then { call with built := some built } else call
      nextBody := if built.1.body.isSome then m.nextBody + 1 else m.nextBody }
  | _ => none

/-- A thread publishes what it has built, and returns. -/
def publish (m : Mailbox) (thread : Nat) : Option Mailbox :=
  match m.calls.find? (·.thread = thread) with
  | some ⟨_, request, some (command, result)⟩ =>
    let (result, p, body) := m.producer.publish command result
    let m := m.freeing body
    some { m with
      producer := p
      calls := m.calls.filter fun call => call.thread ≠ thread
      requests := if result = .ok then m.requests ++ [request] else m.requests
      published := if result = .ok then m.published ++ [command] else m.published }
  | _ => none

/-- The owner tries to borrow the command. -/
def take (m : Mailbox) (busy : Bool) : Option Mailbox :=
  match m.owner with
  | .idle | .rejected =>
    match m.producer.take busy with
    | .error _ => some { m with owner := .idle }
    | .ok (command, p) => some { m with producer := p, owner := .borrowed command }
  | _ => none

/-- The owner sends the borrowed command, or an empty INITIAL before the first message.
A body goes to the transport with the send that takes it. -/
def send (m : Mailbox) (ret : Status) : Option Mailbox :=
  match m.owner with
  | .borrowed command =>
    let header :=
      if command.kind = .message ∧ ¬ m.headersSent then .initialMetadata else command.kind
    let owner := OwnerState.sent command header ret
    some { m with
      owner := owner
      handed := if owner.handedOver then
          m.handed ++ (command.body.map ProducerBody.id).toList
        else m.handed }
  | _ => none

/-- The owner completes the command. -/
def complete (m : Mailbox) : Option Mailbox :=
  match m.owner with
  | .sent command header ret =>
    let accepted := m.owner.handedOver
    some { m with
      producer := m.producer.complete accepted
      accepted := if accepted then m.accepted ++ [command] else m.accepted
      headersSent := if ret = .ok ∧ header = .initialMetadata then true else m.headersSent
      owner := if ret = .errState then .rejected else .idle }
  | _ => none

/-- The owner turns a rejected command into an error FINAL. -/
def fail (m : Mailbox) (status : UInt32) : Option Mailbox :=
  match m.owner with
  | .rejected =>
    let (ret, p, body) := m.producer.fail status
    let m := m.freeing body
    some { m with producer := p, owner := .idle, failed := m.failed || ret = .ok }
  | _ => none

/-- The owner closes the producer; the terminal callback may do so inside a send. -/
def close (m : Mailbox) : Option Mailbox :=
  if m.ownerGone then none
  else
    let (ret, p, body) := m.producer.close
    let m := m.freeing body
    some { m with producer := p, closedOk := m.closedOk || ret = .ok }

/-- The owner returns its reference after a close that succeeded. -/
def put (m : Mailbox) : Option Mailbox :=
  if m.closedOk ∧ ¬ m.ownerGone then
    some { m with producer := m.producer.put, ownerGone := true }
  else none

end Mailbox

/-- What a thread or the owner does next. -/
inductive ProducerAction
  | begin (thread : Nat) (request : ProducerRequest)
  | build (thread : Nat) (alloc : Status)
  | publish (thread : Nat)
  | retain
  | release
  | activate
  | take (busy : Bool)
  | send (ret : Status)
  | complete
  | fail (status : UInt32)
  | close
  | put

/-- One step.  A thread retains and releases while it holds a reference that no call
under way uses; the owner acts until it has returned its own. -/
def producerStep (m : Mailbox) : ProducerAction → Option Mailbox
  | .begin thread request => m.begin thread request
  | .build thread alloc => m.build thread alloc
  | .publish thread => m.publish thread
  | .retain =>
    if m.producer.appRefs ≤ m.calls.length then none
    else some { m with producer := m.producer.retain }
  | .release =>
    if m.producer.appRefs ≤ m.calls.length then none
    else some { m with producer := m.producer.release }
  | .activate =>
    if m.ownerGone then none else some { m with producer := m.producer.activate }
  | .take busy => if m.ownerGone then none else m.take busy
  | .send ret => m.send ret
  | .complete => m.complete
  | .fail status => if m.ownerGone then none else m.fail status
  | .close => m.close
  | .put => m.put

/-! ## What the sections do -/

theorem Producer.begin_cases (p : Producer) (initial : Bool) :
    (p.begin initial).2 = p ∧ (p.begin initial).1 ≠ .ok ∨
      p.begin initial = (.ok, { p with building := true }) ∧ p.closed = false ∧
        p.finished = false ∧ p.kind = none ∧ p.building = false ∧ p.inSend = false ∧
        (initial = true → p.initialClosed = false) := by
  unfold Producer.begin
  dsimp only
  generalize hret : (if p.writable = .ok ∧ initial = true ∧ p.initialClosed = true then
    Status.errState else p.writable) = ret
  by_cases hok : ret = .ok
  · right
    rw [if_pos hok, hok]
    subst hok
    by_cases hseal : p.writable = .ok ∧ initial = true ∧ p.initialClosed = true
    · rw [if_pos hseal] at hret
      cases hret
    rw [if_neg hseal] at hret
    have hinitial : initial = true → p.initialClosed = false := fun hi =>
      Bool.eq_false_iff.mpr fun hc => hseal ⟨hret, hi, hc⟩
    unfold Producer.writable at hret
    obtain ⟨hclosed, hret⟩ := (check_eq (by decide)).mp hret
    obtain ⟨hfinished, hret⟩ := (check_eq (by decide)).mp hret
    obtain ⟨hbusy, _⟩ := (check_eq (by decide)).mp hret
    simp only [not_or, Bool.not_eq_true] at hbusy
    exact ⟨rfl, Bool.eq_false_iff.mpr hclosed, Bool.eq_false_iff.mpr hfinished,
      isSome_eq_false_iff.mp hbusy.1 |> isNone_iff_eq_none.mp, hbusy.2.1, hbusy.2.2, hinitial⟩
  · left
    rw [if_neg hok]
    exact ⟨rfl, hok⟩

/-! ## The invariant -/

/-- The numbers of the bodies that a command carries. -/
def ProducerCommand.bodies (command : ProducerCommand) : List Nat :=
  (command.body.map ProducerBody.id).toList

namespace Mailbox

/-- The bodies that nobody has let go yet: those of the calls, and the one in the slot
unless the transport has it. -/
def owned (m : Mailbox) : List Nat :=
  m.calls.flatMap ProducerCall.bodies ++
    if m.owner.handedOver then [] else (m.producer.body.map ProducerBody.id).toList

/-- The command that the transport has taken and the owner has not yet completed. -/
def taken (m : Mailbox) : List ProducerCommand :=
  if m.owner.handedOver then m.owner.command.toList else []

/-- An error FINAL that nobody submitted. -/
def ErrorFinal (command : ProducerCommand) : Prop :=
  command.kind = .finalStatus ∧ command.status ≠ rpcStatusOk

/-- The invariant; `h` says whether INITIAL had been sent before the producer was
created. -/
structure Ok (h : Bool) (m : Mailbox) : Prop where
  calls : m.calls.length = m.producer.building.toNat
  building_slot : m.producer.building = true →
    m.producer.kind = none ∧ m.producer.inSend = false ∧ m.producer.finished = false
  building_initial : ∀ call ∈ m.calls, call.request.isInitial = true →
    m.producer.initialClosed = false
  built : ∀ call ∈ m.calls, ∀ command, call.built = some (command, .ok) →
    call.request.Carries command
  carried : Forall₂ ProducerRequest.Carries m.requests m.published
  empty : m.producer.kind = none → m.producer.body = none
  owner_slot : ∀ command, m.owner.command = some command → m.producer.command = some command
  owner_send : m.producer.inSend = m.owner.command.isSome
  rejected : m.owner = .rejected → m.producer.closed = false → m.producer.kind ≠ none
  order : m.failed = false → ∃ rest, m.published = m.accepted ++ m.producer.command.toList ++ rest ∧
      (m.producer.closed = false → rest = [])
  failed : m.failed = true → m.producer.finished = true ∧ ∃ pre rest, m.published = pre ++ rest ∧
      ((∀ command, m.producer.command = some command → ErrorFinal command) ∧ m.accepted = pre ∨
        m.producer.command = none ∧ ∃ command, ErrorFinal command ∧ m.accepted = pre ++ [command])
  first : ∀ command ∈ m.published.tail, command.kind ≠ .initialMetadata
  fresh : m.producer.initialClosed = false → m.producer.finished = false → m.published = []
  sealed : h = true → m.producer.initialClosed = true ∧
    ∀ command ∈ m.published, command.kind ≠ .initialMetadata
  last : ∀ command ∈ m.published.dropLast, command.kind ≠ .finalStatus
  unfinished : m.producer.finished = false → ∀ command ∈ m.published, command.kind ≠ .finalStatus
  closedOk : m.closedOk = true → m.producer.closed = true ∧ m.producer.kind = none
  gone : m.ownerGone = true → m.closedOk = true
  refs : m.producer.refs = m.producer.appRefs + if m.ownerGone then 0 else 1
  holders : m.calls.length ≤ m.producer.appRefs
  bodies : ∀ id, m.owned.count id + m.released.count id + m.handed.count id =
    if id < m.nextBody then 1 else 0
  handed : m.handed = (m.accepted ++ m.taken).flatMap ProducerCommand.bodies

theorem create_ok (maxMessage : Nat) (h : Bool) : Ok h (create maxMessage h) where
  calls := rfl
  building_slot := nofun
  building_initial := fun _ hcall => by cases hcall
  built := fun _ hcall => by cases hcall
  carried := .nil
  empty _ := rfl
  owner_slot := nofun
  owner_send := rfl
  rejected := nofun
  order _ := ⟨[], rfl, fun _ => rfl⟩
  failed := nofun
  first := nofun
  fresh _ _ := rfl
  sealed hsent := ⟨hsent, nofun⟩
  last := nofun
  unfinished := nofun
  closedOk := nofun
  gone := nofun
  refs := rfl
  holders := Nat.zero_le _
  bodies _ := rfl
  handed := rfl

variable {h : Bool} {m m' : Mailbox}

/-- What later steps leave as it is once the producer is finished or closed. -/
structure Later (m m' : Mailbox) : Prop where
  closed : m.producer.closed = true → m'.producer.closed = true
  finished : m.producer.finished = true → m'.producer.finished = true
  published : m.producer.finished = true ∨ m.producer.closed = true → m'.published = m.published
  accepted : m.producer.closed = true → m.owner.command = none →
    m'.accepted = m.accepted ∧ m'.owner.command = none

theorem Later.refl (m : Mailbox) : Later m m :=
  ⟨id, id, fun _ => rfl, fun _ hidle => ⟨rfl, hidle⟩⟩

theorem Later.trans {m m' m'' : Mailbox} (h : Later m m') (h' : Later m' m'') :
    Later m m'' where
  closed hc := h'.closed (h.closed hc)
  finished hf := h'.finished (h.finished hf)
  published hshut :=
    (h'.published (hshut.imp h.finished h.closed)).trans (h.published hshut)
  accepted hc hidle := by
    obtain ⟨hsame, hidle'⟩ := h.accepted hc hidle
    obtain ⟨hsame', hidle''⟩ := h'.accepted (h.closed hc) hidle'
    exact ⟨hsame'.trans hsame, hidle''⟩

/-- A step that leaves the history and the flags alone. -/
theorem Later.quiet (hclosed : m'.producer.closed = m.producer.closed)
    (hfinished : m'.producer.finished = m.producer.finished)
    (hpublished : m'.published = m.published) (haccepted : m'.accepted = m.accepted)
    (howner : m'.owner = m.owner) : Later m m' :=
  ⟨fun h => hclosed.trans h, fun h => hfinished.trans h, fun _ => hpublished,
    fun _ hidle => ⟨haccepted, howner ▸ hidle⟩⟩

/-! ## The steps keep both -/

theorem freeing_none (m : Mailbox) : m.freeing none = m := by
  unfold freeing
  rw [map_none, toList_none, append_nil]

section

variable (hok : Ok h m)

include hok

theorem Ok.begin {thread : Nat} {request : ProducerRequest}
    (hstep : m.begin thread request = some m') : Ok h m' ∧ Later m m' := by
  unfold Mailbox.begin at hstep
  split at hstep
  · cases hstep
  rename_i hguard
  simp only [not_or, Nat.not_le] at hguard
  split at hstep
  · cases hstep
    exact ⟨hok, .refl m⟩
  rcases m.producer.begin_cases request.isInitial with ⟨hsame, hret⟩ |
    ⟨hbegin, hclosed, hfinished, hkind, hbuilding, hsend, hinitial⟩
  · split at hstep
    next heq =>
      rw [heq] at hret
      exact absurd rfl hret
    next heq =>
      cases hstep
      rw [heq] at hsame
      cases hsame
      exact ⟨hok, .refl m⟩
  · rw [hbegin] at hstep
    cases hstep
    have hcalls : m.calls = [] := length_eq_zero_iff.mp (by rw [hok.calls, hbuilding]; rfl)
    refine ⟨{ hok with
      calls := by rw [hcalls]; rfl
      building_slot := fun _ => ⟨hkind, hsend, hfinished⟩
      building_initial := fun call hcall hi => by
        rw [hcalls] at hcall
        rw [mem_singleton.mp hcall] at hi
        exact hinitial hi
      built := fun call hcall command hbuilt => by
        rw [hcalls] at hcall
        rw [mem_singleton.mp hcall] at hbuilt
        cases hbuilt
      holders := by
        rw [hcalls] at hguard ⊢
        exact hguard.2
      bodies := fun id => by
        have hbodies := hok.bodies id
        unfold owned at hbodies ⊢
        rw [hcalls] at hbodies ⊢
        exact hbodies }, .quiet rfl rfl rfl rfl rfl⟩

/-- The call of a thread is the only one. -/
theorem Ok.call_eq {thread : Nat} {call : ProducerCall}
    (hfind : m.calls.find? (·.thread = thread) = some call) :
    m.producer.building = true ∧ m.calls = [call] ∧ call.thread = thread := by
  have hthread : call.thread = thread := by simpa using find?_some hfind
  have hmem := mem_of_find?_eq_some hfind
  have hcalls := hok.calls
  cases hbuilding : m.producer.building with
  | false =>
    rw [hbuilding] at hcalls
    rw [length_eq_zero_iff.mp hcalls] at hmem
    exact absurd hmem not_mem_nil
  | true =>
    rw [hbuilding] at hcalls
    obtain ⟨only, hcalls⟩ := length_eq_one_iff.mp hcalls
    rw [hcalls, mem_singleton] at hmem
    exact ⟨rfl, hmem ▸ hcalls, hthread⟩

omit hok in
/-- What is built without an error is what was asked for. -/
theorem build_carries {request : ProducerRequest} {alloc : Status} {id : Nat}
    {command : ProducerCommand} (h : request.build alloc id = (command, .ok)) :
    request.Carries command := by
  unfold ProducerRequest.build at h
  cases request with
  | send message =>
    cases h
    exact ⟨rfl, rfl, rfl, rfl⟩
  | initialMetadata entries | finish status trailing =>
    dsimp only at h
    split at h
    next bytes hencode =>
      cases h
      exact ⟨rfl, rfl, rfl, hencode⟩
    next hencode =>
      cases h
      exact absurd rfl (metadataEncode_error hencode)

omit hok in
/-- Only metadata is published as INITIAL. -/
theorem isInitial_of_carries {request : ProducerRequest} {command : ProducerCommand}
    (h : request.Carries command) (hkind : command.kind = .initialMetadata) :
    request.isInitial = true := by
  cases request with
  | initialMetadata entries => rfl
  | send message | finish status trailing => cases h.1.symm.trans hkind

omit hok in
/-- The body of a built command is the new one. -/
theorem build_body (request : ProducerRequest) (alloc : Status) (id : Nat) :
    (request.build alloc id).1.body = none ∨
      ∃ data, (request.build alloc id).1.body = some ⟨id, data⟩ := by
  cases request with
  | send message =>
    unfold ProducerRequest.build
    dsimp only
    split
    · exact .inr ⟨message, rfl⟩
    · exact .inl rfl
  | initialMetadata entries | finish status trailing =>
    unfold ProducerRequest.build
    dsimp only
    split <;> exact .inl rfl

theorem Ok.build {thread : Nat} {alloc : Status}
    (hstep : m.build thread alloc = some m') : Ok h m' ∧ Later m m' := by
  unfold Mailbox.build at hstep
  split at hstep
  next t request hfind =>
    cases hstep
    obtain ⟨hbuilding, hcalls, hthread⟩ := hok.call_eq hfind
    have hthread : t = thread := hthread
    subst hthread
    have hmap : (m.calls.map fun call => if call.thread = t then
        { call with built := some (request.build alloc m.nextBody) } else call) =
        [⟨t, request, some (request.build alloc m.nextBody)⟩] := by
      rw [hcalls, map_singleton]
      simp
    refine ⟨{ hok with
      calls := (length_map _).trans hok.calls
      building_initial := fun call hcall hi => by
        rw [hmap, mem_singleton] at hcall
        subst hcall
        exact hok.building_initial ⟨t, request, none⟩ (by rw [hcalls]; simp) hi
      built := fun call hcall command hbuilt => by
        rw [hmap, mem_singleton] at hcall
        subst hcall
        exact build_carries (some.inj hbuilt)
      holders := (length_map _).trans_le hok.holders
      bodies := fun id => by
        have hbodies := hok.bodies id
        unfold owned at hbodies ⊢
        rw [hcalls] at hbodies
        rw [hmap]
        rcases build_body request alloc m.nextBody with hnone | ⟨data, hsome⟩
        · simp only [ProducerCall.bodies, hnone, flatMap_cons, flatMap_nil,
            map_none, toList_none, isSome_none] at hbodies ⊢
          exact hbodies
        simp only [ProducerCall.bodies, hsome, flatMap_cons, flatMap_nil,
          map_some, toList_some, isSome_some, append_nil,
          cons_append, nil_append, count_cons, if_true] at hbodies ⊢
        by_cases hid : m.nextBody = id
        · subst hid
          simp only [Nat.lt_irrefl, if_false] at hbodies
          simp
          omega
        · have hne : (m.nextBody == id) = false := by simpa using hid
          rw [hne]
          have hlt : id < m.nextBody + 1 ↔ id < m.nextBody := by omega
          simp only [hlt]
          simpa using hbodies }, .quiet rfl rfl rfl rfl rfl⟩
  · cases hstep

omit hok in
/-- The transport has nothing while nothing is borrowed. -/
theorem handedOver_of_idle {owner : OwnerState} (hidle : owner.command = none) :
    owner.handedOver = false := by
  cases owner with
  | sent command header ret => cases hidle
  | idle | borrowed command | rejected => rfl

/-- Nothing is borrowed outside a send. -/
theorem Ok.idle (hsend : m.producer.inSend = false) : m.owner.command = none :=
  isSome_eq_false_iff.mp (hok.owner_send.symm.trans hsend) |> isNone_iff_eq_none.mp

omit hok in
theorem tail_append_mem {α : Type} {xs : List α} {x y : α} (hy : y ∈ (xs ++ [x]).tail) :
    y ∈ xs.tail ∨ xs ≠ [] ∧ y = x := by
  cases xs with
  | nil => exact absurd hy not_mem_nil
  | cons z zs =>
    rw [cons_append, tail_cons, mem_append, mem_singleton] at hy
    exact hy.imp id fun hyx => ⟨cons_ne_nil _ _, hyx⟩

/-- A call returns without its command. -/
theorem Ok.giveUp {call : ProducerCall} {command : ProducerCommand} {result : Status}
    (hcalls : m.calls = [call]) (hbuilt : call.built = some (command, result))
    (hkind : m.producer.kind = none) (hsend : m.producer.inSend = false) :
    Ok h { m.freeing command.body with
      producer := { m.producer with building := false }
      calls := [] } := by
  have hover := handedOver_of_idle (hok.idle hsend)
  exact { hok with
    calls := rfl
    building_slot := nofun
    building_initial := fun _ hcall => by cases hcall
    built := fun _ hcall => by cases hcall
    holders := Nat.zero_le _
    bodies := fun id => by
      have hbodies := hok.bodies id
      unfold owned at hbodies ⊢
      rw [hcalls, hok.empty hkind, hover] at hbodies
      rw [show (m.freeing command.body).owner = m.owner from rfl, hok.empty hkind, hover]
      simp only [ProducerCall.bodies, hbuilt, freeing, count_append, flatMap_cons, flatMap_nil,
        map_none, toList_none, count_nil, append_nil, if_false, Bool.false_eq_true] at hbodies ⊢
      show _ = if id < m.nextBody then 1 else 0
      omega }

theorem Ok.publish {thread : Nat} (hstep : m.publish thread = some m') :
    Ok h m' ∧ Later m m' := by
  unfold Mailbox.publish at hstep
  split at hstep
  next t request command result hfind =>
    obtain ⟨hbuilding, hcalls, hthread⟩ := hok.call_eq hfind
    obtain ⟨hkind, hsend, hfinished⟩ := hok.building_slot hbuilding
    have hthread : t = thread := hthread
    subst hthread
    have hfilter : (m.calls.filter fun call => decide (call.thread ≠ t)) = [] := by
      rw [hcalls]
      simp
    have hquiet := hok.giveUp hcalls rfl hkind hsend
    unfold Producer.publish at hstep
    dsimp only at hstep
    by_cases hresult : (if m.producer.closed = true then Status.errClosed else result) = .ok
    · rw [if_pos hresult, if_pos hresult, if_pos hresult] at hstep
      cases hstep
      obtain ⟨hclosed, rfl⟩ := (check_eq (by decide)).mp hresult
      rw [Bool.not_eq_true] at hclosed
      have hmem : (⟨t, request, some (command, .ok)⟩ : ProducerCall) ∈ m.calls := by
        rw [hcalls]
        exact mem_singleton_self _
      have hcarries := hok.built _ hmem command rfl
      have hinitial : command.kind = .initialMetadata → m.producer.initialClosed = false :=
        fun hk => hok.building_initial _ hmem (isInitial_of_carries hcarries hk)
      have hidle := hok.idle hsend
      rw [freeing_none, hfilter]
      refine ⟨{ hquiet with
        building_slot := nofun
        building_initial := fun _ hcall => by cases hcall
        carried := rel_append hok.carried (.cons hcarries .nil)
        empty := nofun
        owner_slot := fun c hc => by cases hidle.symm.trans hc
        rejected := fun _ _ => nofun
        order := fun hfailed => by
          obtain ⟨rest, hpublished, hrest⟩ := hok.order hfailed
          rw [hrest hclosed] at hpublished
          refine ⟨[], ?_, fun _ => rfl⟩
          rw [Producer.command, hkind] at hpublished
          simp only [map_none, toList_none, append_nil] at hpublished
          show m.published ++ [command] = m.accepted ++ [command] ++ []
          rw [hpublished, append_nil]
        failed := fun hfailed => by cases hfinished.symm.trans (hok.failed hfailed).1
        first := fun c hc => by
          rcases tail_append_mem hc with hc | ⟨hne, rfl⟩
          · exact hok.first c hc
          · exact fun hk => hne (hok.fresh (hinitial hk) hfinished)
        fresh := fun hopen hmore => by
          by_cases hfinal : command.kind = .finalStatus
          · rw [if_pos hfinal] at hmore
            cases hmore
          have hshut : (if command.kind = .finalStatus then m.producer.initialClosed
              else true) = false := hopen
          rw [if_neg hfinal] at hshut
          cases hshut
        sealed := fun hsent => by
          obtain ⟨hseal, hnone⟩ := hok.sealed hsent
          refine ⟨?_, forall_mem_concat.2 ⟨hnone, fun hk => ?_⟩⟩
          · show (if command.kind = .finalStatus then m.producer.initialClosed else true) = true
            rw [hseal, ite_self]
          · cases (hinitial hk).symm.trans hseal
        last := fun c hc => by
          rw [dropLast_concat] at hc
          exact hok.unfinished hfinished c hc
        unfinished := fun hmore => by
          by_cases hfinal : command.kind = .finalStatus
          · rw [if_pos hfinal] at hmore
            cases hmore
          · exact forall_mem_concat.2 ⟨hok.unfinished hfinished, hfinal⟩
        closedOk := fun hdone => by cases hclosed.symm.trans (hok.closedOk hdone).1
        bodies := fun id => by
          have hbodies := hok.bodies id
          unfold owned at hbodies ⊢
          rw [hcalls, hok.empty hkind] at hbodies
          rw [handedOver_of_idle hidle] at hbodies ⊢
          simpa [ProducerCall.bodies] using hbodies
        handed := hok.handed }, id, fun hf => Bool.noConfusion (hf.symm.trans hfinished), ?_,
        fun _ hidle => ⟨rfl, hidle⟩⟩
      rw [hfinished, hclosed]
      simp
    · rw [if_neg hresult, if_neg hresult, if_neg hresult] at hstep
      cases hstep
      refine ⟨?_, .quiet rfl rfl rfl rfl rfl⟩
      rw [show ((m.freeing command.body).calls.filter _) = [] from hfilter]
      exact hquiet
  · cases hstep

theorem Ok.retain : Ok h { m with producer := m.producer.retain } ∧
    Later m { m with producer := m.producer.retain } := by
  unfold Producer.retain
  split
  · exact ⟨hok, .refl m⟩
  exact ⟨{ hok with
    refs := by
      have hrefs := hok.refs
      dsimp only
      omega
    holders := hok.holders.trans (Nat.le_succ _) }, .quiet rfl rfl rfl rfl rfl⟩

theorem Ok.release (hguard : m.calls.length < m.producer.appRefs) :
    Ok h { m with producer := m.producer.release } ∧
      Later m { m with producer := m.producer.release } := by
  unfold Producer.release
  exact ⟨{ hok with
    refs := by
      have hrefs := hok.refs
      dsimp only
      omega
    holders := by
      dsimp only
      omega }, .quiet rfl rfl rfl rfl rfl⟩

theorem Ok.activate : Ok h { m with producer := m.producer.activate } ∧
    Later m { m with producer := m.producer.activate } := by
  unfold Producer.activate
  split
  · exact ⟨hok, .refl m⟩
  · exact ⟨{ hok with }, .quiet rfl rfl rfl rfl rfl⟩

omit hok in
theorem take_cases {busy : Bool} (hstep : m.take busy = some m') :
    m.owner.command = none ∧ (m' = { m with owner := .idle } ∨
      ∃ kind, m.producer.kind = some kind ∧ m.producer.closed = false ∧
        m.producer.building = false ∧
        m' = { m with
          producer := { m.producer with inSend := true }
          owner := .borrowed
            ⟨kind, m.producer.status, m.producer.body, m.producer.metadata⟩ }) := by
  have htook : ∀ command p, m.producer.take busy = .ok (command, p) →
      ∃ kind, m.producer.kind = some kind ∧ m.producer.closed = false ∧
        m.producer.building = false ∧ p = { m.producer with inSend := true } ∧
        command = ⟨kind, m.producer.status, m.producer.body, m.producer.metadata⟩ := by
    intro command p htake
    unfold Producer.take at htake
    obtain ⟨_, htake⟩ := check_eq_ok.mp htake
    obtain ⟨hclosed, htake⟩ := check_eq_ok.mp htake
    cases hkind : m.producer.kind with
    | none =>
      rw [hkind] at htake
      cases htake
    | some kind =>
      rw [hkind] at htake
      obtain ⟨hready, htake⟩ := check_eq_ok.mp htake
      cases htake
      simp only [not_or, Bool.not_eq_true] at hready hclosed
      exact ⟨kind, rfl, hclosed, hready.2.1, by rw [← hkind], rfl⟩
  unfold Mailbox.take at hstep
  cases howner : m.owner with
  | borrowed command | sent command header ret =>
    rw [howner] at hstep
    cases hstep
  | idle | rejected =>
    rw [howner] at hstep
    refine ⟨rfl, ?_⟩
    cases htake : m.producer.take busy with
    | error ret =>
      rw [htake] at hstep
      cases hstep
      exact .inl rfl
    | ok result =>
      rw [htake] at hstep
      cases hstep
      obtain ⟨kind, hkind, hclosed, hbuilding, hp, hcommand⟩ := htook _ _ htake
      exact .inr ⟨kind, hkind, hclosed, hbuilding, by rw [hp, hcommand]⟩

/-- The transport has the commands that were accepted. -/
theorem Ok.untaken (hover : m.owner.handedOver = false) :
    m.handed = m.accepted.flatMap ProducerCommand.bodies := by
  have hhanded := hok.handed
  unfold taken at hhanded
  rw [hover, if_neg Bool.false_ne_true, append_nil] at hhanded
  exact hhanded

/-- The owner gives up while nothing is borrowed. -/
theorem Ok.rest (hidle : m.owner.command = none) :
    Ok h { m with owner := .idle } ∧ Later m { m with owner := .idle } := by
  refine ⟨{ hok with
    owner_slot := nofun
    owner_send := by rw [hok.owner_send, hidle]; rfl
    rejected := nofun
    bodies := fun id => by
      have hbodies := hok.bodies id
      unfold owned at hbodies ⊢
      rw [handedOver_of_idle hidle] at hbodies
      exact hbodies
    handed := by
      rw [hok.untaken (handedOver_of_idle hidle)]
      exact congrArg _ (append_nil _).symm }, id, id, fun _ => rfl, fun _ _ => ⟨rfl, rfl⟩⟩

theorem Ok.take {busy : Bool} (hstep : m.take busy = some m') :
    Ok h m' ∧ Later m m' := by
  obtain ⟨hidle, rfl | ⟨kind, hkind, hclosed, hbuilding, rfl⟩⟩ := take_cases hstep
  · exact hok.rest hidle
  have hrest := (hok.rest hidle).1
  exact ⟨{ hrest with
    building_slot := fun hb => Bool.noConfusion (hbuilding.symm.trans hb)
    owner_slot := fun command hcommand => by
      cases hcommand
      unfold Producer.command
      rw [hkind]
      rfl
    owner_send := rfl
    rejected := nofun }, id, id, fun _ => rfl,
    fun hc _ => Bool.noConfusion (hclosed.symm.trans hc)⟩

/-- The borrowed command is the one in the slot. -/
theorem Ok.slot_eq {command : ProducerCommand} (howner : m.owner.command = some command) :
    m.producer.kind = some command.kind ∧ m.producer.body = command.body := by
  have hslot := hok.owner_slot command howner
  unfold Producer.command at hslot
  obtain ⟨kind, hkind, rfl⟩ := map_eq_some_iff.mp hslot
  exact ⟨hkind, rfl⟩

theorem Ok.send {ret : Status} (hstep : m.send ret = some m') :
    Ok h m' ∧ Later m m' := by
  unfold Mailbox.send at hstep
  split at hstep
  next command howner =>
    have hcommand : m.owner.command = some command := by rw [howner]; rfl
    have hbody := (hok.slot_eq hcommand).2
    have hover : m.owner.handedOver = false := by rw [howner]; rfl
    have hbefore := hok.untaken hover
    cases hstep
    generalize (if command.kind = .message ∧ ¬ m.headersSent = true then
      RpcRecordKind.initialMetadata else command.kind) = header
    refine ⟨{ hok with
      owner_slot := fun c hc => by
        cases hc
        exact hok.owner_slot command hcommand
      owner_send := by
        rw [hok.owner_send, hcommand]
        rfl
      rejected := nofun
      bodies := fun id => by
        have hbodies := hok.bodies id
        unfold owned at hbodies ⊢
        rw [hover, hbody] at hbodies
        rw [hbody]
        cases hnow : (OwnerState.sent command header ret).handedOver with
        | true =>
          simp only [if_true, if_false, Bool.false_eq_true, append_nil,
            count_append] at hbodies ⊢
          omega
        | false => exact hbodies
      handed := by
        unfold taken
        cases hnow : (OwnerState.sent command header ret).handedOver with
        | true =>
          simp only [if_true, OwnerState.command, toList_some, flatMap_append,
            flatMap_cons, flatMap_nil, append_nil, hbefore]
          rfl
        | false =>
          simp only [if_false, Bool.false_eq_true, append_nil]
          exact hbefore }, id, id, fun _ => rfl, fun _ hidle => ?_⟩
    rw [hcommand] at hidle
    cases hidle
  · cases hstep

theorem Ok.complete (hstep : m.complete = some m') :
    Ok h m' ∧ Later m m' := by
  unfold Mailbox.complete at hstep
  split at hstep
  next command header ret howner =>
    have hcommand : m.owner.command = some command := by rw [howner]; rfl
    obtain ⟨hkind, hbody⟩ := hok.slot_eq hcommand
    have hslot := hok.owner_slot command hcommand
    have hsend : m.producer.inSend = true := by rw [hok.owner_send, hcommand]; rfl
    have hbuilding : ¬ m.producer.building = true := fun hb =>
      Bool.noConfusion (hsend.symm.trans (hok.building_slot hb).2.1)
    have hbusy : m.owner.command ≠ none := by
      rw [hcommand]
      exact some_ne_none _
    cases hover : m.owner.handedOver with
    | true =>
      have hret : ret = .ok := by
        rw [howner] at hover
        exact (of_decide_eq_true hover).1
      rw [hover] at hstep
      unfold Producer.complete at hstep
      subst hret
      cases hstep
      exact ⟨{ hok with
        building_slot := fun hb => absurd hb hbuilding
        empty := fun _ => rfl
        owner_slot := nofun
        owner_send := rfl
        rejected := nofun
        order := fun hfailed => by
          obtain ⟨rest, hpublished, hrest⟩ := hok.order hfailed
          refine ⟨rest, ?_, hrest⟩
          rw [hslot] at hpublished
          show m.published = m.accepted ++ [command] ++ [] ++ rest
          rw [append_nil]
          exact hpublished
        failed := fun hfailed => by
          obtain ⟨hfinished, pre, rest, hpublished, hcase⟩ := hok.failed hfailed
          refine ⟨hfinished, pre, rest, hpublished, .inr ⟨rfl, ?_⟩⟩
          rcases hcase with ⟨herror, haccepted⟩ | ⟨hnone, _⟩
          · exact ⟨command, herror command hslot, by rw [← haccepted]; rfl⟩
          · rw [hslot] at hnone
            cases hnone
        closedOk := fun hdone => ⟨(hok.closedOk hdone).1, rfl⟩
        bodies := fun id => by
          have hbodies := hok.bodies id
          unfold owned at hbodies ⊢
          rw [hover] at hbodies
          exact hbodies
        handed := by
          have hhanded := hok.handed
          unfold taken at hhanded
          rw [hover, hcommand] at hhanded
          rw [hhanded]
          exact congrArg _ (append_nil _).symm }, id, id, fun _ => rfl,
        fun _ hidle => absurd hidle hbusy⟩
    | false =>
      have howner' : (if ret = .errState then OwnerState.rejected else .idle).command = none ∧
          (if ret = .errState then OwnerState.rejected else .idle).handedOver = false := by
        split <;> exact ⟨rfl, rfl⟩
      rw [hover] at hstep
      unfold Producer.complete at hstep
      cases hstep
      exact ⟨{ hok with
        building_slot := fun hb => absurd hb hbuilding
        owner_slot := fun c hc => by
          rw [howner'.1] at hc
          cases hc
        owner_send := by
          rw [howner'.1]
          rfl
        rejected := fun _ _ => by
          rw [hkind]
          exact some_ne_none _
        bodies := fun id => by
          have hbodies := hok.bodies id
          unfold owned at hbodies ⊢
          rw [hover] at hbodies
          rw [howner'.2]
          exact hbodies
        handed := by
          have hhanded := hok.handed
          unfold taken at hhanded ⊢
          rw [hover] at hhanded
          rw [howner'.2]
          exact hhanded }, id, id, fun _ => rfl, fun _ hidle => absurd hidle hbusy⟩
  · cases hstep

omit hok in
/-- What `tr_rpc_record_producer_fail` does when it does something. -/
theorem fail_cases (p : Producer) (status : UInt32) :
    ((p.fail status).1 ≠ .ok ∧ (p.fail status).2 = (p, none)) ∨
      status ≠ rpcStatusOk ∧ p.closed = false ∧ p.inSend = false ∧ p.building = false ∧
        p.fail status = (.ok, { p with
          body := none
          metadata := if p.kind = some .finalStatus then p.metadata else []
          kind := some .finalStatus
          status := status
          finished := true }, p.body) := by
  unfold Producer.fail
  by_cases hstatus : status = rpcStatusOk ∨ rpcStatusCount ≤ status
  · rw [if_pos hstatus]
    exact .inl ⟨by simp, rfl⟩
  rw [if_neg hstatus]
  by_cases hbusy : p.closed = true ∨ p.inSend = true ∨ p.building = true
  · rw [if_pos hbusy]
    refine .inl ⟨?_, rfl⟩
    dsimp only
    split <;> decide
  · rw [if_neg hbusy]
    simp only [not_or, Bool.not_eq_true] at hbusy hstatus
    exact .inr ⟨hstatus.1, hbusy.1, hbusy.2.1, hbusy.2.2, rfl⟩

theorem Ok.fail {status : UInt32} (hstep : m.fail status = some m') :
    Ok h m' ∧ Later m m' := by
  unfold Mailbox.fail at hstep
  split at hstep
  next howner =>
    have hidle : m.owner.command = none := by rw [howner]; rfl
    rcases fail_cases m.producer status with ⟨hret, hsame⟩ |
      ⟨hstatus, hclosed, hsend, hbuilding, hfail⟩
    · generalize m.producer.fail status = answer at hstep hret hsame
      obtain ⟨ret, p, body⟩ := answer
      cases hsame
      cases hstep
      have hfailed : (m.failed || decide (ret = .ok)) = m.failed := by
        rw [decide_eq_false hret, Bool.or_false]
      rw [freeing_none, hfailed]
      exact hok.rest hidle
    · have hkind := hok.rejected howner hclosed
      rw [hfail] at hstep
      cases hstep
      have hfailed : (m.failed || decide (Status.ok = .ok)) = true := by simp
      exact ⟨{ hok with
        building_slot := fun hb => Bool.noConfusion (hbuilding.symm.trans hb)
        empty := nofun
        owner_slot := nofun
        owner_send := hsend
        rejected := nofun
        order := fun hnot => by
          rw [show (m.failed || decide (Status.ok = .ok)) = false from hnot] at hfailed
          cases hfailed
        failed := fun _ => by
          have herror : ∀ metadata, ErrorFinal ⟨.finalStatus, status, none, metadata⟩ :=
            fun _ => ⟨rfl, hstatus⟩
          refine ⟨rfl, ?_⟩
          cases hbefore : m.failed with
          | false =>
            obtain ⟨rest, hpublished, _⟩ := hok.order hbefore
            rw [append_assoc] at hpublished
            refine ⟨m.accepted, _, hpublished, .inl ⟨fun command hcommand => ?_, rfl⟩⟩
            cases hcommand
            exact herror _
          | true =>
            obtain ⟨_, pre, rest, hpublished, hcase⟩ := hok.failed hbefore
            refine ⟨pre, rest, hpublished, .inl ⟨fun command hcommand => ?_, ?_⟩⟩
            · cases hcommand
              exact herror _
            · rcases hcase with ⟨_, haccepted⟩ | ⟨hnone, _⟩
              · exact haccepted
              · rw [Producer.command, map_eq_none_iff] at hnone
                exact absurd hnone hkind
        fresh := nofun
        unfinished := nofun
        closedOk := fun hdone => by
          rw [(hok.closedOk hdone).1] at hclosed
          cases hclosed
        bodies := fun id => by
          have hbodies := hok.bodies id
          unfold owned at hbodies ⊢
          rw [handedOver_of_idle hidle] at hbodies
          simp only [OwnerState.handedOver, if_false, Bool.false_eq_true, freeing,
            count_append, map_none, toList_none, count_nil] at hbodies ⊢
          show _ = if id < m.nextBody then 1 else 0
          omega
        handed := by
          show m.handed = _
          rw [hok.untaken (handedOver_of_idle hidle)]
          exact congrArg _ (append_nil _).symm }, id, fun _ => rfl, fun _ => rfl,
        fun _ _ => ⟨rfl, rfl⟩⟩
  · cases hstep

theorem Ok.close (hstep : m.close = some m') : Ok h m' ∧ Later m m' := by
  unfold Mailbox.close at hstep
  split at hstep
  · cases hstep
  unfold Producer.close at hstep
  cases hsend : m.producer.inSend with
  | true =>
    rw [if_pos (by exact hsend)] at hstep
    cases hstep
    have hdone : (m.closedOk || decide (Status.again = .ok)) = m.closedOk := by simp
    rw [freeing_none, hdone]
    exact ⟨{ hok with
      rejected := nofun
      order := fun hfailed => by
        obtain ⟨rest, hpublished, _⟩ := hok.order hfailed
        exact ⟨rest, hpublished, nofun⟩
      closedOk := fun hd => ⟨rfl, (hok.closedOk hd).2⟩ }, fun _ => rfl, id, fun _ => rfl,
      fun _ hidle => ⟨rfl, hidle⟩⟩
  | false =>
    rw [if_neg (by rw [hsend]; exact Bool.false_ne_true)] at hstep
    cases hstep
    have hidle := hok.idle hsend
    exact ⟨{ hok with
      building_slot := fun hb => ⟨rfl, (hok.building_slot hb).2⟩
      empty := fun _ => rfl
      owner_slot := fun c hc => by
        rw [show (m.freeing m.producer.body).owner = m.owner from rfl, hidle] at hc
        cases hc
      rejected := nofun
      order := fun hfailed => by
        obtain ⟨rest, hpublished, _⟩ := hok.order hfailed
        refine ⟨m.producer.command.toList ++ rest, ?_, nofun⟩
        show m.published = m.accepted ++ [] ++ _
        rw [append_nil, ← append_assoc]
        exact hpublished
      failed := fun hfailed => by
        obtain ⟨hfinished, pre, rest, hpublished, hcase⟩ := hok.failed hfailed
        refine ⟨hfinished, pre, rest, hpublished, ?_⟩
        rcases hcase with ⟨_, haccepted⟩ | ⟨_, herror⟩
        · exact .inl ⟨nofun, haccepted⟩
        · exact .inr ⟨rfl, herror⟩
      closedOk := fun _ => ⟨rfl, rfl⟩
      gone := fun _ => by simp
      bodies := fun id => by
        have hbodies := hok.bodies id
        unfold owned at hbodies ⊢
        rw [handedOver_of_idle hidle] at hbodies
        rw [show (m.freeing m.producer.body).owner = m.owner from rfl, handedOver_of_idle hidle]
        simp only [if_false, Bool.false_eq_true, freeing, count_append, map_none,
          toList_none, count_nil] at hbodies ⊢
        show _ = if id < m.nextBody then 1 else 0
        omega }, fun _ => rfl, id, fun _ => rfl, fun _ hidle => ⟨rfl, hidle⟩⟩

theorem Ok.put (hstep : m.put = some m') : Ok h m' ∧ Later m m' := by
  unfold Mailbox.put at hstep
  split at hstep
  next hguard =>
    have hrefs := hok.refs
    rw [if_neg hguard.2] at hrefs
    cases hstep
    exact ⟨{ hok with
      gone := fun _ => hguard.1
      refs := by
        show m.producer.refs - 1 = m.producer.appRefs + 0
        omega }, .quiet rfl rfl rfl rfl rfl⟩
  · cases hstep

/-- Every step keeps the invariant, and what had ended. -/
theorem Ok.step {action : ProducerAction}
    (hstep : producerStep m action = some m') : Ok h m' ∧ Later m m' := by
  cases action with
  | begin thread request => exact hok.begin hstep
  | build thread alloc => exact hok.build hstep
  | publish thread => exact hok.publish hstep
  | retain =>
    obtain ⟨_, hstep⟩ := ite_none_left_eq_some.mp hstep
    cases hstep
    exact hok.retain
  | release =>
    obtain ⟨hguard, hstep⟩ := ite_none_left_eq_some.mp hstep
    cases hstep
    exact hok.release (Nat.not_le.mp hguard)
  | activate =>
    obtain ⟨_, hstep⟩ := ite_none_left_eq_some.mp hstep
    cases hstep
    exact hok.activate
  | take busy => exact hok.take (ite_none_left_eq_some.mp hstep).2
  | send ret => exact hok.send hstep
  | complete => exact hok.complete hstep
  | fail status => exact hok.fail (ite_none_left_eq_some.mp hstep).2
  | close => exact hok.close hstep
  | put => exact hok.put hstep

end

end Mailbox

/-! ## The mailbox -/

open Mailbox in
/-- The mailbox of a producer, in every interleaving of its threads with the owner.

A published command carries the bytes, the status and the metadata of its request.
What the owner completes as accepted is a prefix of what was published, and no more
than the command in the slot is missing while the producer is neither closed nor
failed; a failure adds an error FINAL of its own.  INITIAL is published at most once
and first, and not at all when it had been sent before.  A FINAL is the last thing
that is published; once the producer is finished or closed nothing is published, and
once it is closed nothing more is borrowed.  Every body is let go at most once, by a
release or by the send that was accepted with it, and exactly once when the producer
is freed. -/
theorem producer_mailbox {maxMessage : Nat} {headersSent : Bool}
    {actions : List ProducerAction} {m : Mailbox}
    (hrun : runSteps producerStep (.create maxMessage headersSent) actions = some m) :
    List.Forall₂ ProducerRequest.Carries m.requests m.published ∧
    (m.failed = false → m.accepted <+: m.published ∧ (m.producer.closed = false →
        m.published = m.accepted ++ m.producer.command.toList)) ∧
    (m.failed = true → ∃ pre, pre <+: m.published ∧
      (m.accepted = pre ∨ ∃ command, command.kind = .finalStatus ∧
        command.status ≠ rpcStatusOk ∧ m.accepted = pre ++ [command])) ∧
    (∀ command ∈ m.published.tail, command.kind ≠ .initialMetadata) ∧
    (headersSent = true → ∀ command ∈ m.published, command.kind ≠ .initialMetadata) ∧
    (∀ command ∈ m.published.dropLast, command.kind ≠ .finalStatus) ∧
    (∀ more m', runSteps producerStep m more = some m' →
      (m.producer.finished = true ∨ m.producer.closed = true → m'.published = m.published) ∧
      (m.producer.closed = true → m.owner.command = none → m'.accepted = m.accepted)) ∧
    (∀ id, m.released.count id + m.handed.count id ≤ 1) ∧
    m.handed = (m.accepted ++ m.taken).flatMap ProducerCommand.bodies ∧
    (m.producer.refs = 0 → ∀ id < m.nextBody, m.released.count id + m.handed.count id = 1) := by
  have hok : Ok headersSent m :=
    runSteps_invariant (fun _ _ _ hok hstep => (hok.step hstep).1)
      (create_ok maxMessage headersSent) hrun
  refine ⟨hok.carried, fun hfailed => ?_, fun hfailed => ?_, hok.first,
    fun hsent => (hok.sealed hsent).2,
    hok.last, fun more m' hmore => ?_, fun id => ?_, hok.handed, fun hfreed id hid => ?_⟩
  · obtain ⟨rest, hpublished, hrest⟩ := hok.order hfailed
    refine ⟨⟨m.producer.command.toList ++ rest, ?_⟩, fun hclosed => ?_⟩
    · rw [← List.append_assoc]
      exact hpublished.symm
    · rw [hrest hclosed, List.append_nil] at hpublished
      exact hpublished
  · obtain ⟨_, pre, rest, hpublished, hcase⟩ := hok.failed hfailed
    refine ⟨pre, ⟨rest, hpublished.symm⟩, ?_⟩
    rcases hcase with ⟨_, haccepted⟩ | ⟨_, command, herror, haccepted⟩
    · exact .inl haccepted
    · exact .inr ⟨command, herror.1, herror.2, haccepted⟩
  · have hlater : Later m m' := runSteps_rel Later.refl (fun _ _ _ => Later.trans)
      (fun _ _ _ hok hstep => (Ok.step hok hstep).1)
      (fun _ _ _ hok hstep => (Ok.step hok hstep).2) hok hmore
    exact ⟨hlater.published, fun hclosed hidle => (hlater.accepted hclosed hidle).1⟩
  · have hbodies := hok.bodies id
    split at hbodies <;> omega
  · have hbodies := hok.bodies id
    rw [if_pos hid] at hbodies
    have howned : m.owned.count id = 0 := by
      have hrefs := hok.refs
      have hgone : m.ownerGone = true := by
        by_contra hgone
        rw [if_neg hgone] at hrefs
        omega
      have hcalls : m.calls = [] := by
        have hholders := hok.holders
        exact List.length_eq_zero_iff.mp (by omega)
      have hbody := hok.empty (hok.closedOk (hok.gone hgone)).2
      unfold owned
      rw [hcalls, hbody]
      simp
    omega

/-- A thread sends a message and finishes the call, and the close overtakes the send of the
FINAL: both were accepted, and the body was handed to the transport. -/
theorem producer_mailbox_closing : ∃ m, runSteps producerStep (.create 100 true)
        [.activate, .begin 1 (.send [7, 8]), .build 1 .ok, .publish 1, .take false, .send .ok,
          .complete, .begin 1 (.finish 3 [⟨[107], [118], by decide, by decide⟩]), .build 1 .ok,
          .publish 1, .take false, .close, .send .ok, .complete, .close, .put, .release] = some m ∧
      m.producer.refs = 0 ∧ m.nextBody = 1 ∧ m.requests.length = 2 ∧
      m.accepted = [⟨.message, 0, some ⟨0, [7, 8]⟩, []⟩,
        ⟨.finalStatus, 3, none, [1, 1, 0, 107, 118]⟩] ∧
      List.Forall₂ ProducerRequest.Carries m.requests m.published ∧
      m.released.count 0 + m.handed.count 0 = 1 := by
  refine exists_of_map
    (f := fun m => (m.producer.refs, m.nextBody, m.requests.length, m.accepted))
    (y := (0, 1, 2, [⟨.message, 0, some ⟨0, [7, 8]⟩, []⟩,
      ⟨.finalStatus, 3, none, [1, 1, 0, 107, 118]⟩])) (by decide +kernel) fun m hrun hm => ?_
  simp only [Prod.mk.injEq] at hm
  obtain ⟨hrefs, hnext, hrequests, haccepted⟩ := hm
  obtain ⟨hcarried, _, _, _, _, _, _, _, _, hfreed⟩ := producer_mailbox hrun
  exact ⟨hrefs, hnext, hrequests, haccepted, hcarried, hfreed hrefs 0 (by rw [hnext]; decide)⟩

end Trpc
