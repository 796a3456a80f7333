import Trpc.Rpc.RecordState

/-!
# Two peers of one call

A client and a server follow one call, each with its own record automaton.  A
side applies what it sends at once, and what the other side sends when it
arrives.

The two automata see the records in different orders, so their states differ
while records are under way.  `RpcPeersOk` says how: the requests under way take
the request part of the server's state to the client's, and the responses under
way take the response part of the client's state to the server's.  The parts
are states of the same automaton, with the other direction filled in so that it
never stands in the way.
-/

namespace Trpc

/-- The two ends of a call. -/
inductive RpcSide
  | client
  | server
  deriving DecidableEq, Repr

/-- Both automata and the records under way in each direction.  `aborted` notes
that a side has ended the call locally. -/
structure RpcPeers where
  client : RpcRecordState
  server : RpcRecordState
  requests : List RpcRecordHeader
  responses : List RpcRecordHeader
  aborted : Bool
  deriving DecidableEq, Repr

/-- What may happen next. -/
inductive RpcPeersAction
  | send (side : RpcSide) (record : RpcRecordHeader)
  | deliver (side : RpcSide)
  | abort (side : RpcSide) (status : UInt32)
  deriving DecidableEq, Repr

/-- Both sides of a new call. -/
def RpcPeers.init (req resp : RpcCardinality) : RpcPeers :=
  ⟨.init req resp, .init req resp, [], [], false⟩

/-- One action.  A send that the own automaton rejects sends nothing; a delivery
takes the oldest record under way to the named side. -/
def rpcPeersStep (sizeMax : Nat) (p : RpcPeers) : RpcPeersAction → Option RpcPeers
  | .send .client record =>
    match rpcRecordStateApply sizeMax p.client .request record with
    | (.ok, next) =>
      some { p with client := next, requests := p.requests ++ [record] }
    | _ => some p
  | .send .server record =>
    match rpcRecordStateApply sizeMax p.server .response record with
    | (.ok, next) =>
      some { p with server := next, responses := p.responses ++ [record] }
    | _ => some p
  | .deliver .server =>
    match p.requests with
    | [] => none
    | record :: rest =>
      some { p with
        server := (rpcRecordStateApply sizeMax p.server .request record).2
        requests := rest }
  | .deliver .client =>
    match p.responses with
    | [] => none
    | record :: rest =>
      some { p with
        client := (rpcRecordStateApply sizeMax p.client .response record).2
        responses := rest }
  | .abort .client status =>
    match rpcRecordStateAbort p.client status with
    | (.ok, next) => some { p with client := next, aborted := true }
    | _ => some p
  | .abort .server status =>
    match rpcRecordStateAbort p.server status with
    | (.ok, next) => some { p with server := next, aborted := true }
    | _ => some p

/-! ## The parts of a state -/

/-- The request part of a state; nothing has been answered in it. -/
def RpcRecordState.requestPart (s : RpcRecordState) : RpcRecordState :=
  { s with
    responseMessages := 0
    responseHeaders := false
    terminal := false
    finalStatus := 0 }

/-- The response part of a state; its requests are as a successful FINAL needs
them. -/
def RpcRecordState.responsePart (s : RpcRecordState) : RpcRecordState :=
  { s with opened := true, requestMessages := 1, requestClosed := false }

/-- The states in which a call has not ended. -/
inductive RpcLive (req resp : RpcCardinality) : RpcRecordState → Prop
  | init : RpcLive req resp (.init req resp)
  | open (m n : Nat) (closed headers : Bool) :
    RpcLive req resp (rpcCallState req resp m n closed headers)

section Parts

variable {sizeMax : Nat} {req resp : RpcCardinality} {s t : RpcRecordState}
  {record : RpcRecordHeader}

theorem RpcRecordState.eq_of_responsePart (h : s.responsePart = t.responsePart) :
    s.terminal = t.terminal ∧ s.finalStatus = t.finalStatus := by
  rw [responsePart, responsePart, RpcRecordState.mk.injEq] at h
  tauto

theorem RpcRecordState.eq_of_requestPart (h : s.requestPart = t.requestPart) :
    s.opened = t.opened ∧ s.requestMessages = t.requestMessages := by
  rw [requestPart, requestPart, RpcRecordState.mk.injEq] at h
  tauto

/-- What a client may send, and how its parts move. -/
structure RpcRequestMove (sizeMax : Nat) (req resp : RpcCardinality)
    (s t : RpcRecordState) (record : RpcRecordHeader) : Prop where
  live : RpcLive req resp t
  part : rpcRecordStateNext sizeMax s.requestPart .request record = .ok t.requestPart
  response : t.responsePart = s.responsePart
  opened : t.opened = true
  count : s.requestMessages ≤ t.requestMessages
  one : req = .one → s.requestMessages = 1 → t.requestMessages = 1
  bound : req = .one → t.requestMessages ≤ 1

theorem RpcLive.request (h : RpcLive req resp s)
    (hnext : rpcRecordStateNext sizeMax s .request record = .ok t) :
    RpcRequestMove sizeMax req resp s t record := by
  cases h with
  | init =>
    obtain ⟨hshaped, ⟨hkind, -, rfl⟩ | ⟨-, hne, -⟩⟩ := rpcRecordStateNext_init.mp hnext
    · exact ⟨.open 0 0 false false, rpcRecordStateNext_init.mpr
        ⟨hshaped, .inl ⟨hkind, rfl, rfl⟩⟩, rfl, rfl, le_refl _, fun _ h => h,
        fun _ => Nat.zero_le 1⟩
    · cases hne
  | «open» m n closed headers =>
    obtain ⟨hshaped, rfl, ⟨hkind, hmax, hone, rfl⟩ | ⟨hkind, hone, rfl⟩⟩ :=
      rpcRecordStateNext_request.mp hnext
    · refine ⟨.open _ _ _ _, rpcRecordStateNext_request.mpr
        ⟨hshaped, rfl, .inl ⟨hkind, hmax, hone, rfl⟩⟩, rfl, rfl, Nat.le_succ m,
        fun heq h => ?_, fun heq => ?_⟩
      · exact absurd ((hone heq).symm.trans h) (by decide)
      · exact Nat.succ_le_succ (hone heq).le
    · exact ⟨.open _ _ _ _, rpcRecordStateNext_request.mpr
        ⟨hshaped, rfl, .inr ⟨hkind, hone, rfl⟩⟩, rfl, rfl, le_refl _, fun _ h => h,
        fun heq => (hone heq).le⟩

/-- A request that the request part takes is taken by the state. -/
theorem RpcLive.request_of_part (h : RpcLive req resp s) {q : RpcRecordState}
    (hnext : rpcRecordStateNext sizeMax s.requestPart .request record = .ok q) :
    ∃ t, rpcRecordStateNext sizeMax s .request record = .ok t ∧ t.requestPart = q := by
  cases h with
  | init =>
    obtain ⟨hshaped, ⟨hkind, -, rfl⟩ | ⟨-, hne, -⟩⟩ := rpcRecordStateNext_init.mp hnext
    · exact ⟨_, hnext, rfl⟩
    · cases hne
  | «open» m n closed headers =>
    obtain ⟨hshaped, rfl, ⟨hkind, hmax, hone, rfl⟩ | ⟨hkind, hone, rfl⟩⟩ :=
      rpcRecordStateNext_request.mp hnext
    · exact ⟨_, rpcRecordStateNext_request.mpr ⟨hshaped, rfl, .inl ⟨hkind, hmax, hone, rfl⟩⟩, rfl⟩
    · exact ⟨_, rpcRecordStateNext_request.mpr ⟨hshaped, rfl, .inr ⟨hkind, hone, rfl⟩⟩, rfl⟩

/-- What a server may send, and how its parts move. -/
structure RpcResponseMove (sizeMax : Nat) (req resp : RpcCardinality)
    (s t : RpcRecordState) (record : RpcRecordHeader) : Prop where
  live : t.terminal = false → RpcLive req resp t
  part : rpcRecordStateNext sizeMax s.responsePart .response record = .ok t.responsePart
  request : t.requestPart = s.requestPart
  early : s.opened = true ∨ record.kind = RpcRecordKind.finalStatus.code ∧ record.status ≠ 0
  success : record.kind = RpcRecordKind.finalStatus.code → record.status = 0 →
    req = .one → s.requestMessages = 1

theorem RpcLive.response (h : RpcLive req resp s)
    (hnext : rpcRecordStateNext sizeMax s .response record = .ok t) :
    RpcResponseMove sizeMax req resp s t record := by
  cases h with
  | init =>
    obtain ⟨hshaped, ⟨-, hne, -⟩ | ⟨hkind, -, hstatus, rfl⟩⟩ :=
      rpcRecordStateNext_init.mp hnext
    · cases hne
    exact ⟨nofun, rpcRecordStateNext_response.mpr ⟨hshaped, .inr (.inr
      ⟨hkind, fun hok => absurd hok hstatus, rfl⟩)⟩, rfl, .inr ⟨hkind, hstatus⟩,
      fun _ hok => absurd hok hstatus⟩
  | «open» m n closed headers =>
    obtain ⟨hshaped, ⟨hkind, rfl, rfl⟩ | ⟨hkind, rfl, hmax, hone, rfl⟩ |
      ⟨hkind, hsuccess, rfl⟩⟩ := rpcRecordStateNext_response.mp hnext
    · exact ⟨fun _ => .open _ _ _ _, rpcRecordStateNext_response.mpr
        ⟨hshaped, .inl ⟨hkind, rfl, rfl⟩⟩, rfl, .inl rfl,
        fun hfinal => absurd (hkind.symm.trans hfinal) (by decide)⟩
    · exact ⟨fun _ => .open _ _ _ _, rpcRecordStateNext_response.mpr
        ⟨hshaped, .inr (.inl ⟨hkind, rfl, hmax, hone, rfl⟩)⟩, rfl, .inl rfl,
        fun hfinal => absurd (hkind.symm.trans hfinal) (by decide)⟩
    · exact ⟨nofun, rpcRecordStateNext_response.mpr ⟨hshaped, .inr (.inr
        ⟨hkind, fun hok => ⟨fun _ => rfl, (hsuccess hok).2⟩, rfl⟩)⟩, rfl, .inl rfl,
        fun _ hok heq => (hsuccess hok).1 heq⟩

/-- A response that the response part takes is taken by the state, if the call
is open or the response rejects it, and if a success finds its request. -/
theorem RpcLive.response_of_part (h : RpcLive req resp s) {q : RpcRecordState}
    (hnext : rpcRecordStateNext sizeMax s.responsePart .response record = .ok q)
    (hearly : s.opened = true ∨ record.kind = RpcRecordKind.finalStatus.code ∧ record.status ≠ 0)
    (hsuccess : record.kind = RpcRecordKind.finalStatus.code → record.status = 0 →
      req = .one → s.requestMessages = 1) :
    ∃ t, rpcRecordStateNext sizeMax s .response record = .ok t ∧ t.responsePart = q := by
  cases h with
  | init =>
    obtain ⟨hkind, hstatus⟩ := hearly.resolve_left nofun
    obtain ⟨hshaped, ⟨hne, -⟩ | ⟨hne, -⟩ | ⟨-, -, rfl⟩⟩ :=
      rpcRecordStateNext_response.mp hnext
    · exact absurd (hne.symm.trans hkind) (by decide)
    · exact absurd (hne.symm.trans hkind) (by decide)
    · exact ⟨_, rpcRecordStateNext_init.mpr ⟨hshaped, .inr ⟨hkind, rfl, hstatus, rfl⟩⟩, rfl⟩
  | «open» m n closed headers =>
    obtain ⟨hshaped, ⟨hkind, rfl, rfl⟩ | ⟨hkind, rfl, hmax, hone, rfl⟩ |
      ⟨hkind, hdone, rfl⟩⟩ := rpcRecordStateNext_response.mp hnext
    · exact ⟨_, rpcRecordStateNext_response.mpr ⟨hshaped, .inl ⟨hkind, rfl, rfl⟩⟩, rfl⟩
    · exact ⟨_, rpcRecordStateNext_response.mpr
        ⟨hshaped, .inr (.inl ⟨hkind, rfl, hmax, hone, rfl⟩)⟩, rfl⟩
    · exact ⟨_, rpcRecordStateNext_response.mpr ⟨hshaped, .inr (.inr
        ⟨hkind, fun hok => ⟨hsuccess hkind hok, (hdone hok).2⟩, rfl⟩)⟩, rfl⟩

end Parts

/-! ## The invariant -/

/-- Requests as events. -/
def rpcRequests (records : List RpcRecordHeader) : List RpcRecordEvent :=
  records.map fun record => ⟨.request, record⟩

/-- Responses as events. -/
def rpcResponses (records : List RpcRecordHeader) : List RpcRecordEvent :=
  records.map fun record => ⟨.response, record⟩

/-- How the two automata and the records under way belong together. -/
structure RpcPeersOk (sizeMax : Nat) (req resp : RpcCardinality) (p : RpcPeers) :
    Prop where
  client : p.client.terminal = false → RpcLive req resp p.client
  server : p.server.terminal = false → RpcLive req resp p.server
  requests : p.server.terminal = false → Lib.runSteps (rpcRecordStep sizeMax) p.server.requestPart
      (rpcRequests p.requests) = some p.client.requestPart
  responses : p.client.terminal = false ∨ p.aborted = false →
    ∃ t, Lib.runSteps (rpcRecordStep sizeMax) p.client.responsePart
        (rpcResponses p.responses) = some t ∧
      (p.server.terminal = false ∨ p.aborted = false → t = p.server.responsePart)
  opened : p.server.opened = true → p.client.opened = true
  count : p.server.requestMessages ≤ p.client.requestMessages
  one : req = .one → p.client.requestMessages ≤ 1
  early : ∀ record ∈ p.responses, p.client.opened = true ∨
    record.kind = RpcRecordKind.finalStatus.code ∧ record.status ≠ 0
  success : ∀ record ∈ p.responses,
    record.kind = RpcRecordKind.finalStatus.code → record.status = 0 →
      req = .one → p.client.requestMessages = 1

section Run

variable {sizeMax : Nat} {req resp : RpcCardinality}

theorem rpcPeersOk_init : RpcPeersOk sizeMax req resp (.init req resp) where
  client _ := .init
  server _ := .init
  requests _ := rfl
  responses _ := ⟨_, rfl, fun _ => rfl⟩
  opened h := h
  count := le_refl _
  one _ := Nat.zero_le 1
  early := by simp [RpcPeers.init]
  success := by simp [RpcPeers.init]

/-- Requests only open a call and add to its count. -/
theorem rpcRequests_mono {s t : RpcRecordState} {records : List RpcRecordHeader}
    (h : RpcLive req resp s)
    (hrun : Lib.runSteps (rpcRecordStep sizeMax) s (rpcRequests records) = some t) :
    (s.opened = true → t.opened = true) ∧ s.requestMessages ≤ t.requestMessages := by
  induction records generalizing s with
  | nil =>
    obtain rfl : s = t := by simpa [rpcRequests] using hrun
    exact ⟨id, le_refl _⟩
  | cons record rest ih =>
    obtain ⟨mid, hmid, hrest⟩ := Lib.runSteps_cons_eq_some.mp hrun
    have hmove := h.request (rpcRecordStep_eq_some.mp hmid)
    obtain ⟨hopened, hcount⟩ := ih hmove.live hrest
    exact ⟨fun _ => hopened hmove.opened, hmove.count.trans hcount⟩

theorem RpcLive.requestPart {s : RpcRecordState} (h : RpcLive req resp s) :
    RpcLive req resp s.requestPart := by
  cases h with
  | init => exact .init
  | «open» m n closed headers => exact .open _ _ _ _

section Steps

variable {p : RpcPeers} {record : RpcRecordHeader} {next : RpcRecordState}

section

variable (h : RpcPeersOk sizeMax req resp p)

include h

theorem RpcPeersOk.sendClient
    (hnext : rpcRecordStateNext sizeMax p.client .request record = .ok next) :
    RpcPeersOk sizeMax req resp
      { p with client := next, requests := p.requests ++ [record] } := by
  have hmove := (h.client (rpcRecordStateNext_terminal hnext)).request hnext
  have hterminal : next.terminal = p.client.terminal :=
    (RpcRecordState.eq_of_responsePart hmove.response).1
  refine ⟨fun _ => hmove.live, h.server, fun hserver => ?_, fun hor => ?_,
    fun _ => hmove.opened, h.count.trans hmove.count, hmove.bound,
    fun r hr => .inl hmove.opened,
    fun r hr hkind hok hone => hmove.one hone (h.success r hr hkind hok hone)⟩
  · rw [rpcRequests, List.map_append]
    exact Lib.runSteps_append.mpr ⟨_, h.requests hserver,
      Lib.runSteps_singleton.mpr (rpcRecordStep_eq_some.mpr hmove.part)⟩
  · rw [hterminal] at hor
    rw [hmove.response]
    exact h.responses hor

theorem RpcPeersOk.sendServer
    (hnext : rpcRecordStateNext sizeMax p.server .response record = .ok next) :
    RpcPeersOk sizeMax req resp
      { p with server := next, responses := p.responses ++ [record] } := by
  have hlive := rpcRecordStateNext_terminal hnext
  have hmove := (h.server hlive).response hnext
  have hopened : next.opened = p.server.opened :=
    (RpcRecordState.eq_of_requestPart hmove.request).1
  have hcount : next.requestMessages = p.server.requestMessages :=
    (RpcRecordState.eq_of_requestPart hmove.request).2
  refine ⟨h.client, hmove.live, fun _ => ?_, fun hor => ?_, hopened ▸ h.opened,
    hcount ▸ h.count, h.one, fun r hr => ?_, fun r hr hkind hok hone => ?_⟩
  · rw [hmove.request]
    exact h.requests hlive
  · obtain ⟨t, hrun, ht⟩ := h.responses hor
    obtain rfl := ht (.inl hlive)
    refine ⟨next.responsePart, ?_, fun _ => rfl⟩
    rw [rpcResponses, List.map_append]
    exact Lib.runSteps_append.mpr ⟨_, hrun,
      Lib.runSteps_singleton.mpr (rpcRecordStep_eq_some.mpr hmove.part)⟩
  · rcases Lib.mem_concat.1 hr with hr | rfl
    · exact h.early r hr
    · exact hmove.early.imp_left h.opened
  · rcases Lib.mem_concat.1 hr with hr | rfl
    · exact h.success r hr hkind hok hone
    · -- The server has the one request, so the client has sent it and no other.
      have hserver := hmove.success hkind hok hone
      have hcount := h.count
      have hbound := h.one hone
      dsimp only
      omega

variable {rest : List RpcRecordHeader}

/-- The oldest request under way is accepted unless the server has ended. -/
theorem RpcPeersOk.serverAccepts (hrequests : p.requests = record :: rest)
    (hlive : p.server.terminal = false) :
    ∃ next, rpcRecordStateNext sizeMax p.server .request record = .ok next ∧
      Lib.runSteps (rpcRecordStep sizeMax) next.requestPart (rpcRequests rest) =
        some p.client.requestPart := by
  have hrun := h.requests hlive
  rw [hrequests] at hrun
  obtain ⟨mid, hmid, hrest⟩ := Lib.runSteps_cons_eq_some.mp hrun
  obtain ⟨next, hnext, rfl⟩ :=
    (h.server hlive).request_of_part (rpcRecordStep_eq_some.mp hmid)
  exact ⟨next, hnext, hrest⟩

/-- The oldest response under way is accepted unless the client has ended. -/
theorem RpcPeersOk.clientAccepts (hresponses : p.responses = record :: rest)
    (hlive : p.client.terminal = false) :
    ∃ next, rpcRecordStateNext sizeMax p.client .response record = .ok next ∧
      ∃ t, Lib.runSteps (rpcRecordStep sizeMax) next.responsePart (rpcResponses rest) = some t ∧
        (p.server.terminal = false ∨ p.aborted = false → t = p.server.responsePart) := by
  obtain ⟨t, hrun, ht⟩ := h.responses (.inl hlive)
  rw [hresponses] at hrun
  obtain ⟨mid, hmid, hrest⟩ := Lib.runSteps_cons_eq_some.mp hrun
  have hmem : record ∈ p.responses := by simp [hresponses]
  obtain ⟨next, hnext, rfl⟩ := (h.client hlive).response_of_part
    (rpcRecordStep_eq_some.mp hmid) (h.early record hmem) (h.success record hmem)
  exact ⟨next, hnext, t, hrest, ht⟩

theorem RpcPeersOk.deliverServer (hrequests : p.requests = record :: rest) :
    RpcPeersOk sizeMax req resp { p with
      server := (rpcRecordStateApply sizeMax p.server .request record).2
      requests := rest } := by
  cases hterminal : p.server.terminal with
  | true =>
    rw [rpcRecordStateApply_rejected (rpcRecordStateApply_terminal hterminal _ _)]
    exact ⟨h.client, h.server, fun hlive => (nomatch hterminal.symm.trans hlive),
      h.responses, h.opened, h.count, h.one, h.early, h.success⟩
  | false =>
    obtain ⟨next, hnext, hrest⟩ := h.serverAccepts hrequests hterminal
    have hmove := (h.server hterminal).request hnext
    have hmono := rpcRequests_mono hmove.live.requestPart hrest
    have hterminal' : next.terminal = p.server.terminal :=
      (RpcRecordState.eq_of_responsePart hmove.response).1
    rw [rpcRecordStateApply_eq_ok.mpr hnext]
    refine ⟨h.client, fun _ => hmove.live, fun _ => hrest, fun hor => ?_, hmono.1,
      hmono.2, h.one, h.early, h.success⟩
    obtain ⟨t, hrun, ht⟩ := h.responses hor
    refine ⟨t, hrun, fun _ => ?_⟩
    rw [ht (.inl hterminal)]
    exact hmove.response.symm

theorem RpcPeersOk.deliverClient (hresponses : p.responses = record :: rest) :
    RpcPeersOk sizeMax req resp { p with
      client := (rpcRecordStateApply sizeMax p.client .response record).2
      responses := rest } := by
  have hrestEarly : ∀ r ∈ rest, r ∈ p.responses := by
    intro r hr
    rw [hresponses]
    exact List.mem_cons_of_mem _ hr
  cases hterminal : p.client.terminal with
  | true =>
    rw [rpcRecordStateApply_rejected (rpcRecordStateApply_terminal hterminal _ _)]
    refine ⟨h.client, h.server, h.requests, fun hor => ?_, h.opened, h.count, h.one,
      fun r hr => h.early r (hrestEarly r hr), fun r hr => h.success r (hrestEarly r hr)⟩
    -- Without an abort an ended client has nothing left to receive.
    obtain ⟨t, hrun, -⟩ := h.responses hor
    have hnil := rpcRecordRun_terminal (show p.client.responsePart.terminal = true
      from hterminal) hrun
    rw [hresponses] at hnil
    cases hnil
  | false =>
    obtain ⟨next, hnext, t, hrun, ht⟩ := h.clientAccepts hresponses hterminal
    have hmove := (h.client hterminal).response hnext
    have hopened : next.opened = p.client.opened :=
      (RpcRecordState.eq_of_requestPart hmove.request).1
    have hcount : next.requestMessages = p.client.requestMessages :=
      (RpcRecordState.eq_of_requestPart hmove.request).2
    rw [rpcRecordStateApply_eq_ok.mpr hnext]
    refine ⟨hmove.live, h.server, fun hlive => ?_, fun _ => ⟨t, hrun, ht⟩, ?_, ?_, ?_,
      fun r hr => ?_, fun r hr => ?_⟩
    · rw [hmove.request]
      exact h.requests hlive
    · rw [hopened]
      exact h.opened
    · rw [hcount]
      exact h.count
    · rw [hcount]
      exact h.one
    · rw [hopened]
      exact h.early r (hrestEarly r hr)
    · rw [hcount]
      exact h.success r (hrestEarly r hr)

omit h in
theorem rpcRecordStateAbort_eq_ok {s : RpcRecordState} {status : UInt32}
    (h : rpcRecordStateAbort s status = (.ok, next)) : next = s.ended status := by
  unfold rpcRecordStateAbort at h
  split at h
  · cases h
  split at h
  · cases h
  · cases h
    rfl

theorem RpcPeersOk.abortClient (status : UInt32) :
    RpcPeersOk sizeMax req resp
      { p with client := p.client.ended status, aborted := true } :=
  ⟨nofun, h.server, h.requests, nofun, h.opened, h.count, h.one, h.early, h.success⟩

theorem RpcPeersOk.abortServer (status : UInt32) :
    RpcPeersOk sizeMax req resp
      { p with server := p.server.ended status, aborted := true } := by
  refine ⟨h.client, nofun, nofun, fun hor => ?_, h.opened, h.count, h.one, h.early, h.success⟩
  obtain ⟨t, hrun, -⟩ := h.responses (.inl (hor.resolve_right nofun))
  exact ⟨t, hrun, nofun⟩

end

end Steps

/-- Every action keeps the invariant. -/
theorem RpcPeersOk.step {p p' : RpcPeers} {action : RpcPeersAction}
    (h : RpcPeersOk sizeMax req resp p)
    (hstep : rpcPeersStep sizeMax p action = some p') :
    RpcPeersOk sizeMax req resp p' := by
  unfold rpcPeersStep at hstep
  split at hstep
  · split at hstep
    next hnext =>
      cases hstep
      exact h.sendClient (rpcRecordStateApply_eq_ok.mp hnext)
    · cases hstep
      exact h
  · split at hstep
    next hnext =>
      cases hstep
      exact h.sendServer (rpcRecordStateApply_eq_ok.mp hnext)
    · cases hstep
      exact h
  · split at hstep
    · cases hstep
    next hrequests =>
      cases hstep
      exact h.deliverServer hrequests
  · split at hstep
    · cases hstep
    next hresponses =>
      cases hstep
      exact h.deliverClient hresponses
  · split at hstep
    next hnext =>
      cases hstep
      rw [rpcRecordStateAbort_eq_ok hnext]
      exact h.abortClient _
    · cases hstep
      exact h
  · split at hstep
    next hnext =>
      cases hstep
      rw [rpcRecordStateAbort_eq_ok hnext]
      exact h.abortServer _
    · cases hstep
      exact h

theorem rpcPeersOk_run {p : RpcPeers} {actions : List RpcPeersAction}
    (hrun : Lib.runSteps (rpcPeersStep sizeMax) (.init req resp) actions = some p) :
    RpcPeersOk sizeMax req resp p :=
  Lib.runSteps_invariant (fun _ _ _ h hstep => h.step hstep) rpcPeersOk_init hrun

end Run

/-- Honest peers agree on what is legal.  In every state that the two ends of a
call reach, the oldest record under way in each direction, which its sender
accepted, is accepted by a receiver that has not ended; and when no side has
aborted and everything is delivered, both have ended with one status or neither
has ended. -/
theorem rpc_peers_agree (sizeMax : Nat) (req resp : RpcCardinality)
    (actions : List RpcPeersAction) (p : RpcPeers)
    (hrun : Lib.runSteps (rpcPeersStep sizeMax) (.init req resp) actions = some p) :
    (∀ record rest, p.requests = record :: rest → p.server.terminal = false →
      (rpcRecordStateApply sizeMax p.server .request record).1 = .ok) ∧
    (∀ record rest, p.responses = record :: rest → p.client.terminal = false →
      (rpcRecordStateApply sizeMax p.client .response record).1 = .ok) ∧
    (p.aborted = false → p.requests = [] → p.responses = [] →
      p.client.terminal = p.server.terminal ∧ p.client.finalStatus = p.server.finalStatus) := by
  have h : RpcPeersOk sizeMax req resp p := rpcPeersOk_run hrun
  refine ⟨fun record rest hrequests hlive => ?_, fun record rest hresponses hlive => ?_,
    fun haborted _ hresponses => ?_⟩
  · obtain ⟨next, hnext, -⟩ := h.serverAccepts hrequests hlive
    rw [rpcRecordStateApply_eq_ok.mpr hnext]
  · obtain ⟨next, hnext, -⟩ := h.clientAccepts hresponses hlive
    rw [rpcRecordStateApply_eq_ok.mpr hnext]
  · obtain ⟨t, hrun, ht⟩ := h.responses (.inr haborted)
    rw [hresponses] at hrun
    obtain rfl : p.client.responsePart = t := by simpa [rpcResponses] using hrun
    have hparts := ht (.inr haborted)
    exact RpcRecordState.eq_of_responsePart hparts

/-- A server that rejects a call while its OPEN is under way: both ends have the
status of the rejection when it has arrived. -/
theorem rpc_peers_agree_rejected : let p : RpcPeers :=
      ⟨(rpcCallState .one .one 0 0 false false).ended 14,
        (RpcRecordState.init .one .one).ended 14, [], [], false⟩
    Lib.runSteps (rpcPeersStep 0xffff) (.init .one .one)
        [.send .client ⟨1, 0, 0, 0, 0, 0, 0, 0, 0, 0⟩, .send .server (rpcFinalStatus 14),
          .deliver .server, .deliver .client] = some p ∧
      p.client.terminal = p.server.terminal ∧
      p.client.finalStatus = p.server.finalStatus := by
  have hrun : Lib.runSteps (rpcPeersStep 0xffff) (.init .one .one)
      [.send .client ⟨1, 0, 0, 0, 0, 0, 0, 0, 0, 0⟩, .send .server (rpcFinalStatus 14),
        .deliver .server, .deliver .client] =
      some ⟨(rpcCallState .one .one 0 0 false false).ended 14,
        (RpcRecordState.init .one .one).ended 14, [], [], false⟩ := by
    decide
  exact ⟨hrun, (rpc_peers_agree 0xffff .one .one _ _ hrun).2.2 rfl rfl rfl⟩

end Trpc
