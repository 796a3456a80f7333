import Trpc.Rpc.RecordStream

/-!
# The router of a server

`rpc_record_router.c`: a stream whose method is not known yet.  The router collects
the fixed header, looks the method up, creates the binding and gives it the header
and everything after it.

The result is that a call which comes through the router is the call of a binding
that was created for its method at once, in whatever pieces the bytes arrived on
either side.  The bytes decide alone what is delivered.

What does not hold is that a call that has ended leaves no storage charged.  A record
that the application sends between two pieces may end the call; the piece of a
record that was collected by then stays charged.
-/

namespace Trpc

open Lib List Option

/-! ## The table of methods -/

/-- `tr_method_compare`. -/
def methodCompare (a : RpcMethodDesc) (service method : UInt32) : Ordering :=
  if a.serviceId ≠ service then (if a.serviceId < service then .lt else .gt)
  else if a.methodId < method then .lt
  else if a.methodId ≠ method then .gt
  else .eq

/-- One turn of the insertion sort of `tr_rpc_record_router_create_on_owner`.  The
methods so far are listed from the last one down, as the loop walks them. -/
def routerInsert (method : RpcMethodDesc) : List RpcMethodDesc → Option (List RpcMethodDesc)
  | [] => some [method]
  | last :: before =>
    match methodCompare last method.serviceId method.methodId with
    | .gt => (routerInsert method before).map (last :: ·)
    | .eq => none
    | .lt => some (method :: last :: before)

/-- The sorted table, or a refusal when a method is listed twice. -/
def routerTable (methods : List RpcMethodDesc) : Option (List RpcMethodDesc) :=
  (methods.foldlM (fun table method => routerInsert method table) []).map List.reverse

/-- The loop of `tr_router_method`. -/
def routerSearch (table : List RpcMethodDesc) (service method : UInt32) :
    Nat → Nat → Nat → Option RpcMethodDesc
  | 0, _, _ => none
  | fuel + 1, lo, hi =>
    if lo < hi then
      let mid := lo + (hi - lo) / 2
      match table[mid]? with
      | none => none
      | some found =>
        match methodCompare found service method with
        | .eq => some found
        | .lt => routerSearch table service method fuel (mid + 1) hi
        | .gt => routerSearch table service method fuel lo mid
    else none

/-- `tr_router_method`.  The interval shrinks in every round. -/
def routerMethod (table : List RpcMethodDesc) (service method : UInt32) : Option RpcMethodDesc :=
  routerSearch table service method (table.length + 1) 0 table.length

/-! ## Routes -/

/-- A router with the streams of one lane. -/
structure RouterConfig where
  sizeMax : Nat
  limit : Nat
  lane : UInt32
  table : List RpcMethodDesc

/-- The configuration of the binding that a method gets. -/
def RouterConfig.stream (rc : RouterConfig) (method : RpcMethodDesc) : RecordStreamConfig where
  sizeMax := rc.sizeMax
  limit := rc.limit
  sendDirection := .response
  method := method

/-- The limits with which the router reads a header. -/
def routerLimits : RpcRecordLimits where
  maxEncodedSize := 0
  maxDecodedSize := 0
  maxMetadataSize := rpcMetadataMaxBytes
  acceptedCompression := rpcRecordAcceptNone

/-- `struct tr_rpc_route`; `terminal` is the status of its terminal callback. -/
structure Route where
  binding : Option RecordStream := none
  method : Option RpcMethodDesc := none
  head : List UInt8 := []
  terminal : Option UInt32 := none

/-- The records that the application was given. -/
def Route.delivered (route : Route) : List RpcRecordView :=
  match route.binding with
  | none => []
  | some s => s.call.delivered

/-- A piece goes to the binding, whose terminal callback is the route's. -/
def Route.bind (route : Route) (s : RecordStream) : Route :=
  { route with binding := some s, terminal := s.notified }

/-- `TR_RPC_STATUS_UNIMPLEMENTED`. -/
def rpcStatusUnimplemented : UInt32 := 12

/-- What the router makes of the first bytes of a call: nothing while the header is incomplete,
an end with the method that was found, or the binding of a method. -/
def routerChoose (rc : RouterConfig) (head : List UInt8) :
    Option (Except (UInt32 × Option RpcMethodDesc) (RpcMethodDesc × RecordStream)) :=
  match rpcRecordDecodeHeader rc.sizeMax head routerLimits with
  | .error .again => none
  | .error ret => some (.error (recordErrorStatus ret, none))
  | .ok (header, _) =>
    if header.kind ≠ RpcRecordKind.open.code then
      some (.error (recordErrorStatus .errBadType, none))
    else match routerMethod rc.table header.serviceId header.methodId with
      | none => some (.error (rpcStatusUnimplemented, none))
      | some method =>
        match recordStreamCreate (rc.stream method) rc.lane with
        | .error ret => some (.error (recordErrorStatus ret, some method))
        | .ok s => some (.ok (method, s))

/-- `tr_rpc_record_router_receive_on_owner`, on the route of a stream. -/
def routeReceive (rc : RouterConfig) (app : RpcMethodDesc → RecordApp) (route : Route)
    (data : List UInt8) : Route :=
  if route.terminal.isSome then route
  else match route.binding, route.method with
  | some s, some method =>
    route.bind (recordStreamReceive (rc.stream method) (app method) s data).2
  | _, _ =>
    let amount := min (rpcRecordHeaderSize - route.head.length) data.length
    let head := route.head ++ data.take amount
    match routerChoose rc head with
    | none => { route with head := head }
    | some (.error (status, method)) =>
      { route with
        method := method.or route.method
        head := []
        terminal := some status }
    | some (.ok (method, s)) =>
      let (ret, s) := recordStreamReceive (rc.stream method) (app method) s head
      let route := Route.bind { route with method := some method, head := [] } s
      if ret ≠ .ok ∨ route.terminal.isSome then route
      else route.bind (recordStreamReceive (rc.stream method) (app method) s
        (data.drop amount)).2

/-- The stream messages of a routed call. -/
def routeReceiveAll (rc : RouterConfig) (app : RpcMethodDesc → RecordApp) (route : Route)
    (chunks : List (List UInt8)) : Route :=
  chunks.foldl (routeReceive rc app) route

/-! ## The lookup finds every method of the table -/

/-- Two methods are compared by their identifiers. -/
def Precedes (a b : RpcMethodDesc) : Prop :=
  methodCompare a b.serviceId b.methodId = .lt

theorem methodCompare_lt_iff (a : RpcMethodDesc) (service method : UInt32) :
    methodCompare a service method = .lt ↔
      a.serviceId < service ∨ a.serviceId = service ∧ a.methodId < method := by
  unfold methodCompare
  split_ifs with hservice hlt hmethod hne
  · exact ⟨fun _ => .inl hlt, fun _ => rfl⟩
  · exact ⟨nofun, fun h => (h.elim hlt fun h => hservice h.1).elim⟩
  · exact ⟨fun _ => .inr ⟨not_not.1 hservice, hmethod⟩, fun _ => rfl⟩
  · refine ⟨nofun, fun h => (h.elim (fun h => ?_) fun h => hmethod h.2).elim⟩
    exact UInt32.lt_irrefl _ (not_not.1 hservice ▸ h)
  · refine ⟨nofun, fun h => (h.elim (fun h => ?_) fun h => hmethod h.2).elim⟩
    exact UInt32.lt_irrefl _ (not_not.1 hservice ▸ h)

theorem methodCompare_gt_iff (a : RpcMethodDesc) (service method : UInt32) :
    methodCompare a service method = .gt ↔
      service < a.serviceId ∨ service = a.serviceId ∧ method < a.methodId := by
  unfold methodCompare
  simp only [UInt32.lt_iff_toNat_lt, ne_eq, ← UInt32.toNat_inj]
  split_ifs
  · exact ⟨nofun, fun h => by omega⟩
  · exact ⟨nofun, fun h => by omega⟩
  · exact ⟨fun _ => by omega, fun _ => rfl⟩
  · exact ⟨nofun, fun h => by omega⟩
  · exact ⟨fun _ => by omega, fun _ => rfl⟩

theorem methodCompare_gt {a b : RpcMethodDesc}
    (h : methodCompare a b.serviceId b.methodId = .gt) : Precedes b a :=
  (methodCompare_lt_iff b _ _).2 ((methodCompare_gt_iff a _ _).1 h)

theorem Precedes.gt {a b : RpcMethodDesc} (h : Precedes a b) :
    methodCompare b a.serviceId a.methodId = .gt :=
  (methodCompare_gt_iff b _ _).2 ((methodCompare_lt_iff a _ _).1 h)

theorem Precedes.trans {a b c : RpcMethodDesc} (h : Precedes a b) (h' : Precedes b c) :
    Precedes a c := by
  unfold Precedes at *
  rw [methodCompare_lt_iff] at *
  simp only [UInt32.lt_iff_toNat_lt, ← UInt32.toNat_inj] at *
  omega

theorem methodCompare_self (a : RpcMethodDesc) : methodCompare a a.serviceId a.methodId = .eq := by
  unfold methodCompare
  rw [if_neg (not_not.mpr rfl), if_neg (UInt32.lt_irrefl _), if_neg (not_not.mpr rfl)]

/-- The insertion keeps the order, and adds the method. -/
theorem routerInsert_sorted {method : RpcMethodDesc} {table table' : List RpcMethodDesc}
    (hsorted : table.Pairwise fun a b => Precedes b a)
    (h : routerInsert method table = some table') :
    (table'.Pairwise fun a b => Precedes b a) ∧ ∀ m, m ∈ table' ↔ m = method ∨ m ∈ table := by
  induction table generalizing table' with
  | nil =>
    cases h
    exact ⟨pairwise_singleton _ _, fun m => by simp⟩
  | cons last before ih =>
    obtain ⟨hlast, hbefore⟩ := pairwise_cons.1 hsorted
    unfold routerInsert at h
    split at h
    next hgt =>
      obtain ⟨rest, hrest, rfl⟩ := map_eq_some_iff.1 h
      obtain ⟨hsorted', hmem⟩ := ih hbefore hrest
      refine ⟨pairwise_cons.2 ⟨fun m hm => ?_, hsorted'⟩, fun m => ?_⟩
      · rcases (hmem m).1 hm with rfl | hm
        · exact methodCompare_gt hgt
        · exact hlast m hm
      · rw [mem_cons, hmem, mem_cons]
        tauto
    · cases h
    next hlt =>
      cases h
      refine ⟨pairwise_cons.2 ⟨fun m hm => ?_, hsorted⟩, fun m => mem_cons⟩
      rcases mem_cons.1 hm with rfl | hm
      · exact hlt
      · exact (hlast m hm).trans hlt

variable {cfg : RecordStreamConfig} {methods table : List RpcMethodDesc} {sizeMax : Nat}
  {header : RpcRecordHeader}

theorem routerTable_sorted (h : routerTable methods = some table) :
    table.Pairwise Precedes ∧ ∀ m ∈ methods, m ∈ table := by
  obtain ⟨reversed, hfold, rfl⟩ := map_eq_some_iff.1 h
  have hall : ∀ (rest start finish : List RpcMethodDesc), (start.Pairwise fun a b => Precedes b a) →
      rest.foldlM (fun table method => routerInsert method table) start = some finish →
      (finish.Pairwise fun a b => Precedes b a) ∧ ∀ m, m ∈ rest ∨ m ∈ start → m ∈ finish := by
    intro rest
    induction rest with
    | nil =>
      intro start finish hstart hrun
      cases hrun
      exact ⟨hstart, fun m hm => hm.resolve_left not_mem_nil⟩
    | cons method rest ih =>
      intro start finish hstart hrun
      rw [foldlM_cons] at hrun
      obtain ⟨mid, hinsert, hrest⟩ := bind_eq_some_iff.1 hrun
      obtain ⟨hsorted, hmem⟩ := routerInsert_sorted hstart hinsert
      obtain ⟨hfinish, hkeep⟩ := ih mid finish hsorted hrest
      refine ⟨hfinish, fun m hm => hkeep m ?_⟩
      rcases hm with hm | hm
      · rcases mem_cons.1 hm with rfl | hm
        · exact .inr ((hmem m).2 (.inl rfl))
        · exact .inl hm
      · exact .inr ((hmem m).2 (.inr hm))
  obtain ⟨hsorted, hmem⟩ := hall methods [] reversed List.Pairwise.nil hfold
  exact ⟨pairwise_reverse.2 hsorted, fun m hm => mem_reverse.2 (hmem m (.inl hm))⟩

/-- The search finds the entry that lies in its interval. -/
theorem routerSearch_eq {table : List RpcMethodDesc} (hsorted : table.Pairwise Precedes)
    {k : Nat} (hk : k < table.length) (fuel lo hi : Nat) (hlo : lo ≤ k) (hhi : k < hi)
    (htable : hi ≤ table.length) (hfuel : hi - lo < fuel) :
    routerSearch table table[k].serviceId table[k].methodId fuel lo hi = some table[k] := by
  induction fuel generalizing lo hi with
  | zero => exact absurd hfuel (Nat.not_lt_zero _)
  | succ fuel ih =>
    unfold routerSearch
    rw [if_pos (hlo.trans_lt hhi)]
    dsimp only
    generalize hmid : lo + (hi - lo) / 2 = mid
    have hmid' : mid < table.length := by omega
    rw [getElem?_eq_getElem hmid']
    dsimp only
    have horder := pairwise_iff_getElem.1 hsorted
    rcases lt_trichotomy mid k with hlt | heq | hgt
    · rw [horder mid k hmid' hk hlt]
      exact ih (mid + 1) hi hlt hhi htable (by omega)
    · subst heq
      rw [methodCompare_self]
    · rw [(horder k mid hk hmid' hgt).gt]
      exact ih lo mid hlo hgt hmid'.le (by omega)

theorem routerMethod_eq
    (h : routerTable methods = some table) {m : RpcMethodDesc} (hm : m ∈ methods) :
    routerMethod table m.serviceId m.methodId = some m := by
  obtain ⟨hsorted, hmem⟩ := routerTable_sorted h
  obtain ⟨k, hk, rfl⟩ := getElem_of_mem (hmem m hm)
  exact routerSearch_eq hsorted hk _ 0 table.length (Nat.zero_le _) hk (le_refl _) (by omega)

/-! ## What the limits of the router leave open -/

theorem routerLimits_valid : rpcRecordLimitsValid routerLimits = true := by decide

theorem rxLimits_valid (cfg : RecordStreamConfig) : rpcRecordLimitsValid cfg.rxLimits = true :=
  routerLimits_valid

/-- Whether bytes of the header are missing does not depend on the limits. -/
theorem rpcRecordDecodeHeader_again_congr {limits limits' : RpcRecordLimits}
    (hlimits : rpcRecordLimitsValid limits = true)
    (hlimits' : rpcRecordLimitsValid limits' = true) {data : List UInt8}
    (h : rpcRecordDecodeHeader sizeMax data limits = .error .again) :
    rpcRecordDecodeHeader sizeMax data limits' = .error .again := by
  have hshort := rpcRecordDecodeHeader_again h
  unfold rpcRecordDecodeHeader at h ⊢
  rw [if_neg (not_not.mpr hlimits)] at h
  rw [if_neg (not_not.mpr hlimits')]
  rw [if_pos hshort] at h ⊢
  exact h

/-- An OPEN that a binding would accept has no body, so the router accepts it. -/
theorem rpcRecordValidate_open {total : Nat} (hkind : header.kind = RpcRecordKind.open.code)
    (h : rpcRecordValidate sizeMax header cfg.rxLimits = .ok total) :
    rpcRecordValidate sizeMax header routerLimits = .ok total := by
  unfold rpcRecordValidate at h ⊢
  obtain ⟨_, h⟩ := check_eq_ok.mp h
  obtain ⟨hvalid, h⟩ := check_eq_ok.mp h
  obtain ⟨hsizes, h⟩ := check_eq_ok.mp h
  dsimp only at h ⊢
  obtain ⟨hfits, h⟩ := check_eq_ok.mp h
  obtain ⟨hopen, h⟩ := check_eq_ok.mp h
  obtain ⟨hstatus, h⟩ := check_eq_ok.mp h
  have hmessage : header.kind ≠ RpcRecordKind.message.code := by
    rw [hkind]
    decide
  unfold rpcRecordKindFields at h ⊢
  rw [if_pos hmessage] at h
  have hempty := (check_eq_ok.mp h).1
  simp only [ne_eq, not_or, not_not] at hempty
  have hsmall : ¬ (routerLimits.maxMetadataSize < header.metadataSize ∨
      routerLimits.maxEncodedSize < header.encodedSize ∨
      routerLimits.maxDecodedSize < header.decodedSize) := by
    rw [hempty.2.2.1, hempty.2.2.2]
    exact fun hbad => hbad.elim (fun hmeta => hsizes (.inl hmeta)) (by decide)
  rw [if_neg (not_not.mpr routerLimits_valid), if_neg hvalid, if_neg hsmall,
    if_neg hfits, if_neg hopen, if_neg hstatus, if_pos hmessage]
  exact h

/-- A call that has not begun takes nothing but an OPEN. -/
theorem recordPreflight_unopened {state : RpcRecordState}
    (hinit : state.initialized = true) (hlive : state.terminal = false)
    (hunopened : state.opened = false)
    (hkind : header.kind ≠ RpcRecordKind.open.code) :
    ∃ ret, recordPreflight cfg state .request header = .error ret ∧ ret ≠ .errNomem := by
  have hnext : ∃ ret, rpcRecordStateNext cfg.sizeMax state .request header = .error ret ∧
      ret ≠ .errNomem := by
    unfold rpcRecordStateNext
    rw [if_neg (not_not.mpr hinit), hlive, if_neg Bool.false_ne_true]
    cases hvalid : rpcRecordValidate cfg.sizeMax header rpcRecordShape with
    | error ret => exact ⟨ret, rfl, (rpcRecordValidate_error hvalid).2.1⟩
    | ok total =>
      refine ⟨.errState, ?_, by decide⟩
      dsimp only
      rw [hunopened, if_pos Bool.false_ne_true]
      unfold rpcRecordStateUnopened
      rw [if_neg fun h => hkind h.1, if_neg (by rintro ⟨_, h, _⟩; cases h)]
  unfold recordPreflight
  dsimp only
  rw [if_neg fun h => hkind h.1]
  by_cases hcodec : header.kind = RpcRecordKind.message.code ∧
      header.codecId ≠ cfg.method.requestCodecId
  · exact ⟨.errBadType, if_pos hcodec, by decide⟩
  rw [if_neg hcodec]
  by_cases hsize : header.kind = RpcRecordKind.message.code ∧
      (cfg.limits .request).maxDecodedSize < header.decodedSize
  · exact ⟨.errBadLength, if_pos hsize, by decide⟩
  rw [if_neg hsize]
  exact hnext

/-! ## The route of a call follows the reader of its bytes -/

/-- When the bytes begin with an OPEN, it names the method. -/
def Names (sizeMax : Nat) (m : RpcMethodDesc) (bytes : List UInt8) : Prop :=
  ∀ header total, rpcRecordDecodeHeader sizeMax bytes routerLimits = .ok (header, total) →
    header.kind = RpcRecordKind.open.code →
    header.serviceId = m.serviceId ∧ header.methodId = m.methodId

/-- The head of a route after a piece is the beginning of all its bytes. -/
theorem head_eq {bytes data : List UInt8} (h : bytes.length < rpcRecordHeaderSize) :
    bytes ++ data.take (min (rpcRecordHeaderSize - bytes.length) data.length) =
      (bytes ++ data).take rpcRecordHeaderSize := by
  rw [take_append, take_of_length_le h.le]
  congr 1
  rcases Nat.le_total (rpcRecordHeaderSize - bytes.length) data.length with hle | hle
  · rw [min_eq_left hle]
  · rw [min_eq_right hle, take_length, take_of_length_le hle]

/-- The application was told of the end exactly when the call has ended. -/
theorem RecordStream.Settled.notified_isSome {s : RecordStream}
    (hs : s.Settled cfg) : s.notified.isSome = s.call.state.terminal := by
  rw [hs.told]
  cases s.call.state.terminal <;> rfl

section Route

variable {rc : RouterConfig} {app : RpcMethodDesc → RecordApp} {m : RpcMethodDesc}
  {s₀ : RecordStream} {bytes data : List UInt8} {route : Route} (hmax : 2 ^ 16 - 1 ≤ rc.sizeMax)

/-- The reader of a call of method `m`. -/
abbrev readerOf (rc : RouterConfig) (app : RpcMethodDesc → RecordApp) (m : RpcMethodDesc)
    (hmax : 2 ^ 16 - 1 ≤ rc.sizeMax) : Consumer RecordCall UInt8 :=
  streamConsumer (rc.stream m) (app m) hmax

/-- Where a route is after the given bytes: they alone decide. -/
inductive Route.Follows (rc : RouterConfig) (app : RpcMethodDesc → RecordApp)
    (hmax : 2 ^ 16 - 1 ≤ rc.sizeMax) (bytes : List UInt8) : Route → Prop
  | waiting (h : routerChoose rc bytes = none) : Follows rc app hmax bytes { head := bytes }
  | ended {status : UInt32} {method : Option RpcMethodDesc}
    (h : routerChoose rc bytes = some (.error (status, method))) :
    Follows rc app hmax bytes { method := method, terminal := some status }
  | bound {m : RpcMethodDesc} {s₀ s : RecordStream}
    (h : routerChoose rc bytes = some (.ok (m, s₀))) (hs : s.Settled (rc.stream m))
    (hrun : (s.call, s.pending) = (readerOf rc app m hmax).run s₀.call bytes) :
    Follows rc app hmax bytes { binding := some s, method := some m, terminal := s.notified }

theorem routerChoose_none (h : routerChoose rc bytes = none) :
    rpcRecordDecodeHeader rc.sizeMax bytes routerLimits = .error .again := by
  unfold routerChoose at h
  repeat' split at h
  all_goals first | assumption | cases h

/-- A binding is that of the method which an OPEN names. -/
theorem routerChoose_ok (h : routerChoose rc bytes = some (.ok (m, s₀))) :
    recordStreamCreate (rc.stream m) rc.lane = .ok s₀ ∧ ∃ header total,
      rpcRecordDecodeHeader rc.sizeMax bytes routerLimits = .ok (header, total) ∧
      header.kind = RpcRecordKind.open.code ∧
      routerMethod rc.table header.serviceId header.methodId = some m := by
  unfold routerChoose at h
  repeat' split at h
  all_goals cases h
  rename_i header total hdec hkind _ _ hmethod hcreate
  exact ⟨hcreate, header, total, hdec, not_not.1 hkind, hmethod⟩

/-- The bytes name one method. -/
theorem routerChoose_names {m' : RpcMethodDesc}
    (htable : routerMethod rc.table m.serviceId m.methodId = some m)
    (hnames : Names rc.sizeMax m bytes) (h : routerChoose rc bytes = some (.ok (m', s₀))) :
    m' = m := by
  obtain ⟨_, header, total, hdec, hkind, hfound⟩ := routerChoose_ok h
  obtain ⟨hservice, hmethod⟩ := hnames header total hdec hkind
  rw [hservice, hmethod, htable] at hfound
  exact (some.inj hfound).symm

theorem routerChoose_append (h : routerChoose rc bytes ≠ none) (more : List UInt8) :
    routerChoose rc (bytes ++ more) = routerChoose rc bytes := by
  unfold routerChoose at h ⊢
  rw [rpcRecordDecodeHeader_append fun hagain => h (by rw [hagain])]

theorem routerChoose_take (bytes : List UInt8) :
    routerChoose rc (bytes.take rpcRecordHeaderSize) = routerChoose rc bytes := by
  unfold routerChoose
  rw [rpcRecordDecodeHeader_take]

theorem created_fresh (hcreate : recordStreamCreate (rc.stream m) rc.lane = .ok s₀) :
    s₀.call.state.initialized = true ∧ s₀.call.state.terminal = false ∧
      s₀.call.state.opened = false := by
  rw [(recordStreamCreate_settled hcreate).2.2.2]
  exact ⟨rfl, rfl, rfl⟩

/-- What the router rejects ends a binding, too. -/
theorem readerOf_rejects (hcreate : recordStreamCreate (rc.stream m) rc.lane = .ok s₀)
    (hagain : rpcRecordDecodeHeader rc.sizeMax bytes routerLimits ≠ .error .again)
    (hopen : ∀ header total,
      rpcRecordDecodeHeader rc.sizeMax bytes routerLimits = .ok (header, total) →
      header.kind ≠ RpcRecordKind.open.code) :
    ∃ ret, ret ≠ .errNomem ∧
      (readerOf rc app m hmax).run s₀.call bytes = (s₀.call.fail ret, []) := by
  obtain ⟨hinit, hlive, hunopened⟩ := created_fresh hcreate
  have hbytes : bytes ≠ [] := by
    rintro rfl
    exact hagain rfl
  cases hdec : rpcRecordDecodeHeader rc.sizeMax bytes (rc.stream m).rxLimits with
  | error ret =>
    have hne : ret ≠ .again := by
      rintro rfl
      exact hagain (rpcRecordDecodeHeader_again_congr (rxLimits_valid _) routerLimits_valid hdec)
    exact ⟨ret, (rpcRecordDecodeHeader_error hdec).1,
      run_of_fail hmax hinit (streamNext_bad hlive hbytes hdec hne)⟩
  | ok result =>
    obtain ⟨header, total⟩ := result
    have hkind : header.kind ≠ RpcRecordKind.open.code := by
      intro hkind
      obtain ⟨hlead, hheader, hvalid⟩ := rpcRecordDecodeHeader_eq_ok.mp hdec
      exact hopen header total (rpcRecordDecodeHeader_eq_ok.mpr
        ⟨hlead, hheader, rpcRecordValidate_open hkind hvalid⟩) hkind
    obtain ⟨ret, hpre, hret⟩ := recordPreflight_unopened hinit hlive hunopened hkind
    exact ⟨ret, hret, run_of_fail hmax hinit (streamNext_refused hlive hdec hpre)⟩

/-- A binding goes on as the reader does. -/
theorem bound_receive (hbudget : (rc.stream m).Ample) {s : RecordStream}
    (hs : s.Settled (rc.stream m))
    (hrun : (s.call, s.pending) = (readerOf rc app m hmax).run s₀.call bytes)
    (data : List UInt8) :
    let s' := (recordStreamReceive (rc.stream m) (app m) s data).2
    s'.Settled (rc.stream m) ∧
      (s'.call, s'.pending) = (readerOf rc app m hmax).run s₀.call (bytes ++ data) := by
  obtain ⟨hone, hsettled, _⟩ :=
    @receive_run (rc.stream m) (app m) hmax hbudget s hs data
  refine ⟨hsettled, hone.trans ?_⟩
  rw [Consumer.run_append _ s₀.call bytes data, ← hrun]

/-- The piece that completes the header: the binding is given the header, and the
rest unless the call has ended. -/
theorem opened_receive {head rest : List UInt8} (hbudget : (rc.stream m).Ample)
    (h : routerChoose rc (head ++ rest) = some (.ok (m, s₀))) :
    let first := recordStreamReceive (rc.stream m) (app m) s₀ head
    let bound := Route.bind { method := some m } first.2
    Route.Follows rc app hmax (head ++ rest)
      (if first.1 ≠ .ok ∨ bound.terminal.isSome then bound
      else bound.bind (recordStreamReceive (rc.stream m) (app m) first.2 rest).2) := by
  intro first bound
  obtain ⟨hsettled₀, hpending, _, _⟩ := recordStreamCreate_settled (routerChoose_ok h).1
  have hstart : (s₀.call, s₀.pending) = (readerOf rc app m hmax).run s₀.call [] := by
    rw [hpending, Consumer.run_of_none _ rfl]
  obtain ⟨hone, hrun⟩ := bound_receive hmax hbudget hsettled₀ hstart head
  obtain ⟨htwo, hrun'⟩ := bound_receive hmax hbudget hone hrun rest
  have hfailed := (@receive_run (rc.stream m) (app m) hmax hbudget s₀ hsettled₀ head).2.2
  split
  next hstop =>
    -- The call has ended, so the rest would have done nothing.
    have hterm : first.2.call.state.terminal = true := by
      rcases hstop with hret | htold
      · exact hfailed hret
      · rw [← hone.notified_isSome]
        exact htold
    rw [receive_of_terminal hterm] at hrun'
    exact .bound h hone hrun'
  · exact .bound h htwo hrun'

/-- One piece of a routed call. -/
theorem Route.Follows.step (hbudget : ∀ m s₀,
      routerChoose rc (bytes ++ data) = some (.ok (m, s₀)) → (rc.stream m).Ample)
    (h : Route.Follows rc app hmax bytes route) :
    Route.Follows rc app hmax (bytes ++ data) (routeReceive rc app route data) := by
  cases h with
  | waiting hnone =>
    have hshort := rpcRecordDecodeHeader_again (routerChoose_none hnone)
    unfold routeReceive
    dsimp only
    rw [if_neg (by nofun), head_eq hshort, routerChoose_take]
    split
    next hnone' =>
      rw [take_of_length_le (rpcRecordDecodeHeader_again (routerChoose_none hnone')).le]
      exact .waiting hnone'
    next hended =>
      rw [Option.or_none]
      exact .ended hended
    next m s₀ hbound =>
      have hopened := @opened_receive rc app m s₀ hmax ((bytes ++ data).take rpcRecordHeaderSize)
        (data.drop (min (rpcRecordHeaderSize - bytes.length) data.length)) (hbudget m s₀ hbound)
      rw [← head_eq hshort, append_assoc, take_append_drop, head_eq hshort] at hopened
      exact hopened hbound
  | ended hended =>
    refine .ended ?_
    rw [routerChoose_append (by rw [hended]; nofun), hended]
  | bound hbound hs hrun =>
    rename_i m s₀ s
    have hbound' : routerChoose rc (bytes ++ data) = some (.ok (m, s₀)) := by
      rw [routerChoose_append (by rw [hbound]; nofun), hbound]
    obtain ⟨hs', hrun'⟩ := bound_receive hmax (hbudget m s₀ hbound') hs hrun data
    unfold routeReceive
    split
    next htold =>
      rw [hs.notified_isSome] at htold
      rw [receive_of_terminal htold] at hs' hrun'
      exact .bound hbound' hs' hrun'
    · exact .bound hbound' hs' hrun'

/-- A whole routed call. -/
theorem Route.Follows.all (chunks : List (List UInt8)) (hbudget : ∀ m s₀,
      routerChoose rc (bytes ++ chunks.flatten) = some (.ok (m, s₀)) → (rc.stream m).Ample)
    (h : Route.Follows rc app hmax bytes route) :
    Route.Follows rc app hmax (bytes ++ chunks.flatten) (routeReceiveAll rc app route chunks) := by
  induction chunks generalizing route bytes with
  | nil =>
    rw [flatten_nil, append_nil]
    exact h
  | cons data rest ih =>
    rw [flatten_cons, ← append_assoc] at hbudget ⊢
    refine ih hbudget (h.step hmax fun m s₀ hbound => hbudget m s₀ ?_)
    rw [routerChoose_append (by rw [hbound]; nofun), hbound]

theorem follows_all (chunks : List (List UInt8)) (hbudget : ∀ m s₀,
      routerChoose rc chunks.flatten = some (.ok (m, s₀)) → (rc.stream m).Ample) :
    Route.Follows rc app hmax chunks.flatten (routeReceiveAll rc app {} chunks) := by
  have hfirst : Route.Follows rc app hmax [] {} := .waiting rfl
  exact hfirst.all hmax chunks hbudget

/-- A route that the router has ended. -/
theorem Route.Follows.of_ended {status : UInt32} {method : Option RpcMethodDesc}
    (h : Route.Follows rc app hmax bytes route)
    (hended : routerChoose rc bytes = some (.error (status, method))) :
    route = { method := method, terminal := some status } := by
  cases h with
  | waiting h => cases hended.symm.trans h
  | ended h =>
    cases hended.symm.trans h
    rfl
  | bound h _ _ => cases hended.symm.trans h

/-- The same records, end, method and call. -/
def Route.Agrees (route other : Route) : Prop :=
  route.delivered = other.delivered ∧ route.terminal = other.terminal ∧
    route.method = other.method ∧
    route.binding.map RecordStream.call = other.binding.map RecordStream.call

theorem Route.Follows.agrees {other : Route} (h : Route.Follows rc app hmax bytes route)
    (h' : Route.Follows rc app hmax bytes other) : route.Agrees other := by
  cases h with
  | waiting hnone =>
    cases h' with
    | waiting _ => exact ⟨rfl, rfl, rfl, rfl⟩
    | ended h' => cases hnone.symm.trans h'
    | bound h' _ _ => cases hnone.symm.trans h'
  | ended hended =>
    cases h' with
    | waiting h' => cases hended.symm.trans h'
    | ended h' =>
      cases hended.symm.trans h'
      exact ⟨rfl, rfl, rfl, rfl⟩
    | bound h' _ _ => cases hended.symm.trans h'
  | bound hbound hs hrun =>
    rename_i s
    cases h' with
    | waiting h' => cases hbound.symm.trans h'
    | ended h' => cases hbound.symm.trans h'
    | bound h' hs' hrun' =>
      rename_i s'
      cases hbound.symm.trans h'
      have hcall : s.call = s'.call := congrArg Prod.fst (hrun.trans hrun'.symm)
      refine ⟨congrArg RecordCall.delivered hcall, ?_, rfl, congrArg some hcall⟩
      show s.notified = s'.notified
      rw [hs.told, hs'.told, hcall]

/-- A route and a binding of the named method that follow the same bytes agree. -/
theorem Route.Follows.direct (h : Route.Follows rc app hmax bytes route)
    (htable : routerMethod rc.table m.serviceId m.methodId = some m)
    (hcreate : recordStreamCreate (rc.stream m) rc.lane = .ok s₀)
    (hnames : Names rc.sizeMax m bytes) {s : RecordStream} (hs : s.Settled (rc.stream m))
    (hrun : (s.call, s.pending) = (readerOf rc app m hmax).run s₀.call bytes) :
    route.delivered = s.call.delivered ∧ route.terminal = s.notified ∧
      ∀ b, route.binding = some b → route.method = some m ∧ b.call = s.call ∧ b.Clean := by
  obtain ⟨hinit, hlive, _⟩ := created_fresh hcreate
  have hnone := (recordStreamCreate_settled hcreate).2.2.1
  cases h with
  | waiting hwait =>
    have hrx := rpcRecordDecodeHeader_again_congr routerLimits_valid
      (rxLimits_valid (rc.stream m)) (routerChoose_none hwait)
    rw [Consumer.run_of_none (readerOf rc app m hmax) (streamNext_again hlive hrx)] at hrun
    have hcall : s.call = s₀.call := congrArg Prod.fst hrun
    rw [hs.told, hcall, hlive, hnone]
    exact ⟨rfl, rfl, fun _ hnone => by cases hnone⟩
  | ended hended =>
    rename_i status method
    -- The method exists, so the router has refused the header.
    have hwhy : status = 3 ∧
        rpcRecordDecodeHeader rc.sizeMax bytes routerLimits ≠ .error .again ∧
        ∀ header total, rpcRecordDecodeHeader rc.sizeMax bytes routerLimits =
          .ok (header, total) → header.kind ≠ RpcRecordKind.open.code := by
      unfold routerChoose at hended
      split at hended
      · cases hended
      next ret hne hdec =>
        cases hended
        rw [hdec, recordErrorStatus, if_neg (rpcRecordDecodeHeader_error hdec).1]
        exact ⟨rfl, fun h => hne (Except.error.inj h), nofun⟩
      next header total hdec =>
        split at hended
        next hkind =>
          cases hended
          rw [hdec]
          refine ⟨rfl, nofun, fun header' total' h => ?_⟩
          cases h
          exact hkind
        next hkind =>
          obtain ⟨hservice, hmethod⟩ := hnames header total hdec (not_not.1 hkind)
          rw [hservice, hmethod, htable] at hended
          dsimp only at hended
          rw [hcreate] at hended
          cases hended
    obtain ⟨rfl, hagain, hopen⟩ := hwhy
    obtain ⟨ret, hret, hrun'⟩ := @readerOf_rejects rc app m s₀ bytes hmax hcreate hagain hopen
    have hcall : s.call = s₀.call.fail ret := congrArg Prod.fst (hrun.trans hrun')
    refine ⟨?_, ?_, fun _ hnone => by cases hnone⟩
    · rw [hcall]
      exact hnone.symm
    · rw [hs.told, hcall, fail_terminal hinit ret, if_pos rfl]
      unfold RecordCall.fail rpcRecordStateAbort recordErrorStatus
      rw [if_neg hret, hinit, hlive]
      rfl
  | bound hbound hb hrun' =>
    rename_i b
    obtain rfl := routerChoose_names htable hnames hbound
    cases hcreate.symm.trans (routerChoose_ok hbound).1
    have hcall : b.call = s.call := congrArg Prod.fst (hrun'.trans hrun.symm)
    refine ⟨congrArg RecordCall.delivered hcall, ?_, fun b' hb' => ?_⟩
    · show b.notified = s.notified
      rw [hb.told, hs.told, hcall]
    · cases hb'
      refine ⟨rfl, hcall, fun hterm => ?_⟩
      unfold RecordStream.charged
      rw [(hb.ok.ended hterm).1]

end Route

/-! ## The results -/

/-- A created binding holds no storage. -/
theorem recordStreamCreate_clean {cfg : RecordStreamConfig} {lane : UInt32}
    {s : RecordStream} (h : recordStreamCreate cfg lane = .ok s) : s.Clean := by
  intro hterm
  rw [(recordStreamCreate_settled h).2.2.2] at hterm
  cases hterm

/-- The receive path of a call depends on its bytes alone.

Two direct bindings of either side that are given the same bytes in different pieces
have the same call, and their applications are told the same.  A routed call whose
OPEN names a method of the router agrees with a binding that was created for the
method: the records, the method, the state of the call and the status at its end.

Two routed calls with the same bytes agree whatever the bytes are.  An OPEN that names no
method ends the call as unimplemented; one whose binding cannot be created ends it with the
status of that error.

No storage is charged once a call has ended, in every run in which a FINAL_STATUS is sent
only while no record has been received in part. -/
theorem record_receive_chunking {rc : RouterConfig} (hmax : 2 ^ 16 - 1 ≤ rc.sizeMax)
    {methods : List RpcMethodDesc} (htable : routerTable methods = some rc.table)
    (app : RpcMethodDesc → RecordApp) :
    (∀ (direction : RpcRecordDirection) (m : RpcMethodDesc) (s₀ : RecordStream),
      let cfg : RecordStreamConfig := ⟨rc.sizeMax, rc.limit, direction, m⟩
      recordStreamCreate cfg rc.lane = .ok s₀ → cfg.Ample →
      ∀ chunks chunks' : List (List UInt8), chunks.flatten = chunks'.flatten →
        (recordStreamReceiveAll cfg (app m) s₀ chunks).call =
            (recordStreamReceiveAll cfg (app m) s₀ chunks').call ∧
          (recordStreamReceiveAll cfg (app m) s₀ chunks).notified =
            (recordStreamReceiveAll cfg (app m) s₀ chunks').notified) ∧
    (∀ m ∈ methods, ∀ s₀ : RecordStream,
      recordStreamCreate (rc.stream m) rc.lane = .ok s₀ → (rc.stream m).Ample →
      ∀ chunks chunks' : List (List UInt8), chunks.flatten = chunks'.flatten →
        Names rc.sizeMax m chunks.flatten →
        let direct := recordStreamReceiveAll (rc.stream m) (app m) s₀ chunks
        let routed := routeReceiveAll rc app {} chunks'
        routed.delivered = direct.call.delivered ∧ routed.terminal = direct.notified ∧
          ∀ s, routed.binding = some s → routed.method = some m ∧ s.call = direct.call ∧ s.Clean) ∧
    (∀ chunks chunks' : List (List UInt8), chunks.flatten = chunks'.flatten →
      (∀ m s₀, routerChoose rc chunks.flatten = some (.ok (m, s₀)) → (rc.stream m).Ample) →
      (routeReceiveAll rc app {} chunks).Agrees (routeReceiveAll rc app {} chunks')) ∧
    (∀ (chunks : List (List UInt8)) (header : RpcRecordHeader) (total : Nat),
      rpcRecordDecodeHeader rc.sizeMax chunks.flatten routerLimits = .ok (header, total) →
      header.kind = RpcRecordKind.open.code →
      (routerMethod rc.table header.serviceId header.methodId = none →
        routeReceiveAll rc app {} chunks = { terminal := some rpcStatusUnimplemented }) ∧
      ∀ m ret, routerMethod rc.table header.serviceId header.methodId = some m →
        recordStreamCreate (rc.stream m) rc.lane = .error ret →
        routeReceiveAll rc app {} chunks =
          { method := some m, terminal := some (recordErrorStatus ret) }) ∧
    (∀ (direction : RpcRecordDirection) (m : RpcMethodDesc) (s₀ s : RecordStream)
      (inputs : List StreamInput),
      let cfg : RecordStreamConfig := ⟨rc.sizeMax, rc.limit, direction, m⟩
      recordStreamCreate cfg rc.lane = .ok s₀ →
      StepsMeet (streamStep cfg (app m)) EndsClean s₀ inputs →
      runSteps (streamStep cfg (app m)) s₀ inputs = some s → s.Clean) := by
  refine ⟨?_, ?_, ?_, ?_, ?_⟩
  · intro direction m s₀ cfg hcreate hbudget chunks chunks' hbytes
    exact receiveAll_congr hmax hbudget (recordStreamCreate_settled hcreate).1 hbytes
  · intro m hm s₀ hcreate hbudget chunks chunks' hbytes hnames direct routed
    obtain ⟨hsettled, hpending, _, _⟩ := recordStreamCreate_settled hcreate
    have hmethod := routerMethod_eq htable hm
    rw [hbytes] at hnames
    have hrouted := @follows_all rc app hmax chunks' fun m' s₀' hbound =>
      routerChoose_names hmethod hnames hbound ▸ hbudget
    obtain ⟨hrun, hdone⟩ := @receiveAll_run _ (app m) hmax hbudget s₀ hsettled chunks
    rw [hpending, hbytes] at hrun
    exact hrouted.direct hmax hmethod hcreate hnames hdone hrun
  · intro chunks chunks' hbytes hbudget
    have hrouted := @follows_all rc app hmax chunks hbudget
    rw [hbytes] at hbudget hrouted
    exact hrouted.agrees hmax (follows_all hmax chunks' hbudget)
  · intro chunks header total hdec hkind
    refine ⟨fun hmethod => ?_, fun m ret hmethod hcreate => ?_⟩
    · refine (@follows_all rc app hmax chunks ?_).of_ended hmax ?_ <;>
        simp [routerChoose, hdec, hkind, hmethod]
    · refine (@follows_all rc app hmax chunks ?_).of_ended hmax ?_ <;>
        simp [routerChoose, hdec, hkind, hmethod, hcreate]
  · intro direction m s₀ s inputs cfg hcreate hmeet hrun
    exact runSteps_invariant_of (fun _ _ _ h hcond hstep => h.step hcond hstep)
      (recordStreamCreate_clean hcreate) hmeet hrun

/-! A call of a method with one request.  The OPEN is followed by a request of four
bytes. -/

/-- A method with one request and one response. -/
def echoMethod : RpcMethodDesc where
  serviceId := 1
  methodId := 2
  requestCardinality := .one
  responseCardinality := .one
  requestCodecId := 1
  responseCodecId := 1
  lane := 0
  maxRequestBytes := 64
  maxResponseBytes := 64

def echoRouter : RouterConfig where
  sizeMax := 2 ^ 64 - 1
  limit := 1024
  lane := 0
  table := [echoMethod]

def echoOpen : RpcRecordHeader :=
  ⟨RpcRecordKind.open.code, 1, 2, 0, 0, 0, 0, 0, 0, 0⟩

def echoRequest : RpcRecordHeader :=
  ⟨RpcRecordKind.message.code, 0, 0, 1, 0, 4, 4, 0, 0, 0⟩

/-- `TR_RPC_STATUS_INTERNAL` as the answer. -/
def echoFailed : RpcRecordHeader :=
  ⟨RpcRecordKind.finalStatus.code, 0, 0, 0, 0, 0, 0, 0, 13, 0⟩

def echoBytes : List UInt8 :=
  rpcRecordHeaderBytes echoOpen ++ (rpcRecordHeaderBytes echoRequest ++ [1, 2, 3, 4])

/-- The binding of the method before the first byte. -/
def echoBinding : RecordStream where
  call := { state := .init .one .one }

theorem echoOpen_names : Names echoRouter.sizeMax echoMethod echoBytes := by
  intro header total hdec hkind
  have hopen : rpcRecordDecodeHeader echoRouter.sizeMax echoBytes routerLimits =
      .ok (echoOpen, 48) := rfl
  rw [hopen] at hdec
  cases hdec
  exact ⟨rfl, rfl⟩

/-- The request reaches the application of a routed call whose bytes were cut in the
OPEN and in the request.  A server that answers between two records holds no
storage.  An OPEN for another service is not implemented. -/
theorem record_receive_chunking_echo :
    (∃ routed, routed = routeReceiveAll echoRouter (fun _ _ => []) {}
        [echoBytes.take 20, (echoBytes.drop 20).take 78, echoBytes.drop 98] ∧
      routed.delivered = [⟨echoOpen, [], []⟩, ⟨echoRequest, [], [1, 2, 3, 4]⟩] ∧
      routed.terminal = none) ∧
    (∃ s, runSteps (streamStep (echoRouter.stream echoMethod) fun _ => []) echoBinding
        [.receive echoBytes, .send echoFailed [] 0 .ok] = some s ∧
      s.call.state.terminal = true ∧ s.charged = 0) ∧
    routeReceiveAll echoRouter (fun _ _ => []) {}
      [(rpcRecordHeaderBytes { echoOpen with serviceId := 9 }).take 20,
        (rpcRecordHeaderBytes { echoOpen with serviceId := 9 }).drop 20] =
      { terminal := some rpcStatusUnimplemented } := by
  obtain ⟨_, hrouted, _, hunknown, hclean⟩ := @record_receive_chunking echoRouter (by decide)
    [echoMethod] rfl fun _ _ => []
  refine ⟨⟨_, rfl, ?_⟩, ?_, (hunknown _ { echoOpen with serviceId := 9 } 48 rfl rfl).1 rfl⟩
  · obtain ⟨hdelivered, hterminal, _⟩ := hrouted echoMethod (List.mem_singleton_self _)
      echoBinding rfl (by decide) [echoBytes]
      [echoBytes.take 20, (echoBytes.drop 20).take 78, echoBytes.drop 98] rfl echoOpen_names
    rw [hdelivered, hterminal]
    exact ⟨by decide, by decide⟩
  · refine exists_of_map (f := fun s => s.call.state.terminal) (y := true) (by decide)
      fun s hrun hterm => ⟨hterm, ?_⟩
    exact hclean .response echoMethod echoBinding s _ rfl (by decide) hrun hterm

/-- The server gives up the call when two of the four bytes have arrived.  The call
has ended, and the 52 bytes for the request stay charged. -/
theorem final_status_keeps_storage :
    recordStreamCreate (echoRouter.stream echoMethod) 0 = .ok echoBinding ∧
      (echoRouter.stream echoMethod).Ample ∧
      ∃ s, runSteps (streamStep (echoRouter.stream echoMethod) fun _ => []) echoBinding
          [.receive (echoBytes.take 98), .send echoFailed [] 0 .ok] = some s ∧
        s.call.state.terminal = true ∧ s.notified = some 13 ∧ s.charged = 52 := by
  refine ⟨rfl, by decide, ?_⟩
  refine exists_of_map (f := fun s => (s.call.state.terminal, s.notified, s.charged))
    (y := (true, some 13, 52)) (by decide) fun s _ hs => ?_
  simpa only [Prod.mk.injEq] using hs

end Trpc
