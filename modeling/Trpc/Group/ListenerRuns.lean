import Trpc.Group.ListenerInv

/-!
# Runs of the listener

Who is in a group, and what a rejection does (`Pipeline.Releases`).  A connection that
joined and is closed in the same turn counts as rejected.
-/

namespace Trpc

open Lib Lib.Tombstones GroupWorld Function List Option
open Relation (ReflTransGen)

/-! ## A reservation that is released -/

/-- A reservation is gone, and nothing else of its group has changed. -/
structure Pipeline.Releases (p p' : Pipeline) (data : DataRef) : Prop where
  reserved : p.dataRefMatches data .reserved
  freed : (p'.dataSlots data.index).state = .free
  generation : (p'.dataSlots data.index).generation = data.generation
  others : ∀ i ≠ data.index, p'.dataSlots i = p.dataSlots i
  control : p'.control = p.control
  dataCount : p'.dataCount = p.dataCount
  bindings : ∀ streamId, p'.binding streamId = p.binding streamId

theorem Pipeline.Releases.freeSlot {p : Pipeline} {data : DataRef}
    (h : p.dataRefMatches data .reserved) : p.Releases (p.freeSlot data.index) data := by
  have hslot : (p.freeSlot data.index).dataSlots data.index =
      { p.dataSlots data.index with connection := connHandleZero, state := .free } :=
    update_self _ _ _
  refine ⟨h, ?_, ?_, fun i hi => update_of_ne hi _ _, rfl, rfl, fun _ => rfl⟩
  · rw [hslot]
  · rw [hslot]
    exact h.2.2.2

variable {connection : ConnHandle} {route : RoutePreface}

/-- A group that a connection has joined and left at once. -/
def Pipeline.visited (p : Pipeline) (data : DataRef) (connection : ConnHandle) : Pipeline :=
  (p.attachSlot data.index connection).dropMember data.index

/-- A capability names its member once the connection has joined. -/
theorem Pipeline.dataRefMatches.attach {p : Pipeline} {data : DataRef}
    (h : p.dataRefMatches data .reserved) (connection : ConnHandle) :
    (p.attachSlot data.index connection).dataRefMatches data .attached ∧
      ((p.attachSlot data.index connection).dataSlots data.index).connection = connection := by
  simpa [Pipeline.dataRefMatches, Pipeline.attachSlot] using ⟨h.1, h.2.1, h.2.2.2⟩

/-- A connection that joins and leaves at once has spent its reservation; no stream can
have been bound to it. -/
theorem Pipeline.Releases.visited {p : Pipeline} {data : DataRef} (hok : p.Ok)
    (hok' : (p.attachSlot data.index connection).Ok) (h : p.dataRefMatches data .reserved) :
    p.Releases (p.visited data connection) data := by
  have hslot : (p.visited data connection).dataSlots data.index =
      { p.dataSlots data.index with connection := connHandleZero, state := .free } := by
    simp [Pipeline.visited, Pipeline.dropMember, Pipeline.attachSlot]
  have hremove : pipelineRemoveData (p.attachSlot data.index connection) data =
      (.ok, p.visited data connection) := by
    rw [pipelineRemoveData, if_neg (not_not.mpr (h.attach _).1)]
    rfl
  refine ⟨h, by rw [hslot], by rw [hslot]; exact h.2.2.2, fun i hi => ?_, rfl, ?_,
    fun streamId => ?_⟩
  · exact (update_of_ne hi _ _).trans (update_of_ne hi _ _)
  · exact Nat.add_sub_cancel _ _
  · have hbinding := hok'.remove_binding (by rw [hremove]) streamId
    rw [hremove] at hbinding
    rw [hbinding, show (p.attachSlot data.index connection).binding streamId =
      p.binding streamId from rfl]
    refine if_neg fun hbound => ?_
    obtain ⟨pos, hpos, hcell⟩ := hok.bindings.binding_eq_some.mp hbound
    have hstate := (hok.bindings.attached pos hpos streamId data hcell).2.2.1
    rw [h.2.2.1] at hstate
    cases hstate

/-! ## The registry's answer to a route -/

/-- A route still leads to its group after the group has changed. -/
theorem registryRoute_setGroup {w : GroupWorld} {g : Nat} {p : Pipeline} (strict : Bool)
    (h : registryRoute w route true = .ok g) (hsame : (w.groups g).SameGroup p) :
    registryRoute (w.setGroup g p) route strict = .ok g := by
  unfold registryRoute at h ⊢
  simp only [check_eq_ok] at h ⊢
  obtain ⟨hfields, hrole, hshard, h⟩ := h
  refine ⟨hfields, hrole, hshard, ?_⟩
  rw [find_setGroup]
  split at h
  · cases h
  next found hfind =>
    split at h
    · cases h
    next g' hat =>
      simp only [check_eq_ok] at h
      obtain ⟨howner, hepoch, hg⟩ := h
      cases hg
      simp only [show (w.setGroup g p).pipelineAt found = some g from hat,
        show (w.setGroup g p).groups g = p from update_self .., hsame.owner, hsame.shard,
        hsame.epoch, check_eq_ok]
      exact ⟨fun hother => howner ⟨trivial, hother.2⟩, hepoch, trivial⟩

/-- The handler of a member that has just joined takes it out again. -/
theorem registryDetachDataRoute_joined {w : GroupWorld} {g : Nat}
    (hroute : registryRoute w route true = .ok g) (howner : connection.reactor = w.registry.owner)
    (hmatch : (w.groups g).dataRefMatches route.member .reserved) : registryDetachDataRoute
        (w.setGroup g ((w.groups g).attachSlot route.member.index connection)) route
        connection =
      (.ok, w.setGroup g ((w.groups g).visited route.member connection)) := by
  have hroute' := registryRoute_setGroup
    (p := (w.groups g).attachSlot route.member.index connection) false hroute
    ⟨rfl, rfl, rfl, rfl⟩
  have hchecks : routePrefaceValidateFields route = .ok ∧ route.role = routeData ∧
      route.ownerShardId = w.registry.ownerShardId := by
    unfold registryRoute at hroute
    simp only [check_eq_ok] at hroute
    exact ⟨not_not.mp hroute.1, not_not.mp hroute.2.1, not_not.mp hroute.2.2.1⟩
  obtain ⟨hattached, hslot⟩ := hmatch.attach connection
  have hset (p : Pipeline) : (w.setGroup g p).registry = w.registry ∧
      (w.setGroup g p).groups g = p := ⟨rfl, update_self ..⟩
  simp only [registryDetachDataRoute, hchecks, hset, howner, hroute', pipelineDataConnection,
    hattached, hslot, pipelineRemoveData, ne_eq, not_true_eq_false, if_false]
  exact congrArg (fun groups => (Status.ok, GroupWorld.mk w.registry groups))
    (update_idem _ _ _)

/-- A connection joins through the registry and gets its handler, or is taken out again,
or nothing has changed. -/
theorem ingressAttachDataRoute_cases (s : IngressWorld) (route : RoutePreface)
    (connection : ConnHandle) (frameCb : Bool) (handler : Status) :
    ((ingressAttachDataRoute s route connection frameCb handler).1 ≠ .ok ∧
        (ingressAttachDataRoute s route connection frameCb handler).2 = s) ∨
      ∃ g, registryRoute s.shard route true = .ok g ∧ connection.reactor = s.shard.registry.owner ∧
        (s.shard.groups g).dataRefMatches route.member .reserved ∧
        Pipeline.Move (s.shard.groups g)
          ((s.shard.groups g).attachSlot route.member.index connection) ∧
        ((handler = .ok ∧ ingressAttachDataRoute s route connection frameCb handler =
            (.ok, IngressWorld.setMember ⟨s.shard.setGroup g ((s.shard.groups g).attachSlot
              route.member.index connection), s.members⟩ connection
                (some ⟨g, route, route.member, frameCb⟩))) ∨
          (handler ≠ .ok ∧ ingressAttachDataRoute s route connection frameCb handler =
            (handler, ⟨s.shard.setGroup g
              ((s.shard.groups g).visited route.member connection), s.members⟩))) := by
  unfold ingressAttachDataRoute
  by_cases howner : connection.reactor ≠ s.shard.registry.owner
  · rw [if_pos howner]
    exact .inl ⟨by simp, rfl⟩
  rw [if_neg howner]
  rcases registryAttachDataRoute_cases s.shard route connection with
    ⟨hret, hsame⟩ | ⟨g, hroute, hone, heq⟩
  · split
    next hok =>
      rw [hok] at hret
      exact absurd rfl hret
    next hother =>
      rw [hother] at hret hsame
      cases hsame
      exact .inl ⟨hret, rfl⟩
  · rcases pipelineAttachData_cases (s.shard.groups g) route.member connection with
      ⟨hret, _⟩ | ⟨hcontrol, _, hnot, hdata, hmatch, hwrite⟩
    · exact absurd hone hret
    · refine .inr ⟨g, hroute, not_not.mp howner, hmatch,
        .attach hmatch.1 hcontrol hnot hdata hmatch.2.2.1, ?_⟩
      rw [heq, hwrite]
      dsimp only
      by_cases hhandler : handler = .ok
      · rw [if_pos hhandler]
        exact .inl ⟨hhandler, rfl⟩
      · rw [if_neg hhandler, registryDetachDataRoute_joined hroute (not_not.mp howner) hmatch]
        exact .inr ⟨hhandler, rfl⟩

namespace ListenerWorld

variable {tls : TlsFacts} {w w' : ListenerWorld}

/-! ## Rejection -/

/-- A DATA route that was rejected: the sessions and the registry are as before, the
handlers of other connections too, and in the groups at most the reservation that the
route names exactly is gone. -/
structure Spares (w w' : ListenerWorld) (connection : ConnHandle)
    (route : Option RoutePreface) : Prop where
  sessions : w'.sessions = w.sessions
  registry : w'.shard.registry = w.shard.registry
  handlers : ∀ other ≠ connection, w'.ingress.members other = w.ingress.members other
  groups : ∀ g, w'.shard.groups g = w.shard.groups g ∨
    ∃ r, route = some r ∧ registryRoute w.shard r true = .ok g ∧
      (w.shard.groups g).Releases (w'.shard.groups g) r.member

/-- Nothing of a group was touched. -/
theorem Spares.of_same {route : Option RoutePreface} (hsessions : w'.sessions = w.sessions)
    (hingress : w'.ingress = w.ingress) : w.Spares w' connection route :=
  ⟨hsessions, by rw [ListenerWorld.shard, hingress], fun _ _ => by rw [hingress],
    fun _ => .inl (by rw [ListenerWorld.shard, hingress])⟩

/-- One group has released the reservation of the route. -/
theorem Spares.of_release {g : Nat} (hsessions : w'.sessions = w.sessions)
    (hregistry : w'.shard.registry = w.shard.registry)
    (hhandlers : ∀ other ≠ connection, w'.ingress.members other = w.ingress.members other)
    (hothers : ∀ g' ≠ g, w'.shard.groups g' = w.shard.groups g')
    (hroute : registryRoute w.shard route true = .ok g)
    (hreleases : (w.shard.groups g).Releases (w'.shard.groups g) route.member) :
    w.Spares w' connection (some route) := by
  refine ⟨hsessions, hregistry, hhandlers, fun g' => ?_⟩
  by_cases hg : g' = g
  · rw [hg]
    exact .inr ⟨route, rfl, hroute, hreleases⟩
  · exact .inl (hothers g' hg)

/-- The cancellation that follows a rejection. -/
theorem spares_cancel (w : ListenerWorld) (connection : ConnHandle) (route : RoutePreface) :
    w.Spares (w.setShard (registryCancelDataRoute w.shard route).2) connection (some route) := by
  unfold registryCancelDataRoute
  cases hroute : registryRoute w.shard route true with
  | error ret => exact .of_same rfl rfl
  | ok g =>
    dsimp only
    unfold pipelineCancelDataReservation
    by_cases hmatch : (w.shard.groups g).dataRefMatches route.member .reserved
    · rw [if_neg (not_not.mpr hmatch)]
      refine .of_release rfl rfl (fun _ _ => rfl) (fun g' hg' => update_of_ne hg' _ _)
        hroute ?_
      rw [show (w.setShard (w.shard.setGroup g ((w.shard.groups g).freeSlot
        route.member.index))).shard.groups g =
          (w.shard.groups g).freeSlot route.member.index from update_self _ _ _]
      exact .freeSlot hmatch
    · rw [if_pos hmatch]
      refine ⟨rfl, rfl, fun _ _ => rfl, fun g' => .inl ?_⟩
      by_cases hg : g' = g
      · rw [hg]
        exact update_self _ _ _
      · exact update_of_ne hg _ _

/-! ## A DATA route -/

theorem registryResolveDataRoute_error {shard : GroupWorld} {ret : Status}
    (h : registryResolveDataRoute shard route = .error ret) : ret ≠ .ok := by
  rintro rfl
  unfold registryResolveDataRoute at h
  cases hroute : registryRoute shard route true with
  | error ret =>
    rw [hroute] at h
    cases h
    unfold registryRoute at hroute
    split at hroute
    next hbad =>
      exact hbad (Except.error.inj hroute)
    · repeat' split at hroute
      all_goals cases hroute
  | ok g =>
    rw [hroute] at h
    dsimp only at h
    split at h
    · cases h
    next hne =>
      exact hne (Except.error.inj h)

/-- A DATA route is turned down before anything but the history changed, or a session of its
group with the same peer was found and the authorizer approved. -/
theorem listenerAcceptData_cases (tls : TlsFacts) (w : ListenerWorld) (route : RoutePreface)
    (connection : ConnHandle) (env : PrefaceEnv) :
    (∃ ret w', ret ≠ .ok ∧ listenerAcceptData tls w route connection env = (ret, w') ∧
        (w' = w ∨ ∃ authorization, w' = w.ask authorization ret)) ∨
      ∃ s < w.pipelineCapacity, (w.sessions s).used = true ∧
        (w.sessions s).pipelineId = route.pipelineId ∧ (w.sessions s).epoch = route.epoch ∧
        tls.identity connection = (w.sessions s).peerIdentity ∧
        tls.generation connection = (w.sessions s).tlsGeneration ∧
        listenerAcceptData tls w route connection env =
          ((ingressAttachDataRoute w.ingress route connection true env.handler).1,
            { w.ask ⟨route.pipelineId, route.epoch, .data, tls.identity connection,
                (w.sessions s).peerIdentity⟩ .ok with
              ingress :=
                (ingressAttachDataRoute w.ingress route connection true env.handler).2 }) := by
  unfold listenerAcceptData
  split
  next ret hresolve =>
    exact .inl ⟨ret, w, registryResolveDataRoute_error hresolve, rfl, .inl rfl⟩
  split
  · exact .inl ⟨.errStale, w, by simp, rfl, .inl rfl⟩
  rename_i s hfind
  have hs := mem_range.mp (mem_of_find?_eq_some hfind)
  have hfound := find?_some hfind
  simp only [decide_eq_true_eq] at hfound
  obtain ⟨hused, _, hid, hepoch⟩ := hfound
  split
  next hfacts =>
    exact .inl ⟨env.facts, w, hfacts, rfl, .inl rfl⟩
  split
  · exact .inl ⟨.errStale, w, by simp, rfl, .inl rfl⟩
  rename_i hgeneration
  split
  · exact .inl ⟨.errInvalid, w, by simp, rfl, .inl rfl⟩
  rename_i hidentity
  dsimp only
  split
  next hauthorize =>
    exact .inl ⟨env.authorize, _, hauthorize, rfl, .inr ⟨_, rfl⟩⟩
  next hauthorize =>
    rw [not_not.mp hauthorize]
    exact .inr ⟨s, hs, hused, hid, hepoch, listenerIdentityEqual_eq (not_not.mp hidentity),
      not_not.mp hgeneration, rfl⟩

/-- A cancellation after the reservation is gone changes nothing. -/
theorem registryCancelDataRoute_spent {shard : GroupWorld} {g : Nat}
    (hroute : registryRoute shard route true = .ok g)
    (hspent : ((shard.groups g).dataSlots route.member.index).state ≠ .reserved) :
    (registryCancelDataRoute shard route).2 = shard := by
  rw [registryCancelDataRoute, hroute]
  dsimp only
  rw [pipelineCancelDataReservation, if_pos fun hmatch => hspent hmatch.2.2.1]
  exact congrArg (GroupWorld.mk shard.registry) (update_eq_self _ _)

section

variable (h : Ok tls w)

include h

/-- The invariant after a rejected route was cancelled. -/
theorem Ok.cancel (route : RoutePreface) :
    Ok tls (w.setShard (registryCancelDataRoute w.shard route).2) :=
  h.quiet (GroupWorld.Quiet.cancelDataRoute _ _) (registryCancelDataRoute_steps _ _)

/-- A DATA route keeps the invariant, and a rejection spares everything else. -/
theorem Ok.routedData {route : RoutePreface} {connection : ConnHandle}
    {env : PrefaceEnv} (hpresented : (connection, route) ∈ w.presented)
    (hrole : route.role = routeData) :
    Ok tls (listenerRouted tls w route connection env).2 ∧
      ((listenerRouted tls w route connection env).1 ≠ .ok →
        w.Spares (listenerRouted tls w route connection env).2 connection (some route)) := by
  have hdata : routeData ≠ routeControl := by decide
  unfold listenerRouted
  rw [hrole, if_neg hdata, if_pos rfl]
  rcases listenerAcceptData_cases tls w route connection env with
    ⟨ret, w', hret, heq, hsame⟩ | ⟨s, hs, hused, hid, hepoch, hidentity, hgeneration, heq⟩
  · rw [heq]
    split
    next hok =>
      cases hok
      exact absurd rfl hret
    rename_i hother
    cases hother
    rcases hsame with rfl | ⟨authorization, rfl⟩
    · exact ⟨h.cancel route, fun _ => spares_cancel w' connection route⟩
    · have hspares := spares_cancel (w.ask authorization ret) connection route
      exact ⟨(h.ask authorization ret).cancel route, fun _ =>
        ⟨hspares.sessions, hspares.registry, hspares.handlers, hspares.groups⟩⟩
  · rw [heq]
    generalize hauthorization : (⟨route.pipelineId, route.epoch, .data, tls.identity connection,
      (w.sessions s).peerIdentity⟩ : Authorization) = authorization
    have hasked := h.ask authorization .ok
    rcases ingressAttachDataRoute_cases w.ingress route connection true env.handler with
      ⟨hret, hsame⟩ | ⟨g, hroute, howner, hmatch, hmove, hdone⟩
    · generalize ingressAttachDataRoute w.ingress route connection true env.handler = out
        at hret hsame ⊢
      obtain ⟨ret, ingress⟩ := out
      dsimp only at hret hsame
      subst hsame
      split
      next hok =>
        cases hok
        exact absurd rfl hret
      rename_i hother
      cases hother
      have hspares := spares_cancel (w.ask authorization .ok) connection route
      exact ⟨hasked.cancel route, fun _ =>
        ⟨hspares.sessions, hspares.registry, hspares.handlers, hspares.groups⟩⟩
    · have hokg := h.groups.groups g
      have hreleases := Pipeline.Releases.visited hokg (hokg.move hmove) hmatch
      -- The shard once the connection has joined, and once it has left again.
      generalize hjoined : w.shard.setGroup g
        ((w.shard.groups g).attachSlot route.member.index connection) = joined
      generalize hleft : w.shard.setGroup g
        ((w.shard.groups g).visited route.member connection) = left
      have hdetach := registryDetachDataRoute_joined hroute howner hmatch
      rw [hjoined, hleft] at hdetach
      have hleftself : left.groups g =
          (w.shard.groups g).visited route.member connection := by
        rw [← hleft]
        exact update_self _ _ _
      have hsteps : Steps w.shard joined := by
        rw [← hjoined]
        exact steps_setGroup (.single hmove)
      have hattach : ∀ members,
          Ok tls { w.ask authorization .ok with ingress := ⟨joined, members⟩ } := by
        intro members
        refine hasked.attach hs hused hid hepoch hidentity hgeneration ?_ hpresented hroute
          hmatch hjoined.symm hsteps
        rw [← hauthorization]
        exact mem_append_right _ (mem_singleton_self _)
      have hleftok : ∀ members,
          Ok tls { w.ask authorization .ok with ingress := ⟨left, members⟩ } := by
        intro members
        have hquiet := GroupWorld.Quiet.detachDataRoute joined route connection
        have hstep := registryDetachDataRoute_steps joined route connection
        rw [hdetach] at hquiet hstep
        exact Ok.quiet (w := { w.ask authorization .ok with ingress := ⟨joined, members⟩ })
          (hattach members) hquiet hstep
      have hspares : ∀ members, (∀ other ≠ connection, members other = w.ingress.members other) →
          w.Spares { w.ask authorization .ok with ingress := ⟨left, members⟩ } connection
            (some route) := by
        intro members hmembers
        refine .of_release rfl (hleft ▸ rfl) hmembers
          (fun g' hg' => hleft ▸ update_of_ne hg' _ _) hroute ?_
        rw [show ({ w.ask authorization .ok with
          ingress := ⟨left, members⟩ } : ListenerWorld).shard.groups g = _ from hleftself]
        exact hreleases
      rcases hdone with ⟨hhandler, hresult⟩ | ⟨hhandler, hresult⟩
      · rw [hresult, show w.ingress.shard.setGroup g _ = joined from hjoined]
        dsimp only
        by_cases hfinal : env.finalDeadline = .ok
        · rw [if_pos hfinal]
          exact ⟨hattach _, fun hne => absurd rfl hne⟩
        rw [if_neg hfinal]
        have hevent : ingressEvent (IngressWorld.setMember ⟨joined, w.ingress.members⟩ connection
            (some ⟨g, route, route.member, true⟩)) connection =
              ⟨left, update (update w.ingress.members connection
                (some ⟨g, route, route.member, true⟩)) connection none⟩ := by
          unfold ingressEvent IngressWorld.setMember
          dsimp only
          rw [update_self]
          dsimp only
          rw [hdetach]
        rw [hevent]
        refine ⟨hleftok _, fun _ => hspares _ fun other hother => ?_⟩
        rw [update_of_ne hother, update_of_ne hother]
      · rw [hresult, show w.ingress.shard.setGroup g _ = left from hleft]
        split
        next hok =>
          exact absurd (congrArg Prod.fst hok) hhandler
        rename_i hother
        cases hother
        have hroute' : registryRoute left route true = .ok g := by
          rw [← hleft]
          exact registryRoute_setGroup true hroute ⟨rfl, rfl, rfl, rfl⟩
        have hspent : (registryCancelDataRoute left route).2 = left := by
          refine registryCancelDataRoute_spent hroute' ?_
          rw [hleftself, hreleases.freed]
          simp
        have hcancel : ({ w.ask authorization .ok with
            ingress := ⟨left, w.ingress.members⟩ } : ListenerWorld).setShard
              (registryCancelDataRoute left route).2 =
            { w.ask authorization .ok with ingress := ⟨left, w.ingress.members⟩ } := by
          rw [hspent]
          rfl
        rw [show ({ w.ask authorization .ok with
          ingress := ⟨left, w.ingress.members⟩ } : ListenerWorld).shard = left from rfl, hcancel]
        exact ⟨hleftok _, fun _ => hspares _ fun _ _ => rfl⟩

/-! ## A CONTROL route and its end -/

omit h in
/-- The removals are quiet moves of the group. -/
theorem controlRemoveAll_quiet (members : List (DataRef × ConnHandle)) (p : Pipeline) :
    p.Quiet (controlRemoveAll members p).2 ∧
      ReflTransGen Pipeline.Move p (controlRemoveAll members p).2 := by
  induction members generalizing p with
  | nil => exact ⟨.refl p, .refl⟩
  | cons member rest ih =>
    obtain ⟨data, connection⟩ := member
    have hquiet := Pipeline.Quiet.removeData p data
    have hmoves := pipelineRemoveData_moves p data
    rw [controlRemoveAll]
    split
    next p' heq =>
      rw [heq] at hquiet hmoves
      exact ⟨hquiet.trans (ih p').1, hmoves.trans (ih p').2⟩
    rename_i heq
    rw [heq] at hquiet hmoves
    exact ⟨hquiet, hmoves⟩

/-- The events of the members' connections. -/
theorem Ok.events (members : List (DataRef × ConnHandle)) : Ok tls { w with
      ingress := members.foldl (fun ingress member => ingressEvent ingress member.2)
        w.ingress } := by
  induction members generalizing w with
  | nil => exact h
  | cons member rest ih =>
    have hsteps : Steps w.shard (ingressEvent w.ingress member.2).shard :=
      ingressStep_steps w.ingress (.event member.2)
    exact ih (h.quiet (ingressEvent_quiet w.ingress member.2) hsteps)

/-- A session that begins to close, while its group changes quietly. -/
theorem Ok.closing (s : Nat) {shard : GroupWorld} (hquiet : w.shard.Quiet shard)
    (hsteps : Steps w.shard shard) :
    Ok tls ((w.setSession s { w.sessions s with closing := true }).setShard shard) := by
  refine h.mono hquiet (h.groups.steps hsteps) rfl (fun s' => ?_) (List.Subset.refl _)
    (List.Subset.refl _)
  by_cases hs' : s' = s
  · rw [hs']
    exact ⟨true, update_self _ _ _⟩
  · exact ⟨(w.sessions s').closing, update_of_ne hs' _ _⟩

/-- The CONTROL connection of a session ends. -/
theorem Ok.controlAbort {s : Nat} (hs : s < w.pipelineCapacity)
    (hused : (w.sessions s).used = true) : Ok tls (listenerControlAbort w s) := by
  unfold listenerControlAbort
  dsimp only
  set g := (w.sessions s).group with hg
  generalize attachedDataSnapshot (w.shard.groups g) = members
  obtain ⟨hquiet, hmoves⟩ := controlRemoveAll_quiet members (w.shard.groups g)
  split
  next p hremove =>
    rw [hremove] at hquiet hmoves
    have hquiet' := GroupWorld.Quiet.setGroup hquiet
    have hsteps := steps_setGroup hmoves
    have hremoved : Ok tls { w with ingress.shard := w.shard.setGroup g p } :=
      h.quiet hquiet' hsteps
    rcases registryCloseControl_cases (w.shard.setGroup g p) g (w.sessions s).connection with
      ⟨hret, hsame⟩ | ⟨found, _, _, hcount, _, heq⟩
    · split
      next hclose =>
        rw [hclose] at hret
        exact absurd rfl hret
      next hclose =>
        rw [hclose] at hsame
        cases hsame
        exact h.closing s hquiet' hsteps
    · -- The close succeeded, so the group has no members left.
      have hempty : ∀ i < ((w.shard.setGroup g p).groups g).dataCapacity,
          (((w.shard.setGroup g p).groups g).dataSlots i).state ≠ .attached := fun i hi =>
        Pipeline.countState_eq_zero
          ((hremoved.groups.groups g).members.dataCount.symm.trans hcount) hi
      have hclosed := (hremoved.dropSession (s := s) {} rfl fun _ => hempty).closeControl
        (g := g) (w.sessions s).connection fun s' hs' hused' hgroup => by
          simp only [ListenerWorld.setSession, update_apply] at hused' hgroup
          grind [h.apart s' hs' s hs]
      rw [show (registryCloseControl (ListenerWorld.shard _) g _).2 = _ from
        congrArg Prod.snd heq] at hclosed
      rw [heq]
      exact Ok.events hclosed members
  next hremove =>
    rw [hremove] at hquiet hmoves
    exact h.closing s (GroupWorld.Quiet.setGroup hquiet) (steps_setGroup hmoves)

/-- A CONTROL route opens a group with its session, or leaves neither behind. -/
theorem Ok.acceptControl {route : RoutePreface} {connection : ConnHandle}
    {env : PrefaceEnv} (hnew : ¬ w.shard.registered env.group) :
    Ok tls (listenerAcceptControl tls w route connection env).2.1 ∧
      ∀ s, (listenerAcceptControl tls w route connection env).2.2 = some s →
        s < (listenerAcceptControl tls w route connection env).2.1.pipelineCapacity ∧
          ((listenerAcceptControl tls w route connection env).2.1.sessions s).used = true := by
  unfold listenerAcceptControl
  iterate 3
    split
    · exact ⟨h, by simp⟩
  dsimp only
  generalize hauthorization : (⟨route.pipelineId, route.epoch, .control, tls.identity connection,
    {}⟩ : Authorization) = authorization
  have hasked := h.ask authorization env.authorize
  split
  · exact ⟨hasked, by simp⟩
  rename_i hanswer
  split
  · exact ⟨hasked, by simp⟩
  rename_i s hreserve
  have hs : s < w.pipelineCapacity :=
    mem_range.mp (mem_of_find?_eq_some hreserve)
  have hunused : ((w.ask authorization env.authorize).sessions s).used = false := by
    simpa using find?_some hreserve
  rcases controlCreate_cases (w.ask authorization env.authorize) route connection env.group with
    ⟨hret, _⟩ | ⟨p, insert, hcreate, hid, hepoch, hfind, heq⟩
  · split
    next hok =>
      rw [hok] at hret
      exact absurd rfl hret
    · exact ⟨hasked, by simp⟩
  · rw [heq]
    obtain ⟨hfree, hcreated⟩ := hasked.create hnew hcreate hfind
    obtain ⟨hvacant, _, _⟩ := find_missing
      (registryProbe_lt (show 0 < w.shard.registry.capacity from h.groups.named.positive)) hfind
    dsimp only
    split
    · refine ⟨hcreated.openSession hunused hfree ?_, fun s' hs' => ?_⟩
      · constructor <;>
          rw [show ∀ (u : ListenerWorld) session, (u.setSession s session).sessions s = session
            from fun _ _ => update_self _ _ _]
        · exact ⟨insert, hvacant, hid ▸ publish_entry⟩
        · exact (congrArg Pipeline.epoch publish_self).trans hepoch
        · exact congrArg Pipeline.control publish_self
        · rw [← hauthorization, ← not_not.mp hanswer]
          exact mem_append_right _ (mem_singleton_self _)
      · cases hs'
        refine ⟨hs, ?_⟩
        rw [show ∀ (u : ListenerWorld) session, (u.setSession s session).sessions s = session
          from fun _ _ => update_self _ _ _]
    · refine ⟨(hcreated.closeControl connection hfree).dropSession _ rfl fun hused => ?_, by simp⟩
      cases hunused.symm.trans hused

/-- A CONTROL route keeps the invariant. -/
theorem Ok.routedControl {env : PrefaceEnv} (hnew : ¬ w.shard.registered env.group)
    (hrole : route.role = routeControl) : Ok tls (listenerRouted tls w route connection env).2 := by
  obtain ⟨hok, hsession⟩ := @Ok.acceptControl tls w h route connection env hnew
  unfold listenerRouted
  rw [if_pos hrole]
  generalize listenerAcceptControl tls w route connection env = out at hok hsession ⊢
  obtain ⟨ret, w', found⟩ := out
  split
  next s hout =>
    cases hout
    obtain ⟨hs, hused⟩ := hsession s rfl
    split
    · exact hok
    · exact hok.controlAbort hs hused
  next hout =>
    cases hout
    exact hok

/-! ## Every run -/

/-- The connections that wait for their route, and the routes that came in, are not part of
the invariant. -/
theorem Ok.await (pending : ConnHandle → Option RouteParser)
    {presented : List (ConnHandle × RoutePreface)} (hpresented : w.presented ⊆ presented) :
    Ok tls { w with pending := pending, presented := presented } :=
  h.mono (GroupWorld.Quiet.refl _) h.groups rfl (fun s => ⟨(w.sessions s).closing, rfl⟩)
    (List.Subset.refl _) hpresented

/-- A piece of a route. -/
theorem Ok.prefaceFeed (connection : ConnHandle) (data : List UInt8) (env : PrefaceEnv) :
    (¬ w.shard.registered env.group → Ok tls (listenerPrefaceFeed tls w connection data env).2) ∧
      ((listenerPrefaceFeed tls w connection data env).1 ≠ .ok →
        (∀ route, listenerRoute w connection data = some route → route.role = routeData) →
        w.Spares (listenerPrefaceFeed tls w connection data env).2 connection
          (listenerRoute w connection data)) := by
  unfold listenerPrefaceFeed listenerRoute
  have hsettled : Ok tls (w.settled connection) := h.await _ (List.Subset.refl _)
  have hnothing : ∀ route, w.Spares (w.settled connection) connection route :=
    fun _ => .of_same rfl rfl
  cases hpending : w.pending connection with
  | none => exact ⟨fun _ => h, fun _ _ => .of_same rfl rfl⟩
  | some parser =>
    dsimp only
    split
    · exact ⟨fun _ => hsettled, fun _ _ => hnothing _⟩
    cases hfeed : routeParserFeed parser data with
    | mk ret rest =>
      obtain ⟨parser', consumed, found⟩ := rest
      dsimp only
      split
      · exact ⟨fun _ => hsettled, fun _ _ => hnothing _⟩
      split
      · exact ⟨fun _ => hsettled, fun _ _ => hnothing _⟩
      cases found with
      | none => exact ⟨fun _ => h.await _ (List.Subset.refl _), fun hne => absurd rfl hne⟩
      | some route =>
        have hawait : Ok tls { w.settled connection with
            presented := w.presented ++ [(connection, route)] } :=
          h.await _ (subset_append_left _ _)
        have hmem : (connection, route) ∈ w.presented ++ [(connection, route)] :=
          mem_append_right _ (mem_singleton_self _)
        by_cases hdata : route.role = routeData
        · obtain ⟨hok, hspares⟩ := @Ok.routedData tls _ hawait route connection env hmem hdata
          refine ⟨fun _ => hok, fun hne _ => ?_⟩
          have hs := hspares hne
          exact ⟨hs.sessions, hs.registry, hs.handlers, hs.groups⟩
        · refine ⟨fun hnew => ?_, fun _ honly => absurd (honly route rfl) hdata⟩
          by_cases hcontrol : route.role = routeControl
          · exact hawait.routedControl hnew hcontrol
          dsimp only
          rw [listenerRouted, if_neg hcontrol, if_neg hdata]
          exact hawait

/-- One event. -/
theorem Ok.step {action : ListenerAction}
    (hstep : listenerStep tls w action = some w') : Ok tls w' := by
  cases action with
  | connect connection =>
    cases hstep
    exact h.await _ (List.Subset.refl _)
  | preface connection data env =>
    obtain ⟨hnew, hstep⟩ := ite_none_left_eq_some.mp hstep
    cases hstep
    exact (h.prefaceFeed connection data env).1 hnew
  | timeout connection =>
    cases hstep
    exact h.await _ (List.Subset.refl _)
  | controlEvent s =>
    obtain ⟨⟨hs, hused⟩, hstep⟩ := ite_none_right_eq_some.mp hstep
    cases hstep
    exact h.controlAbort hs hused
  | control s call =>
    obtain ⟨_, hstep⟩ := ite_none_right_eq_some.mp hstep
    cases hstep
    exact h.quiet (GroupWorld.Quiet.setGroup (Pipeline.Quiet.call _ _))
      (steps_setGroup (controlCall_moves _ _))
  | dataFrame connection type streamId =>
    cases hstep
    exact h.quiet (ingressFrame_quiet _ _ _ _) (ingressFrame_steps _ _ _ _)
  | dataEvent connection =>
    cases hstep
    exact h.quiet (ingressEvent_quiet _ _) (ingressStep_steps w.ingress (.event connection))
  | drain draining =>
    cases hstep
    exact h.mono (GroupWorld.Quiet.refl _) h.groups rfl (fun s => ⟨(w.sessions s).closing, rfl⟩)
      (List.Subset.refl _) (List.Subset.refl _)

end

/-- A listener before anything has happened. -/
structure Fresh (w : ListenerWorld) : Prop where
  shard : w.shard.Fresh
  sessions : ∀ s, (w.sessions s).used = false

theorem Fresh.ok (h : w.Fresh) : Ok tls w := by
  refine ⟨h.shard.ok, fun s _ hused => ?_, fun s _ _ _ hused _ _ => ?_, fun g i _ hstate => ?_⟩
  · rw [h.sessions s] at hused
    cases hused
  · rw [h.sessions s] at hused
    cases hused
  · obtain ⟨config, hcreate⟩ := h.shard.groups g
    unfold pipelineCreate at hcreate
    split_ifs at hcreate
    rw [← Except.ok.inj hcreate] at hstate
    cases hstate

end ListenerWorld

/-- The route of a CONTROL connection of group 7, epoch 3. -/
def exampleControlBytes : List UInt8 :=
  routePrefaceEncode ⟨routeVersion, routeControl, 0, 0, 7, 3, routeMemberControl, 1, 0, 0⟩

/-- The route of a DATA connection with a capability of the first slot of that group. -/
def exampleDataBytes (generation : UInt32) : List UInt8 :=
  routePrefaceEncode ⟨routeVersion, routeData, 0, 0, 7, 3, 0, generation, 0, 0⟩

/-- A listener for two groups. -/
def exampleListener : ListenerWorld where
  ingress := ⟨exampleShard, fun _ => none⟩
  pipelineCapacity := 2
  dataCapacity := 2
  streamAffinityCapacity := 4

/-- One peer, on every connection. -/
def exampleTls : TlsFacts where
  identity _ := ⟨.tlsCertificate, some [97]⟩
  generation _ := 1

/-- CONTROL opens the group.  The authorizer refuses the first DATA connection, which costs the
reservation; the second joins with the next one, and a third cannot use it again. -/
def exampleJoining : List ListenerAction :=
  [.connect ⟨1, 0, 1⟩, .preface ⟨1, 0, 1⟩ exampleControlBytes {}, .control 0 .reserveData,
    .connect ⟨1, 1, 1⟩,
    .preface ⟨1, 1, 1⟩ (exampleDataBytes 1) { authorize := .errInvalid, group := 1 },
    .control 0 .reserveData, .connect ⟨1, 2, 1⟩,
    .preface ⟨1, 2, 1⟩ (exampleDataBytes 2) { group := 1 }, .connect ⟨1, 3, 1⟩,
    .preface ⟨1, 3, 1⟩ (exampleDataBytes 2) { group := 1 }]

end Trpc
