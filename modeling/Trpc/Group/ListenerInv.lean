import Trpc.Group.Listener

/-!
# Who is in a connection group

* `ListenerWorld.Ok`: a session that is used belongs to one registered group and holds
  what TLS said of its CONTROL connection, and every member of a group came with the
  identity and the TLS generation of a session of that group.
* `ListenerWorld.Spares`: all that a rejected DATA route may have changed.
-/

namespace Trpc

open Lib Lib.Tombstones GroupWorld Function
open Relation (ReflTransGen)

/-! ## What the calls of the registry do -/

/-- CONTROL that is cleared leaves the members where they are. -/
theorem pipelineClearControl_members (p : Pipeline) (expected : ConnHandle) (i : Nat)
    (h : ((pipelineClearControl p expected).2.dataSlots i).state = .attached) :
    (p.dataSlots i).state = .attached := by
  unfold pipelineClearControl at h
  split at h
  · exact h
  split at h
  · unfold Pipeline.releaseControl at h
    dsimp only at h
    split at h
    · cases h
    · exact h
  · exact h

namespace GroupWorld

/-- A new pipeline with its CONTROL connection, entered in the registry. -/
def publish (w : GroupWorld) (g : Nat) (p : Pipeline) (connection : ConnHandle)
    (insert : Nat) : GroupWorld :=
  ((w.setGroup g p).setGroup g (p.bindControl connection)).enter insert g

variable {w : GroupWorld} {g insert : Nat} {p : Pipeline} {connection : ConnHandle}

theorem publish_self : (w.publish g p connection insert).groups g = p.bindControl connection :=
  update_self _ _ _

theorem publish_other {g' : Nat} (hg : g' ≠ g) :
    (w.publish g p connection insert).groups g' = w.groups g' :=
  (update_of_ne hg _ _).trans (update_of_ne hg _ _)

theorem publish_entry :
    (w.publish g p connection insert).registry.entries insert = .used p.pipelineId g := by
  refine (update_self _ _ _).trans ?_
  rw [show ((w.setGroup g p).setGroup g (p.bindControl connection)).groups g =
    p.bindControl connection from update_self _ _ _]
  rfl

/-- A new pipeline has no CONTROL connection and free slots. -/
theorem pipelineCreate_plain {config : PipelineConfig} (hcreate : pipelineCreate config = .ok p) :
    p.control = none ∧ p.dataSlots = fun _ => {} := by
  unfold pipelineCreate at hcreate
  split_ifs at hcreate
  cases hcreate
  exact ⟨rfl, rfl⟩

/-- The registry does not name the memory, so the new pipeline may stand there. -/
theorem Ok.publish (h : w.Ok) (hnew : ¬ w.registered g) {config : PipelineConfig}
    (hcreate : pipelineCreate config = .ok p)
    (hfind : w.find p.pipelineId = .missing (some insert)) :
    (w.publish g p connection insert).Ok := by
  have hself : (w.setGroup g p).groups g = p := update_self _ _ _
  have hother : ∀ g' ≠ g, (w.setGroup g p).groups g' = w.groups g' := fun g' hg =>
    update_of_ne hg _ _
  obtain ⟨hcontrol, hslots⟩ := pipelineCreate_plain hcreate
  have hbefore : (w.setGroup g p).Ok := by
    refine ⟨fun g' => ?_, h.named.positive, h.named.sound, fun pos hpos id g' hentry => ?_⟩
    · by_cases hg : g' = g
      · rw [hg, hself]
        exact pipelineCreate_ok hcreate
      · rw [hother g' hg]
        exact h.groups g'
    · have hg : g' ≠ g := by
        rintro rfl
        refine hnew ⟨pos, hpos, ?_⟩
        rw [pipelineAt, show w.registry.entries pos = .used id g' from hentry]
        rfl
      rw [hother g' hg]
      exact h.named.named pos hpos id g' hentry
  have hbound : ((w.setGroup g p).setGroup g (p.bindControl connection)).Ok := by
    refine hbefore.steps (steps_setGroup ?_)
    rw [hself]
    refine .single (.bindControl hcontrol ?_)
    rw [Pipeline.connectionIsData_eq_false, hslots]
    simp
  refine ⟨hbound.groups, hbound.named.enter ?_⟩
  rw [show ((w.setGroup g p).setGroup g (p.bindControl connection)).groups g =
    p.bindControl connection from update_self _ _ _]
  exact hfind

end GroupWorld

/-- A pipeline that was created and registered is new, and in the registry. -/
theorem controlCreate_cases (w : ListenerWorld) (route : RoutePreface) (connection : ConnHandle)
    (g : Nat) :
    ((controlCreate w route connection g).1 ≠ .ok ∧
        (controlCreate w route connection g).2 = w.shard) ∨
      ∃ p insert, (∃ config : PipelineConfig, pipelineCreate config = .ok p) ∧
        p.pipelineId = route.pipelineId ∧ p.epoch = route.epoch ∧
        w.shard.find p.pipelineId = .missing (some insert) ∧
        controlCreate w route connection g = (.ok, w.shard.publish g p connection insert) := by
  unfold controlCreate
  split
  next ret hcreate =>
    unfold pipelineCreate at hcreate
    split_ifs at hcreate
    cases hcreate
    exact .inl ⟨by simp, rfl⟩
  rename_i p hcreate
  have hfields : p.pipelineId = route.pipelineId ∧ p.epoch = route.epoch := by
    unfold pipelineCreate at hcreate
    split_ifs at hcreate
    cases hcreate
    exact ⟨rfl, rfl⟩
  rcases registryRegisterControl_cases (w.shard.setGroup g p) g connection with
    ⟨hret, _⟩ | ⟨insert, _, hfind, _, _, heq⟩
  · split
    next hok =>
      exact absurd (congrArg Prod.fst hok) hret
    next hne _ =>
      exact .inl ⟨hne, rfl⟩
  · rw [show (w.shard.setGroup g p).groups g = p from update_self _ _ _] at hfind heq
    rw [heq]
    exact .inr ⟨p, insert, ⟨_, hcreate⟩, hfields.1, hfields.2, hfind, rfl⟩

namespace ListenerWorld

variable {tls : TlsFacts} {w w' : ListenerWorld}

/-- A session and its group. -/
structure SessionOk (tls : TlsFacts) (w : ListenerWorld) (s : Nat) : Prop where
  registered : ∃ pos < w.shard.registry.capacity,
    w.shard.registry.entries pos = .used (w.sessions s).pipelineId (w.sessions s).group
  epoch : (w.shard.groups (w.sessions s).group).epoch = (w.sessions s).epoch
  control : (w.shard.groups (w.sessions s).group).control = some (w.sessions s).connection
  identity : (w.sessions s).peerIdentity = tls.identity (w.sessions s).connection
  generation : (w.sessions s).tlsGeneration = tls.generation (w.sessions s).connection
  approved : (⟨(w.sessions s).pipelineId, (w.sessions s).epoch, .control,
    (w.sessions s).peerIdentity, {}⟩, .ok) ∈ w.asked

/-- A member came through this session, with this route. -/
structure Joined (tls : TlsFacts) (w : ListenerWorld) (g i s : Nat) (route : RoutePreface) :
    Prop where
  used : s < w.pipelineCapacity ∧ (w.sessions s).used = true
  group : (w.sessions s).group = g
  identity : tls.identity ((w.shard.groups g).dataSlots i).connection = (w.sessions s).peerIdentity
  generation : tls.generation ((w.shard.groups g).dataSlots i).connection =
    (w.sessions s).tlsGeneration
  approved : (⟨(w.sessions s).pipelineId, (w.sessions s).epoch, .data,
    tls.identity ((w.shard.groups g).dataSlots i).connection,
    (w.sessions s).peerIdentity⟩, .ok) ∈ w.asked
  presented : (((w.shard.groups g).dataSlots i).connection, route) ∈ w.presented
  role : route.role = routeData
  shard : route.ownerShardId = (w.shard.groups g).ownerShardId
  pipelineId : route.pipelineId = (w.shard.groups g).pipelineId
  epoch : route.epoch = (w.shard.groups g).epoch
  member : route.member = (w.shard.groups g).refOf i

/-- The session is the same, but for its `closing`. -/
def SameSession (a b : ListenerSession) : Prop := ∃ closing, b = { a with closing := closing }

theorem SameSession.of_eq {a b : ListenerSession} (h : b = a) : SameSession a b := ⟨a.closing, h⟩

/-- A session is not touched by what happens to other groups. -/
theorem SessionOk.keep {s : Nat} (h : SessionOk tls w s)
    (hsession : SameSession (w.sessions s) (w'.sessions s))
    (hepoch : (w'.shard.groups (w.sessions s).group).epoch =
      (w.shard.groups (w.sessions s).group).epoch)
    (hcontrol : (w'.shard.groups (w.sessions s).group).control =
      (w.shard.groups (w.sessions s).group).control)
    (hregistered : ∃ pos < w'.shard.registry.capacity,
      w'.shard.registry.entries pos = .used (w.sessions s).pipelineId (w.sessions s).group)
    (happroved : w.asked ⊆ w'.asked) : SessionOk tls w' s := by
  obtain ⟨_, hsession⟩ := hsession
  exact ⟨hsession ▸ hregistered, hsession ▸ hepoch.trans h.epoch,
    hsession ▸ hcontrol.trans h.control, hsession ▸ h.identity, hsession ▸ h.generation,
    hsession ▸ happroved h.approved⟩

/-- A member is not touched by what happens to other groups and sessions. -/
theorem Joined.keep {g i s : Nat} {route : RoutePreface} (h : Joined tls w g i s route)
    (hcapacity : w'.pipelineCapacity = w.pipelineCapacity)
    (hsession : SameSession (w.sessions s) (w'.sessions s))
    (hgroup : (w.shard.groups g).SameGroup (w'.shard.groups g))
    (hslot : (w'.shard.groups g).dataSlots i = (w.shard.groups g).dataSlots i)
    (happroved : w.asked ⊆ w'.asked) (hpresented : w.presented ⊆ w'.presented) :
    Joined tls w' g i s route := by
  obtain ⟨_, hsession⟩ := hsession
  constructor
  · rw [hsession, hcapacity]
    exact h.used
  · rw [hsession]
    exact h.group
  · rw [hsession, hslot]
    exact h.identity
  · rw [hsession, hslot]
    exact h.generation
  · rw [hsession, hslot]
    exact happroved h.approved
  · rw [hslot]
    exact hpresented h.presented
  · exact h.role
  · exact h.shard.trans hgroup.shard.symm
  · exact h.pipelineId.trans hgroup.id.symm
  · exact h.epoch.trans hgroup.epoch.symm
  · rw [h.member, Pipeline.refOf, Pipeline.refOf, hslot]

/-- A group that stays keeps its name. -/
theorem sameGroup_of_eq {p p' : Pipeline} (h : p' = p) : p.SameGroup p' := by
  rw [h]
  exact ⟨rfl, rfl, rfl, rfl⟩

/-- The invariant. -/
structure Ok (tls : TlsFacts) (w : ListenerWorld) : Prop where
  groups : w.shard.Ok
  sessions : ∀ s < w.pipelineCapacity, (w.sessions s).used = true → SessionOk tls w s
  apart : ∀ s < w.pipelineCapacity, ∀ s' < w.pipelineCapacity, (w.sessions s).used = true →
    (w.sessions s').used = true → (w.sessions s).group = (w.sessions s').group → s = s'
  members : ∀ g, ∀ i < (w.shard.groups g).dataCapacity,
    ((w.shard.groups g).dataSlots i).state = .attached → ∃ s route, Joined tls w g i s route

namespace Ok

section

variable (h : Ok tls w)

include h

/-- Quiet calls, longer histories, and sessions that begin to close. -/
theorem mono (hquiet : w.shard.Quiet w'.shard) (hok : w'.shard.Ok)
    (hcapacity : w'.pipelineCapacity = w.pipelineCapacity)
    (hsessions : ∀ s, SameSession (w.sessions s) (w'.sessions s))
    (happroved : w.asked ⊆ w'.asked) (hpresented : w.presented ⊆ w'.presented) :
    Ok tls w' where
  groups := hok
  sessions s hs hused := by
    have hold := h.sessions s (hcapacity ▸ hs)
    have hgroup := hquiet.groups (w.sessions s).group
    obtain ⟨_, hb⟩ := hsessions s
    rw [hb] at hused
    refine (hold hused).keep (hsessions s) hgroup.same.epoch hgroup.control ?_ happroved
    rw [hquiet.registry]
    exact (hold hused).registered
  apart s hs s' hs' hused hused' hsame := by
    obtain ⟨_, hb⟩ := hsessions s
    obtain ⟨_, hb'⟩ := hsessions s'
    rw [hb] at hused hsame
    rw [hb'] at hused' hsame
    rw [hcapacity] at hs hs'
    exact h.apart s hs s' hs' hused hused' hsame
  members g i hi hstate := by
    have hgroup := hquiet.groups g
    have hslot := hgroup.members i hstate
    rw [hgroup.capacity] at hi
    rw [hslot] at hstate
    obtain ⟨s, route, hjoined⟩ := h.members g i hi hstate
    exact ⟨s, route, hjoined.keep hcapacity (hsessions s) hgroup.same hslot happroved hpresented⟩

/-- A quiet call of the shard. -/
theorem quiet {ingress : IngressWorld} (hquiet : w.shard.Quiet ingress.shard)
    (hsteps : Steps w.shard ingress.shard) : Ok tls { w with ingress := ingress } :=
  h.mono hquiet (h.groups.steps hsteps) rfl (fun _ => .of_eq rfl)
    (List.Subset.refl _) (List.Subset.refl _)

/-- The authorizer has answered. -/
theorem ask (authorization : Authorization) (answer : Status) :
    Ok tls (w.ask authorization answer) :=
  h.mono (GroupWorld.Quiet.refl _) h.groups rfl (fun _ => .of_eq rfl)
    (List.subset_append_left _ _) (List.Subset.refl _)

/-- A used session is the one of its registered group. -/
theorem group_eq {s g pos : Nat} (hs : s < w.pipelineCapacity)
    (hused : (w.sessions s).used = true) (hpos : pos < w.shard.registry.capacity)
    (hentry : w.shard.registry.entries pos = .used (w.sessions s).pipelineId g) :
    (w.sessions s).group = g := by
  obtain ⟨pos', hpos', hentry'⟩ := (h.sessions s hs hused).registered
  have hsame := h.groups.named.sound.single pos hpos pos' hpos' _ _ _ hentry hentry'
  rw [hsame, hentry'] at hentry
  cases hentry
  rfl

/-- A group without sessions is closed. -/
theorem closeControl {g : Nat} (connection : ConnHandle)
    (hfree : ∀ s < w.pipelineCapacity, (w.sessions s).used = true → (w.sessions s).group ≠ g) :
    Ok tls (w.setShard (registryCloseControl w.shard g connection).2) := by
  have hok := h.groups.steps (registryCloseControl_steps w.shard g connection)
  rcases registryCloseControl_cases w.shard g connection with
    ⟨_, hsame⟩ | ⟨found, _, hat, _, _, heq⟩
  · rw [hsame]
    exact h
  rw [heq] at hok ⊢
  have hother : ∀ g' ≠ g, ((w.shard.setGroup g
      (pipelineClearControl (w.shard.groups g) connection).2).erase found).groups g' =
        w.shard.groups g' := fun g' hg' => update_of_ne hg' _ _
  refine ⟨hok, fun s hs hused => ?_, h.apart, fun g' i hi hstate => ?_⟩
  · have hne := hfree s hs hused
    have hgroup := hother _ hne
    refine (h.sessions s hs hused).keep (.of_eq rfl) (congrArg Pipeline.epoch hgroup)
      (congrArg Pipeline.control hgroup) ?_ (List.Subset.refl _)
    obtain ⟨pos, hpos, hentry⟩ := (h.sessions s hs hused).registered
    refine ⟨pos, hpos, ?_⟩
    have hposne : pos ≠ found := by
      rintro rfl
      rw [GroupWorld.pipelineAt, hentry] at hat
      exact hne (Option.some.inj hat)
    exact (update_of_ne hposne _ _).trans hentry
  · by_cases hg : g' = g
    · subst hg
      have hself : ((w.shard.setGroup g' (pipelineClearControl (w.shard.groups g')
          connection).2).erase found).groups g' =
            (pipelineClearControl (w.shard.groups g') connection).2 :=
        update_self _ _ _
      have hcapacity : (pipelineClearControl (w.shard.groups g') connection).2.dataCapacity =
          (w.shard.groups g').dataCapacity := by
        unfold pipelineClearControl
        split_ifs <;> rfl
      simp only [ListenerWorld.setShard, ListenerWorld.shard] at hi hstate
      rw [hself] at hi hstate
      rw [hcapacity] at hi
      obtain ⟨s, route, hjoined⟩ :=
        h.members g' i hi (pipelineClearControl_members _ _ _ hstate)
      exact absurd hjoined.group (hfree s hjoined.used.1 hjoined.used.2)
    · simp only [ListenerWorld.setShard, ListenerWorld.shard] at hi hstate
      rw [hother g' hg] at hi hstate
      obtain ⟨s, route, hjoined⟩ := h.members g' i hi hstate
      exact ⟨s, route, hjoined.keep rfl (.of_eq rfl) (sameGroup_of_eq (hother g' hg))
        (congrFun (congrArg Pipeline.dataSlots (hother g' hg)) i) (List.Subset.refl _)
        (List.Subset.refl _)⟩

/-- The session of a group without members is given up. -/
theorem dropSession {s : Nat} (session : ListenerSession) (hunused : session.used = false)
    (hempty : (w.sessions s).used = true → ∀ i < (w.shard.groups (w.sessions s).group).dataCapacity,
        ((w.shard.groups (w.sessions s).group).dataSlots i).state ≠ .attached) :
    Ok tls (w.setSession s session) := by
  have hcell (s' : Nat) : (w.setSession s session).sessions s' =
      if s' = s then session else w.sessions s' := update_apply ..
  refine ⟨h.groups, fun s' hs' hused => ?_, fun s' hs' t ht hused hused' hgroup => ?_,
    fun g i hi hstate => ?_⟩
  · have hsame : (w.setSession s session).sessions s' = w.sessions s' := by grind
    have hold := h.sessions s' hs' (hsame ▸ hused)
    exact hold.keep (.of_eq hsame) rfl rfl hold.registered (List.Subset.refl _)
  · grind [h.apart s' hs' t ht]
  · obtain ⟨s', route, hjoined⟩ := h.members g i hi hstate
    have hne : s' ≠ s := by
      rintro rfl
      rw [hjoined.group] at hempty
      exact hempty hjoined.used.2 i hi hstate
    exact ⟨s', route, hjoined.keep rfl (.of_eq (update_of_ne hne _ _))
      (sameGroup_of_eq rfl) rfl (List.Subset.refl _) (List.Subset.refl _)⟩

/-- A new group is registered under memory that no registered group has. -/
theorem create {connection : ConnHandle} {g : Nat}
    {p : Pipeline} {insert : Nat} (hnew : ¬ w.shard.registered g)
    (hcreate : ∃ config : PipelineConfig, pipelineCreate config = .ok p)
    (hfind : w.shard.find p.pipelineId = .missing (some insert)) :
    (∀ s < w.pipelineCapacity, (w.sessions s).used = true → (w.sessions s).group ≠ g) ∧
      Ok tls (w.setShard (w.shard.publish g p connection insert)) := by
  obtain ⟨config, hcreate⟩ := hcreate
  have hfree : ∀ s < w.pipelineCapacity, (w.sessions s).used = true → (w.sessions s).group ≠ g := by
    rintro s hs hused rfl
    obtain ⟨pos, hpos, hentry⟩ := (h.sessions s hs hused).registered
    refine hnew ⟨pos, hpos, ?_⟩
    rw [GroupWorld.pipelineAt, hentry]
    rfl
  have hother : ∀ g' ≠ g, (w.setShard (w.shard.publish g p connection insert)).shard.groups g' =
      w.shard.groups g' := fun g' hg => publish_other hg
  have hvacant : ∀ key value, w.shard.registry.entries insert ≠ .used key value :=
    (find_missing (registryProbe_lt h.groups.named.positive) hfind).2.2
  refine ⟨hfree, h.groups.publish hnew hcreate hfind, fun s hs hused => ?_, h.apart,
    fun g' i hi hstate => ?_⟩
  · have hgroup := hother _ (hfree s hs hused)
    refine (h.sessions s hs hused).keep (.of_eq rfl) (congrArg Pipeline.epoch hgroup)
      (congrArg Pipeline.control hgroup) ?_ (List.Subset.refl _)
    obtain ⟨pos, hpos, hentry⟩ := (h.sessions s hs hused).registered
    refine ⟨pos, hpos, ?_⟩
    have hposne : pos ≠ insert := by
      rintro rfl
      exact hvacant _ _ hentry
    exact (update_of_ne hposne _ _).trans hentry
  · by_cases hg : g' = g
    · subst hg
      have hslots : ((w.setShard (w.shard.publish g' p connection insert)).shard.groups
          g').dataSlots = fun _ => {} :=
        (congrArg Pipeline.dataSlots publish_self).trans (pipelineCreate_plain hcreate).2
      rw [hslots] at hstate
      cases hstate
    · rw [hother g' hg] at hi hstate
      obtain ⟨s, route, hjoined⟩ := h.members g' i hi hstate
      exact ⟨s, route, hjoined.keep rfl (.of_eq rfl) (sameGroup_of_eq (hother g' hg))
        (congrFun (congrArg Pipeline.dataSlots (hother g' hg)) i) (List.Subset.refl _)
        (List.Subset.refl _)⟩

/-- A session is opened for a group that has none. -/
theorem openSession {s : Nat} {session : ListenerSession} (hunused : (w.sessions s).used = false)
    (hfree : ∀ s' < w.pipelineCapacity, (w.sessions s').used = true →
      (w.sessions s').group ≠ session.group)
    (hsession : SessionOk tls (w.setSession s session) s) : Ok tls (w.setSession s session) := by
  have hcell (s' : Nat) : (w.setSession s session).sessions s' =
      if s' = s then session else w.sessions s' := update_apply ..
  refine ⟨h.groups, fun s' hs' hused => ?_, fun s' hs' t ht hused hused' hgroup => ?_,
    fun g i hi hstate => ?_⟩
  · by_cases hne : s' = s
    · exact hne ▸ hsession
    · rw [hcell, if_neg hne] at hused
      have hold := h.sessions s' hs' hused
      exact hold.keep (.of_eq (update_of_ne hne _ _)) rfl rfl hold.registered (List.Subset.refl _)
  · grind [h.apart s' hs' t ht, hfree s' hs', hfree t ht]
  · obtain ⟨s', route, hjoined⟩ := h.members g i hi hstate
    have hne : s' ≠ s := by grind [hjoined.used]
    exact ⟨s', route, hjoined.keep rfl (.of_eq (update_of_ne hne _ _)) (sameGroup_of_eq rfl) rfl
      (List.Subset.refl _) (List.Subset.refl _)⟩

/-- A DATA connection joins the group of its session. -/
theorem attach {s g : Nat} {route : RoutePreface} {connection : ConnHandle}
    {ingress : IngressWorld} (hs : s < w.pipelineCapacity) (hused : (w.sessions s).used = true)
    (hid : (w.sessions s).pipelineId = route.pipelineId)
    (hepoch : (w.sessions s).epoch = route.epoch)
    (hidentity : tls.identity connection = (w.sessions s).peerIdentity)
    (hgeneration : tls.generation connection = (w.sessions s).tlsGeneration)
    (happroved : (⟨route.pipelineId, route.epoch, .data, tls.identity connection,
      (w.sessions s).peerIdentity⟩, .ok) ∈ w.asked)
    (hpresented : (connection, route) ∈ w.presented)
    (hroute : registryRoute w.shard route true = .ok g)
    (hmatch : (w.shard.groups g).dataRefMatches route.member .reserved)
    (hshard : ingress.shard = w.shard.setGroup g
      ((w.shard.groups g).attachSlot route.member.index connection))
    (hsteps : Steps w.shard ingress.shard) : Ok tls { w with ingress := ingress } := by
  obtain ⟨⟨pos, hpos, hentry⟩, hrole, hrshard, hrid, hrepoch⟩ := registryRoute_ok h.groups hroute
  have hgroup : (w.sessions s).group = g := by
    refine h.group_eq hs hused hpos ?_
    rw [hid]
    exact hentry
  have hregistry : ingress.shard.registry = w.shard.registry := hshard ▸ rfl
  -- One slot of one group changes.
  have hfields (g' : Nat) : (w.shard.groups g').SameGroup (ingress.shard.groups g') ∧
      (ingress.shard.groups g').control = (w.shard.groups g').control ∧
      (ingress.shard.groups g').dataCapacity = (w.shard.groups g').dataCapacity ∧
      ∀ i, (ingress.shard.groups g').dataSlots i = if g' = g ∧ i = route.member.index then
        { (w.shard.groups g').dataSlots i with connection := connection, state := .attached }
        else (w.shard.groups g').dataSlots i := by
    simp only [hshard, setGroup]
    by_cases hg : g' = g
    · subst hg
      rw [update_self]
      exact ⟨⟨rfl, rfl, rfl, rfl⟩, rfl, rfl, fun i => by
        simp only [Pipeline.attachSlot, update_apply, true_and]
        split <;> simp_all⟩
    · simp [hg, sameGroup_of_eq]
  refine ⟨h.groups.steps hsteps, fun s' hs' hused' => ?_, h.apart, fun g' i hi hstate => ?_⟩
  · have hold := h.sessions s' hs' hused'
    refine hold.keep (.of_eq rfl) (hfields _).1.epoch (hfields _).2.1 ?_ (List.Subset.refl _)
    show ∃ pos < ingress.shard.registry.capacity, _
    rw [hregistry]
    exact hold.registered
  · obtain ⟨hsame, -, hcapacity, hslots⟩ := hfields g'
    have hslot := hslots i
    by_cases hnew : g' = g ∧ i = route.member.index
    · rw [if_pos hnew] at hslot
      obtain ⟨rfl, rfl⟩ := hnew
      refine ⟨s, route, ⟨hs, hused⟩, hgroup, ?_, ?_, ?_, ?_, hrole, hrshard.trans hsame.shard.symm,
        hrid.trans hsame.id.symm, hrepoch.trans hsame.epoch.symm, ?_⟩ <;>
        dsimp only [ListenerWorld.shard, Pipeline.refOf] <;> rw [hslot]
      · exact hidentity
      · exact hgeneration
      · rwa [hid, hepoch]
      · exact hpresented
      · exact hmatch.refOf_eq.symm
    · rw [if_neg hnew] at hslot
      obtain ⟨s', route', hjoined⟩ := h.members g' i (hcapacity ▸ hi) (hslot ▸ hstate)
      exact ⟨s', route', hjoined.keep rfl (.of_eq rfl) hsame hslot (List.Subset.refl _)
        (List.Subset.refl _)⟩

end

end Ok

end ListenerWorld

end Trpc
