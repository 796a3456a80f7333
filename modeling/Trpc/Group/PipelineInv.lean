import Trpc.Group.Pipeline

/-!
# What holds of a connection group

The invariants of `group/pipeline.c`, each carried by the moves of a pipeline.

* `Pipeline.Members`: the counters agree with the slots, and no connection is in the
  group twice.
* `Pipeline.Bindings`: the hash table is sound, a binding points at a member, and the
  last `bound` event of a bound stream names its member and connection.
* `Pipeline.Capabilities`: a capability that was attached, or has ended, is spent.  This
  one needs `Pipeline.Few`: a slot has not been reserved so often that its generation
  came round.
-/

namespace Trpc

open Lib Lib.Tombstones Function List
open Relation (ReflTransGen)

/-! ## Events -/

namespace GroupEvent

/-- A reservation of this slot. -/
def reserves (i : Nat) : GroupEvent → Bool
  | .reserved data => data.index = i
  | _ => false

/-- The capability that is attached. -/
def attaches : GroupEvent → Option DataRef
  | .attached data _ _ => some data
  | _ => none

/-- The capability that cannot be attached from here on. -/
def spends : GroupEvent → Option DataRef
  | .attached data _ _ => some data
  | .ended data => some data
  | _ => none

/-- The member and the connection that this stream is bound to. -/
def binds (stream : UInt32) : GroupEvent → Option (DataRef × ConnHandle)
  | .bound stream' data connection =>
    if stream' = stream then some (data, connection) else none
  | _ => none

end GroupEvent

/-- The last binding of a stream. -/
def lastBound (events : List GroupEvent) (stream : UInt32) : Option (DataRef × ConnHandle) :=
  (events.filterMap (GroupEvent.binds stream)).getLast?

variable {p p' : Pipeline} {i : Nat} {new : List GroupEvent} {data : DataRef}

theorem lastBound_append_of_none {events : List GroupEvent} {stream : UInt32}
    (h : ∀ e ∈ new, e.binds stream = none) :
    lastBound (events ++ new) stream = lastBound events stream := by
  unfold lastBound
  rw [filterMap_append, filterMap_eq_nil_iff.mpr h, append_nil]

theorem lastBound_append_bound (events : List GroupEvent) (stream : UInt32) (data : DataRef)
    (connection : ConnHandle) :
    lastBound (events ++ [.bound stream data connection]) stream = some (data, connection) := by
  unfold lastBound
  rw [filterMap_append]
  simp [GroupEvent.binds]

/-- Every frame that was delivered came from the connection the stream was last bound to. -/
def DeliveredBound (events : List GroupEvent) : Prop :=
  ∀ before stream data connection after,
    events = before ++ .delivered stream data connection :: after →
      lastBound before stream = some (data, connection)

theorem DeliveredBound.append {events : List GroupEvent} (h : DeliveredBound events)
    (hnew : ∀ stream data connection, .delivered stream data connection ∈ new →
      new = [.delivered stream data connection] ∧
        lastBound events stream = some (data, connection)) : DeliveredBound (events ++ new) := by
  intro before stream data connection after heq
  rcases append_eq_append_iff.mp heq with ⟨mid, hbefore, hnew'⟩ | ⟨mid, hevents, hafter⟩
  · -- the frame is one of the new events, so it is the only one
    obtain ⟨hone, hlast⟩ := hnew stream data connection (hnew' ▸ by simp)
    rw [hone] at hnew'
    have hmid : mid = [] := by
      cases mid with
      | nil => rfl
      | cons e rest => simp at hnew'
    rw [hbefore, hmid, append_nil]
    exact hlast
  · cases mid with
    | nil =>
      obtain ⟨hone, hlast⟩ := hnew stream data connection (by
        rw [nil_append] at hafter
        rw [← hafter]
        simp)
      rw [append_nil] at hevents
      rw [← hevents]
      exact hlast
    | cons e rest =>
      obtain ⟨rfl, _⟩ := cons_eq_cons.mp hafter
      exact h before stream data connection rest hevents

namespace Pipeline

/-! ## Members and counters -/

/-- The number of slots in a state. -/
def countState (p : Pipeline) (state : DataState) : Nat :=
  ((Finset.range p.dataCapacity).filter fun i =>
    decide ((p.dataSlots i).state = state)).card

/-- The counters, and who may be in the group. -/
structure Members (p : Pipeline) : Prop where
  generation : ∀ i, (p.dataSlots i).state ≠ .free → (p.dataSlots i).generation ≠ 0
  reservedCount : p.dataReservedCount = p.countState .reserved
  dataCount : p.dataCount = p.countState .attached
  single : ∀ i < p.dataCapacity, ∀ j < p.dataCapacity, (p.dataSlots i).state = .attached →
    (p.dataSlots j).state = .attached →
    (p.dataSlots i).connection = (p.dataSlots j).connection → i = j
  apart : ∀ i < p.dataCapacity, (p.dataSlots i).state = .attached →
    p.control ≠ some (p.dataSlots i).connection

theorem pipelineNextGeneration_ne_zero (generation : Nat) :
    pipelineNextGeneration generation ≠ 0 := by
  unfold pipelineNextGeneration
  split_ifs with h
  · decide
  · exact h

theorem connectionIsData_eq_false {connection : ConnHandle} :
    p.connectionIsData connection = false ↔
      ∀ i < p.dataCapacity, (p.dataSlots i).state = .attached →
        (p.dataSlots i).connection ≠ connection := by
  unfold connectionIsData
  simp [any_eq_false]

theorem countState_update {slot : DataSlot} (hi : i < p.dataCapacity)
    (hcap : p'.dataCapacity = p.dataCapacity)
    (h : p'.dataSlots = update p.dataSlots i slot) (state : DataState) :
    p'.countState state + (decide ((p.dataSlots i).state = state)).toNat =
      p.countState state + (decide (slot.state = state)).toNat := by
  have hcount := @slotCount_update p.dataCapacity i
    (fun j => decide ((p.dataSlots j).state = state))
    (fun j => decide ((p'.dataSlots j).state = state)) hi (fun j hj => by
      rw [h, update_of_ne hj])
  rw [h, update_self] at hcount
  unfold countState
  rw [hcap, h]
  exact hcount

theorem countState_sum_le (p : Pipeline) :
    p.countState .reserved + p.countState .attached ≤ p.dataCapacity := by
  refine slotCount_add_le fun i h => ?_
  rw [decide_eq_true_eq] at h
  rw [h]
  rfl

theorem countState_pos {state : DataState} (hi : i < p.dataCapacity)
    (h : (p.dataSlots i).state = state) : 0 < p.countState state :=
  Finset.card_pos.mpr ⟨i, Finset.mem_filter.mpr ⟨Finset.mem_range.mpr hi, by simpa using h⟩⟩

/-- A counter of nothing means that no slot is in the state. -/
theorem countState_eq_zero {state : DataState} (h : p.countState state = 0)
    (hi : i < p.dataCapacity) : (p.dataSlots i).state ≠ state := by
  intro hstate
  have := countState_pos hi hstate
  omega

/-- A slot after CONTROL has been released. -/
theorem releaseControl_cases (p : Pipeline) (i : Nat) :
    ((i < p.dataCapacity ∧ (p.dataSlots i).state = .reserved) ∧ p.releaseControl.dataSlots i =
      { p.dataSlots i with state := .free, connection := connHandleZero }) ∨
      ¬ (i < p.dataCapacity ∧ (p.dataSlots i).state = .reserved) ∧
        p.releaseControl.dataSlots i = p.dataSlots i := by
  by_cases hres : i < p.dataCapacity ∧ (p.dataSlots i).state = .reserved
  · exact .inl ⟨hres, if_pos hres⟩
  · exact .inr ⟨hres, if_neg hres⟩

/-- A member stays where it is. -/
theorem releaseControl_attached (h : (p.dataSlots i).state = .attached) :
    p.releaseControl.dataSlots i = p.dataSlots i :=
  if_neg (by simp [h])

section

variable (h : p.Members)

include h

theorem Members.releaseControl : p.releaseControl.Members := by
  have hkeep : ∀ i, (p.releaseControl.dataSlots i).state = .attached ↔
      (p.dataSlots i).state = .attached := by
    intro i
    rcases p.releaseControl_cases i with ⟨hres, heq⟩ | ⟨-, heq⟩ <;> rw [heq]
    rw [hres.2]
    simp
  refine
    { generation := fun i hi => ?_
      reservedCount := ?_
      dataCount := ?_
      single := fun i hi j hj hsi hsj hconn => ?_
      apart := fun i hi _ => by simp [Pipeline.releaseControl] }
  · rcases p.releaseControl_cases i with ⟨-, heq⟩ | ⟨-, heq⟩ <;> rw [heq] at hi ⊢
    · exact absurd rfl hi
    · exact h.generation i hi
  · refine (Finset.card_eq_zero.mpr (Finset.filter_eq_empty_iff.mpr fun i hi => ?_)).symm
    rcases p.releaseControl_cases i with ⟨-, heq⟩ | ⟨hres, heq⟩ <;> rw [heq]
    · simp
    · simpa using fun hstate => hres ⟨Finset.mem_range.mp hi, hstate⟩
  · rw [show p.releaseControl.dataCount = p.dataCount from rfl, h.dataCount]
    unfold countState
    refine congrArg Finset.card (Finset.filter_congr fun i _ => ?_)
    simpa using (hkeep i).symm
  · rw [hkeep] at hsi hsj
    rw [releaseControl_attached hsi, releaseControl_attached hsj] at hconn
    exact h.single i hi j hj hsi hsj hconn

/-- One slot changes, and the counters with it. -/
theorem Members.update {slot : DataSlot} (hi : i < p.dataCapacity)
    (hcap : p'.dataCapacity = p.dataCapacity) (hcontrol : p'.control = p.control)
    (hslots : p'.dataSlots = update p.dataSlots i slot)
    (hgeneration : slot.state ≠ .free → slot.generation ≠ 0)
    (hjoins : slot.state = .attached → p.control ≠ some slot.connection ∧
      p.connectionIsData slot.connection = false)
    (hreserved : p'.dataReservedCount + (decide ((p.dataSlots i).state = .reserved)).toNat =
      p.dataReservedCount + (decide (slot.state = .reserved)).toNat)
    (hdata : p'.dataCount + (decide ((p.dataSlots i).state = .attached)).toNat =
      p.dataCount + (decide (slot.state = .attached)).toNat) : p'.Members := by
  have hcount := countState_update hi hcap hslots
  have hslot : ∀ j, p'.dataSlots j = if j = i then slot else p.dataSlots j := fun j => by
    rw [hslots, update_apply]
  have hnew : ∀ j < p.dataCapacity, slot.state = .attached → (p.dataSlots j).state = .attached →
      (p.dataSlots j).connection ≠ slot.connection := fun j hj hslot =>
    connectionIsData_eq_false.mp (hjoins hslot).2 j hj
  constructor
  · grind [h.generation]
  · have := hcount .reserved
    have := h.reservedCount
    omega
  · have := hcount .attached
    have := h.dataCount
    omega
  · grind [h.single]
  · grind [h.apart]

/-- A slot in a state is counted. -/
theorem Members.count_pos (hi : i < p.dataCapacity) :
    ((p.dataSlots i).state = .reserved → 0 < p.dataReservedCount) ∧
      ((p.dataSlots i).state = .attached → 0 < p.dataCount) := by
  rw [h.reservedCount, h.dataCount]
  exact ⟨countState_pos hi, countState_pos hi⟩

theorem Members.reserveSlot (hi : i < p.dataCapacity)
    (hstate : (p.dataSlots i).state = .free) : (p.reserveSlot i).Members := by
  refine h.update hi rfl rfl rfl (fun _ => pipelineNextGeneration_ne_zero _) (by simp) ?_ ?_
  · rw [hstate]
    rfl
  · rw [hstate]
    rfl

theorem Members.freeSlot (hi : i < p.dataCapacity)
    (hstate : (p.dataSlots i).state = .reserved) : (p.freeSlot i).Members := by
  refine h.update hi rfl rfl rfl (by simp) (by simp) ?_ ?_
  · rw [hstate]
    exact Nat.sub_add_cancel ((h.count_pos hi).1 hstate)
  · rw [hstate]
    rfl

theorem Members.dropMember (hi : i < p.dataCapacity)
    (hstate : (p.dataSlots i).state = .attached) : (p.dropMember i).Members := by
  refine h.update hi rfl rfl rfl (by simp) (by simp) ?_ ?_
  · rw [hstate]
    rfl
  · rw [hstate]
    exact Nat.sub_add_cancel ((h.count_pos hi).2 hstate)

theorem Members.attachSlot {connection : ConnHandle} (hi : i < p.dataCapacity)
    (hother : p.control ≠ some connection) (hdata : p.connectionIsData connection = false)
    (hstate : (p.dataSlots i).state = .reserved) : (p.attachSlot i connection).Members := by
  have hgeneration := h.generation i (by rw [hstate]; simp)
  refine h.update hi rfl rfl rfl (fun _ => hgeneration) (fun _ => ⟨hother, hdata⟩) ?_ ?_
  · rw [hstate]
    exact Nat.sub_add_cancel ((h.count_pos hi).1 hstate)
  · rw [hstate]
    rfl

theorem Members.move (hmove : Move p p') : p'.Members := by
  cases hmove with
  | bindControl hcontrol hdata =>
    exact
      { h with
        apart := fun i hi hstate heq =>
          connectionIsData_eq_false.mp hdata i hi hstate (Option.some.inj heq).symm }
  | releaseControl => exact h.releaseControl
  | dropControl => exact { h with apart := fun _ _ _ => nofun }
  | reserve hi _ hstate => exact h.reserveSlot hi hstate
  | attach hi _ hother hdata hstate => exact h.attachSlot hi hother hdata hstate
  | free hi hstate => exact h.freeSlot hi hstate
  | drop hi hstate => exact h.dropMember hi hstate
  | bind | unbind | turn | deliver => exact { h with }

end

/-! ## Bindings -/

/-- The hash table, and what its entries point at. -/
structure Bindings (p : Pipeline) : Prop where
  positive : 0 < p.affinityCapacity
  sound : Sound p.affinityCapacity p.affinities (affinityProbe p.affinityCapacity)
  attached : ∀ pos < p.affinityCapacity, ∀ stream data,
    p.affinities pos = .used stream data → p.dataRefMatches data .attached
  last : ∀ pos < p.affinityCapacity, ∀ stream data, p.affinities pos = .used stream data →
    lastBound p.events stream = some (data, (p.dataSlots data.index).connection)
  delivered : DeliveredBound p.events

theorem affinityProbe_lt {capacity : Nat} (h : 0 < capacity) (streamId : UInt32) (offset : Nat) :
    affinityProbe capacity streamId offset < capacity :=
  Nat.mod_lt _ h

section

variable (h : p.Bindings)

include h

theorem Bindings.binding_eq_some {stream : UInt32} : p.binding stream = some data ↔
      ∃ pos < p.affinityCapacity, p.affinities pos = .used stream data :=
  h.sound.lookup_eq_some (affinityProbe_lt h.positive)

/-- A change of the slots that leaves the members where they are. -/
theorem Bindings.slots (hcap : p'.dataCapacity = p.dataCapacity)
    (hacap : p'.affinityCapacity = p.affinityCapacity) (haff : p'.affinities = p.affinities)
    (hkeep : ∀ i < p.dataCapacity, (p.dataSlots i).state = .attached →
      p'.dataSlots i = p.dataSlots i) (hevents : p'.events = p.events ++ new)
    (hbinds : ∀ e ∈ new, ∀ stream, e.binds stream = none)
    (hquiet : ∀ stream data connection, .delivered stream data connection ∉ new) : p'.Bindings := by
  refine
    { positive := hacap ▸ h.positive
      sound := by
        rw [hacap, haff]
        exact h.sound
      attached := fun pos hpos stream data hcell => ?_
      last := fun pos hpos stream data hcell => ?_
      delivered := by
        rw [hevents]
        exact h.delivered.append fun stream data connection hmem =>
          absurd hmem (hquiet stream data connection) }
  · rw [hacap] at hpos
    rw [haff] at hcell
    obtain ⟨hindex, hzero, hstate, hgen⟩ := h.attached pos hpos stream data hcell
    unfold dataRefMatches
    rw [hcap, hkeep _ hindex hstate]
    exact ⟨hindex, hzero, hstate, hgen⟩
  · rw [hacap] at hpos
    rw [haff] at hcell
    obtain ⟨hindex, _, hstate, _⟩ := h.attached pos hpos stream data hcell
    rw [hevents, lastBound_append_of_none fun e he => hbinds e he stream, hkeep _ hindex hstate]
    exact h.last pos hpos stream data hcell

theorem Bindings.releaseControl : p.releaseControl.Bindings := by
  refine h.slots rfl rfl rfl (fun i _ => releaseControl_attached) rfl (fun e he stream => ?_)
    fun stream data connection hmem => ?_
  · obtain ⟨i, _, rfl⟩ := mem_map.mp he
    rfl
  · obtain ⟨i, _, heq⟩ := mem_map.mp hmem
    cases heq

/-- A change of one slot that held no member. -/
theorem Bindings.update {slot : DataSlot}
    (hstate : (p.dataSlots i).state ≠ .attached) (hcap : p'.dataCapacity = p.dataCapacity)
    (hacap : p'.affinityCapacity = p.affinityCapacity) (haff : p'.affinities = p.affinities)
    (hslots : p'.dataSlots = update p.dataSlots i slot) {e : GroupEvent}
    (hevents : p'.events = p.events ++ [e]) (hbinds : ∀ stream, e.binds stream = none)
    (hquiet : ∀ stream data connection, e ≠ .delivered stream data connection) : p'.Bindings := by
  refine h.slots hcap hacap haff (fun j _ hj => ?_) hevents (fun e' he' => ?_)
    fun stream data connection hmem => ?_
  · have hne : j ≠ i := by
      rintro rfl
      exact hstate hj
    rw [hslots, update_of_ne hne]
  · rw [mem_singleton.mp he']
    exact hbinds
  · exact hquiet stream data connection (mem_singleton.mp hmem).symm

theorem Bindings.dropMember : (p.dropMember i).Bindings := by
  have hcells : ∀ pos < p.affinityCapacity, ∀ stream data,
      (p.dropMember i).affinities pos = .used stream data →
        p.affinities pos = .used stream data ∧ data ≠ p.refOf i := by
    intro pos hpos stream data hcell
    unfold Pipeline.dropMember at hcell
    dsimp only at hcell
    split_ifs at hcell with hbinds
    · refine ⟨hcell, fun heq => hbinds ⟨hpos, ?_⟩⟩
      unfold bindsTo
      rw [hcell, heq]
      simp [Cell.value?]
  have hother : ∀ pos < p.affinityCapacity, ∀ stream data,
      (p.dropMember i).affinities pos = .used stream data → data.index ≠ i := by
    intro pos hpos stream data hcell heq
    obtain ⟨hold, hne⟩ := hcells pos hpos stream data hcell
    obtain ⟨_, _, _, hgen⟩ := h.attached pos hpos stream data hold
    apply hne
    cases data
    subst heq
    simp only [refOf, DataRef.mk.injEq, true_and]
    exact hgen.symm
  have hslot : ∀ j, j ≠ i → (p.dropMember i).dataSlots j = p.dataSlots j :=
    fun j hj => update_of_ne hj _ _
  refine
    { positive := h.positive
      sound := h.sound.bury fun pos => ?_
      attached := fun pos hpos stream data hcell => ?_
      last := fun pos hpos stream data hcell => ?_
      delivered := h.delivered.append fun _ _ _ hmem => by simp at hmem }
  · unfold Pipeline.dropMember
    dsimp only
    split_ifs
    · exact .inr rfl
    · exact .inl rfl
  · have hmatch := h.attached pos hpos stream data (hcells pos hpos stream data hcell).1
    unfold dataRefMatches at hmatch ⊢
    rw [hslot _ (hother pos hpos stream data hcell)]
    exact hmatch
  · rw [hslot _ (hother pos hpos stream data hcell)]
    rw [show (p.dropMember i).events = p.events ++ [.ended (p.refOf i)] from rfl,
      lastBound_append_of_none (by simp [GroupEvent.binds])]
    exact h.last pos hpos stream data (hcells pos hpos stream data hcell).1

theorem Bindings.bindAffinity (hmembers : p.Members) {pos : Nat} {stream : UInt32}
    (hi : i < p.dataCapacity) (hstate : (p.dataSlots i).state = .attached)
    (hfind : p.affinityFind stream = .missing (some pos)) :
    (p.bindAffinity pos stream i).Bindings := by
  have hprobe := affinityProbe_lt h.positive
  have habsent := h.sound.absent hprobe hfind
  have hmatch : p.dataRefMatches (p.refOf i) .attached :=
    ⟨hi, hmembers.generation i (by rw [hstate]; simp), hstate, rfl⟩
  have hcells : ∀ pos' < p.affinityCapacity, ∀ stream' data,
      (p.bindAffinity pos stream i).affinities pos' = .used stream' data →
        (stream' = stream ∧ data = p.refOf i) ∨
          stream' ≠ stream ∧ p.affinities pos' = .used stream' data := by
    intro pos' hpos' stream' data hcell
    simp only [Pipeline.bindAffinity, update_apply] at hcell
    grind
  refine
    { positive := h.positive
      sound := h.sound.store hprobe hfind _
      attached := fun pos' hpos' stream' data hcell => ?_
      last := fun pos' hpos' stream' data hcell => ?_
      delivered := h.delivered.append fun _ _ _ hmem => by simp at hmem }
  · rcases hcells pos' hpos' stream' data hcell with ⟨_, rfl⟩ | ⟨_, hold⟩
    · exact hmatch
    · exact h.attached pos' hpos' stream' data hold
  · show lastBound (p.events ++ [.bound stream (p.refOf i) (p.dataSlots i).connection]) stream' = _
    rcases hcells pos' hpos' stream' data hcell with ⟨rfl, rfl⟩ | ⟨hne, hold⟩
    · exact lastBound_append_bound _ _ _ _
    · rw [lastBound_append_of_none (by simp [GroupEvent.binds, Ne.symm hne])]
      exact h.last pos' hpos' stream' data hold

theorem Bindings.dropAffinity {pos : Nat} : (p.dropAffinity pos).Bindings := by
  have hcells : ∀ pos' stream' data, (p.dropAffinity pos).affinities pos' = .used stream' data →
      p.affinities pos' = .used stream' data := by
    intro pos' stream' data hcell
    simp only [Pipeline.dropAffinity, update_apply] at hcell
    grind
  refine
    { positive := h.positive
      sound := h.sound.bury fun pos' => ?_
      attached := fun pos' hpos' stream' data hcell =>
        h.attached pos' hpos' stream' data (hcells pos' stream' data hcell)
      last := fun pos' hpos' stream' data hcell =>
        h.last pos' hpos' stream' data (hcells pos' stream' data hcell)
      delivered := h.delivered }
  · simp only [Pipeline.dropAffinity, update_apply]
    grind

theorem Bindings.move (hmembers : p.Members) (hmove : Move p p') :
    p'.Bindings := by
  cases hmove with
  | bindControl | dropControl | turn => exact { h with }
  | releaseControl => exact h.releaseControl
  | reserve hi hcontrol hstate | attach hi hcontrol hother hdata hstate | free hi hstate =>
    exact h.update (by rw [hstate]; simp) rfl rfl rfl rfl rfl (fun _ => rfl) (by simp)
  | drop => exact h.dropMember
  | bind hi hstate hfind => exact h.bindAffinity hmembers hi hstate hfind
  | unbind => exact h.dropAffinity
  | deliver hbinding =>
    obtain ⟨pos, hpos, hcell⟩ := h.binding_eq_some.mp hbinding
    have hlast := h.last pos hpos _ _ hcell
    refine
      { h with
        last := fun pos' hpos' stream' data' hcell' => ?_
        delivered := h.delivered.append fun stream' data' connection hmem => ?_ }
    · show lastBound (p.events ++ [_]) stream' = _
      rw [lastBound_append_of_none (by simp [GroupEvent.binds])]
      exact h.last pos' hpos' stream' data' hcell'
    · cases mem_singleton.mp hmem
      exact ⟨rfl, hlast⟩

end

/-! ## The history of a slot -/

/-- A capability that has been attached or has ended. -/
def Spent (events : List GroupEvent) (data : DataRef) : Prop :=
  ∃ e ∈ events, e.spends = some data

theorem Spent.append {events : List GroupEvent} (h : Spent events data) (new : List GroupEvent) :
    Spent (events ++ new) data := by
  obtain ⟨e, he, hspends⟩ := h
  exact ⟨e, mem_append_left new he, hspends⟩

theorem spent_append_singleton (events : List GroupEvent) {e : GroupEvent}
    (h : e.spends = some data) : Spent (events ++ [e]) data :=
  ⟨e, by simp, h⟩

/-- What is in a slot and is not reserved is spent. -/
def Recorded (p : Pipeline) : Prop :=
  ∀ i < p.dataCapacity, (p.dataSlots i).generation ≠ 0 → (p.dataSlots i).state ≠ .reserved →
    Spent p.events (p.refOf i)

theorem Recorded.update (h : p.Recorded) {slot : DataSlot} (hcap : p'.dataCapacity = p.dataCapacity)
    (hslots : p'.dataSlots = update p.dataSlots i slot) {e : GroupEvent}
    (hevents : p'.events = p.events ++ [e])
    (hslot : slot.state ≠ .reserved → e.spends = some ⟨i, slot.generation⟩) : p'.Recorded := by
  intro j hj hzero hstate
  unfold refOf
  rw [hslots, update_apply] at hzero hstate ⊢
  rw [hevents]
  split_ifs at * with hji
  · exact spent_append_singleton _ (hji ▸ hslot hstate)
  · exact (h j (hcap ▸ hj) hzero hstate).append _

theorem Recorded.releaseControl (h : p.Recorded) : p.releaseControl.Recorded := by
  intro i hi hzero hstate
  unfold refOf
  rcases p.releaseControl_cases i with ⟨hres, heq⟩ | ⟨-, heq⟩ <;> rw [heq] at hzero hstate ⊢
  · refine ⟨.ended (p.refOf i), mem_append_right _ (mem_map.mpr ⟨i, ?_, rfl⟩), rfl⟩
    exact mem_filter.mpr ⟨mem_range.mpr hi, by simpa using hres.2⟩
  · exact (h i hi hzero hstate).append _

theorem Recorded.move (h : p.Recorded) (hmove : Move p p') : p'.Recorded := by
  cases hmove with
  | bindControl | dropControl | unbind | turn => exact h
  | releaseControl => exact h.releaseControl
  | reserve => exact h.update rfl rfl rfl fun hne => absurd rfl hne
  | attach | free | drop => exact h.update rfl rfl rfl fun _ => rfl
  | bind | deliver => exact fun i hi hzero hstate => (h i hi hzero hstate).append _

/-! ## Capabilities -/

/-- How often a slot has been reserved. -/
def reservations (p : Pipeline) (i : Nat) : Nat :=
  p.events.countP (GroupEvent.reserves i)

/-- No generation has come round. -/
def Few (p : Pipeline) : Prop :=
  ∀ i, p.reservations i < 2 ^ 32 - 1

/-- A later event attaches no capability that is spent. -/
def NotAgain (e e' : GroupEvent) : Prop :=
  ∀ data, e.spends = some data → e'.attaches ≠ some data

/-- What the history says about the capabilities. -/
structure Capabilities (p : Pipeline) : Prop where
  generation : ∀ i, (p.dataSlots i).generation = p.reservations i
  spent : ∀ e ∈ p.events, ∀ data, e.spends = some data →
    data.generation ≤ (p.dataSlots data.index).generation ∧
      ((p.dataSlots data.index).state = .reserved →
        (p.dataSlots data.index).generation ≠ data.generation)
  order : p.events.Pairwise NotAgain
  bound : ∀ data connection control, .attached data connection control ∈ p.events → control ≠ none

section

variable (h : p.Capabilities)

include h

/-- A move that attaches nothing. -/
theorem Capabilities.extend (hevents : p'.events = p.events ++ new)
    (hquiet : ∀ e ∈ new, e.attaches = none)
    (hgen : ∀ i, (p'.dataSlots i).generation = p'.reservations i)
    (hold : ∀ i, (p.dataSlots i).generation ≤ (p'.dataSlots i).generation ∧
      ((p'.dataSlots i).state = .reserved →
        (p'.dataSlots i).generation = (p.dataSlots i).generation →
        (p.dataSlots i).state = .reserved)) (hnew : ∀ e ∈ new, ∀ data, e.spends = some data →
      data.generation = (p'.dataSlots data.index).generation ∧
        (p'.dataSlots data.index).state ≠ .reserved) : p'.Capabilities := by
  refine
    { generation := hgen
      spent := fun e he data hspends => ?_
      order := ?_
      bound := fun data connection control he => ?_ }
  · rw [hevents, mem_append] at he
    rcases he with he | he
    · obtain ⟨hle, hreserved⟩ := h.spent e he data hspends
      obtain ⟨hle', hstate⟩ := hold data.index
      refine ⟨hle.trans hle', fun hnow heq => ?_⟩
      have hsame : (p'.dataSlots data.index).generation =
          (p.dataSlots data.index).generation := by omega
      exact hreserved (hstate hnow hsame) (by omega)
    · obtain ⟨heq, hstate⟩ := hnew e he data hspends
      exact ⟨heq.le, fun hnow => absurd hnow hstate⟩
  · rw [hevents, pairwise_append]
    refine ⟨h.order, ?_, fun e _ e' he' data _ => ?_⟩
    · refine pairwise_of_forall_mem_list fun e _ e' he' data _ => ?_
      rw [hquiet e' he']
      simp
    · rw [hquiet e' he']
      simp
  · rw [hevents, mem_append] at he
    rcases he with he | he
    · exact h.bound data connection control he
    · exact absurd (hquiet _ he) (by simp [GroupEvent.attaches])

omit h in
theorem reservations_append {p p' : Pipeline} {new : List GroupEvent}
    (h : p'.events = p.events ++ new) (i : Nat) :
    p'.reservations i = p.reservations i + new.countP (GroupEvent.reserves i) := by
  unfold reservations
  rw [h, countP_append]

/-- A move that leaves the generations and reserves nothing. -/
theorem Capabilities.keep (hevents : p'.events = p.events ++ new)
    (hquiet : ∀ e ∈ new, e.attaches = none) (hreserves : ∀ e ∈ new, ∀ i, e.reserves i = false)
    (hslots : ∀ i, (p'.dataSlots i).generation = (p.dataSlots i).generation ∧
      ((p'.dataSlots i).state = .reserved → (p.dataSlots i).state = .reserved))
    (hnew : ∀ e ∈ new, ∀ data, e.spends = some data →
      data.generation = (p'.dataSlots data.index).generation ∧
        (p'.dataSlots data.index).state ≠ .reserved) : p'.Capabilities := by
  refine h.extend hevents hquiet (fun i => ?_)
    (fun i => ⟨(hslots i).1.ge, fun hnow _ => (hslots i).2 hnow⟩) hnew
  rw [(hslots i).1, h.generation, reservations_append hevents,
    countP_eq_zero.mpr fun e he => by rw [hreserves e he i]; simp]
  rfl

/-- A slot that becomes free, with its capability. -/
theorem Capabilities.freed (hslots : p'.dataSlots = update p.dataSlots i
      { p.dataSlots i with connection := connHandleZero, state := .free })
    (hevents : p'.events = p.events ++ [.ended (p.refOf i)]) : p'.Capabilities := by
  refine h.keep hevents (by simp [GroupEvent.attaches]) (by simp [GroupEvent.reserves])
    (fun j => ?_) fun e he data hspends => ?_
  · rw [hslots, update_apply]
    grind
  · rw [mem_singleton.mp he] at hspends
    cases hspends
    rw [hslots, show (p.refOf i).index = i from rfl, update_self]
    exact ⟨rfl, by simp⟩

theorem Capabilities.releaseControl : p.releaseControl.Capabilities := by
  refine h.keep rfl (fun e he => ?_) (fun e he i => ?_) (fun i => ?_) fun e he data hspends => ?_
  · obtain ⟨j, _, rfl⟩ := mem_map.mp he
    rfl
  · obtain ⟨j, _, rfl⟩ := mem_map.mp he
    rfl
  · rcases p.releaseControl_cases i with ⟨hres, heq⟩ | ⟨-, heq⟩ <;> rw [heq]
    · exact ⟨rfl, fun _ => hres.2⟩
    · exact ⟨rfl, id⟩
  · obtain ⟨j, hj, rfl⟩ := mem_map.mp he
    cases hspends
    obtain ⟨hrange, hstate⟩ := mem_filter.mp hj
    have hif : j < p.dataCapacity ∧ (p.dataSlots j).state = .reserved :=
      ⟨mem_range.mp hrange, of_decide_eq_true hstate⟩
    have hslot : p.releaseControl.dataSlots (p.refOf j).index =
        { p.dataSlots j with state := .free, connection := connHandleZero } := if_pos hif
    rw [hslot]
    exact ⟨rfl, by simp⟩

theorem Capabilities.reserveSlot (hfew : p.reservations i < 2 ^ 32 - 1) :
    (p.reserveSlot i).Capabilities := by
  have hnext : pipelineNextGeneration (p.dataSlots i).generation =
      (p.dataSlots i).generation + 1 := by
    rw [h.generation i]
    unfold pipelineNextGeneration
    rw [Nat.mod_eq_of_lt (by omega), if_neg (by omega)]
  have hslots : ∀ j, ((p.reserveSlot i).dataSlots j).generation =
      (p.dataSlots j).generation + if i = j then 1 else 0 := by
    intro j
    by_cases hj : j = i
    · subst hj
      rw [if_pos rfl]
      simpa [Pipeline.reserveSlot] using hnext
    · rw [if_neg (Ne.symm hj)]
      exact congrArg DataSlot.generation (update_of_ne hj _ _)
  refine h.extend rfl (by simp [GroupEvent.attaches]) (fun j => ?_) (fun j => ?_)
    (by simp [GroupEvent.spends])
  · have happ := @reservations_append p (p.reserveSlot i) _ rfl j
    rw [happ, hslots, h.generation, countP_singleton]
    simp [GroupEvent.reserves]
  · rw [hslots]
    refine ⟨Nat.le_add_right _ _, fun hnow hsame => ?_⟩
    have hj : j ≠ i := by
      rintro rfl
      rw [if_pos rfl] at hsame
      omega
    have hold : (p.reserveSlot i).dataSlots j = p.dataSlots j := update_of_ne hj _ _
    rw [hold] at hnow
    exact hnow

theorem Capabilities.attachSlot {connection : ConnHandle}
    (hcontrol : p.control ≠ none) (hstate : (p.dataSlots i).state = .reserved) :
    (p.attachSlot i connection).Capabilities := by
  have hslot : ∀ j, ((p.attachSlot i connection).dataSlots j).generation =
        (p.dataSlots j).generation ∧
      (((p.attachSlot i connection).dataSlots j).state = .reserved →
        j ≠ i ∧ (p.dataSlots j).state = .reserved) := by
    simp only [Pipeline.attachSlot, update_apply]
    grind
  have hevents : (p.attachSlot i connection).events =
      p.events ++ [.attached (p.refOf i) connection p.control] := rfl
  refine
    { generation := fun j => ?_
      spent := fun e he data hspends => ?_
      order := ?_
      bound := fun data connection' control he => ?_ }
  · rw [(hslot j).1, h.generation, reservations_append hevents]
    simp [GroupEvent.reserves]
  · rw [(hslot _).1]
    rw [hevents, mem_append, mem_singleton] at he
    rcases he with he | rfl
    · obtain ⟨hle, hres⟩ := h.spent e he data hspends
      exact ⟨hle, fun hnow => hres ((hslot _).2 hnow).2⟩
    · cases hspends
      exact ⟨le_rfl, fun hnow => absurd rfl ((hslot i).2 hnow).1⟩
  · rw [hevents, pairwise_append]
    refine ⟨h.order, pairwise_singleton _ _, fun e he e' he' data hspends hagain => ?_⟩
    -- the slot is reserved under this very generation, so it is not spent
    rw [mem_singleton.mp he'] at hagain
    cases hagain
    exact (h.spent e he _ hspends).2 hstate rfl
  · rw [hevents, mem_append, mem_singleton] at he
    rcases he with he | he
    · exact h.bound data connection' control he
    · cases he
      exact hcontrol

theorem Capabilities.move (hfew : p.Few) (hmove : Move p p') :
    p'.Capabilities := by
  cases hmove with
  | bindControl | dropControl | unbind | turn => exact { h with }
  | releaseControl => exact h.releaseControl
  | reserve => exact h.reserveSlot (hfew _)
  | attach _ hcontrol _ _ hstate => exact h.attachSlot hcontrol hstate
  | free | drop => exact h.freed rfl rfl
  | bind | deliver =>
    exact h.keep rfl (by simp [GroupEvent.attaches]) (by simp [GroupEvent.reserves])
      (fun _ => ⟨rfl, id⟩) (by simp [GroupEvent.spends])

end

/-! ## All of it -/

theorem Move.events (hmove : Move p p') : ∃ new, p'.events = p.events ++ new := by
  cases hmove with
  | bindControl | dropControl | unbind | turn => exact ⟨[], (append_nil _).symm⟩
  | releaseControl | reserve | attach | free | drop | bind | deliver => exact ⟨_, rfl⟩

theorem Few.of_move (hmove : Move p p') (h : p'.Few) : p.Few := by
  obtain ⟨new, hevents⟩ := hmove.events
  intro i
  have := h i
  rw [reservations_append hevents] at this
  omega

/-- The invariant of a group. -/
structure Ok (p : Pipeline) : Prop where
  members : p.Members
  bindings : p.Bindings
  recorded : p.Recorded
  capabilities : p.Few → p.Capabilities

theorem Ok.move (h : p.Ok) (hmove : Move p p') : p'.Ok where
  members := h.members.move hmove
  bindings := h.bindings.move h.members hmove
  recorded := h.recorded.move hmove
  capabilities hfew := (h.capabilities (Few.of_move hmove hfew)).move (Few.of_move hmove hfew) hmove

theorem Ok.moves (h : p.Ok) (hmoves : ReflTransGen Move p p') : p'.Ok := by
  induction hmoves with
  | refl => exact h
  | tail _ hmove ih => exact ih.move hmove

end Pipeline

theorem pipelineCreate_ok {config : PipelineConfig} (h : pipelineCreate config = .ok p) : p.Ok := by
  unfold pipelineCreate at h
  split_ifs at h with hbad
  · push Not at hbad
    obtain ⟨_, _, _, _, _, hcap⟩ := hbad
    cases h
    refine ⟨?_, ?_, fun _ _ hzero => absurd rfl hzero, fun _ => ?_⟩
    · exact
        { generation := fun _ h => absurd rfl h
          reservedCount := by simp [Pipeline.countState]
          dataCount := by simp [Pipeline.countState]
          single := fun _ _ _ _ h => by simp at h
          apart := fun _ _ h => by simp at h }
    · exact
        { positive := Nat.pos_of_ne_zero hcap
          sound := sound_empty _ _
          attached := fun _ _ _ _ h => by simp at h
          last := fun _ _ _ _ h => by simp at h
          delivered := fun _ _ _ _ _ h => by simp at h }
    · exact
        { generation := fun _ => rfl
          spent := fun _ h => by simp at h
          order := List.Pairwise.nil
          bound := fun _ _ _ h => by simp at h }

/-! ## What follows for the capabilities -/

/-- The life of the capabilities of a group: what has happened, and what a call of this
moment adds to it. -/
structure Pipeline.Lifecycle (p : Pipeline) : Prop where
  once : (p.events.filterMap GroupEvent.attaches).Nodup
  control : ∀ data connection control, .attached data connection control ∈ p.events → control ≠ none
  spent : ∀ before after, p.events = before ++ after → ∀ data, Pipeline.Spent before data →
    data ∉ after.filterMap GroupEvent.attaches
  cancelled : ∀ data, (pipelineCancelDataReservation p data).1 = .ok →
    Pipeline.Spent (pipelineCancelDataReservation p data).2.events data
  offerCancelled : ∀ data, (pipelineCancelDataOffer p data).1 = .ok →
    Pipeline.Spent (pipelineCancelDataOffer p data).2.events data
  detached : ∀ data, (pipelineRemoveData p data).1 = .ok →
    Pipeline.Spent (pipelineRemoveData p data).2.events data
  orphaned : ∀ expected data, (pipelineClearControl p expected).1 = .ok →
    p.dataRefMatches data .reserved →
    Pipeline.Spent (pipelineClearControl p expected).2.events data
  single : ∀ i < p.dataCapacity, ∀ j < p.dataCapacity, (p.dataSlots i).state = .attached →
    (p.dataSlots j).state = .attached →
    (p.dataSlots i).connection = (p.dataSlots j).connection → i = j
  apart : ∀ i < p.dataCapacity, (p.dataSlots i).state = .attached →
    p.control ≠ some (p.dataSlots i).connection
  reservedCount : p.dataReservedCount = p.countState .reserved
  dataCount : p.dataCount = p.countState .attached
  capacity : p.dataReservedCount + p.dataCount ≤ p.dataCapacity

theorem Pipeline.dataRefMatches.refOf_eq {state : DataState} (h : p.dataRefMatches data state) :
    p.refOf data.index = data := by
  obtain ⟨_, _, _, hgen⟩ := h
  unfold Pipeline.refOf
  rw [hgen]

theorem Pipeline.Ok.orphaned (h : p.Ok) {expected : ConnHandle}
    (hok : (pipelineClearControl p expected).1 = .ok) (hmatch : p.dataRefMatches data .reserved) :
    Pipeline.Spent (pipelineClearControl p expected).2.events data := by
  have hcount : p.dataReservedCount ≠ 0 := by
    rw [h.members.reservedCount]
    exact (Pipeline.countState_pos hmatch.1 hmatch.2.2.1).ne'
  unfold pipelineClearControl at hok ⊢
  split_ifs at hok ⊢ with hstale
  refine ⟨.ended data, mem_append_right _ (mem_map.mpr ⟨data.index, ?_, ?_⟩), rfl⟩
  · exact mem_filter.mpr ⟨mem_range.mpr hmatch.1, by simpa using hmatch.2.2.1⟩
  · rw [hmatch.refOf_eq]

theorem Pipeline.Ok.offerCancelled (h : p.Ok) (hok : (pipelineCancelDataOffer p data).1 = .ok) :
    Pipeline.Spent (pipelineCancelDataOffer p data).2.events data := by
  unfold pipelineCancelDataOffer at hok ⊢
  split_ifs at hok ⊢ with hrange hgen
  push Not at hrange
  have hgen := not_not.mp hgen
  have href : p.refOf data.index = data := by
    unfold Pipeline.refOf
    rw [hgen]
  have hspent := h.recorded data.index hrange.1 (hgen ▸ hrange.2)
  cases hstate : (p.dataSlots data.index).state with
  | reserved =>
    refine Pipeline.spent_append_singleton _ ?_
    rw [href]
    rfl
  | attached | free => exact href ▸ hspent (by simp [hstate])

theorem Pipeline.Ok.lifecycle (h : p.Ok) (hfew : p.Few) : p.Lifecycle := by
  have hcap := h.capabilities hfew
  refine
    { once := ?_
      control := hcap.bound
      spent := fun before after hevents data hspent hagain => ?_
      cancelled := fun data hok => ?_
      offerCancelled := fun data hok => h.offerCancelled hok
      detached := fun data hok => ?_
      orphaned := fun expected data hok hmatch => h.orphaned hok hmatch
      single := h.members.single
      apart := h.members.apart
      reservedCount := h.members.reservedCount
      dataCount := h.members.dataCount
      capacity := by
        rw [h.members.reservedCount, h.members.dataCount]
        exact p.countState_sum_le }
  · refine pairwise_filterMap.mpr (hcap.order.imp ?_)
    rintro e e' hnot data hdata data' hdata' rfl
    refine hnot data ?_ hdata'
    cases e with
    | attached data' connection control => exact hdata
    | _ => cases hdata
  · obtain ⟨e, he, hspends⟩ := hspent
    obtain ⟨e', he', hattaches⟩ := mem_filterMap.mp hagain
    have horder := hcap.order
    rw [hevents, pairwise_append] at horder
    exact horder.2.2 e he e' he' data hspends hattaches
  · unfold pipelineCancelDataReservation at hok ⊢
    split_ifs at hok ⊢ with hmatch
    refine Pipeline.spent_append_singleton _ ?_
    rw [hmatch.refOf_eq]
    rfl
  · unfold pipelineRemoveData at hok ⊢
    split_ifs at hok ⊢ with hmatch
    refine Pipeline.spent_append_singleton _ ?_
    rw [hmatch.refOf_eq]
    rfl

end Trpc
