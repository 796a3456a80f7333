import Trpc.Reactor.Tx

/-!
# The invariants of the transmit queue

Three groups of facts hold in every state of a plain connection, and of a TLS
connection as long as its retries go to the item they belong to.

* `TxQueueInv`: the queue is in the order of acceptance, the control FIFO links
  exactly its non-DATA items, and only the item under way has written bytes of
  an unfinished frame.
* `TxWireInv`: what was written is the finished frames and the written part of
  the frame under way.
* `TxOrderInv`: every accepted item has its frames either among the finished
  ones or still in the queue, in the right order; a frame passes an earlier
  item only by the bypass; and the bypass is bounded.
-/

namespace Trpc

open List Option Bool

/-- The item may leave before the items in front of it. -/
structure MayPass (conn : TxConnection) (item : TxItem) : Prop where
  data : ∀ other ∈ conn.queue, other.tag < item.tag → other.isData = true
  bypass : txCanBypassData item.request = true
  streak : conn.controlStreak < controlBurst

structure TxQueueInv (conn : TxConnection) : Prop where
  sorted : conn.queue.Pairwise (·.tag < ·.tag)
  accepted : ∀ item ∈ conn.queue, conn.accepted[item.tag]? = some item.request
  ok : ∀ item ∈ conn.queue, item.Ok
  control : conn.control = (conn.queue.filter (!·.isData)).map (·.tag)
  streak : conn.controlStreak ≤ controlBurst
  underWay : ∀ item ∈ conn.queue, item.wirePos ≠ 0 → conn.active = some item.tag ∧
    ∀ other ∈ conn.queue, other.tag < item.tag → MayPass conn item

/-- The written part of the frame under way. -/
def partialBytes (item : TxItem) : List UInt8 :=
  (frameBytes item.request item.messagePos).take item.wirePos

def TxWireInv (conn : TxConnection) : Prop :=
  conn.wire = conn.frames.flatMap SentFrame.bytes ++ conn.queue.flatMap partialBytes

/-- The tags of the non-DATA requests, in the order of acceptance. -/
def acceptedControl (requests : List TxRequest) : List Nat :=
  (requests.zipIdx.filter (!·.1.isData)).map (·.2)

/-- The frames of the DATA requests, each as its tag and its position, in the
order of acceptance. -/
def acceptedData (requests : List TxRequest) : List (Nat × Nat) :=
  (requests.zipIdx.filter (·.1.isData)).flatMap fun entry =>
    (fragments entry.1 0).map (entry.2, ·)

/-- The frames that a queued item still has to send. -/
def pendingFrames (item : TxItem) : List (Nat × Nat) :=
  (fragments item.request item.messagePos).map (item.tag, ·)

/-- In every stretch of finished frames without DATA at most `controlBurst`
frames overtook, and at most `streak` in the stretch at the end. -/
structure BurstInv (frames : List SentFrame) (streak : Nat) : Prop where
  last : ∀ stretch, stretch <:+ frames → (∀ frame ∈ stretch, frame.isData = false) →
    stretch.countP (·.overtook) ≤ streak
  all : ∀ stretch, stretch <:+: frames → (∀ frame ∈ stretch, frame.isData = false) →
    stretch.countP (·.overtook) ≤ controlBurst

structure TxOrderInv (conn : TxConnection) : Prop where
  requests : ∀ frame ∈ conn.frames, conn.accepted[frame.tag]? = some frame.request
  control : (conn.frames.filter (!·.isData)).map (·.tag) ++
      (conn.queue.filter (!·.isData)).map (·.tag) =
    acceptedControl conn.accepted
  data : (conn.frames.filter (·.isData)).map (fun frame => (frame.tag, frame.pos)) ++
      (conn.queue.filter (·.isData)).flatMap pendingFrames =
    acceptedData conn.accepted
  passed : conn.frames.Pairwise fun first second =>
    second.tag < first.tag → first.overtook = true ∧ second.isData = true
  passing : ∀ frame ∈ conn.frames, ∀ item ∈ conn.queue,
    item.tag < frame.tag → frame.overtook = true ∧ item.isData = true
  bypass : ∀ frame ∈ conn.frames, frame.overtook = true → txCanBypassData frame.request = true
  burst : BurstInv conn.frames conn.controlStreak

/-- The invariants together. -/
structure TxInv (conn : TxConnection) : Prop where
  queue : TxQueueInv conn
  wire : TxWireInv conn
  order : TxOrderInv conn

/-- The invariants read the queue, the schedule and the observations only. -/
theorem TxInv.congr {conn conn' : TxConnection} (h : TxInv conn)
    (hqueue : conn'.queue = conn.queue) (hcontrol : conn'.control = conn.control)
    (hactive : conn'.active = conn.active)
    (hstreak : conn'.controlStreak = conn.controlStreak)
    (hwire : conn'.wire = conn.wire) (hframes : conn'.frames = conn.frames)
    (haccepted : conn'.accepted = conn.accepted) : TxInv conn' := by
  obtain ⟨queue, control, active, streak, endpoint, ready, closed, wire, frames, accepted⟩ := conn
  obtain ⟨queue', control', active', streak', endpoint', ready', closed', wire',
    frames', accepted'⟩ := conn'
  simp only at hqueue hcontrol hactive hstreak hwire hframes haccepted
  subst hqueue hcontrol hactive hstreak hwire hframes haccepted
  obtain ⟨hqueue, hwire, horder⟩ := h
  refine ⟨⟨hqueue.sorted, hqueue.accepted, hqueue.ok, hqueue.control,
    hqueue.streak, ?_⟩, hwire, ⟨horder.requests, horder.control, horder.data,
    horder.passed, horder.passing, horder.bypass, horder.burst⟩⟩
  intro item hmem hpos
  obtain ⟨hactive, hpass⟩ := hqueue.underWay item hmem hpos
  refine ⟨hactive, fun other hother hlt => ?_⟩
  obtain ⟨hdata, hbypass, hstreak⟩ := hpass other hother hlt
  exact ⟨hdata, hbypass, hstreak⟩

/-! ## The queue as a list -/

theorem txCanBypassData_isData {request : TxRequest}
    (h : txCanBypassData request = true) : request.isData = false := by
  unfold txCanBypassData at h
  split at h
  · cases h
  split at h
  next htype =>
    simp [TxRequest.isData, htype]
  simp only [decide_and, decide_or, and_eq_true,
    or_eq_true, decide_eq_true_eq] at h
  rcases h.1 with htype | htype <;> simp [TxRequest.isData, htype]

section Queue

variable {conn : TxConnection} {earlier later : List TxItem} {item : TxItem}

section

variable (h : TxQueueInv conn)

include h

/-- Tags in the queue are distinct. -/
theorem TxQueueInv.tag_ne (hqueue : conn.queue = earlier ++ item :: later) :
    ∀ other ∈ earlier ++ later, other.tag ≠ item.tag := by
  have hsorted := h.sorted
  rw [hqueue, pairwise_append, pairwise_cons] at hsorted
  obtain ⟨-, ⟨hlater, -⟩, hearlier⟩ := hsorted
  intro other hmem
  rcases mem_append.mp hmem with hleft | hright
  · exact Nat.ne_of_lt (hearlier other hleft item (by simp))
  · exact Nat.ne_of_gt (hlater other hright)

/-- The items in front of an item are those accepted before it. -/
theorem TxQueueInv.mem_earlier (hqueue : conn.queue = earlier ++ item :: later) {other : TxItem} :
    other ∈ earlier ↔ other ∈ conn.queue ∧ other.tag < item.tag := by
  have hsorted := h.sorted
  rw [hqueue, pairwise_append, pairwise_cons] at hsorted
  obtain ⟨-, ⟨hlater, -⟩, hearlier⟩ := hsorted
  constructor
  · intro hmem
    exact ⟨hqueue ▸ mem_append_left _ hmem, hearlier other hmem item (by simp)⟩
  · rintro ⟨hmem, hlt⟩
    rw [hqueue] at hmem
    rcases mem_append.mp hmem with hleft | hright
    · exact hleft
    rcases mem_cons.mp hright with rfl | hright
    · exact absurd hlt (Nat.lt_irrefl _)
    · exact absurd hlt (Nat.lt_asymm (hlater other hright))

theorem TxQueueInv.find_eq (hqueue : conn.queue = earlier ++ item :: later) :
    conn.find item.tag = some item := by
  have hne := h.tag_ne hqueue
  rw [TxConnection.find, hqueue, find?_append, find?_eq_none.mpr fun other hmem => by
      simpa using hne other (mem_append_left _ hmem)]
  simp

theorem TxQueueInv.setItem_queue (hqueue : conn.queue = earlier ++ item :: later) {item' : TxItem}
    (htag : item'.tag = item.tag) :
    (conn.setItem item').queue = earlier ++ item' :: later := by
  have hne := h.tag_ne hqueue
  have hsame : ∀ others : List TxItem, (∀ other ∈ others, other.tag ≠ item.tag) →
      others.map (fun it => if it.tag = item'.tag then item' else it) = others := by
    intro others hothers
    refine (map_congr_left fun other hmem => ?_).trans (map_id _)
    rw [htag, if_neg (hothers other hmem)]
    rfl
  show conn.queue.map _ = _
  rw [hqueue, map_append, map_cons, if_pos htag.symm,
    hsame earlier fun other hmem => hne other (mem_append_left _ hmem),
    hsame later fun other hmem => hne other (mem_append_right _ hmem)]

theorem TxQueueInv.complete_queue (hqueue : conn.queue = earlier ++ item :: later) :
    conn.queue.filter (fun it => it.tag ≠ item.tag) = earlier ++ later := by
  have hne := h.tag_ne hqueue
  rw [hqueue, filter_append, filter_cons_of_neg (by simp),
    filter_eq_self.mpr fun other hmem => by
      simpa using hne other (mem_append_left _ hmem),
    filter_eq_self.mpr fun other hmem => by
      simpa using hne other (mem_append_right _ hmem)]

end

end Queue

/-! ## Selection -/

/-- The item that a flush turn works on, and its place in the queue. -/
structure Selected (conn : TxConnection) (earlier : List TxItem) (item : TxItem)
    (later : List TxItem) : Prop where
  queue : conn.queue = earlier ++ item :: later
  active : conn.active = some item.tag
  others : ∀ other ∈ earlier ++ later, other.wirePos = 0
  pass : earlier ≠ [] → MayPass conn item

section Selection

variable {conn : TxConnection} {earlier later : List TxItem} {item : TxItem}

section

variable (h : TxQueueInv conn)

include h

/-- While an item is under way no other has written bytes. -/
theorem TxQueueInv.others_zero (hqueue : conn.queue = earlier ++ item :: later)
    (hactive : conn.active = some item.tag) :
    ∀ other ∈ earlier ++ later, other.wirePos = 0 := by
  intro other hmem
  by_contra hpos
  have hmem' : other ∈ conn.queue := by
    rw [hqueue]
    rcases mem_append.mp hmem with hleft | hright
    · exact mem_append_left _ hleft
    · exact mem_append_right _ (mem_cons_of_mem _ hright)
  have hactive' := (h.underWay other hmem' hpos).1
  rw [hactive, some.injEq] at hactive'
  exact h.tag_ne hqueue other hmem hactive'.symm

/-- The head of the control FIFO is the first non-DATA item of the queue. -/
theorem TxQueueInv.control_head :
    conn.control.head?.bind conn.find = conn.queue.find? (!·.isData) := by
  rw [h.control, head?_map, head?_filter]
  cases hfind : conn.queue.find? (!·.isData) with
  | none => rfl
  | some control =>
    obtain ⟨earlier, later, hqueue⟩ :=
      mem_iff_append.mp (mem_of_find?_eq_some hfind)
    exact h.find_eq hqueue

/-- What the choice reads of the queue. -/
def TxConnection.entries (conn : TxConnection) : List (Nat × TxRequest) :=
  conn.queue.map fun item => (item.tag, item.request)

/-- The tag that is chosen when no frame is under way, from what the choice
reads. -/
def pickTag (streak : Nat) (entries : List (Nat × TxRequest)) : Option Nat :=
  match entries.head?, entries.find? (!·.2.isData) with
  | none, _ => none
  | some first, none => some first.1
  | some first, some control =>
    if first.2.isData ∧ streak < controlBurst ∧ txCanBypassData control.2 then
      some control.1
    else some first.1

theorem TxQueueInv.chooseTx_tag :
    (chooseTx conn).map (·.tag) = pickTag conn.controlStreak conn.entries := by
  unfold chooseTx pickTag
  rw [h.control_head, TxConnection.entries, head?_map, find?_map]
  cases conn.queue.head? with
  | none => rfl
  | some first =>
    have hcomp : ((fun entry : Nat × TxRequest => !entry.2.isData) ∘
        fun item : TxItem => (item.tag, item.request)) = (!·.isData) := rfl
    rw [hcomp]
    cases conn.queue.find? (!·.isData) with
    | none => rfl
    | some control => exact apply_ite (Option.map TxItem.tag) _ _ _

/-- The item is under way, or none is and the choice falls on it. -/
def NextUp (conn : TxConnection) (item : TxItem) : Prop :=
  item.wirePos ≠ 0 ∨ ((∀ other ∈ conn.queue, other.wirePos = 0) ∧
      pickTag conn.controlStreak conn.entries = some item.tag)

/-- The choice between the head of the queue and the head of the control
FIFO. -/
theorem chooseTx_spec (hne : conn.queue ≠ []) :
    ∃ earlier item later, chooseTx conn = some item ∧ conn.queue = earlier ++ item :: later ∧
      (earlier ≠ [] → MayPass conn item) := by
  obtain ⟨first, rest, hqueue⟩ := exists_cons_of_ne_nil hne
  have hhead : ∃ earlier item later, some first = some item ∧
      conn.queue = earlier ++ item :: later ∧
      (earlier ≠ [] → MayPass conn item) :=
    ⟨[], first, rest, rfl, hqueue, fun hnil => absurd rfl hnil⟩
  unfold chooseTx
  rw [h.control_head, hqueue, head?_cons, ← hqueue]
  cases hfind : conn.queue.find? (!·.isData) with
  | none => exact hhead
  | some control =>
    simp only
    split
    next hpass =>
      obtain ⟨-, earlier, later, hsplit, hdata⟩ :=
        find?_eq_some_iff_append.mp hfind
      refine ⟨earlier, control, later, rfl, hsplit, fun _ => ?_⟩
      refine ⟨fun other hmem hlt => ?_, hpass.2.2, hpass.2.1⟩
      simpa using hdata other ((h.mem_earlier hsplit).mpr ⟨hmem, hlt⟩)
    · exact hhead

/-- `tr_connection_next_tx` selects an item of a non-empty queue. -/
theorem connectionNextTx_spec (hne : conn.queue ≠ []) : ∃ earlier item later,
      connectionNextTx conn = (some item, { conn with active := some item.tag }) ∧
      NextUp conn item ∧
      Selected { conn with active := some item.tag } earlier item later := by
  by_cases hunder : ∃ item ∈ conn.queue, item.wirePos ≠ 0
  · -- A frame is under way, so the active item is kept.
    obtain ⟨item, hmem, hpos⟩ := hunder
    obtain ⟨earlier, later, hqueue⟩ := mem_iff_append.mp hmem
    obtain ⟨hactive, hpass⟩ := h.underWay item hmem hpos
    have hself : { conn with active := some item.tag } = conn := by
      rw [← hactive]
    refine ⟨earlier, item, later, ?_, .inl hpos, ?_⟩
    · rw [connectionNextTx, hactive, bind_some, h.find_eq hqueue]
      simp only
      rw [if_pos hpos, hself]
    · rw [hself]
      refine ⟨hqueue, hactive, h.others_zero hqueue hactive, fun hne => ?_⟩
      obtain ⟨other, hother⟩ := exists_mem_of_ne_nil _ hne
      obtain ⟨hmem', hlt⟩ := (h.mem_earlier hqueue).mp hother
      exact hpass other hmem' hlt
  · push Not at hunder
    obtain ⟨earlier, item, later, hchoose, hqueue, hpass⟩ := chooseTx_spec h hne
    have htag := h.chooseTx_tag
    rw [hchoose] at htag
    refine ⟨earlier, item, later, ?_, .inr ⟨hunder, htag.symm⟩, hqueue, rfl, ?_, ?_⟩
    · have hpick : (chooseTx conn,
          { conn with active := (chooseTx conn).map (·.tag) }) =
          (some item, { conn with active := some item.tag }) := by
        rw [hchoose]
        rfl
      rw [connectionNextTx]
      split
      next active hactive =>
        have hmem : active ∈ conn.queue := by
          obtain ⟨tag, -, hfind⟩ := bind_eq_some_iff.mp hactive
          exact mem_of_find?_eq_some hfind
        rw [if_neg (by simpa using hunder active hmem), hpick]
      · exact hpick
    · intro other hmem
      apply hunder
      rw [hqueue]
      rcases mem_append.mp hmem with hleft | hright
      · exact mem_append_left _ hleft
      · exact mem_append_right _ (mem_cons_of_mem _ hright)
    · intro hnil
      obtain ⟨hdata, hbypass, hstreak⟩ := hpass hnil
      exact ⟨hdata, hbypass, hstreak⟩

theorem TxQueueInv.eq_of_tag {other : TxItem}
    (hother : other ∈ conn.queue) (hmem : item ∈ conn.queue)
    (htag : other.tag = item.tag) : other = item := by
  obtain ⟨earlier, later, hqueue⟩ := mem_iff_append.mp hmem
  by_contra hne
  have hrest : other ∈ earlier ++ later := by
    rw [hqueue] at hother
    rcases mem_append.mp hother with hleft | hright
    · exact mem_append_left _ hleft
    rcases mem_cons.mp hright with heq | hright
    · exact absurd heq hne
    · exact mem_append_right _ hright
  exact h.tag_ne hqueue other hrest htag

/-- At most one item is next. -/
theorem nextUp_tag {other : TxItem} (hother : other ∈ conn.queue) (hmem : item ∈ conn.queue)
    (hup : NextUp conn other) (hup' : NextUp conn item) :
    other.tag = item.tag := by
  rcases hup with hpos | ⟨hzero, hpick⟩
  · rcases hup' with hpos' | ⟨hzero', -⟩
    · have hactive := (h.underWay other hother hpos).1
      rw [(h.underWay item hmem hpos').1, some.injEq] at hactive
      exact hactive.symm
    · exact absurd (hzero' other hother) hpos
  · rcases hup' with hpos' | ⟨-, hpick'⟩
    · exact absurd (hzero item hmem) hpos'
    · rw [hpick, some.injEq] at hpick'
      exact hpick'

end

end Selection

/-! ## Replacing and removing the selected item -/

section Update

variable {conn conn' : TxConnection} {earlier later : List TxItem}
  {item item' : TxItem}

section

variable (hsel : Selected conn earlier item later)

include hsel

/-- The selection reads the queue and the schedule only. -/
theorem Selected.congr (hqueue : conn'.queue = conn.queue) (hactive : conn'.active = conn.active)
    (hstreak : conn'.controlStreak = conn.controlStreak) :
    Selected conn' earlier item later := by
  refine ⟨hqueue.trans hsel.queue, hactive.trans hsel.active, hsel.others, fun hne => ?_⟩
  have hpass := hsel.pass hne
  exact ⟨hqueue ▸ hpass.data, hpass.bypass, hstreak ▸ hpass.streak⟩

theorem Selected.mem : item ∈ conn.queue := by
  rw [hsel.queue]
  simp

/-- A DATA item is selected only at the head of the queue. -/
theorem Selected.earlier_nil (hdata : item.isData = true) : earlier = [] := by
  by_contra hne
  have hbypass := txCanBypassData_isData (hsel.pass hne).bypass
  rw [TxItem.isData, hbypass] at hdata
  cases hdata

end

/-- Everything in front of the selected item is DATA. -/
theorem Selected.earlier_data (h : TxQueueInv conn) (hsel : Selected conn earlier item later) :
    ∀ other ∈ earlier, other.isData = true := by
  intro other hmem
  obtain ⟨hmem', hlt⟩ := (h.mem_earlier hsel.queue).mp hmem
  exact (hsel.pass (ne_nil_of_mem hmem)).data other hmem' hlt

theorem Selected.overtook_eq (h : TxQueueInv conn) (hsel : Selected conn earlier item later) :
    (conn.queue.head?.map (·.tag) != some item.tag) = !earlier.isEmpty := by
  cases earlier with
  | nil => simp [hsel.queue]
  | cons first rest =>
    have hne := h.tag_ne hsel.queue first (by simp)
    simp [hsel.queue, hne]

/-- The queue with the selected item replaced by a later state of it. -/
theorem TxQueueInv.replace (h : TxQueueInv conn) (hsel : Selected conn earlier item later)
    (hqueue : conn'.queue = earlier ++ item' :: later)
    (htag : item'.tag = item.tag)
    (hrequest : item'.request = item.request) (hok : item'.Ok)
    (hcontrol : conn'.control = conn.control)
    (haccepted : conn'.accepted = conn.accepted)
    (hstreak : conn'.controlStreak ≤ controlBurst)
    (hunder : item'.wirePos ≠ 0 → conn'.active = conn.active ∧
      conn'.controlStreak = conn.controlStreak) :
    TxQueueInv conn' := by
  have hdata : item'.isData = item.isData := by
    rw [TxItem.isData, TxItem.isData, hrequest]
  have hmem : ∀ {other}, other ∈ conn'.queue →
      other = item' ∨ other ∈ earlier ++ later := by
    intro other hother
    rw [hqueue] at hother
    rcases mem_append.mp hother with hleft | hright
    · exact .inr (mem_append_left _ hleft)
    rcases mem_cons.mp hright with rfl | hright
    · exact .inl rfl
    · exact .inr (mem_append_right _ hright)
  have hold : ∀ {other}, other ∈ earlier ++ later → other ∈ conn.queue := by
    intro other hother
    rw [hsel.queue]
    rcases mem_append.mp hother with hleft | hright
    · exact mem_append_left _ hleft
    · exact mem_append_right _ (mem_cons_of_mem _ hright)
  refine ⟨?_, ?_, ?_, ?_, hstreak, ?_⟩
  · have hsorted := h.sorted
    rw [hsel.queue] at hsorted
    rw [hqueue]
    simp only [pairwise_append, pairwise_cons, mem_cons] at hsorted ⊢
    simpa [htag] using hsorted
  · intro other hother
    rw [haccepted]
    rcases hmem hother with rfl | hrest
    · rw [htag, hrequest]
      exact h.accepted item hsel.mem
    · exact h.accepted other (hold hrest)
  · intro other hother
    rcases hmem hother with rfl | hrest
    · exact hok
    · exact h.ok other (hold hrest)
  · rw [hcontrol, h.control, hsel.queue, hqueue]
    simp only [filter_append, filter_cons, hdata]
    split <;> simp [htag]
  · intro other hother hpos
    rcases hmem hother with rfl | hrest
    · obtain ⟨hactive, hstreak'⟩ := hunder hpos
      refine ⟨by rw [hactive, hsel.active, htag], fun third hthird hlt => ?_⟩
      have hthird' : third ∈ earlier := by
        rcases hmem hthird with rfl | hrest
        · exact absurd hlt (Nat.lt_irrefl _)
        · exact (h.mem_earlier hsel.queue).mpr ⟨hold hrest, htag ▸ hlt⟩
      have hpass := hsel.pass (ne_nil_of_mem hthird')
      refine ⟨fun fourth hfourth hlt' => ?_, by rw [hrequest]; exact hpass.bypass,
        by rw [hstreak']; exact hpass.streak⟩
      rcases hmem hfourth with rfl | hrest
      · exact absurd hlt' (Nat.lt_irrefl _)
      · exact hpass.data fourth (hold hrest) (htag ▸ hlt')
    · exact absurd (hsel.others other hrest) hpos

/-- The queue with the selected item removed. -/
theorem TxQueueInv.remove (h : TxQueueInv conn) (hsel : Selected conn earlier item later)
    (hqueue : conn'.queue = earlier ++ later)
    (hcontrol : conn'.control = if item.isData then conn.control else conn.control.tail)
    (haccepted : conn'.accepted = conn.accepted)
    (hstreak : conn'.controlStreak ≤ controlBurst) :
    TxQueueInv conn' := by
  have hsub : List.Sublist (earlier ++ later) conn.queue := by
    rw [hsel.queue]
    exact List.Sublist.append_left (sublist_cons_self _ _) _
  have hmem : ∀ {other}, other ∈ conn'.queue → other ∈ conn.queue := by
    intro other hother
    rw [hqueue] at hother
    exact hsub.subset hother
  refine ⟨?_, ?_, ?_, ?_, hstreak, ?_⟩
  · rw [hqueue]
    exact h.sorted.sublist hsub
  · intro other hother
    rw [haccepted]
    exact h.accepted other (hmem hother)
  · intro other hother
    exact h.ok other (hmem hother)
  · rw [hcontrol, h.control, hsel.queue, hqueue]
    by_cases hdata : item.isData = true
    · simp [hdata]
    -- Nothing in front of a control item is a control item.
    have hnone : earlier.filter (!·.isData) = [] := by
      rw [filter_eq_nil_iff]
      intro other hother
      simpa using hsel.earlier_data h other hother
    simp [hdata, hnone]
  · intro other hother hpos
    rw [hqueue] at hother
    exact absurd (hsel.others other hother) hpos

/-! ## The bytes on the wire -/

theorem partialBytes_zero (hpos : item.wirePos = 0) : partialBytes item = [] := by
  rw [partialBytes, hpos, take_zero]

theorem flatMap_partialBytes_nil {items : List TxItem} (h : ∀ other ∈ items, other.wirePos = 0) :
    items.flatMap partialBytes = [] := by
  rw [flatMap_eq_nil_iff]
  intro other hmem
  exact partialBytes_zero (h other hmem)

/-- Only the selected item has an unfinished frame on the wire. -/
theorem flatMap_partialBytes (h : ∀ other ∈ earlier ++ later, other.wirePos = 0) :
    (earlier ++ item :: later).flatMap partialBytes = partialBytes item := by
  rw [flatMap_append, flatMap_cons, flatMap_partialBytes_nil fun other hmem =>
      h other (mem_append_left _ hmem),
    flatMap_partialBytes_nil fun other hmem =>
      h other (mem_append_right _ hmem),
    nil_append, append_nil]

end Update

/-! ## The order of the frames -/

section Order

variable {conn conn' : TxConnection} {earlier later rest : List TxItem}
  {item item' : TxItem}

/-- A DATA frame starts a new stretch. -/
theorem BurstInv.append_data {frames : List SentFrame} {streak : Nat}
    {frame : SentFrame} (h : BurstInv frames streak)
    (hdata : frame.isData = true) : BurstInv (frames ++ [frame]) 0 := by
  have hlast : ∀ stretch, stretch <:+ frames ++ [frame] →
      (∀ other ∈ stretch, other.isData = false) → stretch = [] := by
    intro stretch hsuffix hnone
    rcases suffix_concat_iff.mp hsuffix with hnil | ⟨front, rfl, -⟩
    · exact hnil
    have := hnone frame (by simp)
    rw [hdata] at this
    cases this
  refine ⟨fun stretch hsuffix hnone => ?_, fun stretch hinfix hnone => ?_⟩
  · rw [hlast stretch hsuffix hnone]
    rfl
  · rcases infix_concat_iff.mp hinfix with hsuffix | hold
    · rw [hlast stretch hsuffix hnone]
      exact Nat.zero_le _
    · exact h.all stretch hold hnone

/-- A control frame prolongs the last stretch. -/
theorem BurstInv.append_control {frames : List SentFrame} {streak streak' : Nat}
    {frame : SentFrame} (h : BurstInv frames streak)
    (hstreak : streak + (if frame.overtook then 1 else 0) ≤ streak')
    (hbound : streak' ≤ controlBurst) :
    BurstInv (frames ++ [frame]) streak' := by
  have hlast : ∀ stretch, stretch <:+ frames ++ [frame] →
      (∀ other ∈ stretch, other.isData = false) →
      stretch.countP (·.overtook) ≤ streak' := by
    intro stretch hsuffix hnone
    rcases suffix_concat_iff.mp hsuffix with rfl | ⟨front, rfl, hfront⟩
    · exact Nat.zero_le _
    have hcount := h.last front hfront fun other hmem =>
      hnone other (mem_append_left _ hmem)
    rw [countP_append, countP_singleton]
    omega
  refine ⟨hlast, fun stretch hinfix hnone => ?_⟩
  rcases infix_concat_iff.mp hinfix with hsuffix | hold
  · exact le_trans (hlast stretch hsuffix hnone) hbound
  · exact h.all stretch hold hnone

/-- The order does not see how much of a frame is written. -/
theorem TxOrderInv.replace (h : TxOrderInv conn) (hsel : Selected conn earlier item later)
    (hqueue : conn'.queue = earlier ++ item' :: later)
    (htag : item'.tag = item.tag)
    (hrequest : item'.request = item.request)
    (hpos : item'.messagePos = item.messagePos)
    (hframes : conn'.frames = conn.frames)
    (haccepted : conn'.accepted = conn.accepted)
    (hstreak : conn'.controlStreak = conn.controlStreak) :
    TxOrderInv conn' := by
  have hdata : item'.isData = item.isData := by
    rw [TxItem.isData, TxItem.isData, hrequest]
  have hpending : pendingFrames item' = pendingFrames item := by
    rw [pendingFrames, pendingFrames, htag, hrequest, hpos]
  refine ⟨?_, ?_, ?_, ?_, ?_, ?_, ?_⟩
  · rw [hframes, haccepted]
    exact h.requests
  · rw [hframes, haccepted, ← h.control, hsel.queue, hqueue]
    simp only [filter_append, filter_cons, hdata]
    split <;> simp [htag]
  · rw [hframes, haccepted, ← h.data, hsel.queue, hqueue]
    simp only [filter_append, filter_cons, hdata]
    split <;> simp [hpending]
  · rw [hframes]
    exact h.passed
  · rw [hframes, hqueue]
    intro frame hframe other hother hlt
    rcases mem_append.mp hother with hleft | hright
    · exact h.passing frame hframe other
        (by rw [hsel.queue]; exact mem_append_left _ hleft) hlt
    rcases mem_cons.mp hright with rfl | hright
    · rw [hdata]
      exact h.passing frame hframe item hsel.mem (htag ▸ hlt)
    exact h.passing frame hframe other (by
      rw [hsel.queue]
      exact mem_append_right _ (mem_cons_of_mem _ hright)) hlt
  · rw [hframes]
    exact h.bypass
  · rw [hframes, hstreak]
    exact h.burst

/-- The selected item finishes a frame; `rest` is the item again if it has
more frames to send. -/
theorem TxOrderInv.finish (h : TxOrderInv conn) (hinv : TxQueueInv conn)
    (hsel : Selected conn earlier item later)
    (hqueue : conn'.queue = earlier ++ (rest ++ later))
    (hrest : ∀ other ∈ rest, other.tag = item.tag ∧ other.isData = true ∧ item.isData = true)
    (hpending : item.isData = true → pendingFrames item =
      (item.tag, item.messagePos) :: rest.flatMap pendingFrames)
    (hframes : conn'.frames = conn.frames ++
      [⟨item.tag, item.request, item.messagePos, !earlier.isEmpty⟩])
    (haccepted : conn'.accepted = conn.accepted)
    (hburst : BurstInv conn'.frames conn'.controlStreak) :
    TxOrderInv conn' := by
  have hearlier := hsel.earlier_data hinv
  have hnone : earlier.filter (!·.isData) = [] := by
    rw [filter_eq_nil_iff]
    intro other hother
    simpa using hearlier other hother
  have hrestData : rest.filter (·.isData) = rest := by
    rw [filter_eq_self]
    intro other hother
    exact (hrest other hother).2.1
  have hrestNone : rest.filter (!·.isData) = [] := by
    rw [filter_eq_nil_iff]
    intro other hother
    simpa using (hrest other hother).2.1
  have hold : ∀ {other}, other ∈ conn'.queue →
      other.tag = item.tag ∨ other ∈ conn.queue := by
    intro other hother
    rw [hqueue] at hother
    rw [hsel.queue]
    rcases mem_append.mp hother with hleft | hright
    · exact .inr (mem_append_left _ hleft)
    rcases mem_append.mp hright with hmid | hright
    · exact .inl (hrest other hmid).1
    · exact .inr (mem_append_right _ (mem_cons_of_mem _ hright))
  refine ⟨?_, ?_, ?_, ?_, ?_, ?_, hburst⟩
  · rw [hframes, haccepted]
    exact Lib.forall_mem_concat.2 ⟨h.requests, hinv.accepted item hsel.mem⟩
  · rw [hframes, haccepted, ← h.control, hsel.queue, hqueue]
    simp only [filter_append, hnone, hrestNone, filter_cons,
      filter_nil, nil_append, SentFrame.isData]
    by_cases hdata : item.isData = true
    · have hdata' : item.request.isData = true := hdata
      simp [hdata, hdata']
    · have hdata' : ¬ item.request.isData = true := hdata
      simp [hdata, hdata']
  · rw [hframes, haccepted, ← h.data, hsel.queue, hqueue]
    simp only [filter_append, hrestData, filter_cons, filter_nil, SentFrame.isData]
    by_cases hdata : item.isData = true
    · have hdata' : item.request.isData = true := hdata
      rw [hsel.earlier_nil hdata]
      simp [hdata, hdata', hpending hdata]
    have hdata' : ¬ item.request.isData = true := hdata
    have hnil : rest = [] := by
      by_contra hne
      obtain ⟨other, hother⟩ := exists_mem_of_ne_nil _ hne
      exact hdata (hrest other hother).2.2
    simp [hdata, hdata', hnil]
  · rw [hframes, pairwise_append]
    refine ⟨h.passed, pairwise_singleton _ _, ?_⟩
    intro frame hframe last hlast hlt
    obtain rfl := mem_singleton.mp hlast
    exact h.passing frame hframe item hsel.mem hlt
  · rw [hframes]
    intro frame hframe other hother hlt
    rcases Lib.mem_concat.1 hframe with hleft | rfl
    · rcases hold hother with hsame | hmem
      · have hitem := h.passing frame hleft item hsel.mem (hsame ▸ hlt)
        refine ⟨hitem.1, ?_⟩
        rw [hqueue] at hother
        rcases mem_append.mp hother with hleft' | hright'
        · exact hearlier other hleft'
        rcases mem_append.mp hright' with hmid | hright'
        · exact (hrest other hmid).2.1
        have hne := hinv.tag_ne hsel.queue other (mem_append_right _ hright')
        exact absurd hsame hne
      · exact h.passing frame hleft other hmem hlt
    · rcases hold hother with hsame | hmem
      · exact absurd hlt (by show ¬ other.tag < item.tag; omega)
      have hmem' := (hinv.mem_earlier hsel.queue).mpr ⟨hmem, hlt⟩
      refine ⟨?_, hearlier other hmem'⟩
      simpa using ne_nil_of_mem hmem'
  · rw [hframes]
    intro frame hframe hover
    rcases Lib.mem_concat.1 hframe with hleft | rfl
    · exact h.bypass frame hleft hover
    · exact (hsel.pass (by simpa using hover)).bypass

end Order

end Trpc
