import Trpc.Lib.Runs
import Trpc.Status

/-!
# The handles of a message

`message.c` with the count of `refcount.h`: handles of one published storage are cloned, sliced,
moved and released by any threads.  The release that drops the last reference calls the hook of
the storage and then returns its charge.

A handle is used by one thread at a time and the count changes by one exchange, so a call is one
step; what the last release does afterwards are two steps of their own.
-/

namespace Trpc

open Lib

/-- A `struct tr_message` that is in use, by the part of the published bytes that it shows. -/
structure MessageHandle where
  offset : Nat
  len : Nat
  deriving DecidableEq, Repr

/-- The part of a message that `tr_message_slice` gives, if the message has it. -/
def MessageHandle.slice (m : MessageHandle) (offset len : Nat) : Option MessageHandle :=
  if m.len < offset ∨ m.len - offset < len then none else some ⟨m.offset + offset, len⟩

/-- A `struct tr_message_storage` with its handles.  `ending` are the releases that dropped the
last reference and have not called the hook, `refunding` those that have and are to return the
charge; `hooks` and `refunds` count what was done. -/
structure MessageStorage (ι : Type) where
  bytes : List UInt8
  capacity : Nat
  charge : Nat
  refs : Nat
  handles : ι → Option MessageHandle
  ending : Nat := 0
  refunding : Nat := 0
  hooks : Nat := 0
  refunds : Nat := 0

/-- What a thread may ask for. -/
inductive MessageCall (ι : Type)
  | clone (message out : ι)
  | slice (message : ι) (offset len : Nat) (out : ι)
  | move (input : ι) (maxDecoded maxEncoded : Nat) (out : ι)
  | release (message : ι)

/-- A call, or what the last release does next. -/
inductive MessageAction (ι : Type)
  | call (call : MessageCall ι)
  | hook
  | refund

variable {ι : Type} [DecidableEq ι]

namespace MessageStorage

/-- `tr_message_storage_publish`. -/
def publish (bytes : List UInt8) (capacity : Nat) (out : ι) : MessageStorage ι where
  bytes := bytes
  capacity := capacity
  charge := capacity
  refs := 1
  handles := Function.update (fun _ => none) out (some ⟨0, bytes.length⟩)

/-- `tr_message_slice`, with `tr_refcount_get`. -/
def slice (s : MessageStorage ι) (message : ι) (offset len : Nat) (out : ι) :
    Status × MessageStorage ι :=
  if message = out then (.errInvalid, s)
  else match s.handles message with
  | none => (.errState, s)
  | some m =>
    if (s.handles out).isSome then (.errState, s)
    else match m.slice offset len with
    | none => (.errBadLength, s)
    | some part =>
      if s.refs = 0 ∨ 2 ^ 32 - 2 ≤ s.refs then (.errState, s)
      else (.ok, { s with
        refs := s.refs + 1
        handles := Function.update s.handles out (some part) })

/-- `tr_message_clone`. -/
def clone (s : MessageStorage ι) (message out : ι) : Status × MessageStorage ι :=
  s.slice message 0 (((s.handles message).map MessageHandle.len).getD 0) out

/-- `tr_message_none_move`. -/
def move (s : MessageStorage ι) (input : ι) (maxDecoded maxEncoded : Nat) (out : ι) :
    Status × MessageStorage ι :=
  if input = out then (.errInvalid, s)
  else match s.handles input with
  | none => (.errState, s)
  | some m =>
    if (s.handles out).isSome then (.errState, s)
    else if maxDecoded < m.len ∨ maxEncoded < m.len then (.errBadLength, s)
    else (.ok, { s with
      handles := Function.update (Function.update s.handles out (some m)) input none })

/-- `tr_message_release` with `tr_refcount_put`, up to the last reference. -/
def release (s : MessageStorage ι) (message : ι) : Status × MessageStorage ι :=
  match s.handles message with
  | none => (.errState, s)
  | some _ =>
    let s := { s with handles := Function.update s.handles message none }
    if s.refs = 0 then (.errState, s)
    else (.ok, { s with
      refs := s.refs - 1
      ending := if s.refs = 1 then s.ending + 1 else s.ending })

def call (s : MessageStorage ι) : MessageCall ι → Status × MessageStorage ι
  | .clone message out => s.clone message out
  | .slice message offset len out => s.slice message offset len out
  | .move input maxDecoded maxEncoded out => s.move input maxDecoded maxEncoded out
  | .release message => s.release message

/-- One step. -/
def step (s : MessageStorage ι) : MessageAction ι → Option (MessageStorage ι)
  | .call c => some (s.call c).2
  | .hook =>
    if s.ending = 0 then none
    else some { s with
      ending := s.ending - 1
      hooks := s.hooks + 1
      refunding := s.refunding + 1 }
  | .refund =>
    if s.refunding = 0 then none
    else some { s with
      refunding := s.refunding - 1
      refunds := s.refunds + 1
      charge := s.charge - s.capacity }

variable {bytes : List UInt8} {capacity : Nat} {s s' : MessageStorage ι}

/-- So many handles are in use. -/
def InUse (handles : ι → Option MessageHandle) (n : Nat) : Prop :=
  ∃ live : Finset ι, (∀ i, i ∈ live ↔ (handles i).isSome = true) ∧ live.card = n

/-- The references are the handles in use, and the hook and the refund are still to come as long
as there is one. -/
structure Ok (bytes : List UInt8) (capacity : Nat) (s : MessageStorage ι) : Prop where
  published : s.bytes = bytes ∧ s.capacity = capacity
  inside : ∀ i m, s.handles i = some m → m.offset + m.len ≤ bytes.length
  count : InUse s.handles s.refs
  ended : s.ending + s.hooks = if s.refs = 0 then 1 else 0
  refunded : s.refunding + s.refunds = s.hooks
  charged : s.charge = if s.refunds = 0 then capacity else 0

/-- What a call does when the handles and the count allow it. -/
structure Serves (s : MessageStorage ι) : Prop where
  slice : ∀ i j m a l, s.handles i = some m → s.handles j = none → i ≠ j →
    s.refs < 2 ^ 32 - 2 → a + l ≤ m.len → s.slice i a l j = (.ok, { s with
      refs := s.refs + 1
      handles := Function.update s.handles j (some ⟨m.offset + a, l⟩) })
  clone : ∀ i j m, s.handles i = some m → s.handles j = none → i ≠ j →
    s.refs < 2 ^ 32 - 2 → s.clone i j = (.ok, { s with
      refs := s.refs + 1
      handles := Function.update s.handles j (some m) })
  move : ∀ i j m maxDecoded maxEncoded, s.handles i = some m → s.handles j = none → i ≠ j →
    m.len ≤ maxDecoded → m.len ≤ maxEncoded → s.move i maxDecoded maxEncoded j = (.ok, { s with
      handles := Function.update (Function.update s.handles j (some m)) i none })
  /-- The last release is the one that is to call the hook. -/
  release : ∀ i m, s.handles i = some m → s.release i = (.ok, { s with
    refs := s.refs - 1
    handles := Function.update s.handles i none
    ending := if s.refs = 1 then s.ending + 1 else s.ending })

variable {handles : ι → Option MessageHandle}

theorem InUse.add {n : Nat} {i : ι} (h : InUse handles n)
    (hfree : handles i = none) (m : MessageHandle) :
    InUse (Function.update handles i (some m)) (n + 1) := by
  obtain ⟨live, hmem, rfl⟩ := h
  refine ⟨insert i live, fun j => ?_, Finset.card_insert_of_notMem (by simp [hmem, hfree])⟩
  by_cases hj : j = i
  · simp [hj]
  · simp [hj, hmem]

theorem InUse.drop {n : Nat} {i : ι} {m : MessageHandle}
    (h : InUse handles n) (hused : handles i = some m) :
    0 < n ∧ InUse (Function.update handles i none) (n - 1) := by
  obtain ⟨live, hmem, rfl⟩ := h
  have hi : i ∈ live := (hmem i).2 (by simp [hused])
  refine ⟨Finset.card_pos.2 ⟨i, hi⟩, live.erase i, fun j => ?_, Finset.card_erase_of_mem hi⟩
  by_cases hj : j = i
  · simp [hj]
  · simp [hj, hmem]

theorem inside_update {n : Nat} (h : ∀ i m, handles i = some m → m.offset + m.len ≤ n) {i : ι}
    {new : Option MessageHandle} (hnew : ∀ m, new = some m → m.offset + m.len ≤ n) :
    ∀ j m, Function.update handles i new j = some m → m.offset + m.len ≤ n :=
  (Function.forall_update_iff handles fun _ o => ∀ m, o = some m → m.offset + m.len ≤ n).2
    ⟨hnew, fun j _ => h j⟩

/-- What a call may answer: it fails and changes nothing, or keeps the invariant. -/
def Fair (bytes : List UInt8) (capacity : Nat) (s : MessageStorage ι)
    (result : Status × MessageStorage ι) : Prop :=
  result.1 ≠ .ok ∧ result.2 = s ∨ result.1 = .ok ∧ Ok bytes capacity result.2

section

variable (h : Ok bytes capacity s)

include h

theorem Ok.slice (message : ι) (offset len : Nat) (out : ι) :
    Fair bytes capacity s (s.slice message offset len out) := by
  unfold MessageStorage.slice
  split
  · exact .inl ⟨by simp, rfl⟩
  split
  · exact .inl ⟨by simp, rfl⟩
  rename_i m hm
  split
  · exact .inl ⟨by simp, rfl⟩
  rename_i hout
  split
  · exact .inl ⟨by simp, rfl⟩
  rename_i part hpart
  split
  · exact .inl ⟨by simp, rfl⟩
  rename_i hrefs
  obtain ⟨hfits, hpart⟩ := Option.ite_none_left_eq_some.1 hpart
  have hinside := h.inside message m hm
  have hended := h.ended
  refine .inr ⟨rfl, { h with
    inside := ?_
    count := h.count.add (Option.not_isSome_iff_eq_none.1 hout) part
    ended := ?_ }⟩
  · refine inside_update h.inside fun p hp => ?_
    cases hpart
    cases hp
    dsimp only
    omega
  · rw [if_neg fun hzero => hrefs (.inl hzero)] at hended
    exact hended

theorem Ok.move (input : ι) (maxDecoded maxEncoded : Nat) (out : ι) :
    Fair bytes capacity s (s.move input maxDecoded maxEncoded out) := by
  unfold MessageStorage.move
  split
  · exact .inl ⟨by simp, rfl⟩
  rename_i hne
  split
  · exact .inl ⟨by simp, rfl⟩
  rename_i m hm
  split
  · exact .inl ⟨by simp, rfl⟩
  rename_i hout
  split
  · exact .inl ⟨by simp, rfl⟩
  have hcount := h.count.add (Option.not_isSome_iff_eq_none.1 hout) m
  refine .inr ⟨rfl, { h with
    inside := inside_update (inside_update h.inside fun p hp => ?_) nofun
    count := (hcount.drop ((Function.update_of_ne hne _ _).trans hm)).2 }⟩
  cases hp
  exact h.inside input m hm

theorem Ok.release (message : ι) :
    Fair bytes capacity s (s.release message) := by
  unfold MessageStorage.release
  split
  · exact .inl ⟨by simp, rfl⟩
  rename_i m hm
  obtain ⟨hpos, hcount⟩ := h.count.drop hm
  have hended := h.ended
  rw [if_neg hpos.ne'] at hended
  dsimp only
  rw [if_neg hpos.ne']
  refine .inr ⟨rfl, { h with
    inside := inside_update h.inside nofun
    count := hcount
    ended := ?_ }⟩
  dsimp only
  split_ifs <;> omega

theorem Ok.serves : s.Serves := by
  refine ⟨fun i j m a l hi hj hne hrefs hfits => ?_, fun i j m hi hj hne hrefs => ?_,
    fun i j m maxDecoded maxEncoded hi hj hne hdecoded hencoded => ?_, fun i m hi => ?_⟩
  · have hpos := (h.count.drop hi).1
    have hpart : m.slice a l = some ⟨m.offset + a, l⟩ := if_neg (by omega)
    have hroom : s.refs ≠ 0 ∧ s.refs < 4294967294 := by omega
    simp [MessageStorage.slice, hne, hi, hj, hpart, hroom]
  · have hpos := (h.count.drop hi).1
    have hroom : s.refs ≠ 0 ∧ s.refs < 4294967294 := by omega
    simp [MessageStorage.clone, MessageStorage.slice, MessageHandle.slice, hne, hi, hj, hroom]
  · simp [MessageStorage.move, hne, hi, hj, hdecoded, hencoded]
  · simp [MessageStorage.release, hi, (h.count.drop hi).1.ne']

theorem Ok.call (c : MessageCall ι) :
    Fair bytes capacity s (s.call c) := by
  cases c with
  | clone message out => exact h.slice message 0 _ out
  | slice message offset len out => exact h.slice message offset len out
  | move input maxDecoded maxEncoded out => exact h.move input maxDecoded maxEncoded out
  | release message => exact h.release message

theorem Ok.step {action : MessageAction ι}
    (hstep : s.step action = some s') : Ok bytes capacity s' := by
  have hended := h.ended
  have hrefunded := h.refunded
  cases action with
  | call c =>
    cases hstep
    rcases h.call c with ⟨_, hsame⟩ | ⟨_, hok⟩
    · rw [hsame]
      exact h
    · exact hok
  | hook =>
    obtain ⟨hending, hstep⟩ := Option.ite_none_left_eq_some.1 hstep
    cases hstep
    refine { h with ended := hended ▸ ?_, refunded := ?_ } <;> dsimp only <;> omega
  | refund =>
    obtain ⟨hrefunding, hstep⟩ := Option.ite_none_left_eq_some.1 hstep
    cases hstep
    have hcharged := h.charged
    have hcapacity := h.published.2
    have hle : s.ending + s.hooks ≤ 1 := by
      rw [hended]
      split <;> omega
    rw [if_pos (by omega)] at hcharged
    refine { h with refunded := ?_, charged := ?_ } <;> dsimp only
    · omega
    · rw [if_neg (Nat.succ_ne_zero _)]
      omega

end

theorem publish_ok (bytes : List UInt8) (capacity : Nat) (out : ι) :
    Ok bytes capacity (publish bytes capacity out) where
  published := ⟨rfl, rfl⟩
  inside := inside_update nofun fun m hm => by
    cases hm
    exact (Nat.zero_add _).le
  count := InUse.add ⟨∅, by simp, rfl⟩ rfl _
  ended := rfl
  refunded := rfl
  charged := rfl

end MessageStorage

/-- The handles of a message, in every interleaving of calls on them.  A handle shows a part of
the published bytes, the references are the handles in use, and a call that fails changes nothing;
`Serves` says what the others do.  The hook runs once, when no handle is left, and the charge is
returned once, after it.  A slice of a slice is a slice. -/
theorem message_handle_algebra (bytes : List UInt8) (capacity : Nat) (first : ι) :
    (∀ actions (s : MessageStorage ι),
      runSteps MessageStorage.step (.publish bytes capacity first) actions = some s →
      (∀ i m, s.handles i = some m → m.offset + m.len ≤ bytes.length) ∧
      MessageStorage.InUse s.handles s.refs ∧
      (s.ending + s.hooks = if s.refs = 0 then 1 else 0) ∧
      s.refunding + s.refunds = s.hooks ∧
      (s.charge = if s.refunds = 0 then capacity else 0) ∧
      (∀ c, (s.call c).1 ≠ .ok → (s.call c).2 = s) ∧ s.Serves) ∧
    ∀ (m part rest : MessageHandle) a l b k, m.slice a l = some part →
      part.slice b k = some rest → m.slice (a + b) k = some rest := by
  refine ⟨fun actions s hrun => ?_, fun m part rest a l b k hpart hrest => ?_⟩
  · have h : MessageStorage.Ok bytes capacity s := runSteps_invariant
      (fun _ _ _ h hstep => h.step hstep) (MessageStorage.publish_ok bytes capacity first) hrun
    refine ⟨h.inside, h.count, h.ended, h.refunded, h.charged, fun c hfail => ?_, h.serves⟩
    exact (h.call c).elim (fun hsame => hsame.2) fun hok => absurd hok.1 hfail
  · obtain ⟨hfits, hpart⟩ := Option.ite_none_left_eq_some.1 hpart
    obtain ⟨hmore, hrest⟩ := Option.ite_none_left_eq_some.1 hrest
    cases hpart
    cases hrest
    dsimp only at hmore
    rw [MessageHandle.slice, if_neg (by omega), Nat.add_assoc]

/-- Three bytes with a clone, a slice of the clone and the slice moved on, all released in the
end. -/
theorem message_handle_algebra_drained : ∃ s, runSteps MessageStorage.step
    (.publish [1, 2, 3] 4 (0 : Fin 4)) [.call (.clone 0 1), .call (.slice 1 1 2 2),
      .call (.move 2 2 2 3), .call (.release 1), .call (.release 0), .call (.release 3),
      .hook, .refund] = some s ∧
    s.hooks = 1 ∧ s.refunds = 1 ∧ s.charge = 0 := by
  refine exists_of_map (f := fun s => (s.hooks, s.refunds)) (y := (1, 1)) (by decide)
    fun s hrun hdone => ?_
  obtain ⟨-, -, -, -, hcharge, -⟩ := (message_handle_algebra [1, 2, 3] 4 0).1 _ s hrun
  obtain ⟨hhooks, hrefunds⟩ := Prod.ext_iff.1 hdone
  exact ⟨hhooks, hrefunds, hcharge.trans (if_neg (ne_of_eq_of_ne hrefunds one_ne_zero))⟩

end Trpc
