import Mathlib

/-!
# Open addressing with tombstones

A table of `cap` cells.  A cell is empty, holds a key with a value, or is a tombstone:
a removed entry that a search must pass.  A search for `key` looks at the cells
`probe key 0`, `probe key 1`, …, `probe key (cap - 1)`; the order is a parameter, and
nothing is asked of it but that it stays inside the table.  Cells never become empty
again, which is all that the invariant needs.

* `find` is the search.  It answers the cell of the key, or the cell where the key may
  be stored: the first tombstone on the way, or the empty cell where the search ended.
* `Sound` is the invariant: no cell on the way to a stored key is empty, and no key is
  stored twice.
-/

namespace Trpc.Lib.Tombstones

open Function

variable {κ ν : Type}

/-- A cell of the table. -/
inductive Cell (κ ν : Type)
  | empty
  | used (key : κ) (value : ν)
  | tombstone
  deriving DecidableEq, Repr

/-- How a search ends; `missing` holds the cell where the key may be stored. -/
inductive Found
  | hit (pos : Nat)
  | missing (pos : Option Nat)
  deriving DecidableEq, Repr

/-- The search from `offset` on, with the first tombstone so far. -/
def findLoop [DecidableEq κ] (cells : Nat → Cell κ ν) (key : κ) (way : Nat → Nat) :
    Nat → Nat → Option Nat → Found
  | 0, _, grave => .missing grave
  | fuel + 1, offset, grave =>
    match cells (way offset) with
    | .used key' _ =>
      if key' = key then .hit (way offset) else findLoop cells key way fuel (offset + 1) grave
    | .tombstone => findLoop cells key way fuel (offset + 1) (some (grave.getD (way offset)))
    | .empty => .missing (some (grave.getD (way offset)))

/-- The search of `cap` cells. -/
def find [DecidableEq κ] (cap : Nat) (cells : Nat → Cell κ ν) (probe : κ → Nat → Nat)
    (key : κ) : Found :=
  findLoop cells key (probe key) cap 0 none

/-- The value in a cell. -/
def Cell.value? : Cell κ ν → Option ν
  | .used _ value => some value
  | _ => none

/-- The key in a cell. -/
def Cell.key? : Cell κ ν → Option κ
  | .used key _ => some key
  | _ => none

/-- The value of a key. -/
def lookup [DecidableEq κ] (cap : Nat) (cells : Nat → Cell κ ν) (probe : κ → Nat → Nat)
    (key : κ) : Option ν :=
  match find cap cells probe key with
  | .hit pos => (cells pos).value?
  | .missing _ => none

/-- A cell that a search on this way comes to. -/
def Reaches (cap : Nat) (cells : Nat → Cell κ ν) (way : Nat → Nat) (pos : Nat) : Prop :=
  ∃ d < cap, pos = way d ∧ ∀ e < d, cells (way e) ≠ .empty

/-- The invariant of the table. -/
structure Sound (cap : Nat) (cells : Nat → Cell κ ν) (probe : κ → Nat → Nat) : Prop where
  reaches : ∀ pos < cap, ∀ key value, cells pos = .used key value →
    Reaches cap cells (probe key) pos
  single : ∀ pos < cap, ∀ pos' < cap, ∀ key value value', cells pos = .used key value →
    cells pos' = .used key value' → pos = pos'

theorem sound_empty (cap : Nat) (probe : κ → Nat → Nat) :
    Sound cap (fun _ => (.empty : Cell κ ν)) probe :=
  ⟨fun _ _ _ _ h => by simp at h, fun _ _ _ _ _ _ _ h => by simp at h⟩

/-- What an answer of the search says about the cells: a hit holds the key; after a miss
the key is in no cell that the search comes to, and the cell it names is not in use. -/
def Answers (cap : Nat) (cells : Nat → Cell κ ν) (key : κ) (way : Nat → Nat) : Found → Prop
  | .hit pos => (∃ d, pos = way d) ∧ ∃ value, cells pos = .used key value
  | .missing pos =>
    (∀ found, Reaches cap cells way found → ∀ value, cells found ≠ .used key value) ∧
      ∀ found, pos = some found → Reaches cap cells way found ∧
        ∀ key' value, cells found ≠ .used key' value

variable [DecidableEq κ] {cap : Nat} {cells : Nat → Cell κ ν} {probe : κ → Nat → Nat} {key : κ}

/-- The search answers rightly, whatever it has passed before `offset`. -/
theorem findLoop_spec {way : Nat → Nat} {fuel offset : Nat} {grave : Option Nat}
    (hfuel : offset + fuel = cap)
    (hseen : ∀ e < offset, cells (way e) ≠ .empty ∧ ∀ value, cells (way e) ≠ .used key value)
    (hgrave : ∀ pos, grave = some pos → cells pos = .tombstone ∧ Reaches cap cells way pos) :
    Answers cap cells key way (findLoop cells key way fuel offset grave) := by
  have hfree : ∀ pos, grave = some pos → Reaches cap cells way pos ∧
      ∀ key' value, cells pos ≠ .used key' value := by
    intro pos hpos
    obtain ⟨htomb, hreach⟩ := hgrave pos hpos
    refine ⟨hreach, fun key' value h => ?_⟩
    rw [htomb] at h
    cases h
  induction fuel generalizing offset grave with
  | zero =>
    rw [findLoop]
    refine ⟨fun found ⟨d, hd, hpos, _⟩ value hvalue => ?_, hfree⟩
    rw [hpos] at hvalue
    exact (hseen d (by omega)).2 value hvalue
  | succ fuel ih =>
    have hpath : Reaches cap cells way (way offset) :=
      ⟨offset, by omega, rfl, fun e he => (hseen e he).1⟩
    have hnext (hne : cells (way offset) ≠ .empty)
        (hother : ∀ value, cells (way offset) ≠ .used key value) :
        ∀ e < offset + 1, cells (way e) ≠ .empty ∧ ∀ value, cells (way e) ≠ .used key value := by
      intro e he
      rcases Nat.lt_succ_iff_lt_or_eq.mp he with he | rfl
      · exact hseen e he
      · exact ⟨hne, hother⟩
    rw [findLoop]
    cases hcell : cells (way offset) with
    | used key' value =>
      dsimp only
      by_cases hkey : key' = key
      · rw [if_pos hkey]
        subst hkey
        exact ⟨⟨offset, rfl⟩, value, hcell⟩
      rw [if_neg hkey]
      refine ih (by omega) (hnext ?_ ?_) hgrave hfree
      · rw [hcell]
        simp
      · intro value' h
        rw [hcell] at h
        cases h
        exact hkey rfl
    | tombstone =>
      have hgrave' : ∀ pos, some (grave.getD (way offset)) = some pos →
          cells pos = .tombstone ∧ Reaches cap cells way pos := by
        intro pos hpos
        cases grave with
        | none =>
          cases hpos
          exact ⟨hcell, hpath⟩
        | some first => exact hgrave pos hpos
      refine ih (by omega) (hnext ?_ ?_) hgrave' fun pos hpos => ?_
      · rw [hcell]
        simp
      · rw [hcell]
        simp
      · obtain ⟨htomb, hreach⟩ := hgrave' pos hpos
        refine ⟨hreach, ?_⟩
        rw [htomb]
        simp
    | empty =>
      refine ⟨fun found ⟨d, hd, hpos, hway⟩ value hvalue => ?_, fun found hfound => ?_⟩
      · rw [hpos] at hvalue
        rcases Nat.lt_trichotomy d offset with hlt | rfl | hgt
        · exact (hseen d hlt).2 value hvalue
        · rw [hcell] at hvalue
          cases hvalue
        · exact hway offset hgt hcell
      · cases grave with
        | none =>
          cases hfound
          refine ⟨hpath, ?_⟩
          rw [Option.getD_none, hcell]
          simp
        | some first => exact hfree found hfound

theorem find_spec : Answers cap cells key (probe key) (find cap cells probe key) := by
  refine findLoop_spec (Nat.zero_add cap) (fun _ he => ?_) (fun _ hpos => ?_)
  · omega
  · cases hpos

/-- The cell that was found holds the key. -/
theorem find_hit (hprobe : ∀ k d, probe k d < cap) {pos : Nat}
    (h : find cap cells probe key = .hit pos) :
    pos < cap ∧ ∃ value, cells pos = .used key value := by
  have hspec : Answers cap cells key (probe key) (find cap cells probe key) := find_spec
  rw [h] at hspec
  obtain ⟨⟨d, hpos⟩, hvalue⟩ := hspec
  exact ⟨hpos ▸ hprobe key d, hvalue⟩

/-- The cell that is answered for a missing key. -/
theorem find_missing (hprobe : ∀ k d, probe k d < cap) {pos : Nat}
    (h : find cap cells probe key = .missing (some pos)) :
    pos < cap ∧ Reaches cap cells (probe key) pos ∧ ∀ key' value, cells pos ≠ .used key' value := by
  have hspec : Answers cap cells key (probe key) (find cap cells probe key) := find_spec
  rw [h] at hspec
  obtain ⟨hreach, hfree⟩ := hspec.2 pos rfl
  obtain ⟨d, _, hpos, _⟩ := id hreach
  exact ⟨hpos ▸ hprobe key d, hreach, hfree⟩

namespace Sound

/-- A stored key is found, in its only cell. -/
theorem find_eq (hsound : Sound cap cells probe) (hprobe : ∀ k d, probe k d < cap) {pos : Nat}
    {value : ν} (hpos : pos < cap) (h : cells pos = .used key value) :
    find cap cells probe key = .hit pos := by
  cases hfind : find cap cells probe key with
  | hit found =>
    obtain ⟨hfound, value', hcell⟩ := find_hit hprobe hfind
    rw [hsound.single pos hpos found hfound key value value' h hcell]
  | missing found =>
    have hspec : Answers cap cells key (probe key) (find cap cells probe key) := find_spec
    rw [hfind] at hspec
    exact absurd h (hspec.1 pos (hsound.reaches pos hpos key value h) value)

/-- A key that is missing is in no cell. -/
theorem absent (hsound : Sound cap cells probe) (hprobe : ∀ k d, probe k d < cap)
    {found : Option Nat} (h : find cap cells probe key = .missing found) :
    ∀ pos < cap, ∀ value, cells pos ≠ .used key value := by
  intro pos hpos value hcell
  rw [hsound.find_eq hprobe hpos hcell] at h
  cases h

/-- The lookup finds exactly what is stored. -/
theorem lookup_eq_some (hsound : Sound cap cells probe) (hprobe : ∀ k d, probe k d < cap)
    {value : ν} :
    lookup cap cells probe key = some value ↔ ∃ pos < cap, cells pos = .used key value := by
  constructor
  · intro h
    rw [lookup] at h
    cases hfind : find cap cells probe key with
    | hit pos =>
      obtain ⟨hpos, value', hcell⟩ := find_hit hprobe hfind
      rw [hfind] at h
      dsimp only at h
      rw [hcell] at h
      cases h
      exact ⟨pos, hpos, hcell⟩
    | missing found =>
      rw [hfind] at h
      cases h
  · rintro ⟨pos, hpos, hcell⟩
    rw [lookup, hsound.find_eq hprobe hpos hcell]
    dsimp only
    rw [hcell]
    rfl

end Sound

omit [DecidableEq κ] in
/-- A cell that is not empty afterwards takes no search off its way. -/
theorem Reaches.update {way : Nat → Nat} {pos found : Nat} {cell : Cell κ ν}
    (hne : cell ≠ .empty) (h : Reaches cap cells way pos) :
    Reaches cap (update cells found cell) way pos := by
  obtain ⟨d, hd, hpos, hway⟩ := h
  refine ⟨d, hd, hpos, fun e he => ?_⟩
  rw [update_apply]
  grind

/-- Storing a missing key where the search said. -/
theorem Sound.store (hsound : Sound cap cells probe) (hprobe : ∀ k d, probe k d < cap)
    {found : Nat} (h : find cap cells probe key = .missing (some found)) (value : ν) :
    Sound cap (update cells found (.used key value)) probe := by
  have habsent := hsound.absent hprobe h
  obtain ⟨_, hreach, _⟩ := find_missing hprobe h
  have hused : (.used key value : Cell κ ν) ≠ .empty := by simp
  refine ⟨fun pos hpos key' value' hcell => ?_,
    fun pos hpos pos' hpos' key' v v' hcell hcell' => ?_⟩
  · refine Reaches.update hused ?_
    have hold := hsound.reaches pos hpos key' value'
    rw [update_apply] at hcell
    grind
  · have hold := hsound.single pos hpos pos' hpos' key' v v'
    rw [update_apply] at hcell hcell'
    grind

/-- A search that comes to a cell without a key finds a place. -/
theorem findLoop_ne_full {way : Nat → Nat} {fuel offset : Nat} {grave : Option Nat}
    (h : grave.isSome = true ∨
      ∃ d, offset ≤ d ∧ d < offset + fuel ∧ (cells (way d)).key? = none) :
    findLoop cells key way fuel offset grave ≠ .missing none := by
  induction fuel generalizing offset grave with
  | zero =>
    rw [findLoop]
    rintro heq
    cases heq
    rcases h with h | ⟨d, hle, hlt, -⟩
    · cases h
    · omega
  | succ fuel ih =>
    rw [findLoop]
    cases hcell : cells (way offset) with
    | used key' value =>
      dsimp only
      split
      · simp
      · refine ih (h.imp_right ?_)
        rintro ⟨d, hle, hlt, hd⟩
        have hne : d ≠ offset := by
          rintro rfl
          rw [hcell] at hd
          cases hd
        exact ⟨d, by omega, by omega, hd⟩
    | tombstone => exact ih (.inl rfl)
    | empty => simp

/-- A key that no cell holds finds a place, where its search comes to every cell and one has no
key. -/
theorem find_place (hprobe : ∀ k d, probe k d < cap)
    (hcover : ∀ pos < cap, ∃ d < cap, probe key d = pos)
    (habsent : ∀ pos < cap, (cells pos).key? ≠ some key)
    (hroom : ∃ pos < cap, (cells pos).key? = none) :
    ∃ pos < cap, find cap cells probe key = .missing (some pos) ∧ (cells pos).key? = none := by
  cases hfind : find cap cells probe key with
  | hit pos =>
    obtain ⟨hpos, value, hcell⟩ := find_hit hprobe hfind
    exact absurd (congrArg Cell.key? hcell) (habsent pos hpos)
  | missing found =>
    cases found with
    | none =>
      obtain ⟨pos, hpos, hnone⟩ := hroom
      obtain ⟨d, hd, rfl⟩ := hcover pos hpos
      exact absurd hfind (findLoop_ne_full (.inr ⟨d, Nat.zero_le d, by omega, hnone⟩))
    | some pos =>
      obtain ⟨hpos, _, hfree⟩ := find_missing hprobe hfind
      refine ⟨pos, hpos, rfl, ?_⟩
      cases hcell : cells pos with
      | used key' value => exact absurd hcell (hfree key' value)
      | empty | tombstone => rfl

omit [DecidableEq κ] in
/-- Turning cells into tombstones. -/
theorem Sound.bury {cells' : Nat → Cell κ ν} (hsound : Sound cap cells probe)
    (h : ∀ pos, cells' pos = cells pos ∨ cells' pos = .tombstone) :
    Sound cap cells' probe := by
  have hkeep : ∀ pos key value, cells' pos = .used key value → cells pos = .used key value := by
    intro pos key value hcell
    rcases h pos with hsame | htomb
    · rw [← hsame]
      exact hcell
    · rw [htomb] at hcell
      cases hcell
  refine ⟨fun pos hpos key value hcell => ?_, fun pos hpos pos' hpos' key v v' hcell hcell' =>
      hsound.single pos hpos pos' hpos' key v v' (hkeep _ _ _ hcell) (hkeep _ _ _ hcell')⟩
  obtain ⟨d, hd, hat, hway⟩ := hsound.reaches pos hpos key value (hkeep _ _ _ hcell)
  refine ⟨d, hd, hat, fun e he => ?_⟩
  rcases h (probe key e) with hsame | htomb
  · rw [hsame]
    exact hway e he
  · rw [htomb]
    simp

end Trpc.Lib.Tombstones
