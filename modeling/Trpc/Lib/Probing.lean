import Mathlib

/-!
# Linear probing with backward-shift deletion

A table of `cap` cells, addressed modulo `cap`.  A cell is vacant or holds a key,
and a key is looked for from its home cell on, up to the first vacant cell.

* `probe` is the search, `shift` the loop that closes the gap a removed cell
  leaves.  Both take fuel, since on a full table neither would end.
* `Sound` is the invariant: the cells from the home of a stored key to its own
  cell are all occupied, no key is stored twice, and one cell is vacant.

All proofs look at the table from a vacant cell: `unwrap vacant x` is the cell
`x` steps behind it.  No search passes that cell, so in these coordinates a home
lies before its cell and nothing wraps around.
-/

namespace Trpc.Lib.Probing

open Function

variable {γ κ : Type}

/-- The cell behind a cell. -/
def next (cap pos : Nat) : Nat :=
  (pos + 1) % cap

/-- The number of steps from one cell forward to another. -/
def dist (cap start stop : Nat) : Nat :=
  (stop + cap - start) % cap

/-- How a search ends. -/
inductive Found
  | hit (pos : Nat)
  | vacant (pos : Nat)
  | exhausted
  deriving DecidableEq, Repr

/-- Look for a key from a cell on, in at most `fuel` cells. -/
def probe [DecidableEq κ] (cap : Nat) (key : γ → Option κ) (table : Nat → γ) (k : κ) :
    Nat → Nat → Found
  | 0, _ => .exhausted
  | fuel + 1, pos =>
    match key (table pos) with
    | none => .vacant pos
    | some k' => if k' = k then .hit pos else probe cap key table k fuel (next cap pos)

/-- Close the gap `hole`: every cell up to the next vacant one that may stand in
the gap moves there and leaves a new gap.  The answer is the table and the last
gap, which still holds its old contents. -/
def shift (cap : Nat) (home : κ → Nat) (key : γ → Option κ) :
    Nat → (Nat → γ) → Nat → Nat → Option ((Nat → γ) × Nat)
  | 0, _, _, _ => none
  | fuel + 1, table, hole, scan =>
    match key (table scan) with
    | none => some (table, hole)
    | some k =>
      if dist cap (home k) hole < dist cap (home k) scan then
        shift cap home key fuel (update table hole (table scan)) scan (next cap scan)
      else shift cap home key fuel table hole (next cap scan)

/-- The invariant of a table. -/
structure Sound (cap : Nat) (home : κ → Nat) (key : γ → Option κ) (table : Nat → γ) :
    Prop where
  home_lt : ∀ k, home k < cap
  path : ∀ pos < cap, ∀ k, key (table pos) = some k →
    ∀ d < dist cap (home k) pos, key (table ((home k + d) % cap)) ≠ none
  inj : ∀ i < cap, ∀ j < cap, ∀ k, key (table i) = some k → key (table j) = some k → i = j
  vacant : ∃ pos < cap, key (table pos) = none

/-! ## Cells seen from a vacant one -/

/-- The cell `x` steps behind the cell `base`. -/
def unwrap (cap base x : Nat) : Nat :=
  (base + 1 + x) % cap

section Coordinates

variable {cap base : Nat}

theorem mod_eq_ite {n : Nat} (h : n < 2 * cap) :
    n % cap = if n < cap then n else n - cap := by
  split
  · exact Nat.mod_eq_of_lt ‹_›
  · rw [Nat.mod_eq_sub_mod (by omega), Nat.mod_eq_of_lt (by omega)]

theorem dist_eq {a b : Nat} (ha : a < cap) (hb : b < cap) :
    dist cap a b = if a ≤ b then b - a else b + cap - a := by
  rw [dist, mod_eq_ite (by omega)]
  split <;> split <;> omega

theorem unwrap_eq (hbase : base < cap) {x : Nat} (hx : x < cap) :
    unwrap cap base x = if base + 1 + x < cap then base + 1 + x else base + 1 + x - cap :=
  mod_eq_ite (by omega)

theorem unwrap_lt (hbase : base < cap) (x : Nat) : unwrap cap base x < cap :=
  Nat.mod_lt _ (by omega)

theorem unwrap_inj (hbase : base < cap) {x y : Nat} (hx : x < cap) (hy : y < cap)
    (h : unwrap cap base x = unwrap cap base y) : x = y := by
  rw [unwrap_eq hbase hx, unwrap_eq hbase hy] at h
  split at h <;> split at h <;> omega

/-- The vacant cell is the last one. -/
theorem unwrap_last (hbase : base < cap) : unwrap cap base (cap - 1) = base := by
  rw [unwrap_eq hbase (by omega)]
  split <;> omega

theorem exists_unwrap (hbase : base < cap) {pos : Nat} (hpos : pos < cap) :
    ∃ x < cap, unwrap cap base x = pos := by
  refine ⟨dist cap ((base + 1) % cap) pos, Nat.mod_lt _ (by omega), ?_⟩
  rw [dist_eq (Nat.mod_lt _ (by omega)) hpos, mod_eq_ite (by omega), unwrap, mod_eq_ite]
  · split <;> split <;> split <;> omega
  · split <;> split <;> omega

theorem next_unwrap (hbase : base < cap) {x : Nat} (hx : x + 1 < cap) :
    next cap (unwrap cap base x) = unwrap cap base (x + 1) := by
  rw [next, unwrap_eq hbase (by omega), unwrap_eq hbase hx, mod_eq_ite]
  · split <;> split <;> split <;> omega
  · split <;> omega

theorem dist_unwrap (hbase : base < cap) {x y : Nat} (hx : x < cap) (hy : y < cap) :
    dist cap (unwrap cap base x) (unwrap cap base y) = if x ≤ y then y - x else y + cap - x := by
  rw [dist_eq (unwrap_lt hbase x) (unwrap_lt hbase y), unwrap_eq hbase hx, unwrap_eq hbase hy]
  split <;> split <;> split <;> split <;> omega

theorem unwrap_add (hbase : base < cap) {x d : Nat} (h : x + d < cap) :
    (unwrap cap base x + d) % cap = unwrap cap base (x + d) := by
  rw [unwrap_eq hbase (by omega), unwrap_eq hbase h, mod_eq_ite]
  · split <;> split <;> split <;> omega
  · split <;> omega

end Coordinates

section Tables

variable {cap base : Nat} {home : κ → Nat} {key : γ → Option κ} {table : Nat → γ}

variable {k : κ} {gap scan : Nat} {blank : γ}

/-- In the coordinates of a vacant cell a home lies before its cell, and the
cells between them are occupied. -/
theorem Sound.linear (h : Sound cap home key table) (hbase : base < cap)
    (hvacant : key (table base) = none) {x a : Nat} (hx : x < cap)
    (ha : a < cap) (hhome : unwrap cap base a = home k)
    (hkey : key (table (unwrap cap base x)) = some k) :
    a ≤ x ∧ ∀ y, a ≤ y → y < x → key (table (unwrap cap base y)) ≠ none := by
  have hpath := h.path _ (unwrap_lt hbase x) k hkey
  rw [← hhome, dist_unwrap hbase ha hx] at hpath
  have hle : a ≤ x := by
    by_contra hlt
    -- A search that wraps around passes the vacant cell.
    have hpass := hpath (cap - 1 - a) (by rw [if_neg hlt]; omega)
    rw [unwrap_add hbase (by omega), show a + (cap - 1 - a) = cap - 1 by omega,
      unwrap_last hbase] at hpass
    exact hpass hvacant
  refine ⟨hle, fun y hay hyx => ?_⟩
  have hpass := hpath (y - a) (by rw [if_pos hle]; omega)
  rwa [unwrap_add hbase (by omega), show a + (y - a) = y by omega] at hpass

/-- The other direction. -/
theorem path_of_linear (hbase : base < cap) {x a : Nat} (hx : x < cap)
    (hax : a ≤ x) (hhome : unwrap cap base a = home k)
    (hall : ∀ y, a ≤ y → y < x → key (table (unwrap cap base y)) ≠ none) :
    ∀ d < dist cap (home k) (unwrap cap base x), key (table ((home k + d) % cap)) ≠ none := by
  intro d hd
  rw [← hhome, dist_unwrap hbase (by omega) hx, if_pos hax] at hd
  rw [← hhome, unwrap_add hbase (by omega)]
  exact hall _ (by omega) (by omega)

/-! ## Searching -/

/-- A search runs over cells with other keys and ends at the key or at a vacant
cell: it never gets past the vacant cell at the end. -/
theorem probe_unwrap [DecidableEq κ] (hbase : base < cap)
    (hvacant : key (table base) = none) (k : κ) {fuel x : Nat} (hx : x < cap)
    (hfuel : cap - x ≤ fuel) :
    ∃ y, x ≤ y ∧ y < cap ∧ (∀ z, x ≤ z → z < y → key (table (unwrap cap base z)) ≠ none ∧
        key (table (unwrap cap base z)) ≠ some k) ∧
      ((key (table (unwrap cap base y)) = none ∧
          probe cap key table k fuel (unwrap cap base x) = .vacant (unwrap cap base y)) ∨
        (key (table (unwrap cap base y)) = some k ∧
          probe cap key table k fuel (unwrap cap base x) = .hit (unwrap cap base y))) := by
  induction fuel generalizing x with
  | zero => omega
  | succ fuel ih =>
    rw [probe]
    cases hkey : key (table (unwrap cap base x)) with
    | none => exact ⟨x, le_refl x, hx, fun z h1 h2 => absurd h2 (by omega), .inl ⟨hkey, rfl⟩⟩
    | some k' =>
      by_cases heq : k' = k
      · subst heq
        exact ⟨x, le_refl x, hx, fun z h1 h2 => absurd h2 (by omega), .inr ⟨hkey, if_pos rfl⟩⟩
      have hlast : x ≠ cap - 1 := by
        rintro rfl
        rw [unwrap_last hbase, hvacant] at hkey
        cases hkey
      obtain ⟨y, hxy, hy, hbetween, hend⟩ := @ih (x + 1) (by omega) (by omega)
      dsimp only
      rw [if_neg heq, next_unwrap hbase (by omega)]
      refine ⟨y, by omega, hy, fun z hxz hzy => ?_, hend⟩
      by_cases hz : z = x
      · subst hz
        rw [hkey]
        exact ⟨nofun, fun h => heq (Option.some.inj h)⟩
      · exact hbetween z (by omega) hzy

/-- A stored key is found in its cell. -/
theorem Sound.probe_hit [DecidableEq κ] (h : Sound cap home key table) {pos : Nat}
    (hpos : pos < cap) (hkey : key (table pos) = some k) :
    probe cap key table k cap (home k) = .hit pos := by
  obtain ⟨base, hbase, hvacant⟩ := h.vacant
  obtain ⟨x, hx, rfl⟩ := exists_unwrap hbase hpos
  obtain ⟨a, ha, hhome⟩ := exists_unwrap hbase (h.home_lt k)
  obtain ⟨hax, hall⟩ := h.linear hbase hvacant hx ha hhome hkey
  obtain ⟨y, hay, hy, hbetween, hend⟩ :=
    probe_unwrap hbase hvacant k ha (Nat.sub_le cap a)
  have hyx : y = x := by
    rcases Nat.lt_trichotomy y x with hlt | heq | hgt
    · rcases hend with ⟨hnone, -⟩ | ⟨hsome, -⟩
      · exact absurd hnone (hall y hay hlt)
      · exact unwrap_inj hbase hy hx
          (h.inj _ (unwrap_lt hbase y) _ (unwrap_lt hbase x) k hsome hkey)
    · exact heq
    · exact absurd hkey (hbetween x hax hgt).2
  subst hyx
  rw [hhome] at hend
  rcases hend with ⟨hnone, -⟩ | ⟨-, hhit⟩
  · rw [hnone] at hkey
    cases hkey
  · exact hhit

/-- A key that is not stored ends its search at a vacant cell. -/
theorem Sound.probe_vacant [DecidableEq κ] (h : Sound cap home key table)
    (habsent : ∀ pos < cap, key (table pos) ≠ some k) :
    ∃ pos < cap, key (table pos) = none ∧ probe cap key table k cap (home k) = .vacant pos ∧
      ∀ d < dist cap (home k) pos, key (table ((home k + d) % cap)) ≠ none := by
  obtain ⟨base, hbase, hvacant⟩ := h.vacant
  obtain ⟨a, ha, hhome⟩ := exists_unwrap hbase (h.home_lt k)
  obtain ⟨y, hay, hy, hbetween, ⟨hnone, hprobe⟩ | ⟨hsome, -⟩⟩ :=
    probe_unwrap hbase hvacant k ha (Nat.sub_le cap a)
  · exact ⟨unwrap cap base y, unwrap_lt hbase y, hnone, hhome ▸ hprobe,
      path_of_linear hbase hy hay hhome fun z haz hzy => (hbetween z haz hzy).1⟩
  · exact absurd hsome (habsent _ (unwrap_lt hbase y))

/-! ## Inserting -/

/-- A new key may be stored in the cell at which its search ended, as long as another cell
stays vacant. -/
theorem Sound.insert (h : Sound cap home key table) {pos : Nat} {cell : γ}
    (hcell : key cell = some k) (habsent : ∀ i < cap, key (table i) ≠ some k)
    (hpath : ∀ d < dist cap (home k) pos, key (table ((home k + d) % cap)) ≠ none)
    (hroom : ∃ other < cap, other ≠ pos ∧ key (table other) = none) :
    Sound cap home key (update table pos cell) := by
  have hcells (i : Nat) : update table pos cell i = if i = pos then cell else table i :=
    update_apply ..
  have hkept {i : Nat} (hne : key (table i) ≠ none) : key (update table pos cell i) ≠ none := by
    grind
  refine ⟨h.home_lt, fun i hi k' hkey d hd => hkept ?_, fun i hi j hj k' hki hkj => ?_, ?_⟩
  · by_cases heq : i = pos
    · grind
    · rw [update_of_ne heq] at hkey
      exact h.path i hi k' hkey d hd
  · grind [h.inj i hi j hj k']
  · obtain ⟨other, hother, hne, hvacant⟩ := hroom
    exact ⟨other, hother, by rwa [update_of_ne hne]⟩

/-! ## Removing -/

/-- A table with a gap at coordinate `gap`, in the middle of closing it: the
cells from the gap up to `scan` are occupied and stay where they are, since
their homes lie behind the gap. -/
structure Gapped (cap base : Nat) (home : κ → Nat) (key : γ → Option κ)
    (table : Nat → γ) (gap scan : Nat) : Prop where
  lt : gap < scan
  scan_lt : scan < cap
  last : key (table base) = none
  path : ∀ x < cap, x ≠ gap → ∀ k, key (table (unwrap cap base x)) = some k →
    ∀ a < cap, unwrap cap base a = home k →
      a ≤ x ∧ ∀ y, a ≤ y → y < x → y ≠ gap → key (table (unwrap cap base y)) ≠ none
  inj : ∀ x < cap, ∀ y < cap, x ≠ gap → y ≠ gap → ∀ k, key (table (unwrap cap base x)) = some k →
    key (table (unwrap cap base y)) = some k → x = y
  between : ∀ x, gap < x → x < scan → ∃ k, key (table (unwrap cap base x)) = some k ∧
    ∀ a < cap, unwrap cap base a = home k → gap < a

theorem update_unwrap (hbase : base < cap) {x y : Nat} (hx : x < cap) (hy : y < cap) (cell : γ) :
    update table (unwrap cap base x) cell (unwrap cap base y) =
      if y = x then cell else table (unwrap cap base y) := by
  by_cases h : y = x
  · rw [h, if_pos rfl, update_self]
  · rw [if_neg h, update_of_ne]
    exact fun heq => h (unwrap_inj hbase hy hx heq)

/-- The cell at `scan` may stand in the gap: it moves, and leaves the new gap. -/
theorem Gapped.move (hbase : base < cap) (h : Gapped cap base home key table gap scan) {a : Nat}
    (hkey : key (table (unwrap cap base scan)) = some k) (ha : a < cap)
    (hhome : unwrap cap base a = home k) (hgap : a ≤ gap) (hlast : scan + 1 < cap) :
    Gapped cap base home key
      (update table (unwrap cap base gap) (table (unwrap cap base scan)))
      scan (scan + 1) := by
  have hlt := h.lt
  have hscan := h.scan_lt
  have hcell {y : Nat} (hy : y < cap) : update table (unwrap cap base gap)
      (table (unwrap cap base scan)) (unwrap cap base y) =
        if y = gap then table (unwrap cap base scan) else table (unwrap cap base y) :=
    update_unwrap hbase (by omega) hy _
  refine ⟨Nat.lt_succ_self scan, hlast, ?_, fun x hx hne k' hk' b hb hbhome => ?_,
    fun x hx y hy hxs hys k' hkx hky => ?_, fun x h1 h2 => absurd h2 (by omega)⟩
  · have hcap := hcell (y := cap - 1) (by omega)
    rw [unwrap_last hbase] at hcap
    rw [hcap, if_neg (by omega)]
    exact h.last
  · rw [hcell hx] at hk'
    by_cases hxg : x = gap
    · -- The moved cell: its path ends where it did, at the old gap.
      rw [if_pos hxg, hkey] at hk'
      cases hk'
      have hpath := (h.path scan h.scan_lt (by omega) k hkey b hb hbhome).2
      have hab : a = b := unwrap_inj hbase ha hb (hhome.trans hbhome.symm)
      refine ⟨by omega, fun y hby hyx _ => ?_⟩
      rw [hcell (by omega), if_neg (by omega)]
      exact hpath y hby (by omega) (by omega)
    · rw [if_neg hxg] at hk'
      obtain ⟨hbx, hpath⟩ := h.path x hx hxg k' hk' b hb hbhome
      refine ⟨hbx, fun y hby hyx _ => ?_⟩
      rw [hcell (by omega)]
      grind
  · rw [hcell hx] at hkx
    rw [hcell hy] at hky
    grind [h.inj x hx y hy, h.inj scan hscan y hy, h.inj x hx scan hscan]

/-- The cell at `scan` stays where it is. -/
theorem Gapped.skip (hbase : base < cap) (h : Gapped cap base home key table gap scan) {a : Nat}
    (hkey : key (table (unwrap cap base scan)) = some k) (ha : a < cap)
    (hhome : unwrap cap base a = home k) (hgap : gap < a) (hlast : scan + 1 < cap) :
    Gapped cap base home key table gap (scan + 1) := by
  refine ⟨Nat.lt_succ_of_lt h.lt, hlast, h.last, h.path, h.inj, fun x hgx hxs => ?_⟩
  by_cases hx : x = scan
  · subst hx
    refine ⟨k, hkey, fun b hb hbhome => ?_⟩
    rwa [unwrap_inj hbase hb ha (hbhome.trans hhome.symm)]
  · exact h.between x hgx (by omega)

/-- At a vacant cell the gap may be made vacant: no path leads over it. -/
theorem Gapped.close (hbase : base < cap)
    (hhomes : ∀ k, home k < cap) (h : Gapped cap base home key table gap scan)
    (hscan : key (table (unwrap cap base scan)) = none)
    (hblank : key blank = none) :
    Sound cap home key (update table (unwrap cap base gap) blank) := by
  have hlt := h.lt
  have hscan' := h.scan_lt
  have hcell {y : Nat} (hy : y < cap) :
      update table (unwrap cap base gap) blank (unwrap cap base y) =
        if y = gap then blank else table (unwrap cap base y) :=
    update_unwrap hbase (by omega) hy _
  refine ⟨hhomes, fun pos hpos k hkey => ?_, fun i hi j hj k hki hkj => ?_,
    ⟨unwrap cap base gap, unwrap_lt hbase gap, by rw [update_self, hblank]⟩⟩
  · obtain ⟨x, hx, rfl⟩ := exists_unwrap hbase hpos
    obtain ⟨a, ha, hhome⟩ := exists_unwrap hbase (hhomes k)
    rw [hcell hx] at hkey
    have hxg : x ≠ gap := by grind
    rw [if_neg hxg] at hkey
    obtain ⟨hax, hpath⟩ := h.path x hx hxg k hkey a ha hhome
    refine path_of_linear hbase hx hax hhome fun y hay hyx => ?_
    rw [hcell (by omega)]
    split
    · -- A path over the gap ends behind the gap, but not before `scan` and not behind it.
      exfalso
      rename_i hyg
      by_cases hxs : x < scan
      · grind [h.between x (by omega) hxs]
      · grind [hpath scan]
    · exact hpath y hay hyx ‹_›
  · obtain ⟨x, hx, rfl⟩ := exists_unwrap hbase hi
    obtain ⟨y, hy, rfl⟩ := exists_unwrap hbase hj
    rw [hcell hx] at hki
    rw [hcell hy] at hkj
    grind [h.inj x hx y hy]

/-- The loop ends, closes the gap and keeps every cell outside it. -/
theorem Gapped.shift {gap scan fuel : Nat} (hbase : base < cap)
    (hhomes : ∀ k, home k < cap) (h : Gapped cap base home key table gap scan)
    (hfuel : cap - scan ≤ fuel) (hblank : key blank = none) :
    ∃ table' hole, Probing.shift cap home key fuel table (unwrap cap base gap)
        (unwrap cap base scan) = some (table', hole) ∧
      Sound cap home key (update table' hole blank) ∧
      ∀ cell, key cell ≠ none → ((∃ pos < cap, update table' hole blank pos = cell) ↔
          ∃ x < cap, x ≠ gap ∧ table (unwrap cap base x) = cell) := by
  induction fuel generalizing table gap scan with
  | zero =>
    have := h.scan_lt
    omega
  | succ fuel ih =>
    have hlt := h.lt
    have hscan := h.scan_lt
    rw [Probing.shift]
    cases hkey : key (table (unwrap cap base scan)) with
    | none =>
      refine ⟨table, _, rfl, h.close hbase hhomes hkey hblank, fun cell hcell => ?_⟩
      constructor
      · rintro ⟨pos, hpos, rfl⟩
        obtain ⟨x, hx, rfl⟩ := exists_unwrap hbase hpos
        rw [update_unwrap hbase (by omega) hx] at hcell ⊢
        exact ⟨x, hx, by grind, by grind⟩
      · rintro ⟨x, hx, hxg, rfl⟩
        refine ⟨_, unwrap_lt hbase x, ?_⟩
        rw [update_unwrap hbase (by omega) hx, if_neg hxg]
    | some k =>
      have hlast : scan ≠ cap - 1 := by
        rintro rfl
        rw [unwrap_last hbase, h.last] at hkey
        cases hkey
      obtain ⟨a, ha, hhome⟩ := exists_unwrap hbase (hhomes k)
      have has := (h.path scan hscan (by omega) k hkey a ha hhome).1
      dsimp only
      rw [← hhome, dist_unwrap hbase ha (by omega), dist_unwrap hbase ha hscan,
        if_pos has, next_unwrap hbase (by omega)]
      by_cases hag : a ≤ gap
      · rw [if_pos hag, if_pos (by omega)]
        obtain ⟨table', hole, hrun, hsound, hcells⟩ :=
          ih (h.move hbase hkey ha hhome hag (by omega)) (by omega)
        refine ⟨table', hole, hrun, hsound, fun cell hcell => (hcells cell hcell).trans ?_⟩
        -- The cells outside the new gap are the cells outside the old one.
        constructor
        · rintro ⟨x, hx, hxs, rfl⟩
          rw [update_unwrap hbase (by omega) hx]
          split
          · exact ⟨scan, hscan, by omega, rfl⟩
          · exact ⟨x, hx, ‹_›, rfl⟩
        · rintro ⟨x, hx, hxg, rfl⟩
          by_cases hxs : x = scan
          · refine ⟨gap, by omega, by omega, ?_⟩
            rw [update_unwrap hbase (by omega) (by omega), if_pos rfl, hxs]
          · refine ⟨x, hx, hxs, ?_⟩
            rw [update_unwrap hbase (by omega) hx, if_neg hxg]
      · rw [if_neg hag, if_neg (by omega)]
        exact ih (h.skip hbase hkey ha hhome (by omega) (by omega)) (by omega)

/-- Taking a cell out of a table: the loop ends, and the table keeps its
invariant and all other cells. -/
theorem Sound.remove (h : Sound cap home key table) {hole : Nat}
    (hhole : hole < cap) (hkey : key (table hole) = some k)
    (hblank : key blank = none) :
    ∃ table' hole', Probing.shift cap home key cap table hole (next cap hole) =
        some (table', hole') ∧
      Sound cap home key (update table' hole' blank) ∧
      ∀ cell, key cell ≠ none → ((∃ pos < cap, update table' hole' blank pos = cell) ↔
          ∃ pos < cap, pos ≠ hole ∧ table pos = cell) := by
  obtain ⟨base, hbase, hvacant⟩ := h.vacant
  obtain ⟨gap, hgap, rfl⟩ := exists_unwrap hbase hhole
  have hlast : gap ≠ cap - 1 := by
    rintro rfl
    rw [unwrap_last hbase, hvacant] at hkey
    cases hkey
  have hgapped : Gapped cap base home key table gap (gap + 1) := by
    refine ⟨Nat.lt_succ_self gap, by omega, hvacant, fun x hx _ k' hk' a ha hhome => ?_,
      fun x hx y hy _ _ k' hkx hky => ?_, fun x h1 h2 => absurd h2 (by omega)⟩
    · obtain ⟨hax, hall⟩ := h.linear hbase hvacant hx ha hhome hk'
      exact ⟨hax, fun y hay hyx _ => hall y hay hyx⟩
    · exact unwrap_inj hbase hx hy (h.inj _ (unwrap_lt hbase x) _ (unwrap_lt hbase y) k' hkx hky)
  obtain ⟨table', hole', hrun, hsound, hcells⟩ :=
    hgapped.shift hbase h.home_lt (Nat.sub_le cap _) hblank
  rw [next_unwrap hbase (by omega)]
  refine ⟨table', hole', hrun, hsound, fun cell hcell => (hcells cell hcell).trans ?_⟩
  constructor
  · rintro ⟨x, hx, hxg, rfl⟩
    exact ⟨_, unwrap_lt hbase x, fun heq => hxg (unwrap_inj hbase hx hgap heq), rfl⟩
  · rintro ⟨pos, hpos, hne, rfl⟩
    obtain ⟨x, hx, rfl⟩ := exists_unwrap hbase hpos
    exact ⟨x, hx, fun heq => hne (heq ▸ rfl), rfl⟩

/-- A table whose cells point injectively into fewer targets than it has cells
has a vacant one. -/
theorem exists_vacant {count : Nat} (target : γ → Nat) (hcount : count < cap)
    (htarget : ∀ pos < cap, key (table pos) ≠ none → target (table pos) < count)
    (hinj : ∀ i < cap, ∀ j < cap, key (table i) ≠ none → key (table j) ≠ none →
      target (table i) = target (table j) → i = j) :
    ∃ pos < cap, key (table pos) = none := by
  by_contra hfull
  have hfull' : ∀ pos < cap, key (table pos) ≠ none :=
    fun pos hpos hnone => hfull ⟨pos, hpos, hnone⟩
  have hcard := Finset.card_le_card_of_injOn (s := Finset.range cap)
    (t := Finset.range count) (fun pos => target (table pos))
    (fun pos hpos => by
      have hpos' : pos < cap := by simpa using hpos
      simpa using htarget pos hpos' (hfull' pos hpos'))
    (fun i hi j hj heq => by
      have hi' : i < cap := by simpa using hi
      have hj' : j < cap := by simpa using hj
      exact hinj i hi' j hj' (hfull' i hi') (hfull' j hj') heq)
  rw [Finset.card_range, Finset.card_range] at hcard
  omega

end Tables

end Trpc.Lib.Probing
