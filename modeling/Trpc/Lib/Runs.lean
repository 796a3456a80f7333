import Mathlib

/-!
# Runs of a transition function

A system is given by a transition function `step : σ → α → Option σ`.  The
answer `none` means that the action is not enabled in the state.  `runSteps`
folds the function over a list of actions, so a run is a list of actions and
the reachable states are the answers of `runSteps`.

`runSteps_invariant` is the induction that carries a property over a whole run,
`runSteps_invariant_of` that over the runs whose steps meet a condition
(`StepsMeet`), and `runSteps_rel` that for a relation between the two ends.
-/

namespace Trpc.Lib

variable {σ α τ β : Type}

/-- Run the actions in order.  The run stops at the first action that is not
enabled. -/
def runSteps (step : σ → α → Option σ) : σ → List α → Option σ
  | s, [] => some s
  | s, a :: rest =>
    match step s a with
    | none => none
    | some s' => runSteps step s' rest

@[simp] theorem runSteps_nil (step : σ → α → Option σ) (s : σ) : runSteps step s [] = some s := rfl

/-- A run whose last state has the value `y` under `f`. -/
theorem exists_of_map {o : Option σ} {f : σ → τ} {y : τ} {P : σ → Prop}
    (h : o.map f = some y) (hP : ∀ s, o = some s → f s = y → P s) : ∃ s, o = some s ∧ P s := by
  obtain ⟨s, hs, hf⟩ := Option.map_eq_some_iff.1 h
  exact ⟨s, hs, hP s hs hf⟩

/-- A run of one action and more, read from its first step. -/
theorem runSteps_cons_eq_some {step : σ → α → Option σ} {s s' : σ} {a : α} {rest : List α} :
    runSteps step s (a :: rest) = some s' ↔
      ∃ mid, step s a = some mid ∧ runSteps step mid rest = some s' := by
  rw [runSteps]
  cases hstep : step s a with
  | none => simp
  | some mid => simp

/-- A run splits at every list boundary. -/
theorem runSteps_append {step : σ → α → Option σ} {s s' : σ} {as bs : List α} :
    runSteps step s (as ++ bs) = some s' ↔
      ∃ mid, runSteps step s as = some mid ∧ runSteps step mid bs = some s' := by
  induction as generalizing s with
  | nil => simp
  | cons a rest ih =>
    rw [List.cons_append, runSteps_cons_eq_some]
    constructor
    · rintro ⟨t, ht, hrest⟩
      obtain ⟨mid, hmid, hbs⟩ := ih.mp hrest
      exact ⟨mid, runSteps_cons_eq_some.mpr ⟨t, ht, hmid⟩, hbs⟩
    · rintro ⟨mid, hmid, hbs⟩
      obtain ⟨t, ht, hrest⟩ := runSteps_cons_eq_some.mp hmid
      exact ⟨t, ht, ih.mpr ⟨mid, hrest, hbs⟩⟩

/-- A run of one action is that step. -/
theorem runSteps_singleton {step : σ → α → Option σ} {s s' : σ} {a : α} :
    runSteps step s [a] = some s' ↔ step s a = some s' := by
  rw [runSteps_cons_eq_some]
  simp

/-! ## Invariants -/

/-- What every step keeps, every run keeps. -/
theorem runSteps_invariant {step : σ → α → Option σ} {Inv : σ → Prop}
    (hstep : ∀ s a s', Inv s → step s a = some s' → Inv s')
    {s s' : σ} {as : List α} (h : Inv s) (hrun : runSteps step s as = some s') :
    Inv s' := by
  induction as generalizing s with
  | nil =>
    obtain rfl : s = s' := by simpa using hrun
    exact h
  | cons a rest ih =>
    obtain ⟨mid, hmid, hrest⟩ := runSteps_cons_eq_some.mp hrun
    exact ih (hstep s a mid h hmid) hrest

/-- Every step of the run meets `Cond`, which reads the state before the step
and the action. -/
def StepsMeet (step : σ → α → Option σ) (Cond : σ → α → Prop) : σ → List α → Prop
  | _, [] => True
  | s, a :: rest =>
    Cond s a ∧ ∀ mid, step s a = some mid → StepsMeet step Cond mid rest

/-- A decidable condition can be checked along a run. -/
instance decidableStepsMeet (step : σ → α → Option σ) (Cond : σ → α → Prop)
    [∀ s a, Decidable (Cond s a)] :
    ∀ s as, Decidable (StepsMeet step Cond s as)
  | _, [] => isTrue trivial
  | s, a :: rest =>
    match h : step s a with
    | none => decidable_of_iff (Cond s a) (by simp [StepsMeet, h])
    | some mid =>
      have := decidableStepsMeet step Cond mid rest
      decidable_of_iff (Cond s a ∧ StepsMeet step Cond mid rest) (by simp [StepsMeet, h])

/-- A condition on the actions alone is met when every action of the list
meets it. -/
theorem stepsMeet_of_forall_mem {step : σ → α → Option σ} {Cond : α → Prop}
    {s : σ} {as : List α} (h : ∀ a ∈ as, Cond a) :
    StepsMeet step (fun _ => Cond) s as := by
  induction as generalizing s with
  | nil => trivial
  | cons a rest ih =>
    refine ⟨h a (by simp), fun mid _ => ih ?_⟩
    exact fun b hb => h b (by simp [hb])

/-- What every step that meets `Cond` keeps, every run of such steps keeps. -/
theorem runSteps_invariant_of {step : σ → α → Option σ} {Cond : σ → α → Prop} {Inv : σ → Prop}
    (hstep : ∀ s a s', Inv s → Cond s a → step s a = some s' → Inv s')
    {s s' : σ} {as : List α} (h : Inv s) (hmeet : StepsMeet step Cond s as)
    (hrun : runSteps step s as = some s') : Inv s' := by
  induction as generalizing s with
  | nil =>
    obtain rfl : s = s' := by simpa using hrun
    exact h
  | cons a rest ih =>
    obtain ⟨mid, hmid, hrest⟩ := runSteps_cons_eq_some.mp hrun
    exact ih (hstep s a mid h hmeet.1 hmid) (hmeet.2 mid hmid) hrest

/-- A transitive relation that every step of an invariant state keeps relates
the two ends of every run. -/
theorem runSteps_rel {step : σ → α → Option σ} {Inv : σ → Prop}
    {Rel : σ → σ → Prop} (hrefl : ∀ s, Rel s s)
    (htrans : ∀ s t u, Rel s t → Rel t u → Rel s u)
    (hinv : ∀ s a s', Inv s → step s a = some s' → Inv s')
    (hstep : ∀ s a s', Inv s → step s a = some s' → Rel s s')
    {s s' : σ} {as : List α} (h : Inv s) (hrun : runSteps step s as = some s') :
    Rel s s' := by
  induction as generalizing s with
  | nil =>
    obtain rfl : s = s' := by simpa using hrun
    exact hrefl s
  | cons a rest ih =>
    obtain ⟨mid, hmid, hrest⟩ := runSteps_cons_eq_some.mp hrun
    exact htrans s mid s' (hstep s a mid h hmid) (ih (hinv s a mid h hmid) hrest)

/-! ## Histories -/

theorem mem_concat {l : List α} {a x : α} : x ∈ l ++ [a] ↔ x ∈ l ∨ x = a := by
  rw [List.mem_append, List.mem_singleton]

theorem forall_mem_concat {l : List α} {a : α} {P : α → Prop} :
    (∀ x ∈ l ++ [a], P x) ↔ (∀ x ∈ l, P x) ∧ P a := by
  rw [List.forall_mem_append, List.forall_mem_singleton]

end Trpc.Lib
