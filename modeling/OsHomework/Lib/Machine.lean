import Mathlib.Logic.Basic

/-
  Labelled transition systems given by a partial step
  function, their finite runs, and the two proof rules the
  models of this development use on them.

  A machine is a function `step : σ → α → Option σ`; `none`
  says that action `a` cannot be taken in state `s` (an
  event the system cannot issue there).  A run applies a
  list of actions in order and fails at the first one that
  cannot be taken.

  Main declarations:
    * `Machine.run` and `Machine.Reachable`
    * `Machine.reachable_of_run`
    * `Machine.Reachable.invariant` (the invariant rule)
    * `Machine.run_simulates` (the forward-simulation rule)
    * `Machine.restrict`: the runs whose every action meets a
      condition on the state it is taken in
-/

------------------------------------------------------------
-- Runs
------------------------------------------------------------

namespace OsHomework

namespace Machine

variable {σ τ α : Type}

/- Apply a list of actions in order, failing at the first refused one. -/
def run
    (step : σ → α → Option σ) :
    σ → List α → Option σ
  | s, [] => some s
  | s, a :: as => (step s a).bind (fun s' => run step s' as)

@[simp]
theorem run_nil
    (step : σ → α → Option σ)
    (s : σ) :
    run step s [] = some s := rfl

@[simp]
theorem run_cons
    (step : σ → α → Option σ)
    (s : σ)
    (a : α)
    (as : List α) :
    run step s (a :: as) =
      (step s a).bind (fun s' => run step s' as) := rfl

/- A run of a concatenation is the second run from the end of the first. -/
theorem run_append
    (step : σ → α → Option σ)
    (s : σ)
    (as bs : List α) :
    run step s (as ++ bs) =
      (run step s as).bind (fun s' => run step s' bs) := by
  induction as generalizing s with
  | nil => simp
  | cons a as ih =>
      cases hStep : step s a with
      | none => simp [hStep]
      | some s' => simp [hStep, ih]

/- A run that succeeds splits into its first step and the rest. -/
theorem run_cons_eq_some
    {step : σ → α → Option σ}
    {s s'' : σ}
    {a : α}
    {as : List α}
    (hRun : run step s (a :: as) = some s'') :
    ∃ s', step s a = some s' ∧ run step s' as = some s'' := by
  cases hStep : step s a with
  | none => simp [hStep] at hRun
  | some s' => exact ⟨s', rfl, by simpa [hStep] using hRun⟩

end Machine

end OsHomework

------------------------------------------------------------
-- Reachable States
------------------------------------------------------------

namespace OsHomework

namespace Machine

variable {σ τ α : Type}

/- The states reachable from `init` by steps the machine takes. -/
inductive Reachable
    (step : σ → α → Option σ)
    (init : σ) : σ → Prop
  | init : Reachable step init init
  | step {s s' : σ} (a : α) :
      Reachable step init s →
        step s a = some s' →
          Reachable step init s'

/- The end state of every successful run is reachable. -/
theorem reachable_of_run
    {step : σ → α → Option σ}
    {init s : σ}
    {as : List α}
    (hRun : run step init as = some s) :
    Reachable step init s := by
  -- generalize the start to any reachable state
  suffices hGen :
      ∀ (as : List α) (s₀ : σ),
        Reachable step init s₀ →
          run step s₀ as = some s →
            Reachable step init s from
    hGen as init .init hRun
  intro as
  induction as with
  | nil =>
      intro s₀ hReach hRun
      simp only [run_nil, Option.some.injEq] at hRun
      exact hRun ▸ hReach
  | cons a as ih =>
      intro s₀ hReach hRun
      obtain ⟨s₁, hStep, hRest⟩ := run_cons_eq_some hRun
      exact ih s₁ (.step a hReach hStep) hRest

/-
  The invariant rule: a property of the initial state that
  every step preserves holds in every reachable state.
-/
theorem Reachable.invariant
    {step : σ → α → Option σ}
    {init s : σ}
    (P : σ → Prop)
    (hInit : P init)
    (hStep :
      ∀ s s' a, P s → step s a = some s' → P s')
    (hReach : Reachable step init s) :
    P s := by
  induction hReach with
  | init => exact hInit
  | step a _ hTaken ih => exact hStep _ _ a ih hTaken

end Machine

end OsHomework

------------------------------------------------------------
-- Forward Simulation
------------------------------------------------------------

namespace OsHomework

namespace Machine

variable {σ τ α : Type}

/-
  Forward simulation over the runs whose actions all satisfy
  `Good`: when every good step of the first machine from a
  related pair is matched by a step of the second machine on
  the same action, every such run of the first is matched by
  a run of the second, and the relation holds between the two
  end states.
-/
theorem run_simulates
    {step₁ : σ → α → Option σ}
    {step₂ : τ → α → Option τ}
    (R : σ → τ → Prop)
    (Good : α → Prop)
    (hStep :
      ∀ s t s' a, Good a → R s t → step₁ s a = some s' →
        ∃ t', step₂ t a = some t' ∧ R s' t')
    (as : List α)
    (hGood : ∀ a ∈ as, Good a) :
    ∀ s t s', R s t → run step₁ s as = some s' →
      ∃ t', run step₂ t as = some t' ∧ R s' t' := by
  induction as with
  | nil =>
      intro s t s' hRel hRun
      simp only [run_nil, Option.some.injEq] at hRun
      exact ⟨t, rfl, hRun ▸ hRel⟩
  | cons a as ih =>
      intro s t s' hRel hRun
      have hHead : Good a := hGood a (List.mem_cons_self ..)
      have hTail : ∀ b ∈ as, Good b :=
        fun b hb => hGood b (List.mem_cons_of_mem a hb)
      rcases run_cons_eq_some hRun with ⟨s₁, hStep₁, hRest⟩
      rcases hStep s t s₁ a hHead hRel hStep₁ with
        ⟨t₁, hStep₂, hRel₁⟩
      rcases ih hTail s₁ t₁ s' hRel₁ hRest with ⟨t', hRun₂, hRel'⟩
      exact ⟨t', by simp [hStep₂, hRun₂], hRel'⟩

end Machine

end OsHomework

------------------------------------------------------------
-- Restricted Machines
------------------------------------------------------------

namespace OsHomework

namespace Machine

variable {σ α : Type}

/-
  The machine that takes an action only where `ok` allows it in
  the state at hand: its runs are the runs of `step` along which
  every action meets `ok`.
-/
def restrict
    (step : σ → α → Option σ)
    (ok : σ → α → Bool) : σ → α → Option σ :=
  fun s a => if ok s a then step s a else none

theorem restrict_eq_some
    {step : σ → α → Option σ}
    {ok : σ → α → Bool}
    {s s' : σ}
    {a : α}
    (h : restrict step ok s a = some s') :
    ok s a = true ∧ step s a = some s' := by
  unfold restrict at h
  by_cases hOk : ok s a = true
  · rw [if_pos hOk] at h
    exact ⟨hOk, h⟩
  · rw [if_neg hOk] at h
    cases h

/- Where `ok` allows an action, the restricted machine takes it as the machine does. -/
theorem restrict_eq_of_ok
    {step : σ → α → Option σ}
    {ok : σ → α → Bool}
    {s : σ}
    {a : α}
    (hOk : ok s a = true) :
    restrict step ok s a = step s a := by
  unfold restrict
  rw [if_pos hOk]

/- A run whose every action meets a condition on the action alone is a run of the restricted machine. -/
theorem run_restrict_of_forall
    {step : σ → α → Option σ}
    {good : α → Bool} :
    ∀ {s : σ} {as : List α}, (∀ a ∈ as, good a = true) →
      run (restrict step fun _ a => good a) s as = run step s as
  | _, [], _ => rfl
  | s, a :: as, h => by
      have hRest : ∀ s', run (restrict step fun _ a => good a) s' as = run step s' as :=
        fun _ => run_restrict_of_forall fun b hb => h b (List.mem_cons_of_mem a hb)
      simp only [run_cons, restrict, h a List.mem_cons_self, ↓reduceIte, hRest]

end Machine

end OsHomework
