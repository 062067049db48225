import Mathlib.Data.List.Basic

/-!
# Runs of labelled transition systems

A system is a relation `step s a t`: in state `s` the action `a` may lead to
`t`.  `Run` is the finite runs, `Guard` cuts a system down to the steps that
meet a condition, and `Along` states that every step of a run meets one.  The
two rules used throughout are `Run.invariant`, which lifts a step lemma to runs,
and `along_congr`, which exchanges two step conditions that agree on the states
of an invariant.  A measure that every step adds to bounds the length of runs and,
where it is bounded itself, leads every run on to a state without a step.
-/

namespace VpnRouter.Lib.Transition

variable {σ α : Type*}

/-- The finite runs of a system, with the list of their actions. -/
inductive Run (step : σ → α → σ → Prop) : σ → List α → σ → Prop
  | nil (s : σ) : Run step s [] s
  | cons {s t u : σ} {a : α} {as : List α} :
      step s a t → Run step t as u → Run step s (a :: as) u

def Reachable (step : σ → α → σ → Prop) (s t : σ) : Prop :=
  ∃ as, Run step s as t

def Guard (ok : σ → α → Prop) (step : σ → α → σ → Prop) : σ → α → σ → Prop :=
  fun s a t => ok s a ∧ step s a t

/-- No step leads on from `s`. -/
def Terminal (step : σ → α → σ → Prop) (s : σ) : Prop :=
  ∀ a t, ¬ step s a t

/-- Every step of every run over `as` from `s` meets `P` in the state before it. -/
def Along (step : σ → α → σ → Prop) (P : σ → α → Prop) : σ → List α → Prop
  | _, [] => True
  | s, a :: as => P s a ∧ ∀ t, step s a t → Along step P t as

namespace Run

variable {step : σ → α → σ → Prop}

theorem one {s t : σ} {a : α} (h : step s a t) : Run step s [a] t :=
  .cons h (.nil t)

theorem append {s t u : σ} {as bs : List α} (h : Run step s as t) (h' : Run step t bs u) :
    Run step s (as ++ bs) u := by
  induction h with
  | nil s => exact h'
  | cons hstep _ ih => exact .cons hstep (ih h')

theorem replicate {s : σ} {a : α} (h : step s a s) (n : ℕ) : Run step s (List.replicate n a) s := by
  induction n with
  | zero => exact .nil s
  | succ n ih => exact .cons h ih

theorem invariant {I : σ → Prop} (hstep : ∀ s a t, I s → step s a t → I t)
    {s t : σ} {as : List α} (hrun : Run step s as t) (hs : I s) : I t := by
  induction hrun with
  | nil s => exact hs
  | cons h _ ih => exact ih (hstep _ _ _ hs h)

theorem weaken {step' : σ → α → σ → Prop} (h : ∀ s a t, step s a t → step' s a t) {s t : σ}
    {as : List α} (hrun : Run step s as t) : Run step' s as t := by
  induction hrun with
  | nil s => exact .nil s
  | cons hstep _ ih => exact .cons (h _ _ _ hstep) ih

/-- A run at whose end something holds that did not hold at its start has a step
that brought it about. -/
theorem exists_change {P : σ → Prop} {s t : σ} {as : List α} (hrun : Run step s as t)
    (hs : ¬ P s) (ht : P t) :
    ∃ before a after u v, as = before ++ a :: after ∧ Run step s before u ∧ ¬ P u ∧
      step u a v ∧ P v ∧ Run step v after t := by
  induction hrun with
  | nil s => exact absurd ht hs
  | @cons s u t a as hstep hrest ih =>
      by_cases hu : P u
      · exact ⟨[], a, as, s, u, rfl, .nil s, hs, hstep, hu, hrest⟩
      · obtain ⟨before, b, after, v, w, rfl, hbefore, hv, hchange, hw, hafter⟩ := ih hu ht
        exact ⟨a :: before, b, after, v, w, rfl, .cons hstep hbefore, hv, hchange, hw, hafter⟩

/-- Where every action has a step that keeps the invariant, every list of
actions has a run. -/
theorem exists_of_enabled {I : σ → Prop} (hstep : ∀ s a, I s → ∃ t, step s a t ∧ I t)
    {s : σ} (hs : I s) (as : List α) : ∃ t, Run step s as t := by
  induction as generalizing s with
  | nil => exact ⟨s, .nil s⟩
  | cons a as ih =>
      obtain ⟨t, ht, hinv⟩ := hstep s a hs
      obtain ⟨u, hrest⟩ := ih hinv
      exact ⟨u, .cons ht hrest⟩

theorem of_foldlM {f : σ → α → Option σ} {ok : α → Prop} {s t : σ} {as : List α}
    (hok : ∀ a ∈ as, ok a) (h : as.foldlM f s = some t) :
    Run (fun s a t => ok a ∧ f s a = some t) s as t := by
  induction as generalizing s with
  | nil => exact Option.some.inj h ▸ .nil s
  | cons a as ih =>
      rw [List.foldlM_cons] at h
      obtain ⟨u, hu, hrest⟩ := Option.bind_eq_some_iff.mp h
      exact .cons ⟨hok a List.mem_cons_self, hu⟩
        (ih (fun b hb => hok b (List.mem_cons_of_mem a hb)) hrest)

/-- Where every step adds to `gain`, a run is no longer than what it adds. -/
theorem length_add_gain_le (gain : σ → ℕ)
    (hstep : ∀ s a t, step s a t → gain s + 1 ≤ gain t)
    {s t : σ} {as : List α} (hrun : Run step s as t) :
    as.length + gain s ≤ gain t := by
  induction hrun with
  | nil s => simp
  | cons h _ ih =>
      have hle := hstep _ _ _ h
      rw [List.length_cons]
      omega

/-- Where every step adds to a `gain` that is bounded on an invariant, every run
can be completed. -/
theorem exists_terminal {I : σ → Prop} (gain : σ → ℕ) (bound : ℕ)
    (hgain : ∀ s a t, step s a t → gain s + 1 ≤ gain t)
    (hinv : ∀ s a t, I s → step s a t → I t) (hbound : ∀ s, I s → gain s ≤ bound)
    {s : σ} (hs : I s) : ∃ as t, Run step s as t ∧ Terminal step t := by
  -- the room left under the bound, which every step makes smaller
  induction hroom : bound - gain s using Nat.strongRecOn generalizing s with
  | ind room ih =>
      by_cases hterminal : Terminal step s
      · exact ⟨[], s, .nil s, hterminal⟩
      · simp only [Terminal, not_forall, not_not] at hterminal
        obtain ⟨a, t, hstep⟩ := hterminal
        have ht := hinv s a t hs hstep
        have hmore := hgain s a t hstep
        have hle := hbound t ht
        obtain ⟨as, u, hrun, hu⟩ := ih (bound - gain t) (by omega) ht rfl
        exact ⟨a :: as, u, .cons hstep hrun, hu⟩

end Run

theorem Reachable.invariant {step : σ → α → σ → Prop} {I : σ → Prop}
    (hstep : ∀ s a t, I s → step s a t → I t) {s t : σ}
    (h : Reachable step s t) (hs : I s) : I t := by
  obtain ⟨as, hrun⟩ := h
  exact hrun.invariant hstep hs

/-- Two step conditions that agree on the states of an invariant hold along the
same runs; the invariant need only survive the steps that meet the second. -/
theorem along_congr {step : σ → α → σ → Prop} {I : σ → Prop} {P Q : σ → α → Prop}
    (hiff : ∀ s a, I s → (P s a ↔ Q s a))
    (hstep : ∀ s a t, I s → Q s a → step s a t → I t)
    {s : σ} (hs : I s) (as : List α) : Along step P s as ↔ Along step Q s as := by
  induction as generalizing s with
  | nil => exact Iff.rfl
  | cons a as ih =>
      constructor
      · rintro ⟨hP, hrest⟩
        have hQ := (hiff s a hs).mp hP
        exact ⟨hQ, fun t ht => (ih (hstep s a t hs hQ ht)).mp (hrest t ht)⟩
      · rintro ⟨hQ, hrest⟩
        exact ⟨(hiff s a hs).mpr hQ,
          fun t ht => (ih (hstep s a t hs hQ ht)).mpr (hrest t ht)⟩

/-- Where every action has one outcome at most, a run whose steps meet a condition
is the only one over its actions. -/
theorem along_of_run {step : σ → α → σ → Prop} {P : σ → α → Prop}
    (hdet : ∀ s a t u, step s a t → step s a u → u = t) {s t : σ} {as : List α}
    (hrun : Run (Guard P step) s as t) : Along step P s as := by
  induction hrun with
  | nil s => trivial
  | cons hstep _ ih =>
      refine ⟨hstep.1, fun u hu => ?_⟩
      rw [hdet _ _ _ _ hstep.2 hu]
      exact ih

end VpnRouter.Lib.Transition
