import VpnRouter.Lib.Transition
import Mathlib.Data.Set.Basic

/-!
# Simulation

Systems seen through the events that their steps emit.  Where every step of one
system is matched by a run of another with the same events, so is every run
(`Simulates.observed`), and two systems that simulate each other have the same
event lists (`traces_eq`).
-/

namespace VpnRouter.Lib.Transition

variable {σ τ α β ε : Type*}

/-- The finite runs of a system, with the events of their steps. -/
inductive Observed (step : σ → α → σ → Prop) (out : σ → α → List ε) : σ → List ε → σ → Prop
  | nil (s : σ) : Observed step out s [] s
  | cons {s t u : σ} {a : α} {es : List ε} :
      step s a t → Observed step out t es u → Observed step out s (out s a ++ es) u

/-- The event lists of the runs from `s`. -/
def Traces (step : σ → α → σ → Prop) (out : σ → α → List ε) (s : σ) : Set (List ε) :=
  {es | ∃ t, Observed step out s es t}

/-- Every step of the first system from related states is matched by a run of
the second with the same events. -/
def Simulates (step : σ → α → σ → Prop) (out : σ → α → List ε) (step' : τ → β → τ → Prop)
    (out' : τ → β → List ε) (R : σ → τ → Prop) : Prop :=
  ∀ s t a s', R s t → step s a s' → ∃ t', Observed step' out' t (out s a) t' ∧ R s' t'

namespace Observed

variable {step : σ → α → σ → Prop} {out : σ → α → List ε}

theorem one {s t : σ} {a : α} {es : List ε} (h : step s a t) (hout : out s a = es) :
    Observed step out s es t := by
  have hrun : Observed step out s (out s a ++ []) t := .cons h (.nil t)
  rwa [hout, List.append_nil] at hrun

theorem append {s t u : σ} {es fs : List ε} (h : Observed step out s es t)
    (h' : Observed step out t fs u) : Observed step out s (es ++ fs) u := by
  induction h with
  | nil s => exact h'
  | cons hstep _ ih =>
      rw [List.append_assoc]
      exact .cons hstep (ih h')

/-- A step without events goes before a run. -/
theorem silent {s t u : σ} {a : α} {es : List ε} (h : step s a t) (hout : out s a = [])
    (hrun : Observed step out t es u) : Observed step out s es u := by
  have hcons : Observed step out s (out s a ++ es) u := .cons h hrun
  rwa [hout, List.nil_append] at hcons

theorem run {s t : σ} {es : List ε} (h : Observed step out s es t) : ∃ as, Run step s as t := by
  induction h with
  | nil s => exact ⟨[], .nil s⟩
  | cons hstep _ ih =>
      obtain ⟨as, hrun⟩ := ih
      exact ⟨_, .cons hstep hrun⟩

theorem invariant {I : σ → Prop} (hstep : ∀ s a t, I s → step s a t → I t)
    {s t : σ} {es : List ε} (h : Observed step out s es t) (hs : I s) : I t := by
  obtain ⟨as, hrun⟩ := h.run
  exact hrun.invariant hstep hs

end Observed

section Simulates

variable {step : σ → α → σ → Prop} {out : σ → α → List ε} {step' : τ → β → τ → Prop}
  {out' : τ → β → List ε} {R : σ → τ → Prop} {R' : τ → σ → Prop}

theorem Simulates.observed (h : Simulates step out step' out' R) {s s' : σ} {t : τ}
    {es : List ε} (hrun : Observed step out s es s') (hR : R s t) :
    ∃ t', Observed step' out' t es t' ∧ R s' t' := by
  induction hrun generalizing t with
  | nil s => exact ⟨t, .nil t, hR⟩
  | cons hstep _ ih =>
      obtain ⟨u, hfirst, hu⟩ := h _ _ _ _ hR hstep
      obtain ⟨t', hrest, ht'⟩ := ih hu
      exact ⟨t', hfirst.append hrest, ht'⟩

theorem Simulates.traces_subset (h : Simulates step out step' out' R) {s : σ} {t : τ}
    (hR : R s t) : Traces step out s ⊆ Traces step' out' t := by
  rintro es ⟨s', hrun⟩
  obtain ⟨t', hrun', _⟩ := h.observed hrun hR
  exact ⟨t', hrun'⟩

/-- Two systems that simulate each other have the same event lists. -/
theorem traces_eq (h : Simulates step out step' out' R) (h' : Simulates step' out' step out R')
    {s : σ} {t : τ} (hR : R s t) (hR' : R' t s) : Traces step out s = Traces step' out' t :=
  (h.traces_subset hR).antisymm (h'.traces_subset hR')

end Simulates

end VpnRouter.Lib.Transition
