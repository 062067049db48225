import Mathlib.Algebra.GroupWithZero.Nat
import Mathlib.Data.List.Basic

/-!
# Safety monitors

A program that answers actions with events, and a monitor that follows the
events and says of each whether the ones before allow it.
-/

namespace VpnRouter.Lib

variable {σ α ε γ : Type*}

/-- A law on event lists: what is remembered of the past, and what it allows. -/
structure Monitor (γ ε : Type*) where
  observe : γ → ε → γ
  allowed : γ → ε → Prop

namespace Monitor

variable (M : Monitor γ ε)

def after (g : γ) (es : List ε) : γ := es.foldl M.observe g

def Accepts : γ → List ε → Prop
  | _, [] => True
  | g, e :: es => M.allowed g e ∧ Accepts (M.observe g e) es

theorem accepts_append (g : γ) (es fs : List ε) :
    M.Accepts g (es ++ fs) ↔ M.Accepts g es ∧ M.Accepts (M.after g es) fs := by
  induction es generalizing g with
  | nil => simp [Accepts, after]
  | cons e es ih =>
      simp only [List.cons_append, Accepts]
      rw [ih, and_assoc]
      rfl

/-- The events of a program over a list of actions. -/
def trace (exec : σ → α → σ × List ε) : σ → List α → List ε
  | _, [] => []
  | s, a :: as => (exec s a).2 ++ trace exec (exec s a).1 as

/-- The state a program is left in by a list of actions. -/
def final (exec : σ → α → σ × List ε) (s : σ) (as : List α) : σ :=
  as.foldl (fun s a => (exec s a).1) s

theorem after_append (g : γ) (es fs : List ε) :
    M.after g (es ++ fs) = M.after (M.after g es) fs :=
  List.foldl_append

theorem trace_append (exec : σ → α → σ × List ε) (s : σ) (as bs : List α) :
    trace exec s (as ++ bs) = trace exec s as ++ trace exec (final exec s as) bs := by
  induction as generalizing s with
  | nil => rfl
  | cons a as ih => exact (congrArg _ (ih _)).trans (List.append_assoc _ _ _).symm

/-- Doing more adds events at the end. -/
theorem trace_isPrefix {exec : σ → α → σ × List ε} {s : σ} {as bs : List α} (h : as <+: bs) :
    trace exec s as <+: trace exec s bs := by
  obtain ⟨rest, rfl⟩ := h
  rw [trace_append]
  exact List.prefix_append _ _

theorem final_append (exec : σ → α → σ × List ε) (s : σ) (as bs : List α) :
    final exec s (as ++ bs) = final exec (final exec s as) bs :=
  List.foldl_append

theorem final_cons (exec : σ → α → σ × List ε) (s : σ) (a : α) (as : List α) :
    final exec s (a :: as) = final exec (exec s a).1 as := rfl

/-- A counter that every action advances by its own amount. -/
theorem count_final {exec : σ → α → σ × List ε} {n : σ → ℕ} {k : α → ℕ}
    (hstep : ∀ s a, n (exec s a).1 = n s + k a) (s : σ) (as : List α) :
    n (final exec s as) = n s + (as.map k).sum := by
  induction as generalizing s with
  | nil => rfl
  | cons a as ih =>
      have hcons : final exec s (a :: as) = final exec (exec s a).1 as := rfl
      rw [hcons, ih, hstep, List.map_cons, List.sum_cons, Nat.add_assoc]

/-- Every event of a run comes from one of its actions. -/
theorem exists_of_mem_trace {exec : σ → α → σ × List ε} {s : σ} {as : List α} {e : ε}
    (h : e ∈ trace exec s as) : ∃ a ∈ as, ∃ s', e ∈ (exec s' a).2 := by
  induction as generalizing s with
  | nil => cases h
  | cons a as ih =>
      rcases List.mem_append.mp h with hnow | hlater
      · exact ⟨a, List.mem_cons_self, s, hnow⟩
      · obtain ⟨b, hb, hevent⟩ := ih hlater
        exact ⟨b, List.mem_cons_of_mem a hb, hevent⟩

/-- What an event leaves true and every action keeps is true in the end. -/
theorem of_mem_trace {exec : σ → α → σ × List ε} {P : σ → ε → Prop}
    (hthis : ∀ s a e, e ∈ (exec s a).2 → P (exec s a).1 e)
    (hkeep : ∀ s a e, P s e → P (exec s a).1 e) {s : σ} {as : List α} {e : ε}
    (h : e ∈ trace exec s as) : P (final exec s as) e := by
  have hfinal (s : σ) (as : List α) (hs : P s e) : P (final exec s as) e := by
    induction as generalizing s with
    | nil => exact hs
    | cons a as ih => exact ih _ (hkeep s a e hs)
  induction as generalizing s with
  | nil => cases h
  | cons a as ih =>
      rcases List.mem_append.mp h with hnow | hlater
      · exact hfinal _ as (hthis s a e hnow)
      · exact ih hlater

/-- A relation between program and monitor that every action keeps, with all its
events allowed, holds after every run, and every event of the run is allowed. -/
theorem accepts_trace {exec : σ → α → σ × List ε} {I : σ → γ → Prop}
    (hstep : ∀ s g a, I s g →
      M.Accepts g (exec s a).2 ∧ I (exec s a).1 (M.after g (exec s a).2))
    {s : σ} {g : γ} (h : I s g) (as : List α) :
    M.Accepts g (trace exec s as) ∧ I (final exec s as) (M.after g (trace exec s as)) := by
  induction as generalizing s g with
  | nil => exact ⟨trivial, h⟩
  | cons a as ih =>
      obtain ⟨haccepts, hnext⟩ := hstep s g a h
      obtain ⟨hrest, hend⟩ := ih hnext
      rw [trace, M.accepts_append, M.after_append]
      exact ⟨⟨haccepts, hrest⟩, hend⟩

/-- A step of the program with the monitor beside it. -/
def Watched (exec : σ → α → σ × List ε) (s : σ × γ) (a : α) (t : σ × γ) : Prop :=
  t = ((exec s.1 a).1, M.after s.2 (exec s.1 a).2)

end Monitor

end VpnRouter.Lib
