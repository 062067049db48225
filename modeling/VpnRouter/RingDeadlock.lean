import VpnRouter.PacketRing

/-!
# The lost wake-up

Between its test and its wait a thread holds no lock, and a signal that comes in
between is lost.  If the other thread then runs into its own wait, both stay
blocked.  As long as every wait is entered while its test still holds, a blocked
thread has its condition, or the signal for it is still to come.
-/

namespace VpnRouter.PacketRing

open Lib.Transition

def Deadlocked (s : Ring) : Prop := ∀ t, s.pc t = .blocked

/-- A wait is entered while the test that led to it still holds. -/
def EntersInTime (s : Ring) : Act → Prop
  | .wait t _ => mustWait s t
  | _ => True

/-- A blocked thread still has to wait, or the other is about to signal. -/
def Alert (s : Ring) : Prop :=
  ∀ t, s.pc t = .blocked → mustWait s t ∨ s.pc t.other = .signal

theorem alert_goto {s : Ring} {t : Thread} {pc : Pc} (h : Alert s) (hfrom : s.pc t ≠ .signal)
    (hto : pc = .blocked → mustWait s t) : Alert (goto s t pc) := by
  intro u hu
  rw [mustWait_goto]
  rcases t.eq_or_other u with rfl | rfl
  · rw [goto_pc_self] at hu
    exact Or.inl (hto hu)
  · rw [goto_pc_other] at hu
    rcases h _ hu with hwait | hsignal
    · exact Or.inl hwait
    · rw [t.other_other] at hsignal
      exact absurd hsignal hfrom

theorem alert_step {s s' : Ring} {a : Act} (h : Alert s) (hok : EntersInTime s a)
    (hstep : step s a = some s') : Alert s' := by
  have hlock (lock : Option Thread) : Alert { s with lock := lock } := fun t ht => by
    rw [mustWait_lock]
    exact h t ht
  cases moves_of_step hstep with
  | push frame hpc _ =>
      refine alert_goto (fun t ht => ?_) (by simp [hpc]) (by simp)
      rw [mustWait_push]
      exact h t ht
  | pull hpc _ => exact alert_goto (hlock _) (by simp [hpc]) (by simp)
  | mustWait t hpc _ => exact alert_goto h (by simp [hpc]) (by simp)
  | pass t hpc _ => exact alert_goto h (by simp [hpc]) (by simp)
  | release t hpc => exact alert_goto (hlock _) (by simp [hpc]) (by simp)
  | wait t drops hpc =>
      refine alert_goto (hlock _) (by simp [hpc]) fun _ => ?_
      rw [mustWait_lock]
      exact hok
  | spurious t hpc => exact alert_goto h (by simp [hpc]) (by simp)
  | wake t hpc _ => exact alert_goto (hlock _) (by simp [hpc]) (by simp)
  | copy t hpc =>
      -- the other thread's test may change, and the signal for it comes next
      intro u hu
      rcases t.eq_or_other u with rfl | rfl
      · rw [goto_pc_self] at hu
        contradiction
      · rw [t.other_other, goto_pc_self]
        exact Or.inr rfl
  | signal t hpc =>
      -- the other thread is not blocked any more
      intro u hu
      rcases t.eq_or_other u with rfl | rfl
      · rw [goto_pc_self] at hu
        contradiction
      · rw [goto_pc_other, condSignal_pc_other] at hu
        split at hu
        · contradiction
        · contradiction
  | unlock t hpc => exact alert_goto (hlock _) (by simp [hpc]) (by simp)

theorem not_deadlocked_of_alert {s : Ring} (h : Alert s) : ¬ Deadlocked s := by
  intro hdead
  have hwait (t : Thread) : mustWait s t := by
    rcases h t (hdead t) with hwait | hsignal
    · exact hwait
    · rw [hdead t.other] at hsignal
      contradiction
  have hfull : (s.i + 1) % PACKET_CACHE = s.j := hwait .producer
  have hempty : s.i = s.j := hwait .consumer
  unfold PACKET_CACHE at hfull
  omega

/-- In every run whose waits are entered in time, no state has both threads
blocked. -/
theorem no_deadlock (as : List Act) (s : Ring)
    (hrun : Run (Guard EntersInTime SignalStep) initMutithread as s) : ¬ Deadlocked s := by
  have hinit : Alert initMutithread := by
    intro t ht
    contradiction
  have hstep (s : Ring) (a : Act) (s' : Ring) (h : Alert s)
      (hs : Guard EntersInTime SignalStep s a s') : Alert s' := alert_step h hs.1 hs.2.2
  exact not_deadlocked_of_alert (hrun.invariant hstep hinit)

/-- The consumer finds the ring empty and waits. -/
def promptWait : List Act :=
  [.run .consumer, .run .consumer, .run .consumer, .wait .consumer false]

theorem prompt_consumer :
    ∃ s, Run (Guard EntersInTime SignalStep) initMutithread promptWait s ∧
      s.pc .consumer = .blocked ∧ ¬ Deadlocked s := by
  have hrun : ∃ s, Run (Guard EntersInTime SignalStep) initMutithread promptWait s ∧
      s.pc .consumer = .blocked :=
    ⟨_, .cons ⟨trivial, rfl, rfl⟩ (.cons ⟨trivial, rfl, rfl⟩ (.cons ⟨trivial, rfl, rfl⟩
      (.cons ⟨rfl, rfl, rfl⟩ (.nil _)))), rfl⟩
  obtain ⟨s, hs, hpc⟩ := hrun
  exact ⟨s, hs, hpc, no_deadlock promptWait s hs⟩

def fillRing : List Act :=
  (List.replicate 19
    [.push [1], .run .producer, .run .producer, .run .producer, .run .producer]).flatten

/-- The consumer leaves the lock on an empty ring and is not back before the
producer has filled the ring and waits. -/
def lostWakeup : List Act :=
  [.run .consumer, .run .consumer, .run .consumer] ++ fillRing ++
    [.push [1], .run .producer, .run .producer, .wait .producer false, .wait .consumer false]

theorem lost_wakeup_deadlocks :
    ∃ s, Run SignalStep initMutithread lostWakeup s ∧ Deadlocked s := by
  have hend : (lostWakeup.foldlM step initMutithread).map
      (fun s => (s.pc .producer, s.pc .consumer)) = some (.blocked, .blocked) := by
    decide +kernel
  obtain ⟨s, hs, hpc⟩ := Option.map_eq_some_iff.mp hend
  refine ⟨s, Run.of_foldlM (by decide) hs, fun t => ?_⟩
  cases t with
  | producer => exact congrArg Prod.fst hpc
  | consumer => exact congrArg Prod.snd hpc

end VpnRouter.PacketRing
