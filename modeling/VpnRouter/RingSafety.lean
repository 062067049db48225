import VpnRouter.RingLock

/-!
# Reads and writes of the packet ring

A thread that comes out of its wait does not test the ring again.  So no copy
reads an empty ring or overwrites a full one exactly when every return from a wait
finds the ring ready (`copies_safe_iff`).  A signalled one does as long as waits do
not drop the lock of the other thread and spurious wake-ups come when the ring is
ready (`Sound`).
-/

namespace VpnRouter.PacketRing

open Lib.RingBuffer Lib.Transition

/-- No copy is about to go wrong, and what was pulled is a prefix of what was
pushed. -/
def Safe (s : Ring) : Prop :=
  (s.pc .consumer = .copy → s.i ≠ s.j) ∧
    (s.pc .producer = .copy → (s.i + 1) % PACKET_CACHE ≠ s.j) ∧ s.pulled <+: s.pushed

/-- A thread that returns from its wait, and has the lock again, does not have to
wait. -/
def ReturnsReady (s : Ring) : Act → Prop
  | .run t => s.pc t = .woken → s.lock = none → ¬ mustWait s t
  | _ => True

/-- A spurious wake-up comes when the test of the thread has become false, and a
wait does not drop the lock of the other thread. -/
def WakesReady (s : Ring) : Act → Prop
  | .spurious t => ¬ mustWait s t
  | .wait t drops => drops = true → s.lock ≠ some t.other
  | _ => True

theorem keepsLock_of_wakesReady {s : Ring} {a : Act} (h : WakesReady s a) : KeepsLock s a := by
  cases a with
  | wait t drops => exact h
  | _ => trivial

/-! ## Returns that find the ring ready -/

/-- The ring is a queue of the two histories, and a thread about to copy may. -/
structure Guarded (s : Ring) : Prop where
  queue : Holds PACKET_CACHE s.buffer s.i s.j s.pushed s.pulled
  ready : ∀ t, s.pc t = .copy → ¬ mustWait s t

theorem safe_of_guarded {s : Ring} (h : Guarded s) : Safe s :=
  ⟨h.ready .consumer, h.ready .producer, h.queue.order⟩

theorem guarded_init : Guarded initMutithread where
  queue := holds_nil (by decide) _
  ready := by
    intro t ht
    contradiction

theorem guarded_goto {s : Ring} (h : Guarded s) {t : Thread} {pc : Pc} {lock : Option Thread}
    {frame : List UInt8} (hready : pc = .copy → ¬ mustWait s t) :
    Guarded (goto { s with lock := lock, frame := frame } t pc) := by
  refine ⟨h.queue, fun u hu => ?_⟩
  rw [mustWait_goto, mustWait_push]
  rcases t.eq_or_other u with rfl | rfl
  · rw [goto_pc_self] at hu
    exact hready hu
  · rw [goto_pc_other] at hu
    exact h.ready t.other hu

/-- A copy of a thread that may go on keeps the queue, and the other thread need not
wait after it. -/
theorem holds_copyFrame {s : Ring} (h : Guarded s) {t : Thread} (hready : ¬ mustWait s t) :
    Holds PACKET_CACHE (copyFrame s t).buffer (copyFrame s t).i (copyFrame s t).j
        (copyFrame s t).pushed (copyFrame s t).pulled ∧
      ¬ mustWait (copyFrame s t) t.other := by
  cases t with
  | producer => exact ⟨h.queue.push hready s.frame, hready⟩
  | consumer => exact ⟨h.queue.pull hready, h.queue.pull_ne hready⟩

theorem guarded_copy {s : Ring} (h : Guarded s) {t : Thread} (hpc : s.pc t = .copy) :
    Guarded (goto (copyFrame s t) t .signal) := by
  obtain ⟨hqueue, hnext⟩ := holds_copyFrame h (h.ready t hpc)
  refine ⟨hqueue, fun u hu => ?_⟩
  rw [mustWait_goto]
  rcases t.eq_or_other u with rfl | rfl
  · rw [goto_pc_self] at hu
    contradiction
  · exact hnext

theorem guarded_condSignal {s : Ring} (h : Guarded s) (t : Thread) : Guarded (condSignal s t) := by
  unfold condSignal
  split
  · exact guarded_goto h (by simp)
  · exact h

theorem guarded_step {s s' : Ring} {a : Act} (h : Guarded s) (hok : ReturnsReady s a)
    (hstep : step s a = some s') : Guarded s' := by
  cases moves_of_step hstep with
  | pass t _ hwait => exact guarded_goto h fun _ => hwait
  | wake t hpc hlock => exact guarded_goto h fun _ => hok hpc hlock
  | copy t hpc => exact guarded_copy h hpc
  | signal t _ => exact guarded_goto (guarded_condSignal h t) (by simp)
  | _ => exact guarded_goto h (by simp)

/-- The state after a step is safe. -/
def StaysSafe (s : Ring) (a : Act) : Prop := ∀ s', RingStep s a s' → Safe s'

theorem staysSafe_iff {s : Ring} (h : Guarded s) (a : Act) : StaysSafe s a ↔ ReturnsReady s a := by
  constructor
  · intro hsafe
    cases a with
    | run t =>
        intro hpc hlock hwait
        have hreturn : RingStep s (.run t) (goto { s with lock := some t } t .copy) := by
          rw [RingStep, step, runThread, hpc]
          exact if_pos hlock
        obtain ⟨hconsumer, hproducer, -⟩ := hsafe _ hreturn
        cases t with
        | producer => exact hproducer (goto_pc_self _ _ _) hwait
        | consumer => exact hconsumer (goto_pc_self _ _ _) hwait
    | _ => trivial
  · intro hready s' hstep
    exact safe_of_guarded (guarded_step h hready hstep)

/-- Over every sequence of steps, every state reached is safe exactly when every
return from a wait finds the ring ready. -/
theorem copies_safe_iff (as : List Act) :
    Along RingStep StaysSafe initMutithread as ↔ Along RingStep ReturnsReady initMutithread as :=
  along_congr (I := Guarded) (fun _ a h => staysSafe_iff h a)
    (fun _ _ _ h hok hstep => guarded_step h hok hstep) guarded_init as

/-- The consumer wakes up without a signal on an empty ring, and has the lock again
only after the producer has pushed a frame. -/
def lateReturn : List Act :=
  [.run .consumer, .run .consumer, .run .consumer, .wait .consumer false, .spurious .consumer,
    .push [1], .run .producer, .run .producer, .run .producer, .run .producer,
    .run .consumer, .run .consumer]

theorem late_return_safe :
    ∃ s, Run RingStep initMutithread lateReturn s ∧ s.pulled = [[1]] ∧
      Along RingStep StaysSafe initMutithread lateReturn := by
  have hreturn (s : Ring) (t : Thread) (h : s.pc t ≠ .woken) : ReturnsReady s (.run t) :=
    fun hpc => absurd hpc h
  have hrun : ∃ s, Run (Guard ReturnsReady RingStep) initMutithread lateReturn s ∧
      s.pulled = [[1]] :=
    ⟨_, .cons ⟨hreturn _ _ (by decide), rfl⟩ (.cons ⟨hreturn _ _ (by decide), rfl⟩
      (.cons ⟨hreturn _ _ (by decide), rfl⟩ (.cons ⟨trivial, rfl⟩ (.cons ⟨trivial, rfl⟩
      (.cons ⟨trivial, rfl⟩ (.cons ⟨hreturn _ _ (by decide), rfl⟩
      (.cons ⟨hreturn _ _ (by decide), rfl⟩ (.cons ⟨hreturn _ _ (by decide), rfl⟩
      (.cons ⟨hreturn _ _ (by decide), rfl⟩ (.cons ⟨fun _ _ => by decide, rfl⟩
      (.cons ⟨hreturn _ _ (by decide), rfl⟩ (.nil _)))))))))))), rfl⟩
  have hdet (s : Ring) (a : Act) (t u : Ring) (ht : RingStep s a t) (hu : RingStep s a u) :
      u = t := Option.some.inj (hu.symm.trans ht)
  obtain ⟨s, hs, hpulled⟩ := hrun
  exact ⟨s, hs.weaken fun _ _ _ hstep => hstep.2, hpulled,
    (copies_safe_iff lateReturn).mpr (along_of_run hdet hs)⟩

/-- The consumer waits on an empty ring, wakes up without a signal and is about
to copy from it. -/
theorem spurious_wakeup_reads_empty :
    ∃ as s, Run RingStep initMutithread as s ∧ s.pc .consumer = .copy ∧ s.i = s.j :=
  ⟨[.run .consumer, .run .consumer, .run .consumer, .wait .consumer false, .spurious .consumer,
      .run .consumer], _,
    .cons rfl (.cons rfl (.cons rfl (.cons rfl (.cons rfl (.cons rfl (.nil _)))))), rfl, rfl⟩

/-! ## Wake-ups that find the ring ready -/

/-- In a run whose wake-ups find the ring ready, the lock is held by the thread in
its critical section, a thread that was woken may go on, and so may the thread that
is about to be signalled. -/
structure Sound (s : Ring) : Prop extends Guarded s where
  locked : Locked s
  woken : ∀ t, s.pc t = .woken → ¬ mustWait s t
  signalled : ∀ t, s.pc t = .signal → ¬ mustWait s t.other

theorem returnsReady_of_sound {s : Ring} (h : Sound s) (a : Act) : ReturnsReady s a := by
  cases a with
  | run t => exact fun hpc _ => h.woken t hpc
  | _ => trivial

theorem sound_init : Sound initMutithread where
  toGuarded := guarded_init
  locked := locked_init
  woken := by
    intro t ht
    contradiction
  signalled := by
    intro t ht
    contradiction

section Sound

variable {s s' : Ring} {t : Thread}

theorem sound_goto (h : Sound s) {pc : Pc} {lock : Option Thread} {frame : List UInt8}
    (hguarded : Guarded (goto { s with lock := lock, frame := frame } t pc))
    (hlocked : Locked (goto { s with lock := lock, frame := frame } t pc))
    (hwoken : pc = .woken → ¬ mustWait s t) (hsignal : pc ≠ .signal) :
    Sound (goto { s with lock := lock, frame := frame } t pc) := by
  refine ⟨hguarded, hlocked, fun u hu => ?_, fun u hu => ?_⟩
  · rw [mustWait_goto, mustWait_push]
    rcases t.eq_or_other u with rfl | rfl
    · rw [goto_pc_self] at hu
      exact hwoken hu
    · rw [goto_pc_other] at hu
      exact h.woken t.other hu
  · rw [mustWait_goto, mustWait_push]
    rcases t.eq_or_other u with rfl | rfl
    · rw [goto_pc_self] at hu
      exact absurd hu hsignal
    · rw [goto_pc_other] at hu
      exact h.signalled t.other hu

/-- While a thread is in its critical section the other is not about to signal. -/
theorem not_signal_other (h : Sound s) (ht : (s.pc t).critical = true) :
    s.pc t.other ≠ .signal := by
  intro hsignal
  have hother : s.lock = some t.other := (h.locked t.other).mpr (by rw [hsignal]; rfl)
  exact lock_ne_other ((h.locked t).mpr ht) hother

theorem sound_copy (h : Sound s) (hpc : s.pc t = .copy)
    (hlocked : Locked (goto (copyFrame s t) t .signal)) :
    Sound (goto (copyFrame s t) t .signal) := by
  have hnext := (holds_copyFrame h.toGuarded (h.ready t hpc)).2
  refine ⟨guarded_copy h.toGuarded hpc, hlocked, fun u hu => ?_, fun u hu => ?_⟩
  · rw [mustWait_goto]
    rcases t.eq_or_other u with rfl | rfl
    · rw [goto_pc_self] at hu
      contradiction
    · exact hnext
  · rw [mustWait_goto]
    rcases t.eq_or_other u with rfl | rfl
    · exact hnext
    · rw [goto_pc_other, copyFrame_pc] at hu
      exact absurd hu (not_signal_other h (by rw [hpc]; rfl))

theorem sound_signal (h : Sound s) (hpc : s.pc t = .signal)
    (hguarded : Guarded (goto (condSignal s t) t .unlock))
    (hlocked : Locked (goto (condSignal s t) t .unlock)) :
    Sound (goto (condSignal s t) t .unlock) := by
  refine ⟨hguarded, hlocked, fun u hu => ?_, fun u hu => ?_⟩
  · rw [mustWait_goto, mustWait_condSignal]
    rcases t.eq_or_other u with rfl | rfl
    · rw [goto_pc_self] at hu
      contradiction
    · exact h.signalled t hpc
  · rcases t.eq_or_other u with rfl | rfl
    · rw [goto_pc_self] at hu
      contradiction
    · rw [goto_pc_other, condSignal_pc_other] at hu
      split at hu
      · contradiction
      · exact absurd hu (not_signal_other h (by rw [hpc]; rfl))

theorem sound_step {a : Act} (h : Sound s) (hok : WakesReady s a) (hstep : step s a = some s') :
    Sound s' := by
  have hguarded : Guarded s' := guarded_step h.toGuarded (returnsReady_of_sound h a) hstep
  have hlocked : Locked s' := locked_step h.locked (keepsLock_of_wakesReady hok) hstep
  cases moves_of_step hstep with
  | spurious t _ => exact sound_goto h hguarded hlocked (fun _ => hok) (by simp)
  | copy t hpc => exact sound_copy h hpc hlocked
  | signal t hpc => exact sound_signal h hpc hguarded hlocked
  | _ => exact sound_goto h hguarded hlocked (by simp) (by simp)

end Sound

end VpnRouter.PacketRing
