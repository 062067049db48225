import VpnRouter.Lib.RingBuffer
import VpnRouter.Lib.Transition

/-!
# The packet ring

`push_to_buf` and `pull_from_buf` of `multithread.h` as the atomic steps of two
threads.  The receive thread is the one producer and the handler thread the one
consumer.  Both release the lock before they enter the wait and test the ring
once, before the wait.
-/

namespace VpnRouter.PacketRing

open Lib.RingBuffer Lib.Transition

def PACKET_CACHE : Nat := 20

inductive Thread
  | producer
  | consumer
deriving DecidableEq, Repr

def Thread.other : Thread → Thread
  | .producer => .consumer
  | .consumer => .producer

/-- The next atomic step of a thread; `release` to `woken` are the branch that
waits. -/
inductive Pc
  | lock
  | test
  | release
  | wait
  | blocked
  | woken
  | copy
  | signal
  | unlock
deriving DecidableEq, Repr

/-- `pack_cache`, the position of both threads and the argument of the current
`push_to_buf`.  The last two fields are the frames that went in and out. -/
structure Ring where
  i : Nat
  j : Nat
  buffer : Nat → List UInt8
  lock : Option Thread
  pc : Thread → Pc
  frame : List UInt8
  pushed : List (List UInt8)
  pulled : List (List UInt8)

def initMutithread : Ring where
  i := 0
  j := 0
  buffer := fun _ => []
  lock := none
  pc := fun _ => .lock
  frame := []
  pushed := []
  pulled := []

/-- The test of a thread: the ring is full for the producer, empty for the
consumer. -/
def mustWait (s : Ring) : Thread → Prop
  | .producer => (s.i + 1) % PACKET_CACHE = s.j
  | .consumer => s.i = s.j

instance (s : Ring) (t : Thread) : Decidable (mustWait s t) :=
  match t with
  | .producer => inferInstanceAs (Decidable (_ = _))
  | .consumer => inferInstanceAs (Decidable (_ = _))

def goto (s : Ring) (t : Thread) (pc : Pc) : Ring := { s with pc := Function.update s.pc t pc }

def copyFrame (s : Ring) : Thread → Ring
  | .producer =>
      { s with
        buffer := Function.update s.buffer s.i s.frame
        i := (s.i + 1) % PACKET_CACHE
        pushed := s.pushed ++ [s.frame] }
  | .consumer =>
      { s with
        j := (s.j + 1) % PACKET_CACHE
        pulled := s.pulled ++ [s.buffer s.j] }

/-- Each thread signals the condition the other waits on. -/
def condSignal (s : Ring) (t : Thread) : Ring :=
  if s.pc t.other = .blocked then goto s t.other .woken else s

/-- A step of one of the threads.  The wait is entered without the lock, which
leaves its effect on the lock undefined: it keeps the lock as it is or drops it,
also when the other thread holds it. -/
inductive Act
  | push (frame : List UInt8)
  | run (t : Thread)
  | wait (t : Thread) (drops : Bool)
  | spurious (t : Thread)
deriving DecidableEq, Repr

def runThread (s : Ring) (t : Thread) : Option Ring :=
  match s.pc t with
  | .lock =>
      if t = .consumer ∧ s.lock = none then some (goto { s with lock := some t } t .test) else none
  | .test => some (goto s t (if mustWait s t then .release else .copy))
  | .release => some (goto { s with lock := none } t .wait)
  | .wait => none
  | .blocked => none
  | .woken => if s.lock = none then some (goto { s with lock := some t } t .copy) else none
  | .copy => some (goto (copyFrame s t) t .signal)
  | .signal => some (goto (condSignal s t) t .unlock)
  | .unlock => some (goto { s with lock := none } t .lock)

def step (s : Ring) : Act → Option Ring
  | .push frame =>
      if s.pc .producer = .lock ∧ s.lock = none then
        some (goto { s with lock := some .producer, frame := frame } .producer .test)
      else none
  | .run t => runThread s t
  | .wait t drops =>
      if s.pc t = .wait then
        some (goto { s with lock := if drops then none else s.lock } t .blocked)
      else none
  | .spurious t => if s.pc t = .blocked then some (goto s t .woken) else none

def RingStep (s : Ring) (a : Act) (s' : Ring) : Prop := step s a = some s'

def Act.isSpurious : Act → Bool
  | .spurious _ => true
  | _ => false

/-- The steps when a wait ends only after a signal. -/
def SignalStep (s : Ring) (a : Act) (s' : Ring) : Prop :=
  a.isSpurious = false ∧ step s a = some s'

/-! ## What a step can do -/

theorem Thread.eq_or_other (t u : Thread) : u = t ∨ u = t.other := by
  cases t <;> cases u <;> decide

theorem Thread.other_ne (t : Thread) : t.other ≠ t := by
  cases t <;> decide

theorem Thread.other_other (t : Thread) : t.other.other = t := by
  cases t <;> rfl

/-- The cases of `step`, one for each atomic step. -/
inductive Moves (s : Ring) : Act → Ring → Prop
  | push (frame : List UInt8) : s.pc .producer = .lock → s.lock = none →
      Moves s (.push frame) (goto { s with lock := some .producer, frame := frame } .producer .test)
  | pull : s.pc .consumer = .lock → s.lock = none →
      Moves s (.run .consumer) (goto { s with lock := some .consumer } .consumer .test)
  | mustWait (t : Thread) : s.pc t = .test → mustWait s t → Moves s (.run t) (goto s t .release)
  | pass (t : Thread) : s.pc t = .test → ¬ mustWait s t → Moves s (.run t) (goto s t .copy)
  | release (t : Thread) : s.pc t = .release →
      Moves s (.run t) (goto { s with lock := none } t .wait)
  | wait (t : Thread) (drops : Bool) : s.pc t = .wait →
      Moves s (.wait t drops)
        (goto { s with lock := if drops then none else s.lock } t .blocked)
  | spurious (t : Thread) : s.pc t = .blocked → Moves s (.spurious t) (goto s t .woken)
  | wake (t : Thread) : s.pc t = .woken → s.lock = none →
      Moves s (.run t) (goto { s with lock := some t } t .copy)
  | copy (t : Thread) : s.pc t = .copy → Moves s (.run t) (goto (copyFrame s t) t .signal)
  | signal (t : Thread) : s.pc t = .signal → Moves s (.run t) (goto (condSignal s t) t .unlock)
  | unlock (t : Thread) : s.pc t = .unlock →
      Moves s (.run t) (goto { s with lock := none } t .lock)

theorem moves_of_runThread {s s' : Ring} {t : Thread} (h : runThread s t = some s') :
    Moves s (.run t) s' := by
  unfold runThread at h
  cases hpc : s.pc t with
  | lock =>
      simp only [hpc, Option.ite_none_right_eq_some, Option.some.injEq] at h
      obtain ⟨⟨rfl, hlock⟩, rfl⟩ := h
      exact .pull hpc hlock
  | test =>
      simp only [hpc, Option.some.injEq] at h
      by_cases hwait : PacketRing.mustWait s t
      · rw [if_pos hwait] at h
        exact h ▸ .mustWait t hpc hwait
      · rw [if_neg hwait] at h
        exact h ▸ .pass t hpc hwait
  | release =>
      simp only [hpc, Option.some.injEq] at h
      exact h ▸ .release t hpc
  | wait => simp [hpc] at h
  | blocked => simp [hpc] at h
  | woken =>
      simp only [hpc, Option.ite_none_right_eq_some, Option.some.injEq] at h
      exact h.2 ▸ .wake t hpc h.1
  | copy =>
      simp only [hpc, Option.some.injEq] at h
      exact h ▸ .copy t hpc
  | signal =>
      simp only [hpc, Option.some.injEq] at h
      exact h ▸ .signal t hpc
  | unlock =>
      simp only [hpc, Option.some.injEq] at h
      exact h ▸ .unlock t hpc

theorem moves_of_step {s s' : Ring} {a : Act} (h : step s a = some s') : Moves s a s' := by
  cases a with
  | push frame =>
      simp only [step, Option.ite_none_right_eq_some, Option.some.injEq] at h
      exact h.2 ▸ .push frame h.1.1 h.1.2
  | run t => exact moves_of_runThread h
  | wait t drops =>
      simp only [step, Option.ite_none_right_eq_some, Option.some.injEq] at h
      exact h.2 ▸ .wait t drops h.1
  | spurious t =>
      simp only [step, Option.ite_none_right_eq_some, Option.some.injEq] at h
      exact h.2 ▸ .spurious t h.1

/-! ## What a step leaves alone -/

@[simp] theorem goto_pc_self (s : Ring) (t : Thread) (pc : Pc) : (goto s t pc).pc t = pc := by
  simp only [goto, Function.update_self]

theorem goto_pc_of_ne (s : Ring) {t u : Thread} (h : u ≠ t) (pc : Pc) :
    (goto s t pc).pc u = s.pc u := by
  simp only [goto, Function.update_of_ne h]

@[simp] theorem goto_pc_other (s : Ring) (t : Thread) (pc : Pc) :
    (goto s t pc).pc t.other = s.pc t.other :=
  goto_pc_of_ne s t.other_ne pc

@[simp] theorem goto_lock (s : Ring) (t : Thread) (pc : Pc) : (goto s t pc).lock = s.lock := rfl

@[simp] theorem mustWait_goto (s : Ring) (t u : Thread) (pc : Pc) :
    mustWait (goto s t pc) u ↔ mustWait s u := by
  cases u <;> exact Iff.rfl

@[simp] theorem mustWait_lock (s : Ring) (u : Thread) (lock : Option Thread) :
    mustWait { s with lock := lock } u ↔ mustWait s u := by
  cases u <;> exact Iff.rfl

@[simp] theorem mustWait_push (s : Ring) (u : Thread) (lock : Option Thread)
    (frame : List UInt8) :
    mustWait { s with lock := lock, frame := frame } u ↔ mustWait s u := by
  cases u <;> exact Iff.rfl

@[simp] theorem copyFrame_pc (s : Ring) (t : Thread) : (copyFrame s t).pc = s.pc := by
  cases t <;> rfl

@[simp] theorem copyFrame_lock (s : Ring) (t : Thread) : (copyFrame s t).lock = s.lock := by
  cases t <;> rfl

theorem condSignal_pc_other (s : Ring) (t : Thread) :
    (condSignal s t).pc t.other =
      if s.pc t.other = .blocked then .woken else s.pc t.other := by
  unfold condSignal
  by_cases hblocked : s.pc t.other = .blocked
  · rw [if_pos hblocked, if_pos hblocked, goto_pc_self]
  · rw [if_neg hblocked, if_neg hblocked]

theorem condSignal_pc_self (s : Ring) (t : Thread) : (condSignal s t).pc t = s.pc t := by
  unfold condSignal
  split
  · exact goto_pc_of_ne s t.other_ne.symm .woken
  · rfl

@[simp] theorem condSignal_lock (s : Ring) (t : Thread) : (condSignal s t).lock = s.lock := by
  unfold condSignal
  split
  · rfl
  · rfl

@[simp] theorem mustWait_condSignal (s : Ring) (t u : Thread) :
    mustWait (condSignal s t) u ↔ mustWait s u := by
  unfold condSignal
  split
  · exact mustWait_goto s _ u _
  · exact Iff.rfl

theorem condSignal_same (s : Ring) (t : Thread) :
    (condSignal s t).pushed = s.pushed ∧ (condSignal s t).pulled = s.pulled ∧
      (condSignal s t).frame = s.frame := by
  unfold condSignal
  split
  · exact ⟨rfl, rfl, rfl⟩
  · exact ⟨rfl, rfl, rfl⟩

/-- Outside the copies no frame moves. -/
theorem step_same {s s' : Ring} {a : Act} (hpush : ∀ frame, a ≠ .push frame)
    (hcopy : ¬ ∃ t, a = .run t ∧ s.pc t = .copy) (h : step s a = some s') :
    s'.pushed = s.pushed ∧ s'.pulled = s.pulled ∧ s'.frame = s.frame := by
  cases moves_of_step h with
  | push frame _ _ => exact absurd rfl (hpush frame)
  | copy t hpc => exact absurd ⟨t, rfl, hpc⟩ hcopy
  | signal t _ => exact condSignal_same s t
  | _ => exact ⟨rfl, rfl, rfl⟩

/-! ## A call alone -/

/-- No thread is in a call. -/
structure Idle (s : Ring) : Prop where
  lock : s.lock = none
  pc : ∀ t, s.pc t = .lock

theorem idle_init : Idle initMutithread := ⟨rfl, fun _ => rfl⟩

theorem idle_of_pc {s : Ring} (hlock : s.lock = none) (hproducer : s.pc .producer = .lock)
    (hconsumer : s.pc .consumer = .lock) : Idle s := by
  refine ⟨hlock, fun t => ?_⟩
  cases t with
  | producer => exact hproducer
  | consumer => exact hconsumer

/-! The states of a call that finds its test false. -/

def afterTest (s : Ring) (t : Thread) : Ring := goto s t .copy

def afterCopy (s : Ring) (t : Thread) : Ring := goto (copyFrame (afterTest s t) t) t .signal

def afterSignal (s : Ring) (t : Thread) : Ring := goto (afterCopy s t) t .unlock

def afterUnlock (s : Ring) (t : Thread) : Ring :=
  goto { afterSignal s t with lock := none } t .lock

section Call

variable {s : Ring} {t : Thread}

theorem condSignal_of_lock (h : s.pc t.other = .lock) : condSignal s t = s := by
  rw [condSignal, h]
  exact if_neg (by decide)

@[simp] theorem afterTest_pc (s : Ring) (t : Thread) : (afterTest s t).pc t = .copy :=
  goto_pc_self s t .copy

@[simp] theorem afterCopy_pc (s : Ring) (t : Thread) : (afterCopy s t).pc t = .signal :=
  goto_pc_self _ t .signal

@[simp] theorem afterSignal_pc (s : Ring) (t : Thread) : (afterSignal s t).pc t = .unlock :=
  goto_pc_self _ t .unlock

theorem afterCopy_pc_other (s : Ring) (t : Thread) :
    (afterCopy s t).pc t.other = s.pc t.other := by
  rw [afterCopy, goto_pc_other, copyFrame_pc, afterTest, goto_pc_other]

/-- A thread that is alone goes from its test through the copy to the end of its
call. -/
theorem call_steps (hpc : s.pc t = .test) (hother : s.pc t.other = .lock)
    (hready : ¬ mustWait s t) :
    step s (.run t) = some (afterTest s t) ∧
      step (afterTest s t) (.run t) = some (afterCopy s t) ∧
      step (afterCopy s t) (.run t) = some (afterSignal s t) ∧
      step (afterSignal s t) (.run t) = some (afterUnlock s t) := by
  have hlock : (afterCopy s t).pc t.other = .lock := (afterCopy_pc_other s t).trans hother
  refine ⟨?_, ?_, ?_, ?_⟩
  · rw [step, runThread, hpc]
    simp only [if_neg hready, afterTest]
  · rw [step, runThread, afterTest_pc]
    rfl
  · rw [step, runThread, afterCopy_pc]
    simp only [condSignal_of_lock hlock, afterSignal]
  · rw [step, runThread, afterSignal_pc]
    rfl

theorem idle_afterUnlock (hother : s.pc t.other = .lock) : Idle (afterUnlock s t) := by
  refine ⟨rfl, fun u => ?_⟩
  rcases t.eq_or_other u with rfl | rfl
  · exact goto_pc_self _ _ _
  · rw [afterUnlock, goto_pc_other]
    exact (goto_pc_other _ _ _).trans ((afterCopy_pc_other s t).trans hother)

end Call

end VpnRouter.PacketRing
