import VpnRouter.PacketRing

/-!
# The lock of the packet ring

What holds of the ring when a wait may end at any time, ready or not.  As long as
no wait drops the lock of the other thread, the lock is held exactly by the thread
in its critical section.  A copy that the ring was not ready for still reads one
whole frame: the one pushed last into the slot it reads.
-/

namespace VpnRouter.PacketRing

open Lib.RingBuffer Lib.Transition

def Pc.critical : Pc → Bool
  | .test | .release | .copy | .signal | .unlock => true
  | _ => false

/-- A wait does not drop the lock of the other thread. -/
def KeepsLock (s : Ring) : Act → Prop
  | .wait t drops => drops = true → s.lock ≠ some t.other
  | _ => True

/-- The lock is held exactly by the thread in its critical section. -/
def Locked (s : Ring) : Prop := ∀ t, s.lock = some t ↔ (s.pc t).critical = true

theorem locked_init : Locked initMutithread := by
  intro t
  simp [initMutithread, Pc.critical]

section Steps

variable {s s' : Ring} {a : Act}

/-- A thread moves, and the lock afterwards is its own exactly when it is in its
critical section; the other thread has the lock as before. -/
theorem locked_goto (h : Locked s) {t : Thread} {pc : Pc} {lock : Option Thread}
    {frame : List UInt8} (hself : lock = some t ↔ pc.critical = true)
    (hother : lock = some t.other ↔ s.lock = some t.other) :
    Locked (goto { s with lock := lock, frame := frame } t pc) := by
  intro u
  rcases t.eq_or_other u with rfl | rfl
  · rw [goto_pc_self]
    exact hself
  · rw [goto_pc_other]
    exact hother.trans (h t.other)

/-- Nobody else has the lock that a thread holds. -/
theorem lock_ne_other {t : Thread} (hlock : s.lock = some t) : s.lock ≠ some t.other := by
  rw [hlock]
  intro heq
  exact t.other_ne (Option.some.inj heq).symm

theorem locked_stay (h : Locked s) {t : Thread} {pc : Pc}
    (hpc : pc.critical = (s.pc t).critical) : Locked (goto s t pc) :=
  locked_goto h (by rw [hpc, h t]) Iff.rfl

theorem locked_enter (h : Locked s) {t : Thread} {pc : Pc} {frame : List UInt8}
    (hlock : s.lock = none) (hpc : pc.critical = true) :
    Locked (goto { s with lock := some t, frame := frame } t pc) := by
  apply locked_goto h
  · simp [hpc]
  · rw [hlock]
    simp [t.other_ne.symm]

theorem locked_leave (h : Locked s) {t : Thread} {pc : Pc} (hfrom : (s.pc t).critical = true)
    (hto : pc.critical = false) : Locked (goto { s with lock := none } t pc) := by
  apply locked_goto h
  · simp [hto]
  · simp [lock_ne_other ((h t).mpr hfrom)]

theorem locked_condSignal (h : Locked s) (t : Thread) : Locked (condSignal s t) := by
  unfold condSignal
  split
  · rename_i hblocked
    apply locked_stay h
    rw [hblocked]
    rfl
  · exact h

theorem locked_step (h : Locked s) (hok : KeepsLock s a) (hstep : step s a = some s') :
    Locked s' := by
  cases moves_of_step hstep with
  | push frame hpc hlock => exact locked_enter h hlock rfl
  | pull hpc hlock => exact locked_enter h hlock rfl
  | mustWait t hpc _ => exact locked_stay h (by rw [hpc]; rfl)
  | pass t hpc _ => exact locked_stay h (by rw [hpc]; rfl)
  | release t hpc => exact locked_leave h (by rw [hpc]; rfl) rfl
  | wait t drops hpc =>
      have hself : s.lock ≠ some t := by
        rw [Ne, h t, hpc]
        simp [Pc.critical]
      apply locked_goto h
      · cases drops with
        | true => simp [Pc.critical]
        | false => simpa [Pc.critical] using hself
      · cases drops with
        | true => simpa using hok rfl
        | false => exact Iff.rfl
  | spurious t hpc => exact locked_stay h (by rw [hpc]; rfl)
  | wake t hpc hlock => exact locked_enter h hlock rfl
  | copy t hpc =>
      have hcopied : Locked (copyFrame s t) := by
        intro u
        rw [copyFrame_lock, copyFrame_pc]
        exact h u
      apply locked_stay hcopied
      rw [copyFrame_pc, hpc]
      rfl
  | signal t hpc =>
      apply locked_stay (locked_condSignal h t)
      rw [condSignal_pc_self, hpc]
      rfl
  | unlock t hpc => exact locked_leave h (by rw [hpc]; rfl) rfl

end Steps

/-! ## What a copy reads -/

/-- The indices count the copies, and every slot has the newest frame pushed into
it. -/
structure Slotted (s : Ring) : Prop where
  write : s.i = s.pushed.length % PACKET_CACHE
  read : s.j = s.pulled.length % PACKET_CACHE
  newest : ∀ c < PACKET_CACHE, Newest PACKET_CACHE (fun _ => []) s.pushed c (s.buffer c)

theorem slotted_init : Slotted initMutithread where
  write := rfl
  read := rfl
  newest := fun c _ => newest_nil PACKET_CACHE _ c

section Slots

variable {s s' : Ring} {a : Act}

theorem slotted_push (h : Slotted s) : Slotted (copyFrame s .producer) where
  write := by
    change (s.i + 1) % PACKET_CACHE = (s.pushed ++ [s.frame]).length % PACKET_CACHE
    rw [h.write, Nat.mod_add_mod, List.length_append, List.length_singleton]
  read := h.read
  newest := by
    intro c hc
    change Newest _ _ (s.pushed ++ [s.frame]) c (Function.update s.buffer s.i s.frame c)
    rw [h.write]
    exact newest_push h.newest s.frame hc

theorem slotted_pull (h : Slotted s) : Slotted (copyFrame s .consumer) where
  write := h.write
  read := by
    change (s.j + 1) % PACKET_CACHE = (s.pulled ++ [s.buffer s.j]).length % PACKET_CACHE
    rw [h.read, Nat.mod_add_mod, List.length_append, List.length_singleton]
  newest := h.newest

theorem slotted_step (h : Slotted s) (hstep : step s a = some s') : Slotted s' := by
  have hsame (lock : Option Thread) (frame : List UInt8) (t : Thread) (pc : Pc) :
      Slotted (goto { s with lock := lock, frame := frame } t pc) :=
    ⟨h.write, h.read, h.newest⟩
  cases moves_of_step hstep with
  | copy t hpc =>
      have hcopied : Slotted (copyFrame s t) := by
        cases t with
        | producer => exact slotted_push h
        | consumer => exact slotted_pull h
      exact ⟨hcopied.write, hcopied.read, hcopied.newest⟩
  | signal t hpc =>
      unfold condSignal
      split
      · exact ⟨h.write, h.read, h.newest⟩
      · exact ⟨h.write, h.read, h.newest⟩
  | _ => exact hsame _ _ _ _

/-- A frame is pulled by the consumer's copy and by nothing else. -/
theorem pulled_step (hstep : step s a = some s') :
    s'.pulled = s.pulled ∨
      a = .run .consumer ∧ s.pc .consumer = .copy ∧ s'.pulled = s.pulled ++ [s.buffer s.j] := by
  cases moves_of_step hstep with
  | copy t hpc =>
      cases t with
      | producer => exact .inl rfl
      | consumer => exact .inr ⟨rfl, hpc, rfl⟩
  | signal t _ => exact .inl (condSignal_same s t).2.1
  | _ => exact .inl rfl

end Slots

/-! ## Every run -/

/-- However the wake-ups come, the lock is held exactly by the one thread that
is in its critical section. -/
theorem one_at_a_time {as : List Act} {s : Ring}
    (hrun : Run (Guard KeepsLock RingStep) initMutithread as s) :
    (∀ t, s.lock = some t ↔ (s.pc t).critical = true) ∧
      ∀ t u, (s.pc t).critical = true → (s.pc u).critical = true → t = u := by
  have hstep (s : Ring) (a : Act) (s' : Ring) (h : Locked s)
      (hs : Guard KeepsLock RingStep s a s') : Locked s' := locked_step h hs.1 hs.2
  have hlocked : Locked s := hrun.invariant hstep locked_init
  refine ⟨hlocked, fun t u ht hu => ?_⟩
  have hboth := (hlocked t).mpr ht
  rw [(hlocked u).mpr hu] at hboth
  exact (Option.some.inj hboth).symm

/-- The consumer comes out of its wait on an empty ring. -/
def unreadyWakeup : List Act :=
  [.run .consumer, .run .consumer, .run .consumer, .wait .consumer false, .spurious .consumer,
    .run .consumer]

theorem unready_wakeup_alone :
    ∃ s : Ring, Run (Guard KeepsLock RingStep) initMutithread unreadyWakeup s ∧ s.i = s.j ∧
      (s.pc .consumer).critical = true ∧
      (∀ t, s.lock = some t ↔ (s.pc t).critical = true) ∧
      ∀ t u, (s.pc t).critical = true → (s.pc u).critical = true → t = u := by
  have hrun : ∃ s : Ring, Run (Guard KeepsLock RingStep) initMutithread unreadyWakeup s ∧
      s.i = s.j ∧ s.pc .consumer = .copy :=
    ⟨_, .cons ⟨trivial, rfl⟩ (.cons ⟨trivial, rfl⟩ (.cons ⟨trivial, rfl⟩
      (.cons ⟨(fun h => by cases h), rfl⟩ (.cons ⟨trivial, rfl⟩ (.cons ⟨trivial, rfl⟩
      (.nil _)))))), rfl, rfl⟩
  obtain ⟨s, hs, hempty, hpc⟩ := hrun
  exact ⟨s, hs, hempty, by rw [hpc]; rfl, one_at_a_time hs⟩

/-- A wait that drops the lock of the other thread lets both into their critical
sections. -/
theorem dropped_lock_shared :
    ∃ as s, Run RingStep initMutithread as s ∧ ∀ t, (s.pc t).critical = true := by
  refine ⟨[.run .consumer, .run .consumer, .run .consumer, .push [1], .wait .consumer true,
    .spurious .consumer, .run .consumer], _, .cons rfl (.cons rfl (.cons rfl (.cons rfl
    (.cons rfl (.cons rfl (.cons rfl (.nil _))))))), fun t => ?_⟩
  cases t with
  | producer => rfl
  | consumer => rfl

/-- However the wake-ups come, the frame at position `k` was pulled by one copy of
the consumer, and it is the newest one that had been pushed by then into the slot of
`k`, or the empty one the slot began with. -/
theorem pulled_from_slot {as : List Act} {s : Ring}
    (hrun : Run (Guard KeepsLock RingStep) initMutithread as s) {k : ℕ}
    (hk : k < s.pulled.length) :
    ∃ before after s₁ s₂, as = before ++ .run .consumer :: after ∧
      Run (Guard KeepsLock RingStep) initMutithread before s₁ ∧ s₁.pc .consumer = .copy ∧
      step s₁ (.run .consumer) = some s₂ ∧ Run (Guard KeepsLock RingStep) s₂ after s ∧
      s₁.pulled.length = k ∧
      Newest PACKET_CACHE (fun _ => []) s₁.pushed (k % PACKET_CACHE) s.pulled[k] := by
  have hstart : ¬ k < initMutithread.pulled.length := Nat.not_lt_zero k
  obtain ⟨before, a, after, s₁, s₂, rfl, hbefore, hnot, hstep, hless, hafter⟩ :=
    hrun.exists_change (P := fun s => k < s.pulled.length) hstart hk
  have hslotted (s : Ring) (a : Act) (s' : Ring) (h : Slotted s)
      (hs : Guard KeepsLock RingStep s a s') : Slotted s' := slotted_step h hs.2
  have hslots : Slotted s₁ := hbefore.invariant hslotted slotted_init
  have hgrows (u : Ring) (a : Act) (v : Ring) (hu : s₂.pulled <+: u.pulled)
      (hs : Guard KeepsLock RingStep u a v) : s₂.pulled <+: v.pulled := by
    rcases pulled_step hs.2 with heq | ⟨-, -, heq⟩
    · rw [heq]
      exact hu
    · rw [heq]
      exact hu.trans (List.prefix_append _ _)
  have hkept : s₂.pulled <+: s.pulled := hafter.invariant hgrows (List.prefix_refl _)
  rcases pulled_step hstep.2 with heq | ⟨rfl, hpc, heq⟩
  · rw [heq] at hless
    exact absurd hless hnot
  · have hlen : s₁.pulled.length = k := by
      rw [heq, List.length_append, List.length_singleton] at hless
      omega
    refine ⟨before, after, s₁, s₂, rfl, hbefore, hpc, hstep.2, hafter, hlen, ?_⟩
    have hframe : s.pulled[k] = s₁.buffer s₁.j := by
      rw [← hkept.getElem hless]
      simp [heq, ← hlen]
    have hslot : s₁.j = k % PACKET_CACHE := by rw [hslots.read, hlen]
    rw [hframe, ← hslot]
    exact hslots.newest s₁.j (hslot ▸ Nat.mod_lt k (by decide))

/-- One frame goes through, and then the consumer comes out of its wait on the empty
ring and pulls once more. -/
def unreadyPull : List Act :=
  [.push [1], .run .producer, .run .producer, .run .producer, .run .producer, .run .consumer,
    .run .consumer, .run .consumer, .run .consumer, .run .consumer] ++
    unreadyWakeup ++ [.run .consumer]

theorem unready_wakeup_slot :
    ∃ s : Ring, Run (Guard KeepsLock RingStep) initMutithread unreadyPull s ∧
      s.pushed = [[1]] ∧ s.pulled = [[1], []] ∧ ∃ h : 1 < s.pulled.length,
        ∃ before after s₁ s₂, unreadyPull = before ++ .run .consumer :: after ∧
          Run (Guard KeepsLock RingStep) initMutithread before s₁ ∧ s₁.pc .consumer = .copy ∧
          step s₁ (.run .consumer) = some s₂ ∧ Run (Guard KeepsLock RingStep) s₂ after s ∧
          s₁.pulled.length = 1 ∧
          Newest PACKET_CACHE (fun _ => []) s₁.pushed (1 % PACKET_CACHE)
            (s.pulled.get ⟨1, h⟩) := by
  have hrun : ∃ s : Ring, Run (Guard KeepsLock RingStep) initMutithread unreadyPull s ∧
      s.pushed = [[1]] ∧ s.pulled = [[1], []] :=
    ⟨_, .cons ⟨trivial, rfl⟩ (.cons ⟨trivial, rfl⟩ (.cons ⟨trivial, rfl⟩
      (.cons ⟨trivial, rfl⟩ (.cons ⟨trivial, rfl⟩ (.cons ⟨trivial, rfl⟩ (.cons ⟨trivial, rfl⟩
      (.cons ⟨trivial, rfl⟩ (.cons ⟨trivial, rfl⟩ (.cons ⟨trivial, rfl⟩ (.cons ⟨trivial, rfl⟩
      (.cons ⟨trivial, rfl⟩ (.cons ⟨trivial, rfl⟩ (.cons ⟨(fun h => by cases h), rfl⟩
      (.cons ⟨trivial, rfl⟩ (.cons ⟨trivial, rfl⟩ (.cons ⟨trivial, rfl⟩
      (.nil _))))))))))))))))), rfl, rfl⟩
  obtain ⟨s, hs, hpushed, hpulled⟩ := hrun
  have hsecond : 1 < s.pulled.length := by simp [hpulled]
  exact ⟨s, hs, hpushed, hpulled, hsecond, pulled_from_slot hs hsecond⟩

end VpnRouter.PacketRing
