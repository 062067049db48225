import VpnRouter.Program
import VpnRouter.RingDeadlock

/-!
# Progress of the two threads

The frames a thread has moved and its place in the current round make a measure
that every step of the program adds to.  So no schedule goes on for ever, and one
that cannot go on has handled every frame the listener accepts.  This rests on
wake-ups without a signal.  Where there are none, a wait that is entered after its
test has become false leaves its frames in the ring; where every wait is entered
in time, the signals are enough.
-/

namespace VpnRouter.Program

open PacketRing Lib Lib.Memory Lib.Transition

/-! ## What every step adds to -/

/-- The place of a thread in its round, which ends with the copy. -/
def place : Pc → ℕ
  | .signal => 0
  | .unlock => 1
  | .lock => 2
  | .test => 3
  | .release => 4
  | .wait => 5
  | .blocked => 6
  | .woken => 7
  | .copy => 8

/-- The frames that a thread has moved. -/
def moved (r : Ring) : Thread → ℕ
  | .producer => r.pushed.length
  | .consumer => r.pulled.length

def threadGain (r : Ring) (t : Thread) : ℕ := 9 * moved r t + place (r.pc t)

def ringGain (r : Ring) : ℕ := threadGain r .producer + threadGain r .consumer

def gain (s : State) : ℕ :=
  ringGain s.ring + s.handled.length + if s.started.isSome then 1 else 0

section Gain

variable {r r' : Ring}

theorem ringGain_eq (r : Ring) (t : Thread) :
    ringGain r = threadGain r t + threadGain r t.other := by
  cases t with
  | producer => rfl
  | consumer => exact Nat.add_comm _ _

theorem moved_goto (r : Ring) (lock : Option Thread) (frame : List UInt8) (t u : Thread) (pc : Pc) :
    moved (goto { r with lock := lock, frame := frame } t pc) u = moved r u := by
  cases u with
  | producer => rfl
  | consumer => rfl

theorem ringGain_goto {t : Thread} {pc pc' : Pc} {lock : Option Thread} {frame : List UInt8}
    (hpc : r.pc t = pc) (hplace : place pc < place pc') :
    ringGain r + 1 ≤ ringGain (goto { r with lock := lock, frame := frame } t pc') := by
  have hself : threadGain (goto { r with lock := lock, frame := frame } t pc') t =
      9 * moved r t + place pc' := by
    rw [threadGain, moved_goto, goto_pc_self]
  have hother : threadGain (goto { r with lock := lock, frame := frame } t pc') t.other =
      threadGain r t.other := by
    rw [threadGain, moved_goto, goto_pc_other]
    rfl
  rw [ringGain_eq r t, ringGain_eq _ t, hself, hother, threadGain, hpc]
  omega

theorem moved_copyFrame (r : Ring) (t : Thread) :
    moved (copyFrame r t) t = moved r t + 1 ∧
      moved (copyFrame r t) t.other = moved r t.other := by
  cases t with
  | producer => exact ⟨List.length_append, rfl⟩
  | consumer => exact ⟨List.length_append, rfl⟩

theorem ringGain_copy {t : Thread} (hpc : r.pc t = .copy) :
    ringGain r + 1 ≤ ringGain (goto (copyFrame r t) t .signal) := by
  obtain ⟨hself, hother⟩ := moved_copyFrame r t
  have hsame (u : Thread) : moved (goto (copyFrame r t) t .signal) u = moved (copyFrame r t) u :=
    moved_goto (copyFrame r t) _ _ t u .signal
  rw [ringGain_eq r t, ringGain_eq _ t, threadGain, threadGain, threadGain, threadGain, hsame,
    hsame, hself, hother, goto_pc_self, goto_pc_other, copyFrame_pc, hpc, place, place]
  omega

theorem ringGain_condSignal (r : Ring) (t : Thread) : ringGain r ≤ ringGain (condSignal r t) := by
  unfold condSignal
  split
  · rename_i hblocked
    exact Nat.le_of_succ_le (ringGain_goto hblocked (by decide))
  · exact le_refl _

theorem ringGain_step {a : PacketRing.Act} (h : PacketRing.step r a = some r') :
    ringGain r + 1 ≤ ringGain r' := by
  cases moves_of_step h with
  | push frame hpc _ => exact ringGain_goto hpc (by decide)
  | pull hpc _ => exact ringGain_goto hpc (by decide)
  | mustWait t hpc _ => exact ringGain_goto hpc (by decide)
  | pass t hpc _ => exact ringGain_goto hpc (by decide)
  | release t hpc => exact ringGain_goto hpc (by decide)
  | wait t drops hpc => exact ringGain_goto hpc (by decide)
  | spurious t hpc => exact ringGain_goto hpc (by decide)
  | wake t hpc _ => exact ringGain_goto hpc (by decide)
  | copy t hpc => exact ringGain_copy hpc
  | signal t hpc =>
      have hself : (condSignal r t).pc t = .signal := (condSignal_pc_self r t).trans hpc
      exact (Nat.succ_le_succ (ringGain_condSignal r t)).trans
        (ringGain_goto hself (by decide))
  | unlock t hpc => exact ringGain_goto hpc (by decide)

end Gain

section Runs

variable {devices : List DeviceItem} {wire : List (List UInt8)} {buf : Mem} {s t : State} {a : Act}

theorem gain_step (h : Step devices s a t) : gain s + 1 ≤ gain t := by
  cases h with
  | receive _ _ hring =>
      have hmore := ringGain_step hring
      unfold gain
      dsimp only
      omega
  | ring _ hring _ =>
      have hmore := ringGain_step hring
      unfold gain
      dsimp only
      omega
  | firstStep stack hstarted =>
      unfold gain
      rw [hstarted]
      simp
  | handle a _ _ =>
      unfold gain
      dsimp only
      rw [List.length_append, List.length_singleton]
      omega

/-! ## How much there is to do -/

theorem place_le (pc : Pc) : place pc ≤ 8 := by
  cases pc <;> decide

theorem place_le_of_carries {pc : Pc} (h : carries pc = false) : place pc ≤ 2 := by
  cases pc <;> first | decide | contradiction

/-- The thread does not test the ring again before its copy. -/
def past : Pc → Bool
  | .woken | .copy => true
  | _ => false

theorem place_le_of_past {pc : Pc} (h : past pc = false) : place pc ≤ 6 := by
  cases pc <;> first | decide | contradiction

theorem ready_of_past {r : Ring} (h : Sound r) {t : Thread} (hpast : past (r.pc t) = true) :
    ¬ mustWait r t := by
  cases hpc : r.pc t with
  | woken => exact h.woken t hpc
  | copy => exact h.ready t hpc
  | _ =>
      rw [hpc] at hpast
      contradiction

/-- The frames the listener accepts are in the ring's history, in its hand or to come. -/
theorem length_accepted (h : Ordered devices wire buf s) :
    (accepted wire).length =
      s.ring.pushed.length + (inHand s.ring).length + (accepted s.wire).length := by
  obtain ⟨fs, haccepted, hfs⟩ := h.taken
  have hlen := congrArg List.length hfs
  rw [List.length_map, List.length_append] at hlen
  rw [haccepted, List.length_append, hlen]

theorem producer_le (h : Ordered devices wire buf s) :
    threadGain s.ring .producer ≤ 9 * (accepted wire).length + 2 := by
  have hlen := length_accepted h
  have hplace := place_le (s.ring.pc .producer)
  have hmoved : moved s.ring .producer = s.ring.pushed.length := rfl
  rw [threadGain, hmoved]
  cases hcarries : carries (s.ring.pc .producer) with
  | true =>
      rw [inHand, if_pos hcarries, List.length_singleton] at hlen
      omega
  | false =>
      have hsmall := place_le_of_carries hcarries
      omega

theorem consumer_le (h : Ordered devices wire buf s) :
    threadGain s.ring .consumer ≤ 9 * (accepted wire).length + 6 := by
  have hlen := length_accepted h
  have hplace := place_le (s.ring.pc .consumer)
  have horder := h.sound.queue.order.length_le
  have hmoved : moved s.ring .consumer = s.ring.pulled.length := rfl
  rw [threadGain, hmoved]
  cases hpast : past (s.ring.pc .consumer) with
  | true =>
      -- past its wait or its test the consumer has a frame to pull
      have hready : ¬ s.ring.i = s.ring.j := ready_of_past h.sound hpast
      rw [h.sound.queue.empty_iff] at hready
      omega
  | false =>
      have hsmall := place_le_of_past hpast
      omega

theorem gain_le (h : Ordered devices wire buf s) : gain s ≤ 19 * (accepted wire).length + 9 := by
  have hproducer := producer_le h
  have hconsumer := consumer_le h
  have hhandled := (handled_isPrefix h).length_le
  rw [List.length_map] at hhandled
  unfold gain ringGain
  split
  · omega
  · omega

/-! ## When nothing happens any more -/

def Act.isSpurious : Act → Bool
  | .ring a => a.isSpurious
  | _ => false

/-- The program goes on only by a wake-up without a signal. -/
def Halted (devices : List DeviceItem) (s : State) : Prop :=
  ∀ a t, a.isSpurious = false → ¬ Step devices s a t

/-- A wait that drops the lock of the other thread could as well keep it. -/
theorem halted_of_terminal (h : Terminal (Guard Ready (Step devices)) s) : Halted devices s := by
  intro a t hsignal hstep
  by_cases hready : Ready s a
  · exact h a t ⟨hready, hstep⟩
  · cases hstep with
    | @ring b _ hpush hring hpull =>
        cases b with
        | spurious u => cases hsignal
        | wait u drops =>
            have hpc : s.ring.pc u = .wait := by
              by_contra hne
              rw [PacketRing.step, if_neg hne] at hring
              cases hring
            have hkeeps : Ready s (.ring (.wait u false)) := fun heq => by cases heq
            exact h _ _ ⟨hkeeps, step_wait hpc⟩
        | _ => exact hready trivial
    | _ => exact hready trivial

theorem halted_run (h : Halted devices s) {t : Thread} {ring : Ring} (hlock : s.ring.pc t ≠ .lock) :
    PacketRing.step s.ring (.run t) ≠ some ring := by
  intro hstep
  exact h _ _ rfl (.ring (fun frame heq => by cases heq) hstep fun ht hpc => by
    cases ht
    exact absurd hpc hlock)

/-- A thread in its critical section can go on. -/
theorem exists_run {r : Ring} {t : Thread} (h : (r.pc t).critical = true) :
    ∃ r', PacketRing.step r (.run t) = some r' := by
  cases hpc : r.pc t with
  | test => exact ⟨_, by rw [PacketRing.step, runThread, hpc]⟩
  | release => exact ⟨_, by rw [PacketRing.step, runThread, hpc]⟩
  | copy => exact ⟨_, by rw [PacketRing.step, runThread, hpc]⟩
  | signal => exact ⟨_, by rw [PacketRing.step, runThread, hpc]⟩
  | unlock => exact ⟨_, by rw [PacketRing.step, runThread, hpc]⟩
  | _ =>
      rw [hpc] at h
      contradiction

theorem halted_free (h : Halted devices s) (hlocked : Locked s.ring) : s.ring.lock = none := by
  cases hlock : s.ring.lock with
  | none => rfl
  | some t =>
      have hcritical := (hlocked t).mp hlock
      obtain ⟨ring, hstep⟩ := exists_run hcritical
      have hpc : s.ring.pc t ≠ .lock := by
        intro hpc
        rw [hpc] at hcritical
        contradiction
      exact absurd hstep (halted_run h hpc)

theorem halted_pc (h : Halted devices s) (hlocked : Locked s.ring) (t : Thread) :
    s.ring.pc t = .lock ∨ s.ring.pc t = .blocked := by
  have hfree := halted_free h hlocked
  cases hpc : s.ring.pc t with
  | lock => exact .inl rfl
  | blocked => exact .inr rfl
  | wait =>
      exact absurd (step_wait hpc) (h _ _ rfl)
  | woken =>
      have hstep : PacketRing.step s.ring (.run t) =
          some (goto { s.ring with lock := some t } t .copy) := by
        rw [PacketRing.step, runThread, hpc]
        exact if_pos hfree
      exact absurd hstep (halted_run h (by rw [hpc]; decide))
  | _ =>
      have hlock := (hlocked t).mpr (by rw [hpc]; rfl)
      rw [hfree] at hlock
      contradiction

/-- The pending frame is one the listener accepted. -/
theorem exists_pending (h : Ordered devices wire buf s) {bs : List UInt8}
    (hpending : s.pending = some bs) : ∃ f : Received, f.bytes = bs := by
  have hpulled : bs ∈ s.ring.pulled := by
    rw [h.pulled, hpending]
    exact List.mem_append_right _ List.mem_cons_self
  obtain ⟨fs, -, hfs⟩ := h.taken
  have hpushed : bs ∈ fs.map Received.bytes := by
    rw [hfs]
    exact List.mem_append_left _ (h.sound.queue.order.mem hpulled)
  obtain ⟨f, -, hf⟩ := List.mem_map.mp hpushed
  exact ⟨f, hf⟩

/-- A handler that cannot go on has nothing pending and waits for a frame. -/
theorem halted_consumer (h : Halted devices s) (hordered : Ordered devices wire buf s) :
    s.pending = none ∧ s.ring.pc .consumer = .blocked := by
  have hlocked := hordered.sound.locked
  have hstarted : s.started ≠ none := fun hnone =>
    h (.firstStep fun _ => 0) _ rfl (.firstStep _ hnone)
  have hpending : s.pending = none := by
    cases hsome : s.pending with
    | none => rfl
    | some bs =>
        have hidle := hordered.idle (by rw [hsome]; exact Option.some_ne_none bs)
        have hpc : s.ring.pc .consumer = .lock := by
          rcases halted_pc h hlocked .consumer with hpc | hpc
          · exact hpc
          · rw [hpc] at hidle
            contradiction
        obtain ⟨f, hf⟩ := exists_pending hordered hsome
        exact absurd (.handle { frame := f, stack := fun _ => 0 } (by rw [hsome, hf]) hpc)
          (h _ _ rfl)
  refine ⟨hpending, ?_⟩
  rcases halted_pc h hlocked .consumer with hpc | hpc
  · have hstep : PacketRing.step s.ring (.run .consumer) =
        some (goto { s.ring with lock := some .consumer } .consumer .test) := by
      rw [PacketRing.step, runThread, hpc]
      exact if_pos ⟨rfl, halted_free h hlocked⟩
    have hfree : ¬ (Thread.consumer = .consumer ∧ s.ring.pc .consumer = .copy) := by
      rw [hpc]
      decide
    exact absurd (step_run hstep hfree fun _ _ => ⟨hstarted, hpending⟩) (h _ _ rfl)
  · exact hpc

/-- A listener that cannot go on, and is not in a call, has no frame to come. -/
theorem halted_wire (h : Halted devices s) (hlocked : Locked s.ring)
    (hpc : s.ring.pc .producer = .lock) : accepted s.wire = [] := by
  cases hwire : s.wire with
  | nil => rfl
  | cons bs rest =>
      rw [accepted]
      cases hf : listened bs with
      | none => rfl
      | some f =>
          have hstep : PacketRing.step s.ring (.push f.bytes) =
              some (goto { s.ring with lock := some .producer, frame := f.bytes } .producer
                .test) := by
            rw [PacketRing.step]
            exact if_pos ⟨hpc, halted_free h hlocked⟩
          exact absurd (.receive hwire hf hstep) (h _ _ rfl)

/-- When blocked threads have to wait, a program that cannot go on has handled
every frame: the consumer waits, so the ring is empty and the producer has returned. -/
theorem halted_handled (h : Halted devices s) (hordered : Ordered devices wire buf s)
    (hwaits : ∀ t, s.ring.pc t = .blocked → mustWait s.ring t) :
    s.handled.map Arrival.frame = accepted wire := by
  have hlocked := hordered.sound.locked
  obtain ⟨hnone, hconsumer⟩ := halted_consumer h hordered
  have hempty : s.ring.i = s.ring.j := hwaits .consumer hconsumer
  have hpc : s.ring.pc .producer = .lock := by
    rcases halted_pc h hlocked .producer with hlock | hblocked
    · exact hlock
    · have hfull : (s.ring.i + 1) % PACKET_CACHE = s.ring.j := hwaits .producer hblocked
      unfold PACKET_CACHE at hfull
      omega
  obtain ⟨fs, haccepted, hfs⟩ := hordered.taken
  rw [halted_wire h hlocked hpc, List.append_nil] at haccepted
  have hin : inHand s.ring = [] := by
    rw [inHand, hpc]
    rfl
  rw [hin, List.append_nil] at hfs
  have hpulled := hordered.pulled
  rw [hnone, Option.toList_none, List.append_nil] at hpulled
  have hall : s.ring.pulled = s.ring.pushed :=
    hordered.sound.queue.order.eq_of_length (hordered.sound.queue.empty_iff.mp hempty).symm
  apply List.map_injective_iff.mpr received_bytes_injective
  rw [haccepted, hfs, ← hall, hpulled, List.map_map]
  rfl

/-! ## Every schedule comes to an end -/

/-- Every schedule whose wake-ups find the ring ready has at most 19 steps for each
frame accepted and 5 more.  One that cannot go on has handled every frame, and every
schedule leads to such a one. -/
theorem all_frames_handled {as : List Act}
    (hrun : Run (Guard Ready (Step devices)) (start wire buf) as s) :
    as.length ≤ 19 * (accepted wire).length + 5 ∧
      (Terminal (Guard Ready (Step devices)) s → s.handled.map Arrival.frame = accepted wire) ∧
      ∃ bs t, Run (Guard Ready (Step devices)) s bs t ∧
        Terminal (Guard Ready (Step devices)) t := by
  have hordered := ordered_of_run hrun
  have hbound := gain_le hordered
  have hmore (s : State) (a : Act) (t : State) (h : Guard Ready (Step devices) s a t) :
      gain s + 1 ≤ gain t := gain_step h.2
  have hkeep (s : State) (a : Act) (t : State) (hs : Ordered devices wire buf s)
      (h : Guard Ready (Step devices) s a t) : Ordered devices wire buf t := ordered_step hs h.1 h.2
  have hlen := hrun.length_add_gain_le gain hmore
  have hfirst : gain (start wire buf) = 4 := rfl
  refine ⟨by omega, fun hterminal => ?_,
    Run.exists_terminal gain _ hmore hkeep (fun _ h => gain_le h) hordered⟩
  apply halted_handled (halted_of_terminal hterminal) hordered
  intro t hblocked
  -- a blocked thread whose condition has come could still wake up
  by_contra hwakes
  exact hterminal _ _ ⟨show Ready s (.ring (.spurious t)) from hwakes, step_spurious hblocked⟩

theorem session_completed :
    ∃ as s, Run (Guard Ready (Step (bootDevices eth4Kernel))) (start sessionWire fun _ => 0)
        (wokenEarly ++ as) s ∧
      Terminal (Guard Ready (Step (bootDevices eth4Kernel))) s ∧
      (wokenEarly ++ as).length ≤ 19 * (accepted sessionWire).length + 5 ∧
      s.handled.map Arrival.frame = [synAckSegment, dataSegment] := by
  obtain ⟨s, hrun, -⟩ := woken_early
  obtain ⟨-, -, as, t, hrest, hterminal⟩ := all_frames_handled hrun
  obtain ⟨hbound, hall, -⟩ := all_frames_handled (hrun.append hrest)
  exact ⟨as, t, hrun.append hrest, hterminal, hbound,
    (hall hterminal).trans accepted_sessionWire⟩

/-! ## Signals alone -/

/-- A wait is entered while its test still holds and does not drop the lock of the
other thread, and it ends with a signal. -/
def Timely (s : State) : Act → Prop
  | .ring a => KeepsLock s.ring a ∧ EntersInTime s.ring a ∧ a.isSpurious = false
  | _ => True

theorem ready_of_timely (h : Timely s a) : Ready s a := by
  cases a with
  | ring b =>
      cases b with
      | spurious t => cases h.2.2
      | wait t drops => exact h.1
      | _ => trivial
  | _ => trivial

theorem timely_of_calm (h : Calm s a) : Timely s a := by
  cases a with
  | ring b =>
      cases b with
      | run t => exact ⟨trivial, trivial, rfl⟩
      | _ => cases h
  | _ => trivial

theorem alert_program (h : Alert s.ring) (hok : Timely s a) (hstep : Step devices s a t) :
    Alert t.ring := by
  rcases ring_step hstep with hsame | ⟨b, hring, rfl | ⟨frame, rfl⟩⟩
  · rw [hsame]
    exact h
  · exact alert_step h hok.2.1 hring
  · have hpush : EntersInTime s.ring (.push frame) := trivial
    exact alert_step h hpush hring

/-- Where every wait is entered in time, the signals are enough: a schedule that
cannot go on without a spurious wake-up has handled every frame. -/
theorem signals_suffice {as : List Act}
    (hrun : Run (Guard Timely (Step devices)) (start wire buf) as s)
    (hhalted : Halted devices s) : s.handled.map Arrival.frame = accepted wire := by
  have hready : Run (Guard Ready (Step devices)) (start wire buf) as s :=
    hrun.weaken fun _ _ _ h => ⟨ready_of_timely h.1, h.2⟩
  have hordered := ordered_of_run hready
  have hkeep (s : State) (a : Act) (t : State) (h : Alert s.ring)
      (hs : Guard Timely (Step devices) s a t) : Alert t.ring := alert_program h hs.1 hs.2
  have halert : Alert s.ring :=
    hrun.invariant (I := fun s => Alert s.ring) hkeep fun t ht => by contradiction
  apply halted_handled hhalted hordered
  intro t hblocked
  rcases halert t hblocked with hwait | hsignal
  · exact hwait
  · -- nobody is about to signal
    rcases halted_pc hhalted hordered.sound.locked t.other with hpc | hpc
    · rw [hpc] at hsignal
      contradiction
    · rw [hpc] at hsignal
      contradiction

/-- A consumer that is blocked and a producer that has returned for good. -/
theorem halted_of_blocked (hconsumer : s.ring.pc .consumer = .blocked)
    (hproducer : s.ring.pc .producer = .lock) (hwire : accepted s.wire = [])
    (hstarted : s.started ≠ none) (hpending : s.pending = none) : Halted devices s := by
  have hrest (u : Thread) {pc : Pc} (hu : s.ring.pc u = pc) : pc = .lock ∨ pc = .blocked := by
    cases u with
    | producer => exact .inl (hu.symm.trans hproducer)
    | consumer => exact .inr (hu.symm.trans hconsumer)
  intro a t hsignal hstep
  cases hstep with
  | receive hbs hf _ =>
      rw [hbs, accepted, hf] at hwire
      cases hwire
  | firstStep _ hnone => exact hstarted hnone
  | handle _ hsome _ =>
      rw [hpending] at hsome
      cases hsome
  | ring hpush hring _ =>
      cases moves_of_step hring with
      | push frame _ _ => exact hpush frame rfl
      | pull hlock _ =>
          rw [hconsumer] at hlock
          cases hlock
      | spurious _ _ => cases hsignal
      | mustWait u hu _ => simpa using hrest u hu
      | pass u hu _ => simpa using hrest u hu
      | release u hu => simpa using hrest u hu
      | wait u _ hu => simpa using hrest u hu
      | wake u hu _ => simpa using hrest u hu
      | copy u hu => simpa using hrest u hu
      | signal u hu => simpa using hrest u hu
      | unlock u hu => simpa using hrest u hu

/-- At the end of the frames the handler goes into its wait. -/
theorem exists_halted (h : Resting s) (hstarted : s.started ≠ none) (hwire : accepted s.wire = []) :
    ∃ as t, Run (Guard Timely (Step devices)) s as t ∧ Halted devices t ∧
      t.ring.pc .consumer = .blocked := by
  let r₁ := goto { s.ring with lock := some .consumer } .consumer .test
  let r₂ := goto r₁ .consumer .release
  let r₃ := goto { r₂ with lock := none } .consumer .wait
  have hempty : mustWait r₁ .consumer := h.empty
  have hlock : PacketRing.step s.ring (.run .consumer) = some r₁ := by
    rw [PacketRing.step, runThread, h.idle.pc]
    exact if_pos ⟨rfl, h.idle.lock⟩
  have htest : PacketRing.step r₁ (.run .consumer) = some r₂ := by
    rw [PacketRing.step, runThread, goto_pc_self]
    exact congrArg (fun pc => some (goto r₁ .consumer pc)) (if_pos hempty)
  have hrelease : PacketRing.step r₂ (.run .consumer) = some r₃ := by
    rw [PacketRing.step, runThread, goto_pc_self]
  have hstep {r r' : Ring} (hr : PacketRing.step r (.run .consumer) = some r')
      (hcopy : r.pc .consumer ≠ .copy) :
      Guard Timely (Step devices) { s with ring := r } (.ring (.run .consumer))
        { s with ring := r' } :=
    ⟨⟨trivial, trivial, rfl⟩,
      step_run hr (fun hc => hcopy hc.2) fun _ _ => ⟨hstarted, h.pending⟩⟩
  have hwait :
      Guard Timely (Step devices) { s with ring := r₃ } (.ring (.wait .consumer false)) _ :=
    ⟨⟨fun h => absurd h (by decide), hempty, rfl⟩, step_wait (goto_pc_self _ _ _)⟩
  refine ⟨_, _, .cons (hstep hlock (by rw [h.idle.pc]; decide)) (.cons
    (hstep htest (by rw [goto_pc_self]; decide)) (.cons
    (hstep hrelease (by rw [goto_pc_self]; decide)) (.one hwait))),
    halted_of_blocked (goto_pc_self _ _ _) (h.idle.pc .producer) hwire hstarted h.pending,
    goto_pc_self _ _ _⟩

end Runs

/-- The handler waits for the first frame, and the signal for it wakes it. -/
def wokenInTime : List Act :=
  [.firstStep fun _ => 7, .ring (.run .consumer), .ring (.run .consumer), .ring (.run .consumer),
    .ring (.wait .consumer false), .receive, .ring (.run .producer), .ring (.run .producer),
    .ring (.run .producer), .ring (.run .producer), .ring (.run .consumer), .ring (.run .consumer),
    .ring (.run .consumer), .ring (.run .consumer), .handle (arrival 7 synAckSegment)]

theorem woken_in_time :
    ∃ s, Run (Guard Timely (Step (bootDevices eth4Kernel))) (start sessionWire fun _ => 0)
        wokenInTime s ∧ Answered s :=
  ⟨_, .cons ⟨trivial, .firstStep (fun _ => 7) rfl⟩
    (.cons ⟨⟨trivial, trivial, rfl⟩, step_run (t := .consumer) rfl (by decide)
      fun _ _ => ⟨Option.some_ne_none _, rfl⟩⟩
    (.cons ⟨⟨trivial, trivial, rfl⟩, step_inside rfl (by decide) (by decide)⟩
    (.cons ⟨⟨trivial, trivial, rfl⟩, step_inside rfl (by decide) (by decide)⟩
    (.cons ⟨⟨fun h => absurd h (by decide), rfl, rfl⟩, step_wait rfl⟩
    (.cons ⟨trivial, .receive rfl (listened_bytes _) rfl⟩
    (.cons ⟨⟨trivial, trivial, rfl⟩, step_producer rfl⟩
    (.cons ⟨⟨trivial, trivial, rfl⟩, step_producer rfl⟩
    (.cons ⟨⟨trivial, trivial, rfl⟩, step_producer rfl⟩
    (.cons ⟨⟨trivial, trivial, rfl⟩, step_producer rfl⟩
    (.cons ⟨⟨trivial, trivial, rfl⟩, step_inside rfl (by decide) (by decide)⟩
    (.cons ⟨⟨trivial, trivial, rfl⟩, step_copy rfl rfl⟩
    (.cons ⟨⟨trivial, trivial, rfl⟩, step_inside rfl (by decide) (by decide)⟩
    (.cons ⟨⟨trivial, trivial, rfl⟩, step_inside rfl (by decide) (by decide)⟩
    (.cons ⟨trivial, .handle (arrival 7 synAckSegment) rfl rfl⟩ (.nil _))))))))))))))),
    ⟨⟨idle_of_pc rfl rfl rfl, rfl, by decide, rfl⟩, rfl, rfl, rfl⟩⟩

theorem session_suffices :
    ∃ as s, Run (Guard Timely (Step (bootDevices eth4Kernel))) (start sessionWire fun _ => 0)
        (wokenInTime ++ as) s ∧
      Halted (bootDevices eth4Kernel) s ∧ s.ring.pc .consumer = .blocked ∧
      s.handled.map Arrival.frame = accepted sessionWire := by
  obtain ⟨s, hrun, hanswered⟩ := woken_in_time
  obtain ⟨as, t, hcalm, hresting, hstarted, hwire, -⟩ := hanswered.exists_rest 3
  have hrest : Run (Guard Timely (Step (bootDevices eth4Kernel))) s as t :=
    hcalm.weaken fun _ _ _ h => ⟨timely_of_calm h.1, h.2⟩
  have hfirst : t.started ≠ none := by
    rw [hstarted]
    exact Option.some_ne_none _
  obtain ⟨bs, u, hwait, hhalted, hblocked⟩ := exists_halted hresting hfirst hwire
  exact ⟨as ++ bs, u, hrun.append (hrest.append hwait), hhalted, hblocked,
    signals_suffice (hrun.append (hrest.append hwait)) hhalted⟩

/-- The frame comes between the test of the consumer and its wait. -/
def lateWait : List Act :=
  [.firstStep fun _ => 7, .ring (.run .consumer), .ring (.run .consumer), .ring (.run .consumer),
    .receive, .ring (.run .producer), .ring (.run .producer), .ring (.run .producer),
    .ring (.run .producer), .ring (.wait .consumer false)]

/-- One signal lost is enough: the only frame stays in the ring. -/
theorem lost_wakeup_strands :
    ∃ s, Run (Guard Ready (Step (bootDevices eth4Kernel)))
        (start [synAckSegment.bytes] fun _ => 0) lateWait s ∧
      (∀ a ∈ lateWait, a.isSpurious = false) ∧ Halted (bootDevices eth4Kernel) s ∧
      s.handled = [] ∧
      s.ring.pushed = [synAckSegment.bytes] := by
  have hend : ∃ s, Run (Guard Ready (Step (bootDevices eth4Kernel)))
        (start [synAckSegment.bytes] fun _ => 0) lateWait s ∧
      s.ring.pc .consumer = .blocked ∧ s.ring.pc .producer = .lock ∧ accepted s.wire = [] ∧
      s.started ≠ none ∧ s.pending = none ∧ s.handled = [] ∧
      s.ring.pushed = [synAckSegment.bytes] :=
    ⟨_, .cons ⟨trivial, .firstStep (fun _ => 7) rfl⟩
      (.cons ⟨trivial, step_run (t := .consumer) rfl (by decide)
        fun _ _ => ⟨Option.some_ne_none _, rfl⟩⟩
      (.cons ⟨trivial, step_inside rfl (by decide) (by decide)⟩
      (.cons ⟨trivial, step_inside rfl (by decide) (by decide)⟩
      (.cons ⟨trivial, .receive rfl (listened_bytes _) rfl⟩ (.cons ⟨trivial, step_producer rfl⟩
      (.cons ⟨trivial, step_producer rfl⟩ (.cons ⟨trivial, step_producer rfl⟩
      (.cons ⟨trivial, step_producer rfl⟩
      (.cons ⟨fun h => absurd h (by decide), step_wait rfl⟩ (.nil _)))))))))),
      rfl, rfl, rfl, Option.some_ne_none _, rfl, rfl, rfl⟩
  obtain ⟨s, hrun, hconsumer, hproducer, hwire, hstarted, hpending, hrest⟩ := hend
  refine ⟨s, hrun, ?_, halted_of_blocked hconsumer hproducer hwire hstarted hpending, hrest⟩
  simp [lateWait, Act.isSpurious, PacketRing.Act.isSpurious]

end VpnRouter.Program
