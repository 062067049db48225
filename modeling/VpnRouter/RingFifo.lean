import VpnRouter.Lib.Simulation
import VpnRouter.RingQueue
import VpnRouter.RingSafety

/-!
# The packet ring as a bounded queue

The two threads, the calls made one after another and a queue of 19 frames, seen
through the frames that go in and out.  All three have the same runs
(`ring_is_fifo`): however the steps of the threads interleave, their copies take
effect in an order that a queue allows, and every order it allows is taken.
-/

namespace VpnRouter.RingFifo

open Lib.Memory Lib.RingBuffer Lib.Transition PacketRing RingQueue

abbrev FrameEvent := QueueEvent (List UInt8)

/-! ## The three systems -/

/-- The callers push frames that fit into a slot. -/
def Fits : FrameEvent → Prop
  | .push frame => frame.length ≤ MAC_PACKET_SIZE
  | .pull _ => True

def FifoStep : List (List UInt8) → FrameEvent → List (List UInt8) → Prop :=
  Guard (fun _ e => Fits e) (Fifo PACKET_CACHE)

def carried (_ : List (List UInt8)) (e : FrameEvent) : List FrameEvent := [e]

def Admissible (s : Ring) (a : Act) : Prop :=
  WakesReady s a ∧ ∀ frame, a = .push frame → frame.length ≤ MAC_PACKET_SIZE

def ThreadStep : Ring → Act → Ring → Prop := Guard Admissible RingStep

def moved (s : Ring) : Thread → FrameEvent
  | .producer => .push s.frame
  | .consumer => .pull (s.buffer s.j)

/-- The threads are seen when they copy. -/
def copied (s : Ring) : Act → List FrameEvent
  | .run t => if s.pc t = .copy then [moved s t] else []
  | _ => []

/-- A pull is seen by what it returns. -/
def called (s : History) : RingCall → List FrameEvent
  | .push buf nRead => [.push (load buf 0 nRead)]
  | .pull buf => (pullFromBuf s.cache buf).toList.map fun x => .pull (load x.2.1 0 x.2.2)

/-! ## The threads and the queue -/

/-- The queue has the frames that were pushed and not pulled yet. -/
structure Serves (r : Ring) (q : List (List UInt8)) : Prop where
  sound : Sound r
  queue : r.pushed = r.pulled ++ q
  fits : r.frame.length ≤ MAC_PACKET_SIZE

theorem copied_of_not_copy {r : Ring} {a : Act} (h : ¬ ∃ t, a = .run t ∧ r.pc t = .copy) :
    copied r a = [] := by
  cases a with
  | run t => exact if_neg fun hpc => h ⟨t, rfl, hpc⟩
  | _ => rfl

theorem serves_copy {r : Ring} {q : List (List UInt8)} {t : Thread} (h : Serves r q)
    (hready : ¬ mustWait r t) :
    ∃ q', FifoStep q (moved r t) q' ∧ (copyFrame r t).pushed = (copyFrame r t).pulled ++ q' := by
  cases t with
  | producer =>
      refine ⟨q ++ [r.frame], ⟨h.fits, ?_, rfl⟩, ?_⟩
      · exact (h.sound.queue.not_full_iff h.queue).mp hready
      · simp only [copyFrame]
        rw [h.queue, List.append_assoc]
  | consumer =>
      obtain ⟨rest, hq, hpushed⟩ := h.sound.queue.fifo_pull h.queue hready
      exact ⟨rest, ⟨trivial, hq⟩, hpushed⟩

/-- A copy is a step of the queue, and every other step of a thread goes unseen. -/
theorem threads_simulated : Simulates ThreadStep copied FifoStep carried Serves := by
  rintro r q a r' h ⟨⟨hwakes, hfits⟩, hstep⟩
  have hsound : Sound r' := sound_step h.sound hwakes hstep
  by_cases hcopy : ∃ t, a = .run t ∧ r.pc t = .copy
  · obtain ⟨t, rfl, hpc⟩ := hcopy
    have hr' : r' = goto (copyFrame r t) t .signal := by
      simpa only [RingStep, step, runThread, hpc, Option.some.injEq] using hstep.symm
    obtain ⟨q', hfifo, hqueue⟩ := serves_copy h (h.sound.ready t hpc)
    have hout : copied r (.run t) = carried q (moved r t) := if_pos hpc
    refine ⟨q', .one hfifo hout.symm, hsound, ?_, ?_⟩
    · rw [hr']
      exact hqueue
    · rw [hr']
      cases t <;> exact h.fits
  · refine ⟨q, copied_of_not_copy hcopy ▸ .nil q, ?_⟩
    by_cases hpush : ∃ frame, a = .push frame
    · obtain ⟨frame, rfl⟩ := hpush
      cases moves_of_step hstep with
      | push _ _ _ => exact ⟨hsound, h.queue, hfits frame rfl⟩
    · obtain ⟨hpushed, hpulled, hframe⟩ :=
        step_same (fun frame ha => hpush ⟨frame, ha⟩) hcopy hstep
      refine ⟨hsound, ?_, hframe ▸ h.fits⟩
      rw [hpushed, hpulled]
      exact h.queue

theorem admissible_run (r : Ring) (t : Thread) : Admissible r (.run t) :=
  ⟨trivial, fun _ h => by cases h⟩

/-- The call of a thread that is alone is seen as the frame it moves. -/
theorem call_of_test {r : Ring} {t : Thread} (hpc : r.pc t = .test)
    (hother : r.pc t.other = .lock) (hready : ¬ mustWait r t) :
    Observed ThreadStep copied r [moved r t] (afterUnlock r t) := by
  obtain ⟨htest, hcopy, hsignal, hunlock⟩ := call_steps hpc hother hready
  have hstep {x y : Ring} (h : step x (.run t) = some y) : ThreadStep x (.run t) y :=
    ⟨admissible_run x t, h⟩
  have hcopied : copied (afterTest r t) (.run t) = [moved r t] := by
    rw [copied, if_pos (afterTest_pc r t)]
    cases t <;> rfl
  have hquiet {x : Ring} {pc : Pc} (hx : x.pc t = pc) (hne : pc ≠ .copy) :
      copied x (.run t) = [] :=
    if_neg (by rw [hx]; exact hne)
  have hrest : Observed ThreadStep copied (afterCopy r t) [] (afterUnlock r t) :=
    .silent (hstep hsignal) (hquiet (afterCopy_pc r t) (by decide))
      (.silent (hstep hunlock) (hquiet (afterSignal_pc r t) (by decide)) (.nil _))
  have hcall : Observed ThreadStep copied (afterTest r t) [moved r t] (afterUnlock r t) :=
    (Observed.one (hstep hcopy) hcopied).append hrest
  exact .silent (hstep htest) (hquiet hpc (by decide)) hcall

theorem sound_of_observed {r r' : Ring} {es : List FrameEvent}
    (h : Observed ThreadStep copied r es r') (hr : Sound r) : Sound r' := by
  have hkeep (s : Ring) (a : Act) (s' : Ring) (hs : Sound s) (hstep : ThreadStep s a s') :
      Sound s' := sound_step hs hstep.1.1 hstep.2
  exact h.invariant hkeep hr

/-- A step of the queue is a whole call of one thread while the other rests. -/
theorem fifo_in_threads :
    Simulates FifoStep carried ThreadStep copied fun q r => Idle r ∧ Serves r q := by
  rintro q r e q' ⟨hidle, h⟩ ⟨hfits, hstep⟩
  cases e with
  | push frame =>
      obtain ⟨hroom, rfl⟩ := hstep
      let r₀ := goto { r with lock := some .producer, frame := frame } .producer .test
      have hready : ¬ mustWait r₀ .producer := (h.sound.queue.not_full_iff h.queue).mpr hroom
      have hpush : ThreadStep r (.push frame) r₀ :=
        ⟨⟨trivial, fun _ hframe => by cases hframe; exact hfits⟩,
          if_pos ⟨hidle.pc .producer, hidle.lock⟩⟩
      have hother : r₀.pc .consumer = .lock := hidle.pc .consumer
      have hcall := call_of_test (goto_pc_self _ _ _) hother hready
      have hrun : Observed ThreadStep copied r [.push frame] (afterUnlock r₀ .producer) :=
        .silent hpush rfl hcall
      refine ⟨_, hrun, idle_afterUnlock hother, sound_of_observed hrun h.sound, ?_, hfits⟩
      have hqueue : r.pushed ++ [frame] = r.pulled ++ (q ++ [frame]) := by
        rw [h.queue, List.append_assoc]
      exact hqueue
  | pull frame =>
      obtain ⟨hempty, rfl, hpushed⟩ := h.sound.queue.pull_of_fifo h.queue hstep
      let r₀ := goto { r with lock := some .consumer } .consumer .test
      have hready : ¬ mustWait r₀ .consumer := hempty
      have hpull : ThreadStep r (.run .consumer) r₀ := by
        refine ⟨admissible_run r .consumer, ?_⟩
        simp only [RingStep, step, runThread, hidle.pc, hidle.lock, and_self, if_true, r₀]
      have hother : r₀.pc .producer = .lock := hidle.pc .producer
      have hcall := call_of_test (t := .consumer) (goto_pc_self _ _ _) hother hready
      have hquiet : copied r (.run .consumer) = [] := if_neg (by rw [hidle.pc]; decide)
      have hrun : Observed ThreadStep copied r [.pull (r.buffer r.j)] (afterUnlock r₀ .consumer) :=
        .silent hpull hquiet hcall
      exact ⟨_, hrun, idle_afterUnlock hother, sound_of_observed hrun h.sound, hpushed, h.fits⟩

/-! ## The calls and the queue -/

/-- The queue has the frames that the calls pushed and did not pull yet. -/
structure Keeps (s : History) (q : List (List UInt8)) : Prop where
  queued : Queued s
  queue : s.pushed = s.pulled ++ q

/-- A pull returns the frame of the slot that is read. -/
theorem called_pull {s : History} {buf buf' : Mem} {cache : PackCache} {nRead : Nat}
    (h : pullFromBuf s.cache buf = some (cache, buf', nRead)) :
    called s (.pull buf) = [.pull (s.cache.frames s.cache.j)] := by
  obtain ⟨_, _, _, _, hframe⟩ := frames_pullFromBuf h
  rw [called, h, ← hframe]
  rfl

theorem calls_simulated : Simulates QueueStep called FifoStep carried Keeps := by
  intro s q c s' h hstep
  have hqueued : Queued s' := queued_step s c s' h.queued hstep
  cases c with
  | push buf nRead =>
      obtain ⟨cache, hpush, rfl⟩ := hstep
      have hfull := (frames_pushToBuf hpush).1
      have hfits : (load buf 0 nRead).length ≤ MAC_PACKET_SIZE := by
        rw [length_load]
        exact Nat.le_of_lt_succ nRead.isLt
      have hfifo : FifoStep q (.push (load buf 0 nRead)) (q ++ [load buf 0 nRead]) :=
        ⟨hfits, (h.queued.not_full_iff h.queue).mp hfull, rfl⟩
      refine ⟨_, .one hfifo rfl, hqueued, ?_⟩
      rw [h.queue, List.append_assoc]
  | pull buf =>
      obtain ⟨cache, buf', nRead, hpull, rfl⟩ := hstep
      obtain ⟨hempty, _, _, _, hframe⟩ := frames_pullFromBuf hpull
      obtain ⟨rest, hq, hpushed⟩ := h.queued.fifo_pull h.queue hempty
      have hfifo : FifoStep q (.pull (s.cache.frames s.cache.j)) rest := ⟨trivial, hq⟩
      refine ⟨rest, .one hfifo (called_pull hpull).symm, hqueued, ?_⟩
      rw [hframe]
      exact hpushed

theorem fifo_in_calls : Simulates FifoStep carried QueueStep called fun q s => Keeps s q := by
  rintro q s e q' h ⟨hfits, hstep⟩
  cases e with
  | push frame =>
      obtain ⟨hroom, rfl⟩ := hstep
      let c : RingCall := .push (overlay frame fun _ => 0) ⟨frame.length, Nat.lt_succ_of_le hfits⟩
      have hfull := (h.queued.not_full_iff h.queue).mpr hroom
      have hout : called s c = carried q (.push frame) :=
        congrArg (fun x => [QueueEvent.push x]) (load_overlay frame _)
      have hcall : QueueStep s c _ := ⟨_, if_neg hfull, rfl⟩
      refine ⟨_, .one hcall hout, queued_step s c _ h.queued hcall, ?_⟩
      rw [load_overlay, h.queue, List.append_assoc]
  | pull frame =>
      obtain ⟨hempty, rfl, hpushed⟩ := h.queued.pull_of_fifo h.queue hstep
      have hpull : pullFromBuf s.cache (fun _ => 0) = some _ := if_neg hempty
      obtain ⟨_, _, _, _, hframe⟩ := frames_pullFromBuf hpull
      have hcall : QueueStep s (.pull fun _ => 0) _ := ⟨_, _, _, hpull, rfl⟩
      refine ⟨_, .one hcall (called_pull hpull), queued_step s _ _ h.queued hcall, ?_⟩
      rw [hframe]
      exact hpushed

/-- The threads and the calls put frames in and take them out in exactly the
orders of a queue of 19 frames. -/
theorem ring_is_fifo (cache : PackCache) :
    Traces ThreadStep copied PacketRing.initMutithread = Traces FifoStep carried [] ∧
      Traces QueueStep called (start cache) = Traces FifoStep carried [] := by
  have hserves : Serves PacketRing.initMutithread [] :=
    ⟨sound_init, rfl, Nat.zero_le _⟩
  have hkeeps : Keeps (start cache) [] := ⟨queued_start cache, rfl⟩
  exact ⟨traces_eq threads_simulated fifo_in_threads hserves ⟨idle_init, hserves⟩,
    traces_eq calls_simulated fifo_in_calls hkeeps hkeeps⟩

end VpnRouter.RingFifo
