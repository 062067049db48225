import VpnRouter.Handler
import VpnRouter.RingSafety
import VpnRouter.TcpAck

/-!
# The two threads

`listen_packet` and `handle_packet` with the ring between them.  The listener
pushes every frame until the first one shorter than 42 bytes, and then returns.
The handler sends its SYN and works through the frames it pulls.  Under every
schedule whose wake-ups find the ring ready it does what the frames alone say
(`frames_in_order`, `schedules_agree`).
-/

namespace VpnRouter.Program

open PacketRing Lib Lib.Memory Lib.Transition

/-- `recvfrom` into 2048 bytes; `none` is the branch that returns. -/
def listened (bs : List UInt8) : Option Received :=
  if h : 42 ≤ (bs.take 2048).length then
    some { bytes := bs.take 2048, lower := h, upper := List.length_take_le 2048 bs }
  else none

/-- The frames the listener pushes; an error of `recvfrom` counts as no bytes. -/
def accepted : List (List UInt8) → List Received
  | [] => []
  | bs :: wire =>
      match listened bs with
      | some f => f :: accepted wire
      | none => []

/-- The frames still to come are on the wire, and `pending` is a frame that was
pulled and is not handled yet.  The last two fields are what the handler has
handled and what it has done. -/
structure State where
  ring : Ring
  wire : List (List UInt8)
  started : Option Mem
  pending : Option (List UInt8)
  handler : Handler
  handled : List Arrival
  log : List TcpEvent

inductive Act
  /-- `recvfrom` returns a frame and `push_to_buf` takes the lock. -/
  | receive
  | ring (a : PacketRing.Act)
  | firstStep (stack : Mem)
  | handle (a : Arrival)

def start (wire : List (List UInt8)) (buf : Mem) : State where
  ring := initMutithread
  wire := wire
  started := none
  pending := none
  handler := { link := tcpInitial, buf := buf }
  handled := []
  log := []

/-- The handler enters `pull_from_buf` after `tcp_first_step` and between frames. -/
def mayPull (s : State) : Prop := s.started ≠ none ∧ s.pending = none

/-- A step of one of the threads. -/
inductive Step (devices : List DeviceItem) (s : State) : Act → State → Prop
  | receive {bs : List UInt8} {wire : List (List UInt8)} {f : Received} {ring : Ring} :
      s.wire = bs :: wire → listened bs = some f →
      PacketRing.step s.ring (.push f.bytes) = some ring →
      Step devices s .receive { s with ring := ring, wire := wire }
  | ring {a : PacketRing.Act} {ring : Ring} :
      (∀ frame, a ≠ .push frame) → PacketRing.step s.ring a = some ring →
      (a = .run .consumer → s.ring.pc .consumer = .lock → mayPull s) →
      Step devices s (.ring a)
        { s with
          ring := ring
          pending :=
            if a = .run .consumer ∧ s.ring.pc .consumer = .copy then
              some (s.ring.buffer s.ring.j)
            else s.pending }
  | firstStep (stack : Mem) : s.started = none →
      Step devices s (.firstStep stack)
        { s with
          started := some stack
          handler := { s.handler with link := (tcpFirstStep s.handler.link stack).1 }
          log := s.log ++ (tcpFirstStep s.handler.link stack).2 }
  | handle (a : Arrival) : s.pending = some a.frame.bytes → s.ring.pc .consumer = .lock →
      Step devices s (.handle a)
        { s with
          pending := none
          handler := (handlePacket devices s.handler a).1
          handled := s.handled ++ [a]
          log := s.log ++ (handlePacket devices s.handler a).2 }

/-- The wake-ups without a signal come when the ring is ready, and no wait drops the
lock of the other thread. -/
def Ready (s : State) : Act → Prop
  | .ring a => WakesReady s.ring a
  | _ => True

/-! ## What the ring passes on -/

/-- The producer has a frame that is not in the ring yet. -/
def carries : Pc → Bool
  | .lock | .signal | .unlock => false
  | _ => true

def inHand (r : Ring) : List (List UInt8) := if carries (r.pc .producer) then [r.frame] else []

section Ring

variable {r r' : Ring} {a : PacketRing.Act}

theorem flow_push {frame : List UInt8} (h : PacketRing.step r (.push frame) = some r') :
    r'.pushed ++ inHand r' = r.pushed ++ inHand r ++ [frame] ∧ r'.pulled = r.pulled ∧
      r'.pc .consumer = r.pc .consumer := by
  cases moves_of_step h with
  | push _ hpc hlock =>
      have hin : inHand r = [] := by
        rw [inHand, hpc]
        rfl
      rw [hin, List.append_nil]
      exact ⟨rfl, rfl, rfl⟩

theorem inHand_congr (hpc : carries (r'.pc .producer) = carries (r.pc .producer))
    (hframe : r'.frame = r.frame) : inHand r' = inHand r := by
  rw [inHand, inHand, hpc, hframe]

/-- A move of a thread to a place where it carries as much as before. -/
theorem carries_goto {t : Thread} {pc pc' : Pc} (hpc : r.pc t = pc)
    (h : carries pc' = carries pc) (u : Thread) :
    carries ((goto r t pc').pc u) = carries (r.pc u) := by
  rcases t.eq_or_other u with rfl | rfl
  · rw [goto_pc_self, h, hpc]
  · rw [goto_pc_other]

/-- The signal wakes a thread that waits, which carries its frame before and after. -/
theorem carries_condSignal (t u : Thread) :
    carries ((condSignal r t).pc u) = carries (r.pc u) := by
  unfold condSignal
  split
  · rename_i hblocked
    exact carries_goto hblocked (by rfl) u
  · rfl

/-- A thread carries what it carried unless it enters its call or copies. -/
theorem carries_step (h : PacketRing.step r a = some r') (t : Thread)
    (hpush : t = .producer → ∀ frame, a ≠ .push frame)
    (hrun : a = .run t → r.pc t ≠ .lock ∧ r.pc t ≠ .copy) :
    carries (r'.pc t) = carries (r.pc t) := by
  cases moves_of_step h with
  | push frame _ _ =>
      cases t with
      | producer => exact absurd rfl (hpush rfl frame)
      | consumer => rfl
  | pull hpc _ =>
      cases t with
      | producer => rfl
      | consumer => exact absurd hpc (hrun rfl).1
  | mustWait u hpc _ => exact carries_goto hpc (by rfl) t
  | pass u hpc _ => exact carries_goto hpc (by rfl) t
  | release u hpc => exact carries_goto (r := { r with lock := none }) hpc (by rfl) t
  | wait u drops hpc => exact carries_goto (r := { r with lock := _ }) hpc (by rfl) t
  | spurious u hpc => exact carries_goto hpc (by rfl) t
  | wake u hpc _ => exact carries_goto (r := { r with lock := some u }) hpc (by rfl) t
  | copy u hpc =>
      rcases u.eq_or_other t with rfl | rfl
      · exact absurd hpc (hrun rfl).2
      · rw [goto_pc_other, copyFrame_pc]
  | signal u hpc =>
      have hself : (condSignal r u).pc u = .signal := (condSignal_pc_self r u).trans hpc
      rw [carries_goto hself (by rfl), carries_condSignal]
  | unlock u hpc => exact carries_goto (r := { r with lock := none }) hpc (by rfl) t

/-- A copy moves the producer's frame into the ring or the consumer's out of it. -/
theorem flow_copy {t : Thread} (hpc : r.pc t = .copy) :
    (goto (copyFrame r t) t .signal).pushed ++ inHand (goto (copyFrame r t) t .signal) =
        r.pushed ++ inHand r ∧
      (goto (copyFrame r t) t .signal).pulled = r.pulled ++
        (if PacketRing.Act.run t = .run .consumer ∧ r.pc .consumer = .copy then [r.buffer r.j]
          else []) := by
  cases t with
  | producer =>
      have hbefore : inHand r = [r.frame] := by
        rw [inHand, hpc]
        rfl
      have hafter : inHand (goto (copyFrame r .producer) .producer .signal) = [] := by
        rw [inHand, goto_pc_self]
        rfl
      rw [hbefore, hafter, List.append_nil, if_neg (by simp), List.append_nil]
      exact ⟨rfl, rfl⟩
  | consumer =>
      have hsame : inHand (goto (copyFrame r .consumer) .consumer .signal) = inHand r :=
        inHand_congr (congrArg carries (goto_pc_of_ne _ (by decide) _)) rfl
      rw [hsame, if_pos ⟨rfl, hpc⟩]
      exact ⟨rfl, rfl⟩

/-- Any step but a push moves frames along and takes none in. -/
theorem flow_run (hpush : ∀ frame, a ≠ .push frame) (h : PacketRing.step r a = some r') :
    r'.pushed ++ inHand r' = r.pushed ++ inHand r ∧
      r'.pulled = r.pulled ++
        (if a = .run .consumer ∧ r.pc .consumer = .copy then [r.buffer r.j] else []) := by
  by_cases hcopy : ∃ t, a = .run t ∧ r.pc t = .copy
  · obtain ⟨t, rfl, hpc⟩ := hcopy
    have hr' : r' = goto (copyFrame r t) t .signal := by
      simpa only [PacketRing.step, runThread, hpc, Option.some.injEq] using h.symm
    rw [hr']
    exact flow_copy hpc
  · have hcarries : carries (r'.pc .producer) = carries (r.pc .producer) := by
      apply carries_step h .producer (fun _ => hpush)
      intro ha
      refine ⟨fun hpc => ?_, fun hpc => hcopy ⟨.producer, ha, hpc⟩⟩
      rw [ha] at h
      simp [PacketRing.step, runThread, hpc] at h
    obtain ⟨hpushed, hpulled, hframe⟩ := step_same hpush hcopy h
    rw [inHand, inHand, hcarries, hpushed, hpulled, hframe,
      if_neg fun h => hcopy ⟨.consumer, h⟩, List.append_nil]
    exact ⟨rfl, rfl⟩

/-- Only its own step takes the consumer out of the place before its call. -/
theorem lock_step (hlock : r.pc .consumer = .lock) (hrun : a ≠ .run .consumer)
    (h : PacketRing.step r a = some r') : r'.pc .consumer = .lock := by
  have hself {t : Thread} {pc : Pc} (hpc : r.pc t = pc) (hne : pc ≠ .lock) :
      Thread.consumer ≠ t := by
    rintro rfl
    exact hne (hpc.symm.trans hlock)
  cases moves_of_step h with
  | push frame _ _ => exact hlock
  | pull _ _ => exact absurd rfl hrun
  | mustWait t hpc _ => exact (goto_pc_of_ne _ (hself hpc (by decide)) _).trans hlock
  | pass t hpc _ => exact (goto_pc_of_ne _ (hself hpc (by decide)) _).trans hlock
  | release t hpc => exact (goto_pc_of_ne _ (hself hpc (by decide)) _).trans hlock
  | wait t drops hpc => exact (goto_pc_of_ne _ (hself hpc (by decide)) _).trans hlock
  | spurious t hpc => exact (goto_pc_of_ne _ (hself hpc (by decide)) _).trans hlock
  | wake t hpc _ => exact (goto_pc_of_ne _ (hself hpc (by decide)) _).trans hlock
  | copy t hpc =>
      rw [goto_pc_of_ne _ (hself hpc (by decide)), copyFrame_pc]
      exact hlock
  | signal t hpc =>
      rw [goto_pc_of_ne _ (hself hpc (by decide))]
      unfold condSignal
      split
      · rename_i hblocked
        rw [goto_pc_of_ne _ (hself hblocked (by decide)), hlock]
      · exact hlock
  | unlock t hpc => exact (goto_pc_of_ne _ (hself hpc (by decide)) _).trans hlock

end Ring

/-! ## The frames that are handled -/

/-- The handler after `tcp_first_step`. -/
def opened (stack buf : Mem) : Handler :=
  { link := (tcpFirstStep tcpInitial stack).1, buf := buf }

/-- What the handler has done, when it started at all. -/
def Worked (devices : List DeviceItem) (buf : Mem) (s : State) : Prop :=
  match s.started with
  | none =>
      s.ring.pc .consumer = .lock ∧ s.pending = none ∧ s.handled = [] ∧ s.log = [] ∧
        s.handler = { link := tcpInitial, buf := buf }
  | some stack =>
      s.log = (tcpFirstStep tcpInitial stack).2 ++
          Monitor.trace (handlePacket devices) (opened stack buf) s.handled ∧
        s.handler = Monitor.final (handlePacket devices) (opened stack buf) s.handled

/-- The invariant: what was taken from the wire is in the ring's history or in the
listener's hand, what was pulled is handled or pending, and while a frame is
pending the handler does not pull. -/
structure Ordered (devices : List DeviceItem) (wire : List (List UInt8)) (buf : Mem) (s : State) :
    Prop where
  sound : Sound s.ring
  taken : ∃ fs, accepted wire = fs ++ accepted s.wire ∧
    fs.map Received.bytes = s.ring.pushed ++ inHand s.ring
  pulled : s.ring.pulled = s.handled.map (fun a => a.frame.bytes) ++ s.pending.toList
  idle : s.pending ≠ none → carries (s.ring.pc .consumer) = false
  worked : Worked devices buf s

section Runs

variable {devices : List DeviceItem} {wire : List (List UInt8)} {buf : Mem} {s t : State} {a : Act}

/-- Before its first step the handler has done nothing. -/
theorem Ordered.waiting (h : Ordered devices wire buf s) (hstarted : s.started = none) :
    s.pending = none ∧ s.log = [] ∧ s.handler = { link := tcpInitial, buf := buf } := by
  have hworked := h.worked
  unfold Worked at hworked
  simp only [hstarted] at hworked
  exact ⟨hworked.2.1, hworked.2.2.2⟩

/-- From its first step on it has done its work on the frames handled. -/
theorem Ordered.working (h : Ordered devices wire buf s) {stack : Mem}
    (hstarted : s.started = some stack) :
    s.log = (tcpFirstStep tcpInitial stack).2 ++
        Monitor.trace (handlePacket devices) (opened stack buf) s.handled ∧
      s.handler = Monitor.final (handlePacket devices) (opened stack buf) s.handled := by
  have hworked := h.worked
  unfold Worked at hworked
  simpa only [hstarted] using hworked

theorem ordered_start : Ordered devices wire buf (start wire buf) where
  sound := sound_init
  taken := ⟨[], rfl, rfl⟩
  pulled := rfl
  idle := fun h => absurd rfl h
  worked := ⟨rfl, rfl, rfl, rfl, rfl⟩

theorem ordered_receive {bs : List UInt8} {wire' : List (List UInt8)} {f : Received} {ring : Ring}
    (h : Ordered devices wire buf s) (hwire : s.wire = bs :: wire') (hf : listened bs = some f)
    (hstep : PacketRing.step s.ring (.push f.bytes) = some ring) :
    Ordered devices wire buf { s with ring := ring, wire := wire' } := by
  obtain ⟨hflow, hpulled, hpc⟩ := flow_push hstep
  obtain ⟨fs, haccepted, hfs⟩ := h.taken
  constructor
  · exact sound_step h.sound (show WakesReady s.ring (.push f.bytes) from trivial) hstep
  · refine ⟨fs ++ [f], ?_, ?_⟩
    · rw [haccepted, hwire, accepted, hf, List.append_assoc, List.singleton_append]
    · rw [List.map_append, hfs, hflow]
      rfl
  · rw [hpulled]
    exact h.pulled
  · rw [hpc]
    exact h.idle
  · have hworked := h.worked
    unfold Worked at hworked ⊢
    rw [hpc]
    exact hworked

theorem ordered_ring {a : PacketRing.Act} {ring : Ring} (h : Ordered devices wire buf s)
    (hpush : ∀ frame, a ≠ .push frame) (hready : WakesReady s.ring a)
    (hstep : PacketRing.step s.ring a = some ring)
    (hpull : a = .run .consumer → s.ring.pc .consumer = .lock → mayPull s) :
    Ordered devices wire buf
      { s with
        ring := ring
        pending :=
          if a = .run .consumer ∧ s.ring.pc .consumer = .copy then some (s.ring.buffer s.ring.j)
          else s.pending } := by
  obtain ⟨hflow, hpulled⟩ := flow_run hpush hstep
  have hfree (hcopy : s.ring.pc .consumer = .copy) : s.pending = none := by
    by_contra hsome
    have hidle := h.idle hsome
    rw [hcopy] at hidle
    cases hidle
  constructor
  · exact sound_step h.sound hready hstep
  · obtain ⟨fs, haccepted, hfs⟩ := h.taken
    exact ⟨fs, haccepted, by rw [hflow, hfs]⟩
  · rw [hpulled, h.pulled]
    by_cases hcopy : a = .run .consumer ∧ s.ring.pc .consumer = .copy
    · rw [if_pos hcopy, if_pos hcopy, hfree hcopy.2, Option.toList_none, List.append_nil]
      rfl
    · rw [if_neg hcopy, if_neg hcopy, List.append_nil]
  · by_cases hcopy : a = .run .consumer ∧ s.ring.pc .consumer = .copy
    · obtain ⟨rfl, hpc⟩ := hcopy
      have hring : ring = goto (copyFrame s.ring .consumer) .consumer .signal := by
        simpa only [PacketRing.step, runThread, hpc, Option.some.injEq] using hstep.symm
      intro _
      rw [hring, goto_pc_self]
      rfl
    · rw [if_neg hcopy]
      intro hsome
      have hcarries : carries (ring.pc .consumer) = carries (s.ring.pc .consumer) := by
        apply carries_step hstep .consumer (fun hne => absurd hne (by decide))
        intro ha
        exact ⟨fun hpc => hsome (hpull ha hpc).2, fun hpc => hcopy ⟨ha, hpc⟩⟩
      rw [hcarries]
      exact h.idle hsome
  · have hworked := h.worked
    unfold Worked at hworked ⊢
    cases hstarted : s.started with
    | some stack =>
        simp only [hstarted] at hworked ⊢
        exact hworked
    | none =>
        simp only [hstarted] at hworked ⊢
        obtain ⟨hlock, hnone, hrest⟩ := hworked
        have hrun : a ≠ .run .consumer := fun ha => (hpull ha hlock).1 hstarted
        rw [if_neg fun hcopy => hrun hcopy.1]
        exact ⟨lock_step hlock hrun hstep, hnone, hrest⟩

theorem ordered_firstStep (h : Ordered devices wire buf s) (stack : Mem)
    (hstarted : s.started = none) :
    Ordered devices wire buf
      { s with
        started := some stack
        handler := { s.handler with link := (tcpFirstStep s.handler.link stack).1 }
        log := s.log ++ (tcpFirstStep s.handler.link stack).2 } := by
  refine ⟨h.sound, h.taken, h.pulled, h.idle, ?_⟩
  have hworked := h.worked
  unfold Worked at hworked ⊢
  simp only [hstarted] at hworked ⊢
  obtain ⟨-, -, hhandled, hlog, hhandler⟩ := hworked
  rw [hhandled, hlog, hhandler]
  exact ⟨rfl, rfl⟩

theorem ordered_handle {a : Arrival} (h : Ordered devices wire buf s)
    (hpending : s.pending = some a.frame.bytes) :
    Ordered devices wire buf
      { s with
        pending := none
        handler := (handlePacket devices s.handler a).1
        handled := s.handled ++ [a]
        log := s.log ++ (handlePacket devices s.handler a).2 } := by
  refine ⟨h.sound, h.taken, ?_, fun hsome => absurd rfl hsome, ?_⟩
  · rw [h.pulled, hpending, List.map_append]
    exact (List.append_nil _).symm
  · unfold Worked
    cases hstarted : s.started with
    | none =>
        rw [(h.waiting hstarted).1] at hpending
        cases hpending
    | some stack =>
        obtain ⟨hlog, hhandler⟩ := h.working hstarted
        simp only
        rw [Monitor.trace_append, Monitor.final_append, ← hhandler, hlog, List.append_assoc]
        refine ⟨?_, rfl⟩
        rw [Monitor.trace, Monitor.trace, List.append_nil]

theorem ordered_step (h : Ordered devices wire buf s) (hready : Ready s a)
    (hstep : Step devices s a t) : Ordered devices wire buf t := by
  cases hstep with
  | receive hwire hf hring => exact ordered_receive h hwire hf hring
  | ring hpush hring hpull => exact ordered_ring h hpush hready hring hpull
  | firstStep stack hstarted => exact ordered_firstStep h stack hstarted
  | handle a hpending _ => exact ordered_handle h hpending

/-- A step leaves the ring alone or is one of its steps; the listener only pushes. -/
theorem ring_step (h : Step devices s a t) :
    t.ring = s.ring ∨ ∃ b, PacketRing.step s.ring b = some t.ring ∧
      (a = .ring b ∨ ∃ frame, b = .push frame) := by
  cases h with
  | @receive _ _ f _ _ _ hring => exact .inr ⟨_, hring, .inr ⟨f.bytes, rfl⟩⟩
  | ring _ hring _ => exact .inr ⟨_, hring, .inl rfl⟩
  | firstStep _ _ => exact .inl rfl
  | handle _ _ _ => exact .inl rfl

theorem received_bytes_injective : Function.Injective Received.bytes := by
  intro f g h
  cases f
  cases g
  simp only at h
  subst h
  rfl

/-- The frames handled so far come first among the frames the listener accepts. -/
theorem handled_isPrefix (h : Ordered devices wire buf s) :
    s.handled.map Arrival.frame <+: accepted wire := by
  obtain ⟨fs, haccepted, hfs⟩ := h.taken
  refine List.IsPrefix.trans (?_ : s.handled.map Arrival.frame <+: fs) ?_
  · rw [← List.prefix_map_iff_of_injective received_bytes_injective, List.map_map, hfs]
    have hpulled : s.handled.map (fun a => a.frame.bytes) <+: s.ring.pulled := by
      rw [h.pulled]
      exact List.prefix_append _ _
    exact hpulled.trans (h.sound.queue.order.trans (List.prefix_append _ _))
  · rw [haccepted]
    exact List.prefix_append _ _

theorem ordered_of_run {as : List Act}
    (hrun : Run (Guard Ready (Step devices)) (start wire buf) as s) :
    Ordered devices wire buf s := by
  have hkeep (s : State) (a : Act) (t : State) (h : Ordered devices wire buf s)
      (hs : Guard Ready (Step devices) s a t) : Ordered devices wire buf t :=
    ordered_step h hs.1 hs.2
  exact hrun.invariant hkeep ordered_start

end Runs

/-! ## Every prefix is handled

With the threads taking turns every first part of the frames is handled, whatever is
found in the local arrays. -/

/-- No wait and no wake-up. -/
def Calm (_ : State) : Act → Prop
  | .ring (.run _) => True
  | .ring _ => False
  | _ => True

theorem ready_of_calm {s : State} {a : Act} (h : Calm s a) : Ready s a := by
  cases a with
  | ring b =>
      cases b with
      | run t => trivial
      | _ => cases h
  | _ => trivial

theorem ready_run {devices : List DeviceItem} {s t : State} {as : List Act}
    (h : Run (Guard Calm (Step devices)) s as t) : Run (Guard Ready (Step devices)) s as t :=
  h.weaken fun _ _ _ hstep => ⟨ready_of_calm hstep.1, hstep.2⟩

/-- Between two frames. -/
structure Resting (s : State) : Prop where
  idle : Idle s.ring
  empty : s.ring.i = s.ring.j
  index : s.ring.i < PACKET_CACHE
  pending : s.pending = none

section Rounds

variable {devices : List DeviceItem} {wire : List (List UInt8)} {buf : Mem} {s : State}

theorem listened_bytes (f : Received) : listened f.bytes = some f := by
  have htake : f.bytes.take 2048 = f.bytes := List.take_of_length_le f.upper
  have hlower : 42 ≤ (f.bytes.take 2048).length := by
    rw [htake]
    exact f.lower
  rw [listened, dif_pos hlower, Option.some.injEq]
  exact received_bytes_injective htake

theorem accepted_eq_cons {f : Received} {fs : List Received} (h : accepted wire = f :: fs) :
    ∃ bs wire', wire = bs :: wire' ∧ listened bs = some f ∧ accepted wire' = fs := by
  cases wire with
  | nil => cases h
  | cons bs wire' =>
      rw [accepted] at h
      cases hbs : listened bs with
      | none =>
          rw [hbs] at h
          cases h
      | some g =>
          simp only [hbs, List.cons.injEq] at h
          exact ⟨bs, wire', rfl, by rw [hbs, h.1], h.2⟩

/-- A step of a thread in the ring that hands no frame over. -/
theorem step_run {t : Thread} {ring : Ring} (h : PacketRing.step s.ring (.run t) = some ring)
    (hcopy : ¬ (t = .consumer ∧ s.ring.pc .consumer = .copy))
    (hpull : t = .consumer → s.ring.pc .consumer = .lock → mayPull s) :
    Step devices s (.ring (.run t)) { s with ring := ring } := by
  have hstep : Step devices s (.ring (.run t)) _ :=
    .ring (fun frame heq => by cases heq) h fun ht => hpull (PacketRing.Act.run.inj ht)
  rwa [if_neg fun hc => hcopy ⟨PacketRing.Act.run.inj hc.1, hc.2⟩] at hstep

theorem step_producer {ring : Ring} (h : PacketRing.step s.ring (.run .producer) = some ring) :
    Step devices s (.ring (.run .producer)) { s with ring := ring } :=
  step_run h (by simp) (by simp)

/-- A step between the entry of a call and its copy or after it. -/
theorem step_inside {t : Thread} {ring : Ring}
    (h : PacketRing.step s.ring (.run t) = some ring) (hlock : s.ring.pc t ≠ .lock)
    (hcopy : s.ring.pc t ≠ .copy) :
    Step devices s (.ring (.run t)) { s with ring := ring } := by
  apply step_run h
  · rintro ⟨rfl, hpc⟩
    exact hcopy hpc
  · rintro rfl hpc
    exact absurd hpc hlock

theorem step_copy {ring : Ring} (h : PacketRing.step s.ring (.run .consumer) = some ring)
    (hpc : s.ring.pc .consumer = .copy) :
    Step devices s (.ring (.run .consumer))
      { s with ring := ring, pending := some (s.ring.buffer s.ring.j) } := by
  have hstep : Step devices s (.ring (.run .consumer)) _ :=
    .ring (fun frame heq => by cases heq) h fun _ hlock => by
      rw [hpc] at hlock
      cases hlock
  rwa [if_pos ⟨rfl, hpc⟩] at hstep

theorem step_wait {t : Thread} (h : s.ring.pc t = .wait) :
    Step devices s (.ring (.wait t false)) { s with ring := goto s.ring t .blocked } := by
  have hring : PacketRing.step s.ring (.wait t false) = some (goto s.ring t .blocked) := by
    rw [PacketRing.step, if_pos h]
    rfl
  have hstep : Step devices s (.ring (.wait t false)) _ :=
    .ring (fun frame heq => by cases heq) hring fun heq => by cases heq
  rwa [if_neg (by simp)] at hstep

theorem step_spurious {t : Thread} (h : s.ring.pc t = .blocked) :
    Step devices s (.ring (.spurious t)) { s with ring := goto s.ring t .woken } := by
  have hring : PacketRing.step s.ring (.spurious t) = some (goto s.ring t .woken) := if_pos h
  have hstep : Step devices s (.ring (.spurious t)) _ :=
    .ring (fun frame heq => by cases heq) hring fun heq => by cases heq
  rwa [if_neg (by simp)] at hstep

/-- The call of a thread that is alone; the consumer's hands a frame over. -/
theorem run_call {t : Thread} (hpc : s.ring.pc t = .test) (hother : s.ring.pc t.other = .lock)
    (hready : ¬ mustWait s.ring t) :
    Run (Guard Calm (Step devices)) s (List.replicate 4 (.ring (.run t)))
      { s with
        ring := afterUnlock s.ring t
        pending := if t = .consumer then some (s.ring.buffer s.ring.j) else s.pending } := by
  obtain ⟨htest, hcopy, hsignal, hunlock⟩ := call_steps hpc hother hready
  have hpass {x : State} {ring : Ring} {pc : Pc} (hx : x.ring.pc t = pc) (hlock : pc ≠ .lock)
      (hcopy : pc ≠ .copy) (h : PacketRing.step x.ring (.run t) = some ring) :
      Guard Calm (Step devices) x (.ring (.run t)) { x with ring := ring } := by
    subst hx
    exact ⟨trivial, step_inside h hlock hcopy⟩
  have hmove : Guard Calm (Step devices) { s with ring := afterTest s.ring t } (.ring (.run t))
      { s with
        ring := afterCopy s.ring t
        pending := if t = .consumer then some (s.ring.buffer s.ring.j) else s.pending } := by
    refine ⟨trivial, ?_⟩
    cases t with
    | producer => exact step_producer hcopy
    | consumer => exact step_copy hcopy (afterTest_pc s.ring .consumer)
  exact .cons (hpass hpc (by decide) (by decide) htest) (.cons hmove
    (.cons (hpass (afterCopy_pc s.ring t) (by decide) (by decide) hsignal)
      (.cons (hpass (afterSignal_pc s.ring t) (by decide) (by decide) hunlock) (.nil _))))

/-- The next frame is received, pushed, pulled and handled. -/
theorem exists_round (h : Resting s) (hstarted : s.started ≠ none) {a : Arrival}
    {fs : List Received} (haccepted : accepted s.wire = a.frame :: fs) :
    ∃ bs t, Run (Guard Calm (Step devices)) s bs t ∧ Resting t ∧ t.started = s.started ∧
      accepted t.wire = fs ∧ t.handled = s.handled ++ [a] := by
  obtain ⟨bs, wire', hwire, hlistened, hrest⟩ := accepted_eq_cons haccepted
  let r₁ := goto { s.ring with lock := some .producer, frame := a.frame.bytes } .producer .test
  let s₁ : State := { s with ring := r₁, wire := wire' }
  let s₂ : State := { s₁ with ring := afterUnlock r₁ .producer }
  let r₃ := goto { s₂.ring with lock := some .consumer } .consumer .test
  let s₃ : State := { s₂ with ring := r₃ }
  have hindex := h.index
  have hempty := h.empty
  have hconsumer : r₁.pc .consumer = .lock := h.idle.pc .consumer
  have hidle : Idle s₂.ring := idle_afterUnlock hconsumer
  have hreceive : Guard Calm (Step devices) s .receive s₁ :=
    ⟨trivial, .receive hwire hlistened (if_pos ⟨h.idle.pc .producer, h.idle.lock⟩)⟩
  have hroom : ¬ mustWait r₁ .producer := by
    change ¬ (s.ring.i + 1) % PACKET_CACHE = s.ring.j
    unfold PACKET_CACHE at *
    omega
  have hpush : Run (Guard Calm (Step devices)) s₁ _ s₂ :=
    run_call (t := .producer) (goto_pc_self _ _ _) hconsumer hroom
  have hlock : Guard Calm (Step devices) s₂ (.ring (.run .consumer)) s₃ := by
    refine ⟨trivial, step_run ?_ ?_ fun _ _ => ⟨hstarted, h.pending⟩⟩
    · rw [PacketRing.step, runThread, hidle.pc]
      exact if_pos ⟨rfl, hidle.lock⟩
    · rintro ⟨-, hc⟩
      rw [hidle.pc] at hc
      cases hc
  have hframe : ¬ mustWait r₃ .consumer := by
    change ¬ (s.ring.i + 1) % PACKET_CACHE = s.ring.j
    unfold PACKET_CACHE at *
    omega
  have hpull : Run (Guard Calm (Step devices)) s₃ _ _ :=
    run_call (t := .consumer) (goto_pc_self _ _ _) (hidle.pc .producer) hframe
  -- what is pulled is the frame that was pushed
  have hslot : s₃.ring.buffer s₃.ring.j = a.frame.bytes := by
    change Function.update s.ring.buffer s.ring.i a.frame.bytes s.ring.j = a.frame.bytes
    rw [← hempty, Function.update_self]
  have hdone : Idle (afterUnlock r₃ .consumer) := idle_afterUnlock (hidle.pc .producer)
  have hhandle : Guard Calm (Step devices)
      { s₃ with ring := afterUnlock r₃ .consumer, pending := some a.frame.bytes } (.handle a) _ :=
    ⟨trivial, .handle a rfl (hdone.pc .consumer)⟩
  rw [if_pos rfl, hslot] at hpull
  refine ⟨_, _, .cons hreceive (hpush.append (.cons hlock (hpull.append (.one hhandle)))),
    ⟨hdone, ?_, ?_, rfl⟩, rfl, hrest, rfl⟩
  · change (s.ring.i + 1) % PACKET_CACHE = (s.ring.j + 1) % PACKET_CACHE
    rw [hempty]
  · exact Nat.mod_lt _ (by decide)

theorem exists_rounds {as : List Arrival} (h : Resting s) (hstarted : s.started ≠ none)
    {fs : List Received} (haccepted : accepted s.wire = as.map Arrival.frame ++ fs) :
    ∃ bs t, Run (Guard Calm (Step devices)) s bs t ∧ Resting t ∧ t.started = s.started ∧
      accepted t.wire = fs ∧ t.handled = s.handled ++ as := by
  induction as generalizing s with
  | nil => exact ⟨[], s, .nil s, h, rfl, haccepted, (List.append_nil _).symm⟩
  | cons a as ih =>
      obtain ⟨bs, t, hrun, ht, hsame, hwire, hhandled⟩ := exists_round h hstarted haccepted
      rw [← hsame] at hstarted
      obtain ⟨cs, u, hrest, hu, hsame', hwire', hhandled'⟩ := ih ht hstarted hwire
      refine ⟨bs ++ cs, u, hrun.append hrest, hu, hsame'.trans hsame, hwire', ?_⟩
      rw [hhandled', hhandled, List.append_assoc, List.singleton_append]

/-- Every first part of the frames accepted is what some schedule handles. -/
theorem exists_schedule {as : List Arrival} {fs : List Received}
    (h : accepted wire = as.map Arrival.frame ++ fs) (stack buf : Mem) :
    ∃ bs s, Run (Guard Calm (Step devices)) (start wire buf) bs s ∧ Resting s ∧
      s.started = some stack ∧ accepted s.wire = fs ∧ s.handled = as := by
  let s₁ : State :=
    { start wire buf with
      started := some stack
      handler := { link := (tcpFirstStep tcpInitial stack).1, buf := buf }
      log := (tcpFirstStep tcpInitial stack).2 }
  have hfirst : Guard Calm (Step devices) (start wire buf) (.firstStep stack) s₁ :=
    ⟨trivial, .firstStep stack rfl⟩
  have hresting : Resting s₁ := ⟨idle_init, rfl, Nat.zero_lt_succ 19, rfl⟩
  obtain ⟨bs, s, hrun, hs, hstarted, hwire, hhandled⟩ :=
    exists_rounds hresting (Option.some_ne_none stack) h
  exact ⟨_, s, .cons hfirst hrun, hs, hstarted, hwire, hhandled⟩

end Rounds

/-! ## A session

One card, `eth4`.  The peer answers the SYN and sends a segment with two bytes,
and a short frame ends the listener. -/

def synAckSegment : Received where
  bytes := ethFrame (macOf 0 12 41 97 26 208) (macOf 0 12 41 66 175 55) (load synAckFrame 14 40)
  lower := by
    rw [length_ethFrame, length_load]
    decide
  upper := by
    rw [length_ethFrame, length_load]
    decide

def dataSegment : Received where
  bytes := ethFrame (macOf 0 12 41 97 26 208) (macOf 0 12 41 66 175 55)
    (load (tcpPack (ipPack (fun _ => 0) 14 20 42 0 0 64 6 0x0201a8c0 0x0101a8c0) 34 22 20 30000
      49101 1001 (tcpInitial.mynum + 14) TCP_ACK 512 0 0x0201a8c0 0x0101a8c0) 14 42)
  lower := by
    rw [length_ethFrame, length_load]
    decide
  upper := by
    rw [length_ethFrame, length_load]
    decide

def sessionWire : List (List UInt8) :=
  [synAckSegment.bytes, dataSegment.bytes, [1, 2, 3], synAckSegment.bytes]

theorem accepted_sessionWire : accepted sessionWire = [synAckSegment, dataSegment] := by
  have hshort : listened [1, 2, 3] = none := rfl
  simp only [sessionWire, accepted, listened_bytes, hshort]

/-- The frame with a local array that holds `v`. -/
def arrival (v : UInt8) (f : Received) : Arrival := { frame := f, stack := fun _ => v }

/-- The connection is made and the data segment is still to come. -/
structure Answered (s : State) : Prop where
  resting : Resting s
  started : s.started = some fun _ => 7
  wire : s.wire = sessionWire.tail
  handled : s.handled = [arrival 7 synAckSegment]

/-- The threads take turns with the data segment. -/
theorem Answered.exists_rest {s : State} (h : Answered s) (v : UInt8) :
    ∃ as t, Run (Guard Calm (Step (bootDevices eth4Kernel))) s as t ∧ Resting t ∧
      t.started = some (fun _ => 7) ∧ accepted t.wire = [] ∧
      t.handled = [arrival 7 synAckSegment, arrival v dataSegment] := by
  have hstarted : s.started ≠ none := by
    rw [h.started]
    exact Option.some_ne_none _
  have haccepted : accepted s.wire = [arrival v dataSegment].map Arrival.frame ++ [] := by
    have hshort : listened [1, 2, 3] = none := rfl
    rw [h.wire, sessionWire, List.tail_cons, accepted, listened_bytes]
    simp only [accepted, hshort]
    rfl
  obtain ⟨as, t, hrun, ht, hsame, hwire, hhandled⟩ := exists_rounds h.resting hstarted haccepted
  rw [h.handled] at hhandled
  exact ⟨as, t, hrun, ht, hsame.trans h.started, hwire, hhandled⟩

/-- The handler waits for the first frame, and wakes up before the signal for it. -/
def wokenEarly : List Act :=
  [.firstStep fun _ => 7, .ring (.run .consumer), .ring (.run .consumer), .ring (.run .consumer),
    .ring (.wait .consumer false), .receive, .ring (.run .producer), .ring (.run .producer),
    .ring (.spurious .consumer), .ring (.run .producer), .ring (.run .producer),
    .ring (.run .consumer), .ring (.run .consumer), .ring (.run .consumer), .ring (.run .consumer),
    .handle (arrival 7 synAckSegment)]

theorem woken_early :
    ∃ s, Run (Guard Ready (Step (bootDevices eth4Kernel))) (start sessionWire fun _ => 0)
        wokenEarly s ∧ Answered s :=
  ⟨_, .cons ⟨trivial, .firstStep (fun _ => 7) rfl⟩
    (.cons ⟨trivial, step_run (t := .consumer) rfl (by decide)
      fun _ _ => ⟨Option.some_ne_none _, rfl⟩⟩
    (.cons ⟨trivial, step_inside rfl (by decide) (by decide)⟩
    (.cons ⟨trivial, step_inside rfl (by decide) (by decide)⟩
    (.cons ⟨fun h => absurd h (by decide), step_wait rfl⟩
    (.cons ⟨trivial, .receive rfl (listened_bytes _) rfl⟩ (.cons ⟨trivial, step_producer rfl⟩
    (.cons ⟨trivial, step_producer rfl⟩ (.cons ⟨fun h => absurd h (by decide), step_spurious rfl⟩
    (.cons ⟨trivial, step_producer rfl⟩ (.cons ⟨trivial, step_producer rfl⟩
    (.cons ⟨trivial, step_inside rfl (by decide) (by decide)⟩ (.cons ⟨trivial, step_copy rfl rfl⟩
    (.cons ⟨trivial, step_inside rfl (by decide) (by decide)⟩
    (.cons ⟨trivial, step_inside rfl (by decide) (by decide)⟩
    (.cons ⟨trivial, .handle (arrival 7 synAckSegment) rfl rfl⟩ (.nil _)))))))))))))))),
    ⟨⟨idle_of_pc rfl rfl rfl, rfl, by decide, rfl⟩, rfl, rfl, rfl⟩⟩

theorem exists_session (v : UInt8) :
    ∃ as s, Run (Guard Ready (Step (bootDevices eth4Kernel))) (start sessionWire fun _ => 0)
        (wokenEarly ++ as) s ∧
      s.started = some (fun _ => 7) ∧
      s.handled = [arrival 7 synAckSegment, arrival v dataSegment] := by
  obtain ⟨s, hrun, hanswered⟩ := woken_early
  obtain ⟨as, t, hcalm, -, hstarted, -, hhandled⟩ := hanswered.exists_rest v
  exact ⟨as, t, hrun.append (ready_run hcalm), hstarted, hhandled⟩

theorem whole_synAckSegment : synAckSegment.Whole := by
  unfold Received.Whole
  decide

theorem whole_dataSegment : dataSegment.Whole := by
  unfold Received.Whole
  decide

/-- The message of the session is delivered. -/
theorem session_delivers {v : UInt8} {s : State}
    (h : Ordered (bootDevices eth4Kernel) sessionWire (fun _ => 0) s)
    (hstarted : s.started = some (fun _ => 7))
    (hhandled : s.handled = [arrival 7 synAckSegment, arrival v dataSegment]) :
    ∃ addr len, .getmessage addr len ∈ s.log := by
  have hconnected : (handlePacket (bootDevices eth4Kernel) (opened (fun _ => 7) fun _ => 0)
      (arrival 7 synAckSegment)).1.link.status = .establish := by
    have hinbound : Inbound (bootDevices eth4Kernel) synAckSegment := by decide
    have hanswers : AnswersSyn (tcpInitial.mynum + 1) (synAckSegment.mem fun _ => 0) := by decide
    exact handlePacket_connects hinbound rfl hanswers
  have hinbound : Inbound (bootDevices eth4Kernel) dataSegment := by decide
  obtain ⟨addr, len, hmem⟩ := handlePacket_delivers (a := arrival v dataSegment) hinbound hconnected
  refine ⟨addr, len, ?_⟩
  rw [(h.working hstarted).1, hhandled, Monitor.trace, Monitor.trace]
  exact List.mem_append_right _ (List.mem_append_right _ (List.mem_append_left _ hmem))

/-! ## Every schedule does the same -/

section Schedules

variable {devices : List DeviceItem} {wire : List (List UInt8)} {buf buf' : Mem} {s s' : State}
  {as as' : List Act}

/-- When the wake-ups find the ring ready, the handler works through the frames that
the listener accepts, in their order and none twice, and does with them what it would
do alone. -/
theorem frames_in_order (hrun : Run (Guard Ready (Step devices)) (start wire buf) as s) :
    s.handled.map Arrival.frame <+: accepted wire ∧
      s.log =
        match s.started with
        | none => []
        | some stack =>
            (tcpFirstStep tcpInitial stack).2 ++
              Monitor.trace (handlePacket devices) (opened stack buf) s.handled := by
  have h := ordered_of_run hrun
  refine ⟨handled_isPrefix h, ?_⟩
  cases hstarted : s.started with
  | none => exact (h.waiting hstarted).2.1
  | some stack => exact (h.working hstarted).1

theorem session_in_order :
    ∃ as s, Run (Guard Ready (Step (bootDevices eth4Kernel))) (start sessionWire fun _ => 0)
        (wokenEarly ++ as) s ∧
      s.handled = [arrival 7 synAckSegment, arrival 3 dataSegment] ∧
      s.handled.map Arrival.frame <+: accepted sessionWire ∧
      s.log =
        match s.started with
        | none => []
        | some stack =>
            (tcpFirstStep tcpInitial stack).2 ++
              Monitor.trace (handlePacket (bootDevices eth4Kernel)) (opened stack fun _ => 0)
                s.handled := by
  obtain ⟨as, s, hrun, -, hhandled⟩ := exists_session 3
  exact ⟨as, s, hrun, hhandled, frames_in_order hrun⟩

/-- When the frames hold their headers, what a handler that started has done depends
on the frames it handled alone. -/
theorem log_of_frames (hwhole : ∀ f ∈ accepted wire, Inbound devices f → f.Whole)
    (hrun : Run (Guard Ready (Step devices)) (start wire buf) as s) (hstarted : s.started ≠ none) :
    s.log =
      (tcpFirstStep tcpInitial fun _ => 0).2 ++
        Monitor.trace tcpExec (tcpFirstStep tcpInitial fun _ => 0).1
          (inboundCalls devices (s.handled.map Arrival.frame)) := by
  have h := ordered_of_run hrun
  obtain ⟨stack, hstack⟩ := Option.ne_none_iff_exists'.mp hstarted
  have hframes (a : Arrival) (ha : a ∈ s.handled) : Inbound devices a.frame → a.frame.Whole :=
    hwhole a.frame ((handled_isPrefix h).mem (List.mem_map_of_mem ha))
  have hsyn : tcpFirstStep tcpInitial stack = tcpFirstStep tcpInitial fun _ => 0 :=
    sendSyn_array tcpInitial stack _
  rw [(h.working hstack).1, trace_handlePacket hframes, opened, hsyn]

/-- Two schedules over the same frames never do different things: the events of one
of them come first among those of the other. -/
theorem schedules_agree (hwhole : ∀ f ∈ accepted wire, Inbound devices f → f.Whole)
    (hrun : Run (Guard Ready (Step devices)) (start wire buf) as s)
    (hrun' : Run (Guard Ready (Step devices)) (start wire buf') as' s') :
    s.log <+: s'.log ∨ s'.log <+: s.log := by
  have h := ordered_of_run hrun
  have h' := ordered_of_run hrun'
  by_cases hstarted : s.started = none
  · rw [(h.waiting hstarted).2.1]
    exact .inl List.nil_prefix
  · by_cases hstarted' : s'.started = none
    · rw [(h'.waiting hstarted').2.1]
      exact .inr List.nil_prefix
    · have hmore {fs gs : List Received} (hfs : fs <+: gs) :
          (tcpFirstStep tcpInitial fun _ => 0).2 ++ Monitor.trace tcpExec
              (tcpFirstStep tcpInitial fun _ => 0).1 (inboundCalls devices fs) <+:
            (tcpFirstStep tcpInitial fun _ => 0).2 ++ Monitor.trace tcpExec
              (tcpFirstStep tcpInitial fun _ => 0).1 (inboundCalls devices gs) := by
        have hcalls : inboundCalls devices fs <+: inboundCalls devices gs := (hfs.filter _).map _
        exact (List.prefix_append_right_inj _).mpr (Monitor.trace_isPrefix hcalls)
      rw [log_of_frames hwhole hrun hstarted, log_of_frames hwhole hrun' hstarted']
      rcases List.prefix_or_prefix_of_prefix (handled_isPrefix h) (handled_isPrefix h') with
        hfirst | hfirst
      · exact .inl (hmore hfirst)
      · exact .inr (hmore hfirst)

/-- The session, and a handler that has pulled one frame only and found other bytes in
its arrays. -/
theorem sessions_agree :
    ∃ as s as' s',
      Run (Guard Ready (Step (bootDevices eth4Kernel))) (start sessionWire fun _ => 0)
        (wokenEarly ++ as) s ∧
      s.handled = [arrival 7 synAckSegment, arrival 3 dataSegment] ∧
      Run (Guard Ready (Step (bootDevices eth4Kernel))) (start sessionWire fun _ => 5) as' s' ∧
      s'.handled = [arrival 2 synAckSegment] ∧ (s.log <+: s'.log ∨ s'.log <+: s.log) := by
  obtain ⟨as, s, hrun, -, hhandled⟩ := exists_session 3
  have haccepted : accepted sessionWire =
      [arrival 2 synAckSegment].map Arrival.frame ++ [dataSegment] := accepted_sessionWire
  obtain ⟨as', s', hcalm, -, -, -, hhandled'⟩ :=
    exists_schedule haccepted (fun _ => 2) fun _ => 5
  have hrun' : Run (Guard Ready (Step (bootDevices eth4Kernel))) _ as' s' := ready_run hcalm
  have hwhole : ∀ f ∈ accepted sessionWire, Inbound (bootDevices eth4Kernel) f → f.Whole := by
    rw [accepted_sessionWire, List.forall_mem_cons, List.forall_mem_singleton]
    exact ⟨fun _ => whole_synAckSegment, fun _ => whole_dataSegment⟩
  exact ⟨as, s, as', s', hrun, hhandled, hrun', hhandled', schedules_agree hwhole hrun hrun'⟩

end Schedules

end VpnRouter.Program
