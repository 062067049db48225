import VpnRouter.PacketRing
import VpnRouter.Data

/-!
# The packet ring as a queue

`pack_cache` with its slot and length arrays, and `push_to_buf` and
`pull_from_buf` where they do not wait.  Each copies a frame between the
caller's buffer and the slot of its index, so what the pulls return is what was
pushed, in order (`ring_is_queue`).
-/

namespace VpnRouter.RingQueue

open Lib.Memory Lib.RingBuffer Lib.Transition PacketRing

def MAC_PACKET_SIZE : Nat := 8096

structure PackCache where
  i : Nat
  j : Nat
  buffer : Nat → Mem
  len : Nat → Nat

/-- The slots and the lengths stay as they are. -/
def initMutithread (s : PackCache) : PackCache := { s with i := 0, j := 0 }

/-- `none` when the ring is full. -/
def pushToBuf (s : PackCache) (buf : Mem) (nRead : Nat) : Option PackCache :=
  if (s.i + 1) % PACKET_CACHE = s.j then none
  else
    some { s with
      buffer := Function.update s.buffer s.i (copy (s.buffer s.i) 0 buf 0 nRead)
      len := Function.update s.len s.i nRead
      i := (s.i + 1) % PACKET_CACHE }

/-- The caller's buffer and `*n_read` come back with the ring; `none` when it is
empty. -/
def pullFromBuf (s : PackCache) (buf : Mem) : Option (PackCache × Mem × Nat) :=
  if s.i = s.j then none
  else
    some ({ s with j := (s.j + 1) % PACKET_CACHE }, copy buf 0 (s.buffer s.j) 0 (s.len s.j),
      s.len s.j)

/-- The frames the slots hold. -/
def PackCache.frames (s : PackCache) : Nat → List UInt8 := fun k => load (s.buffer k) 0 (s.len k)

/-! ## What the calls do to the frames -/

theorem frames_pushToBuf {s cache : PackCache} {buf : Mem} {nRead : Nat}
    (h : pushToBuf s buf nRead = some cache) :
    (s.i + 1) % PACKET_CACHE ≠ s.j ∧
      cache.frames = Function.update s.frames s.i (load buf 0 nRead) ∧
      cache.i = (s.i + 1) % PACKET_CACHE ∧ cache.j = s.j := by
  rw [pushToBuf, Option.ite_none_left_eq_some] at h
  obtain ⟨hfull, hcache⟩ := h
  rw [← Option.some.inj hcache]
  refine ⟨hfull, ?_, rfl, rfl⟩
  funext k
  by_cases hk : k = s.i
  · subst hk
    simp only [PackCache.frames, Function.update_self, load_copy_same]
  · simp only [PackCache.frames, Function.update_of_ne hk]

theorem frames_pullFromBuf {s cache : PackCache} {buf buf' : Mem} {nRead : Nat}
    (h : pullFromBuf s buf = some (cache, buf', nRead)) :
    s.i ≠ s.j ∧ cache.frames = s.frames ∧ cache.i = s.i ∧ cache.j = (s.j + 1) % PACKET_CACHE ∧
      load buf' 0 nRead = s.frames s.j := by
  rw [pullFromBuf, Option.ite_none_left_eq_some] at h
  obtain ⟨hempty, hcache⟩ := h
  obtain ⟨rfl, rfl, rfl⟩ := hcache
  exact ⟨hempty, rfl, rfl, rfl, load_copy_same _ _ _ _ _⟩

/-- The ring of the two threads has the frames of the arrays as its slots. -/
def Shows (r : Ring) (s : PackCache) : Prop := r.i = s.i ∧ r.j = s.j ∧ r.buffer = s.frames

theorem Shows.push {r : Ring} {s cache : PackCache} {buf : Mem} {nRead : Nat} (h : Shows r s)
    (hpush : pushToBuf s buf nRead = some cache) (hframe : r.frame = load buf 0 nRead) :
    ¬ mustWait r .producer ∧ Shows (copyFrame r .producer) cache := by
  obtain ⟨hi, hj, hbuffer⟩ := h
  obtain ⟨hfull, hframes, hwrite, hread⟩ := frames_pushToBuf hpush
  refine ⟨?_, ?_, ?_, ?_⟩
  · rw [mustWait, hi, hj]
    exact hfull
  · rw [copyFrame, hi, hwrite]
  · rw [copyFrame, hj, hread]
  · rw [copyFrame, hbuffer, hi, hframe, hframes]

theorem Shows.pull {r : Ring} {s cache : PackCache} {buf buf' : Mem} {nRead : Nat} (h : Shows r s)
    (hpull : pullFromBuf s buf = some (cache, buf', nRead)) :
    ¬ mustWait r .consumer ∧ Shows (copyFrame r .consumer) cache ∧
      (copyFrame r .consumer).pulled = r.pulled ++ [load buf' 0 nRead] := by
  obtain ⟨hi, hj, hbuffer⟩ := h
  obtain ⟨hempty, hframes, hwrite, hread, hframe⟩ := frames_pullFromBuf hpull
  refine ⟨?_, ⟨?_, ?_, ?_⟩, ?_⟩
  · rw [mustWait, hi, hj]
    exact hempty
  · rw [copyFrame, hi, hwrite]
  · rw [copyFrame, hj, hread]
  · rw [copyFrame, hbuffer, hframes]
  · rw [copyFrame, hbuffer, hj, hframe]

/-! ## Runs -/

inductive RingCall
  | push (buf : Mem) (nRead : Fin (MAC_PACKET_SIZE + 1))
  | pull (buf : Mem)

/-- The ring with the frames that went in and out. -/
structure History where
  cache : PackCache
  pushed : List (List UInt8)
  pulled : List (List UInt8)

def start (s : PackCache) : History where
  cache := initMutithread s
  pushed := []
  pulled := []

/-- A call whose guard holds; what a pull returned is read from the caller's
buffer. -/
def QueueStep (s : History) : RingCall → History → Prop
  | .push buf nRead, s' =>
      ∃ cache, pushToBuf s.cache buf nRead = some cache ∧
        s' = { s with cache := cache, pushed := s.pushed ++ [load buf 0 nRead] }
  | .pull buf, s' =>
      ∃ cache buf' nRead, pullFromBuf s.cache buf = some (cache, buf', nRead) ∧
        s' = { s with cache := cache, pulled := s.pulled ++ [load buf' 0 nRead] }

def Queued (s : History) : Prop :=
  Holds PACKET_CACHE s.cache.frames s.cache.i s.cache.j s.pushed s.pulled

theorem queued_start (s : PackCache) : Queued (start s) := holds_nil (by decide) _

theorem queued_step (s : History) (c : RingCall) (s' : History) (hs : Queued s)
    (h : QueueStep s c s') : Queued s' := by
  cases c with
  | push buf nRead =>
      obtain ⟨cache, hpush, rfl⟩ := h
      obtain ⟨hfull, hframes, hi, hj⟩ := frames_pushToBuf hpush
      rw [Queued, hframes, hi, hj]
      exact Holds.push hs hfull _
  | pull buf =>
      obtain ⟨cache, buf', nRead, hpull, rfl⟩ := h
      obtain ⟨hempty, hframes, hi, hj, hframe⟩ := frames_pullFromBuf hpull
      rw [Queued, hframes, hi, hj, hframe]
      exact Holds.pull hs hempty

/-- In every run the frames pulled and then the frames stored are the frames
pushed, and the indices count the stored ones. -/
theorem ring_is_queue {cache : PackCache} {calls : List RingCall} {s : History}
    (h : Run QueueStep (start cache) calls s) :
    s.cache.i < PACKET_CACHE ∧ s.cache.j < PACKET_CACHE ∧
      ∃ stored, s.pushed = s.pulled ++ stored ∧
        (stored.length : Int) = ((s.cache.i : Int) - s.cache.j) % PACKET_CACHE ∧
        stored.length ≤ 19 := by
  have hqueued : Queued s := h.invariant queued_step (queued_start cache)
  have hi : s.cache.i < PACKET_CACHE := hqueued.write ▸ Nat.mod_lt _ (by decide)
  have hj : s.cache.j < PACKET_CACHE := hqueued.read ▸ Nat.mod_lt _ (by decide)
  obtain ⟨stored, hpushed, hlength, hlt⟩ := Holds.stored hqueued
  refine ⟨hi, hj, stored, hpushed, ?_, Nat.le_of_lt_succ hlt⟩
  rw [hlength]
  unfold PACKET_CACHE at *
  omega

def zeroCache : PackCache where
  i := 0
  j := 0
  buffer := fun _ _ => 0
  len := fun _ => 0

theorem one_frame_queued :
    ∃ s, Run QueueStep (start zeroCache)
        [.push (fun _ => 7) 2, .pull fun _ => 0, .push (fun _ => 9) 1] s ∧
      s.pulled = [[7, 7]] ∧
      s.cache.i < PACKET_CACHE ∧ s.cache.j < PACKET_CACHE ∧
      ∃ stored, s.pushed = s.pulled ++ stored ∧
        (stored.length : Int) = ((s.cache.i : Int) - s.cache.j) % PACKET_CACHE ∧
        stored.length ≤ 19 := by
  have hrun : ∃ s, Run QueueStep (start zeroCache)
      [.push (fun _ => 7) 2, .pull fun _ => 0, .push (fun _ => 9) 1] s ∧ s.pulled = [[7, 7]] :=
    ⟨_, .cons ⟨_, rfl, rfl⟩ (.cons ⟨_, _, _, rfl, rfl⟩ (.cons ⟨_, rfl, rfl⟩ (.nil _))), rfl⟩
  obtain ⟨s, hrun, hpulled⟩ := hrun
  exact ⟨s, hrun, hpulled, ring_is_queue hrun⟩

end VpnRouter.RingQueue
