import VpnRouter.ArpWait
import VpnRouter.Lib.Bag
import Mathlib.Algebra.BigOperators.Fin
import Mathlib.Algebra.Order.BigOperators.Group.Multiset
import Mathlib.Data.Fintype.BigOperators

/-!
# The wait buffer as a bounded bag of pending frames

The purpose of the wait buffer is that of a bag with room for ten frames, keyed
by the address they wait for.  A call conforms when it returns and is the bag's
step on the pending frames.  `add_to_arp_wait_buffer` always conforms;
`check_arp_wait_buffer` does so exactly in the states `ServesPending` describes,
because it looks at odd slots only and does not ask whether the slot it hands
out is occupied.
-/

namespace VpnRouter.ArpWait

open Lib Lib.Memory Lib.Transition

structure Pending where
  ip : UInt32
  bytes : List UInt8
deriving DecidableEq, Repr

def frame (s : WaitSlot) : Pending := ⟨s.ip, load s.buf 0 (sizeT s.len)⟩

def slotBag (s : WaitSlot) : Multiset Pending := if s.valid then {frame s} else 0

def pending (w : WaitBuf) : Multiset Pending := ∑ i, slotBag (w i)

abbrev BagStep : Multiset Pending → Bag.Event Pending UInt32 → Multiset Pending → Prop :=
  Bag.Step Pending.ip 10

/-- What the caller of the wait buffer sees of a call that leads from `w` to `w'`. -/
inductive Observes (w : WaitBuf) : Call → Bag.Event Pending UInt32 → WaitBuf → Prop
  | added {buf : Mem} {len : Fin 4097} {ip : UInt32} {w' : WaitBuf} :
      addToArpWaitBuffer w buf len.val ip = (1, w') →
      Observes w (.add buf len ip) (.put ⟨ip, load buf 0 len⟩ true) w'
  | refused {buf : Mem} {len : Fin 4097} {ip : UInt32} :
      addToArpWaitBuffer w buf len.val ip = (-1, w) →
      Observes w (.add buf len ip) (.put ⟨ip, load buf 0 len⟩ false) w
  | handed {buf : Mem} {len : Int} {addr : UInt32} {fuel : Nat} {r : CheckRet} {x : Pending} :
      checkArpWaitBuffer fuel w buf len addr = some r → r.ret = 1 →
      r.len = x.bytes.length → load r.buf 0 x.bytes.length = x.bytes →
      Observes w (.check buf len addr) (.take addr (some x)) r.wait
  | missed {buf : Mem} {len : Int} {addr : UInt32} {fuel : Nat} {r : CheckRet} :
      checkArpWaitBuffer fuel w buf len addr = some r → r.ret = -1 → r.wait = w →
      Observes w (.check buf len addr) (.take addr none) w

def Conforms (w : WaitBuf) (c : Call) : Prop :=
  ∃ e w', Observes w c e w' ∧ BagStep (pending w) e (pending w')

/-- A lookup finds a pending frame for `addr` in the lowest slot that records
the address if there is a pending frame at all, and no such slot otherwise. -/
def ServesPending (w : WaitBuf) : Call → Prop
  | .add _ _ _ => True
  | .check _ _ addr =>
      (∀ i, (w i).valid = true → (w i).ip = addr →
        ∃ j, (w j).valid = true ∧ Records w addr j ∧ ∀ k < j, ¬ Records w addr k) ∧
      ((∀ i, (w i).valid = true → (w i).ip ≠ addr) → ∀ j, ¬ Records w addr j)

/-! ## The pending frames of an updated buffer -/

theorem pending_update (w : WaitBuf) (i : Fin 10) (s : WaitSlot) :
    slotBag (w i) + pending (Function.update w i s) = slotBag s + pending w := by
  unfold pending
  rw [← Finset.add_sum_erase _ _ (Finset.mem_univ i),
    ← Finset.add_sum_erase _ (fun j => slotBag (w j)) (Finset.mem_univ i)]
  have hrest : ∑ j ∈ Finset.univ.erase i, slotBag (Function.update w i s j) =
      ∑ j ∈ Finset.univ.erase i, slotBag (w j) := by
    apply Finset.sum_congr rfl
    intro j hj
    rw [Function.update_of_ne (Finset.ne_of_mem_erase hj)]
  rw [Function.update_self, hrest, add_left_comm]

theorem slotBag_valid {s : WaitSlot} (h : s.valid = true) : slotBag s = {frame s} := by
  rw [slotBag, if_pos h]

theorem slotBag_free {s : WaitSlot} (h : s.valid = false) : slotBag s = 0 := by
  simp [slotBag, h]

theorem pending_fill {w : WaitBuf} {i : Fin 10} {s : WaitSlot} (hfree : (w i).valid = false)
    (hs : s.valid = true) : pending (Function.update w i s) = frame s ::ₘ pending w := by
  have h := pending_update w i s
  rwa [slotBag_free hfree, slotBag_valid hs, zero_add, Multiset.singleton_add] at h

theorem pending_clear {w : WaitBuf} {j : Fin 10} {s : WaitSlot} (hvalid : (w j).valid = true)
    (hs : s.valid = false) :
    pending w = frame (w j) ::ₘ pending (Function.update w j s) := by
  have h := pending_update w j s
  rw [slotBag_valid hvalid, slotBag_free hs, zero_add, Multiset.singleton_add] at h
  exact h.symm

theorem pending_stale {w : WaitBuf} {j : Fin 10} {s : WaitSlot} (hfree : (w j).valid = false)
    (hs : s.valid = false) : pending (Function.update w j s) = pending w := by
  have h := pending_update w j s
  rwa [slotBag_free hfree, slotBag_free hs, zero_add, zero_add] at h

theorem mem_pending {w : WaitBuf} {x : Pending} :
    x ∈ pending w ↔ ∃ i, (w i).valid = true ∧ frame (w i) = x := by
  unfold pending
  rw [Multiset.mem_sum]
  constructor
  · rintro ⟨i, -, hi⟩
    cases hv : (w i).valid with
    | false => simp [slotBag_free hv] at hi
    | true =>
        rw [slotBag_valid hv, Multiset.mem_singleton] at hi
        exact ⟨i, hv, hi.symm⟩
  · rintro ⟨i, hv, rfl⟩
    exact ⟨i, Finset.mem_univ i, by rw [slotBag_valid hv, Multiset.mem_singleton]⟩

theorem card_slotBag (s : WaitSlot) : (slotBag s).card = if s.valid then 1 else 0 := by
  cases hv : s.valid with
  | false => simp [slotBag_free hv]
  | true => simp [slotBag_valid hv]

/-- The buffer has room exactly when some slot is free. -/
theorem card_pending_lt {w : WaitBuf} : (pending w).card < 10 ↔ ∃ i, (w i).valid = false := by
  have hcard : (pending w).card = (Finset.univ.filter fun i => (w i).valid = true).card := by
    unfold pending
    rw [Multiset.card_sum, Finset.card_filter]
    exact Finset.sum_congr rfl fun i _ => card_slotBag (w i)
  constructor
  · intro hlt
    by_contra hnone
    push Not at hnone
    have hall : (Finset.univ.filter fun i => (w i).valid = true) = Finset.univ := by
      ext i
      simp [hnone i]
    rw [hcard, hall] at hlt
    simp at hlt
  · rintro ⟨i, hi⟩
    rw [hcard]
    have hmissing : i ∉ Finset.univ.filter fun i => (w i).valid = true := by simp [hi]
    have hlt := Finset.card_lt_univ_of_notMem hmissing
    simpa using hlt

/-! ## Single calls -/

def Sized (w : WaitBuf) : Prop :=
  ∀ i, (w i).valid = true → ∃ n : Fin 4097, (w i).len = n.val

theorem sized_of_allFree {w : WaitBuf} (h : AllFree w) : Sized w := by
  intro i hi
  rw [h i] at hi
  contradiction

theorem sized_update {w : WaitBuf} (hw : Sized w) {i : Fin 10} {s : WaitSlot}
    (hs : s.valid = true → ∃ n : Fin 4097, s.len = n.val) : Sized (Function.update w i s) := by
  intro j hj
  by_cases hji : j = i
  · rw [hji, Function.update_self] at hj ⊢
    exact hs hj
  · rw [Function.update_of_ne hji] at hj ⊢
    exact hw j hj

theorem sized_step {w w' : WaitBuf} {c : Call} (hl : Layered w) (hw : Sized w)
    (h : CallStep w c w') : Sized w' := by
  obtain rfl | ⟨i, s, -, rfl, -, hs⟩ | ⟨addr, j, -, rfl⟩ := callStep_cases hl h
  · exact hw
  · exact sized_update hw fun _ => hs
  · exact sized_update hw fun hvalid => absurd hvalid Bool.false_ne_true

theorem add_conforms (w : WaitBuf) (buf : Mem) (len : Fin 4097) (ip : UInt32) :
    Conforms w (.add buf len ip) := by
  have hlen : sizeT len.val = len.val := sizeT_natCast (by omega)
  cases hfree : freeSlot w with
  | some i =>
      let s : WaitSlot :=
        { buf := copy (w i).buf 0 buf 0 (sizeT len.val), len := len.val, ip := ip, valid := true }
      have hcall : addToArpWaitBuffer w buf len.val ip = (1, Function.update w i s) := by
        rw [addToArpWaitBuffer, hfree]
      have hvalid := (freeSlot_eq_some.mp hfree).1
      have hframe : frame s = ⟨ip, load buf 0 len⟩ := by
        simp only [frame, s, hlen, load_copy_same]
      refine ⟨_, _, .added hcall, ?_⟩
      rw [pending_fill hvalid rfl, hframe]
      exact .put (card_pending_lt.mpr ⟨i, hvalid⟩)
  | none =>
      have hcall : addToArpWaitBuffer w buf len.val ip = (-1, w) := by
        rw [addToArpWaitBuffer, hfree]
      refine ⟨_, _, .refused hcall, .full (Nat.le_of_not_lt fun hlt => ?_)⟩
      obtain ⟨i, hi⟩ := card_pending_lt.mp hlt
      rw [freeSlot_eq_none.mp hfree i] at hi
      contradiction

theorem observes_check {w w' : WaitBuf} (hl : Layered w) {buf : Mem} {len : Int} {addr : UInt32}
    {e : Bag.Event Pending UInt32} (h : Observes w (.check buf len addr) e w') :
    (firstRecord w addr = none ∧ e = .take addr none ∧ w' = w) ∨
    (∃ j x, firstRecord w addr = some j ∧ e = .take addr (some x) ∧
      w' = Function.update w j { w j with valid := false }) := by
  cases h with
  | @handed _ _ _ fuel r x hr hret =>
      have hres := (checkArpWaitBuffer_iff hl).mp ⟨fuel, hr⟩
      cases hslot : firstRecord w addr with
      | none => simp [hres, hslot, checkResult] at hret
      | some j => exact .inr ⟨j, x, rfl, rfl, by rw [hres, hslot]; rfl⟩
  | @missed _ _ _ fuel r hr hret =>
      have hres := (checkArpWaitBuffer_iff hl).mp ⟨fuel, hr⟩
      cases hslot : firstRecord w addr with
      | none => exact .inl ⟨rfl, rfl, rfl⟩
      | some j => simp [hres, hslot, checkResult] at hret

/-- The lowest record is occupied: its frame is handed out and taken from the bag. -/
theorem conforms_of_record {w : WaitBuf} (hl : Layered w) (hz : Sized w) {buf : Mem} {len : Int}
    {addr : UInt32} {j : Fin 10} (hslot : firstRecord w addr = some j)
    (hvalid : (w j).valid = true) : Conforms w (.check buf len addr) := by
  obtain ⟨fuel, hr⟩ : ∃ fuel, checkArpWaitBuffer fuel w buf len addr = some _ :=
    (checkArpWaitBuffer_iff hl).mpr rfl
  rw [hslot] at hr
  obtain ⟨n, hn⟩ := hz j hvalid
  have hsize : sizeT (w j).len = n.val := by
    rw [hn]
    exact sizeT_natCast (by omega)
  have hip : (w j).ip = addr := (firstRecord_eq_some.mp hslot).1.2.2
  have hclear := pending_clear (s := { w j with valid := false }) hvalid rfl
  have herase : pending (checkResult w buf len (some j)).wait =
      (pending w).erase (frame (w j)) := by
    rw [hclear, Multiset.erase_cons_head]
    rfl
  refine ⟨.take addr (some (frame (w j))), _, .handed hr rfl ?_ ?_, ?_⟩
  · simp only [checkResult, frame, length_load, hsize]
    exact hn
  · simp [checkResult, frame, hsize, load_copy_same]
  · rw [herase, ← hip]
    exact .take (mem_pending.mpr ⟨j, hvalid, rfl⟩)

theorem conforms_of_no_record {w : WaitBuf} (hl : Layered w) {buf : Mem} {len : Int}
    {addr : UInt32} (hslot : firstRecord w addr = none)
    (hnone : ∀ i, (w i).valid = true → (w i).ip ≠ addr) : Conforms w (.check buf len addr) := by
  obtain ⟨fuel, hr⟩ : ∃ fuel, checkArpWaitBuffer fuel w buf len addr = some _ :=
    (checkArpWaitBuffer_iff hl).mpr rfl
  rw [hslot] at hr
  refine ⟨_, _, .missed hr rfl rfl, .miss ?_⟩
  intro x hx
  obtain ⟨i, hi, rfl⟩ := mem_pending.mp hx
  exact hnone i hi

theorem check_conforms_iff {w : WaitBuf} (hl : Layered w) (hz : Sized w) {buf : Mem} {len : Int}
    {addr : UInt32} : Conforms w (.check buf len addr) ↔
      match firstRecord w addr with
      | some j => (w j).valid = true
      | none => ∀ i, (w i).valid = true → (w i).ip ≠ addr := by
  constructor
  · intro h
    obtain ⟨e, w', hobs, hbag⟩ := h
    rcases observes_check hl hobs with ⟨hnone, rfl, rfl⟩ | ⟨j, x, hsome, rfl, rfl⟩
    · rw [hnone]
      intro i hi hip
      cases hbag with
      | miss none_left => exact none_left _ (mem_pending.mpr ⟨i, hi, rfl⟩) hip
    · rw [hsome]
      -- handing out a free slot leaves the pending frames as they were
      by_contra hstale
      rw [pending_stale (by simpa using hstale) rfl] at hbag
      have hcard := hbag.card_of_found
      omega
  · cases hslot : firstRecord w addr with
    | none => exact conforms_of_no_record hl hslot
    | some j => exact conforms_of_record hl hz hslot

theorem servesPending_check_iff {w : WaitBuf} {buf : Mem} {len : Int} {addr : UInt32} :
    ServesPending w (.check buf len addr) ↔
      match firstRecord w addr with
      | some j => (w j).valid = true
      | none => ∀ i, (w i).valid = true → (w i).ip ≠ addr := by
  cases hslot : firstRecord w addr with
  | none =>
      have hnone := firstRecord_eq_none.mp hslot
      constructor
      · intro h i hi hip
        obtain ⟨j, -, hj, -⟩ := h.1 i hi hip
        exact hnone j hj
      · intro h
        exact ⟨fun i hi hip => absurd hip (h i hi), fun _ => hnone⟩
  | some j =>
      obtain ⟨hrec, hbelow⟩ := firstRecord_eq_some.mp hslot
      constructor
      · intro h
        by_cases hany : ∃ i, (w i).valid = true ∧ (w i).ip = addr
        · obtain ⟨i, hi, hip⟩ := hany
          obtain ⟨k, hk, hkrec, hkbelow⟩ := h.1 i hi hip
          have hkj : firstRecord w addr = some k := firstRecord_eq_some.mpr ⟨hkrec, hkbelow⟩
          rw [hslot] at hkj
          rwa [Option.some.inj hkj]
        · exact absurd hrec (h.2 (fun i hi hip => hany ⟨i, hi, hip⟩) j)
      · intro hvalid
        exact ⟨fun _ _ _ => ⟨j, hvalid, hrec, hbelow⟩,
          fun h => absurd hrec.2.2 (h j hvalid)⟩

theorem conforms_iff {w : WaitBuf} (hl : Layered w) (hz : Sized w) (c : Call) :
    Conforms w c ↔ ServesPending w c := by
  cases c with
  | add buf len ip => exact iff_of_true (add_conforms w buf len ip) trivial
  | check buf len addr => rw [check_conforms_iff hl hz, servesPending_check_iff]

/-! ## Runs -/

theorem observes_callStep {w w₁ w₂ : WaitBuf} {c : Call} {e : Bag.Event Pending UInt32}
    (hobs : Observes w c e w₁) (hstep : CallStep w c w₂) : w₁ = w₂ := by
  cases hobs with
  | added hcall => exact (congrArg Prod.snd hcall).symm.trans hstep
  | refused hcall => exact (congrArg Prod.snd hcall).symm.trans hstep
  | handed hr =>
      obtain ⟨fuel, s, hs, rfl⟩ := hstep
      rw [checkArpWaitBuffer_unique hr hs]
  | missed hr hret hwait =>
      obtain ⟨fuel, s, hs, rfl⟩ := hstep
      rw [← hwait, checkArpWaitBuffer_unique hr hs]

/-- A run whose calls conform is a run of the bag: over all its calls, what was
added is what was handed out and what is still pending, frame for frame. -/
theorem run_balance {w w' : WaitBuf} {calls : List Call}
    (hconf : Along CallStep Conforms w calls) (hrun : Run CallStep w calls w') :
    ∃ es : List (Bag.Event Pending UInt32), es.length = calls.length ∧
      Run BagStep (pending w) es (pending w') ∧
      pending w + (es.map Bag.Event.stored).sum =
        (es.map Bag.Event.found).sum + pending w' := by
  suffices h : ∃ es : List (Bag.Event Pending UInt32), es.length = calls.length ∧
      Run BagStep (pending w) es (pending w') by
    obtain ⟨es, hlen, hes⟩ := h
    exact ⟨es, hlen, hes, Bag.Step.run_balance hes⟩
  induction hrun with
  | nil w => exact ⟨[], rfl, .nil _⟩
  | @cons w t u c cs hstep _ ih =>
      obtain ⟨e, w₁, hobs, hbag⟩ := hconf.1
      obtain rfl := observes_callStep hobs hstep
      obtain ⟨es, hlen, hes⟩ := ih (hconf.2 w₁ hstep)
      exact ⟨e :: es, by simp [hlen], .cons hbag hes⟩

/-- Every call of a run conforms exactly when every lookup of the run meets
`ServesPending` in the state before it. -/
theorem run_conforms_iff (w₀ : WaitBuf) (h₀ : AllFree w₀) (calls : List Call) :
    Along CallStep Conforms w₀ calls ↔ Along CallStep ServesPending w₀ calls :=
  along_congr (I := fun w => Layered w ∧ Sized w) (fun _ c h => conforms_iff h.1 h.2 c)
    (fun _ _ _ h _ hstep => ⟨layered_step h.1 hstep, sized_step h.1 h.2 hstep⟩)
    ⟨layered_of_allFree h₀, sized_of_allFree h₀⟩ calls

/-- The second of two frames goes to slot 1, where its lookup finds it. -/
theorem second_frame_served :
    Along CallStep Conforms startBuf
      [.add (fun _ => 7) 60 0x0101a8c0, .add (fun _ => 9) 60 0x0201a8c0,
        .check (fun _ => 0) 0 0x0201a8c0] := by
  let w₁ := (addToArpWaitBuffer startBuf (fun _ => 7) 60 0x0101a8c0).2
  let w₂ := (addToArpWaitBuffer w₁ (fun _ => 9) 60 0x0201a8c0).2
  have hslot : firstRecord w₂ 0x0201a8c0 = some 1 := by decide
  have hserves : ServesPending w₂ (.check (fun _ => 0) 0 0x0201a8c0) := by
    rw [servesPending_check_iff, hslot]
    decide
  refine (run_conforms_iff startBuf (fun _ => rfl) _).mpr ⟨trivial, fun _ h₁ => ?_⟩
  obtain rfl : w₁ = _ := h₁
  refine ⟨trivial, fun _ h₂ => ?_⟩
  obtain rfl : w₂ = _ := h₂
  exact ⟨hserves, fun _ _ => trivial⟩

/-- A single frame sits in slot 0, where no lookup looks. -/
theorem single_frame_lost :
    ¬ Along CallStep Conforms startBuf
      [.add (fun _ => 7) 60 0x0101a8c0, .check (fun _ => 0) 0 0x0101a8c0] := by
  intro h
  let w₁ := (addToArpWaitBuffer startBuf (fun _ => 7) 60 0x0101a8c0).2
  have hfree : AllFree startBuf := fun _ => rfl
  have hstep : CallStep startBuf (.add (fun _ => 7) 60 0x0101a8c0) w₁ := rfl
  have hcheck := (h.2 w₁ hstep).1
  have hl := layered_step (layered_of_allFree hfree) hstep
  have hz := sized_step (layered_of_allFree hfree) (sized_of_allFree hfree) hstep
  rw [check_conforms_iff hl hz] at hcheck
  have hnone : firstRecord w₁ 0x0101a8c0 = none := by decide
  rw [hnone] at hcheck
  exact hcheck 0 (by decide) (by decide)

end VpnRouter.ArpWait
