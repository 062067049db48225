import VpnRouter.Data
import VpnRouter.Lib.Transition
import Mathlib.Algebra.Group.Fin.Basic
import Mathlib.Order.Fin.Basic
import Mathlib.Logic.Equiv.Fin.Basic
import Mathlib.Logic.Function.Basic

/-!
# The ARP wait buffer

`add_to_arp_wait_buffer` and `check_arp_wait_buffer` of `function_head.c`.  The
scan of the second advances its own index between the test of `arp_valid` and
the test of `arp_wait_ip`: it looks at the slot after an occupied one.  In every
state the two calls produce, no slot after a free even slot is occupied
(`Layered`), so the scan visits even slots only, looks at odd slots only, and
ends.
-/

namespace VpnRouter.ArpWait

open Lib.Memory Lib.Transition

/-! ## The source functions -/

/-- The slot the loop of `add_to_arp_wait_buffer` stops at. -/
def freeSlot (w : WaitBuf) : Option (Fin 10) := Fin.find? fun i => !(w i).valid

def addToArpWaitBuffer (w : WaitBuf) (buf : Mem) (len : Int) (ip : UInt32) : Int × WaitBuf :=
  match freeSlot w with
  | some i =>
      (1, Function.update w i
        { buf := copy (w i).buf 0 buf 0 (sizeT len), len := len, ip := ip, valid := true })
  | none => (-1, w)

/-- The slot the loop of `check_arp_wait_buffer` returns from, entered with
index `i`; `none` on the outside means that `fuel` rounds were not enough. -/
def checkLoop (w : WaitBuf) (addr : UInt32) : Nat → Nat → Option (Option (Fin 10))
  | 0, _ => none
  | fuel + 1, i =>
      if h : i < 10 then
        if (w ⟨i, h⟩).valid then
          -- `i = ( i+1 )% 10` before the address test
          let j : Fin 10 := ⟨(i + 1) % 10, Nat.mod_lt _ (by decide)⟩
          if (w j).ip == addr then some (some j) else checkLoop w addr fuel (j + 1)
        else checkLoop w addr fuel (i + 1)
      else some none

structure CheckRet where
  ret : Int
  buf : Mem
  len : Int
  wait : WaitBuf

def checkResult (w : WaitBuf) (buf : Mem) (len : Int) : Option (Fin 10) → CheckRet
  | some j =>
      { ret := 1, buf := copy buf 0 (w j).buf 0 (sizeT (w j).len), len := (w j).len,
        wait := Function.update w j { w j with valid := false } }
  | none => { ret := -1, buf := buf, len := len, wait := w }

def checkArpWaitBuffer (fuel : Nat) (w : WaitBuf) (buf : Mem) (len : Int) (addr : UInt32) :
    Option CheckRet :=
  (checkLoop w addr fuel 0).map (checkResult w buf len)

/-- A call on the wait buffer; a frame fits a slot of 4096 bytes. -/
inductive Call
  | add (buf : Mem) (len : Fin 4097) (ip : UInt32)
  | check (buf : Mem) (len : Int) (addr : UInt32)

def CallStep (w : WaitBuf) : Call → WaitBuf → Prop
  | .add buf len ip, w' => (addToArpWaitBuffer w buf len.val ip).2 = w'
  | .check buf len addr, w' =>
      ∃ fuel r, checkArpWaitBuffer fuel w buf len addr = some r ∧ r.wait = w'

/-- All of `arp_valid` is zero; the other arrays hold anything. -/
def AllFree (w : WaitBuf) : Prop := ∀ i, (w i).valid = false

def startBuf : WaitBuf := fun _ => { buf := fun _ => 0, len := 0, ip := 0, valid := false }

/-! ## What the scan looks at -/

def Layered (w : WaitBuf) : Prop :=
  ∀ e : Fin 10, e.val % 2 = 0 → (w e).valid = false → ∀ j, e ≤ j → (w j).valid = false

/-- The odd slot `j` records `addr`, in use or not, and its left neighbour is
occupied. -/
def Records (w : WaitBuf) (addr : UInt32) (j : Fin 10) : Prop :=
  j.val % 2 = 1 ∧ (w (j - 1)).valid = true ∧ (w j).ip = addr

instance (w : WaitBuf) (addr : UInt32) (j : Fin 10) : Decidable (Records w addr j) :=
  inferInstanceAs (Decidable (_ ∧ _ ∧ _))

def firstRecord (w : WaitBuf) (addr : UInt32) : Option (Fin 10) :=
  Fin.find? fun j => decide (Records w addr j)

theorem firstRecord_eq_some {w : WaitBuf} {addr : UInt32} {j : Fin 10} :
    firstRecord w addr = some j ↔ Records w addr j ∧ ∀ i < j, ¬ Records w addr i := by
  simp [firstRecord]

theorem firstRecord_eq_none {w : WaitBuf} {addr : UInt32} :
    firstRecord w addr = none ↔ ∀ j, ¬ Records w addr j := by
  simp [firstRecord]

theorem freeSlot_eq_some {w : WaitBuf} {i : Fin 10} :
    freeSlot w = some i ↔ (w i).valid = false ∧ ∀ j < i, (w j).valid = true := by
  simp [freeSlot]

theorem freeSlot_eq_none {w : WaitBuf} :
    freeSlot w = none ↔ ∀ i, (w i).valid = true := by
  simp [freeSlot]

theorem addToArpWaitBuffer_ret (w : WaitBuf) (buf : Mem) (len : Int) (ip : UInt32) :
    (addToArpWaitBuffer w buf len ip).1 = if freeSlot w = none then -1 else 1 := by
  unfold addToArpWaitBuffer
  cases freeSlot w with
  | none => rfl
  | some i => rfl

theorem checkLoop_mono {w : WaitBuf} {addr : UInt32} {fuel i : Nat} {r : Option (Fin 10)}
    (h : checkLoop w addr fuel i = some r) (more : Nat) :
    checkLoop w addr (fuel + more) i = some r := by
  induction fuel generalizing i with
  | zero => simp [checkLoop] at h
  | succ fuel ih =>
      rw [Nat.succ_add]
      simp only [checkLoop] at h ⊢
      by_cases hi : i < 10
      · simp only [hi, dif_pos] at h ⊢
        split_ifs at h ⊢
        · exact h
        · exact ih h
        · exact ih h
      · simpa only [hi, dif_neg, not_false_eq_true] using h

theorem checkArpWaitBuffer_unique {w : WaitBuf} {buf : Mem} {len : Int} {addr : UInt32}
    {n m : Nat} {r s : CheckRet} (hr : checkArpWaitBuffer n w buf len addr = some r)
    (hs : checkArpWaitBuffer m w buf len addr = some s) : r = s := by
  obtain ⟨x, hx, rfl⟩ := Option.map_eq_some_iff.mp hr
  obtain ⟨y, hy, rfl⟩ := Option.map_eq_some_iff.mp hs
  have hxy := checkLoop_mono hx m
  rw [Nat.add_comm, checkLoop_mono hy n] at hxy
  rw [Option.some.inj hxy]

theorem checkLoop_free {w : WaitBuf} {addr : UInt32} {i fuel : Nat}
    (hfree : ∀ j : Fin 10, i ≤ j.val → (w j).valid = false) (hi : i ≤ 10)
    (hfuel : 11 - i ≤ fuel) : checkLoop w addr fuel i = some none := by
  induction fuel generalizing i with
  | zero => omega
  | succ fuel ih =>
      by_cases hlt : i < 10
      · simp only [checkLoop, hlt, dif_pos, hfree ⟨i, hlt⟩ (le_refl i)]
        exact ih (fun j hj => hfree j (by omega)) (by omega) (by omega)
      · simp [checkLoop, hlt]

theorem val_succ_of_even {i : Fin 10} (heven : i.val % 2 = 0) : (i + 1).val = i.val + 1 := by
  rw [Fin.val_add]
  simp only [Fin.val_one]
  omega

theorem val_pred_of_odd {j : Fin 10} (hodd : j.val % 2 = 1) : (j - 1).val + 1 = j.val := by
  rw [Fin.val_sub]
  simp only [Fin.val_one]
  omega

theorem checkLoop_even {w : WaitBuf} {addr : UInt32} {fuel : Nat} {i : Fin 10}
    (heven : i.val % 2 = 0) (hvalid : (w i).valid = true) :
    checkLoop w addr (fuel + 1) i =
      if (w (i + 1)).ip = addr then some (some (i + 1)) else checkLoop w addr fuel (i + 2) := by
  have hnext : (⟨i.val + 1, by omega⟩ : Fin 10) = i + 1 := Fin.ext (val_succ_of_even heven).symm
  have hthis : (⟨i.val, i.isLt⟩ : Fin 10) = i := rfl
  have hmod : (i.val + 1) % 10 = i.val + 1 := by omega
  simp only [checkLoop, i.isLt, dif_pos, hthis, hvalid, if_true, beq_iff_eq, hmod, hnext]

theorem records_succ {w : WaitBuf} {addr : UInt32} {i : Fin 10} (heven : i.val % 2 = 0) :
    Records w addr (i + 1) ↔ (w i).valid = true ∧ (w (i + 1)).ip = addr := by
  have hodd : (i + 1).val % 2 = 1 := by
    rw [val_succ_of_even heven]
    omega
  simp [Records, hodd]

theorem not_records_of_free {w : WaitBuf} {addr : UInt32} {i j : Fin 10}
    (heven : i.val % 2 = 0) (hfree : ∀ k, i ≤ k → (w k).valid = false) (hij : i.val ≤ j.val) :
    ¬ Records w addr j := by
  intro hrec
  have hpred := val_pred_of_odd hrec.1
  have hle : i ≤ j - 1 := by
    have := hrec.1
    rw [Fin.le_def]
    omega
  have hfalse := hfree (j - 1) hle
  rw [hrec.2.1] at hfalse
  contradiction

/-- Above an even index that nothing is recorded below, the next odd slot is the
first that can record anything. -/
theorem eq_succ_of_records {w : WaitBuf} {addr : UInt32} {i j : Fin 10} (heven : i.val % 2 = 0)
    (hbelow : ∀ j : Fin 10, j.val < i.val → ¬ Records w addr j) (hrec : Records w addr j)
    (hj : j.val < i.val + 2) : j = i + 1 := by
  have hodd := hrec.1
  have hval := val_succ_of_even heven
  by_cases hlt : j.val < i.val
  · exact absurd hrec (hbelow j hlt)
  · ext
    omega

/-- The scan, entered at an even index with nothing recorded below it.  The
induction is on the number of slot pairs still ahead. -/
theorem checkLoop_from {w : WaitBuf} {addr : UInt32} (hw : Layered w) (k : Nat) (hk : k ≤ 5)
    (fuel : Nat) (hfuel : 2 * k + 1 ≤ fuel)
    (hbelow : ∀ j : Fin 10, j.val < 10 - 2 * k → ¬ Records w addr j) :
    checkLoop w addr fuel (10 - 2 * k) = some (firstRecord w addr) := by
  induction k generalizing fuel with
  | zero =>
      rw [firstRecord_eq_none.mpr fun j => hbelow j j.isLt]
      exact checkLoop_free (fun j hj => absurd j.isLt (by omega)) (by omega) (by omega)
  | succ k ih =>
      let i : Fin 10 := ⟨10 - 2 * (k + 1), by omega⟩
      have heven : i.val % 2 = 0 := by simp only [i]; omega
      by_cases hvalid : (w i).valid = true
      · obtain ⟨fuel, rfl⟩ : ∃ n, fuel = n + 1 := ⟨fuel - 1, by omega⟩
        change checkLoop w addr (fuel + 1) i.val = _
        rw [checkLoop_even heven hvalid]
        by_cases hip : (w (i + 1)).ip = addr
        · have hfirst : firstRecord w addr = some (i + 1) := by
            rw [firstRecord_eq_some]
            refine ⟨(records_succ heven).mpr ⟨hvalid, hip⟩, fun j hj hrec => ?_⟩
            have hlt : j.val < i.val + 1 := val_succ_of_even heven ▸ hj
            exact hj.ne (eq_succ_of_records heven hbelow hrec (by omega))
          rw [if_pos hip, hfirst]
        · have hnext : i.val + 2 = 10 - 2 * k := by simp only [i]; omega
          rw [if_neg hip, hnext]
          apply ih (by omega) fuel (by omega)
          intro j hj hrec
          have hji : j = i + 1 := eq_succ_of_records heven hbelow hrec (by omega)
          exact hip (hji ▸ hrec.2.2)
      · have hfree := hw i heven (by simpa using hvalid)
        rw [firstRecord_eq_none.mpr]
        · exact checkLoop_free (fun j hj => hfree j hj) (by omega) (by omega)
        · intro j
          by_cases hj : j.val < i.val
          · exact hbelow j hj
          · exact not_records_of_free heven hfree (by omega)

/-- On a layered buffer the scan ends after at most eleven rounds, with the
lowest slot that records the address. -/
theorem checkLoop_eq_firstRecord {w : WaitBuf} {addr : UInt32} (hw : Layered w) {fuel : Nat}
    (hfuel : 11 ≤ fuel) : checkLoop w addr fuel 0 = some (firstRecord w addr) :=
  checkLoop_from hw 5 (le_refl 5) fuel hfuel fun j hj => absurd hj (by omega)

/-! ## Reachable buffers are layered -/

theorem layered_of_allFree {w : WaitBuf} (h : AllFree w) : Layered w :=
  fun _ _ _ j _ => h j

/-- On a layered buffer `check_arp_wait_buffer` returns, and returns one result. -/
theorem checkArpWaitBuffer_iff {w : WaitBuf} (hw : Layered w) {buf : Mem} {len : Int}
    {addr : UInt32} {r : CheckRet} :
    (∃ fuel, checkArpWaitBuffer fuel w buf len addr = some r) ↔
      r = checkResult w buf len (firstRecord w addr) := by
  constructor
  · rintro ⟨fuel, h⟩
    obtain ⟨slot, hslot, hr⟩ := Option.map_eq_some_iff.mp h
    have hmore := checkLoop_mono hslot 11
    rw [checkLoop_eq_firstRecord hw (by omega)] at hmore
    rw [Option.some.inj hmore, hr]
  · rintro rfl
    refine ⟨11, ?_⟩
    rw [checkArpWaitBuffer, checkLoop_eq_firstRecord hw (le_refl 11), Option.map_some]

theorem layered_update_free {w : WaitBuf} (hw : Layered w) {j : Fin 10} (hodd : j.val % 2 = 1)
    {s : WaitSlot} (hs : s.valid = false) : Layered (Function.update w j s) := by
  intro e heven hfree i hi
  have hej : e ≠ j := by
    rintro rfl
    omega
  rw [Function.update_of_ne hej] at hfree
  by_cases hij : i = j
  · rw [hij, Function.update_self, hs]
  · rw [Function.update_of_ne hij]
    exact hw e heven hfree i hi

theorem layered_update_firstFree {w : WaitBuf} (hw : Layered w) {i : Fin 10}
    (hi : freeSlot w = some i) {s : WaitSlot} (hs : s.valid = true) :
    Layered (Function.update w i s) := by
  obtain ⟨-, hbelow⟩ := freeSlot_eq_some.mp hi
  intro e heven hfree j hj
  by_cases hei : e = i
  · rw [hei, Function.update_self, hs] at hfree
    contradiction
  · rw [Function.update_of_ne hei] at hfree
    have hlt : i < e := by
      rcases lt_trichotomy e i with h | h | h
      · rw [hbelow e h] at hfree
        contradiction
      · exact absurd h hei
      · exact h
    rw [Function.update_of_ne (hlt.trans_le hj).ne']
    exact hw e heven hfree j hj

theorem layered_checkResult {w : WaitBuf} (hw : Layered w) {addr : UInt32} {buf : Mem}
    {len : Int} : Layered (checkResult w buf len (firstRecord w addr)).wait := by
  cases hslot : firstRecord w addr with
  | none => exact hw
  | some j => exact layered_update_free hw (firstRecord_eq_some.mp hslot).1.1 rfl

/-- A call fills the first free slot, takes one out of use or changes nothing. -/
theorem callStep_cases {w w' : WaitBuf} {c : Call} (hw : Layered w) (h : CallStep w c w') :
    w' = w ∨
      (∃ i s, freeSlot w = some i ∧ w' = Function.update w i s ∧ s.valid = true ∧
        ∃ n : Fin 4097, s.len = n.val) ∨
      ∃ addr j, firstRecord w addr = some j ∧
        w' = Function.update w j { w j with valid := false } := by
  cases c with
  | add buf len ip =>
      change (addToArpWaitBuffer w buf len.val ip).2 = w' at h
      unfold addToArpWaitBuffer at h
      cases hfree : freeSlot w with
      | none =>
          rw [hfree] at h
          exact .inl h.symm
      | some i =>
          rw [hfree] at h
          exact .inr (.inl ⟨i, _, rfl, h.symm, rfl, len, rfl⟩)
  | check buf len addr =>
      obtain ⟨fuel, r, hr, rfl⟩ := h
      rw [(checkArpWaitBuffer_iff hw).mp ⟨fuel, hr⟩]
      cases hslot : firstRecord w addr with
      | none => exact .inl rfl
      | some j => exact .inr (.inr ⟨addr, j, hslot, rfl⟩)

theorem layered_step {w w' : WaitBuf} {c : Call} (hw : Layered w) (h : CallStep w c w') :
    Layered w' := by
  obtain rfl | ⟨i, s, hfree, rfl, hs, -⟩ | ⟨addr, j, hslot, rfl⟩ := callStep_cases hw h
  · exact hw
  · exact layered_update_firstFree hw hfree hs
  · exact layered_update_free hw (firstRecord_eq_some.mp hslot).1.1 rfl

theorem layered_of_reachable {w₀ w : WaitBuf} (h₀ : AllFree w₀) (h : Reachable CallStep w₀ w) :
    Layered w :=
  h.invariant (fun _ _ _ hw hstep => layered_step hw hstep) (layered_of_allFree h₀)

/-! ## The scan ends -/

theorem callStep_enabled {w : WaitBuf} (hw : Layered w) (c : Call) : ∃ w', CallStep w c w' := by
  cases c with
  | add buf len ip => exact ⟨_, rfl⟩
  | check buf len addr =>
      have hr : ∃ fuel, checkArpWaitBuffer fuel w buf len addr =
          some (checkResult w buf len (firstRecord w addr)) := (checkArpWaitBuffer_iff hw).mpr rfl
      obtain ⟨fuel, hr⟩ := hr
      exact ⟨_, fuel, _, hr, rfl⟩

/-- From free slots every sequence of calls runs to its end, and in the state it
leads to the scan for any address ends within eleven tests of its index. -/
theorem check_returns {w₀ : WaitBuf} (h₀ : AllFree w₀) (calls : List Call) :
    (∃ w, Run CallStep w₀ calls w) ∧
      ∀ w, Run CallStep w₀ calls w → ∀ (buf : Mem) (len : Int) (addr : UInt32),
        ∃ r, ∀ fuel, 11 ≤ fuel → checkArpWaitBuffer fuel w buf len addr = some r := by
  constructor
  · apply Run.exists_of_enabled (I := Layered) _ (layered_of_allFree h₀)
    intro w c hw
    obtain ⟨w', hstep⟩ := callStep_enabled hw c
    exact ⟨w', hstep, layered_step hw hstep⟩
  · intro w hrun buf len addr
    have hw : Layered w := layered_of_reachable h₀ ⟨calls, hrun⟩
    refine ⟨checkResult w buf len (firstRecord w addr), fun fuel hfuel => ?_⟩
    rw [checkArpWaitBuffer, checkLoop_eq_firstRecord hw hfuel, Option.map_some]

/-- After two frames were stored and the second was taken out again. -/
theorem check_returns_after_lookup :
    (∃ w, Run CallStep startBuf [.add (fun _ => 7) 60 0x0101a8c0,
        .add (fun _ => 9) 60 0x0201a8c0, .check (fun _ => 0) 0 0x0201a8c0] w) ∧
      ∀ w, Run CallStep startBuf [.add (fun _ => 7) 60 0x0101a8c0,
          .add (fun _ => 9) 60 0x0201a8c0, .check (fun _ => 0) 0 0x0201a8c0] w →
        ∀ (buf : Mem) (len : Int) (addr : UInt32),
          ∃ r, ∀ fuel, 11 ≤ fuel → checkArpWaitBuffer fuel w buf len addr = some r :=
  check_returns (fun _ => rfl) _

/-- Outside the reachable states the scan need not end: with slot 9 alone in use
the index goes from 9 to 0 and up to 9 again. -/
theorem checkLoop_endless {w : WaitBuf} {addr : UInt32}
    (hfree : ∀ j : Fin 10, j ≠ 9 → (w j).valid = false) (hlast : (w 9).valid = true)
    (hip : (w 0).ip ≠ addr) (fuel : Nat) {i : Nat} (hi : i < 10) :
    checkLoop w addr fuel i = none := by
  induction fuel generalizing i with
  | zero => rfl
  | succ fuel ih =>
      by_cases h9 : i = 9
      · subst h9
        have hslot : (⟨9, hi⟩ : Fin 10) = 9 := rfl
        have hnext : (⟨(9 + 1) % 10, Nat.mod_lt _ (by decide)⟩ : Fin 10) = 0 := rfl
        simp only [checkLoop, hi, dif_pos, hslot, hlast, if_true, hnext, beq_iff_eq, if_neg hip]
        exact ih (by decide)
      · have hslot : (w ⟨i, hi⟩).valid = false := hfree ⟨i, hi⟩ fun h => h9 (congrArg Fin.val h)
        simp only [checkLoop, hi, dif_pos, hslot]
        exact ih (by omega)

end VpnRouter.ArpWait
