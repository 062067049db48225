import VpnRouter.ArpWaitBag
import VpnRouter.IpProcess

/-!
# ARP replies

`handle_arp` of `function_head.c`.  A reply enters the ARP table, and the frames
that waited for its sender are looked up and sent until a lookup fails.  A
lookup clears `arp_valid` and leaves the address, so once one has succeeded all
later ones do: the loop ends exactly when its first lookup fails.
-/

namespace VpnRouter

open Lib.Memory Lib.Transition ArpWait

def ARP_REQUEST : UInt16 := 1

def ARP_REPLY : UInt16 := 2

/-! The fields of `struct arp_msg` at address `a`. -/

namespace ArpMsg

def op (m : Mem) (a : Nat) : UInt16 := get16 m (a + 6)

def srcMac (m : Mem) (a : Nat) : Mac := Vector.ofFn fun i => m (a + 8 + i.val)

def srcIp (m : Mem) (a : Nat) : UInt32 := get32 m (a + 14)

end ArpMsg

/-- What the loop of `handle_arp` has done: its rounds, the wait buffer it leaves
and the frames it sent, with their cards. -/
structure FlushRet where
  rounds : Nat
  wait : WaitBuf
  sent : List (Nat × List UInt8)

/-- What a round leaves for the next, and what it sent. -/
structure RoundRet where
  wait : WaitBuf
  buff : Mem
  length : Int
  sent : Option (Nat × List UInt8)

/-- A round of the loop of `handle_arp`: `none` when the lookup does not end, and
`some none` when it finds nothing and the loop ends.  `len` is the length of the
ARP frame. -/
def flushRound (r : Router) (u : Undef) (addr : UInt32) (mac : Mac) (len : Int) (fuel : Nat)
    (w : WaitBuf) (buff : Mem) (length : Int) : Option (Option RoundRet) :=
  match checkArpWaitBuffer fuel w buff length addr with
  | none => none
  | some c =>
      if c.ret > 0 then
        match getnetcard r.device addr with
        | some index =>
            let buff := store c.buf 6 (deviceAt r u (some index)).macAddr.toList
            let buff := store buff 0 mac.toList
            some (some { wait := c.wait, buff := buff, length := c.len,
                         sent := some (index, load buff 0 (sizeT len)) })
        | none => some (some { wait := c.wait, buff := c.buf, length := c.len, sent := none })
      else some none

/-- The loop; `fuel` bounds the rounds and the scan of every lookup. -/
def flushLoop (r : Router) (u : Undef) (addr : UInt32) (mac : Mac) (len : Int) :
    Nat → WaitBuf → Mem → Int → Option FlushRet
  | 0, _, _, _ => none
  | fuel + 1, w, buff, length =>
      match flushRound r u addr mac len fuel w buff length with
      | none => none
      | some none => some { rounds := 0, wait := w, sent := [] }
      | some (some x) =>
          (flushLoop r u addr mac len fuel x.wait x.buff x.length).map fun f =>
            { rounds := f.rounds + 1, wait := f.wait, sent := x.sent.toList ++ f.sent }

/-- `stack` and `length` are the local `buff` and `length`, which the source
leaves unset. -/
def handleArp (fuel : Nat) (r : Router) (u : Undef) (buf : Mem) (len : Int) (stack : Mem)
    (length : Int) : Option (Router × FlushRet) :=
  if htons (ArpMsg.op buf 14) = ARP_REQUEST then
    some (r, { rounds := 0, wait := r.wait, sent := [] })
  else if htons (ArpMsg.op buf 14) = ARP_REPLY then
    let addr := ArpMsg.srcIp buf 14
    let mac := ArpMsg.srcMac buf 14
    let r := { r with arpTable := addArpItem r.arpTable addr mac }
    (flushLoop r u addr mac len fuel r.wait stack length).map fun f =>
      ({ r with wait := f.wait }, f)
  else some (r, { rounds := 0, wait := r.wait, sent := [] })

def pendingFor (w : WaitBuf) (addr : UInt32) : Nat :=
  ((pending w).filter fun x => x.ip = addr).card

section Flush

variable {r : Router} {u : Undef} {addr : UInt32} {mac : Mac} {len length : Int} {w : WaitBuf}
  {buff : Mem} {j : Fin 10} {fuel : Nat}

/-- A lookup takes its slot out of use and leaves the record behind. -/
theorem firstRecord_checkResult (hslot : firstRecord w addr = some j) :
    firstRecord (checkResult w buff length (some j)).wait addr = some j := by
  obtain ⟨hrec, hbelow⟩ := firstRecord_eq_some.mp hslot
  have hodd := hrec.1
  have hkeep (i : Fin 10) (hi : i.val % 2 = 1) :
      Records (checkResult w buff length (some j)).wait addr i ↔ Records w addr i := by
    have hpred : i - 1 ≠ j := by
      intro heq
      have hval := val_pred_of_odd hi
      rw [heq] at hval
      omega
    simp only [Records, checkResult]
    rw [Function.update_of_ne hpred]
    by_cases hij : i = j
    · rw [hij, Function.update_self]
    · rw [Function.update_of_ne hij]
  rw [firstRecord_eq_some, hkeep j hodd]
  refine ⟨hrec, fun i hi hreci => ?_⟩
  exact hbelow i hi ((hkeep i hreci.1).mp hreci)

/-- A round whose lookup ends goes on exactly when a slot records the sender, and
leaves the buffer of that lookup. -/
theorem flushRound_cases (hw : Layered w) {x : Option RoundRet}
    (h : flushRound r u addr mac len fuel w buff length = some x) :
    (firstRecord w addr = none ∧ x = none) ∨
      ∃ j y, firstRecord w addr = some j ∧ x = some y ∧
        y.wait = (checkResult w buff length (some j)).wait := by
  unfold flushRound at h
  cases hcheck : checkArpWaitBuffer fuel w buff length addr with
  | none =>
      rw [hcheck] at h
      cases h
  | some c =>
      have hc := (checkArpWaitBuffer_iff hw).mp ⟨fuel, hcheck⟩
      simp only [hcheck] at h
      cases hslot : firstRecord w addr with
      | none =>
          have hret : ¬ c.ret > 0 := by
            rw [hc, hslot]
            exact (by decide : ¬ (-1 : Int) > 0)
          rw [if_neg hret, Option.some.injEq] at h
          exact .inl ⟨rfl, h.symm⟩
      | some j =>
          have hret : c.ret > 0 := by
            rw [hc, hslot]
            exact Int.one_pos
          rw [if_pos hret, hc, hslot] at h
          right
          cases hcard : getnetcard r.device addr with
          | none =>
              simp only [hcard, Option.some.injEq] at h
              exact ⟨j, _, rfl, h.symm, rfl⟩
          | some index =>
              simp only [hcard, Option.some.injEq] at h
              exact ⟨j, _, rfl, h.symm, rfl⟩

theorem flushLoop_of_record (hw : Layered w) (hslot : firstRecord w addr = some j) (fuel : Nat) :
    flushLoop r u addr mac len fuel w buff length = none := by
  induction fuel generalizing w buff length with
  | zero => rfl
  | succ fuel ih =>
      rw [flushLoop]
      cases hround : flushRound r u addr mac len fuel w buff length with
      | none => rfl
      | some x =>
          rcases flushRound_cases hw hround with ⟨hnone, -⟩ | ⟨i, y, hi, rfl, hwait⟩
          · rw [hslot] at hnone
            cases hnone
          · rw [hslot] at hi
            obtain rfl := Option.some.inj hi
            have hnext : flushLoop r u addr mac len fuel y.wait y.buff y.length = none := by
              rw [hwait]
              refine ih ?_ (firstRecord_checkResult hslot)
              rw [← hslot]
              exact layered_checkResult hw
            simp only [hnext, Option.map_none]

theorem flushLoop_of_no_record (hw : Layered w) (hslot : firstRecord w addr = none) :
    flushLoop r u addr mac len 12 w buff length =
      some { rounds := 0, wait := w, sent := [] } := by
  rw [flushLoop, flushRound, checkArpWaitBuffer, checkLoop_eq_firstRecord hw (le_refl 11), hslot]
  rfl

/-- A flush that ends has found nothing. -/
theorem flushLoop_returns (hw : Layered w) {f : FlushRet}
    (h : flushLoop r u addr mac len fuel w buff length = some f) :
    firstRecord w addr = none ∧ f.wait = w ∧ f.sent = [] := by
  cases hslot : firstRecord w addr with
  | some j =>
      rw [flushLoop_of_record hw hslot] at h
      cases h
  | none =>
      cases fuel with
      | zero => cases h
      | succ fuel =>
          rw [flushLoop] at h
          cases hround : flushRound r u addr mac len fuel w buff length with
          | none =>
              rw [hround] at h
              cases h
          | some x =>
              rcases flushRound_cases hw hround with ⟨-, rfl⟩ | ⟨j, -, hj, -⟩
              · simp only [hround, Option.some.injEq] at h
                rw [← h]
                exact ⟨rfl, rfl, rfl⟩
              · rw [hslot] at hj
                cases hj

end Flush

/-- In a buffer the program can have produced, the flush after a reply ends, and
within as many rounds as frames were pending for its sender, exactly when no
slot records the sender. -/
theorem flush_bounded_iff (r : Router) (u : Undef) (buf : Mem) (len : Int) (stack : Mem)
    (length : Int) (w₀ : WaitBuf) (h₀ : AllFree w₀) (hreach : Reachable CallStep w₀ r.wait)
    (hop : htons (ArpMsg.op buf 14) = ARP_REPLY) :
    (∃ fuel out, handleArp fuel r u buf len stack length = some out ∧
        out.2.rounds ≤ pendingFor r.wait (ArpMsg.srcIp buf 14)) ↔
      ∀ j, ¬ Records r.wait (ArpMsg.srcIp buf 14) j := by
  have hw := layered_of_reachable h₀ hreach
  have hrequest : ¬ htons (ArpMsg.op buf 14) = ARP_REQUEST := by
    rw [hop]
    decide
  simp only [handleArp, if_neg hrequest, if_pos hop]
  cases hslot : firstRecord r.wait (ArpMsg.srcIp buf 14) with
  | none =>
      refine iff_of_true ⟨12, ?_⟩ (firstRecord_eq_none.mp hslot)
      rw [flushLoop_of_no_record hw hslot, Option.map_some]
      exact ⟨_, rfl, Nat.zero_le _⟩
  | some j =>
      apply iff_of_false
      · intro h
        obtain ⟨fuel, out, hout, -⟩ := h
        rw [flushLoop_of_record hw hslot, Option.map_none] at hout
        cases hout
      · intro h
        exact h j (firstRecord_eq_some.mp hslot).1

/-! An ARP reply from 192.168.1.2. -/

def replyFrame : Mem :=
  put32 (put16 (fun _ => 0) 20 (htons ARP_REPLY)) 28 0x0201a8c0

/-- Two frames wait, the first for 192.168.1.2: no lookup finds it. -/
theorem first_frame_left :
    let w₁ := (addToArpWaitBuffer startBuf (fun _ => 7) 60 0x0201a8c0).2
    let w₂ := (addToArpWaitBuffer w₁ (fun _ => 9) 60 0x0101a8c0).2
    (w₂ 0).valid = true ∧ (w₂ 0).ip = 0x0201a8c0 ∧ (w₂ 1).valid = true ∧
      ∃ fuel out, handleArp fuel { bareRouter with wait := w₂ } zeroUndef replyFrame 60
          (fun _ => 0) 0 = some out ∧
        out.2.rounds ≤ pendingFor w₂ (ArpMsg.srcIp replyFrame 14) := by
  intro w₁ w₂
  have hreach : Reachable CallStep startBuf w₂ :=
    ⟨[.add (fun _ => 7) 60 0x0201a8c0, .add (fun _ => 9) 60 0x0101a8c0],
      .cons rfl (.cons rfl (.nil _))⟩
  exact ⟨by decide, by decide, by decide,
    (flush_bounded_iff { bareRouter with wait := w₂ } zeroUndef replyFrame 60 (fun _ => 0) 0
      startBuf (fun _ => rfl) hreach (by decide)).mpr (by decide)⟩

/-- Two frames wait, the second for 192.168.1.2: its reply is never done with. -/
theorem second_frame_flushed_forever :
    let w₁ := (addToArpWaitBuffer startBuf (fun _ => 7) 60 0x0101a8c0).2
    let w₂ := (addToArpWaitBuffer w₁ (fun _ => 9) 60 0x0201a8c0).2
    Reachable CallStep startBuf w₂ ∧
      ∀ fuel, handleArp fuel { bareRouter with wait := w₂ } zeroUndef replyFrame 60 (fun _ => 0) 0
        = none := by
  intro w₁ w₂
  have hreach : Reachable CallStep startBuf w₂ :=
    ⟨[.add (fun _ => 7) 60 0x0101a8c0, .add (fun _ => 9) 60 0x0201a8c0],
      .cons rfl (.cons rfl (.nil _))⟩
  have hslot : firstRecord w₂ 0x0201a8c0 = some 1 := by decide
  refine ⟨hreach, fun fuel => ?_⟩
  have hw : Layered w₂ := layered_of_reachable (fun _ => rfl) hreach
  have hreply : ¬ htons (ArpMsg.op replyFrame 14) = ARP_REQUEST ∧
      htons (ArpMsg.op replyFrame 14) = ARP_REPLY ∧ ArpMsg.srcIp replyFrame 14 = 0x0201a8c0 := by
    decide
  simp only [handleArp, if_neg hreply.1, if_pos hreply.2.1, hreply.2.2]
  rw [flushLoop_of_record hw hslot, Option.map_none]

end VpnRouter
