import VpnRouter.Arp

/-!
# The frames a reply releases

One round of the loop of `handle_arp`: the frame that the lookup hands over gets
its two MAC addresses and is sent, with the length of the ARP frame instead of
its own (`flushed_frame_iff`).
-/

namespace VpnRouter

open Lib.Memory ArpWait

/-- The frame of `slot` on its way to `dst`, sent from a card with address `src`. -/
structure AsQueued (slot : WaitSlot) (dst src : Mac) (frame : List UInt8) : Prop where
  length : (frame.length : Int) = slot.len
  dst : frame.take 6 = dst.toList
  src : (frame.drop 6).take 6 = src.toList
  rest : frame.drop 12 = (load slot.buf 0 (sizeT slot.len)).drop 12

section Frame

variable {r : Router} {u : Undef} {addr : UInt32} {mac : Mac} {len : Int} {fuel : Nat}
  {w : WaitBuf} {buff : Mem} {length : Int} {j : Fin 10} {k : Nat}

theorem flushRound_of_slot (hslot : checkLoop w addr fuel 0 = some (some j))
    (hcard : getnetcard r.device addr = some k) :
    ∃ x, flushRound r u addr mac len fuel w buff length = some (some x) ∧
      x.sent = some (k, load (store (store (copy buff 0 (w j).buf 0 (sizeT (w j).len)) 6
        (r.device.get ⟨k, getnetcard_lt hcard⟩).macAddr.toList) 0 mac.toList) 0 (sizeT len)) := by
  have hret : (checkResult w buff length (some j)).ret > 0 := Int.one_pos
  have hdevice : deviceAt r u (some k) = r.device.get ⟨k, getnetcard_lt hcard⟩ :=
    deviceAt_some (List.getElem?_eq_getElem (getnetcard_lt hcard))
  simp only [flushRound, checkArpWaitBuffer, hslot, Option.map_some, if_pos hret, hcard, hdevice]
  exact ⟨_, rfl, rfl⟩

/-- A frame of at least twelve bytes with the addresses written over its start. -/
theorem load_addressed (m : Mem) (dst src : Mac) (n : Nat) :
    load (store (store m 6 src.toList) 0 dst.toList) 0 (12 + n) =
      dst.toList ++ (src.toList ++ load m 12 n) := by
  rw [store_comm (by simp), load_macs, List.append_assoc]

theorem frame_of_sent (hslot : checkLoop w addr fuel 0 = some (some j))
    (hcard : getnetcard r.device addr = some k) {x : RoundRet} {frame : List UInt8}
    (hround : flushRound r u addr mac len fuel w buff length = some (some x))
    (hsent : x.sent = some (k, frame)) :
    frame = load (store (store (copy buff 0 (w j).buf 0 (sizeT (w j).len)) 6
      (r.device.get ⟨k, getnetcard_lt hcard⟩).macAddr.toList) 0 mac.toList) 0 (sizeT len) := by
  obtain ⟨y, hy, hframe⟩ := flushRound_of_slot (u := u) hslot hcard
  rw [hround] at hy
  rw [← Option.some.inj (Option.some.inj hy), hsent] at hframe
  exact (Prod.mk.inj (Option.some.inj hframe)).2

theorem asQueued_addressed {slot : WaitSlot} {n : Nat} (hlen : slot.len = ((12 + n : Nat) : Int))
    (hn : 12 + n < 2 ^ 31) (dst src : Mac) :
    AsQueued slot dst src (load (store (store (copy buff 0 slot.buf 0 (sizeT slot.len)) 6
      src.toList) 0 dst.toList) 0 (12 + n)) := by
  have hsize : sizeT slot.len = 12 + n := by
    rw [hlen]
    exact sizeT_natCast (by omega)
  have hrest : load (copy buff 0 slot.buf 0 (12 + n)) 12 n = load slot.buf 12 n := by
    apply load_congr
    intro i hi
    rw [copy_inside (by omega), Nat.zero_add, Nat.sub_zero]
  rw [load_addressed, hsize, hrest]
  constructor
  · simp only [List.length_append, Vector.length_toList, length_load, hlen]
    omega
  · exact List.take_left' dst.length_toList
  · rw [List.drop_left' dst.length_toList]
    exact List.take_left' src.length_toList
  · rw [hsize, drop_load, ← List.append_assoc,
      List.drop_left' (by rw [List.length_append, dst.length_toList, src.length_toList]),
      Nat.add_sub_cancel_left]

/-- The frame a round sends is the frame that was queued exactly when the ARP
frame has its length, and that is no less than the two addresses. -/
theorem flushed_frame_iff (hlen : 0 ≤ len ∧ len < 2 ^ 31)
    (hslot : checkLoop w addr fuel 0 = some (some j))
    (hcard : getnetcard r.device addr = some k) :
    (∃ x frame, flushRound r u addr mac len fuel w buff length = some (some x) ∧
        x.sent = some (k, frame) ∧
        AsQueued (w j) mac (r.device.get ⟨k, getnetcard_lt hcard⟩).macAddr frame) ↔
      len = (w j).len ∧ 12 ≤ (w j).len := by
  have hsize := sizeT_of_int hlen
  constructor
  · rintro ⟨x, frame, hround, hsent, hqueued⟩
    have hlength := hqueued.length
    have hsrc := congrArg List.length hqueued.src
    rw [List.length_take, List.length_drop, Vector.length_toList] at hsrc
    rw [frame_of_sent hslot hcard hround hsent, length_load] at hlength hsrc
    omega
  · rintro ⟨heq, htwelve⟩
    obtain ⟨n, hn⟩ : ∃ n, sizeT len = 12 + n := ⟨sizeT len - 12, by omega⟩
    obtain ⟨x, hround, hsent⟩ := flushRound_of_slot (u := u) hslot hcard
    refine ⟨x, _, hround, hsent, ?_⟩
    rw [hn]
    exact asQueued_addressed (by omega) (by omega) _ _

end Frame

/-! A frame of 98 bytes waits for 192.168.1.2 behind another one. -/

def queuedPair : WaitBuf :=
  (addToArpWaitBuffer (addToArpWaitBuffer startBuf (fun _ => 7) 60 0x0101a8c0).2
    (fun _ => 9) 98 0x0201a8c0).2

def lanCard : DeviceItem where
  interface := "eth4"
  macAddr := macOf 0 12 41 97 26 208
  ip := 0x0101a8c0
  netmask := 0x00ffffff
  vpn := 0

def lanRouter : Router := { bareRouter with device := [lanCard], wait := queuedPair }

theorem long_reply_flushes :
    ∃ x frame, flushRound lanRouter zeroUndef 0x0201a8c0 (macOf 0 12 41 66 175 55) 98 12 queuedPair
        (fun _ => 0) 0 = some (some x) ∧
      x.sent = some (0, frame) ∧
      AsQueued (queuedPair 1) (macOf 0 12 41 66 175 55) lanCard.macAddr frame :=
  (flushed_frame_iff (by decide) (by decide) (by decide)).mpr (by decide)

theorem short_reply_truncates :
    ¬ ∀ (r : Router) (u : Undef) (addr : UInt32) (mac : Mac) (len : Int) (fuel : Nat) (w : WaitBuf)
        (buff : Mem) (length : Int) (j : Fin 10) (k : Nat)
        (hcard : getnetcard r.device addr = some k),
      0 ≤ len ∧ len < 2 ^ 31 → checkLoop w addr fuel 0 = some (some j) →
        ∃ x frame, flushRound r u addr mac len fuel w buff length = some (some x) ∧
          x.sent = some (k, frame) ∧
          AsQueued (w j) mac (r.device.get ⟨k, getnetcard_lt hcard⟩).macAddr frame := by
  intro h
  have hslot : checkLoop queuedPair 0x0201a8c0 12 0 = some (some 1) := by decide
  have hcard : getnetcard lanRouter.device 0x0201a8c0 = some 0 := by decide
  obtain ⟨x, frame, hround, hsent, hqueued⟩ :=
    h lanRouter zeroUndef 0x0201a8c0 (macOf 0 12 41 66 175 55) 60 12 queuedPair (fun _ => 0) 0 1 0
      hcard (by decide) hslot
  have hlength := hqueued.length
  rw [frame_of_sent hslot hcard hround hsent, length_load] at hlength
  revert hlength
  decide

end VpnRouter
