import VpnRouter.IpProcess

/-!
# Where a packet for a network card ends

`ip_sed_process` on a packet whose route leads to a network card.  The packet is
transmitted, or it is stored in one slot of the wait buffer, or it is lost
because no slot is free, and what the static frame buffer held before is in
none of these.
-/

namespace VpnRouter

open Lib.Memory ArpWait

def ExactlyOne (a b c : Prop) : Prop :=
  (a ∨ b ∨ c) ∧ ¬ (a ∧ b) ∧ ¬ (a ∧ c) ∧ ¬ (b ∧ c)

/-- The tables that a call looks things up in. -/
def Router.lookups (r : Router) :
    List RouteItem × List ArpTableItem × List DeviceItem × List VpnRouteTable :=
  (r.routeInfo, r.arpTable, r.device, r.vpnRoute)

/-- The slot waits for `dst` with an IPv4 frame around `packet`. -/
structure HoldsFrame (slot : WaitSlot) (dst : UInt32) (packet : List UInt8) : Prop where
  valid : slot.valid = true
  ip : slot.ip = dst
  len : slot.len = packet.length + 14
  proto : load slot.buf 12 2 = [0x08, 0x00]
  packet : load slot.buf 14 packet.length = packet

structure Transmitted (r : Router) (packet : List UInt8) (dst : UInt32) (index : Nat)
    (out : Router × List Event) : Prop where
  frame : ∃ netcard entry d,
    searchArpCache r.arpTable dst = some netcard ∧ r.arpTable[netcard]? = some entry ∧
      r.device[(getnetcard r.device dst).getD index]? = some d ∧
      sent out.2 = [((getnetcard r.device dst).getD index, false,
        ethFrame entry.macAddr d.macAddr packet)]
  length : ∀ x ∈ sent out.2, x.2.2.length = packet.length + 14
  wait : out.1.wait = r.wait

structure Stored (r : Router) (packet : List UInt8) (dst : UInt32) (out : Router × List Event) :
    Prop where
  uncached : searchArpCache r.arpTable dst = none
  slot : ∃! i, (r.wait i).valid = false ∧ HoldsFrame (out.1.wait i) dst packet ∧
    ∀ j, j ≠ i → out.1.wait j = r.wait j
  silent : sent out.2 = []

structure Lost (r : Router) (dst : UInt32) (out : Router × List Event) : Prop where
  uncached : searchArpCache r.arpTable dst = none
  full : ∀ i, (r.wait i).valid = true
  wait : out.1.wait = r.wait
  silent : sent out.2 = []

/-! ## What a call leaves behind -/

section State

variable {r : Router} {u : Undef} {src dst : UInt32} {index : Nat} {upVpn : Bool} {buf buff : Mem}
  {len : Int}

theorem sedTransmit_lookups (len : Int) :
    (sedTransmit r u buff len dst index upVpn).1.lookups = r.lookups := by
  unfold sedTransmit
  cases searchArpCache r.arpTable dst with
  | none => rfl
  | some a => rfl

theorem ipSedProcess_lookups : (ipSedProcess r u buf len src dst).1.lookups = r.lookups := by
  unfold ipSedProcess
  simp only
  split
  · rfl
  · split
    · exact sedTransmit_lookups _
    · exact sedTransmit_lookups _

theorem ipRecProcess_lookups : (ipRecProcess r u buf len).1.lookups = r.lookups := by
  unfold ipRecProcess
  simp only
  split
  · split
    · exact ipSedProcess_lookups
    · exact ipSedProcess_lookups
  · split
    · split
      · rfl
      · split
        · exact ipSedProcess_lookups
        · rfl
    · rfl

theorem sedTransmit_wait_hit {a : Nat} (ha : searchArpCache r.arpTable dst = some a) :
    (sedTransmit r u buff len dst index upVpn).1.wait = r.wait := by
  simp only [sedTransmit, ha]

theorem sedTransmit_wait_miss (ha : searchArpCache r.arpTable dst = none) :
    (sedTransmit r u buff len dst index upVpn).1.wait =
      (addToArpWaitBuffer r.wait (put16 buff 12 (htons 0x0800)) (len + 14) dst).2 := by
  simp only [sedTransmit, ha]

theorem addToArpWaitBuffer_free {w : WaitBuf} {i : Fin 10} (buf : Mem) (len : Int) (ip : UInt32)
    (hi : freeSlot w = some i) :
    (addToArpWaitBuffer w buf len ip).2 = Function.update w i
      { buf := copy (w i).buf 0 buf 0 (sizeT len), len := len, ip := ip, valid := true } := by
  simp only [addToArpWaitBuffer, hi]

theorem addToArpWaitBuffer_full {w : WaitBuf} (buf : Mem) (len : Int) (ip : UInt32)
    (hw : freeSlot w = none) : (addToArpWaitBuffer w buf len ip).2 = w := by
  simp only [addToArpWaitBuffer, hw]

/-- The bytes of the slot from 12 on come from the frame of this call. -/
theorem holdsFrame_queued {slot buff : Mem} {packet : List UInt8}
    (hsize : packet.length + 14 < 2 ^ 64) (hpacket : load buff 14 packet.length = packet) :
    HoldsFrame
      { buf := copy slot 0 (put16 buff 12 (htons 0x0800)) 0 (sizeT ((packet.length : Int) + 14)),
        len := (packet.length : Int) + 14, ip := dst, valid := true } dst packet := by
  have hsizeT : sizeT ((packet.length : Int) + 14) = packet.length + 14 := sizeT_natCast hsize
  have hcopied (b n : Nat) (h : b + n ≤ packet.length + 14) :
      load (copy slot 0 (put16 buff 12 (htons 0x0800)) 0 (packet.length + 14)) b n =
        load (put16 buff 12 (htons 0x0800)) b n := by
    apply load_congr
    intro i hi
    rw [copy_inside (by omega), Nat.sub_zero, Nat.zero_add]
  rw [hsizeT]
  constructor
  · rfl
  · rfl
  · rfl
  · rw [hcopied 12 2 (by omega), load_put16_same]
    rfl
  · rw [hcopied 14 packet.length (by omega), load_put16_beside (by omega), hpacket]

end State

/-! ## The three ends -/

section Ends

variable {r : Router} {u : Undef} {p : Packet} {dst : UInt32} {index : Nat}

theorem ipSedProcess_transmitted {netcard : Nat} (rest : Mem) (src : UInt32)
    (hroute : (reroute r.device r.routeInfo dst dst).1 = some index)
    (hcard : ¬ 0 < (deviceAt r u (some index)).vpn)
    (ha : searchArpCache r.arpTable dst = some netcard) :
    Transmitted r p.bytes dst index (ipSedProcess r u (p.mem rest) p.bytes.length src dst) := by
  have hfits := p.fits
  have hegress : (getnetcard r.device dst).getD index < r.device.length := by
    cases hnet : getnetcard r.device dst with
    | none => exact reroute_lt hroute
    | some k => exact getnetcard_lt hnet
  have hdevice : r.device[(getnetcard r.device dst).getD index]? = some _ :=
    List.getElem?_eq_getElem hegress
  have hsent : sent (ipSedProcess r u (p.mem rest) p.bytes.length src dst).2 =
      [((getnetcard r.device dst).getD index, false,
        ethFrame (r.arpTable.get ⟨netcard, searchArpCache_lt ha⟩).macAddr
          (r.device.get ⟨_, hegress⟩).macAddr p.bytes)] := by
    rw [ipSedProcess_sends (by omega) hroute hcard ha, sent_memcpy, sent_sendto, sent_nil,
      Packet.load_mem, deviceAt_some hdevice]
    rfl
  constructor
  · exact ⟨netcard, _, _, ha, List.getElem?_eq_getElem (searchArpCache_lt ha), hdevice, hsent⟩
  · rw [hsent, List.forall_mem_singleton]
    exact length_ethFrame _ _ _
  · rw [ipSedProcess_plain_eq hroute hcard]
    exact sedTransmit_wait_hit ha

theorem sent_queued (rest : Mem) (src : UInt32)
    (hroute : (reroute r.device r.routeInfo dst dst).1 = some index)
    (hcard : ¬ 0 < (deviceAt r u (some index)).vpn)
    (ha : searchArpCache r.arpTable dst = none) :
    sent (ipSedProcess r u (p.mem rest) p.bytes.length src dst).2 = [] := by
  have hfits := p.fits
  obtain ⟨head, -, hlog⟩ := ipSedProcess_queues u (p.mem rest) src (n := p.bytes.length) (by omega)
    hroute hcard ha
  rw [hlog]
  rfl

theorem wait_queued (rest : Mem) (src : UInt32)
    (hroute : (reroute r.device r.routeInfo dst dst).1 = some index)
    (hcard : ¬ 0 < (deviceAt r u (some index)).vpn)
    (ha : searchArpCache r.arpTable dst = none) :
    (ipSedProcess r u (p.mem rest) p.bytes.length src dst).1.wait =
      (addToArpWaitBuffer r.wait
        (put16 (copy r.buff 14 (p.mem rest) 0 p.bytes.length) 12 (htons 0x0800))
        ((p.bytes.length : Int) + 14) dst).2 := by
  have hfits := p.fits
  have hsize : sizeT (p.bytes.length : Int) = p.bytes.length := sizeT_natCast (by omega)
  rw [ipSedProcess_plain_eq hroute hcard, sedTransmit_wait_miss ha, hsize]

theorem ipSedProcess_stored {i : Fin 10} (rest : Mem) (src : UInt32)
    (hroute : (reroute r.device r.routeInfo dst dst).1 = some index)
    (hcard : ¬ 0 < (deviceAt r u (some index)).vpn)
    (ha : searchArpCache r.arpTable dst = none) (hi : freeSlot r.wait = some i) :
    Stored r p.bytes dst (ipSedProcess r u (p.mem rest) p.bytes.length src dst) := by
  have hfits := p.fits
  have hpacket :
      load (copy r.buff 14 (p.mem rest) 0 p.bytes.length) 14 p.bytes.length = p.bytes := by
    rw [load_copy_same, Packet.load_mem]
  have hwait := wait_queued (p := p) (u := u) rest src hroute hcard ha
  rw [addToArpWaitBuffer_free _ _ dst hi] at hwait
  constructor
  · exact ha
  · refine ⟨i, ⟨(freeSlot_eq_some.mp hi).1, ?_, ?_⟩, ?_⟩
    · rw [hwait, Function.update_self]
      exact holdsFrame_queued (by omega) hpacket
    · intro j hj
      rw [hwait, Function.update_of_ne hj]
    · intro k hk
      -- a second such slot would be free before, held after and unchanged
      by_contra hne
      have hvalid := hk.2.1.valid
      rw [hwait, Function.update_of_ne hne, hk.1] at hvalid
      contradiction
  · exact sent_queued rest src hroute hcard ha

theorem ipSedProcess_lost (rest : Mem) (src : UInt32)
    (hroute : (reroute r.device r.routeInfo dst dst).1 = some index)
    (hcard : ¬ 0 < (deviceAt r u (some index)).vpn)
    (ha : searchArpCache r.arpTable dst = none) (hw : freeSlot r.wait = none) :
    Lost r dst (ipSedProcess r u (p.mem rest) p.bytes.length src dst) := by
  constructor
  · exact ha
  · exact freeSlot_eq_none.mp hw
  · rw [wait_queued rest src hroute hcard ha]
    exact addToArpWaitBuffer_full _ _ dst hw
  · exact sent_queued rest src hroute hcard ha

theorem exactlyOne_of {packet : List UInt8} {out : Router × List Event}
    (h : Transmitted r packet dst index out ∨ Stored r packet dst out ∨ Lost r dst out) :
    ExactlyOne (Transmitted r packet dst index out) (Stored r packet dst out)
      (Lost r dst out) := by
  have hcached (ht : Transmitted r packet dst index out) :
      searchArpCache r.arpTable dst ≠ none := by
    obtain ⟨netcard, entry, d, ha, -⟩ := ht.frame
    rw [ha]
    exact Option.some_ne_none netcard
  refine ⟨h, ?_, ?_, ?_⟩
  · intro hboth
    exact hcached hboth.1 hboth.2.uncached
  · intro hboth
    exact hcached hboth.1 hboth.2.uncached
  · intro hboth
    obtain ⟨i, hi, -⟩ := hboth.1.slot
    have hfull := hboth.2.full i
    rw [hi.1] at hfull
    contradiction

/-- No packet for a network card is lost while a slot is free, and none is
duplicated. -/
theorem packets_conserved (r : Router) (u : Undef) (p : Packet) (rest : Mem) (src dst : UInt32) :
    (∀ index, (reroute r.device r.routeInfo dst dst).1 = some index →
      ¬ 0 < (deviceAt r u (some index)).vpn →
        ExactlyOne
          (Transmitted r p.bytes dst index
            (ipSedProcess r u (p.mem rest) p.bytes.length src dst))
          (Stored r p.bytes dst (ipSedProcess r u (p.mem rest) p.bytes.length src dst))
          (Lost r dst (ipSedProcess r u (p.mem rest) p.bytes.length src dst)) ∧
        (ipSedProcess r u (p.mem rest) p.bytes.length src dst).1.lookups = r.lookups) ∧
    ((reroute r.device r.routeInfo dst dst).1 = none →
      ipSedProcess r u (p.mem rest) p.bytes.length src dst = (r, [])) := by
  constructor
  · intro index hroute hcard
    constructor
    · apply exactlyOne_of
      cases ha : searchArpCache r.arpTable dst with
      | some netcard => exact .inl (ipSedProcess_transmitted rest src hroute hcard ha)
      | none =>
          cases hw : freeSlot r.wait with
          | some i => exact .inr (.inl (ipSedProcess_stored rest src hroute hcard ha hw))
          | none => exact .inr (.inr (ipSedProcess_lost rest src hroute hcard ha hw))
    · rw [ipSedProcess_plain_eq hroute hcard]
      exact sedTransmit_lookups p.bytes.length
  · intro hroute
    exact ipSedProcess_dropped hroute

end Ends

end VpnRouter
