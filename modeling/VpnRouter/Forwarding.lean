import VpnRouter.NextHop
import VpnRouter.Route

/-!
# What `route` sends

`route` checks its first lookup and not its second: a destination without an
entry in the ARP cache is answered with a frame to whatever lies in front of
`arp_table`.  Beyond the Ethernet header a frame leaves with another TTL and
header checksum, and nothing else changes.
-/

namespace VpnRouter

open Lib.Memory

/-- A frame with an IP header in the buffer of `route`, whose `len` is an `int`. -/
structure RouteFrame where
  bytes : List UInt8
  header : 34 ≤ bytes.length
  fits : bytes.length < 2 ^ 31

namespace RouteFrame

def mem (f : RouteFrame) (rest : Mem) : Mem := overlay f.bytes rest

def dst (f : RouteFrame) : UInt32 := Ip4hdr.dstAddr (f.mem fun _ => 0) 14

theorem dstAddr_mem (f : RouteFrame) (rest : Mem) : Ip4hdr.dstAddr (f.mem rest) 14 = f.dst := by
  have hheader := f.header
  apply get32_congr
  intro i hi
  rw [mem, mem, overlay_apply (by omega), overlay_apply (by omega)]

end RouteFrame

/-- `x` is the frame `f` as the lookups have it: to the cached address, from the
card of the route, and for the rest the same frame with its time lowered. -/
structure Forwarded (r : Router) (u : Undef) (f : RouteFrame) (x : Nat × Bool × List UInt8) :
    Prop where
  card : (reroute r.device r.routeInfo f.dst u.dst).1 = some x.1
  length : x.2.2.length = f.bytes.length
  header : ∃ netcard entry d, searchArpCache r.arpTable f.dst = some netcard ∧
    r.arpTable[netcard]? = some entry ∧ r.device[x.1]? = some d ∧
      x.2.2.take 14 = entry.macAddr.toList ++ d.macAddr.toList ++ [0x08, 0x00]
  packet : ∀ i, 14 ≤ i → i < f.bytes.length → i ≠ 22 → i ≠ 24 → i ≠ 25 →
    x.2.2.getD i 0 = f.bytes.getD i 0

structure ForwardsResolvable (r : Router) (u : Undef) (f : RouteFrame) (log : List Event) :
    Prop where
  sends : sent log ≠ [] ↔
    (∃ index, (reroute r.device r.routeInfo f.dst u.dst).1 = some index) ∧
      ∃ netcard, searchArpCache r.arpTable f.dst = some netcard
  frames : ∀ x ∈ sent log, Forwarded r u f x

/-! ## The bytes of the frame -/

theorem lowerTime_beside {buf : Mem} {x : Nat} (htime : x ≠ 22) (hlow : x ≠ 24) (hhigh : x ≠ 25) :
    lowerTime buf x = buf x := by
  simp (disch := omega) only [lowerTime, put16_beside, put8_beside]

section Routed

variable {r : Router} {u : Undef} {f : RouteFrame} {index netcard : Nat}

theorem routeHeader_load (buf : Mem) {entry : ArpTableItem} {d : DeviceItem}
    (ha : searchArpCache r.arpTable (Ip4hdr.dstAddr buf 14) = some netcard)
    (hentry : r.arpTable[netcard]? = some entry) (hdevice : r.device[index]? = some d) :
    load (routeHeader r u buf index) 0 14 =
      entry.macAddr.toList ++ d.macAddr.toList ++ [0x08, 0x00] := by
  let framed := store (store buf 0 entry.macAddr.toList) 6 d.macAddr.toList
  have hframed : routeHeader r u buf index = put8 (put8 framed 12 0x08) 13 0x00 := by
    simp only [routeHeader, ha, Option.bind_some, hentry, Option.map_some, Option.getD_some,
      deviceAt_some hdevice]
    rfl
  have hmacs : load framed 0 12 = entry.macAddr.toList ++ d.macAddr.toList ++ [] :=
    load_macs buf entry.macAddr d.macAddr 0
  rw [hframed, show 14 = 12 + 1 + 1 by omega, load_add, load_add, load_put8_same,
    load_put8_beside (by omega), load_put8_beside (by omega), load_put8_beside (by omega),
    load_put8_same, hmacs]
  simp

/-- With both lookups the frame is as it should be. -/
theorem forwarded_of_cached (rest : Mem)
    (hroute : (reroute r.device r.routeInfo f.dst u.dst).1 = some index)
    (ha : searchArpCache r.arpTable f.dst = some netcard) :
    Forwarded r u f (index, false,
      load (routeHeader r u (lowerTime (f.mem rest)) index) 0 f.bytes.length) := by
  have hheader := f.header
  have hentry : r.arpTable[netcard]? = some _ := List.getElem?_eq_getElem (searchArpCache_lt ha)
  have hdevice : r.device[index]? = some _ := List.getElem?_eq_getElem (reroute_lt hroute)
  have hdst : Ip4hdr.dstAddr (lowerTime (f.mem rest)) 14 = f.dst := by
    rw [dstAddr_lowerTime, f.dstAddr_mem]
  constructor
  · exact hroute
  · rw [length_load]
  · refine ⟨netcard, _, _, ha, hentry, hdevice, ?_⟩
    rw [take_load _ _ (by omega)]
    exact routeHeader_load _ (by rwa [hdst]) hentry hdevice
  · intro i hi hlt htime hlow hhigh
    rw [getD_load hlt, Nat.zero_add, routeHeader_packet r u _ index hi,
      lowerTime_beside htime hlow hhigh, RouteFrame.mem, overlay_apply hlt]

/-- `route` keeps to its law exactly when it has no card for the frame or the
ARP cache holds the destination. -/
theorem forwards_resolvable_iff (r : Router) (u : Undef) (f : RouteFrame) (rest : Mem) :
    ForwardsResolvable r u f (route r u (f.mem rest) f.bytes.length).2 ↔
      (reroute r.device r.routeInfo f.dst u.dst).1 = none ∨
        ∃ netcard, searchArpCache r.arpTable f.dst = some netcard := by
  have hfits := f.fits
  have hsize : sizeT (f.bytes.length : Int) = f.bytes.length := sizeT_natCast (by omega)
  rw [route_sends, f.dstAddr_mem, hsize]
  cases hroute : (reroute r.device r.routeInfo f.dst u.dst).1 with
  | none =>
      refine iff_of_true ⟨iff_of_false ?_ ?_, ?_⟩ (.inl rfl)
      · intro h
        exact h rfl
      · intro h
        obtain ⟨⟨index, hindex⟩, -⟩ := h
        rw [hroute] at hindex
        contradiction
      · intro x hx
        cases hx
  | some index =>
      constructor
      · intro h
        have hsends := h.sends.mp
        rw [sent_sendto] at hsends
        exact .inr (hsends (List.cons_ne_nil _ _)).2
      · intro h
        obtain ⟨netcard, ha⟩ := h.resolve_left (Option.some_ne_none index)
        constructor
        · rw [sent_sendto]
          exact iff_of_true (List.cons_ne_nil _ _) ⟨⟨index, hroute⟩, netcard, ha⟩
        · rw [sent_sendto, sent_nil, List.forall_mem_singleton]
          exact forwarded_of_cached rest hroute ha

end Routed

/-! A packet for a neighbour on the second card. -/

def frameTo (dst : UInt32) : RouteFrame where
  bytes := List.replicate 14 0 ++ (emptyPacket 64 0x0302a8c0 dst).bytes
  header := by simp [emptyPacket, bytes32]
  fits := by simp [emptyPacket, bytes32]

/-- 192.168.1.9 is on the subnet of the card, and not in the ARP cache. -/
theorem uncached_neighbour_sent :
    ¬ ∀ (r : Router) (u : Undef) (f : RouteFrame) (rest : Mem),
      ForwardsResolvable r u f (route r u (f.mem rest) f.bytes.length).2 := by
  intro h
  have hlaw := h (twoCards [neighbourRoute]) zeroUndef (frameTo 0x0901a8c0) fun _ => 0
  have hsent : sent (route (twoCards [neighbourRoute]) zeroUndef
      ((frameTo 0x0901a8c0).mem fun _ => 0) (frameTo 0x0901a8c0).bytes.length).2 ≠ [] := by
    decide
  obtain ⟨-, netcard, ha⟩ := hlaw.sends.mp hsent
  have hnone : searchArpCache (twoCards [neighbourRoute]).arpTable (frameTo 0x0901a8c0).dst =
      none := by
    decide
  rw [hnone] at ha
  contradiction

end VpnRouter
