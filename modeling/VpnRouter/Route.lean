import VpnRouter.IpProcess

/-!
# The frame router

`route` of `route.c`: it lowers the time to live of a frame in place, mends the
header checksum and sends the frame to the card and the neighbour of its
destination.
-/

namespace VpnRouter

open Lib.Memory

/-- The assignments under the comment on the TTL: `time`, `csum`, `csum`. -/
def lowerTime (buf : Mem) : Mem :=
  let buf := put8 buf (14 + 8) (Ip4hdr.time buf 14 - 1)
  let buf := put16 buf (14 + 10) 0
  put16 buf (14 + 10) (inCksum buf 14 (Ip4hdr.headLen buf 14 * 4))

def routeHeader (r : Router) (u : Undef) (buf : Mem) (index : Nat) : Mem :=
  let netcard := searchArpCache r.arpTable (Ip4hdr.dstAddr buf 14)
  -- a missing entry is read at index -1
  let mac := (netcard.bind fun a => r.arpTable[a]?.map (·.macAddr)).getD u.mac
  let buf := store buf 0 mac.toList
  let buf := store buf 6 (deviceAt r u (some index)).macAddr.toList
  let buf := put8 buf 12 0x08
  put8 buf 13 0x00

def route (r : Router) (u : Undef) (buf : Mem) (len : Int) : Mem × List Event :=
  let buf := lowerTime buf
  match (reroute r.device r.routeInfo (Ip4hdr.dstAddr buf 14) u.dst).1 with
  | none => (buf, [])
  | some index =>
      let buf := routeHeader r u buf index
      (buf, [.sendto index false (load buf 0 (sizeT len))])

/-! ## What `route` leaves alone -/

theorem dstAddr_lowerTime (buf : Mem) :
    Ip4hdr.dstAddr (lowerTime buf) 14 = Ip4hdr.dstAddr buf 14 := by
  simp (disch := omega) only [Ip4hdr.dstAddr, lowerTime, get32_put8_beside, get32_put16_beside]

theorem routeHeader_packet (r : Router) (u : Undef) (buf : Mem) (index : Nat) {x : Nat}
    (hx : 14 ≤ x) : routeHeader r u buf index x = buf x := by
  unfold routeHeader
  rw [put8_beside (by omega), put8_beside (by omega), store_outside (by simp; omega),
    store_outside (by simp; omega)]

theorem route_sends (r : Router) (u : Undef) (buf : Mem) (len : Int) :
    (route r u buf len).2 =
      match (reroute r.device r.routeInfo (Ip4hdr.dstAddr buf 14) u.dst).1 with
      | none => []
      | some index =>
          [.sendto index false (load (routeHeader r u (lowerTime buf) index) 0 (sizeT len))] := by
  simp only [route, dstAddr_lowerTime]
  cases (reroute r.device r.routeInfo (Ip4hdr.dstAddr buf 14) u.dst).1 with
  | none => rfl
  | some index => rfl

end VpnRouter
