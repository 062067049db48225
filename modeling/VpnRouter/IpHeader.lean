import VpnRouter.Route

/-!
# IPv4 headers on the wire

What a receiver makes of the headers the router writes.  Their checksum always
verifies, in `ip_pack` and after the lowered TTL of `route`.  Reading the fields
of `ip_pack` back gives every argument but `time`, for which the field holds 64.
-/

namespace VpnRouter

open Lib.Memory

/-- An IPv4 header by its layout: lengths in bytes, addresses as they lie in
memory, in network order. -/
structure IpWire where
  version : Nat
  headLen : Nat
  totalLen : Nat
  id : Nat
  time : Nat
  protocal : Nat
  src : UInt32
  dst : UInt32
deriving DecidableEq, Repr

def readIp (m : Mem) (a : Nat) : IpWire where
  version := (m a).toNat / 16
  headLen := (m a).toNat % 16 * 4
  totalLen := be16 m (a + 2)
  id := be16 m (a + 4)
  time := (m (a + 8)).toNat
  protocal := (m (a + 9)).toNat
  src := get32 m (a + 12)
  dst := get32 m (a + 16)

/-- The reader's fields are those of `struct ip4hdr`, in host order. -/
theorem readIp_eq (m : Mem) (a : Nat) :
    readIp m a =
      { version := Ip4hdr.version m a, headLen := Ip4hdr.headLen m a * 4,
        totalLen := (htons (Ip4hdr.totalLen m a)).toNat, id := (htons (Ip4hdr.id m a)).toNat,
        time := (Ip4hdr.time m a).toNat, protocal := (Ip4hdr.protocal m a).toNat,
        src := Ip4hdr.srcAddr m a, dst := Ip4hdr.dstAddr m a } := by
  rw [readIp, be16_eq_swap16, be16_eq_swap16]
  rfl

section RoundTrip

variable (m : Mem) (a len totalLen id : Nat) (flag : Int) (time protocal : Nat) (src dst : UInt32)

theorem readIp_ipPack (hmin : 20 ≤ len) (hmax : len ≤ 60) (hwords : len % 4 = 0)
    (htotal : totalLen < 65536) (hid : id < 65536) (hproto : protocal < 256) :
    readIp (ipPack m a len totalLen id flag time protocal src dst) a =
      { version := 4, headLen := len, totalLen := totalLen, id := id, time := 64,
        protocal := protocal, src := src, dst := dst } := by
  have hhead : len / 4 % 16 * 4 = len := by omega
  rw [readIp_eq, ipPack_version, ipPack_headLen, ipPack_totalLen, ipPack_id, ipPack_time,
    ipPack_protocal, ipPack_srcAddr, ipPack_dstAddr, hhead, htons_htons, htons_htons,
    toNat_toU16 htotal, toNat_toU16 hid, toNat_toU8 hproto]
  rfl

/-- The header gives all arguments back exactly when the TTL asked for is the
one `ip_pack` always writes. -/
theorem ip_round_trip_iff (hmin : 20 ≤ len) (hmax : len ≤ 60) (hwords : len % 4 = 0)
    (htotal : totalLen < 65536) (hid : id < 65536) (hproto : protocal < 256) :
    readIp (ipPack m a len totalLen id flag time protocal src dst) a =
        { version := 4, headLen := len, totalLen := totalLen, id := id, time := time,
          protocal := protocal, src := src, dst := dst } ↔
      time = 64 := by
  rw [readIp_ipPack m a len totalLen id flag time protocal src dst hmin hmax hwords htotal hid
    hproto, IpWire.mk.injEq]
  constructor
  · intro h
    exact h.2.2.2.2.1.symm
  · intro h
    simp [h]

end RoundTrip

theorem own_time_read_back :
    readIp (ipPack (fun _ => 0) 14 20 60 0 0 64 6 0x0101a8c0 0x0201a8c0) 14 =
      { version := 4, headLen := 20, totalLen := 60, id := 0, time := 64, protocal := 6,
        src := 0x0101a8c0, dst := 0x0201a8c0 } :=
  (ip_round_trip_iff (fun _ => 0) 14 20 60 0 0 64 6 0x0101a8c0 0x0201a8c0 (by decide) (by decide)
    (by decide) (by decide) (by decide) (by decide)).mpr rfl

/-- The TTL of `repack_vpn` is lost. -/
theorem tunnel_time_lost :
    ¬ ∀ (m : Mem) (a len totalLen id : Nat) (flag : Int) (time protocal : Nat) (src dst : UInt32),
      20 ≤ len → len ≤ 60 → len % 4 = 0 → totalLen < 65536 → id < 65536 → time < 256 →
      protocal < 256 →
        readIp (ipPack m a len totalLen id flag time protocal src dst) a =
          { version := 4, headLen := len, totalLen := totalLen, id := id, time := time,
            protocal := protocal, src := src, dst := dst } := by
  intro h
  have hread := h (fun _ => 0) 14 20 60 1 0 60 100 0x0101a8c0 0x0201a8c0 (by decide) (by decide)
    (by decide) (by decide) (by decide) (by decide) (by decide)
  rw [readIp_ipPack (fun _ => 0) 14 20 60 1 0 60 100 0x0101a8c0 0x0201a8c0 (by decide) (by decide)
    (by decide) (by decide) (by decide) (by decide)] at hread
  have htime : 64 = 60 := congrArg IpWire.time hread
  contradiction

/-! ## The checksum at the receiver -/

theorem headLen_lowerTime (buf : Mem) :
    Ip4hdr.headLen (lowerTime buf) 14 = Ip4hdr.headLen buf 14 := by
  simp (disch := omega) only [Ip4hdr.headLen, lowerTime, put8_beside, put16_beside]

theorem inCksum_lowerTime {buf : Mem} (hheader : 5 ≤ Ip4hdr.headLen buf 14) :
    inCksum (lowerTime buf) 14 (Ip4hdr.headLen buf 14 * 4) = 0 := by
  have hlen : Ip4hdr.headLen buf 14 < 16 := Nat.mod_lt _ (by decide)
  have hkept : Ip4hdr.headLen (put16 (put8 buf (14 + 8) (Ip4hdr.time buf 14 - 1)) (14 + 10) 0) 14 =
      Ip4hdr.headLen buf 14 := by
    simp (disch := omega) only [Ip4hdr.headLen, put8_beside, put16_beside]
  rw [lowerTime, hkept]
  exact inCksum_put16_self (by omega) (by decide) (by omega) (get16_put16_same _ _ _)

/-- The packet `route` leaves in the buffer is the one with the lowered TTL. -/
theorem route_packet (r : Router) (u : Undef) (buf : Mem) (len : Int) {x : Nat} (hx : 14 ≤ x) :
    (route r u buf len).1 x = lowerTime buf x := by
  simp only [route, dstAddr_lowerTime]
  cases (reroute r.device r.routeInfo (Ip4hdr.dstAddr buf 14) u.dst).1 with
  | none => rfl
  | some index => exact routeHeader_packet r u (lowerTime buf) index hx

/-- Both writers of IP headers leave a checksum that verifies. -/
theorem header_checksums_verify :
    (∀ (m : Mem) (a words : Nat) (totalLen id flag time protocal : Int) (src dst : UInt32),
      5 ≤ words → words ≤ 15 →
        inCksum (ipPack m a (4 * words) totalLen id flag time protocal src dst) a (4 * words) =
          0) ∧
    ∀ (r : Router) (u : Undef) (buf : Mem) (len : Int), 5 ≤ Ip4hdr.headLen buf 14 →
      inCksum (route r u buf len).1 14 (Ip4hdr.headLen (route r u buf len).1 14 * 4) = 0 := by
  constructor
  · intro m a words totalLen id flag time protocal src dst hmin hmax
    exact inCksum_ipPack m a (4 * words) totalLen id flag time protocal src dst (by omega)
      (by omega)
  · intro r u buf len hheader
    have hhead : Ip4hdr.headLen (route r u buf len).1 14 = Ip4hdr.headLen buf 14 := by
      rw [Ip4hdr.headLen, route_packet r u buf len (by omega)]
      exact headLen_lowerTime buf
    calc inCksum (route r u buf len).1 14 (Ip4hdr.headLen (route r u buf len).1 14 * 4)
        = inCksum (lowerTime buf) 14 (Ip4hdr.headLen buf 14 * 4) := by
          rw [hhead]
          exact inCksum_congr fun i _ => route_packet r u buf len (by omega)
      _ = 0 := inCksum_lowerTime hheader

end VpnRouter
