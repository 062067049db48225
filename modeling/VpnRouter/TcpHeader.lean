import VpnRouter.TcpUnpack

/-!
# TCP headers on the wire

What a receiver makes of the segments of `tcp_pack`.  Their checksum always
verifies, whatever the static buffer held that it was computed in.  Reading the
fields back gives every argument but two: the nonce flag lies in a reserved bit,
and the urgent pointer is not in network order.
-/

namespace VpnRouter

open Lib.Memory

/-! ## The checksum at the receiver -/

def pseudoHeader (src dst : UInt32) (len : Nat) : List UInt8 :=
  bytes32 src ++ bytes32 dst ++ [0, 6, UInt8.ofNat (len / 256), UInt8.ofNat len]

/-- The block a receiver sums: pseudo-header, then the `len` bytes at `a`. -/
def checkedBlock (m : Mem) (a len : Nat) (src dst : UInt32) : Mem :=
  overlay (pseudoHeader src dst len ++ load m a len) fun _ => 0

section Checksum

variable {m : Mem} {a len hlen : Nat} {sport dport : UInt16} {snum acknum flag : UInt32}
  {size point : UInt16} {src dst : UInt32}

/-- Every byte that is summed was written by this call. -/
theorem pesudoHdrOver_eq (scratch : Mem) {x : Nat} (hx : x < len + 12) :
    pesudoHdrOver scratch m a len src dst x = pesudoHdr m a len src dst x := by
  apply store_congr
  intro hlen
  apply store_congr
  intro hproto
  apply store_congr
  intro hunused
  apply store_congr
  intro hdst
  apply store_congr
  intro hsrc
  simp only [length_bytes16, length_bytes32, List.length_singleton] at hlen hproto hunused hdst hsrc
  rw [copy_inside (by omega), copy_inside (by omega)]

theorem tcpPackOver_fst (scratch m : Mem) :
    (tcpPackOver scratch m a len hlen sport dport snum acknum flag size point src dst).1 =
      tcpPack m a len hlen sport dport snum acknum flag size point src dst := by
  let fields := tcpFields m a hlen sport dport snum acknum flag size point
  have hsum : inCksum (pesudoHdrOver scratch fields a len src dst) 0 (len + 12) =
      inCksum (pesudoHdr fields a len src dst) 0 (len + 12) := by
    apply inCksum_congr
    intro i hi
    exact pesudoHdrOver_eq scratch (by omega)
  exact congrArg (put16 fields (a + 16)) hsum

theorem bytes16_len :
    bytes16 (htons (UInt16.ofNat len)) = [UInt8.ofNat (len / 256), UInt8.ofNat len] := by
  have hhigh : UInt8.ofNat ((UInt16.ofNat len).toNat / 256) = UInt8.ofNat (len / 256) := by
    apply UInt8.toNat.inj
    rw [UInt8.toNat_ofNat', UInt8.toNat_ofNat', UInt16.toNat_ofNat']
    omega
  have hlow : UInt8.ofNat (UInt16.ofNat len).toNat = UInt8.ofNat len := by
    apply UInt8.toNat.inj
    rw [UInt8.toNat_ofNat', UInt8.toNat_ofNat', UInt16.toNat_ofNat']
    omega
  rw [htons, bytes16_swap16, hhigh, hlow]

/-- What `tcp_pack` sums is the pseudo-header of a receiver, then the segment. -/
theorem load_pesudoHdr :
    load (pesudoHdr m a len src dst) 0 (12 + len) = pseudoHeader src dst len ++ load m a len := by
  have hsrc : load (pesudoHdr m a len src dst) 0 4 = bytes32 src := by
    simp (disch := omega) only [pesudoHdr, pesudoHdrOver, load_put16_beside, load_put8_beside,
      load_put32_beside, load_put32_same]
  have hdst : load (pesudoHdr m a len src dst) 4 4 = bytes32 dst := by
    simp (disch := omega) only [pesudoHdr, pesudoHdrOver, load_put16_beside, load_put8_beside,
      load_put32_same]
  have hunused : load (pesudoHdr m a len src dst) 8 1 = [0] := by
    simp (disch := omega) only [pesudoHdr, pesudoHdrOver, load_put16_beside, load_put8_beside,
      load_put8_same]
  have hproto : load (pesudoHdr m a len src dst) 9 1 = [6] := by
    simp (disch := omega) only [pesudoHdr, pesudoHdrOver, load_put16_beside, load_put8_same,
      IP_PROTOTCP]
  have hlen : load (pesudoHdr m a len src dst) 10 2 =
      [UInt8.ofNat (len / 256), UInt8.ofNat len] := by
    rw [pesudoHdr, pesudoHdrOver, load_put16_same, bytes16_len]
  have hsegment : load (pesudoHdr m a len src dst) 12 len = load m a len := by
    simp (disch := omega) only [pesudoHdr, pesudoHdrOver, load_put16_beside, load_put8_beside,
      load_put32_beside, load_copy_same]
  rw [show 12 + len = 4 + 4 + 1 + 1 + 2 + len by omega, load_add, load_add, load_add, load_add,
    load_add, hsrc, hdst, hunused, hproto, hlen, hsegment, pseudoHeader]
  simp

theorem checkedBlock_apply {i : Nat} (hi : i < 12 + len) :
    checkedBlock m a len src dst i = pesudoHdr m a len src dst i := by
  have hlength : i < (load (pesudoHdr m a len src dst) 0 (12 + len)).length := by
    rw [length_load]
    exact hi
  rw [checkedBlock, ← load_pesudoHdr, overlay_apply hlength, getD_load hi, Nat.zero_add]

/-- Every segment verifies at its receiver. -/
theorem segment_verifies (scratch m : Mem) (hmin : 20 ≤ hlen) (hfits : hlen ≤ len)
    (hupper : len ≤ 4084) :
    inCksum (checkedBlock
        (tcpPackOver scratch m a len hlen sport dport snum acknum flag size point src dst).1
        a len src dst) 0 (12 + len) = 0 := by
  let fields := tcpFields m a hlen sport dport snum acknum flag size point
  let csum := inCksum (pesudoHdr fields a len src dst) 0 (len + 12)
  have hpacked : tcpPack m a len hlen sport dport snum acknum flag size point src dst =
      put16 fields (a + 16) csum := rfl
  have hcleared : get16 (pesudoHdr fields a len src dst) (0 + 28) = 0 := by
    have hfield : get16 fields (a + 16) = 0 := get16_put16_same _ _ _
    rw [← hfield]
    apply get16_congr
    intro i hi
    rw [show 0 + 28 + i = 12 + (16 + i) by omega, pesudoHdr_segment (by omega), Nat.add_assoc]
  rw [tcpPackOver_fst, hpacked]
  calc inCksum (checkedBlock (put16 fields (a + 16) csum) a len src dst) 0 (12 + len)
      = inCksum (put16 (pesudoHdr fields a len src dst) (0 + 28) csum) 0 (len + 12) := by
        rw [Nat.add_comm 12 len]
        apply inCksum_congr
        intro i hi
        rw [Nat.zero_add, Nat.zero_add, checkedBlock_apply (by omega)]
        exact pesudoHdr_put16 csum hi
    _ = 0 := inCksum_put16_self (by omega) (by decide) (by omega) hcleared

end Checksum

/-- An odd payload. -/
theorem trailed_segment_verifies :
    inCksum (checkedBlock
        (tcpPackOver (fun _ => 7) (fun _ => 1) 34 33 32 49101 30000 1000 0 TCP_ACK 512 0 0x0101a8c0
          0x0201a8c0).1 34 33 0x0101a8c0 0x0201a8c0) 0 (12 + 33) = 0 :=
  segment_verifies (fun _ => 7) (fun _ => 1) (by decide) (by decide) (by decide)

/-! ## The fields at the receiver -/

/-- A TCP header by its layout: `headLen` in bytes, `flag` by the masks `TCP_FIN`
to `TCP_NON`, the nonce from the lowest bit of the byte with the data offset. -/
structure TcpWire where
  srcPort : Nat
  dstPort : Nat
  sequenceNum : Nat
  ackNum : Nat
  headLen : Nat
  flag : Nat
  windowsSize : Nat
  emergencyPoint : Nat
deriving DecidableEq, Repr

def readTcp (m : Mem) (a : Nat) : TcpWire where
  srcPort := be16 m a
  dstPort := be16 m (a + 2)
  sequenceNum := be32 m (a + 4)
  ackNum := be32 m (a + 8)
  headLen := (m (a + 12)).toNat / 16 * 4
  flag := (m (a + 12)).toNat % 2 * 256 + (m (a + 13)).toNat
  windowsSize := be16 m (a + 14)
  emergencyPoint := be16 m (a + 18)

/-- The reader's fields are those of `struct tcp_hdr`, in host order. -/
theorem readTcp_eq (m : Mem) (a : Nat) :
    readTcp m a =
      { srcPort := (htons (TcpHdr.srcPort m a)).toNat,
        dstPort := (htons (TcpHdr.dstPort m a)).toNat,
        sequenceNum := (htonl (TcpHdr.sequenceNum m a)).toNat,
        ackNum := (htonl (TcpHdr.ackNum m a)).toNat,
        headLen := TcpHdr.headLen m a * 4,
        flag := (m (a + 12)).toNat % 2 * 256 + (TcpHdr.flags m a).toNat,
        windowsSize := (htons (TcpHdr.windowsSize m a)).toNat,
        emergencyPoint := (htons (TcpHdr.emergencyPoint m a)).toNat } := by
  rw [readTcp, be16_eq_swap16, be16_eq_swap16, be32_eq_swap32, be32_eq_swap32, be16_eq_swap16,
    be16_eq_swap16]
  rfl

section RoundTrip

variable (m : Mem) (a len hlen : Nat) (sport dport : UInt16) (snum acknum flag : UInt32)
  (size point : UInt16) (src dst : UInt32)

theorem readTcp_tcpPack (hmin : 20 ≤ hlen) (hmax : hlen ≤ 60) (hwords : hlen % 4 = 0) :
    readTcp (tcpPack m a len hlen sport dport snum acknum flag size point src dst) a =
      { srcPort := sport.toNat, dstPort := dport.toNat, sequenceNum := snum.toNat,
        ackNum := acknum.toNat, headLen := hlen, flag := flag.toNat % 256,
        windowsSize := size.toNat, emergencyPoint := (htons point).toNat } := by
  have hhead : hlen / 4 % 16 * 4 = hlen := by omega
  have hreserved :
      (tcpPack m a len hlen sport dport snum acknum flag size point src dst (a + 12)).toNat % 8 =
        0 := tcpPack_reserved (by omega)
  have hnonce :
      (tcpPack m a len hlen sport dport snum acknum flag size point src dst (a + 12)).toNat % 2 =
        0 := by omega
  rw [readTcp_eq, tcpPack_srcPort, tcpPack_dstPort, tcpPack_sequenceNum, tcpPack_ackNum,
    tcpPack_headLen (by omega), hnonce, tcpPack_flags (by omega), tcpPack_windowsSize,
    tcpPack_emergencyPoint, hhead, htons_htons, htons_htons, htonl_htonl, htonl_htonl,
    htons_htons, Nat.zero_mul, Nat.zero_add]

/-- The header gives all arguments back exactly when the nonce flag is not asked
for and the urgent pointer is the same in both byte orders. -/
theorem tcp_round_trip_iff (hmin : 20 ≤ hlen) (hmax : hlen ≤ 60) (hwords : hlen % 4 = 0)
    (hflag : flag.toNat < 512) :
    readTcp (tcpPack m a len hlen sport dport snum acknum flag size point src dst) a =
        { srcPort := sport.toNat, dstPort := dport.toNat, sequenceNum := snum.toNat,
          ackNum := acknum.toNat, headLen := hlen, flag := flag.toNat,
          windowsSize := size.toNat, emergencyPoint := point.toNat } ↔
      flag &&& TCP_NON = 0 ∧ htons point = point := by
  have hbit : flag &&& TCP_NON = 0 ↔ flag.toNat % 256 = flag.toNat := by
    have hmask : flag &&& TCP_NON ≠ 0 ↔ flag.toNat.testBit 8 = true := and_mask_ne_zero rfl
    rw [← not_iff_not, ← Ne, hmask, Nat.testBit_eq_decide_div_mod_eq, decide_eq_true_eq]
    omega
  rw [readTcp_tcpPack m a len hlen sport dport snum acknum flag size point src dst hmin hmax
    hwords, TcpWire.mk.injEq, hbit, ← UInt16.toNat_inj]
  constructor
  · intro h
    exact ⟨h.2.2.2.2.2.1, h.2.2.2.2.2.2.2⟩
  · intro h
    exact ⟨rfl, rfl, rfl, rfl, rfl, h.1, rfl, h.2⟩

end RoundTrip

theorem syn_read_back :
    readTcp (tcpPack (fun _ => 0) 34 20 20 49101 30000 1000 2000 TCP_SYN 5840 0 0x0101a8c0
        0x0201a8c0) 34 =
      { srcPort := 49101, dstPort := 30000, sequenceNum := 1000, ackNum := 2000, headLen := 20,
        flag := 2, windowsSize := 5840, emergencyPoint := 0 } :=
  (tcp_round_trip_iff (fun _ => 0) 34 20 20 49101 30000 1000 2000 TCP_SYN 5840 0 0x0101a8c0
    0x0201a8c0 (by decide) (by decide) (by decide) (by decide)).mpr ⟨by decide, by decide⟩

/-- An urgent pointer of 1 is read as 256. -/
theorem urgent_pointer_swapped :
    ¬ ∀ (m : Mem) (a len hlen : Nat) (sport dport : UInt16) (snum acknum flag : UInt32)
      (size point : UInt16) (src dst : UInt32), 20 ≤ hlen → hlen ≤ 60 → hlen % 4 = 0 →
      flag.toNat < 512 →
        readTcp (tcpPack m a len hlen sport dport snum acknum flag size point src dst) a =
          { srcPort := sport.toNat, dstPort := dport.toNat, sequenceNum := snum.toNat,
            ackNum := acknum.toNat, headLen := hlen, flag := flag.toNat,
            windowsSize := size.toNat, emergencyPoint := point.toNat } := by
  intro h
  have hread := h (fun _ => 0) 34 20 20 49101 30000 1000 2000 TCP_URG 5840 1 0x0101a8c0 0x0201a8c0
    (by decide) (by decide) (by decide) (by decide)
  rw [readTcp_tcpPack (fun _ => 0) 34 20 20 49101 30000 1000 2000 TCP_URG 5840 1 0x0101a8c0
    0x0201a8c0 (by decide) (by decide) (by decide), TcpWire.mk.injEq] at hread
  have hpoint := hread.2.2.2.2.2.2.2
  revert hpoint
  decide

end VpnRouter
