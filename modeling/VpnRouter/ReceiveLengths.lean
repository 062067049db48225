import VpnRouter.TcpInput
import VpnRouter.Tunnel

/-!
# Lengths on the receive path

The lengths that `ip_rec_process` and its callees work with.  They grow by the
tunnel header and the Ethernet header at most, as long as the header lengths in
a packet for the router itself do not reach behind its end (`lengthsFit_iff`).
Nothing checks that they do not.
-/

namespace VpnRouter

open Lib.Memory

/-- The lengths of IP packets in an event. -/
def packetLengths : Event → List Int
  | .memcpy size => [size]
  | .unpackVpn len len' _ => [len.toNat, len'.toNat]
  | .getmessage len _ => [len]
  | _ => []

def frameLengths : Event → List Nat
  | .sendto _ _ frame => [frame.length]
  | .addToArpWaitBuffer _ frame _ _ => [frame.length]
  | _ => []

/-- A packet is at most a tunnel header longer than `n`, and a frame an Ethernet
header more. -/
structure LengthsFit (n : Nat) (e : Event) : Prop where
  packet : ∀ k ∈ packetLengths e, 0 ≤ k ∧ k ≤ n + 20
  frame : ∀ k ∈ frameLengths e, k ≤ n + 34

def headerLen (m : Mem) : Nat := Ip4hdr.headLen m 0 * 4

/-- The packet that `unpack_vpn` is given. -/
def innerPacket (m : Mem) : Mem := shift m (headerLen m)

/-- The header length that `unpack_vpn` reads for the second time: that of the
byte behind the inner header, when there is one. -/
def rereadLen (m : Mem) (n : Nat) : Nat :=
  if n = headerLen m + headerLen (innerPacket m) then headerLen (innerPacket m)
  else Ip4hdr.headLen (innerPacket m) (headerLen (innerPacket m)) * 4

/-- The headers of a packet for the router end within its `n` bytes, and so would
one that started behind the inner header and had its length. -/
def HeadersFit (r : Router) (m : Mem) (n : Nat) : Prop :=
  0 < whetherIpMe r.device (Ip4hdr.dstAddr m 0) →
    headerLen m ≤ n ∧
      (Ip4hdr.protocal m 0 = IP_PROTOPPTP →
        0 < whetherIpMe r.device (Ip4hdr.dstAddr (innerPacket m) 0) →
          headerLen m + headerLen (innerPacket m) ≤ n ∧ headerLen m + rereadLen m n ≤ n)

section Lengths

variable {r : Router} {u : Undef} {m : Mem} {n : Nat}

theorem lengthsFit_memcpy {size : Int} :
    LengthsFit n (.memcpy size) ↔ 0 ≤ size ∧ size ≤ n + 20 := by
  constructor
  · intro h
    exact h.packet size List.mem_cons_self
  · intro h
    exact ⟨fun k hk => List.mem_singleton.mp hk ▸ h, List.forall_mem_nil _⟩

theorem lengthsFit_unpackVpn {len len' : UInt32} {mark : Int} :
    LengthsFit n (.unpackVpn len len' mark) ↔ len.toNat ≤ n + 20 ∧ len'.toNat ≤ n + 20 := by
  constructor
  · intro h
    have hlen := (h.packet len.toNat List.mem_cons_self).2
    have hlen' := (h.packet len'.toNat (List.mem_cons_of_mem _ List.mem_cons_self)).2
    omega
  · intro h
    refine ⟨?_, List.forall_mem_nil _⟩
    intro k hk
    rcases List.mem_cons.mp hk with hk | hk
    · omega
    · have hk := List.mem_singleton.mp hk
      omega

theorem lengthsFit_getmessage {buf : Mem} {len : Int} :
    (∀ e ∈ getmessage buf len, LengthsFit n e) ↔ 0 ≤ len ∧ len ≤ n + 20 := by
  rw [getmessage, List.forall_mem_singleton]
  constructor
  · intro h
    exact h.packet len List.mem_cons_self
  · intro h
    exact ⟨fun k hk => List.mem_singleton.mp hk ▸ h, List.forall_mem_nil _⟩

theorem lengthsFit_deviceRead {i : Int} : LengthsFit n (.deviceRead i) :=
  ⟨List.forall_mem_nil _, List.forall_mem_nil _⟩

/-- A frame carries the Ethernet header in front of `k` bytes. -/
theorem lengthsFit_sedTransmit {k : Nat} (hk : k ≤ n + 20) (hn : n ≤ 65535) (buff : Mem)
    (dst1 : UInt32) (index : Nat) (upVpn : Bool) :
    ∀ e ∈ (sedTransmit r u buff k dst1 index upVpn).2, LengthsFit n e := by
  have hsize : sizeT ((k : Int) + 14) = k + 14 :=
    sizeT_natCast (n := k + 14) (by omega)
  cases ha : searchArpCache r.arpTable dst1 with
  | none =>
      obtain ⟨frame, hframe, hlog⟩ := sedTransmit_uncached u buff k index upVpn ha
      rw [hlog, List.forall_mem_singleton]
      refine ⟨List.forall_mem_nil _, ?_⟩
      rw [frameLengths, List.forall_mem_singleton]
      omega
  | some netcard =>
      obtain ⟨frame, hframe, hlog⟩ := sedTransmit_cached u buff k index upVpn ha
      rw [hlog, List.forall_mem_singleton]
      refine ⟨List.forall_mem_nil _, ?_⟩
      rw [frameLengths, List.forall_mem_singleton]
      omega

theorem lengthsFit_ipSedProcess {buf : Mem} {src dst : UInt32} {k : Nat} (hk : k ≤ n)
    (hn : n ≤ 65535) : ∀ e ∈ (ipSedProcess r u buf k src dst).2, LengthsFit n e := by
  apply ipSedProcess_forall
  · exact lengthsFit_memcpy.mpr (by omega)
  · intro buff l dst1 index upVpn hl
    rcases hl with rfl | rfl
    · exact lengthsFit_sedTransmit (by omega) hn buff dst1 index upVpn
    · exact lengthsFit_sedTransmit (k := k + 20) (by omega) hn buff dst1 index upVpn

/-! ## The three branches for the router itself -/

theorem ipRecProcess_message (u : Undef) (len : Int)
    (hme : ¬ whetherIpMe r.device (Ip4hdr.dstAddr m 0) < 0)
    (hproto : Ip4hdr.protocal m 0 ≠ IP_PROTOPPTP) :
    (ipRecProcess r u m len).2 = getmessage (innerPacket m) (len - headerLen m) := by
  simp only [ipRecProcess, if_neg hme, if_neg hproto]
  rfl

theorem ipRecProcess_through (u : Undef) (len : Int)
    (hme : ¬ whetherIpMe r.device (Ip4hdr.dstAddr m 0) < 0)
    (hproto : Ip4hdr.protocal m 0 = IP_PROTOPPTP)
    (hdst : ¬ whetherIpMe r.device (Ip4hdr.dstAddr (innerPacket m) 0) > 0) :
    (ipRecProcess r u m len).2 =
      .unpackVpn (toU32 (len - headerLen m)) (toU32 (len - headerLen m)) 1 ::
        (ipSedProcess r u (innerPacket m) (ofU32 (toU32 (len - headerLen m))) 0
          (Ip4hdr.dstAddr (innerPacket m) 0)).2 := by
  rw [innerPacket, headerLen] at hdst ⊢
  simp [ipRecProcess, if_neg hme, hproto, unpackVpn, if_neg hdst]

/-- The buffer after the move of `unpack_vpn`. -/
def movedInner (m : Mem) (len : UInt32) : Mem :=
  copy (innerPacket m) 0 (innerPacket m) (headerLen (innerPacket m))
    (len - UInt32.ofNat (headerLen (innerPacket m))).toNat

theorem ipRecProcess_own (u : Undef) (len : Int)
    (hme : ¬ whetherIpMe r.device (Ip4hdr.dstAddr m 0) < 0)
    (hproto : Ip4hdr.protocal m 0 = IP_PROTOPPTP)
    (hdst : whetherIpMe r.device (Ip4hdr.dstAddr (innerPacket m) 0) > 0) :
    let outer := toU32 (len - headerLen m)
    let size := outer - UInt32.ofNat (headerLen (innerPacket m))
    let len' := outer - UInt32.ofNat (headerLen (movedInner m outer))
    (ipRecProcess r u m len).2 =
      .memcpy size.toNat :: .unpackVpn outer len' 2 ::
        getmessage (movedInner m outer) (ofU32 len') := by
  rw [innerPacket, headerLen] at hdst
  simp [ipRecProcess, if_neg hme, hproto, unpackVpn, if_pos hdst, movedInner, innerPacket,
    headerLen]

/-! ## When the lengths fit -/

theorem headerLen_le (m : Mem) : headerLen m ≤ 60 := by
  have hnibble : Ip4hdr.headLen m 0 < 16 := Nat.mod_lt _ (by decide)
  rw [headerLen]
  omega

theorem toNat_toU32 (k : Int) : (toU32 k).toNat = (k % 2 ^ 32).toNat := by
  rw [toU32, UInt32.toNat_ofNat']
  omega

/-- A difference that wraps is far above every length that fits. -/
theorem toU32_sub_fits_iff {k : Nat} (hn : n ≤ 65535) (hk : k ≤ 60) :
    (toU32 ((n : Int) - k)).toNat ≤ n + 20 ↔ k ≤ n := by
  rw [toNat_toU32]
  omega

theorem sub_fits_iff {len : UInt32} {k : Nat} (hn : n ≤ 65535) (hlen : len.toNat ≤ n)
    (hk : k ≤ 60) : (len - UInt32.ofNat k).toNat ≤ n + 20 ↔ k ≤ len.toNat := by
  rw [UInt32.toNat_sub, UInt32.toNat_ofNat']
  omega

theorem ofU32_fits {v : UInt32} (hn : n ≤ 65535) (hv : v.toNat ≤ n + 20) :
    0 ≤ ofU32 v ∧ ofU32 v ≤ n + 20 := by
  rw [ofU32, if_pos (by omega)]
  omega

theorem headerLen_movedInner {len : UInt32} (hn : n ≤ 65535) (houter : headerLen m ≤ n)
    (hlen : len.toNat = n - headerLen m) (hinner : headerLen (innerPacket m) ≤ len.toNat) :
    headerLen (movedInner m len) = rereadLen m n := by
  have hsize : (len - UInt32.ofNat (headerLen (innerPacket m))).toNat =
      n - headerLen m - headerLen (innerPacket m) := by
    rw [UInt32.toNat_sub, UInt32.toNat_ofNat']
    omega
  unfold rereadLen
  by_cases hempty : n = headerLen m + headerLen (innerPacket m)
  · rw [if_pos hempty, headerLen, Ip4hdr.headLen, movedInner, hsize, copy, if_neg (by omega)]
    rfl
  · rw [if_neg hempty, headerLen, Ip4hdr.headLen, movedInner, hsize, copy_inside (by omega)]
    rfl

theorem own_fits_iff (hn : n ≤ 65535) (buf : Mem) :
    let outer := toU32 ((n : Int) - headerLen m)
    let size := outer - UInt32.ofNat (headerLen (innerPacket m))
    let len' := outer - UInt32.ofNat (headerLen (movedInner m outer))
    (∀ e ∈ Event.memcpy size.toNat :: .unpackVpn outer len' 2 :: getmessage buf (ofU32 len'),
        LengthsFit n e) ↔
      headerLen m ≤ n ∧ headerLen m + headerLen (innerPacket m) ≤ n ∧
        headerLen m + rereadLen m n ≤ n := by
  intro outer size len'
  have hk := headerLen_le (innerPacket m)
  have hk' := headerLen_le (movedInner m outer)
  have houter : outer.toNat ≤ n + 20 ↔ headerLen m ≤ n := toU32_sub_fits_iff hn (headerLen_le m)
  rw [List.forall_mem_cons, List.forall_mem_cons, lengthsFit_memcpy, lengthsFit_unpackVpn,
    lengthsFit_getmessage, houter]
  by_cases hfits : headerLen m ≤ n
  · have hlen : outer.toNat = n - headerLen m := by
      rw [toNat_toU32]
      omega
    have hsize : size.toNat ≤ n + 20 ↔ headerLen (innerPacket m) ≤ outer.toNat :=
      sub_fits_iff hn (by omega) hk
    have hlen' : len'.toNat ≤ n + 20 ↔ headerLen (movedInner m outer) ≤ outer.toNat :=
      sub_fits_iff hn (by omega) hk'
    by_cases hinner : headerLen (innerPacket m) ≤ outer.toNat
    · have hreread := headerLen_movedInner hn hfits hlen hinner
      constructor
      · intro h
        have hfits' := hlen'.mp h.2.1.2
        omega
      · intro h
        have hlast := hlen'.mpr (by omega)
        have hfirst := hsize.mpr hinner
        exact ⟨by omega, ⟨hfits, hlast⟩, ofU32_fits hn hlast⟩
    · constructor
      · intro h
        exact absurd (hsize.mp (by omega)) hinner
      · intro h
        omega
  · constructor
    · intro h
      exact absurd h.2.1.1 hfits
    · intro h
      exact absurd h.1 hfits

theorem through_fits_iff {src dst : UInt32} {buf : Mem} (hn : n ≤ 65535) :
    (∀ e ∈ Event.unpackVpn (toU32 ((n : Int) - headerLen m)) (toU32 ((n : Int) - headerLen m)) 1 ::
        (ipSedProcess r u buf (ofU32 (toU32 ((n : Int) - headerLen m))) src dst).2,
      LengthsFit n e) ↔ headerLen m ≤ n := by
  have houter := toU32_sub_fits_iff hn (headerLen_le m)
  rw [List.forall_mem_cons, lengthsFit_unpackVpn, houter, and_self_iff]
  constructor
  · intro h
    exact h.1
  · intro h
    have hlen : ofU32 (toU32 ((n : Int) - headerLen m)) = ((n - headerLen m : Nat) : Int) := by
      rw [← Int.natCast_sub h]
      exact ofU32_toU32 (by omega)
    rw [hlen]
    exact ⟨h, lengthsFit_ipSedProcess (by omega) hn⟩

/-- All lengths of a call fit exactly when the header lengths in the packet do. -/
theorem lengthsFit_iff (r : Router) (u : Undef) (m : Mem) {n : Nat} (hn : n ≤ 65535) :
    (∀ e ∈ (ipRecProcess r u m n).2, LengthsFit n e) ↔ HeadersFit r m n := by
  by_cases hme : whetherIpMe r.device (Ip4hdr.dstAddr m 0) < 0
  · rw [ipRecProcess_forward hme, List.forall_mem_cons]
    refine iff_of_true ⟨lengthsFit_deviceRead, ?_⟩ ?_
    · unfold forward
      split
      · exact lengthsFit_ipSedProcess (le_refl n) hn
      · exact lengthsFit_ipSedProcess (le_refl n) hn
    · intro hown
      exact absurd hown (whetherIpMe_neg.mp hme)
  · have hown : 0 < whetherIpMe r.device (Ip4hdr.dstAddr m 0) := by
      by_contra hnot
      exact hme (whetherIpMe_neg.mpr hnot)
    rw [HeadersFit, forall_prop_of_true hown]
    by_cases hproto : Ip4hdr.protocal m 0 = IP_PROTOPPTP
    · rw [forall_prop_of_true hproto]
      by_cases hdst : 0 < whetherIpMe r.device (Ip4hdr.dstAddr (innerPacket m) 0)
      · rw [forall_prop_of_true hdst, ipRecProcess_own u n hme hproto hdst]
        exact own_fits_iff hn _
      · rw [forall_prop_of_false hdst, and_true, ipRecProcess_through u n hme hproto hdst]
        exact through_fits_iff hn
    · have hheader := headerLen_le m
      rw [forall_prop_of_false hproto, and_true, ipRecProcess_message u n hme hproto,
        lengthsFit_getmessage]
      omega

end Lengths

/-! ## Received frames -/

/-- `ip_rec_process` on the IP part of a frame in the receive buffer. -/
def recFrame (r : Router) (u : Undef) (f : Received) (rest : Mem) : List Event :=
  (ipRecProcess r u (shift (f.mem rest) 14) ((f.bytes.length - 14 : Nat) : Int)).2

/-- The lengths fit, and with them every copy fits the frame buffer of 4096 bytes,
in which a packet starts at 34 at most. -/
structure CopiesFit (f : Received) (log : List Event) : Prop where
  lengths : ∀ e ∈ log, LengthsFit (f.bytes.length - 14) e
  packets : ∀ e ∈ log, ∀ k ∈ packetLengths e, k + 34 ≤ 4096
  frames : ∀ e ∈ log, ∀ k ∈ frameLengths e, k ≤ 4096

theorem received_lengths_fit (r : Router) (u : Undef) (f : Received) (rest : Mem)
    (hheaders : HeadersFit r (shift (f.mem rest) 14) (f.bytes.length - 14)) :
    CopiesFit f (recFrame r u f rest) := by
  have hupper := f.upper
  have hfit : ∀ e ∈ recFrame r u f rest, LengthsFit (f.bytes.length - 14) e :=
    (lengthsFit_iff r u _ (by omega)).mpr hheaders
  constructor
  · exact hfit
  · intro e he k hk
    have hpacket := ((hfit e he).packet k hk).2
    omega
  · intro e he k hk
    have hframe := (hfit e he).frame k hk
    omega

/-! Frames with eight bytes of payload, one for the tunnel of `siteA` and one for
`siteA` itself with a header length of 60. -/

def paddedFrame (packet : List UInt8) (hlen : packet.length = 20) : Received where
  bytes := List.replicate 14 0 ++ packet ++ List.replicate 8 0
  lower := by simp [hlen]
  upper := by simp [hlen]

def tunnelledFrame : Received := paddedFrame toSiteB.bytes rfl

def shortOwnFrame : Received :=
  paddedFrame ((emptyPacket 64 0x0505a8c0 0x0100000a).bytes.set 0 0x4f) rfl

theorem tunnelled_lengths_fit :
    CopiesFit tunnelledFrame (recFrame siteA zeroUndef tunnelledFrame fun _ => 0) :=
  received_lengths_fit siteA zeroUndef tunnelledFrame (fun _ => 0) fun hme => absurd hme (by decide)

def allLengths (log : List Event) : List Int :=
  log.flatMap fun e => packetLengths e ++ (frameLengths e).map fun k => (k : Int)

/-- The tunnelled frame has both headers on top of its 28 bytes, and the index of
the zero byte of the other is negative. -/
theorem lengths_exceed :
    (¬ ∀ k ∈ allLengths (recFrame siteA zeroUndef tunnelledFrame fun _ => 0),
        0 ≤ k ∧ k ≤ 28 + 20) ∧
      ¬ ∀ k ∈ allLengths (recFrame siteA zeroUndef shortOwnFrame fun _ => 0),
        0 ≤ k ∧ k ≤ 28 + 20 := by
  decide

end VpnRouter
