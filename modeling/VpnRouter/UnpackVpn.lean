import VpnRouter.IpProcess

/-!
# Taking a header off

`unpack_vpn` on a packet for the router.  It moves the packet over its own
header and then takes the header length from the moved bytes, so the length it
leaves is right only by the first byte behind the header (`strips_iff`).
-/

namespace VpnRouter

open Lib.Memory

/-- The length of the header, in bytes. -/
def Packet.hlen (p : Packet) : Nat := (p.bytes.getD 0 0).toNat % 16 * 4

/-- `unpack_vpn` on a buffer that starts with the packet. -/
def unpack (r : Router) (p : Packet) (rest : Mem) : UnpackRet :=
  unpackVpn r (p.mem rest) (UInt32.ofNat p.bytes.length)

structure Strips (p : Packet) (ret : UnpackRet) : Prop where
  mark : ret.mark = 2
  len : ret.len.toNat = p.bytes.length - p.hlen
  packet : load ret.buf 0 (p.bytes.length - p.hlen) = p.bytes.drop p.hlen

section Unpack

variable {r : Router} {p : Packet} {rest : Mem}

theorem Packet.headLen_mem (p : Packet) (rest : Mem) :
    Ip4hdr.headLen (p.mem rest) 0 * 4 = p.hlen := by
  have hlen := p.header
  rw [Ip4hdr.headLen, Packet.mem, overlay_apply (by omega), Packet.hlen]

theorem toNat_sub_ofNat {n k : Nat} (hn : n ≤ 65535) (hk : k ≤ n) :
    (UInt32.ofNat n - UInt32.ofNat k).toNat = n - k := by
  rw [UInt32.toNat_sub, UInt32.toNat_ofNat', UInt32.toNat_ofNat']
  omega

/-- The packet moved over its header. -/
def moved (p : Packet) (rest : Mem) : Mem :=
  copy (p.mem rest) 0 (p.mem rest) p.hlen (p.bytes.length - p.hlen)

theorem unpack_own (rest : Mem) (hfits : p.hlen ≤ p.bytes.length)
    (hme : whetherIpMe r.device p.dst > 0) :
    (unpack r p rest).mark = 2 ∧ (unpack r p rest).buf = moved p rest ∧
      (unpack r p rest).len = UInt32.ofNat p.bytes.length -
        UInt32.ofNat (Ip4hdr.headLen (moved p rest) 0 * 4) := by
  have hsize : (UInt32.ofNat p.bytes.length - UInt32.ofNat p.hlen).toNat = _ :=
    toNat_sub_ofNat p.fits hfits
  rw [unpack, unpackVpn, Packet.dstAddr_mem, if_pos hme]
  simp only [Packet.headLen_mem, hsize]
  exact ⟨trivial, rfl, rfl⟩

theorem load_moved :
    load (moved p rest) 0 (p.bytes.length - p.hlen) = p.bytes.drop p.hlen := by
  have hload : load (p.mem rest) p.hlen (p.bytes.length - p.hlen) =
      (load (p.mem rest) 0 p.bytes.length).drop p.hlen := by
    rw [drop_load, Nat.zero_add]
  rw [moved, load_copy_same, hload, Packet.load_mem]

/-- The length nibble that is read after the move. -/
theorem headLen_moved (hfits : p.hlen ≤ p.bytes.length) :
    Ip4hdr.headLen (moved p rest) 0 * 4 =
      if p.bytes.length = p.hlen then p.hlen else (p.bytes.getD p.hlen 0).toNat % 16 * 4 := by
  by_cases hempty : p.bytes.length = p.hlen
  · rw [if_pos hempty, ← p.headLen_mem rest, Ip4hdr.headLen, moved, copy,
      if_neg (by omega), Ip4hdr.headLen]
  · rw [if_neg hempty, Ip4hdr.headLen, moved, copy_inside (by omega), Packet.mem,
      overlay_apply (by omega)]
    rfl

/-- `unpack_vpn` takes exactly the header off when nothing follows it, or when the
byte behind it holds the same length nibble. -/
theorem strips_iff (hheader : 20 ≤ p.hlen) (hfits : p.hlen ≤ p.bytes.length)
    (hme : whetherIpMe r.device p.dst > 0) :
    Strips p (unpack r p rest) ↔
      p.bytes.length = p.hlen ∨ (p.bytes.getD p.hlen 0).toNat % 16 * 4 = p.hlen := by
  obtain ⟨hmark, hbuf, hlen⟩ := unpack_own rest hfits hme
  have hlength := p.fits
  have hiff : (unpack r p rest).len.toNat = p.bytes.length - p.hlen ↔
      Ip4hdr.headLen (moved p rest) 0 * 4 = p.hlen := by
    have hnibble : Ip4hdr.headLen (moved p rest) 0 < 16 := Nat.mod_lt _ (by decide)
    rw [hlen, UInt32.toNat_sub, UInt32.toNat_ofNat', UInt32.toNat_ofNat']
    omega
  rw [headLen_moved hfits] at hiff
  constructor
  · intro h
    have hmoved := hiff.mp h.len
    by_cases hempty : p.bytes.length = p.hlen
    · exact .inl hempty
    · rw [if_neg hempty] at hmoved
      exact .inr hmoved
  · intro h
    refine ⟨hmark, hiff.mpr ?_, ?_⟩
    · split
      · rfl
      · rename_i hmore
        exact h.resolve_left hmore
    · rw [hbuf]
      exact load_moved

end Unpack

/-! A packet for 192.168.1.2 with one byte behind its header. -/

def trailedBy (b : UInt8) : Packet where
  bytes := (emptyPacket 64 0x0301a8c0 0x0201a8c0).bytes ++ [b]
  header := by simp [emptyPacket]
  fits := by simp [emptyPacket]

def ownRouter : Router :=
  { bareRouter with
    device := [{ interface := "eth4", macAddr := macOf 2 0 0 0 0 1, ip := 0x0201a8c0,
                 netmask := 0x00ffffff, vpn := 0 }] }

theorem header_behind_header :
    Strips (trailedBy 0x45) (unpack ownRouter (trailedBy 0x45) fun _ => 0) :=
  (strips_iff (by decide) (by decide) (by decide)).mpr (by decide)

theorem length_kept :
    ¬ ∀ (r : Router) (p : Packet) (rest : Mem), 20 ≤ p.hlen → p.hlen ≤ p.bytes.length →
      whetherIpMe r.device p.dst > 0 → Strips p (unpack r p rest) := by
  intro h
  have hstrips := h ownRouter (trailedBy 0) (fun _ => 0) (by decide) (by decide) (by decide)
  have hlen := hstrips.len
  revert hlen
  decide

end VpnRouter
