import VpnRouter.Data
import VpnRouter.Lib.OnesComplement

/-!
# IPv4 headers and their checksum

`struct ip4hdr` as a view of memory, `in_cksum` and `ip_pack`.  The checksum of
every header `ip_pack` writes verifies (`inCksum_ipPack`).
-/

namespace VpnRouter

open Lib.Memory Lib.OnesComplement

def IP_PROTOTCP : UInt8 := 6

def IP_PROTOPPTP : UInt8 := 100

def cksumLoop (m : Mem) : Nat → Nat → Nat → Nat
  | addr, len + 2, sum => cksumLoop m (addr + 2) len (sum + (get16 m addr).toNat)
  | addr, 1, sum => sum + (m addr).toNat
  | _, 0, sum => sum

def inCksum (m : Mem) (addr len : Nat) : UInt16 :=
  let sum := cksumLoop m addr len 0
  let sum := (sum >>> 16) + (sum &&& 0xffff)
  let sum := sum + (sum >>> 16)
  ~~~ UInt16.ofNat sum

/-! The fields of `struct ip4hdr` at address `a`, as they lie in memory. -/

namespace Ip4hdr

def headLen (m : Mem) (a : Nat) : Nat := (m a).toNat % 16

def version (m : Mem) (a : Nat) : Nat := (m a).toNat / 16

def totalLen (m : Mem) (a : Nat) : UInt16 := get16 m (a + 2)

def id (m : Mem) (a : Nat) : UInt16 := get16 m (a + 4)

def time (m : Mem) (a : Nat) : UInt8 := m (a + 8)

def protocal (m : Mem) (a : Nat) : UInt8 := m (a + 9)

def srcAddr (m : Mem) (a : Nat) : UInt32 := get32 m (a + 12)

def dstAddr (m : Mem) (a : Nat) : UInt32 := get32 m (a + 16)

end Ip4hdr

def toU8 (n : Int) : UInt8 := UInt8.ofNat (n % 256).toNat

def toU16 (n : Int) : UInt16 := UInt16.ofNat (n % 65536).toNat

theorem toNat_toU8 {n : Nat} (h : n < 256) : (toU8 (n : Int)).toNat = n := by
  rw [toU8, UInt8.toNat_ofNat']
  omega

theorem toNat_toU16 {n : Nat} (h : n < 65536) : (toU16 (n : Int)).toNat = n := by
  rw [toU16, UInt16.toNat_ofNat']
  omega

/-- The assignments of `ip_pack` before the checksum; `time` is not among them,
the field gets the constant 64. -/
def ipFields (m : Mem) (a len : Nat) (totalLen id flag protocal : Int) (src dst : UInt32) : Mem :=
  let m := putLow4 m a (len / 4)
  let m := putHigh4 m a 4
  let m := put8 m (a + 1) 0
  let m := put16 m (a + 2) (htons (toU16 totalLen))
  let m := put16 m (a + 4) (htons (toU16 id))
  let m := put16 m (a + 6) (toU16 flag)
  let m := put8 m (a + 9) (toU8 protocal)
  let m := put8 m (a + 8) 64
  let m := put32 m (a + 12) src
  let m := put32 m (a + 16) dst
  put16 m (a + 10) 0

def ipPack (m : Mem) (a len : Nat) (totalLen id flag _time protocal : Int)
    (src dst : UInt32) : Mem :=
  let m := ipFields m a len totalLen id flag protocal src dst
  put16 m (a + 10) (inCksum m a len)

/-! ## The checksum -/

theorem cksumLoop_eq (m : Mem) (addr len sum : Nat) :
    cksumLoop m addr len sum = sum + wordSum m addr len := by
  induction len using Nat.twoStepInduction generalizing addr sum with
  | zero => rfl
  | one => rfl
  | more len ih _ =>
      rw [cksumLoop, ih, wordSum]
      omega

theorem inCksum_toNat (m : Mem) (addr len : Nat) :
    (inCksum m addr len).toNat = 65535 - foldTwice (wordSum m addr len) := by
  unfold inCksum foldTwice
  simp only [cksumLoop_eq, Nat.zero_add, and_0xffff, shiftRight_16, UInt16.toNat_not,
    UInt16.toNat_ofNat']
  have hsize : UInt16.size = 65536 := rfl
  omega

theorem inCksum_congr {m m' : Mem} {a a' len : Nat}
    (h : ∀ i, i < len → m (a + i) = m' (a' + i)) : inCksum m a len = inCksum m' a' len := by
  unfold inCksum
  rw [cksumLoop_eq, cksumLoop_eq, wordSum_congr h]

/-- Storing the checksum in a word that was zero makes the block verify. -/
theorem inCksum_put16_self {m : Mem} {a len k : Nat} (hlen : len ≤ 65535) (hk : k % 2 = 0)
    (hkl : k + 2 ≤ len) (hzero : get16 m (a + k) = 0) :
    inCksum (put16 m (a + k) (inCksum m a len)) a len = 0 := by
  have hle := wordSum_le m a len
  have hsum := wordSum_put16 m a len k (inCksum m a len) hk hkl
  rw [hzero, inCksum_toNat, UInt16.toNat_zero, Nat.add_zero] at hsum
  apply UInt16.toNat.inj
  rw [inCksum_toNat, hsum, foldTwice_add_complement (by omega)]
  rfl

/-! ## What `ip_pack` writes -/

section IpPack

variable (m : Mem) (a len : Nat) (totalLen id flag time protocal : Int) (src dst : UInt32)

theorem ipPack_outside {x : Nat} (h : x < a ∨ a + 20 ≤ x) :
    ipPack m a len totalLen id flag time protocal src dst x = m x := by
  simp (disch := omega) only [ipPack, ipFields, putHigh4, putLow4, put8_beside, put16_beside,
    put32_beside]

theorem ipPack_firstByte :
    ipPack m a len totalLen id flag time protocal src dst a = UInt8.ofNat (64 + len / 4 % 16) := by
  simp (disch := omega) only [ipPack, ipFields, putHigh4, putLow4, put8_beside, put16_beside,
    put32_beside, put8_same]
  apply UInt8.toNat.inj
  simp only [UInt8.toNat_ofNat']
  omega

theorem ipPack_version :
    Ip4hdr.version (ipPack m a len totalLen id flag time protocal src dst) a = 4 := by
  rw [Ip4hdr.version, ipPack_firstByte, UInt8.toNat_ofNat']
  omega

theorem ipPack_headLen :
    Ip4hdr.headLen (ipPack m a len totalLen id flag time protocal src dst) a = len / 4 % 16 := by
  rw [Ip4hdr.headLen, ipPack_firstByte, UInt8.toNat_ofNat']
  omega

theorem ipPack_totalLen :
    Ip4hdr.totalLen (ipPack m a len totalLen id flag time protocal src dst) a =
      htons (toU16 totalLen) := by
  simp (disch := omega) only [Ip4hdr.totalLen, ipPack, ipFields, get16_put8_beside,
    get16_put16_beside, get16_put32_beside, get16_put16_same]

theorem ipPack_id :
    Ip4hdr.id (ipPack m a len totalLen id flag time protocal src dst) a = htons (toU16 id) := by
  simp (disch := omega) only [Ip4hdr.id, ipPack, ipFields, get16_put8_beside,
    get16_put16_beside, get16_put32_beside, get16_put16_same]

theorem ipPack_time :
    Ip4hdr.time (ipPack m a len totalLen id flag time protocal src dst) a = 64 := by
  simp (disch := omega) only [Ip4hdr.time, ipPack, ipFields, put16_beside, put32_beside,
    put8_same]

theorem ipPack_protocal :
    Ip4hdr.protocal (ipPack m a len totalLen id flag time protocal src dst) a =
      toU8 protocal := by
  simp (disch := omega) only [Ip4hdr.protocal, ipPack, ipFields, put8_beside, put16_beside,
    put32_beside, put8_same]

theorem ipPack_srcAddr :
    Ip4hdr.srcAddr (ipPack m a len totalLen id flag time protocal src dst) a = src := by
  simp (disch := omega) only [Ip4hdr.srcAddr, ipPack, ipFields, get32_put16_beside,
    get32_put32_beside, get32_put32_same]

theorem ipPack_dstAddr :
    Ip4hdr.dstAddr (ipPack m a len totalLen id flag time protocal src dst) a = dst := by
  simp (disch := omega) only [Ip4hdr.dstAddr, ipPack, ipFields, get32_put16_beside,
    get32_put32_same]

/-- Whatever the arguments, the header's own checksum verifies. -/
theorem inCksum_ipPack (hlen : 20 ≤ len) (hmax : len ≤ 65535) :
    inCksum (ipPack m a len totalLen id flag time protocal src dst) a len = 0 := by
  unfold ipPack
  exact inCksum_put16_self hmax (by decide) (by omega) (get16_put16_same _ _ _)

end IpPack

end VpnRouter
