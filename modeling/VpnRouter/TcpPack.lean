import VpnRouter.IpPack
import Mathlib.Data.Nat.Bitwise

/-!
# TCP headers

`struct tcp_hdr` as a view of memory and `tcp_pack`.  The header is cleared
before it is filled, so what a caller wrote there is lost, and every field but
the urgent pointer comes out in network order.
-/

namespace VpnRouter

open Lib.Memory

def TCP_FIN : UInt32 := 0x0001

def TCP_SYN : UInt32 := 0x0002

def TCP_RST : UInt32 := 0x0004

def TCP_PSH : UInt32 := 0x0008

def TCP_ACK : UInt32 := 0x0010

def TCP_URG : UInt32 := 0x0020

def TCP_ECN : UInt32 := 0x0040

def TCP_CWR : UInt32 := 0x0080

def TCP_NON : UInt32 := 0x0100

/-! The fields of `struct tcp_hdr` at address `a`, as they lie in memory. -/

namespace TcpHdr

def srcPort (m : Mem) (a : Nat) : UInt16 := get16 m a

def dstPort (m : Mem) (a : Nat) : UInt16 := get16 m (a + 2)

def sequenceNum (m : Mem) (a : Nat) : UInt32 := get32 m (a + 4)

def ackNum (m : Mem) (a : Nat) : UInt32 := get32 m (a + 8)

def headLen (m : Mem) (a : Nat) : Nat := (m (a + 12)).toNat / 16

/-- The byte with `fin` in its lowest bit and `cwr` in its highest. -/
def flags (m : Mem) (a : Nat) : UInt8 := m (a + 13)

def windowsSize (m : Mem) (a : Nat) : UInt16 := get16 m (a + 14)

def csum (m : Mem) (a : Nat) : UInt16 := get16 m (a + 16)

def emergencyPoint (m : Mem) (a : Nat) : UInt16 := get16 m (a + 18)

def fin (m : Mem) (a : Nat) : Bool := (flags m a).toNat.testBit 0

def syn (m : Mem) (a : Nat) : Bool := (flags m a).toNat.testBit 1

def ack (m : Mem) (a : Nat) : Bool := (flags m a).toNat.testBit 4

end TcpHdr

/-- `if( flag & mask )` around the assignment of a bit field. -/
def setFlag (flag mask : UInt32) (m : Mem) (a k : Nat) : Mem :=
  if flag &&& mask ≠ 0 then setBit m a k else m

def tcpFlags (m : Mem) (a : Nat) (flag : UInt32) : Mem :=
  let m := setFlag flag TCP_FIN m (a + 13) 0
  let m := setFlag flag TCP_SYN m (a + 13) 1
  let m := setFlag flag TCP_RST m (a + 13) 2
  let m := setFlag flag TCP_PSH m (a + 13) 3
  let m := setFlag flag TCP_ACK m (a + 13) 4
  let m := setFlag flag TCP_URG m (a + 13) 5
  let m := setFlag flag TCP_ECN m (a + 13) 6
  let m := setFlag flag TCP_CWR m (a + 13) 7
  -- `non` is the bit below `head_len`
  setFlag flag TCP_NON m (a + 12) 3

/-- The assignments of `tcp_pack` before the segment is copied. -/
def tcpFields (m : Mem) (a hlen : Nat) (sport dport : UInt16) (snum acknum flag : UInt32)
    (size point : UInt16) : Mem :=
  let m := fill m a 0 hlen
  let m := put16 m a (htons sport)
  let m := put16 m (a + 2) (htons dport)
  let m := put32 m (a + 4) (htonl snum)
  let m := put32 m (a + 8) (htonl acknum)
  let m := putHigh4 m (a + 12) (hlen / 4)
  let m := tcpFlags m a flag
  let m := put16 m (a + 14) (htons size)
  let m := put16 m (a + 18) point
  put16 m (a + 16) 0

/-- The pseudo-header and the segment in a static buffer that holds `scratch`. -/
def pesudoHdrOver (scratch m : Mem) (a len : Nat) (src dst : UInt32) : Mem :=
  let buff := copy scratch 12 m a len
  let buff := put32 buff 0 src
  let buff := put32 buff 4 dst
  let buff := put8 buff 8 0
  let buff := put8 buff 9 IP_PROTOTCP
  put16 buff 10 (htons (UInt16.ofNat len))

/-- `tcp_pack` with its static buffer; it returns the segment and the buffer. -/
def tcpPackOver (scratch m : Mem) (a len hlen : Nat) (sport dport : UInt16)
    (snum acknum flag : UInt32) (size point : UInt16) (src dst : UInt32) : Mem × Mem :=
  let m := tcpFields m a hlen sport dport snum acknum flag size point
  let buff := pesudoHdrOver scratch m a len src dst
  (put16 m (a + 16) (inCksum buff 0 (len + 12)), buff)

/-! Of the static buffer only what the call has written is summed, so from here on it
is taken as cleared. -/

def pesudoHdr (m : Mem) (a len : Nat) (src dst : UInt32) : Mem :=
  pesudoHdrOver (fun _ => 0) m a len src dst

def tcpPack (m : Mem) (a len hlen : Nat) (sport dport : UInt16) (snum acknum flag : UInt32)
    (size point : UInt16) (src dst : UInt32) : Mem :=
  (tcpPackOver (fun _ => 0) m a len hlen sport dport snum acknum flag size point src dst).1

/-! ## The flag byte -/

theorem setFlag_beside {flag mask : UInt32} {m : Mem} {a k x : Nat} (h : x < a ∨ a + 1 ≤ x) :
    setFlag flag mask m a k x = m x := by
  unfold setFlag setBit
  split
  · exact put8_beside h
  · rfl

theorem and_mask_ne_zero {flag mask : UInt32} {k : Nat} (hmask : mask.toNat = 2 ^ k) :
    flag &&& mask ≠ 0 ↔ flag.toNat.testBit k = true := by
  rw [Ne, ← UInt32.toNat_inj, UInt32.toNat_and, hmask, Nat.and_two_pow]
  cases flag.toNat.testBit k <;> simp

/-- Setting the bits in order copies `flag` into the byte, bit by bit. -/
theorem setFlag_mod {flag : UInt32} (mask : UInt32) {m : Mem} {a k : Nat}
    (hmask : mask.toNat = 2 ^ k) (hk : k < 8) (hbyte : (m a).toNat = flag.toNat % 2 ^ k) :
    (setFlag flag mask m a k a).toNat = flag.toNat % 2 ^ (k + 1) := by
  have hbit : flag &&& mask ≠ 0 ↔ flag.toNat.testBit k = true := and_mask_ne_zero hmask
  have hlt : flag.toNat % 2 ^ k < 2 ^ k := Nat.mod_lt _ (Nat.two_pow_pos k)
  have hpow : 2 ^ k < 256 := Nat.pow_lt_pow_right (by decide) hk
  unfold setFlag
  by_cases hset : flag.toNat.testBit k = true
  · rw [if_pos (hbit.mpr hset), setBit, put8_same, UInt8.toNat_or, UInt8.toNat_ofNat',
      Nat.mod_eq_of_lt hpow, hbyte, Nat.or_two_pow_eq_add_of_lt hlt, Nat.mod_pow_succ,
      ← Nat.toNat_testBit, hset, Bool.toNat_true, Nat.mul_one]
  · have hclear : flag.toNat.testBit k = false := by simpa using hset
    rw [if_neg (hbit.not.mpr hset), hbyte, Nat.mod_pow_succ, ← Nat.toNat_testBit, hclear,
      Bool.toNat_false, Nat.mul_zero, Nat.add_zero]

theorem tcpFlags_beside {m : Mem} {a x : Nat} {flag : UInt32} (h : x < a + 12 ∨ a + 14 ≤ x) :
    tcpFlags m a flag x = m x := by
  simp (disch := omega) only [tcpFlags, setFlag_beside]

/-- `non` shares its byte with `head_len` and leaves it alone. -/
theorem setFlag_headLen {flag : UInt32} {m : Mem} {a : Nat} :
    TcpHdr.headLen (setFlag flag TCP_NON m (a + 12) 3) a = TcpHdr.headLen m a := by
  unfold setFlag TcpHdr.headLen
  split
  · rw [setBit, put8_same, UInt8.toNat_or, ← Nat.shiftRight_eq_div_pow _ 4,
      Nat.shiftRight_or_distrib, Nat.shiftRight_eq_div_pow]
    exact Nat.or_zero _
  · rfl

theorem tcpFlags_flags {m : Mem} {a : Nat} {flag : UInt32} (hzero : m (a + 13) = 0) :
    (TcpHdr.flags (tcpFlags m a flag) a).toNat = flag.toNat % 256 := by
  have h0 : (m (a + 13)).toNat = flag.toNat % 2 ^ 0 := by
    rw [hzero, Nat.pow_zero, Nat.mod_one]
    rfl
  have h1 := setFlag_mod TCP_FIN rfl (by decide) h0
  have h2 := setFlag_mod TCP_SYN rfl (by decide) h1
  have h3 := setFlag_mod TCP_RST rfl (by decide) h2
  have h4 := setFlag_mod TCP_PSH rfl (by decide) h3
  have h5 := setFlag_mod TCP_ACK rfl (by decide) h4
  have h6 := setFlag_mod TCP_URG rfl (by decide) h5
  have h7 := setFlag_mod TCP_ECN rfl (by decide) h6
  have h8 := setFlag_mod TCP_CWR rfl (by decide) h7
  rw [TcpHdr.flags, tcpFlags, setFlag_beside (by omega)]
  exact h8

theorem get16_tcpFlags {m : Mem} {a b : Nat} {flag : UInt32} (h : b + 2 ≤ a + 12 ∨ a + 14 ≤ b) :
    get16 (tcpFlags m a flag) b = get16 m b :=
  get16_congr fun _ _ => tcpFlags_beside (by omega)

theorem get32_tcpFlags {m : Mem} {a b : Nat} {flag : UInt32} (h : b + 4 ≤ a + 12 ∨ a + 14 ≤ b) :
    get32 (tcpFlags m a flag) b = get32 m b :=
  get32_congr fun _ _ => tcpFlags_beside (by omega)

/-! ## What `tcp_pack` writes -/

section TcpPack

variable {m : Mem} {a len hlen : Nat} {sport dport : UInt16} {snum acknum flag : UInt32}
  {size point : UInt16} {src dst : UInt32}

/-- The fields, and then the checksum over them. -/
theorem tcpPack_eq (m : Mem) :
    tcpPack m a len hlen sport dport snum acknum flag size point src dst =
      put16 (tcpFields m a hlen sport dport snum acknum flag size point) (a + 16)
        (inCksum (pesudoHdr (tcpFields m a hlen sport dport snum acknum flag size point) a len src
          dst) 0 (len + 12)) := rfl

theorem tcpPack_outside {x : Nat} (h : x < a ∨ a + 20 ≤ x) (hx : x < a ∨ a + hlen ≤ x) :
    tcpPack m a len hlen sport dport snum acknum flag size point src dst x = m x := by
  simp (disch := omega) only [tcpPack_eq, tcpFields, put16_beside, tcpFlags_beside, putHigh4,
    put8_beside, put32_beside, fill]
  rw [if_neg (by omega)]

theorem tcpPack_srcPort :
    TcpHdr.srcPort (tcpPack m a len hlen sport dport snum acknum flag size point src dst) a =
      htons sport := by
  simp (disch := omega) only [TcpHdr.srcPort, tcpPack_eq, tcpFields, get16_put16_beside,
    get16_tcpFlags, putHigh4, get16_put8_beside, get16_put32_beside, get16_put16_same]

theorem tcpPack_dstPort :
    TcpHdr.dstPort (tcpPack m a len hlen sport dport snum acknum flag size point src dst) a =
      htons dport := by
  simp (disch := omega) only [TcpHdr.dstPort, tcpPack_eq, tcpFields, get16_put16_beside,
    get16_tcpFlags, putHigh4, get16_put8_beside, get16_put32_beside, get16_put16_same]

theorem tcpPack_windowsSize :
    TcpHdr.windowsSize (tcpPack m a len hlen sport dport snum acknum flag size point src dst) a =
      htons size := by
  simp (disch := omega) only [TcpHdr.windowsSize, tcpPack_eq, tcpFields, get16_put16_beside,
    get16_put16_same]

/-- The urgent pointer is the one field that is not swapped. -/
theorem tcpPack_emergencyPoint :
    TcpHdr.emergencyPoint (tcpPack m a len hlen sport dport snum acknum flag size point src dst)
      a = point := by
  simp (disch := omega) only [TcpHdr.emergencyPoint, tcpPack_eq, tcpFields, get16_put16_beside,
    get16_put16_same]

theorem tcpPack_sequenceNum :
    TcpHdr.sequenceNum (tcpPack m a len hlen sport dport snum acknum flag size point src dst) a =
      htonl snum := by
  simp (disch := omega) only [TcpHdr.sequenceNum, tcpPack_eq, tcpFields, get32_put16_beside,
    get32_tcpFlags, putHigh4, get32_put8_beside, get32_put32_beside, get32_put32_same]

theorem tcpPack_ackNum :
    TcpHdr.ackNum (tcpPack m a len hlen sport dport snum acknum flag size point src dst) a =
      htonl acknum := by
  simp (disch := omega) only [TcpHdr.ackNum, tcpPack_eq, tcpFields, get32_put16_beside,
    get32_tcpFlags, putHigh4, get32_put8_beside, get32_put32_same]

theorem tcpPack_flags (hhlen : 14 ≤ hlen) :
    (TcpHdr.flags (tcpPack m a len hlen sport dport snum acknum flag size point src dst) a).toNat =
      flag.toNat % 256 := by
  have hbeside (m : Mem) (v w : UInt16) (u : UInt16) :
      TcpHdr.flags (put16 (put16 (put16 (put16 m (a + 14) u) (a + 18) v) (a + 16) 0) (a + 16) w) a =
        TcpHdr.flags m a := by
    simp (disch := omega) only [TcpHdr.flags, put16_beside]
  rw [tcpPack_eq, tcpFields, hbeside, tcpFlags_flags]
  simp (disch := omega) only [putHigh4, put8_beside, put32_beside, put16_beside, fill]
  rw [if_pos (by omega)]

theorem tcpPack_headLen (hhlen : 13 ≤ hlen) :
    TcpHdr.headLen (tcpPack m a len hlen sport dport snum acknum flag size point src dst) a =
      hlen / 4 % 16 := by
  have hbeside (m : Mem) (v w : UInt16) (u : UInt16) :
      TcpHdr.headLen (put16 (put16 (put16 (put16 m (a + 14) u) (a + 18) v) (a + 16) 0) (a + 16) w)
        a = TcpHdr.headLen m a := by
    simp (disch := omega) only [TcpHdr.headLen, put16_beside]
  rw [tcpPack_eq, tcpFields, hbeside, tcpFlags, setFlag_headLen]
  simp (disch := omega) only [TcpHdr.headLen, setFlag_beside, putHigh4, put8_same, put32_beside,
    put16_beside, fill, UInt8.toNat_ofNat']
  rw [if_pos (by omega), UInt8.toNat_zero]
  omega

/-- The three lowest bits of the byte with `head_len` stay clear, `non` lies
above them. -/
theorem tcpPack_reserved (hhlen : 13 ≤ hlen) :
    (tcpPack m a len hlen sport dport snum acknum flag size point src dst (a + 12)).toNat % 8 =
      0 := by
  have hnon (m : Mem) :
      (setFlag flag TCP_NON m (a + 12) 3 (a + 12)).toNat % 8 = (m (a + 12)).toNat % 8 := by
    unfold setFlag
    split
    · rw [setBit, put8_same, UInt8.toNat_or]
      exact (Nat.or_mod_two_pow (n := 3)).trans (Nat.or_zero _)
    · rfl
  simp (disch := omega) only [tcpPack_eq, tcpFields, put16_beside, tcpFlags, hnon, setFlag_beside,
    putHigh4, put8_same, put32_beside, fill, UInt8.toNat_ofNat']
  rw [if_pos (by omega), UInt8.toNat_zero]
  omega

/-- Behind the fixed part `tcp_pack` leaves zeros up to `hlen`. -/
theorem tcpPack_options {i : Nat} (hi : 20 ≤ i) (hlt : i < hlen) :
    tcpPack m a len hlen sport dport snum acknum flag size point src dst (a + i) = 0 := by
  simp (disch := omega) only [tcpPack_eq, tcpFields, put16_beside, tcpFlags_beside, putHigh4,
    put8_beside, put32_beside, fill]
  rw [if_pos (by omega)]

end TcpPack

end VpnRouter
