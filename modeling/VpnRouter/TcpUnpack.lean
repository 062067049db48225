import VpnRouter.TcpPack

/-!
# The checksum test of `tcp_unpack`

`tcp_pack` clears the checksum field before it copies the segment, `tcp_unpack`
after.  So `tcp_unpack` sums the stored checksum with the rest, and refuses what
`tcp_pack` makes (`tcpUnpack_tcpPack`).
-/

namespace VpnRouter

open Lib.Memory Lib.OnesComplement

/-- Whether `csum error` is printed, and the segment afterwards; nothing else
that `tcp_unpack` is given is written. -/
def tcpUnpack (m : Mem) (a len : Nat) (src dst : UInt32) : Bool × Mem :=
  let csum := TcpHdr.csum m a
  let buff := pesudoHdr m a len src dst
  let m := put16 m (a + 16) 0
  let m := put16 m (a + 16) (inCksum buff 0 (len + 12))
  (TcpHdr.csum m a != csum, m)

/-- The checksum of pseudo-header and segment with the field taken as zero. -/
def rightCsum (m : Mem) (a len : Nat) (src dst : UInt32) : UInt16 :=
  inCksum (pesudoHdr (put16 m (a + 16) 0) a len src dst) 0 (len + 12)

/-- What the words of pseudo-header and segment add up to, but for the field. -/
def sumBeside (m : Mem) (a len : Nat) (src dst : UInt32) : Nat :=
  wordSum (pesudoHdr (put16 m (a + 16) 0) a len src dst) 0 (len + 12)

/-- The stored checksum is 0 or 65535, or it is neither the right one nor the
one that `tcp_unpack` takes for it. -/
def CsumTestRight (m : Mem) (a len : Nat) (src dst : UInt32) : Prop :=
  TcpHdr.csum m a = 0 ∨ TcpHdr.csum m a = 0xffff ∨
    ¬ 65535 ∣ sumBeside m a len src dst + (TcpHdr.csum m a).toNat ∧
      ¬ 65535 ∣ sumBeside m a len src dst + 2 * (TcpHdr.csum m a).toNat

section Sum

variable {m : Mem} {a len : Nat} {src dst : UInt32}

theorem pesudoHdr_segment {i : Nat} (h : i < len) :
    pesudoHdr m a len src dst (12 + i) = m (a + i) := by
  simp (disch := omega) only [pesudoHdr, pesudoHdrOver, put16_beside, put8_beside, put32_beside]
  rw [copy_inside (by omega), Nat.add_sub_cancel_left]

theorem pesudoHdr_protocal : pesudoHdr m a len src dst 9 = IP_PROTOTCP := by
  simp (disch := omega) only [pesudoHdr, pesudoHdrOver, put16_beside, put8_same]

/-- The pseudo-header itself does not depend on the segment. -/
theorem pesudoHdr_header {m' : Mem} {x : Nat} (hx : x < 12) :
    pesudoHdr m a len src dst x = pesudoHdr m' a len src dst x := by
  have hcopy : copy (fun _ => 0) 12 m a len x = copy (fun _ => 0) 12 m' a len x := by
    rw [copy, copy, if_neg (by omega), if_neg (by omega)]
  unfold pesudoHdr pesudoHdrOver put16 put8 put32 store
  simp only [hcopy]

/-- Writing the field and prepending the pseudo-header can be exchanged. -/
theorem pesudoHdr_put16 (v : UInt16) {x : Nat} (hx : x < len + 12) :
    pesudoHdr (put16 m (a + 16) v) a len src dst x =
      put16 (pesudoHdr m a len src dst) 28 v x := by
  by_cases hheader : x < 12
  · rw [put16_beside (by omega)]
    exact pesudoHdr_header hheader
  · obtain ⟨i, rfl⟩ := Nat.exists_eq_add_of_le (Nat.le_of_not_lt hheader)
    rw [pesudoHdr_segment (by omega)]
    by_cases hfield : 16 ≤ i ∧ i < 18
    · obtain ⟨k, rfl⟩ := Nat.exists_eq_add_of_le hfield.1
      rw [← Nat.add_assoc, put16_inside (by omega), ← Nat.add_assoc, put16_inside (by omega)]
    · rw [put16_beside (by omega), put16_beside (by omega), pesudoHdr_segment (by omega)]

theorem sumBeside_add (hlen : 20 ≤ len) :
    sumBeside m a len src dst + (TcpHdr.csum m a).toNat =
      wordSum (pesudoHdr m a len src dst) 0 (len + 12) := by
  have hsum := wordSum_put16 (pesudoHdr m a len src dst) 0 (len + 12) 28 0 (by decide) (by omega)
  have hcleared : sumBeside m a len src dst =
      wordSum (put16 (pesudoHdr m a len src dst) (0 + 28) 0) 0 (len + 12) := by
    apply wordSum_congr
    intro i hi
    rw [Nat.zero_add]
    exact pesudoHdr_put16 0 hi
  have hfield : get16 (pesudoHdr m a len src dst) (0 + 28) = TcpHdr.csum m a := by
    apply get16_congr
    intro i hi
    rw [show 0 + 28 + i = 12 + (16 + i) by omega, pesudoHdr_segment (by omega), Nat.add_assoc]
  rw [hfield, ← hcleared, UInt16.toNat_zero] at hsum
  exact hsum

theorem sumBeside_pos (hlen : 20 ≤ len) : 0 < sumBeside m a len src dst := by
  have hword : (get16 (pesudoHdr (put16 m (a + 16) 0) a len src dst) (0 + 8)).toNat ≤ _ :=
    get16_le_wordSum (by decide) (show 8 + 2 ≤ len + 12 by omega)
  have hbyte : IP_PROTOTCP.toNat = 6 := rfl
  rw [toNat_get16, pesudoHdr_protocal, hbyte] at hword
  rw [sumBeside]
  omega

theorem sumBeside_le (hmax : len ≤ 4084) : sumBeside m a len src dst ≤ 65535 * 2048 := by
  have hle := wordSum_le (pesudoHdr (put16 m (a + 16) 0) a len src dst) 0 (len + 12)
  rw [sumBeside]
  omega

/-! ## What is accepted -/

theorem csum_eq_rightCsum_iff (hlen : 20 ≤ len) (hmax : len ≤ 4084) :
    TcpHdr.csum m a = rightCsum m a len src dst ↔
      TcpHdr.csum m a ≠ 0xffff ∧
        65535 ∣ sumBeside m a len src dst + (TcpHdr.csum m a).toNat := by
  have hpos : 0 < sumBeside m a len src dst := sumBeside_pos hlen
  have hle : sumBeside m a len src dst ≤ _ := sumBeside_le hmax
  have hcsum := (TcpHdr.csum m a).toNat_lt
  have hright : (rightCsum m a len src dst).toNat =
      65535 - foldTwice (sumBeside m a len src dst) := inCksum_toNat _ _ _
  rw [← UInt16.toNat_inj, hright, eq_comm, Ne, ← UInt16.toNat_inj]
  exact complement_eq_iff hpos (by omega) (by omega)

/-- `tcp_unpack` counts the stored checksum twice. -/
theorem tcpUnpack_accepts_iff (hlen : 20 ≤ len) (hmax : len ≤ 4084) :
    (tcpUnpack m a len src dst).1 = false ↔
      TcpHdr.csum m a ≠ 0xffff ∧
        65535 ∣ sumBeside m a len src dst + 2 * (TcpHdr.csum m a).toNat := by
  have hpos : 0 < sumBeside m a len src dst := sumBeside_pos hlen
  have hle : sumBeside m a len src dst ≤ _ := sumBeside_le hmax
  have hcsum := (TcpHdr.csum m a).toNat_lt
  have hsum : sumBeside m a len src dst + (TcpHdr.csum m a).toNat = _ := sumBeside_add hlen
  have hstored (m' : Mem) (v : UInt16) : TcpHdr.csum (put16 m' (a + 16) v) a = v :=
    get16_put16_same m' (a + 16) v
  rw [tcpUnpack, hstored, bne_eq_false_iff_eq, ← UInt16.toNat_inj, inCksum_toNat, ← hsum, Ne,
    ← UInt16.toNat_inj, Nat.two_mul, ← Nat.add_assoc]
  exact complement_eq_iff (by omega) (by omega) (by omega)

theorem csum_tcpPack {hlen : Nat} {sport dport : UInt16} {snum acknum flag : UInt32}
    {size point : UInt16} (m : Mem) :
    TcpHdr.csum (tcpPack m a len hlen sport dport snum acknum flag size point src dst) a =
      rightCsum (tcpPack m a len hlen sport dport snum acknum flag size point src dst) a len src
        dst := by
  have htwice (m' : Mem) (v : UInt16) :
      put16 (put16 (put16 m' (a + 16) 0) (a + 16) v) (a + 16) 0 = put16 m' (a + 16) 0 := by
    funext x
    by_cases hfield : a + 16 ≤ x ∧ x < a + 18
    · obtain ⟨k, rfl⟩ := Nat.exists_eq_add_of_le hfield.1
      rw [put16_inside (by omega), put16_inside (by omega)]
    · simp (disch := omega) only [put16_beside]
  rw [rightCsum, tcpPack_eq, tcpFields, htwice, TcpHdr.csum, get16_put16_same]

theorem tcpUnpack_of_right (hlen : 20 ≤ len) (hmax : len ≤ 4084)
    (hright : TcpHdr.csum m a = rightCsum m a len src dst) :
    (tcpUnpack m a len src dst).1 = true ↔ TcpHdr.csum m a ≠ 0 := by
  obtain ⟨hones, hdvd⟩ := (csum_eq_rightCsum_iff hlen hmax).mp hright
  have hcsum := (TcpHdr.csum m a).toNat_lt
  rw [← Bool.not_eq_false, not_iff_not, tcpUnpack_accepts_iff hlen hmax, and_iff_right hones,
    ← UInt16.toNat_inj, UInt16.toNat_zero]
  rw [Ne, ← UInt16.toNat_inj] at hones
  have hvalue : (0xffff : UInt16).toNat = 65535 := rfl
  omega

/-- Of the segments `tcp_pack` makes, only those with checksum 0 are accepted. -/
theorem tcpUnpack_tcpPack {hlen : Nat} {sport dport : UInt16} {snum acknum flag : UInt32}
    {size point : UInt16} (m : Mem) (hmin : 20 ≤ len) (hmax : len ≤ 4084) :
    (tcpUnpack (tcpPack m a len hlen sport dport snum acknum flag size point src dst) a len src
        dst).1 = true ↔
      TcpHdr.csum (tcpPack m a len hlen sport dport snum acknum flag size point src dst) a ≠ 0 :=
  tcpUnpack_of_right hmin hmax (csum_tcpPack m)

/-- `tcp_unpack` reports an error for exactly the wrong checksums, on the segments
that meet `CsumTestRight`. -/
theorem csum_test_iff (hlen : 20 ≤ len) (hmax : len ≤ 4084) :
    ((tcpUnpack m a len src dst).1 = true ↔ TcpHdr.csum m a ≠ rightCsum m a len src dst) ↔
      CsumTestRight m a len src dst := by
  have hcsum := (TcpHdr.csum m a).toNat_lt
  have hvalue : (0xffff : UInt16).toNat = 65535 := rfl
  rw [← Bool.not_eq_false, not_iff_not, tcpUnpack_accepts_iff hlen hmax,
    csum_eq_rightCsum_iff hlen hmax, CsumTestRight, Ne, ← UInt16.toNat_inj, ← UInt16.toNat_inj,
    UInt16.toNat_zero, hvalue]
  omega

end Sum

/-- A SYN as `tcp_pack` makes it, for 192.168.1.1 and 192.168.1.2. -/
def packedSyn : Mem :=
  tcpPack (fun _ => 0) 0 20 20 49101 30000 1000 0 TCP_SYN 5840 0 0x0101a8c0 0x0201a8c0

/-- The SYN with another checksum. -/
def damagedSyn : Mem := put16 packedSyn 16 0x1234

theorem damaged_syn_tested :
    TcpHdr.csum damagedSyn 0 = 0x1234 ∧
      ((tcpUnpack damagedSyn 0 20 0x0101a8c0 0x0201a8c0).1 = true ↔
        TcpHdr.csum damagedSyn 0 ≠ rightCsum damagedSyn 0 20 0x0101a8c0 0x0201a8c0) :=
  ⟨by decide, (csum_test_iff (by decide) (by decide)).mpr (.inr (.inr ⟨by decide, by decide⟩))⟩

theorem packed_syn_refused :
    ¬ ∀ (m : Mem) (a len : Nat) (src dst : UInt32), 20 ≤ len → len ≤ 4084 →
      ((tcpUnpack m a len src dst).1 = true ↔
        TcpHdr.csum m a ≠ rightCsum m a len src dst) := by
  intro h
  have hstored : TcpHdr.csum packedSyn 0 ≠ 0 := by decide
  have herror : (tcpUnpack packedSyn 0 20 0x0101a8c0 0x0201a8c0).1 = true :=
    (tcpUnpack_tcpPack (fun _ => 0) (by decide) (by decide)).mpr hstored
  have hwrong := (h packedSyn 0 20 0x0101a8c0 0x0201a8c0 (by decide) (by decide)).mp herror
  exact hwrong (csum_tcpPack fun _ => 0)

end VpnRouter
