import VpnRouter.TcpPacket

/-!
# The local buffers of `tcp.c`

Every sender builds its packet in a local array that it does not clear.  All bytes
of the packet are written before it is handed over, so what a call finds in its
array has no effect at all (`trace_cleared`).
-/

namespace VpnRouter

open Lib Lib.Memory

/-! ## One packet -/

/-- `ip_pack` writes the whole of its header. -/
theorem eqOn_ipFields {m m' : Mem} {a b : Nat} {totalLen id flag protocal : Int}
    {src dst : UInt32} (h : Set.EqOn m m' (Set.Ico (a + 20) b)) :
    Set.EqOn (ipFields m a 20 totalLen id flag protocal src dst)
      (ipFields m' a 20 totalLen id flag protocal src dst) (Set.Ico a b) := by
  intro x hx
  obtain ⟨hlow, hhigh⟩ := hx
  by_cases hfirst : x = a
  · -- the first byte is written half by half
    have hnibbles (n : UInt8) :
        UInt8.ofNat ((UInt8.ofNat (n.toNat / 16 * 16 + 20 / 4 % 16)).toNat % 16 + 4 % 16 * 16) =
          69 := by
      have hn := n.toNat_lt
      apply UInt8.toNat.inj
      rw [UInt8.toNat_ofNat', UInt8.toNat_ofNat']
      change _ = 69
      omega
    subst hfirst
    simp (disch := omega) only [ipFields, put16_beside, put32_beside, put8_beside, putHigh4,
      putLow4, put8_same, hnibbles]
  · simp only [ipFields, put16, put32, put8]
    iterate 9 refine store_congr fun _ => ?_
    simp only [length_bytes16, length_bytes32, List.length_singleton] at *
    simp (disch := omega) only [putHigh4, putLow4, put8_beside]
    exact h ⟨by omega, hhigh⟩

theorem eqOn_ipPack {m m' : Mem} {a b : Nat} {totalLen id flag time protocal : Int}
    {src dst : UInt32} (hb : a + 20 ≤ b) (h : Set.EqOn m m' (Set.Ico (a + 20) b)) :
    Set.EqOn (ipPack m a 20 totalLen id flag time protocal src dst)
      (ipPack m' a 20 totalLen id flag time protocal src dst) (Set.Ico a b) := by
  have hfields : Set.EqOn (ipFields m a 20 totalLen id flag protocal src dst)
      (ipFields m' a 20 totalLen id flag protocal src dst) (Set.Ico a b) := eqOn_ipFields h
  have hsum : inCksum (ipFields m a 20 totalLen id flag protocal src dst) a 20 =
      inCksum (ipFields m' a 20 totalLen id flag protocal src dst) a 20 := by
    apply inCksum_congr
    intro i hi
    exact hfields ⟨by omega, by omega⟩
  rw [ipPack, ipPack, hsum]
  exact eqOn_store hfields

section TcpPack

variable {m m' : Mem} {a len hlen : Nat} {sport dport : UInt16} {snum acknum flag : UInt32}
  {size point : UInt16} {src dst : UInt32}

theorem eqOn_tcpFlags {s : Set Nat} (hlow : a + 12 ∈ s) (hhigh : a + 13 ∈ s)
    (h : Set.EqOn m m' s) : Set.EqOn (tcpFlags m a flag) (tcpFlags m' a flag) s := by
  have hset {m m' : Mem} (mask : UInt32) {x k : Nat} (hx : x ∈ s) (h : Set.EqOn m m' s) :
      Set.EqOn (setFlag flag mask m x k) (setFlag flag mask m' x k) s := by
    unfold setFlag
    split
    · exact eqOn_setBit hx h
    · exact h
  unfold tcpFlags
  apply hset _ hlow
  iterate 8 apply hset _ hhigh
  exact h

/-- `tcp_pack` clears `hlen` bytes before it writes the first field. -/
theorem eqOn_tcpFields (hlow : 14 ≤ len)
    (h : Set.EqOn m m' (Set.Ico (a + hlen) (a + len))) :
    Set.EqOn (tcpFields m a hlen sport dport snum acknum flag size point)
      (tcpFields m' a hlen sport dport snum acknum flag size point) (Set.Ico a (a + len)) := by
  have hcleared : Set.EqOn (fill m a 0 hlen) (fill m' a 0 hlen) (Set.Ico a (a + len)) := by
    intro x hx
    rw [fill_eq_store, fill_eq_store]
    apply store_congr
    intro hbeside
    rw [List.length_replicate] at hbeside
    obtain ⟨hge, hlt⟩ := hx
    exact h ⟨by omega, hlt⟩
  have hhead : a + 12 ∈ Set.Ico a (a + len) := ⟨by omega, by omega⟩
  have hflags : a + 13 ∈ Set.Ico a (a + len) := ⟨by omega, by omega⟩
  unfold tcpFields put16 put32
  refine eqOn_store (eqOn_store (eqOn_store (eqOn_tcpFlags hhead hflags ?_)))
  exact eqOn_putHigh4 hhead (eqOn_store (eqOn_store (eqOn_store (eqOn_store hcleared))))

theorem eqOn_tcpPack (hlow : 14 ≤ len) (h : Set.EqOn m m' (Set.Ico (a + hlen) (a + len))) :
    Set.EqOn (tcpPack m a len hlen sport dport snum acknum flag size point src dst)
      (tcpPack m' a len hlen sport dport snum acknum flag size point src dst)
      (Set.Ico a (a + len)) := by
  have hfields : Set.EqOn (tcpFields m a hlen sport dport snum acknum flag size point)
      (tcpFields m' a hlen sport dport snum acknum flag size point) (Set.Ico a (a + len)) :=
    eqOn_tcpFields hlow h
  rw [tcpPack_eq, tcpPack_eq]
  have hsum : inCksum (pesudoHdr (tcpFields m a hlen sport dport snum acknum flag size point) a len
      src dst) 0 (len + 12) = inCksum (pesudoHdr (tcpFields m' a hlen sport dport snum acknum flag
        size point) a len src dst) 0 (len + 12) := by
    apply inCksum_congr
    intro i hi
    apply pesudoHdr_congr _ (by omega)
    intro k hk
    exact hfields ⟨by omega, by omega⟩
  rw [hsum]
  exact eqOn_store hfields

end TcpPack

/-! ## The calls -/

theorem eqOn_packSegment (buff buff' : Mem) (srcPort dstPort : UInt16)
    (options payload : List UInt8) (link : TcpLink) {len : Nat} (flag : UInt32)
    (hlen : len = 32 + payload.length) :
    Set.EqOn (packSegment buff srcPort dstPort options payload link len flag)
      (packSegment buff' srcPort dstPort options payload link len flag)
      (Set.Ico 14 (34 + len)) := by
  unfold packSegment
  apply eqOn_ipPack (by omega)
  apply eqOn_tcpPack (by omega)
  -- behind the header only the payload is kept
  apply eqOn_store
  intro x hx
  obtain ⟨hlow, hhigh⟩ := hx
  rw [store_inside (by omega), store_inside (by omega)]

/-- A packet whose payload is as long as it says does not depend on the array. -/
theorem sendPacket_packSegment (buff buff' : Mem) {srcPort dstPort : UInt16}
    {options payload : List UInt8} {link link' : TcpLink} {len n : Nat} {flag : UInt32}
    (hlen : len = 32 + payload.length) (hn : n = 20 + len) :
    sendPacket (packSegment buff srcPort dstPort options payload link len flag) n link' =
      sendPacket (packSegment buff' srcPort dstPort options payload link len flag) n link' := by
  have hpacket := eqOn_packSegment buff buff' srcPort dstPort options payload link flag hlen
  have hend : 34 + len = 14 + n := by omega
  rw [hend] at hpacket
  rw [sendPacket, sendPacket, load_eqOn hpacket]

section Calls

variable (link : TcpLink) (buf stack stack' : Mem)

theorem sendSyn_array : sendSyn link stack = sendSyn link stack' := by
  have hpacket {m m' : Mem} : Set.EqOn
      (ipPack (tcpPack m 34 40 40 (toU16 link.sport) (toU16 link.dport) link.mynum 0 TCP_SYN
        (toU16 link.wSize) 0 link.sip link.dip) 14 20 (20 + 40) 0 0 64 6 link.sip link.dip)
      (ipPack (tcpPack m' 34 40 40 (toU16 link.sport) (toU16 link.dport) link.mynum 0 TCP_SYN
        (toU16 link.wSize) 0 link.sip link.dip) 14 20 (20 + 40) 0 0 64 6 link.sip link.dip)
      (Set.Ico 14 (14 + (20 + 40))) := by
    apply eqOn_ipPack (by omega)
    apply eqOn_tcpPack (by omega)
    intro x hx
    exact absurd hx.2 (Nat.not_lt.mpr hx.1)
  simp only [sendSyn, Prod.mk.injEq, List.cons.injEq, true_and, and_true]
  exact congrArg (TcpEvent.ipSedProcess · _ _ _) (load_eqOn hpacket)

theorem tcptestSynAck_array (t : Nat) :
    tcptestSynAck link buf t stack = tcptestSynAck link buf t stack' := by
  simp only [tcptestSynAck, Prod.mk.injEq, List.cons.injEq, true_and, and_true]
  exact ⟨sendPacket_packSegment _ _ rfl rfl, sendPacket_packSegment _ _ rfl rfl,
    sendPacket_packSegment _ _ rfl rfl⟩

theorem tcptestFin_array (t : Nat) :
    tcptestFin link buf t stack = tcptestFin link buf t stack' := by
  simp only [tcptestFin, Prod.mk.injEq, List.cons.injEq, true_and, and_true]
  exact sendPacket_packSegment _ _ rfl rfl

theorem tcptest_array (len : Int) : tcptest link buf len stack = tcptest link buf len stack' := by
  unfold tcptest
  simp only [tcptestSynAck_array link buf stack stack', tcptestFin_array link buf stack stack']

end Calls

/-! ## Runs -/

/-- The call with a cleared array. -/
def TcpCall.cleared : TcpCall → TcpCall
  | .firstStep _ => .firstStep fun _ => 0
  | .myconnect sock _ => .myconnect sock fun _ => 0
  | .mysendtcp buf num _ => .mysendtcp buf num fun _ => 0
  | .closesocket socket _ => .closesocket socket fun _ => 0
  | .tcptest buf len _ => .tcptest buf len fun _ => 0

theorem tcpExec_cleared (link : TcpLink) (c : TcpCall) :
    tcpExec link c.cleared = tcpExec link c := by
  cases c with
  | firstStep stack => exact sendSyn_array link _ stack
  | myconnect sock stack => exact sendSyn_array link _ stack
  | mysendtcp buf num stack =>
      simp only [TcpCall.cleared, tcpExec, mysendtcp, Prod.mk.injEq, List.cons.injEq, true_and,
        and_true]
      exact sendPacket_packSegment _ _ rfl rfl
  | closesocket socket stack =>
      simp only [TcpCall.cleared, tcpExec, closesocket, Prod.mk.injEq, List.cons.injEq, true_and,
        and_true]
      exact sendPacket_packSegment _ _ rfl rfl
  | tcptest buf len stack => exact congrArg Prod.snd (tcptest_array link buf _ stack len)

/-- Over every run the events are those of the run with cleared arrays. -/
theorem trace_cleared (link : TcpLink) (calls : List TcpCall) :
    Monitor.trace tcpExec link (calls.map TcpCall.cleared) = Monitor.trace tcpExec link calls := by
  induction calls generalizing link with
  | nil => rfl
  | cons c calls ih => rw [List.map_cons, Monitor.trace, Monitor.trace, tcpExec_cleared, ih]

end VpnRouter
