import VpnRouter.IpHeader
import VpnRouter.TcpAck
import VpnRouter.TcpUnpack

/-!
# The packets of a connection

Every packet `tcp.c` hands to `ip_sed_process` is built by `tcp_pack` and then by
`ip_pack`, with the addresses and the ports of the connection record.  No call
changes these, so over any run all packets are well-formed packets of the one
connection (`packets_wellformed`).
-/

namespace VpnRouter

open Lib Lib.Memory

def TcpLink.endpoints (link : TcpLink) : UInt32 × UInt32 × Int × Int :=
  (link.sip, link.dip, link.sport, link.dport)

/-- A packet as its receiver reads it: an IP header for its whole length, both
checksums right, and the ports of the connection. -/
structure Wellformed (p : List UInt8) (src dst : UInt32) (sport dport : Int) : Prop where
  ip : readIp (packetMem p) 0 =
    { version := 4, headLen := 20, totalLen := p.length, id := 0, time := 64, protocal := 6,
      src := src, dst := dst }
  ipCsum : inCksum (packetMem p) 0 20 = 0
  csum : TcpHdr.csum (packetMem p) 20 = rightCsum (packetMem p) 20 (p.length - 20) src dst
  srcPort : TcpHdr.srcPort (packetMem p) 20 = htons (toU16 sport)
  dstPort : TcpHdr.dstPort (packetMem p) 20 = htons (toU16 dport)
  length : 40 ≤ p.length

/-- A packet handed over is one of the connection. -/
def OfConnection (link : TcpLink) : TcpEvent → Prop
  | .ipSedProcess p src dst _ =>
      src = link.sip ∧ dst = link.dip ∧ Wellformed p src dst link.sport link.dport
  | _ => True

theorem OfConnection.congr {link link' : TcpLink} {e : TcpEvent} (h : OfConnection link e)
    (hends : link'.endpoints = link.endpoints) : OfConnection link' e := by
  simp only [TcpLink.endpoints, Prod.mk.injEq] at hends
  cases e with
  | ipSedProcess p src dst status =>
      simp only [OfConnection, hends]
      exact h
  | _ => trivial

/-! ## One packet -/

theorem readIp_congr {m m' : Mem} {a a' : Nat} (h : ∀ i, i < 20 → m (a + i) = m' (a' + i)) :
    readIp m a = readIp m' a' := by
  have h0 : m a = m' a' := h 0 (by omega)
  have h16 (k : Nat) (hk : k + 2 ≤ 20) : be16 m (a + k) = be16 m' (a' + k) := by
    rw [be16, be16, h k (by omega), Nat.add_assoc, Nat.add_assoc, h (k + 1) (by omega)]
  have h32 (k : Nat) (hk : k + 4 ≤ 20) : get32 m (a + k) = get32 m' (a' + k) := by
    apply get32_congr
    intro i hi
    rw [Nat.add_assoc, Nat.add_assoc, h (k + i) (by omega)]
  simp only [readIp, h0, h 8 (by omega), h 9 (by omega), h16 2 (by omega), h16 4 (by omega),
    h32 12 (by omega), h32 16 (by omega)]

/-- The summed block depends on the segment alone, wherever it lies. -/
theorem pesudoHdr_congr {m m' : Mem} {a a' len : Nat} {src dst : UInt32}
    (h : ∀ i, i < len → m (a + i) = m' (a' + i)) {x : Nat} (hx : x < len + 12) :
    pesudoHdr m a len src dst x = pesudoHdr m' a' len src dst x := by
  by_cases hheader : x < 12
  · have hcopy : copy (fun _ => 0) 12 m a len x = copy (fun _ => 0) 12 m' a' len x := by
      rw [copy, copy, if_neg (by omega), if_neg (by omega)]
    unfold pesudoHdr pesudoHdrOver put16 put8 put32 store
    simp only [hcopy]
  · obtain ⟨i, rfl⟩ := Nat.exists_eq_add_of_le (Nat.le_of_not_lt hheader)
    rw [pesudoHdr_segment (by omega), pesudoHdr_segment (by omega), h i (by omega)]

theorem rightCsum_congr {m m' : Mem} {a a' len : Nat} {src dst : UInt32}
    (h : ∀ i, i < len → m (a + i) = m' (a' + i)) :
    rightCsum m a len src dst = rightCsum m' a' len src dst := by
  apply inCksum_congr
  intro x hx
  rw [Nat.zero_add]
  apply pesudoHdr_congr _ hx
  intro i hi
  by_cases hfield : 16 ≤ i ∧ i < 18
  · obtain ⟨k, rfl⟩ := Nat.exists_eq_add_of_le hfield.1
    rw [← Nat.add_assoc, put16_inside (by omega), ← Nat.add_assoc, put16_inside (by omega)]
  · rw [put16_beside (by omega), put16_beside (by omega), h i hi]

section Pack

variable {m : Mem} {len hlen : Nat} {sport dport : Int} {snum acknum flag : UInt32}
  {size point : UInt16} {src dst : UInt32}

theorem wellformed_pack (hhlen : 20 ≤ hlen) (hfits : hlen ≤ len) (hmax : len < 65516) :
    Wellformed
      (load (ipPack (tcpPack m 34 len hlen (toU16 sport) (toU16 dport) snum acknum flag size point
        src dst) 14 20 (20 + (len : Int)) 0 0 64 6 src dst) 14 (20 + len)) src dst sport dport := by
  let seg := tcpPack m 34 len hlen (toU16 sport) (toU16 dport) snum acknum flag size point src dst
  let packed := ipPack seg 14 20 (20 + (len : Int)) 0 0 64 6 src dst
  let p := load packed 14 (20 + len)
  have hlength : p.length = 20 + len := length_load _ _ _
  have hheader (i : Nat) (hi : i < 20) : packetMem p (0 + i) = packed (14 + i) := by
    rw [packetMem, overlay_apply (by omega), getD_load (by omega), Nat.zero_add]
  have hsegment (k : Nat) (hk : k < len) : packetMem p (20 + k) = seg (34 + k) := packetMem_pack hk
  have hfield (b : Nat) (hb : b + 2 ≤ len) :
      get16 (packetMem p) (20 + b) = get16 seg (34 + b) := by
    apply get16_congr
    intro i hi
    rw [Nat.add_assoc, Nat.add_assoc, hsegment (b + i) (by omega)]
  have hread := readIp_ipPack seg 14 20 (20 + len) 0 0 64 6 src dst (by omega) (by omega)
    (by omega) (by omega) (by omega) (by omega)
  constructor
  · rw [readIp_congr hheader, hlength, ← hread]
    rfl
  · rw [← inCksum_ipPack seg 14 20 (20 + (len : Int)) 0 0 64 6 src dst (by omega) (by omega)]
    exact inCksum_congr hheader
  · rw [hlength, Nat.add_sub_cancel_left, rightCsum_congr hsegment, ← csum_tcpPack]
    exact hfield 16 (by omega)
  · rw [← tcpPack_srcPort]
    exact hfield 0 (by omega)
  · rw [← tcpPack_dstPort]
    exact hfield 2 (by omega)
  · change 40 ≤ p.length
    omega

end Pack

/-! ## One call -/

section Senders

variable {link : TcpLink} {buf stack : Mem}

theorem endpoints_rmtnum (link : TcpLink) (seq : UInt32) :
    ({ link with rmtnum := seq } : TcpLink).endpoints = link.endpoints := rfl

theorem ofConnection_packSegment {srcPort dstPort : UInt16} {options payload : List UInt8}
    {len : Nat} {flag : UInt32} (buff : Mem) (hlen : 32 ≤ len) (hmax : len < 65516)
    {link' : TcpLink} (hends : link'.endpoints = link.endpoints) :
    OfConnection link (sendPacket
      (packSegment buff srcPort dstPort options payload link len flag) (20 + len) link') := by
  simp only [TcpLink.endpoints, Prod.mk.injEq] at hends
  refine ⟨hends.1, hends.2.1, ?_⟩
  rw [hends.1, hends.2.1]
  exact wellformed_pack (by omega) hlen hmax

theorem ofConnection_sendSyn : ∀ e ∈ (sendSyn link stack).2, OfConnection link e := by
  intro e he
  rw [List.mem_singleton.mp he]
  exact ⟨rfl, rfl, wellformed_pack (by omega) (le_refl 40) (by omega)⟩

theorem ofConnection_tcptestSynAck (t : Nat) :
    ∀ e ∈ (tcptestSynAck link buf t stack).2, OfConnection link e := by
  unfold tcptestSynAck
  simp only [List.forall_mem_cons]
  exact ⟨trivial, (ofConnection_packSegment _ (by omega) (by omega) rfl).congr rfl,
    (ofConnection_packSegment _ (by omega) (by omega) rfl).congr rfl,
    (ofConnection_packSegment _ (by omega) (by omega) rfl).congr rfl, List.forall_mem_nil _⟩

theorem ofConnection_tcptestFin (t : Nat) :
    ∀ e ∈ (tcptestFin link buf t stack).2, OfConnection link e := by
  unfold tcptestFin
  simp only [List.forall_mem_cons]
  refine ⟨trivial, ?_, List.forall_mem_nil _⟩
  exact (ofConnection_packSegment _ (by omega) (by omega) rfl).congr (endpoints_rmtnum link _).symm

theorem ofConnection_tcptest (len : Int) :
    ∀ e ∈ (tcptest link buf len stack).2.2, OfConnection link e := by
  by_cases hsyn : link.status = .synSend ∧ AnswersSyn link.mynum buf
  · rw [tcptest_synAck hsyn.1 hsyn.2]
    exact ofConnection_tcptestSynAck _
  · by_cases hfin : link.status = .establish ∧ AnswersFin link.mynum buf
    · rw [tcptest_establish hfin.2.1 hfin.1 len]
      simp only [if_pos hfin.2, List.forall_mem_append, List.forall_mem_singleton]
      exact ⟨ofConnection_tcptestFin _, trivial⟩
    · obtain ⟨log, hlog, hdelivered⟩ := tcptest_refused hsyn hfin len stack
      rw [hlog]
      intro e he
      obtain ⟨addr, n, rfl⟩ := hdelivered e he
      trivial

theorem ofConnection_tcpExec (call : TcpCall) :
    ∀ e ∈ (tcpExec link call).2, OfConnection link e := by
  cases call with
  | firstStep stack => exact ofConnection_sendSyn
  | myconnect sock stack => exact ofConnection_sendSyn
  | mysendtcp buf num stack =>
      intro e he
      rw [List.mem_singleton.mp he]
      exact ofConnection_packSegment _ (by omega) (by omega) rfl
  | closesocket socket stack =>
      intro e he
      rw [List.mem_singleton.mp he]
      exact ofConnection_packSegment _ (by omega) (by omega) rfl
  | tcptest buf len stack => exact ofConnection_tcptest len

theorem endpoints_tcpExec (link : TcpLink) (call : TcpCall) :
    (tcpExec link call).1.endpoints = link.endpoints := by
  cases call with
  | tcptest buf len stack =>
      by_cases hsyn : link.status = .synSend ∧ AnswersSyn link.mynum buf
      · rw [tcpExec, tcptest_synAck hsyn.1 hsyn.2]
        rfl
      · by_cases hfin : link.status = .establish ∧ AnswersFin link.mynum buf
        · rw [tcpExec, tcptest_establish hfin.2.1 hfin.1 len]
          simp only [if_pos hfin.2]
          exact endpoints_rmtnum link _
        · obtain ⟨log, hlog, -⟩ := tcptest_refused hsyn hfin len stack
          rw [tcpExec, hlog]
  | _ => rfl

end Senders

/-! ## Runs -/

theorem endpoints_final (link : TcpLink) (calls : List TcpCall) :
    (Monitor.final tcpExec link calls).endpoints = link.endpoints := by
  induction calls generalizing link with
  | nil => rfl
  | cons c calls ih => rw [Monitor.final_cons, ih, endpoints_tcpExec]

/-- Whatever is called in whatever order, every packet of the run is a well-formed
packet of the connection it started with. -/
theorem packets_wellformed (link : TcpLink) (calls : List TcpCall) :
    ∀ e ∈ Monitor.trace tcpExec link calls, OfConnection link e := by
  intro e he
  have hend : OfConnection (Monitor.final tcpExec link calls) e := by
    apply Monitor.of_mem_trace _ _ he
    · intro link c e he
      exact (ofConnection_tcpExec c e he).congr (endpoints_tcpExec link c)
    · intro link c e h
      exact h.congr (endpoints_tcpExec link c)
  exact hend.congr (endpoints_final link calls).symm

theorem first_packet_wellformed :
    ∃ p src dst status,
      .ipSedProcess p src dst status ∈ Monitor.trace tcpExec tcpInitial [.firstStep fun _ => 0] ∧
      OfConnection tcpInitial (.ipSedProcess p src dst status) :=
  ⟨_, _, _, _, List.mem_cons_self,
    packets_wellformed tcpInitial [.firstStep fun _ => 0] _ List.mem_cons_self⟩

end VpnRouter
