import VpnRouter.Tcp

/-!
# TCP options

Every sender of `tcp.c` writes its options into the buffer before it calls
`tcp_pack`, which clears `hlen` bytes first.  The payload behind them survives,
the options never do.
-/

namespace VpnRouter

open Lib.Memory

/-- The first options of `tcp_first_step` and `myconnect`. -/
def synOptions : List UInt8 :=
  [0x02, 0x04, 0x05, 0xb4, 0x04, 0x02, 0x08, 0x0a, 0x00, 0x73, 0x3e, 0x9d]

def callerOptions : List (List UInt8) := [synOptions, ackOptions, dataOptions, finOptions]

/-- The packet has `options` behind its IP header and the fixed part of its TCP
header. -/
def CarriesOptions (packet options : List UInt8) : Prop :=
  load (packetMem packet) 40 options.length = options

/-- The packet of a call of `ip_sed_process` has a cleared first option. -/
def OptionCleared : TcpEvent → Prop
  | .ipSedProcess packet _ _ _ => packetMem packet 40 = 0
  | _ => True

section Senders

variable {link : TcpLink} {buf stack : Mem}

theorem optionCleared_pack {m : Mem} {len hlen : Nat} {sport dport : UInt16}
    {snum acknum flag : UInt32} {size point : UInt16} {src dst : UInt32}
    {totalLen id frag protocal : Int} (time : Int) (hhlen : 20 < hlen) (hfits : hlen ≤ len)
    (link : TcpLink) :
    OptionCleared (sendPacket
      (ipPack (tcpPack m 34 len hlen sport dport snum acknum flag size point src dst)
        14 20 totalLen id frag time protocal src dst) (20 + len) link) := by
  let seg := tcpPack m 34 len hlen sport dport snum acknum flag size point src dst
  have hbyte : packetMem
      (load (ipPack seg 14 20 totalLen id frag time protocal src dst) 14 (20 + len)) (20 + 20) =
        seg (34 + 20) :=
    packetMem_pack (by omega)
  exact hbyte.trans (tcpPack_options (by omega) hhlen)

theorem optionCleared_packSegment {srcPort dstPort : UInt16} {options payload : List UInt8}
    {len : Nat} {flag : UInt32} (buff : Mem) (hlen : 32 ≤ len) (link' : TcpLink) :
    OptionCleared (sendPacket
      (packSegment buff srcPort dstPort options payload link len flag) (20 + len) link') :=
  optionCleared_pack 64 (by omega) hlen link'

theorem optionCleared_sendSyn : ∀ e ∈ (sendSyn link stack).2, OptionCleared e := by
  intro e he
  rw [List.mem_singleton.mp he]
  exact optionCleared_pack 64 (by omega) (le_refl 40) _

theorem optionCleared_tcptestSynAck (t : Nat) :
    ∀ e ∈ (tcptestSynAck link buf t stack).2, OptionCleared e := by
  unfold tcptestSynAck
  simp only [List.forall_mem_cons]
  exact ⟨trivial, optionCleared_packSegment _ (by omega) _,
    optionCleared_packSegment _ (by omega) _, optionCleared_packSegment _ (by omega) _,
    List.forall_mem_nil _⟩

theorem optionCleared_tcptestFin (t : Nat) :
    ∀ e ∈ (tcptestFin link buf t stack).2, OptionCleared e := by
  unfold tcptestFin
  simp only [List.forall_mem_cons]
  exact ⟨trivial, optionCleared_packSegment _ (by omega) _,
    List.forall_mem_nil _⟩

theorem optionCleared_tcptest (len : Int) :
    ∀ e ∈ (tcptest link buf len stack).2.2, OptionCleared e := by
  by_cases hsyn : link.status = .synSend ∧ AnswersSyn link.mynum buf
  · rw [tcptest_synAck hsyn.1 hsyn.2]
    exact optionCleared_tcptestSynAck _
  · by_cases hfin : link.status = .establish ∧ AnswersFin link.mynum buf
    · rw [tcptest_establish hfin.2.1 hfin.1 len]
      simp only [if_pos hfin.2, List.forall_mem_append, List.forall_mem_singleton]
      exact ⟨optionCleared_tcptestFin _, trivial⟩
    · obtain ⟨log, hlog, hdelivered⟩ := tcptest_refused hsyn hfin len stack
      rw [hlog]
      intro e he
      obtain ⟨addr, n, rfl⟩ := hdelivered e he
      trivial

/-- No sender of `tcp.c` gets an option past `tcp_pack`. -/
theorem optionCleared_tcpExec (call : TcpCall) :
    ∀ e ∈ (tcpExec link call).2, OptionCleared e := by
  cases call with
  | firstStep stack => exact optionCleared_sendSyn
  | myconnect sock stack => exact optionCleared_sendSyn
  | mysendtcp buf num stack =>
      intro e he
      rw [List.mem_singleton.mp he]
      exact optionCleared_packSegment _ (by omega) _
  | closesocket socket stack =>
      intro e he
      rw [List.mem_singleton.mp he]
      exact optionCleared_packSegment _ (by omega) _
  | tcptest buf len stack => exact optionCleared_tcptest len

end Senders

theorem not_carriesOptions {packet options : List UInt8} (hcleared : packetMem packet 40 = 0)
    (hoptions : options ∈ callerOptions) : ¬ CarriesOptions packet options := by
  have hhead : 0 < options.length ∧ options.getD 0 0 ≠ 0 := by
    revert options
    decide
  intro h
  have hbyte := load_eq_iff.mp h 0 hhead.1
  exact hhead.2 (hbyte.symm.trans hcleared)

section Preserved

variable {m : Mem} {a len hlen : Nat} {sport dport : UInt16} {snum acknum flag : UInt32}
  {size point : UInt16} {src dst : UInt32}

theorem tcpPack_payload {i : Nat} (hmin : 20 ≤ hlen) (hi : hlen ≤ i) :
    tcpPack m a len hlen sport dport snum acknum flag size point src dst (a + i) = m (a + i) :=
  tcpPack_outside (by omega) (by omega)

/-- `tcp_pack` preserves options and payload exactly when the options are zeros;
the senders' options are not, and never reach the wire. -/
theorem options_preserved_iff (hmin : 20 ≤ hlen) (hfits : hlen ≤ len) :
    ((∀ i, 20 ≤ i → i < len →
        tcpPack m a len hlen sport dport snum acknum flag size point src dst (a + i) =
          m (a + i)) ↔
      ∀ i, 20 ≤ i → i < hlen → m (a + i) = 0) ∧
    ∀ (link : TcpLink) (call : TcpCall) (packet : List UInt8) (sip dip : UInt32)
      (status : TcpStatus), .ipSedProcess packet sip dip status ∈ (tcpExec link call).2 →
        ∀ options ∈ callerOptions, ¬ CarriesOptions packet options := by
  constructor
  · constructor
    · intro h i hi hlt
      rw [← h i hi (by omega)]
      exact tcpPack_options hi hlt
    · intro h i hi hlt
      by_cases hoption : i < hlen
      · rw [h i hi hoption]
        exact tcpPack_options hi hoption
      · exact tcpPack_payload hmin (by omega)
  · intro link call packet sip dip status he options hoptions
    exact not_carriesOptions (optionCleared_tcpExec call _ he) hoptions

end Preserved

theorem cleared_options_preserved :
    ((∀ i, 20 ≤ i → i < 44 →
        tcpPack (fun _ => 0) 34 44 32 49101 30000 1000 2000 TCP_ACK 512 0 0x0101a8c0 0x0201a8c0
          (34 + i) = 0) ↔
      ∀ i, 20 ≤ i → i < 32 → (0 : UInt8) = 0) ∧
    ∀ (link : TcpLink) (call : TcpCall) (packet : List UInt8) (sip dip : UInt32)
      (status : TcpStatus), .ipSedProcess packet sip dip status ∈ (tcpExec link call).2 →
        ∀ options ∈ callerOptions, ¬ CarriesOptions packet options :=
  options_preserved_iff (m := fun _ => 0) (by decide) (by decide)

/-- The options of the SYN do not survive. -/
theorem syn_options_lost :
    ¬ ∀ (m : Mem) (a len hlen : Nat) (sport dport : UInt16) (snum acknum flag : UInt32)
      (size point : UInt16) (src dst : UInt32), 20 ≤ hlen → hlen ≤ 60 → hlen % 4 = 0 →
      hlen ≤ len → ∀ i, 20 ≤ i → i < len →
        tcpPack m a len hlen sport dport snum acknum flag size point src dst (a + i) =
          m (a + i) := by
  intro h
  have hkept := h (store (fun _ => 0) 54 synOptions) 34 40 40 49101 30000 1000 0 TCP_SYN 5840 0
    0x0101a8c0 0x0201a8c0 (by decide) (by decide) (by decide) (by decide) 20 (by decide)
    (by decide)
  rw [tcpPack_options (by decide) (by decide)] at hkept
  revert hkept
  decide

end VpnRouter
