import VpnRouter.TcpPack

/-!
# The TCP client

`tcp.c`: one connection record, the functions that open it, send on it and close
it, and `tcptest`, which gets every incoming frame.  Each function returns the
record it leaves and its events in order.
-/

namespace VpnRouter

open Lib.Memory

inductive TcpStatus
  | listen
  | synSend
  | synRecv
  | establish
  | finWait1
  | finWait2
  | closing
  | closeWait
  | lastAck
  | timeWait
  | closed
deriving DecidableEq, Repr

structure TcpLink where
  status : TcpStatus
  mynum : UInt32
  mynumd : UInt32
  rmtnum : UInt32
  rmtnumd : UInt32
  sport : Int
  dport : Int
  sip : UInt32
  dip : UInt32
  wSize : Int

inductive TcpEvent
  /-- The status became `TCP_ESTABLISH` on a SYN-ACK with these numbers. -/
  | accept (seq ack : UInt32)
  /-- A FIN was answered in `TCP_ESTABLISH`; the segment had `payload` bytes. -/
  | acceptFin (seq : UInt32) (payload : Int)
  /-- The call of `ip_sed_process` with the packet, and the status at the call. -/
  | ipSedProcess (packet : List UInt8) (src dst : UInt32) (status : TcpStatus)
  | getmessage (addr : Nat) (len : Int)
deriving DecidableEq, Repr

/-! ## The source functions -/

def tcpInitial : TcpLink where
  status := .closed
  mynum := htonl 0x80571cf0
  rmtnum := 0
  mynumd := 1024
  wSize := 5840
  rmtnumd := 1024
  sip := 0x0101a8c0
  dip := 0x0201a8c0
  sport := 49101
  dport := 30000

def helloWorld : List UInt8 := [104, 101, 108, 108, 111, 32, 119, 111, 114, 108, 100, 10]

def sendPacket (buff : Mem) (n : Nat) (link : TcpLink) : TcpEvent :=
  .ipSedProcess (load buff 14 n) link.sip link.dip link.status

/-- The lines that every sender but the SYN repeats: header fields, options and
payload by hand, then `tcp_pack` for a segment of `len` bytes and `ip_pack`. -/
def packSegment (buff : Mem) (srcPort dstPort : UInt16) (options payload : List UInt8)
    (link : TcpLink) (len : Nat) (flag : UInt32) : Mem :=
  let m := put16 buff 34 srcPort
  let m := put16 m 36 dstPort
  let m := put32 m 38 (htonl link.mynum)
  let m := store m 54 options
  let m := store m 66 payload
  let m := put32 m 42 (htonl (link.rmtnum + 1))
  let m := tcpPack m 34 len 32 (toU16 link.sport) (toU16 link.dport) link.mynum link.rmtnum flag
    512 0 link.sip link.dip
  ipPack m 14 20 (20 + (len : Int)) 0 0 64 6 link.sip link.dip

def ackOptions : List UInt8 :=
  [0x01, 0x01, 0x08, 0x0a, 0x00, 0x02, 0xe3, 0x11, 0x01, 0x00, 0x8f, 0xff]

def dataOptions : List UInt8 :=
  [0x01, 0x01, 0x08, 0x0a, 0x00, 0x06, 0xaf, 0x6e, 0x01, 0x04, 0x5c, 0x4e]

def finOptions : List UInt8 :=
  [0x01, 0x01, 0x08, 0x0a, 0x01, 0x27, 0x32, 0x6f, 0x00, 0x2b, 0xe3, 0x5e]

def sendSyn (link : TcpLink) (stack : Mem) : TcpLink × List TcpEvent :=
  let m := store stack 54 [0x02, 0x04, 0x05, 0xb4, 0x04, 0x02, 0x08, 0x0a, 0x00, 0x73, 0x3e, 0x9d]
  let m := store m 70 [0x01, 0x03, 0x03, 0x05]
  let m := tcpPack m 34 40 40 (toU16 link.sport) (toU16 link.dport) link.mynum 0 TCP_SYN
    (toU16 link.wSize) 0 link.sip link.dip
  let link := { link with status := .synSend, mynum := link.mynum + 1 }
  let m := ipPack m 14 20 (20 + 40) 0 0 64 6 link.sip link.dip
  (link, [sendPacket m (20 + 40) link])

def tcpFirstStep (link : TcpLink) (stack : Mem) : TcpLink × List TcpEvent := sendSyn link stack

def myconnect (link : TcpLink) (_sock : Int) (stack : Mem) : Int × TcpLink × List TcpEvent :=
  (1, sendSyn link stack)

/-- The arguments are not looked at. -/
def mysendtcp (link : TcpLink) (_buf : Mem) (_num : Int) (stack : Mem) : TcpLink × List TcpEvent :=
  let m := packSegment stack (htons (toU16 link.sport)) (htons (toU16 link.dport)) dataOptions
    helloWorld link (32 + 12) TCP_ACK
  let link := { link with mynum := link.mynum + 12 }
  (link, [sendPacket m (20 + 32 + 12) link])

def closesocket (link : TcpLink) (_socket : Int) (stack : Mem) : Int × TcpLink × List TcpEvent :=
  let m := packSegment stack (htons (toU16 link.sport)) (htons (toU16 link.dport)) finOptions
    [] link 32 (TCP_ACK ||| TCP_FIN)
  let link := { link with mynum := link.mynum + 1 }
  (0, link, [sendPacket m (20 + 32) link])

/-- The branch of `tcptest` that takes a SYN-ACK, with the TCP header at `t`:
acknowledgement, greeting and FIN. -/
def tcptestSynAck (link : TcpLink) (buf : Mem) (t : Nat) (stack : Mem) :
    TcpLink × List TcpEvent :=
  let src := TcpHdr.dstPort buf t
  let dst := TcpHdr.srcPort buf t
  let seq := htonl (TcpHdr.sequenceNum buf t)
  let link := { link with status := .establish, rmtnum := seq }
  let link := { link with rmtnum := link.rmtnum + 1 }
  let ack := packSegment stack src dst ackOptions [] link 32 TCP_ACK
  let sentAck := sendPacket ack (20 + 32) link
  let link := { link with rmtnum := seq }
  let hello := packSegment ack src dst dataOptions helloWorld link (32 + 12) TCP_ACK
  let link := { link with mynum := link.mynum + 12 }
  let sentHello := sendPacket hello (20 + 32 + 12) link
  let link := { link with rmtnum := seq }
  let fin := packSegment hello src dst finOptions [] link 32 (TCP_ACK ||| TCP_FIN)
  let link := { link with mynum := link.mynum + 1 }
  let sentFin := sendPacket fin (20 + 32) link
  (link, [.accept seq (htonl (TcpHdr.ackNum buf t)), sentAck, sentHello, sentFin])

def tcptestFin (link : TcpLink) (buf : Mem) (t : Nat) (stack : Mem) : TcpLink × List TcpEvent :=
  let seq := htonl (TcpHdr.sequenceNum buf t)
  let payload := ((htons (Ip4hdr.totalLen buf 14)).toNat : Int)
    - Ip4hdr.headLen buf 14 * 4 - TcpHdr.headLen buf t * 4
  let link := { link with rmtnum := seq }
  let m := packSegment stack (TcpHdr.dstPort buf t) (TcpHdr.srcPort buf t) finOptions [] link 32
    TCP_ACK
  (link, [.acceptFin seq payload, sendPacket m (20 + 32) link])

def tcptest (link : TcpLink) (buf : Mem) (len : Int) (stack : Mem) :
    Int × TcpLink × List TcpEvent :=
  if Ip4hdr.protocal buf 14 ≠ IP_PROTOTCP then (-1, link, [])
  else
    let t := 14 + Ip4hdr.headLen buf 14 * 4
    match link.status with
    | .synSend =>
        if TcpHdr.syn buf t && TcpHdr.ack buf t && htonl (TcpHdr.ackNum buf t) == link.mynum then
          (0, tcptestSynAck link buf t stack)
        else (0, link, [])
    | .establish =>
        let out :=
          if TcpHdr.fin buf t && TcpHdr.ack buf t && htonl (TcpHdr.ackNum buf t) == link.mynum then
            tcptestFin link buf t stack
          else (link, [])
        (0, out.1, out.2 ++ [.getmessage (t + TcpHdr.headLen buf t * 4)
          (len - Ip4hdr.headLen buf 14 * 4 - TcpHdr.headLen buf t * 4)])
    -- `case TCP_FIN` stands for `TCP_LISTEN`, and does nothing like the others
    | _ => (0, link, [])

/-- The calls that share the connection record; `stack` is what a call finds in
its local buffer. -/
inductive TcpCall
  | firstStep (stack : Mem)
  | myconnect (sock : Int) (stack : Mem)
  | mysendtcp (buf : Mem) (num : Int) (stack : Mem)
  | closesocket (socket : Int) (stack : Mem)
  | tcptest (buf : Mem) (len : Int) (stack : Mem)

def tcpExec (link : TcpLink) : TcpCall → TcpLink × List TcpEvent
  | .firstStep stack => tcpFirstStep link stack
  | .myconnect sock stack => (VpnRouter.myconnect link sock stack).2
  | .mysendtcp buf num stack => VpnRouter.mysendtcp link buf num stack
  | .closesocket socket stack => (VpnRouter.closesocket link socket stack).2
  | .tcptest buf len stack => (VpnRouter.tcptest link buf len stack).2

/-- `tcptest` in `TCP_SYN_SEND` takes the frame as the answer to the SYN. -/
def AnswersSyn (mynum : UInt32) (buf : Mem) : Prop :=
  Ip4hdr.protocal buf 14 = IP_PROTOTCP ∧
    TcpHdr.syn buf (14 + Ip4hdr.headLen buf 14 * 4) = true ∧
    TcpHdr.ack buf (14 + Ip4hdr.headLen buf 14 * 4) = true ∧
    htonl (TcpHdr.ackNum buf (14 + Ip4hdr.headLen buf 14 * 4)) = mynum

instance (mynum : UInt32) (buf : Mem) : Decidable (AnswersSyn mynum buf) :=
  inferInstanceAs (Decidable (_ ∧ _ ∧ _ ∧ _))

/-- `tcptest` in `TCP_ESTABLISH` takes the frame as the end of the other side. -/
def AnswersFin (mynum : UInt32) (buf : Mem) : Prop :=
  Ip4hdr.protocal buf 14 = IP_PROTOTCP ∧
    TcpHdr.fin buf (14 + Ip4hdr.headLen buf 14 * 4) = true ∧
    TcpHdr.ack buf (14 + Ip4hdr.headLen buf 14 * 4) = true ∧
    htonl (TcpHdr.ackNum buf (14 + Ip4hdr.headLen buf 14 * 4)) = mynum

instance (mynum : UInt32) (buf : Mem) : Decidable (AnswersFin mynum buf) :=
  inferInstanceAs (Decidable (_ ∧ _ ∧ _ ∧ _))

/-! ## What the segments carry -/

def packetMem (p : List UInt8) : Mem := overlay p fun _ => 0

/-! The fields of a sent packet; its IP header has 20 bytes. -/

def seqOf (p : List UInt8) : UInt32 := htonl (TcpHdr.sequenceNum (packetMem p) 20)

def ackOf (p : List UInt8) : UInt32 := htonl (TcpHdr.ackNum (packetMem p) 20)

def isSyn (p : List UInt8) : Bool := TcpHdr.syn (packetMem p) 20

def isFin (p : List UInt8) : Bool := TcpHdr.fin (packetMem p) 20

def isAck (p : List UInt8) : Bool := TcpHdr.ack (packetMem p) 20

def payloadLen (p : List UInt8) : Nat := p.length - 20 - TcpHdr.headLen (packetMem p) 20 * 4

structure Carries (p : List UInt8) (seq ack flag : UInt32) (payload : Nat) : Prop where
  seq : seqOf p = seq
  ack : ackOf p = ack
  syn : isSyn p = (flag.toNat % 256).testBit 1
  fin : isFin p = (flag.toNat % 256).testBit 0
  isAck : isAck p = (flag.toNat % 256).testBit 4
  payload : payloadLen p = payload

/-- Behind its IP header a packet is the segment. -/
theorem packetMem_pack {seg : Mem} {len k : Nat} {totalLen id frag time protocal : Int}
    {src dst : UInt32} (hk : k < len) :
    packetMem (load (ipPack seg 14 20 totalLen id frag time protocal src dst) 14 (20 + len))
      (20 + k) = seg (34 + k) := by
  have hlen : 20 + k <
      (load (ipPack seg 14 20 totalLen id frag time protocal src dst) 14 (20 + len)).length := by
    rw [length_load]
    omega
  rw [packetMem, overlay_apply hlen, getD_load (by omega), ipPack_outside _ _ _ _ _ _ _ _ _ _
    (by omega), show 14 + (20 + k) = 34 + k by omega]

section Pack

variable {m : Mem} {len hlen : Nat} {sport dport : UInt16} {snum acknum flag : UInt32}
  {size point : UInt16} {src dst : UInt32} {totalLen id frag protocal : Int}

theorem flags_pack (time : Int) (hheader : 20 ≤ hlen) (hfits : hlen ≤ len) :
    (TcpHdr.flags (packetMem (load
      (ipPack (tcpPack m 34 len hlen sport dport snum acknum flag size point src dst)
        14 20 totalLen id frag time protocal src dst) 14 (20 + len))) 20).toNat =
      flag.toNat % 256 := by
  rw [TcpHdr.flags, packetMem_pack (k := 13) (by omega)]
  exact tcpPack_flags (by omega)

theorem carries_pack (time : Int) (hheader : 20 ≤ hlen) (hmax : hlen ≤ 60)
    (hfits : hlen ≤ len) (hdvd : hlen % 4 = 0) :
    Carries (load (ipPack (tcpPack m 34 len hlen sport dport snum acknum flag size point src dst)
        14 20 totalLen id frag time protocal src dst) 14 (20 + len))
      snum acknum flag (len - hlen) := by
  let seg := tcpPack m 34 len hlen sport dport snum acknum flag size point src dst
  let p := load (ipPack seg 14 20 totalLen id frag time protocal src dst) 14 (20 + len)
  have hbyte (k : Nat) (hk : k < len) : packetMem p (20 + k) = seg (34 + k) := packetMem_pack hk
  have hflags : (TcpHdr.flags (packetMem p) 20).toNat = flag.toNat % 256 :=
    flags_pack time hheader hfits
  have hseq : TcpHdr.sequenceNum (packetMem p) 20 = TcpHdr.sequenceNum seg 34 := by
    apply get32_congr
    intro i hi
    rw [Nat.add_assoc, Nat.add_assoc, hbyte (4 + i) (by omega)]
  have hack : TcpHdr.ackNum (packetMem p) 20 = TcpHdr.ackNum seg 34 := by
    apply get32_congr
    intro i hi
    rw [Nat.add_assoc, Nat.add_assoc, hbyte (8 + i) (by omega)]
  have hhead : TcpHdr.headLen (packetMem p) 20 = hlen / 4 % 16 := by
    rw [TcpHdr.headLen, hbyte 12 (by omega)]
    exact tcpPack_headLen (by omega)
  constructor
  · rw [seqOf, hseq, tcpPack_sequenceNum, htonl_htonl]
  · rw [ackOf, hack, tcpPack_ackNum, htonl_htonl]
  · rw [isSyn, TcpHdr.syn, hflags]
  · rw [isFin, TcpHdr.fin, hflags]
  · rw [isAck, TcpHdr.ack, hflags]
  · rw [payloadLen, hhead, length_load]
    omega

end Pack

/-- The segment of `packSegment` carries the numbers of the connection record,
whatever was written by hand before. -/
theorem carries_packSegment {buff : Mem} {srcPort dstPort : UInt16}
    {options payload : List UInt8} {link : TcpLink} {len : Nat} {flag : UInt32}
    (hlen : 32 ≤ len) :
    Carries (load (packSegment buff srcPort dstPort options payload link len flag) 14 (20 + len))
      link.mynum link.rmtnum flag (len - 32) :=
  carries_pack 64 (by omega) (by omega) hlen (by omega)

theorem sendSyn_eq (link : TcpLink) (stack : Mem) :
    ∃ p, sendSyn link stack =
        ({ link with status := .synSend, mynum := link.mynum + 1 },
          [.ipSedProcess p link.sip link.dip .synSend]) ∧
      Carries p link.mynum 0 TCP_SYN 0 :=
  ⟨_, rfl, carries_pack 64 (by omega) (by omega) (le_refl 40) (by omega)⟩

theorem mysendtcp_eq (link : TcpLink) (buf : Mem) (num : Int) (stack : Mem) :
    ∃ p, mysendtcp link buf num stack =
        ({ link with mynum := link.mynum + 12 },
          [.ipSedProcess p link.sip link.dip link.status]) ∧
      Carries p link.mynum link.rmtnum TCP_ACK 12 :=
  ⟨_, rfl, carries_packSegment (by omega)⟩

theorem closesocket_eq (link : TcpLink) (socket : Int) (stack : Mem) :
    ∃ p, closesocket link socket stack =
        (0, { link with mynum := link.mynum + 1 },
          [.ipSedProcess p link.sip link.dip link.status]) ∧
      Carries p link.mynum link.rmtnum (TCP_ACK ||| TCP_FIN) 0 :=
  ⟨_, rfl, carries_packSegment (by omega)⟩

/-- A SYN-ACK with sequence number `seq` is answered by three packets: the first
acknowledges `seq + 1`, the greeting and the FIN acknowledge `seq`. -/
theorem tcptestSynAck_eq (link : TcpLink) (buf : Mem) (t : Nat) (stack : Mem) :
    ∃ p q s seq,
      tcptestSynAck link buf t stack =
        ({ link with status := .establish, rmtnum := seq, mynum := link.mynum + 12 + 1 },
          [.accept seq (htonl (TcpHdr.ackNum buf t)),
            .ipSedProcess p link.sip link.dip .establish,
            .ipSedProcess q link.sip link.dip .establish,
            .ipSedProcess s link.sip link.dip .establish]) ∧
      seq = htonl (TcpHdr.sequenceNum buf t) ∧
      Carries p link.mynum (seq + 1) TCP_ACK 0 ∧
      Carries q link.mynum seq TCP_ACK 12 ∧
      Carries s (link.mynum + 12) seq (TCP_ACK ||| TCP_FIN) 0 :=
  ⟨_, _, _, _, rfl, rfl, carries_packSegment (by omega), carries_packSegment (by omega),
    carries_packSegment (by omega)⟩

theorem tcptest_establish {link : TcpLink} {buf stack : Mem}
    (hproto : Ip4hdr.protocal buf 14 = IP_PROTOTCP) (hstatus : link.status = .establish)
    (len : Int) :
    (tcptest link buf len stack).2 =
      let t := 14 + Ip4hdr.headLen buf 14 * 4
      let out := if AnswersFin link.mynum buf then tcptestFin link buf t stack else (link, [])
      (out.1, out.2 ++ [.getmessage (t + TcpHdr.headLen buf t * 4)
        (len - Ip4hdr.headLen buf 14 * 4 - TcpHdr.headLen buf t * 4)]) := by
  have hanswers : (TcpHdr.fin buf (14 + Ip4hdr.headLen buf 14 * 4) &&
      TcpHdr.ack buf (14 + Ip4hdr.headLen buf 14 * 4) &&
      htonl (TcpHdr.ackNum buf (14 + Ip4hdr.headLen buf 14 * 4)) == link.mynum) = true ↔
        AnswersFin link.mynum buf := by
    rw [Bool.and_eq_true, Bool.and_eq_true, beq_iff_eq, AnswersFin, and_assoc,
      and_iff_right hproto]
  simp only [tcptest, hproto, hstatus, hanswers, ne_eq, not_true, if_false]

/-- Outside `TCP_ESTABLISH` a frame that does not answer the SYN changes nothing. -/
theorem tcptest_ignored {link : TcpLink} {buf : Mem} {len : Int} {stack : Mem}
    (hstatus : link.status ≠ .establish)
    (hbuf : ¬ (link.status = .synSend ∧ AnswersSyn link.mynum buf)) :
    (tcptest link buf len stack).2 = (link, []) := by
  unfold tcptest
  split
  · rfl
  · rename_i hproto
    cases hs : link.status with
    | synSend =>
        have hno : ¬ (TcpHdr.syn buf (14 + Ip4hdr.headLen buf 14 * 4) &&
            TcpHdr.ack buf (14 + Ip4hdr.headLen buf 14 * 4) &&
            htonl (TcpHdr.ackNum buf (14 + Ip4hdr.headLen buf 14 * 4)) == link.mynum) = true := by
          intro h
          rw [Bool.and_eq_true, Bool.and_eq_true, beq_iff_eq] at h
          exact hbuf ⟨hs, not_not.mp hproto, h.1.1, h.1.2, h.2⟩
        simp only [if_neg hno]
    | establish => exact absurd hs hstatus
    | _ => simp only

/-- What looks at the sent packets alone does not see deliveries. -/
theorem filterMap_delivered {β : Type} {f : TcpEvent → Option β}
    (hf : ∀ addr n, f (.getmessage addr n) = none) {log : List TcpEvent}
    (hlog : ∀ e ∈ log, ∃ addr n, e = .getmessage addr n) : log.filterMap f = [] := by
  rw [List.filterMap_eq_nil_iff]
  intro e he
  obtain ⟨addr, n, rfl⟩ := hlog e he
  exact hf addr n

/-- A frame that answers neither the SYN nor, once connected, ends the other side
is delivered at most. -/
theorem tcptest_refused {link : TcpLink} {buf : Mem}
    (hsyn : ¬ (link.status = .synSend ∧ AnswersSyn link.mynum buf))
    (hfin : ¬ (link.status = .establish ∧ AnswersFin link.mynum buf)) (len : Int) (stack : Mem) :
    ∃ log, (tcptest link buf len stack).2 = (link, log) ∧
      ∀ e ∈ log, ∃ addr n, e = .getmessage addr n := by
  have hnone : ∀ e ∈ ([] : List TcpEvent), ∃ addr n, e = .getmessage addr n :=
    List.forall_mem_nil _
  by_cases hproto : Ip4hdr.protocal buf 14 = IP_PROTOTCP
  · by_cases hstatus : link.status = .establish
    · have hexec : (tcptest link buf len stack).2 = _ := tcptest_establish hproto hstatus len
      simp only [if_neg (fun h => hfin ⟨hstatus, h⟩)] at hexec
      exact ⟨_, hexec, fun e he => ⟨_, _, List.mem_singleton.mp he⟩⟩
    · exact ⟨[], tcptest_ignored hstatus hsyn, hnone⟩
  · refine ⟨[], ?_, hnone⟩
    rw [tcptest, if_pos hproto]

theorem tcptest_synAck {link : TcpLink} {buf : Mem} {len : Int} {stack : Mem}
    (hstatus : link.status = .synSend) (hbuf : AnswersSyn link.mynum buf) :
    (tcptest link buf len stack).2 =
      tcptestSynAck link buf (14 + Ip4hdr.headLen buf 14 * 4) stack := by
  obtain ⟨hproto, hsyn, hack, hnum⟩ := hbuf
  simp only [tcptest, hproto, hstatus, hsyn, hack, hnum, ne_eq, not_true, if_false, Bool.and_self,
    beq_self_eq_true, if_true]

end VpnRouter
