import VpnRouter.TcpSequence

/-!
# The connection record and its events

The events of a run tell what the connection record is: a packet moves `mynum` on
by its sequence space, a SYN opens the connection again, and an accepted SYN-ACK
or FIN sets the number of the other side.  The record in turn tells what may come
next: a SYN-ACK only for the SYN sent last, an answered FIN or a message only in
`TCP_ESTABLISH`, which nothing but a SYN leaves.
-/

namespace VpnRouter

open Lib Lib.Memory

def statusAfter (status : TcpStatus) (s : Segment) : TcpStatus :=
  if s.syn then .synSend else status

/-- The record after an event. -/
def recordAfter (link : TcpLink) : TcpEvent → TcpLink
  | .accept seq _ => { link with status := .establish, rmtnum := seq }
  | .acceptFin seq _ => { link with rmtnum := seq }
  | .ipSedProcess p _ _ _ =>
      { link with
        status := statusAfter link.status (segmentOf p)
        mynum := link.mynum + UInt32.ofNat (segmentOf p).space }
  | .getmessage _ _ => link

/-- The events that a record allows. -/
def Expected (link : TcpLink) : TcpEvent → Prop
  | .accept _ ack => link.status = .synSend ∧ ack = link.mynum
  | .acceptFin _ _ => link.status = .establish
  | .ipSedProcess p src dst status =>
      src = link.sip ∧ dst = link.dip ∧ (segmentOf p).seq = link.mynum ∧
        status = statusAfter link.status (segmentOf p)
  | .getmessage _ _ => link.status = .establish

def recordMonitor : Monitor TcpLink TcpEvent where
  observe := recordAfter
  allowed := Expected

@[simp] theorem statusAfter_synAt (status : TcpStatus) (seq : UInt32) :
    statusAfter status (synAt seq) = .synSend := by
  have hflags : TCP_SYN.toUInt8.toNat.testBit 1 = true := by decide
  rw [statusAfter, Segment.syn, synAt, hflags, if_pos rfl]

@[simp] theorem statusAfter_ackAt (status : TcpStatus) (seq : UInt32) (payload : Nat) :
    statusAfter status (ackAt seq payload) = status := by
  have hflags : TCP_ACK.toUInt8.toNat.testBit 1 = false := by decide
  rw [statusAfter, Segment.syn, ackAt, hflags]
  rfl

@[simp] theorem statusAfter_finAt (status : TcpStatus) (seq : UInt32) :
    statusAfter status (finAt seq) = status := by
  have hflags : (TCP_ACK ||| TCP_FIN).toUInt8.toNat.testBit 1 = false := by decide
  rw [statusAfter, Segment.syn, finAt, hflags]
  rfl

section Calls

variable {link link' : TcpLink} {stack : Mem}

/-- A packet that continues the record, with the record it leaves. -/
theorem accepts_packet {p : List UInt8} {s : Segment} {status : TcpStatus}
    (hp : segments [.ipSedProcess p link.sip link.dip status] = [s])
    (hseq : s.seq = link.mynum) (hstatus : status = statusAfter link.status s)
    (hlink : link' =
      { link with status := status, mynum := link.mynum + UInt32.ofNat s.space }) :
    recordMonitor.Accepts link [.ipSedProcess p link.sip link.dip status] ∧
      link' = recordMonitor.after link [.ipSedProcess p link.sip link.dip status] := by
  have hsegment : segmentOf p = s := List.cons.inj hp |>.1
  subst hsegment
  refine ⟨⟨⟨rfl, rfl, hseq, hstatus⟩, trivial⟩, ?_⟩
  rw [hlink, hstatus]
  rfl

theorem accepts_syn (link : TcpLink) (stack : Mem) :
    recordMonitor.Accepts link (sendSyn link stack).2 ∧
      (sendSyn link stack).1 = recordMonitor.after link (sendSyn link stack).2 := by
  obtain ⟨p, hout, -⟩ := sendSyn_eq link stack
  have hsegments := segments_sendSyn link stack
  rw [hout] at hsegments ⊢
  apply accepts_packet hsegments rfl
  · exact (statusAfter_synAt link.status link.mynum).symm
  · rw [space_synAt]
    rfl

theorem accepts_mysendtcp (link : TcpLink) (buf : Mem) (num : Int) (stack : Mem) :
    recordMonitor.Accepts link (mysendtcp link buf num stack).2 ∧
      (mysendtcp link buf num stack).1 =
        recordMonitor.after link (mysendtcp link buf num stack).2 := by
  obtain ⟨p, hout, -⟩ := mysendtcp_eq link buf num stack
  have hsegments := segments_mysendtcp link buf num stack
  rw [hout] at hsegments ⊢
  apply accepts_packet hsegments rfl
  · exact (statusAfter_ackAt link.status link.mynum 12).symm
  · rw [space_ackAt]
    rfl

theorem accepts_closesocket (link : TcpLink) (socket : Int) (stack : Mem) :
    recordMonitor.Accepts link (closesocket link socket stack).2.2 ∧
      (closesocket link socket stack).2.1 =
        recordMonitor.after link (closesocket link socket stack).2.2 := by
  obtain ⟨p, hout, -⟩ := closesocket_eq link socket stack
  have hsegments := segments_closesocket link socket stack
  rw [hout] at hsegments ⊢
  apply accepts_packet hsegments rfl
  · exact (statusAfter_finAt link.status link.mynum).symm
  · rw [space_finAt]
    rfl

/-- The three packets for a SYN-ACK follow each other in the record that it sets. -/
theorem accepts_tcptestSynAck {buf : Mem} (hstatus : link.status = .synSend)
    (hbuf : AnswersSyn link.mynum buf) (stack : Mem) :
    let t := 14 + Ip4hdr.headLen buf 14 * 4
    recordMonitor.Accepts link (tcptestSynAck link buf t stack).2 ∧
      (tcptestSynAck link buf t stack).1 =
        recordMonitor.after link (tcptestSynAck link buf t stack).2 := by
  intro t
  obtain ⟨p, q, s, seq, hout, -, -, -, -⟩ := tcptestSynAck_eq link buf t stack
  have hsegments : segments (tcptestSynAck link buf t stack).2 = _ := segments_tcptestSynAck
  rw [hout] at hsegments ⊢
  simp only [segments, List.filterMap_cons, List.filterMap_nil, List.cons.injEq, and_true]
    at hsegments
  obtain ⟨hp, hq, hs⟩ := hsegments
  have hempty (num : UInt32) : num + UInt32.ofNat 0 = num := UInt32.add_zero num
  constructor
  · refine ⟨⟨hstatus, hbuf.2.2.2⟩, ⟨rfl, rfl, ?_, ?_⟩, ⟨rfl, rfl, ?_, ?_⟩, ⟨rfl, rfl, ?_, ?_⟩,
      trivial⟩
    · rw [hp]
      rfl
    · rw [hp, statusAfter_ackAt]
      rfl
    · simp only [recordMonitor, recordAfter, hp, hq, space_ackAt, hempty]
      rfl
    · simp only [recordMonitor, recordAfter, hp, hq, statusAfter_ackAt]
    · simp only [recordMonitor, recordAfter, hp, hq, hs, space_ackAt, hempty]
      rfl
    · simp only [recordMonitor, recordAfter, hp, hq, hs, statusAfter_ackAt, statusAfter_finAt]
  · simp only [Monitor.after, List.foldl_cons, List.foldl_nil, recordMonitor, recordAfter, hp, hq,
      hs, space_ackAt, space_finAt, statusAfter_ackAt, statusAfter_finAt, hempty]
    rfl

theorem tcptestFin_fst (link : TcpLink) (buf : Mem) (t : Nat) (stack : Mem) :
    (tcptestFin link buf t stack).1 =
      { link with rmtnum := htonl (TcpHdr.sequenceNum buf t) } := rfl

theorem accepts_tcptestFin {buf : Mem} (hstatus : link.status = .establish) (t : Nat)
    (stack : Mem) :
    recordMonitor.Accepts link (tcptestFin link buf t stack).2 ∧
      (tcptestFin link buf t stack).1 =
        recordMonitor.after link (tcptestFin link buf t stack).2 := by
  have hsegments : segments (tcptestFin link buf t stack).2 = _ := segments_tcptestFin
  -- the record before the packet and after it are the same
  have hempty : link.mynum = link.mynum + UInt32.ofNat (ackAt link.mynum 0).space := by
    rw [space_ackAt]
    exact (UInt32.add_zero _).symm
  have hpacket : recordMonitor.Accepts
      { link with rmtnum := htonl (TcpHdr.sequenceNum buf t) } _ ∧ (tcptestFin link buf t stack).1 =
        recordMonitor.after { link with rmtnum := htonl (TcpHdr.sequenceNum buf t) } _ :=
    accepts_packet hsegments rfl (statusAfter_ackAt link.status link.mynum 0).symm (by
      rw [tcptestFin_fst, ← hempty])
  obtain ⟨haccepts, hafter⟩ := hpacket
  exact ⟨⟨hstatus, haccepts⟩, hafter⟩

/-- A message comes in `TCP_ESTABLISH` and leaves the record. -/
theorem accepts_message {log : List TcpEvent}
    (h : recordMonitor.Accepts link log ∧ link' = recordMonitor.after link log)
    (hstatus : link'.status = .establish) (addr : Nat) (n : Int) :
    recordMonitor.Accepts link (log ++ [.getmessage addr n]) ∧
      link' = recordMonitor.after link (log ++ [.getmessage addr n]) := by
  obtain ⟨haccepts, hafter⟩ := h
  rw [recordMonitor.accepts_append, recordMonitor.after_append, ← hafter]
  exact ⟨⟨haccepts, hstatus, trivial⟩, rfl⟩

/-- Each call does what its record allows and leaves the record its events tell. -/
theorem accepts_tcpExec (link : TcpLink) (c : TcpCall) :
    recordMonitor.Accepts link (tcpExec link c).2 ∧
      (tcpExec link c).1 = recordMonitor.after link (tcpExec link c).2 := by
  cases c with
  | firstStep stack => exact accepts_syn link stack
  | myconnect sock stack => exact accepts_syn link stack
  | mysendtcp buf num stack => exact accepts_mysendtcp link buf num stack
  | closesocket socket stack => exact accepts_closesocket link socket stack
  | tcptest buf len stack =>
      by_cases hestablish : link.status = .establish
      · by_cases hproto : Ip4hdr.protocal buf 14 = IP_PROTOTCP
        · have hexec : tcpExec link (.tcptest buf len stack) = _ :=
            tcptest_establish hproto hestablish len
          rw [hexec]
          by_cases hfin : AnswersFin link.mynum buf
          · simp only [if_pos hfin]
            apply accepts_message (accepts_tcptestFin hestablish _ stack)
            rw [tcptestFin_fst]
            exact hestablish
          · have hnone : recordMonitor.Accepts link [] ∧ link = recordMonitor.after link [] :=
              ⟨trivial, rfl⟩
            simp only [if_neg hfin]
            exact accepts_message hnone hestablish _ _
        · have hexec : tcpExec link (.tcptest buf len stack) = (link, []) := by
            rw [tcpExec, tcptest, if_pos hproto]
          rw [hexec]
          exact ⟨trivial, rfl⟩
      · by_cases hsyn : link.status = .synSend ∧ AnswersSyn link.mynum buf
        · have hexec : tcpExec link (.tcptest buf len stack) = _ := tcptest_synAck hsyn.1 hsyn.2
          rw [hexec]
          exact accepts_tcptestSynAck hsyn.1 hsyn.2 stack
        · have hexec : tcpExec link (.tcptest buf len stack) = _ :=
            tcptest_ignored hestablish hsyn
          rw [hexec]
          exact ⟨trivial, rfl⟩

end Calls

/-- Over every run the record and the events agree: each event is one that the
record of the events before it allows, and the last record is the one they tell. -/
theorem record_of_log (link : TcpLink) (calls : List TcpCall) :
    recordMonitor.Accepts link (Monitor.trace tcpExec link calls) ∧
      Monitor.final tcpExec link calls =
        recordMonitor.after link (Monitor.trace tcpExec link calls) := by
  have hstep (link record : TcpLink) (c : TcpCall) (h : link = record) :
      recordMonitor.Accepts record (tcpExec link c).2 ∧
        (tcpExec link c).1 = recordMonitor.after record (tcpExec link c).2 := by
    rw [← h]
    exact accepts_tcpExec link c
  exact recordMonitor.accepts_trace hstep rfl calls

end VpnRouter
