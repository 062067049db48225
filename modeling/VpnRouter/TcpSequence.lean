import VpnRouter.TcpAck

/-!
# Sequence numbers

The segments a connection hands to `ip_sed_process`, and the sequence space they
take.  Every send site counts what it sends in `mynum`, so the segments of any
run follow each other without gap or overlap (`sequence_numbers`).  A session
that is only fed frames sends one fixed pattern (`client_pattern`).
-/

namespace VpnRouter

open Lib Lib.Memory

/-- A TCP segment on the wire, its payload by length. -/
structure Segment where
  seq : UInt32
  flags : UInt8
  payload : Nat
deriving DecidableEq, Repr

def Segment.syn (s : Segment) : Bool := s.flags.toNat.testBit 1

def Segment.fin (s : Segment) : Bool := s.flags.toNat.testBit 0

/-- The sequence space of a segment. -/
def Segment.space (s : Segment) : Nat := s.payload + s.syn.toNat + s.fin.toNat

def synAt (seq : UInt32) : Segment := { seq := seq, flags := TCP_SYN.toUInt8, payload := 0 }

def ackAt (seq : UInt32) (payload : Nat) : Segment :=
  { seq := seq, flags := TCP_ACK.toUInt8, payload := payload }

def finAt (seq : UInt32) : Segment :=
  { seq := seq, flags := (TCP_ACK ||| TCP_FIN).toUInt8, payload := 0 }

@[simp] theorem space_synAt (seq : UInt32) : (synAt seq).space = 1 := by
  have hflags : TCP_SYN.toUInt8.toNat.testBit 1 = true ∧
      TCP_SYN.toUInt8.toNat.testBit 0 = false := by decide
  simp only [synAt, Segment.space, Segment.syn, Segment.fin, hflags, Bool.toNat_true,
    Bool.toNat_false, Nat.add_zero, Nat.zero_add]

@[simp] theorem space_ackAt (seq : UInt32) (payload : Nat) :
    (ackAt seq payload).space = payload := by
  have hflags : TCP_ACK.toUInt8.toNat.testBit 1 = false ∧
      TCP_ACK.toUInt8.toNat.testBit 0 = false := by decide
  simp only [ackAt, Segment.space, Segment.syn, Segment.fin, hflags, Bool.toNat_false,
    Nat.add_zero]

@[simp] theorem space_finAt (seq : UInt32) : (finAt seq).space = 1 := by
  have hflags : (TCP_ACK ||| TCP_FIN).toUInt8.toNat.testBit 1 = false ∧
      (TCP_ACK ||| TCP_FIN).toUInt8.toNat.testBit 0 = true := by decide
  simp only [finAt, Segment.space, Segment.syn, Segment.fin, hflags, Bool.toNat_true,
    Bool.toNat_false, Nat.add_zero, Nat.zero_add]

def segmentOf (p : List UInt8) : Segment :=
  { seq := seqOf p, flags := TcpHdr.flags (packetMem p) 20, payload := payloadLen p }

/-- The segments handed to `ip_sed_process`. -/
def segments (log : List TcpEvent) : List Segment :=
  log.filterMap fun
    | .ipSedProcess p _ _ _ => some (segmentOf p)
    | _ => none

theorem segments_append (log log' : List TcpEvent) :
    segments (log ++ log') = segments log ++ segments log' :=
  List.filterMap_append

/-- A call with the segments it sends. -/
def tcpSend (link : TcpLink) (c : TcpCall) : TcpLink × List Segment :=
  ((tcpExec link c).1, segments (tcpExec link c).2)

/-! ## What each call sends -/

section Sends

variable {link : TcpLink} {stack : Mem}

theorem segmentOf_eq {p : List UInt8} {seq ack flag : UInt32} {payload : Nat}
    (h : Carries p seq ack flag payload)
    (hflags : (TcpHdr.flags (packetMem p) 20).toNat = flag.toNat % 256) :
    segmentOf p = { seq := seq, flags := flag.toUInt8, payload := payload } := by
  rw [segmentOf, h.seq, h.payload]
  congr 1
  apply UInt8.toNat.inj
  rw [hflags, UInt32.toNat_toUInt8]

theorem segmentOf_packSegment {buff : Mem} {srcPort dstPort : UInt16}
    {options payload : List UInt8} {len : Nat} {flag : UInt32} (hlen : 32 ≤ len) :
    segmentOf (load (packSegment buff srcPort dstPort options payload link len flag) 14
        (20 + len)) =
      { seq := link.mynum, flags := flag.toUInt8, payload := len - 32 } :=
  segmentOf_eq (carries_packSegment hlen) (flags_pack 64 (by omega) hlen)

theorem segments_sendSyn (link : TcpLink) (stack : Mem) :
    segments (sendSyn link stack).2 =
      [synAt link.mynum] := by
  apply congrArg (fun s => [s])
  apply segmentOf_eq
  · exact carries_pack 64 (by omega) (by omega) (le_refl 40) (by omega)
  · exact flags_pack 64 (by omega) (le_refl 40)

theorem segments_mysendtcp (link : TcpLink) (buf : Mem) (num : Int) (stack : Mem) :
    segments (mysendtcp link buf num stack).2 =
      [ackAt link.mynum 12] := by
  apply congrArg (fun s => [s])
  exact segmentOf_packSegment (by omega)

theorem segments_closesocket (link : TcpLink) (socket : Int) (stack : Mem) :
    segments (closesocket link socket stack).2.2 =
      [finAt link.mynum] := by
  apply congrArg (fun s => [s])
  exact segmentOf_packSegment (le_refl 32)

theorem segments_tcptestSynAck {buf : Mem} {t : Nat} :
    segments (tcptestSynAck link buf t stack).2 =
      [ackAt link.mynum 0,
        ackAt link.mynum 12,
        finAt (link.mynum + 12)] := by
  simp only [tcptestSynAck, segments, sendPacket, List.filterMap_cons, List.filterMap_nil]
  rw [segmentOf_packSegment (le_refl 32), segmentOf_packSegment (show 32 ≤ 32 + 12 by omega),
    segmentOf_packSegment (le_refl 32)]
  rfl

theorem segments_tcptestFin {buf : Mem} {t : Nat} :
    segments (tcptestFin link buf t stack).2 =
      [ackAt link.mynum 0] := by
  apply congrArg (fun s => [s])
  exact segmentOf_packSegment (le_refl 32)

/-! A frame is taken as the answer to the SYN, as the end of the other side, or
not at all. -/

theorem tcpSend_synAck {buf : Mem} (hstatus : link.status = .synSend)
    (hbuf : AnswersSyn link.mynum buf) (len : Int) (stack : Mem) :
    ∃ seq, tcpSend link (.tcptest buf len stack) =
      ({ link with status := .establish, rmtnum := seq, mynum := link.mynum + 12 + 1 },
        [ackAt link.mynum 0,
          ackAt link.mynum 12,
          finAt (link.mynum + 12)]) := by
  have hexec : tcpExec link (.tcptest buf len stack) = _ := tcptest_synAck hstatus hbuf
  rw [tcpSend, hexec, segments_tcptestSynAck]
  exact ⟨_, rfl⟩

theorem tcpSend_fin {buf : Mem} (hstatus : link.status = .establish)
    (hbuf : AnswersFin link.mynum buf) (len : Int) (stack : Mem) :
    ∃ seq, tcpSend link (.tcptest buf len stack) =
      ({ link with rmtnum := seq },
        [ackAt link.mynum 0]) := by
  have hexec : (tcptest link buf len stack).2 = _ := tcptest_establish hbuf.1 hstatus len
  simp only [if_pos hbuf] at hexec
  have hsegments (addr : Nat) (n : Int) :
      segments ((tcptestFin link buf (14 + Ip4hdr.headLen buf 14 * 4) stack).2 ++
        [.getmessage addr n]) = _ := segments_tcptestFin
  rw [tcpSend, tcpExec, hexec, hsegments]
  exact ⟨_, rfl⟩

theorem tcpSend_refused {buf : Mem} {len : Int}
    (hsyn : ¬ (link.status = .synSend ∧ AnswersSyn link.mynum buf))
    (hfin : ¬ (link.status = .establish ∧ AnswersFin link.mynum buf)) :
    tcpSend link (.tcptest buf len stack) = (link, []) := by
  obtain ⟨log, hexec, hlog⟩ := tcptest_refused hsyn hfin len stack
  have hsegments : segments log = [] := filterMap_delivered (fun _ _ => rfl) hlog
  rw [tcpSend, tcpExec, hexec, hsegments]

end Sends

/-! ## Runs -/

/-- The next segment starts where the ones before it end. -/
def seqMonitor : Monitor UInt32 Segment where
  observe := fun next s => next + UInt32.ofNat s.space
  allowed := fun next s => s.seq = next

theorem after_seqMonitor (next : UInt32) (sent : List Segment) :
    seqMonitor.after next sent = next + UInt32.ofNat (sent.map Segment.space).sum := by
  induction sent generalizing next with
  | nil => simp [Monitor.after]
  | cons s sent ih =>
      have hcons : seqMonitor.after next (s :: sent) =
          seqMonitor.after (next + UInt32.ofNat s.space) sent := rfl
      rw [hcons, ih, List.map_cons, List.sum_cons, UInt32.ofNat_add, UInt32.add_assoc]

theorem accepts_single {next last : UInt32} {s : Segment} {n : Nat} (hseq : s.seq = next)
    (hspace : s.space = n) (hlast : last = next + UInt32.ofNat n) :
    seqMonitor.Accepts next [s] ∧ last = seqMonitor.after next [s] := by
  subst hspace
  exact ⟨⟨hseq, trivial⟩, hlast⟩

/-- The acknowledgement takes no sequence space, the greeting twelve and the FIN one. -/
theorem accepts_synAck (num : UInt32) :
    seqMonitor.Accepts num [ackAt num 0, ackAt num 12, finAt (num + 12)] ∧
      num + 12 + 1 = seqMonitor.after num [ackAt num 0, ackAt num 12, finAt (num + 12)] := by
  have hempty : num + UInt32.ofNat 0 = num := UInt32.add_zero num
  constructor
  · refine ⟨rfl, ?_, ?_, trivial⟩
    · simp only [seqMonitor, space_ackAt, hempty]
      rfl
    · simp only [seqMonitor, space_ackAt, hempty]
      rfl
  · simp only [Monitor.after, List.foldl_cons, List.foldl_nil, seqMonitor, space_ackAt,
      space_finAt, hempty]
    rfl

/-- Each call sends from `mynum` on and leaves `mynum` at the end of what it sent. -/
theorem accepts_tcpSend (link : TcpLink) (c : TcpCall) :
    seqMonitor.Accepts link.mynum (tcpSend link c).2 ∧
      (tcpSend link c).1.mynum = seqMonitor.after link.mynum (tcpSend link c).2 := by
  cases c with
  | firstStep stack =>
      have hsend : (tcpSend link (.firstStep stack)).2 = _ := segments_sendSyn link stack
      rw [hsend]
      exact accepts_single rfl (space_synAt _) rfl
  | myconnect sock stack =>
      have hsend : (tcpSend link (.myconnect sock stack)).2 = _ := segments_sendSyn link stack
      rw [hsend]
      exact accepts_single rfl (space_synAt _) rfl
  | mysendtcp buf num stack =>
      have hsend : (tcpSend link (.mysendtcp buf num stack)).2 = _ :=
        segments_mysendtcp link buf num stack
      rw [hsend]
      exact accepts_single rfl (space_ackAt _ 12) rfl
  | closesocket socket stack =>
      have hsend : (tcpSend link (.closesocket socket stack)).2 = _ :=
        segments_closesocket link socket stack
      rw [hsend]
      exact accepts_single rfl (space_finAt _) rfl
  | tcptest buf len stack =>
      by_cases hsyn : link.status = .synSend ∧ AnswersSyn link.mynum buf
      · obtain ⟨seq, hsend⟩ := tcpSend_synAck hsyn.1 hsyn.2 len stack
        rw [hsend]
        exact accepts_synAck link.mynum
      · by_cases hfin : link.status = .establish ∧ AnswersFin link.mynum buf
        · obtain ⟨seq, hsend⟩ := tcpSend_fin hfin.1 hfin.2 len stack
          rw [hsend]
          exact accepts_single rfl (space_ackAt _ 0) (UInt32.add_zero _).symm
        · rw [tcpSend_refused hsyn hfin]
          exact ⟨trivial, rfl⟩

/-- In every run after `tcp_initial` each segment has the initial number plus the
sequence space of all segments before it, and so has `mynum` in the end. -/
theorem sequence_numbers (calls : List TcpCall) :
    (∀ before s rest, Monitor.trace tcpSend tcpInitial calls = before ++ s :: rest →
      s.seq = tcpInitial.mynum + UInt32.ofNat (before.map Segment.space).sum) ∧
    (Monitor.final tcpSend tcpInitial calls).mynum = tcpInitial.mynum +
      UInt32.ofNat ((Monitor.trace tcpSend tcpInitial calls).map Segment.space).sum := by
  have hstep (link : TcpLink) (next : UInt32) (c : TcpCall) (h : link.mynum = next) :
      seqMonitor.Accepts next (tcpSend link c).2 ∧
        (tcpSend link c).1.mynum = seqMonitor.after next (tcpSend link c).2 := by
    rw [← h]
    exact accepts_tcpSend link c
  obtain ⟨haccepts, hend⟩ := seqMonitor.accepts_trace hstep (rfl : tcpInitial.mynum = _) calls
  constructor
  · intro before s rest htrace
    rw [htrace, seqMonitor.accepts_append, after_seqMonitor] at haccepts
    exact haccepts.2.1
  · rw [hend, after_seqMonitor]

/-! ## The client session -/

/-- What the client sends after its SYN with number `isn`. -/
def clientReplies (isn : UInt32) : List Incoming → List Segment
  | [] => []
  | f :: frames =>
      if AnswersSyn (isn + 1) f.buf then
        [ackAt (isn + 1) 0, ackAt (isn + 1) 12, finAt (isn + 13)] ++
          (frames.filter fun g => AnswersFin (isn + 14) g.buf).map fun _ => ackAt (isn + 14) 0
      else clientReplies isn frames

theorem trace_established {link : TcpLink} (hstatus : link.status = .establish)
    (frames : List Incoming) :
    Monitor.trace tcpSend link (frames.map Incoming.call) =
      (frames.filter fun f => AnswersFin link.mynum f.buf).map fun _ => ackAt link.mynum 0 := by
  induction frames generalizing link with
  | nil => rfl
  | cons f frames ih =>
      have hsyn : ¬ (link.status = .synSend ∧ AnswersSyn link.mynum f.buf) := by
        rw [hstatus]
        intro h
        cases h.1
      rw [List.map_cons, Monitor.trace, Incoming.call]
      by_cases hanswers : AnswersFin link.mynum f.buf
      · obtain ⟨seq, hsend⟩ := tcpSend_fin hstatus hanswers f.len f.stack
        have hrest : Monitor.trace tcpSend { link with rmtnum := seq }
            (frames.map Incoming.call) = _ := ih hstatus
        rw [hsend, List.filter_cons_of_pos (by simpa using hanswers)]
        exact congrArg (List.cons _) hrest
      · rw [tcpSend_refused hsyn (fun h => hanswers h.2), ih hstatus,
          List.filter_cons_of_neg (by simpa using hanswers)]
        rfl

theorem trace_synSend {link : TcpLink} {isn : UInt32} (hstatus : link.status = .synSend)
    (hnum : link.mynum = isn + 1) (frames : List Incoming) :
    Monitor.trace tcpSend link (frames.map Incoming.call) = clientReplies isn frames := by
  induction frames with
  | nil => rfl
  | cons f frames ih =>
      have hfin : ¬ (link.status = .establish ∧ AnswersFin link.mynum f.buf) := by
        rw [hstatus]
        intro h
        cases h.1
      rw [List.map_cons, Monitor.trace, Incoming.call, clientReplies]
      by_cases hanswers : AnswersSyn (isn + 1) f.buf
      · have hdata : isn + 1 + 12 = isn + 13 := UInt32.add_assoc isn 1 12
        have hclosed : isn + 13 + 1 = isn + 14 := UInt32.add_assoc isn 13 1
        obtain ⟨seq, hsend⟩ :=
          tcpSend_synAck hstatus (hnum ▸ hanswers) f.len f.stack
        rw [hsend, trace_established rfl, if_pos hanswers]
        simp only [hnum, hdata, hclosed]
      · rw [tcpSend_refused (fun h => hanswers (hnum ▸ h.2)) hfin, ih, if_neg hanswers]
        rfl

/-- Whatever frames come in, the client sends its SYN, then nothing up to the
first SYN-ACK for it, then acknowledgement, greeting and FIN, and from then on
one acknowledgement for each FIN that acknowledges its own. -/
theorem client_pattern (stack : Mem) (frames : List Incoming) :
    Monitor.trace tcpSend tcpInitial (session stack frames) =
      synAt tcpInitial.mynum :: clientReplies tcpInitial.mynum frames := by
  have hfirst : tcpSend tcpInitial (.firstStep stack) =
      ((sendSyn tcpInitial stack).1, [synAt tcpInitial.mynum]) :=
    congrArg (Prod.mk _) (segments_sendSyn tcpInitial stack)
  rw [session, Monitor.trace, hfirst]
  exact congrArg (List.cons _) (trace_synSend rfl rfl frames)

end VpnRouter
