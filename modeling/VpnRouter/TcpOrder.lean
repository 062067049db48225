import VpnRouter.Lib.Monitor
import VpnRouter.Lib.Transition
import VpnRouter.Tcp

/-!
# The order of sends

The law on a connection: payload and FIN only after the handshake, and nothing
new after a FIN, which also ends `TCP_ESTABLISH`.  `mysendtcp` and `closesocket`
do not look at the status, and the branch that completes the handshake sends a
FIN and leaves the status as it is.
-/

namespace VpnRouter

open Lib Lib.Memory Lib.Transition

/-- The past since the last SYN: its sequence number, whether it was
acknowledged, whether a FIN went out, and the sequence numbers used since. -/
structure SendPast where
  syn : Option UInt32
  acked : Bool
  fin : Bool
  used : List UInt32

def needsConnection (p : List UInt8) : Bool := payloadLen p != 0 || isFin p

def orderMonitor : Monitor SendPast TcpEvent where
  observe := fun past e =>
    match e with
    | .accept _ ack => { past with acked := past.acked || past.syn == some (ack - 1) }
    | .ipSedProcess p _ _ _ =>
        if isSyn p then { syn := some (seqOf p), acked := false, fin := false, used := [] }
        else if needsConnection p then
          { past with fin := past.fin || isFin p, used := seqOf p :: past.used }
        else past
    | _ => past
  allowed := fun past e =>
    match e with
    | .ipSedProcess p _ _ status =>
        needsConnection p = true → past.acked = true ∧ status = .establish ∧
          (past.fin = true → seqOf p ∈ past.used)
    | _ => True

def orderStart : SendPast := { syn := none, acked := false, fin := false, used := [] }

def OrderStep : TcpLink × SendPast → TcpCall → TcpLink × SendPast → Prop :=
  orderMonitor.Watched tcpExec

/-- The law for one call: its events are allowed, and once a FIN went out the
status it leaves is not `TCP_ESTABLISH`. -/
def OrderLaw (s : TcpLink × SendPast) (c : TcpCall) : Prop :=
  orderMonitor.Accepts s.2 (tcpExec s.1 c).2 ∧
    ((orderMonitor.after s.2 (tcpExec s.1 c).2).fin = true →
      (tcpExec s.1 c).1.status ≠ .establish)

/-- The calls that keep the law: no send, no close, and no frame that completes
the handshake. -/
def OrderOk (s : TcpLink × SendPast) : TcpCall → Prop
  | .mysendtcp _ _ _ => False
  | .closesocket _ _ => False
  | .tcptest buf _ _ => ¬ (s.1.status = .synSend ∧ AnswersSyn s.1.mynum buf)
  | _ => True

/-! ## Each call -/

theorem law_syn (link : TcpLink) (past : SendPast) (stack : Mem) :
    orderMonitor.Accepts past (sendSyn link stack).2 ∧
      (orderMonitor.after past (sendSyn link stack).2).fin = false := by
  obtain ⟨p, hevents, hp⟩ := sendSyn_eq link stack
  have hsyn : isSyn p = true := by
    rw [hp.syn]
    decide
  have hneeds : ¬ needsConnection p = true := by
    rw [needsConnection, hp.payload, hp.fin]
    decide
  rw [hevents]
  refine ⟨⟨fun h => absurd h hneeds, trivial⟩, ?_⟩
  simp only [Monitor.after, List.foldl_cons, List.foldl_nil, orderMonitor, if_pos hsyn]

theorem not_accepts_send {past : SendPast} {p : List UInt8} {src dst : UInt32}
    {status : TcpStatus} {rest : List TcpEvent} (hneeds : needsConnection p = true)
    (hstatus : status ≠ .establish) :
    ¬ orderMonitor.Accepts past (.ipSedProcess p src dst status :: rest) := by
  intro h
  exact hstatus (h.1 hneeds).2.1

theorem not_law_mysendtcp {link : TcpLink} (hstatus : link.status ≠ .establish)
    (past : SendPast) (buf : Mem) (num : Int) (stack : Mem) :
    ¬ orderMonitor.Accepts past (mysendtcp link buf num stack).2 := by
  obtain ⟨p, hevents, hp⟩ := mysendtcp_eq link buf num stack
  rw [hevents]
  refine not_accepts_send ?_ hstatus
  rw [needsConnection, hp.payload]
  rfl

theorem not_law_closesocket {link : TcpLink} (hstatus : link.status ≠ .establish)
    (past : SendPast) (socket : Int) (stack : Mem) :
    ¬ orderMonitor.Accepts past (closesocket link socket stack).2.2 := by
  obtain ⟨p, hevents, hp⟩ := closesocket_eq link socket stack
  rw [hevents]
  refine not_accepts_send ?_ hstatus
  rw [needsConnection, hp.fin, hp.payload]
  decide

/-- The branch that completes the handshake ends with a FIN and in
`TCP_ESTABLISH`. -/
theorem fin_synAck (link : TcpLink) (past : SendPast) (buf : Mem) (t : Nat) (stack : Mem) :
    (orderMonitor.after past (tcptestSynAck link buf t stack).2).fin = true ∧
      (tcptestSynAck link buf t stack).1.status = .establish := by
  obtain ⟨p, q, s, seq, hevents, -, -, -, hs⟩ := tcptestSynAck_eq link buf t stack
  have hfin : isFin s = true := by
    rw [hs.fin]
    decide
  have hsyn : isSyn s = false := by
    rw [hs.syn]
    decide
  have hneeds : needsConnection s = true := by
    rw [needsConnection, hfin, Bool.or_true]
  rw [hevents]
  refine ⟨?_, rfl⟩
  simp only [Monitor.after, List.foldl_cons, List.foldl_nil, orderMonitor, hsyn, hneeds, hfin,
    Bool.false_eq_true, if_false, if_true, Bool.or_true]

/-! ## Runs -/

theorem orderLaw_iff {s : TcpLink × SendPast} (hstatus : s.1.status ≠ .establish) (c : TcpCall) :
    OrderLaw s c ↔ OrderOk s c := by
  obtain ⟨link, past⟩ := s
  have hopen (stack : Mem) : orderMonitor.Accepts past (sendSyn link stack).2 ∧
      ((orderMonitor.after past (sendSyn link stack).2).fin = true →
        (sendSyn link stack).1.status ≠ .establish) := by
    obtain ⟨haccepts, hfin⟩ := law_syn link past stack
    refine ⟨haccepts, fun h => ?_⟩
    rw [hfin] at h
    contradiction
  cases c with
  | firstStep stack => exact iff_of_true (hopen stack) trivial
  | myconnect sock stack => exact iff_of_true (hopen stack) trivial
  | mysendtcp buf num stack =>
      exact iff_of_false (fun h => not_law_mysendtcp hstatus past buf num stack h.1) id
  | closesocket socket stack =>
      exact iff_of_false (fun h => not_law_closesocket hstatus past socket stack h.1) id
  | tcptest buf len stack =>
      by_cases hanswers : link.status = .synSend ∧ AnswersSyn link.mynum buf
      · apply iff_of_false _ (not_not_intro hanswers)
        intro h
        obtain ⟨hfin, hestablish⟩ := fin_synAck link past buf
          (14 + Ip4hdr.headLen buf 14 * 4) stack
        have hexec : tcpExec link (.tcptest buf len stack) = _ :=
          tcptest_synAck hanswers.1 hanswers.2
        have hlaw := h.2
        rw [hexec] at hlaw
        exact hlaw hfin hestablish
      · have hexec : tcpExec link (.tcptest buf len stack) = (link, []) :=
          tcptest_ignored hstatus hanswers
        refine iff_of_true ?_ hanswers
        rw [OrderLaw, hexec]
        exact ⟨trivial, fun _ => hstatus⟩

theorem status_orderStep {s t : TcpLink × SendPast} {c : TcpCall}
    (hstatus : s.1.status ≠ .establish) (hok : OrderOk s c) (hstep : OrderStep s c t) :
    t.1.status ≠ .establish := by
  rw [hstep]
  cases c with
  | firstStep stack => exact TcpStatus.noConfusion
  | myconnect sock stack => exact TcpStatus.noConfusion
  | mysendtcp buf num stack => exact absurd hok id
  | closesocket socket stack => exact absurd hok id
  | tcptest buf len stack =>
      have hexec : tcpExec s.1 (.tcptest buf len stack) = (s.1, []) := tcptest_ignored hstatus hok
      rw [hexec]
      exact hstatus

/-- A run after `tcp_initial` obeys the law in each of its calls exactly when
each of them meets `OrderOk` in the state before it. -/
theorem order_law_iff (calls : List TcpCall) :
    Along OrderStep OrderLaw (tcpInitial, orderStart) calls ↔
      Along OrderStep OrderOk (tcpInitial, orderStart) calls :=
  along_congr (I := fun s => s.1.status ≠ .establish) (fun _ c h => orderLaw_iff h c)
    (fun _ _ _ h hok hstep => status_orderStep h hok hstep) (by decide) calls

/-- `mysendtcp` sends its payload right after `tcp_initial`. -/
theorem hello_without_connection :
    ¬ Along OrderStep OrderLaw (tcpInitial, orderStart)
      [.mysendtcp (fun _ => 0) 0 fun _ => 0] := by
  intro h
  exact not_law_mysendtcp (by decide) _ (fun _ => 0) 0 _ h.1.1

end VpnRouter
