import VpnRouter.Lib.Monitor
import VpnRouter.Tcp

/-!
# Acknowledgement numbers

The law on the segments of a session: they acknowledge the SYN-ACK, their
acknowledgement numbers do not go back, and a FIN without payload is
acknowledged with the next number.  The three segments that answer a SYN-ACK
break it, so it holds as long as there is none to answer.
-/

namespace VpnRouter

open Lib Lib.Memory

/-- Serial-number order modulo 2^32. -/
def serialLe (a b : UInt32) : Prop := (b - a).toNat < 2 ^ 31

instance (a b : UInt32) : Decidable (serialLe a b) := inferInstanceAs (Decidable (_ < _))

/-- The sequence number of the SYN-ACK, the last acknowledgement number sent,
and the sequence number of a FIN that is being answered. -/
structure AckPast where
  accepted : Option UInt32
  last : Option UInt32
  fin : Option UInt32

def ackMonitor : Monitor AckPast TcpEvent where
  observe := fun past e =>
    match e with
    | .accept seq _ => { past with accepted := some seq }
    | .acceptFin seq payload => { past with fin := if payload = 0 then some seq else none }
    | .ipSedProcess p _ _ _ =>
        { past with last := if isAck p then some (ackOf p) else past.last, fin := none }
    | .getmessage _ _ => past
  allowed := fun past e =>
    match e with
    | .ipSedProcess p _ _ _ =>
        (∀ r, past.accepted = some r → serialLe (r + 1) (ackOf p)) ∧
          (isAck p = true → ∀ a, past.last = some a → serialLe a (ackOf p)) ∧
          ∀ f, past.fin = some f → ackOf p = f + 1
    | _ => True

def ackStart : AckPast := { accepted := none, last := none, fin := none }

structure Incoming where
  buf : Mem
  len : Int
  stack : Mem

def Incoming.call (f : Incoming) : TcpCall := .tcptest f.buf f.len f.stack

def session (stack : Mem) (frames : List Incoming) : List TcpCall :=
  .firstStep stack :: frames.map Incoming.call

theorem not_serialLe_pred (r : UInt32) : ¬ serialLe (r + 1) r := by
  have hone : (1 : UInt32).toNat = 1 := rfl
  have hlt := r.toNat_lt
  unfold serialLe
  rw [UInt32.toNat_sub, UInt32.toNat_add, hone]
  omega

/-- The greeting acknowledges one number less than the segment before it. -/
theorem synAck_breaks_law (past : AckPast) (link : TcpLink) (buf : Mem) (t : Nat) (stack : Mem) :
    ¬ ackMonitor.Accepts past (tcptestSynAck link buf t stack).2 := by
  obtain ⟨p, q, s, seq, hevents, -, -, hhello, -⟩ := tcptestSynAck_eq link buf t stack
  rw [hevents]
  intro h
  obtain ⟨-, -, hgreeting, -⟩ := h
  have hcovers := hgreeting.1 seq rfl
  rw [hhello.ack] at hcovers
  exact not_serialLe_pred seq hcovers

/-- While the SYN is unanswered the frames emit nothing. -/
theorem accepts_frames {link : TcpLink} (hstatus : link.status = .synSend) (past : AckPast)
    (frames : List Incoming) :
    ackMonitor.Accepts past (Monitor.trace tcpExec link (frames.map Incoming.call)) ↔
      ∀ f ∈ frames, ¬ AnswersSyn link.mynum f.buf := by
  induction frames with
  | nil => exact iff_of_true trivial fun f hf => absurd hf List.not_mem_nil
  | cons f frames ih =>
      rw [List.map_cons, Monitor.trace, Monitor.accepts_append, List.forall_mem_cons]
      by_cases hanswers : AnswersSyn link.mynum f.buf
      · have hexec : tcpExec link f.call = _ := tcptest_synAck hstatus hanswers
        apply iff_of_false
        · intro h
          rw [hexec] at h
          exact synAck_breaks_law _ _ _ _ _ h.1
        · intro h
          exact h.1 hanswers
      · have hexec : tcpExec link f.call = (link, []) :=
          tcptest_ignored (by rw [hstatus]; decide) fun h => hanswers h.2
        rw [hexec]
        exact and_congr (iff_of_true trivial hanswers) ih

/-- The acknowledgement numbers of a session obey the law exactly when no frame
of the session answers the SYN. -/
theorem ack_law_iff (stack : Mem) (frames : List Incoming) :
    ackMonitor.Accepts ackStart (Monitor.trace tcpExec tcpInitial (session stack frames)) ↔
      ∀ f ∈ frames, ¬ AnswersSyn (tcpInitial.mynum + 1) f.buf := by
  obtain ⟨p, hsyn, -⟩ := sendSyn_eq tcpInitial stack
  have hfirst :
      ackMonitor.Accepts ackStart [.ipSedProcess p tcpInitial.sip tcpInitial.dip .synSend] := by
    refine ⟨⟨?_, ?_, ?_⟩, trivial⟩
    · intro r hr
      cases hr
    · intro _ a ha
      cases ha
    · intro f hf
      cases hf
  have hexec : tcpExec tcpInitial (.firstStep stack) = sendSyn tcpInitial stack := rfl
  rw [session, Monitor.trace, hexec, hsyn, Monitor.accepts_append,
    and_iff_right hfirst]
  exact accepts_frames rfl _ frames

def synAckFrame : Mem :=
  let m := ipPack (fun _ => 0) 14 20 40 0 0 64 6 0x0201a8c0 0x0101a8c0
  tcpPack m 34 20 20 30000 49101 1000 (tcpInitial.mynum + 1) (TCP_SYN ||| TCP_ACK) 512 0
    0x0201a8c0 0x0101a8c0

theorem hello_goes_back :
    ¬ ackMonitor.Accepts ackStart (Monitor.trace tcpExec tcpInitial
      (session (fun _ => 0) [{ buf := synAckFrame, len := 54, stack := fun _ => 0 }])) := by
  have hanswers : AnswersSyn (tcpInitial.mynum + 1) synAckFrame := by decide
  intro h
  rw [session, Monitor.trace, Monitor.accepts_append] at h
  exact (accepts_frames rfl _ [_]).mp h.2 _ List.mem_cons_self hanswers

end VpnRouter
