import VpnRouter.Message
import VpnRouter.TcpSequence
import Mathlib.Data.List.ReduceOption

/-!
# Requests over the message queue

`mtsyscal` of `tcp.c` with the clients that send to it.  A request is a message
of type 1 whose first four bytes are the operation.  When a receive fails the
loop only prints an error and goes on with the message it already has, so the
last request is carried out again (`requests_served`), and once the queue is
removed that never ends (`removed_queue_floods`).
-/

namespace VpnRouter.Syscall

open Lib Lib.Memory Lib.Transition Message

/-! ## The source functions -/

/-- `((int *)msg.buffer)[0]`. -/
def opOf (msg : MsgType) : UInt32 := get32 (overlay msg.buffer.toList fun _ => 0) 0

def constructsocket (_link : TcpLink) : Int × TcpLink := (-1, tcpInitial)

/-- The switch of the loop; the cases 3, 4 and 5 do nothing. -/
def switchOp (link : TcpLink) (op : UInt32) (stack : Mem) : TcpLink × List TcpEvent :=
  if op = 1 then ((constructsocket link).2, [])
  else if op = 2 then (myconnect link 1 stack).2
  else (link, [])

/-- What `msgrcv` does in a round: the message, or an error. -/
structure Round where
  got : Option MsgType
  stack : Mem

/-- A round of the loop.  After an error `msg` is what it was. -/
def loopRound (s : TcpLink × MsgType) (r : Round) : (TcpLink × MsgType) × List TcpEvent :=
  let msg := r.got.getD s.2
  let out := switchOp s.1 (opOf msg) r.stack
  ((out.1, msg), out.2)

variable {σ : Type*} (K : MsgQueue σ)

/-- `msgrcv` of type 1; `none` is a call that waits.  It fails when the queue is
removed, and when a signal interrupts it. -/
def msgrcv (queue : Option σ) (interrupted : Bool) : Option (Option MsgType × Option σ) :=
  match queue with
  | none => some (none, none)
  | some q =>
      if interrupted then some (none, some q)
      else (K.take q 1).map fun r => (some r.1, some r.2)

/-- The queue (`none` once it is removed), `mylink` and the local `msg`, with the
messages sent, the rounds of the loop and what they did. -/
structure Service (σ : Type*) where
  queue : Option σ
  link : TcpLink
  msg : MsgType
  sent : List MsgType
  rounds : List Round
  log : List TcpEvent

def start (q : σ) (link : TcpLink) (msg : MsgType) : Service σ where
  queue := some q
  link := link
  msg := msg
  sent := []
  rounds := []
  log := []

inductive Act
  | send (msg : MsgType)
  /-- `msgctl` with `IPC_RMID`. -/
  | remove
  | round (interrupted : Bool) (stack : Mem)

def Service.after (s : Service σ) (queue : Option σ) (r : Round) : Service σ :=
  let out := loopRound (s.link, s.msg) r
  { s with
    queue := queue
    link := out.1.1
    msg := out.1.2
    rounds := s.rounds ++ [r]
    log := s.log ++ out.2 }

/-- A step of the service or of any client. -/
inductive Step (s : Service σ) : Act → Service σ → Prop
  | send {msg : MsgType} {q q' : σ} : s.queue = some q → K.put q msg = some q' →
      Step s (.send msg) { s with queue := some q', sent := s.sent ++ [msg] }
  | remove : s.queue.isSome → Step s .remove { s with queue := none }
  | round {interrupted : Bool} {got : Option MsgType} {queue : Option σ} (stack : Mem) :
      msgrcv K s.queue interrupted = some (got, queue) →
      Step s (.round interrupted stack) (s.after queue { got := got, stack := stack })

/-! ## What the service should do -/

/-- The operations that the rounds carry out. -/
def carried : MsgType → List (Option MsgType) → List UInt32
  | _, [] => []
  | msg, got :: rest => opOf (got.getD msg) :: carried (got.getD msg) rest

/-- The SYNs of a list of operations: a connect sends one, a socket starts over. -/
def syns : UInt32 → List UInt32 → List Segment
  | _, [] => []
  | num, op :: ops =>
      if op = 1 then syns tcpInitial.mynum ops
      else if op = 2 then synAt num :: syns (num + 1) ops
      else syns num ops

/-- `n` SYNs with consecutive numbers. -/
def synsFrom (num : UInt32) (n : Nat) : List Segment :=
  (List.range n).map fun i => synAt (num + UInt32.ofNat i)

/-- The messages that the loop receives. -/
def requests (msgs : List MsgType) : List MsgType := msgs.filter fun m => m.mtype = 1

theorem carried_all {msg : MsgType} {gots : List (Option MsgType)}
    (h : ∀ got ∈ gots, got.isSome) : carried msg gots = gots.reduceOption.map opOf := by
  induction gots generalizing msg with
  | nil => rfl
  | cons got gots ih =>
      obtain ⟨hgot, hrest⟩ := List.forall_mem_cons.mp h
      obtain ⟨m, rfl⟩ := Option.isSome_iff_exists.mp hgot
      rw [carried, List.reduceOption_cons_of_some, List.map_cons, ih hrest]
      rfl

theorem syns_connect (num : UInt32) (n : Nat) :
    syns num (List.replicate n 2) = synsFrom num n := by
  induction n generalizing num with
  | zero => rfl
  | succ n ih =>
      have hone : ¬ (2 : UInt32) = 1 := by decide
      rw [List.replicate_succ, syns, if_neg hone, if_pos rfl, ih, synsFrom, synsFrom,
        List.range_succ_eq_map, List.map_cons, List.map_map]
      have hzero : num + UInt32.ofNat 0 = num := UInt32.add_zero num
      rw [hzero]
      congr 1
      apply List.map_congr_left
      intro i _
      have hsucc : UInt32.ofNat (i + 1) = 1 + UInt32.ofNat i := by
        rw [Nat.add_comm, UInt32.ofNat_add]
        rfl
      rw [Function.comp_apply, hsucc, UInt32.add_assoc]

/-! ## The service does it -/

/-- One round sends what the operation asks for and leaves the number to go on
from. -/
theorem segments_switchOp (link : TcpLink) (op : UInt32) (stack : Mem) (ops : List UInt32) :
    segments (switchOp link op stack).2 ++ syns (switchOp link op stack).1.mynum ops =
      syns link.mynum (op :: ops) := by
  rw [syns]
  unfold switchOp
  split
  · rfl
  · split
    · have hsyn : segments (myconnect link 1 stack).2.2 = _ := segments_sendSyn link stack
      rw [hsyn]
      rfl
    · rfl

theorem segments_loop (s : TcpLink × MsgType) (rounds : List Round) :
    segments (Monitor.trace loopRound s rounds) =
      syns s.1.mynum (carried s.2 (rounds.map Round.got)) := by
  induction rounds generalizing s with
  | nil => rfl
  | cons r rounds ih =>
      rw [Monitor.trace, segments_append, ih, List.map_cons, carried]
      exact segments_switchOp s.1 (opOf (r.got.getD s.2)) r.stack _

/-- The messages taken and the requests still in the queue are the requests sent;
once the queue is gone only the former count. -/
structure Served (link : TcpLink) (msg : MsgType) (s : Service σ) : Prop where
  balance : match s.queue with
    | some q => requests s.sent = (s.rounds.map Round.got).reduceOption ++ K.ofTag q 1
    | none => (s.rounds.map Round.got).reduceOption <+: requests s.sent
  log : s.log = Monitor.trace loopRound (link, msg) s.rounds
  state : (s.link, s.msg) = Monitor.final loopRound (link, msg) s.rounds

section Runs

variable {K} {link : TcpLink} {msg : MsgType} {s t : Service σ} {a : Act} {as : List Act}

theorem requests_append (msgs : List MsgType) (m : MsgType) :
    requests (msgs ++ [m]) = requests msgs ++ requests [m] := List.filter_append ..

theorem ofTag_sent {q q' : σ} {m : MsgType} (h : K.put q m = some q') :
    K.ofTag q' 1 = K.ofTag q 1 ++ requests [m] := by
  rw [Mailbox.ofTag, K.contents_put h, List.filter_append]
  rfl

theorem served_start {q : σ} (h : K.ofTag q 1 = []) : Served K link msg (start q link msg) where
  balance := h.symm
  log := rfl
  state := rfl

theorem gots_append (rounds : List Round) (r : Round) :
    ((rounds ++ [r]).map Round.got).reduceOption =
      (rounds.map Round.got).reduceOption ++ r.got.toList := by
  rw [List.map_append, List.reduceOption_append, List.map_singleton, List.reduceOption_singleton]

theorem served_round {interrupted : Bool} {got : Option MsgType} {queue : Option σ} {stack : Mem}
    (h : Served K link msg s) (hgot : msgrcv K s.queue interrupted = some (got, queue)) :
    Served K link msg (s.after queue { got := got, stack := stack }) := by
  have hbalance := h.balance
  constructor
  · simp only [Service.after, gots_append]
    cases hqueue : s.queue with
    | none =>
        simp only [hqueue, msgrcv, Option.some.injEq, Prod.mk.injEq] at hgot hbalance
        obtain ⟨rfl, rfl⟩ := hgot
        simpa using hbalance
    | some q =>
        simp only [hqueue, msgrcv] at hgot hbalance
        split at hgot
        · simp only [Option.some.injEq, Prod.mk.injEq] at hgot
          obtain ⟨rfl, rfl⟩ := hgot
          simpa using hbalance
        · obtain ⟨⟨m, q'⟩, htake, hr⟩ := Option.map_eq_some_iff.mp hgot
          simp only [Prod.mk.injEq] at hr
          obtain ⟨rfl, rfl⟩ := hr
          simp only [Option.toList_some]
          rw [hbalance, K.ofTag_take htake, List.append_assoc, List.singleton_append]
  · simp only [Service.after]
    rw [Monitor.trace_append, ← h.state, h.log, Monitor.trace, Monitor.trace, List.append_nil]
  · simp only [Service.after]
    rw [Monitor.final_append, ← h.state]
    rfl

theorem served_step (h : Served K link msg s) (hstep : Step K s a t) : Served K link msg t := by
  cases hstep with
  | @send m q q' hqueue hput =>
      refine ⟨?_, h.log, h.state⟩
      have hbalance := h.balance
      simp only [hqueue] at hbalance
      simp only [requests_append]
      rw [hbalance, ofTag_sent hput, List.append_assoc]
  | remove hqueue =>
      obtain ⟨q, hq⟩ := Option.isSome_iff_exists.mp hqueue
      refine ⟨?_, h.log, h.state⟩
      have hbalance := h.balance
      simp only [hq] at hbalance
      simp only [hbalance]
      exact List.prefix_append _ _
  | round stack hgot => exact served_round h hgot

theorem served_of_run {q : σ} (h₀ : K.ofTag q 1 = [])
    (hrun : Run (Step K) (start q link msg) as s) : Served K link msg s :=
  hrun.invariant (fun _ _ _ h hstep => served_step h hstep) (served_start h₀)

/-- Whatever the clients send and whenever: the requests taken come first among
those sent, the SYNs are those of the operations carried out, and these are the
requests themselves, in order and each once, as long as no receive fails. -/
theorem requests_served {q : σ} (h₀ : K.ofTag q 1 = [])
    (hrun : Run (Step K) (start q link msg) as s) :
    (s.rounds.map Round.got).reduceOption <+: requests s.sent ∧
      segments s.log = syns link.mynum (carried msg (s.rounds.map Round.got)) ∧
      ((∀ r ∈ s.rounds, r.got.isSome) →
        carried msg (s.rounds.map Round.got) <+: (requests s.sent).map opOf) := by
  have h := served_of_run h₀ hrun
  have hfirst : (s.rounds.map Round.got).reduceOption <+: requests s.sent := by
    have hbalance := h.balance
    cases hqueue : s.queue with
    | none =>
        simp only [hqueue] at hbalance
        exact hbalance
    | some q =>
        simp only [hqueue] at hbalance
        rw [hbalance]
        exact List.prefix_append _ _
  refine ⟨hfirst, by rw [h.log, segments_loop], fun hall => ?_⟩
  rw [carried_all (by simpa using hall)]
  exact hfirst.map opOf

/-! ## After the queue is removed -/

def Act.isRound : Act → Bool
  | .round _ _ => true
  | _ => false

/-- Once the queue is gone every round carries out the operation of the last
message again. -/
theorem rounds_of_removed (hgone : s.queue = none) (hrun : Run (Step K) s as t) :
    segments t.log = segments s.log ++
      syns s.link.mynum (List.replicate (as.countP Act.isRound) (opOf s.msg)) := by
  induction hrun with
  | nil s => exact (List.append_nil _).symm
  | cons hstep _ ih =>
      cases hstep with
      | send hqueue _ =>
          rw [hgone] at hqueue
          cases hqueue
      | remove hqueue =>
          rw [hgone] at hqueue
          cases hqueue
      | round stack hgot =>
          rw [hgone] at hgot
          simp only [msgrcv, Option.some.injEq, Prod.mk.injEq] at hgot
          obtain ⟨rfl, rfl⟩ := hgot
          rw [ih rfl, List.countP_cons_of_pos rfl, List.replicate_succ,
            ← segments_switchOp _ _ stack, ← List.append_assoc, ← segments_append]
          rfl

theorem exists_rounds (hgone : s.queue = none) (stack : Mem) (n : Nat) :
    ∃ t, Run (Step K) s (List.replicate n (.round false stack)) t := by
  induction n generalizing s with
  | zero => exact ⟨s, .nil s⟩
  | succ n ih =>
      have hgot : msgrcv K s.queue false = some (none, none) := by
        rw [hgone]
        rfl
      obtain ⟨t, hrun⟩ := ih (s := s.after none { got := none, stack := stack }) rfl
      exact ⟨t, .cons (.round stack hgot) hrun⟩

/-- After a connect and the removal of the queue the loop never waits again, and
every further round sends another SYN. -/
theorem removed_queue_floods (hgone : s.queue = none) (hconnect : opOf s.msg = 2) :
    (∀ n stack, ∃ t, Run (Step K) s (List.replicate n (.round false stack)) t) ∧
      ∀ as t, Run (Step K) s as t →
        segments t.log = segments s.log ++
          synsFrom s.link.mynum (as.countP Act.isRound) := by
  constructor
  · intro n stack
    exact exists_rounds hgone stack n
  · intro as t hrun
    rw [rounds_of_removed hgone hrun, hconnect, syns_connect]

end Runs

/-! ## The client of `mytest.c` -/

/-- The message of `mytest.c` over what its local variable held before. -/
def request (stack : Vector UInt8 MESSAGE_BUFFER) (op : UInt32) : MsgType where
  mtype := 1
  buffer := Vector.ofFn fun i => put32 (overlay stack.toList fun _ => 0) 0 op i

def messages (as : List Act) : List MsgType :=
  as.filterMap fun
    | .send m => some m
    | _ => none

/-- A socket, a connect, and the removal of the queue. -/
def mytest (stack stack1 : Vector UInt8 MESSAGE_BUFFER) : List Act :=
  [.send (request stack 1), .send (request stack1 2), .remove]

theorem opOf_request (stack : Vector UInt8 MESSAGE_BUFFER) (op : UInt32) :
    opOf (request stack op) = op := by
  have hbytes : get32 (overlay (request stack op).buffer.toList fun _ => 0) 0 =
      get32 (put32 (overlay stack.toList fun _ => 0) 0 op) 0 := by
    apply get32_congr
    intro i hi
    have hlt : i < MESSAGE_BUFFER := Nat.lt_trans hi (by decide)
    rw [Nat.zero_add, overlay_apply (by simpa using hlt)]
    simp [request, hlt]
  rw [opOf, hbytes, get32_put32_same]

/-! A round carries out a message it took, or the one it began with. -/

theorem mem_carried {msg : MsgType} {gots : List (Option MsgType)} {op : UInt32}
    (h : op ∈ carried msg gots) : op = opOf msg ∨ ∃ m ∈ gots.reduceOption, op = opOf m := by
  induction gots generalizing msg with
  | nil => cases h
  | cons got gots ih =>
      rw [carried, List.mem_cons] at h
      cases got with
      | none =>
          rw [List.reduceOption_cons_of_none]
          rcases h with rfl | hrest
          · exact .inl rfl
          · exact ih hrest
      | some m =>
          rw [List.reduceOption_cons_of_some]
          right
          rcases h with rfl | hrest
          · exact ⟨m, List.mem_cons_self, rfl⟩
          · rcases ih hrest with rfl | ⟨m', hm', rfl⟩
            · exact ⟨m, List.mem_cons_self, rfl⟩
            · exact ⟨m', List.mem_cons_of_mem m hm', rfl⟩

theorem connect_of_syns {num : UInt32} {ops : List UInt32} (h : syns num ops ≠ []) : 2 ∈ ops := by
  induction ops generalizing num with
  | nil => exact absurd rfl h
  | cons op ops ih =>
      rw [syns] at h
      split at h
      · exact List.mem_cons_of_mem op (ih h)
      · split at h
        · rename_i hop
          exact hop ▸ List.mem_cons_self
        · exact List.mem_cons_of_mem op (ih h)

theorem msg_final (s : TcpLink × MsgType) (rounds : List Round) :
    (Monitor.final loopRound s rounds).2 =
      (rounds.map Round.got).reduceOption.getLastD s.2 := by
  induction rounds generalizing s with
  | nil => rfl
  | cons r rounds ih =>
      rw [Monitor.final_cons, ih, List.map_cons]
      cases hgot : r.got with
      | none =>
          rw [List.reduceOption_cons_of_none, loopRound, hgot]
          rfl
      | some m =>
          rw [List.reduceOption_cons_of_some, List.getLastD_cons, loopRound, hgot]
          rfl

section Mytest

variable {K} {link : TcpLink} {msg : MsgType} {s t : Service σ} {as : List Act}
  {stack stack1 : Vector UInt8 MESSAGE_BUFFER}

/-- What a run owes to its clients: the messages, and the end of the queue. -/
theorem clients_of_run (hrun : Run (Step K) s as t) :
    t.sent = s.sent ++ messages (as.filter fun a => !a.isRound) ∧
      (s.queue = none ∨ .remove ∈ as.filter (fun a => !a.isRound) → t.queue = none) := by
  induction hrun with
  | nil s =>
      refine ⟨(List.append_nil _).symm, ?_⟩
      rintro (hgone | hmem)
      · exact hgone
      · cases hmem
  | @cons s u t a as hstep _ ih =>
      obtain ⟨hsent, hqueue⟩ := ih
      cases hstep with
      | @send m q q' hsome _ =>
          rw [List.filter_cons_of_pos (by rfl), messages, List.filterMap_cons]
          refine ⟨by rw [hsent, List.append_assoc]; rfl, ?_⟩
          rintro (hgone | hmem)
          · rw [hgone] at hsome
            cases hsome
          · rcases List.mem_cons.mp hmem with hne | hlater
            · cases hne
            · exact hqueue (.inr hlater)
      | remove _ =>
          rw [List.filter_cons_of_pos (by rfl)]
          exact ⟨hsent, fun _ => hqueue (.inl rfl)⟩
      | round stack hgot =>
          rw [List.filter_cons_of_neg (by simp [Act.isRound])]
          refine ⟨hsent, ?_⟩
          rintro (hgone | hmem)
          · rw [hgone] at hgot
            obtain ⟨-, hnone⟩ := Prod.mk.inj (Option.some.inj hgot)
            exact hqueue (.inl hnone.symm)
          · exact hqueue (.inr hmem)

/-- A run of `mytest.c` that made the service connect leaves it with the connect as
its last message, and the queue is gone. -/
theorem connect_left {q : σ} (h₀ : K.ofTag q 1 = []) (hmsg : opOf msg ≠ 2)
    (hrun : Run (Step K) (start q link msg) as s)
    (hclient : as.filter (fun a => !a.isRound) = mytest stack stack1)
    (hsyn : segments s.log ≠ []) : s.queue = none ∧ opOf s.msg = 2 := by
  obtain ⟨hsent, hqueue⟩ := clients_of_run hrun
  rw [hclient] at hsent hqueue
  refine ⟨hqueue (.inr (by simp [mytest])), ?_⟩
  have h := served_of_run h₀ hrun
  have htaken : (s.rounds.map Round.got).reduceOption <+: [request stack 1, request stack1 2] := by
    have hbalance := h.balance
    rw [hqueue (.inr (by simp [mytest])), hsent] at hbalance
    exact hbalance
  rw [h.log, segments_loop] at hsyn
  have hlast : s.msg = (s.rounds.map Round.got).reduceOption.getLastD msg := by
    rw [← msg_final (link, msg), ← h.state]
  rcases mem_carried (connect_of_syns hsyn) with hop | ⟨m, hm, hop⟩
  · exact absurd hop.symm hmsg
  · rcases List.prefix_cons_iff.mp htaken with hnil | ⟨rest, hrest, hfirst⟩
    · rw [hnil] at hm
      cases hm
    · rcases List.prefix_cons_iff.mp hfirst with rfl | ⟨last, rfl, hnil⟩
      · rw [hrest, List.mem_singleton] at hm
        rw [hm, opOf_request] at hop
        exact absurd hop (by decide)
      · rw [hlast, hrest, List.prefix_nil.mp hnil]
        exact opOf_request stack1 2

/-- After a run of `mytest.c` that got its SYN sent, the SYNs never stop: there is
one more for every further round. -/
theorem mytest_floods {q : σ} (h₀ : K.ofTag q 1 = []) (hmsg : opOf msg ≠ 2)
    (hrun : Run (Step K) (start q link msg) as s)
    (hclient : as.filter (fun a => !a.isRound) = mytest stack stack1)
    (hsyn : segments s.log ≠ []) :
    (∀ n stack, ∃ t, Run (Step K) s (List.replicate n (.round false stack)) t) ∧
      ∀ bs t, Run (Step K) s bs t →
        segments t.log = segments s.log ++
          synsFrom s.link.mynum (bs.countP Act.isRound) := by
  obtain ⟨hgone, hconnect⟩ := connect_left h₀ hmsg hrun hclient hsyn
  exact removed_queue_floods hgone hconnect

end Mytest

/-! Both requests are served before the queue goes. -/

def served : List Act :=
  [.send (request freshStack 1), .round false fun _ => 0, .send (request freshStack 2),
    .round false fun _ => 0, .remove]

def fresh : Service (List MsgType) := start [] tcpInitial (request freshStack 0)

theorem served_run : ∃ s, Run (Step freshQueue) fresh served s ∧
    s.rounds.map Round.got = [some (request freshStack 1), some (request freshStack 2)] :=
  ⟨_, .cons (.send rfl rfl) (.cons (.round _ rfl) (.cons (.send rfl rfl)
    (.cons (.round _ rfl) (.cons (.remove rfl) (.nil _))))), rfl⟩

theorem both_requests_served :
    ∃ s, Run (Step freshQueue) fresh served s ∧
      (s.rounds.map Round.got).reduceOption <+: requests s.sent ∧
      segments s.log = syns tcpInitial.mynum
        (carried (request freshStack 0) (s.rounds.map Round.got)) ∧
      ((∀ r ∈ s.rounds, r.got.isSome) →
        carried (request freshStack 0) (s.rounds.map Round.got) <+:
          (requests s.sent).map opOf) := by
  obtain ⟨s, hrun, -⟩ := served_run
  exact ⟨s, hrun, requests_served rfl hrun⟩

theorem served_floods :
    ∃ s, Run (Step freshQueue) fresh served s ∧
      (∀ n stack, ∃ t, Run (Step freshQueue) s (List.replicate n (.round false stack)) t) ∧
      ∀ bs t, Run (Step freshQueue) s bs t →
        segments t.log = segments s.log ++
          synsFrom s.link.mynum (bs.countP Act.isRound) := by
  obtain ⟨s, hrun, hgots⟩ := served_run
  have hlog : segments s.log = syns tcpInitial.mynum [1, 2] := by
    have hcarried : carried (request freshStack 0) (s.rounds.map Round.got) = [1, 2] := by
      rw [hgots, carried, carried, carried, Option.getD_some, Option.getD_some, opOf_request,
        opOf_request]
    rw [(served_of_run rfl hrun).log, segments_loop, hcarried]
  refine ⟨s, hrun, mytest_floods rfl ?_ hrun rfl ?_⟩
  · rw [opOf_request]
    decide
  · rw [hlog]
    exact List.cons_ne_nil _ _

end VpnRouter.Syscall
