import VpnRouter.Data
import VpnRouter.Lib.Mailbox
import VpnRouter.Lib.Transition

/-!
# Messages of the System V queue

`msg_send` and `msg_recv` of `message.c`.  A message is a `struct msgtype` with
256 bytes and no length: `msg_send` copies `len` bytes into it and sends all of
it, `msg_recv` copies all 256 bytes out and leaves `*len` alone.  The queue
itself is the kernel's; here it is any mailbox of tagged messages.
-/

namespace VpnRouter.Message

open Lib Lib.Memory Lib.Transition

/-! ## The source functions -/

def MESSAGE_BUFFER : Nat := 256

structure MsgType where
  mtype : Int
  buffer : Vector UInt8 MESSAGE_BUFFER

/-- The queue of `msgid`, with `msgsnd` and `msgrcv` of a positive type as its two
operations. -/
abbrev MsgQueue (σ : Type*) := Mailbox σ MsgType Int MsgType.mtype

/-- The local `msg` of `msg_send` as it is sent; `stack` is what its buffer held
before. -/
def filled (stack : Vector UInt8 MESSAGE_BUFFER) (buf : Mem) (len : Int) : MsgType where
  mtype := 1
  buffer := Vector.ofFn fun i => if i.val < sizeT len then buf i else stack[i]

structure RecvRet (σ : Type*) where
  ret : Int
  buf : Mem
  len : Int
  queue : σ

variable {σ : Type*} (K : MsgQueue σ)

def msgSend (q : σ) (stack : Vector UInt8 MESSAGE_BUFFER) (buf : Mem) (len : Int) : Int × σ :=
  match K.put q (filled stack buf len) with
  | none => (0, q)
  | some q' => (0, q')

def msgRecv (q : σ) (buf : Mem) (len : Int) : RecvRet σ :=
  -- neither branch of the source assigns `*len`
  match K.take q 1 with
  | none => { ret := 0, buf := buf, len := len, queue := q }
  | some (msg, q') =>
      { ret := 0, buf := store buf 0 msg.buffer.toList, len := len, queue := q' }

/-! ## What one call does -/

variable {K}

theorem take_filled (stack : Vector UInt8 MESSAGE_BUFFER) (buf : Mem)
    (len : Fin (MESSAGE_BUFFER + 1)) :
    (filled stack buf len.val).buffer.toList.take len = load buf 0 len := by
  have hlen : len.val ≤ MESSAGE_BUFFER := Nat.le_of_lt_succ len.isLt
  have hsize : sizeT (len.val : Int) = len.val :=
    sizeT_natCast (Nat.lt_of_le_of_lt hlen (by decide))
  apply List.ext_getElem
  · rw [List.length_take, Vector.length_toList, length_load, Nat.min_eq_left hlen]
  · intro i hi _
    have hilen : i < len.val := by
      rw [List.length_take] at hi
      omega
    simp [filled, hsize, hilen]

theorem ofTag_msgSend {q : σ} {stack : Vector UInt8 MESSAGE_BUFFER} {buf : Mem} {len : Int}
    (h : (K.put q (filled stack buf len)).isSome) :
    K.ofTag (msgSend K q stack buf len).2 1 = K.ofTag q 1 ++ [filled stack buf len] := by
  obtain ⟨q', hq'⟩ := Option.isSome_iff_exists.mp h
  rw [msgSend, hq']
  exact K.ofTag_put hq'

theorem msgRecv_len (q : σ) (buf : Mem) (len : Int) : (msgRecv K q buf len).len = len := by
  unfold msgRecv
  cases K.take q 1 with
  | none => rfl
  | some r => rfl

theorem ofTag_msgRecv {q : σ} (h : (K.take q 1).isSome) (buf : Mem) (len : Int) :
    ∃ msg, K.ofTag q 1 = msg :: K.ofTag (msgRecv K q buf len).queue 1 ∧
      load (msgRecv K q buf len).buf 0 MESSAGE_BUFFER = msg.buffer.toList := by
  obtain ⟨⟨msg, q'⟩, hq'⟩ := Option.isSome_iff_exists.mp h
  refine ⟨msg, ?_, ?_⟩
  · rw [msgRecv, hq']
    exact K.ofTag_take hq'
  · rw [msgRecv, hq']
    simpa using load_store_same buf 0 msg.buffer.toList

/-! ## Runs -/

/-- A call with its arguments: `stack` is the uninitialised local of the sender,
and the `len` of a receive is what `*len` holds when it is called. -/
inductive MsgCall
  | send (stack : Vector UInt8 MESSAGE_BUFFER) (buf : Mem) (len : Fin (MESSAGE_BUFFER + 1))
  | recv (buf : Mem) (len : Int)

structure Sent where
  stack : Vector UInt8 MESSAGE_BUFFER
  buf : Mem
  len : Fin (MESSAGE_BUFFER + 1)

/-- A receive that returned: `*len` before it, the caller's buffer and `*len`
after it. -/
structure Received where
  had : Int
  buf : Mem
  len : Int

structure History (σ : Type*) where
  queue : σ
  sent : List Sent
  received : List Received

def start (q : σ) : History σ where
  queue := q
  sent := []
  received := []

def Sent.bytes (m : Sent) : List UInt8 := (filled m.stack m.buf m.len.val).buffer.toList

def Received.bytes (r : Received) : List UInt8 := load r.buf 0 MESSAGE_BUFFER

variable (K)

def receipt (q : σ) (buf : Mem) (len : Int) : Received where
  had := len
  buf := (msgRecv K q buf len).buf
  len := (msgRecv K q buf len).len

/-- A call the queue lets through.  With flag 0 a send waits for room and a
receive for a message of its type, so what it cannot do now is no step. -/
def CallStep (s : History σ) : MsgCall → History σ → Prop
  | .send stack buf len, s' =>
      (K.put s.queue (filled stack buf len.val)).isSome ∧
        s' = { s with
          queue := (msgSend K s.queue stack buf len.val).2
          sent := s.sent ++ [{ stack := stack, buf := buf, len := len }] }
  | .recv buf len, s' =>
      (K.take s.queue 1).isSome ∧
        s' = { s with
          queue := (msgRecv K s.queue buf len).queue
          received := s.received ++ [receipt K s.queue buf len] }

/-- The messages received and then the messages in the queue are the messages
sent, and no receive touched `*len`. -/
structure Delivered (s : History σ) : Prop where
  order : s.sent.map Sent.bytes =
    s.received.map Received.bytes ++ (K.ofTag s.queue 1).map fun msg => msg.buffer.toList
  kept : ∀ r ∈ s.received, r.len = r.had

variable {K}

theorem delivered_start {q : σ} (h : K.ofTag q 1 = []) : Delivered K (start q) where
  order := by simp [start, h]
  kept := by simp [start]

theorem delivered_step {s s' : History σ} {c : MsgCall} (hs : Delivered K s)
    (h : CallStep K s c s') : Delivered K s' := by
  cases c with
  | send stack buf len =>
      obtain ⟨hroom, rfl⟩ := h
      refine ⟨?_, hs.kept⟩
      simp only [ofTag_msgSend hroom, List.map_append, hs.order, List.append_assoc]
      rfl
  | recv buf len =>
      obtain ⟨hmsg, rfl⟩ := h
      obtain ⟨msg, hqueue, hbuf⟩ := ofTag_msgRecv hmsg buf len
      have hread : (receipt K s.queue buf len).bytes = msg.buffer.toList := hbuf
      constructor
      · rw [hs.order, hqueue]
        simp [hread]
      · intro r hr
        rcases List.mem_append.mp hr with hr | hr
        · exact hs.kept r hr
        · rw [List.mem_singleton.mp hr]
          exact msgRecv_len _ _ _

theorem delivered_run {q : σ} {calls : List MsgCall} {s : History σ} (h₀ : K.ofTag q 1 = [])
    (hrun : Run (CallStep K) (start q) calls s) : Delivered K s :=
  hrun.invariant (fun _ _ _ hs h => delivered_step hs h) (delivered_start h₀)

/-! ## What a receive returns -/

/-- As long as fewer messages were received than sent, a receive returns. -/
theorem recv_returns {q : σ} {calls : List MsgCall} {s : History σ} (h₀ : K.ofTag q 1 = [])
    (hrun : Run (CallStep K) (start q) calls s) (hlt : s.received.length < s.sent.length)
    (buf : Mem) (len : Int) : ∃ s', CallStep K s (.recv buf len) s' := by
  have horder := congrArg List.length (delivered_run h₀ hrun).order
  simp only [List.length_map, List.length_append] at horder
  have hwaiting : K.ofTag s.queue 1 ≠ [] := by
    intro hnil
    rw [hnil, List.length_nil] at horder
    omega
  exact ⟨_, K.take_isSome_of_ofTag hwaiting, rfl⟩

/-- The `k`-th receive gets the bytes of the `k`-th message, and `*len` as it was. -/
theorem received_of_sent {q : σ} {calls : List MsgCall} {s : History σ} (h₀ : K.ofTag q 1 = [])
    (hrun : Run (CallStep K) (start q) calls s) {k : Nat} {r : Received}
    (hr : s.received[k]? = some r) :
    ∃ m, s.sent[k]? = some m ∧ load r.buf 0 m.len = load m.buf 0 m.len ∧ r.len = r.had := by
  have hs := delivered_run h₀ hrun
  have hk : k < (s.received.map Received.bytes).length := by
    rw [List.length_map]
    exact (List.getElem?_eq_some_iff.mp hr).1
  have hbytes := congrArg (fun l => l[k]?) hs.order
  simp only [List.getElem?_append_left hk, List.getElem?_map, hr, Option.map_some] at hbytes
  obtain ⟨m, hm, hmr⟩ := Option.map_eq_some_iff.mp hbytes
  refine ⟨m, hm, ?_, hs.kept r (List.mem_of_getElem? hr)⟩
  calc
    load r.buf 0 m.len = r.bytes.take m.len :=
      (take_load r.buf 0 (Nat.le_of_lt_succ m.len.isLt)).symm
    _ = m.bytes.take m.len := by rw [hmr]
    _ = load m.buf 0 m.len := take_filled m.stack m.buf m.len

/-- The receiver has the length and the bytes of the message. -/
def Survives (m : Sent) (r : Received) : Prop :=
  r.len = m.len.val ∧ load r.buf 0 m.len = load m.buf 0 m.len

/-- Over a queue with nothing left of type 1, every message received has its own
length and bytes exactly when every `*len` held that length already. -/
theorem messages_survive_iff {q : σ} {calls : List MsgCall} {s : History σ}
    (h₀ : K.ofTag q 1 = []) (hrun : Run (CallStep K) (start q) calls s) :
    (∀ (k : Nat) (r : Received), s.received[k]? = some r →
        ∃ m, s.sent[k]? = some m ∧ Survives m r) ↔
      ∀ (k : Nat) (m : Sent) (r : Received), s.sent[k]? = some m → s.received[k]? = some r →
        r.had = m.len.val := by
  constructor
  · intro h k m r hm hr
    obtain ⟨m', hm', hlen, -⟩ := h k r hr
    obtain ⟨-, -, -, hkept⟩ := received_of_sent h₀ hrun hr
    rw [← hkept, hlen, Option.some.inj (hm.symm.trans hm')]
  · intro h k r hr
    obtain ⟨m, hm, hbytes, hkept⟩ := received_of_sent h₀ hrun hr
    exact ⟨m, hm, by rw [hkept, h k m r hm hr], hbytes⟩

def freshStack : Vector UInt8 MESSAGE_BUFFER := Vector.replicate MESSAGE_BUFFER 0

def freshQueue : MsgQueue (List MsgType) := Mailbox.unbounded MsgType.mtype

/-- Two messages, each received with `*len` at its length. -/
theorem known_lengths_survive :
    ∃ s, Run (CallStep freshQueue) (start [])
        [.send freshStack (fun _ => 7) 4, .send freshStack (fun _ => 9) 2,
          .recv (fun _ => 0) 4, .recv (fun _ => 0) 2] s ∧
      ∀ (k : Nat) (r : Received), s.received[k]? = some r →
        ∃ m, s.sent[k]? = some m ∧ Survives m r := by
  have hrun : ∃ s, Run (CallStep freshQueue) (start [])
      [.send freshStack (fun _ => 7) 4, .send freshStack (fun _ => 9) 2,
        .recv (fun _ => 0) 4, .recv (fun _ => 0) 2] s ∧
      s.sent.map (fun m => (m.len.val : Int)) = [4, 2] ∧ s.received.map Received.had = [4, 2] :=
    ⟨_, .cons ⟨rfl, rfl⟩ (.cons ⟨rfl, rfl⟩ (.cons ⟨rfl, rfl⟩ (.cons ⟨rfl, rfl⟩ (.nil _)))),
      rfl, rfl⟩
  obtain ⟨s, hrun, hsent, hreceived⟩ := hrun
  refine ⟨s, hrun, (messages_survive_iff rfl hrun).mpr ?_⟩
  intro k m r hm hr
  have hlen := congrArg (fun l => l[k]?) hsent
  have hhad := congrArg (fun l => l[k]?) hreceived
  simp only [List.getElem?_map, hm, hr, Option.map_some] at hlen hhad
  exact Option.some.inj (hhad.trans hlen.symm)

/-- Four bytes sent and received; the receiver's `*len` was 0 and stays 0. -/
theorem length_not_returned :
    ∃ s, Run (CallStep freshQueue) (start [])
        [.send freshStack (fun _ => 7) 4, .recv (fun _ => 0) 0] s ∧
      ¬ ∀ (k : Nat) (r : Received), s.received[k]? = some r →
        ∃ m, s.sent[k]? = some m ∧ Survives m r := by
  refine ⟨_, .cons ⟨rfl, rfl⟩ (.cons ⟨rfl, rfl⟩ (.nil _)), fun h => ?_⟩
  obtain ⟨m, hm, hlen, -⟩ := h 0 _ rfl
  obtain rfl := Option.some.inj hm
  exact absurd hlen (by decide)

end VpnRouter.Message
