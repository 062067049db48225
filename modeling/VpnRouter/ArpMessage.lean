import VpnRouter.ArpCache

/-!
# Frames of ARP messages

`arp_request` and `arp_reply` of `function_head.c`.  A request goes out with
twenty bytes that it never wrote (`arpRequest_eq_iff`), and a reply is put
together and not sent (`exchange_never_teaches`).
-/

namespace VpnRouter

open Lib.Memory ArpWait

def ETH_ARP : UInt16 := 0x0806

/-- The local frame of `arp_request` when it is passed to `sendto`. -/
def arpRequestFrame (addr : UInt32) (mac : Mac) (ip : UInt32) (buf : Mem) : Mem :=
  let m := fill buf 0 0xff 6
  let m := store m 6 mac.toList
  let m := put16 m 12 (htons ETH_ARP)
  let m := put16 m 14 (htons 1)
  let m := put16 m 16 (htons ETH_ARP)
  let m := put8 m 18 6
  let m := put8 m 19 4
  let m := put16 m 20 (htons ARP_REQUEST)
  let m := store m 22 mac.toList
  let m := put32 m 28 ip
  -- the length is `protocal_size`, not `hw_size`
  let m := fill m 32 0 (m 19).toNat
  put32 m 38 addr

/-- The card and the frame that `arp_request` sends; `stack` and `index` are what
its local variables hold before. -/
def arpRequest (devices : List DeviceItem) (addr : UInt32) (mac : Mac) (ip : UInt32)
    (stack : Mem) (index : Nat) : List (Nat × List UInt8) :=
  let buf := arpRequestFrame addr mac ip stack
  let index := (getnetcard devices addr).getD index
  [(index, load buf 0 60)]

/-- The local frame of `arp_reply` when it returns. -/
def arpReplyFrame (buff : Mem) (mac : Mac) (ip : UInt32) (sendBuf : Mem) : Mem :=
  let m := store sendBuf 6 mac.toList
  let m := store m 0 (load buff 6 6)
  let m := put16 m 12 (get16 buff 12)
  let m := put16 m 14 (htons 1)
  let m := put16 m 16 (htons ETH_ARP)
  let m := put8 m 18 6
  let m := put8 m 19 4
  let m := put16 m 20 (htons ARP_REPLY)
  let m := store m 22 mac.toList
  let m := put32 m 28 ip
  let m := store m 32 (load buff 22 6)
  put32 m 38 (get32 buff 28)

/-- The frame that `arp_reply` leaves in its local buffer, and the frames it
sends: there is no `sendto` in it. -/
def arpReply (buff : Mem) (_len : Int) (mac : Mac) (ip : UInt32) (sendBuf : Mem) :
    Mem × List (Nat × List UInt8) :=
  (arpReplyFrame buff mac ip sendBuf, [])

/-! ## What a request sends -/

/-- The writes of `arp_request`, in order. -/
def requestWrites (addr : UInt32) (mac : Mac) (ip : UInt32) : List (Nat × List UInt8) :=
  [(0, List.replicate 6 0xff), (6, mac.toList), (12, bytes16 (htons ETH_ARP)),
    (14, bytes16 (htons 1)), (16, bytes16 (htons ETH_ARP)), (18, [6]), (19, [4]),
    (20, bytes16 (htons ARP_REQUEST)), (22, mac.toList), (28, bytes32 ip),
    (32, List.replicate 4 0), (38, bytes32 addr)]

theorem arpRequestFrame_eq (addr : UInt32) (mac : Mac) (ip : UInt32) (buf : Mem) :
    arpRequestFrame addr mac ip buf = storeAll buf (requestWrites addr mac ip) := by
  simp (disch := simp) only [arpRequestFrame, put32_beside, store_outside, put16_beside, put8_same,
    fill_eq_store]
  rfl

/-- The last two bytes of the target MAC address and the padding. -/
def NeverWritten (i : Nat) : Prop := i = 36 ∨ i = 37 ∨ 42 ≤ i

theorem covers_requestWrites {addr : UInt32} {mac : Mac} {ip : UInt32} {i : Nat} :
    Covers (requestWrites addr mac ip) i ↔ ¬ NeverWritten i := by
  simp only [Covers, requestWrites, NeverWritten, List.exists_mem_cons_iff, List.length_replicate,
    Vector.length_toList, length_bytes16, length_bytes32, List.length_singleton,
    List.not_mem_nil, false_and, exists_false, or_false]
  omega

theorem arpRequestFrame_unwritten {addr : UInt32} {mac : Mac} {ip : UInt32} {buf : Mem} {i : Nat}
    (h : NeverWritten i) : arpRequestFrame addr mac ip buf i = buf i := by
  rw [arpRequestFrame_eq, storeAll_uncovered]
  rw [covers_requestWrites]
  exact not_not_intro h

theorem arpRequestFrame_congr {addr : UInt32} {mac : Mac} {ip : UInt32} {buf buf' : Mem} {i : Nat}
    (h : NeverWritten i → buf i = buf' i) :
    arpRequestFrame addr mac ip buf i = arpRequestFrame addr mac ip buf' i := by
  rw [arpRequestFrame_eq, arpRequestFrame_eq]
  apply storeAll_covered
  rw [covers_requestWrites]
  by_cases hi : NeverWritten i
  · exact .inl (h hi)
  · exact .inr hi

/-- Two requests are the same frame exactly when the stack held the same bytes
where nothing is written. -/
theorem arpRequest_eq_iff (devices : List DeviceItem) (addr : UInt32) (mac : Mac) (ip : UInt32)
    (stack stack' : Mem) (index : Nat) :
    arpRequest devices addr mac ip stack index = arpRequest devices addr mac ip stack' index ↔
      ∀ i, i < 60 → (i = 36 ∨ i = 37 ∨ 42 ≤ i) → stack i = stack' i := by
  have hframe : arpRequest devices addr mac ip stack index =
      arpRequest devices addr mac ip stack' index ↔
        load (arpRequestFrame addr mac ip stack) 0 60 =
          load (arpRequestFrame addr mac ip stack') 0 60 := by
    simp only [arpRequest, List.cons.injEq, Prod.mk.injEq, true_and, and_true]
  rw [hframe]
  constructor
  · intro h i hi hnever
    have hbyte := congrArg (fun bs => bs.getD i 0) h
    simp only [getD_load hi, Nat.zero_add] at hbyte
    rwa [arpRequestFrame_unwritten hnever, arpRequestFrame_unwritten hnever] at hbyte
  · intro h
    apply load_congr
    intro i hi
    rw [Nat.zero_add]
    exact arpRequestFrame_congr (h i hi)

/-- 192.168.1.2 is asked for from a stack of zeros and one of ones. -/
theorem stale_bytes_sent :
    ¬ ∀ (devices : List DeviceItem) (addr : UInt32) (mac : Mac) (ip : UInt32) (stack stack' : Mem)
      (index : Nat),
      arpRequest devices addr mac ip stack index = arpRequest devices addr mac ip stack' index := by
  intro h
  have hframes := h [] 0x0201a8c0 (macOf 0 12 41 97 26 218) 0x0101a8c0 (fun _ => 0) (fun _ => 1) 0
  revert hframes
  decide

/-! ## An exchange -/

/-- A request and the handling of it, with what the two sides find in their local
variables and the responder's receive buffer. -/
structure Exchange where
  requesterMac : Mac
  requesterIp : UInt32
  responderMac : Mac
  responderIp : UInt32
  devices : List DeviceItem
  stack : Mem
  index : Nat
  rest : Mem
  sendBuf : Mem

/-- Every `handle_arp` on the frame that returns has `mac` in the cache for `addr`
after it, where there was no entry and is room. -/
def Learns (frame : List UInt8) (addr : UInt32) (mac : Mac) : Prop :=
  ∀ (r r' : Router) (u : Undef) (rest stack : Mem) (length : Int) (fuel : Nat) (out : FlushRet),
    cachedMac r.arpTable addr = none → r.arpTable.length < MAX_ARP_SIZE →
      handleArp fuel r u (overlay frame rest) frame.length stack length = some (r', out) →
        cachedMac r'.arpTable addr = some mac

namespace Exchange

variable (x : Exchange)

def requests : List (Nat × List UInt8) :=
  arpRequest x.devices x.responderIp x.requesterMac x.requesterIp x.stack x.index

/-- The responder's `arp_reply` on a request. -/
def reply (request : List UInt8) : Mem × List (Nat × List UInt8) :=
  arpReply (overlay request x.rest) request.length x.responderMac x.responderIp x.sendBuf

def transmitted : List (Nat × List UInt8) :=
  x.requests.flatMap fun request => (x.reply request.2).2

/-- One frame comes back, to the requester's address, and it teaches the
requester the responder's. -/
def Teaches : Prop :=
  ∃ card frame, x.transmitted = [(card, frame)] ∧ frame.take 6 = x.requesterMac.toList ∧
    Learns frame x.responderIp x.responderMac

end Exchange

theorem arpRequestFrame_source {addr : UInt32} {mac : Mac} {ip : UInt32} {buf : Mem} :
    load (arpRequestFrame addr mac ip buf) 6 6 = mac.toList := by
  simp (disch := simp) only [arpRequestFrame, load_put32_beside, load_store_disjoint,
    load_put16_beside, load_put8_beside, fill_eq_store]
  simpa using load_store_same _ 6 mac.toList

section Reply

variable {buff sendBuf : Mem} {mac : Mac} {ip : UInt32}

theorem arpReplyFrame_dest : load (arpReplyFrame buff mac ip sendBuf) 0 6 = load buff 6 6 := by
  simp (disch := simp) only [arpReplyFrame, load_put32_beside, load_store_disjoint,
    load_put16_beside, load_put8_beside]
  exact load_store_same _ 0 (load buff 6 6)

theorem arpReplyFrame_op : ArpMsg.op (arpReplyFrame buff mac ip sendBuf) 14 = htons ARP_REPLY := by
  simp (disch := simp) only [ArpMsg.op, arpReplyFrame, get16_put32_beside, get16_store_disjoint,
    get16_put16_same]

theorem arpReplyFrame_srcIp : ArpMsg.srcIp (arpReplyFrame buff mac ip sendBuf) 14 = ip := by
  simp (disch := simp) only [ArpMsg.srcIp, arpReplyFrame, get32_put32_beside, get32_store_disjoint,
    get32_put32_same]

theorem arpReplyFrame_srcMac : ArpMsg.srcMac (arpReplyFrame buff mac ip sendBuf) 14 = mac := by
  have hload : load (arpReplyFrame buff mac ip sendBuf) 22 6 = mac.toList := by
    simp (disch := simp) only [arpReplyFrame, load_put32_beside, load_store_disjoint]
    simpa using load_store_same _ 22 mac.toList
  ext i hi : 1
  have hbyte := congrArg (fun bs => bs.getD i 0) hload
  simp only [getD_load hi] at hbyte
  simpa [ArpMsg.srcMac, hi] using hbyte

end Reply

theorem cachedMac_addArpItem {table : List ArpTableItem} {addr : UInt32} {mac : Mac}
    (h : cachedMac table addr = none) : cachedMac (addArpItem table addr mac) addr = some mac := by
  rw [cachedMac_eq] at h ⊢
  rw [addArpItem, List.find?_append, Option.map_or, h, Option.none_or, List.find?_singleton,
    beq_self_eq_true, if_pos rfl, Option.map_some]

/-- A reply that names `addr` and `mac` as its sender. -/
theorem learns_of_reply {m : Mem} {addr : UInt32} {mac : Mac}
    (hop : ArpMsg.op m 14 = htons ARP_REPLY) (hip : ArpMsg.srcIp m 14 = addr)
    (hmac : ArpMsg.srcMac m 14 = mac) : Learns (load m 0 60) addr mac := by
  intro r r' u rest stack length fuel out hnone _ hexec
  let buf := overlay (load m 0 60) rest
  have hbyte (i : Nat) (hi : i < 60) : buf i = m i := overlay_load hi
  have hop' : ArpMsg.op buf 14 = htons ARP_REPLY := by
    rw [← hop]
    exact get16_congr fun i hi => hbyte _ (by omega)
  have hip' : ArpMsg.srcIp buf 14 = addr := by
    rw [← hip]
    exact get32_congr fun i hi => hbyte _ (by omega)
  have hmac' : ArpMsg.srcMac buf 14 = mac := by
    rw [← hmac]
    ext i hi : 1
    simpa [ArpMsg.srcMac] using hbyte _ (by omega)
  let f : ArpReply :=
    { buf := buf, len := (load m 0 60).length, stack := stack, length := length,
      isReply := by rw [hop', htons_htons] }
  have hstep : ReplyStep u r f r' := ⟨fuel, out, hexec⟩
  rw [arpTable_of_replyStep hstep, ArpReply.addr, ArpReply.mac, hip', hmac']
  exact cachedMac_addArpItem hnone

namespace Exchange

variable (x : Exchange)

theorem request_source {request : Nat × List UInt8} (h : request ∈ x.requests) :
    load (overlay request.2 x.rest) 6 6 = x.requesterMac.toList := by
  rw [List.mem_singleton.mp h]
  calc
    load (overlay (load (arpRequestFrame x.responderIp x.requesterMac x.requesterIp x.stack) 0 60)
        x.rest) 6 6 =
        load (arpRequestFrame x.responderIp x.requesterMac x.requesterIp x.stack) 6 6 :=
      load_congr fun i hi => overlay_load (by omega)
    _ = x.requesterMac.toList := arpRequestFrame_source

/-- The frame that the responder builds and keeps is the answer the exchange
needs. -/
theorem reply_fits (request : Nat × List UInt8) (h : request ∈ x.requests) :
    let frame := load (x.reply request.2).1 0 60
    frame.take 6 = x.requesterMac.toList ∧ Learns frame x.responderIp x.responderMac := by
  intro frame
  refine ⟨?_, learns_of_reply arpReplyFrame_op arpReplyFrame_srcIp arpReplyFrame_srcMac⟩
  calc
    frame.take 6 = load (x.reply request.2).1 0 6 := take_load _ 0 (by decide)
    _ = load (overlay request.2 x.rest) 6 6 := arpReplyFrame_dest
    _ = x.requesterMac.toList := x.request_source h

theorem transmitted_eq_nil : x.transmitted = [] := by
  rw [transmitted, List.flatMap_eq_nil_iff]
  intro request _
  rfl

end Exchange

/-- The law fails for every requester and responder. -/
theorem exchange_never_teaches (x : Exchange) : ¬ x.Teaches := by
  rintro ⟨card, frame, hsent, -⟩
  rw [x.transmitted_eq_nil] at hsent
  cases hsent

/-- 192.168.1.1 asks for 192.168.1.2. -/
def firstExchange : Exchange where
  requesterMac := macOf 0 12 41 97 26 218
  requesterIp := 0x0101a8c0
  responderMac := macOf 0 12 41 175 66 55
  responderIp := 0x0201a8c0
  devices := []
  stack := fun _ => 0
  index := 0
  rest := fun _ => 0
  sendBuf := fun _ => 0

theorem firstExchange_unanswered : ¬ firstExchange.Teaches := by
  rintro ⟨card, frame, hsent, -⟩
  rw [firstExchange.transmitted_eq_nil] at hsent
  exact List.cons_ne_nil _ _ hsent.symm

end VpnRouter
