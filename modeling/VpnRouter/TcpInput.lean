import VpnRouter.TcpAck

/-!
# What `tcptest` looks at

The addresses, the ports and the checksum of a frame are not looked at, so a
foreign segment counts like one of the connection (`foreign_ignored_iff`).  The
header behind the IP options is read without regard to the length of the frame,
so a short frame can be completed by what an earlier one left in the buffer
(`own_bytes_iff`).
-/

namespace VpnRouter

open Lib.Memory

/-! ## Foreign segments -/

/-- The checksum over pseudo-header and segment; it verifies when this is zero. -/
def segmentCksum (buf : Mem) : UInt16 :=
  let t := 14 + Ip4hdr.headLen buf 14 * 4
  let len := (htons (Ip4hdr.totalLen buf 14)).toNat - Ip4hdr.headLen buf 14 * 4
  inCksum (pesudoHdr buf t len (Ip4hdr.srcAddr buf 14) (Ip4hdr.dstAddr buf 14)) 0 (len + 12)

/-- A segment that is not of the connection, or corrupt. -/
def Foreign (link : TcpLink) (buf : Mem) : Prop :=
  Ip4hdr.srcAddr buf 14 ≠ link.dip ∨ Ip4hdr.dstAddr buf 14 ≠ link.sip ∨
    TcpHdr.srcPort buf (14 + Ip4hdr.headLen buf 14 * 4) ≠ htons (toU16 link.dport) ∨
    TcpHdr.dstPort buf (14 + Ip4hdr.headLen buf 14 * 4) ≠ htons (toU16 link.sport) ∨
    segmentCksum buf ≠ 0

/-- A segment or a delivery. -/
def TcpEvent.leaves : TcpEvent → Bool
  | .ipSedProcess _ _ _ _ => true
  | .getmessage _ _ => true
  | _ => false

def NoEffect (link : TcpLink) (buf : Mem) (len : Int) (stack : Mem) : Prop :=
  (tcptest link buf len stack).2.1 = link ∧
    ∀ e ∈ (tcptest link buf len stack).2.2, e.leaves = false

/-- A TCP frame that `tcptest` acts on: in `TCP_ESTABLISH` any. -/
def ActsOn (link : TcpLink) (buf : Mem) : Prop :=
  Ip4hdr.protocal buf 14 = IP_PROTOTCP ∧
    (link.status = .establish ∨ link.status = .synSend ∧ AnswersSyn link.mynum buf)

theorem noEffect_iff (link : TcpLink) (buf : Mem) (len : Int) (stack : Mem) :
    NoEffect link buf len stack ↔ ¬ ActsOn link buf := by
  constructor
  · intro h hacts
    obtain ⟨hproto, hstatus | ⟨hstatus, hanswers⟩⟩ := hacts
    · have hexec : (tcptest link buf len stack).2 = _ := tcptest_establish hproto hstatus len
      have hdelivered := h.2
      rw [hexec] at hdelivered
      have hlast := hdelivered _ (List.mem_append_right _ List.mem_cons_self)
      cases hlast
    · obtain ⟨p, q, s, seq, hevents, -⟩ :=
        tcptestSynAck_eq link buf (14 + Ip4hdr.headLen buf 14 * 4) stack
      have hsent := h.2
      rw [tcptest_synAck hstatus hanswers, hevents] at hsent
      have hack := hsent _ (List.mem_cons_of_mem _ List.mem_cons_self)
      cases hack
  · intro h
    have hnothing : (tcptest link buf len stack).2 = (link, []) := by
      by_cases hproto : Ip4hdr.protocal buf 14 = IP_PROTOTCP
      · exact tcptest_ignored (fun hstatus => h ⟨hproto, .inl hstatus⟩)
          fun hanswers => h ⟨hproto, .inr hanswers⟩
      · rw [tcptest, if_pos hproto]
    rw [NoEffect, hnothing]
    exact ⟨rfl, List.forall_mem_nil _⟩

/-- A foreign segment is without effect exactly when every segment would be. -/
theorem foreign_ignored_iff (link : TcpLink) (buf : Mem) (len : Int) (stack : Mem) :
    (Foreign link buf → NoEffect link buf len stack) ↔
      ¬ (Foreign link buf ∧ ActsOn link buf) := by
  rw [noEffect_iff, not_and]

/-- A SYN-ACK from 10.0.0.9, port 80. -/
def strayFrame : Mem :=
  let m := ipPack (fun _ => 0) 14 20 40 0 0 64 6 0x0900000a 0x0101a8c0
  tcpPack m 34 20 20 80 49101 1000 (tcpInitial.mynum + 1) (TCP_SYN ||| TCP_ACK) 512 0
    0x0900000a 0x0101a8c0

theorem stray_frame_accepted :
    ¬ ∀ link buf len stack, Foreign link buf → NoEffect link buf len stack := by
  intro h
  have hforeign : Foreign (sendSyn tcpInitial fun _ => 0).1 strayFrame := by
    left
    decide
  have hacts : ActsOn (sendSyn tcpInitial fun _ => 0).1 strayFrame :=
    ⟨by decide, .inr ⟨rfl, by decide⟩⟩
  exact (noEffect_iff _ strayFrame 54 fun _ => 0).mp (h _ _ _ _ hforeign) hacts

/-! ## Short frames -/

/-- A frame that `listen_packet` passes on. -/
structure Received where
  bytes : List UInt8
  lower : 42 ≤ bytes.length
  upper : bytes.length ≤ 2048

/-- The packets handed to `ip_sed_process`, with their addresses. -/
def packets (log : List TcpEvent) : List (List UInt8 × UInt32 × UInt32) :=
  log.filterMap fun
    | .ipSedProcess p src dst _ => some (p, src, dst)
    | _ => none

/-- `tcptest` on a frame of `n` bytes: the record it leaves and what it sends. -/
def tcpEffect (link : TcpLink) (buf : Mem) (n : Nat) (stack : Mem) :
    TcpLink × List (List UInt8 × UInt32 × UInt32) :=
  ((tcptest link buf n stack).2.1, packets (tcptest link buf n stack).2.2)

namespace Received

variable (f : Received)

/-- The receive buffer with the frame, and behind it what earlier frames left. -/
def mem (rest : Mem) : Mem := overlay f.bytes rest

def isTcp : Prop := f.bytes.getD 23 0 = IP_PROTOTCP

def tcpAt : Nat := 14 + (f.bytes.getD 14 0).toNat % 16 * 4

/-- A byte of the acknowledgement number is in the frame and is not that of `num`. -/
def deniesAck (num : UInt32) : Prop :=
  ∃ k < 4, f.tcpAt + 8 + k < f.bytes.length ∧
    f.bytes.getD (f.tcpAt + 8 + k) 0 ≠ (bytes32 (htonl num)).getD k 0

/-- What `tcptest` needs of the frame is in it: the header up to the flags, or
enough of the acknowledgement number to refuse it. -/
def Suffices (link : TcpLink) : Prop :=
  ¬ f.isTcp ∨ (link.status ≠ .synSend ∧ link.status ≠ .establish) ∨
    f.tcpAt + 14 ≤ f.bytes.length ∨ f.deniesAck link.mynum

variable {f} {rest : Mem} {link : TcpLink}

theorem mem_apply {x : Nat} (h : x < f.bytes.length) : f.mem rest x = f.bytes.getD x 0 :=
  overlay_apply h

theorem mem_beyond {x : Nat} (h : f.bytes.length ≤ x) : f.mem rest x = rest x :=
  store_outside (by omega)

theorem isTcp_mem : Ip4hdr.protocal (f.mem rest) 14 = IP_PROTOTCP ↔ f.isTcp := by
  rw [Ip4hdr.protocal, mem_apply (Nat.lt_of_lt_of_le (by decide) f.lower)]
  rfl

theorem headLen_mem : Ip4hdr.headLen (f.mem rest) 14 = (f.bytes.getD 14 0).toNat % 16 := by
  rw [Ip4hdr.headLen, mem_apply (Nat.lt_of_lt_of_le (by decide) f.lower)]

theorem tcpAt_mem : 14 + Ip4hdr.headLen (f.mem rest) 14 * 4 = f.tcpAt := by
  rw [headLen_mem, tcpAt]

end Received

/-- All that `tcptest` reads lies before the end of the flag byte. -/
theorem tcptest_congr {buf buf' : Mem}
    (h : ∀ x, x < 14 + Ip4hdr.headLen buf 14 * 4 + 14 → buf x = buf' x)
    (link : TcpLink) (len : Int) (stack : Mem) :
    tcptest link buf len stack = tcptest link buf' len stack := by
  have hhead : Ip4hdr.headLen buf' 14 = Ip4hdr.headLen buf 14 := by
    rw [Ip4hdr.headLen, Ip4hdr.headLen, h 14 (by omega)]
  have hproto : Ip4hdr.protocal buf' 14 = Ip4hdr.protocal buf 14 := (h 23 (by omega)).symm
  have htotal : Ip4hdr.totalLen buf' 14 = Ip4hdr.totalLen buf 14 :=
    get16_congr fun i hi => (h _ (by omega)).symm
  generalize ht : 14 + Ip4hdr.headLen buf 14 * 4 = t at h
  have hflags : TcpHdr.flags buf' t = TcpHdr.flags buf t := (h _ (by omega)).symm
  have hheadLen : TcpHdr.headLen buf' t = TcpHdr.headLen buf t := by
    rw [TcpHdr.headLen, TcpHdr.headLen, h (t + 12) (by omega)]
  have hseq : TcpHdr.sequenceNum buf' t = TcpHdr.sequenceNum buf t :=
    get32_congr fun i hi => (h _ (by omega)).symm
  have hack : TcpHdr.ackNum buf' t = TcpHdr.ackNum buf t :=
    get32_congr fun i hi => (h _ (by omega)).symm
  have hsrc : TcpHdr.srcPort buf' t = TcpHdr.srcPort buf t :=
    get16_congr fun i hi => (h _ (by omega)).symm
  have hdst : TcpHdr.dstPort buf' t = TcpHdr.dstPort buf t :=
    get16_congr fun i hi => (h _ (by omega)).symm
  simp only [tcptest, tcptestSynAck, tcptestFin, TcpHdr.syn, TcpHdr.ack, TcpHdr.fin, hhead, hproto,
    htotal, ht, hflags, hheadLen, hseq, hack, hsrc, hdst]

/-- The frames that `tcptest` answers. -/
def Answers (link : TcpLink) (buf : Mem) : Prop :=
  (link.status = .synSend ∧ AnswersSyn link.mynum buf) ∨
    (link.status = .establish ∧ AnswersFin link.mynum buf)

theorem tcpEffect_refused {link : TcpLink} {buf : Mem} (h : ¬ Answers link buf) (n : Nat)
    (stack : Mem) : tcpEffect link buf n stack = (link, []) := by
  obtain ⟨hsyn, hfin⟩ := not_or.mp h
  obtain ⟨log, hexec, hlog⟩ := tcptest_refused hsyn hfin n stack
  have hpackets : packets log = [] := filterMap_delivered (fun _ _ => rfl) hlog
  rw [tcpEffect, hexec, hpackets]

theorem tcpEffect_answered {link : TcpLink} {buf : Mem} (h : Answers link buf) (n : Nat)
    (stack : Mem) : (tcpEffect link buf n stack).2 ≠ [] := by
  obtain ⟨hstatus, hbuf⟩ | ⟨hstatus, hbuf⟩ := h
  · rw [tcpEffect, tcptest_synAck hstatus hbuf]
    exact List.cons_ne_nil _ _
  · rw [tcpEffect, tcptest_establish hbuf.1 hstatus]
    simp only [if_pos hbuf]
    exact List.cons_ne_nil _ _

namespace Received

variable {f : Received} {rest : Mem} {link : TcpLink}

theorem ackNum_ne_of_deniesAck {num : UInt32} (h : f.deniesAck num) :
    htonl (TcpHdr.ackNum (f.mem rest) f.tcpAt) ≠ num := by
  obtain ⟨k, hk, hin, hne⟩ := h
  intro hnum
  have hload : load (f.mem rest) (f.tcpAt + 8) 4 = bytes32 (htonl num) := by
    apply load_of_get32
    rw [← hnum, htonl_htonl]
    rfl
  apply hne
  rw [← hload, getD_load hk, mem_apply hin]

/-- What an earlier frame must have left behind to complete this one. -/
def completion (f : Received) (num : UInt32) : Mem :=
  put8 (put32 (fun _ => 0) (f.tcpAt + 8) (htonl num)) (f.tcpAt + 13) 0x13

theorem ackNum_completion {num : UInt32} (h : ¬ f.deniesAck num) :
    htonl (TcpHdr.ackNum (f.mem (f.completion num)) f.tcpAt) = num := by
  have hload : load (f.mem (f.completion num)) (f.tcpAt + 8) (bytes32 (htonl num)).length =
      bytes32 (htonl num) := by
    rw [load_eq_iff]
    intro k hk
    rw [length_bytes32] at hk
    by_cases hin : f.tcpAt + 8 + k < f.bytes.length
    · rw [mem_apply hin]
      by_contra hne
      exact h ⟨k, hk, hin, hne⟩
    · rw [mem_beyond (by omega), completion, put8_beside (by omega), put32,
        store_inside (by rw [length_bytes32]; omega), Nat.add_sub_cancel_left]
  rw [TcpHdr.ackNum, get32_of_load hload, htonl_htonl]

theorem flags_completion {num : UInt32} (h : f.bytes.length < f.tcpAt + 14) :
    TcpHdr.flags (f.mem (f.completion num)) f.tcpAt = 0x13 := by
  rw [TcpHdr.flags, mem_beyond (by omega), completion, put8_same]

theorem answers_mem : Answers link (f.mem rest) ↔
    f.isTcp ∧ (link.status = .synSend ∧ TcpHdr.syn (f.mem rest) f.tcpAt = true ∨
      link.status = .establish ∧ TcpHdr.fin (f.mem rest) f.tcpAt = true) ∧
      TcpHdr.ack (f.mem rest) f.tcpAt = true ∧
      htonl (TcpHdr.ackNum (f.mem rest) f.tcpAt) = link.mynum := by
  simp only [Answers, AnswersSyn, AnswersFin, tcpAt_mem, isTcp_mem]
  tauto

/-! A frame that does not suffice is answered behind one rest of the buffer, and
not behind another. -/

theorem answers_completion (h : ¬ f.Suffices link) :
    Answers link (f.mem (f.completion link.mynum)) := by
  simp only [Suffices, not_or, not_not, not_and_or, Nat.not_le] at h
  obtain ⟨hproto, hstatus, hshort, hdeny⟩ := h
  have hflags : TcpHdr.flags (f.mem (f.completion link.mynum)) f.tcpAt = 0x13 :=
    flags_completion (by omega)
  rw [answers_mem, TcpHdr.syn, TcpHdr.fin, TcpHdr.ack, hflags]
  refine ⟨hproto, ?_, by decide, ackNum_completion hdeny⟩
  obtain hs | hs := hstatus
  · exact .inl ⟨hs, by decide⟩
  · exact .inr ⟨hs, by decide⟩

theorem not_answers_cleared (h : ¬ f.Suffices link) : ¬ Answers link (f.mem fun _ => 0) := by
  have hshort : ¬ f.tcpAt + 14 ≤ f.bytes.length := fun hlong => h (.inr (.inr (.inl hlong)))
  have hflags : TcpHdr.ack (f.mem fun _ => 0) f.tcpAt = false := by
    rw [TcpHdr.ack, TcpHdr.flags, mem_beyond (by omega)]
    rfl
  intro hanswers
  have hack := (answers_mem.mp hanswers).2.2.1
  rw [hflags] at hack
  cases hack

theorem not_own_bytes (h : ¬ f.Suffices link) (stack : Mem) :
    tcpEffect link (f.mem (f.completion link.mynum)) f.bytes.length stack ≠
      tcpEffect link (f.mem fun _ => 0) f.bytes.length stack := by
  intro heq
  apply tcpEffect_answered (answers_completion h) f.bytes.length stack
  rw [heq, tcpEffect_refused (not_answers_cleared h)]

/-- A frame that suffices without its whole header is refused behind every rest. -/
theorem not_answers_of_suffices (h : f.Suffices link) (hshort : ¬ f.tcpAt + 14 ≤ f.bytes.length)
    (rest : Mem) : ¬ Answers link (f.mem rest) := by
  intro hanswers
  obtain ⟨hproto, hstatus, -, hnum⟩ := answers_mem.mp hanswers
  obtain hno | hno | hlong | hdeny := h
  · exact hno hproto
  · obtain hs | hs := hstatus
    · exact hno.1 hs.1
    · exact hno.2 hs.1
  · exact hshort hlong
  · exact ackNum_ne_of_deniesAck hdeny hnum

theorem own_bytes (h : f.Suffices link) (rest rest' stack : Mem) :
    tcpEffect link (f.mem rest) f.bytes.length stack =
      tcpEffect link (f.mem rest') f.bytes.length stack := by
  by_cases hlong : f.tcpAt + 14 ≤ f.bytes.length
  · have hcongr : tcptest link (f.mem rest) f.bytes.length stack =
        tcptest link (f.mem rest') f.bytes.length stack := by
      apply tcptest_congr
      intro x hx
      rw [tcpAt_mem] at hx
      rw [mem_apply (by omega), mem_apply (by omega)]
    rw [tcpEffect, tcpEffect, hcongr]
  · rw [tcpEffect_refused (not_answers_of_suffices h hlong rest),
      tcpEffect_refused (not_answers_of_suffices h hlong rest')]

end Received

/-- A frame is interpreted from its own bytes only exactly when they suffice. -/
theorem own_bytes_iff (link : TcpLink) (f : Received) :
    (∀ rest rest' stack, tcpEffect link (f.mem rest) f.bytes.length stack =
        tcpEffect link (f.mem rest') f.bytes.length stack) ↔ f.Suffices link := by
  constructor
  · intro h
    by_contra hno
    exact Received.not_own_bytes hno (fun _ => 0) (h _ _ fun _ => 0)
  · intro h rest rest' stack
    exact Received.own_bytes h rest rest' stack

/-- The first 42 bytes of a SYN-ACK, which end within the TCP header. -/
def shortFrame : Received where
  bytes := load synAckFrame 0 42
  lower := by rw [length_load]
  upper := by
    rw [length_load]
    decide

theorem short_frame_completed :
    ¬ ∀ (link : TcpLink) (f : Received) (rest rest' stack : Mem),
      tcpEffect link (f.mem rest) f.bytes.length stack =
        tcpEffect link (f.mem rest') f.bytes.length stack := by
  have hshort : ¬ shortFrame.Suffices (sendSyn tcpInitial fun _ => 0).1 := by
    rintro (hproto | hstatus | hlong | ⟨k, hk, hin, -⟩)
    · exact hproto (by unfold Received.isTcp; decide)
    · exact hstatus.1 rfl
    · revert hlong
      decide
    · have hat : shortFrame.tcpAt = 34 := by decide
      have hlen : shortFrame.bytes.length = 42 := length_load _ _ _
      omega
  intro h
  exact Received.not_own_bytes hshort (fun _ => 0) (h _ _ _ _ _)

end VpnRouter
