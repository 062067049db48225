import VpnRouter.Program
import VpnRouter.RingLock

/-!
# Writes to the buffers

The cells of the ring and the handler's buffer have 8096 bytes each and are
written by `memcpy` with the length that `recvfrom` returned.  The one other write
is the zero byte behind a message.  `tcptest` takes the length of the frame for
that of the packet, so a message ends 14 bytes behind its frame; in every run this
is the last place of the buffer that is written.
-/

namespace VpnRouter

open Lib Lib.Memory

/-! ## One frame -/

/-- The messages of `tcptest` end 14 bytes behind what it takes for the frame. -/
theorem message_end {link : TcpLink} {buf stack : Mem} {len n : Int} {addr : Nat}
    (h : .getmessage addr n ∈ (tcptest link buf len stack).2.2) : addr + n = len + 14 := by
  by_cases hproto : Ip4hdr.protocal buf 14 = IP_PROTOTCP
  · by_cases hestablish : link.status = .establish
    · rw [tcptest_establish hproto hestablish len] at h
      have hlast : TcpEvent.getmessage addr n = .getmessage
          (14 + Ip4hdr.headLen buf 14 * 4 +
            TcpHdr.headLen buf (14 + Ip4hdr.headLen buf 14 * 4) * 4)
          (len - Ip4hdr.headLen buf 14 * 4 -
            TcpHdr.headLen buf (14 + Ip4hdr.headLen buf 14 * 4) * 4) := by
        rcases List.mem_append.mp h with hfin | hlast
        · split at hfin
          · simp [tcptestFin, sendPacket] at hfin
          · cases hfin
        · exact List.mem_singleton.mp hlast
      obtain ⟨rfl, rfl⟩ := TcpEvent.getmessage.inj hlast
      push_cast
      omega
    · by_cases hsyn : link.status = .synSend ∧ AnswersSyn link.mynum buf
      · obtain ⟨p, q, s, seq, hout, -⟩ :=
          tcptestSynAck_eq link buf (14 + Ip4hdr.headLen buf 14 * 4) stack
        rw [tcptest_synAck hsyn.1 hsyn.2, hout] at h
        simp at h
      · rw [tcptest_ignored hestablish hsyn] at h
        cases h
  · rw [tcptest, if_pos hproto] at h
    cases h

/-- The zero bytes leave alone what no message ends at. -/
theorem endMessages_of_ne {buf : Mem} {log : List TcpEvent} {x : Nat}
    (h : ∀ addr len, .getmessage addr len ∈ log → (addr + len).toNat ≠ x) :
    endMessages buf log x = buf x := by
  induction log generalizing buf with
  | nil => rfl
  | cons e log ih =>
      have hrest (buf' : Mem) : endMessages buf' log x = buf' x :=
        ih fun addr len hmem => h addr len (List.mem_cons_of_mem e hmem)
      cases e with
      | getmessage addr len =>
          have hne := h addr len List.mem_cons_self
          have hcons : endMessages buf (.getmessage addr len :: log) =
              endMessages (put8 buf (addr + len).toNat 0) log := rfl
          rw [hcons, hrest, put8_beside (by omega)]
      | _ => exact hrest buf

section Round

variable {devices : List DeviceItem} {s : Handler} {a : Arrival}

theorem message_handlePacket {addr : Nat} {len : Int}
    (h : .getmessage addr len ∈ (handlePacket devices s a).2) :
    addr + len = a.frame.bytes.length + 14 := by
  by_cases hinbound : Inbound devices a.frame
  · rw [handlePacket_inbound hinbound] at h
    exact message_end h
  · rw [handlePacket_skipped hinbound] at h
    cases h

/-- A round writes the bytes of its frame and the end of its message. -/
theorem buf_handlePacket {x : Nat} (hframe : a.frame.bytes.length ≤ x)
    (hend : x ≠ a.frame.bytes.length + 14) : (handlePacket devices s a).1.buf x = s.buf x := by
  have hpulled : a.frame.mem s.buf x = s.buf x := Received.mem_beyond hframe
  by_cases hinbound : Inbound devices a.frame
  · have hround := handlePacket_inbound (s := s) hinbound
    rw [hround]
    refine (endMessages_of_ne fun addr len hmem => ?_).trans hpulled
    have hlast := message_end hmem
    omega
  · rw [handlePacket_skipped hinbound]
    exact hpulled

end Round

/-! ## Every run -/

namespace Program

open PacketRing Lib.RingBuffer Lib.Transition

section Runs

variable {devices : List DeviceItem} {wire : List (List UInt8)} {buf : Mem} {s t : State} {a : Act}

theorem slotted_program (h : Slotted s.ring) (hstep : Step devices s a t) : Slotted t.ring := by
  rcases ring_step hstep with hsame | ⟨b, hring, -⟩
  · rw [hsame]
    exact h
  · exact slotted_step h hring

/-- Every frame pushed is one that `recvfrom` returned. -/
theorem length_le_of_pushed (h : Ordered devices wire buf s) {bs : List UInt8}
    (hpushed : bs ∈ s.ring.pushed) : bs.length ≤ 2048 := by
  obtain ⟨fs, -, hfs⟩ := h.taken
  have hmem : bs ∈ fs.map Received.bytes := by
    rw [hfs]
    exact List.mem_append_left _ hpushed
  obtain ⟨f, -, rfl⟩ := List.mem_map.mp hmem
  exact f.upper

theorem length_cell (h : Ordered devices wire buf s) (hslots : Slotted s.ring) {c : Nat}
    (hc : c < PACKET_CACHE) : (s.ring.buffer c).length ≤ 2048 := by
  rcases hslots.newest c hc with ⟨k, hk, -, -, hcell⟩ | ⟨-, hcell⟩
  · rw [hcell]
    exact length_le_of_pushed h (List.getElem_mem hk)
  · rw [hcell]
    exact Nat.zero_le 2048

theorem buf_final {handler : Handler} {as : List Arrival} {x : Nat} (hx : 2062 < x) :
    (Monitor.final (handlePacket devices) handler as).buf x = handler.buf x := by
  induction as generalizing handler with
  | nil => rfl
  | cons a as ih =>
      have hlen := a.frame.upper
      rw [Monitor.final_cons, ih, buf_handlePacket (by omega) (by omega)]

/-- In every run whose wake-ups find the ring ready the indices stay in the ring, the
cells hold at most 2048 bytes, each message ends 14 bytes behind a frame that was
handled, and behind byte 2062 the handler's buffer is as it was. -/
theorem writes_in_bounds {as : List Act}
    (hrun : Run (Guard Ready (Step devices)) (start wire buf) as s) :
    s.ring.i < PACKET_CACHE ∧ s.ring.j < PACKET_CACHE ∧
      (∀ c < PACKET_CACHE, (s.ring.buffer c).length ≤ 2048) ∧
      (∀ (addr : Nat) (len : Int), .getmessage addr len ∈ s.log →
        ∃ a ∈ s.handled, addr + len = a.frame.bytes.length + 14) ∧
      ∀ x, 2062 < x → s.handler.buf x = buf x := by
  have hordered := ordered_of_run hrun
  have hkeep (s : State) (a : Act) (t : State) (h : Slotted s.ring)
      (hs : Guard Ready (Step devices) s a t) : Slotted t.ring := slotted_program h hs.2
  have hslots : Slotted s.ring :=
    hrun.invariant (I := fun s => Slotted s.ring) hkeep slotted_init
  refine ⟨?_, ?_, fun c hc => length_cell hordered hslots hc, ?_, ?_⟩
  · rw [hslots.write]
    exact Nat.mod_lt _ (by decide)
  · rw [hslots.read]
    exact Nat.mod_lt _ (by decide)
  · intro addr len hmem
    cases hstarted : s.started with
    | none =>
        rw [(hordered.waiting hstarted).2.1] at hmem
        cases hmem
    | some stack =>
        rw [(hordered.working hstarted).1] at hmem
        rcases List.mem_append.mp hmem with hsyn | hlater
        · obtain ⟨p, hout, -⟩ := sendSyn_eq tcpInitial stack
          rw [tcpFirstStep, hout] at hsyn
          simp at hsyn
        · obtain ⟨a, ha, handler, hround⟩ := Monitor.exists_of_mem_trace hlater
          exact ⟨a, ha, message_handlePacket hround⟩
  · intro x hx
    cases hstarted : s.started with
    | none => rw [(hordered.waiting hstarted).2.2]
    | some stack => rw [(hordered.working hstarted).2, buf_final hx, opened]

end Runs

theorem session_in_bounds :
    ∃ as s, Run (Guard Ready (Step (bootDevices eth4Kernel))) (start sessionWire fun _ => 0)
        (wokenEarly ++ as) s ∧
      (∃ addr len, .getmessage addr len ∈ s.log) ∧
      s.ring.i < PACKET_CACHE ∧ s.ring.j < PACKET_CACHE ∧
      (∀ c < PACKET_CACHE, (s.ring.buffer c).length ≤ 2048) ∧
      (∀ (addr : Nat) (len : Int), .getmessage addr len ∈ s.log →
        ∃ a ∈ s.handled, addr + len = a.frame.bytes.length + 14) ∧
      ∀ x, 2062 < x → s.handler.buf x = 0 := by
  obtain ⟨as, s, hrun, hstarted, hhandled⟩ := exists_session 3
  exact ⟨as, s, hrun, session_delivers (ordered_of_run hrun) hstarted hhandled,
    writes_in_bounds hrun⟩

end Program

end VpnRouter
