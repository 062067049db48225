import VpnRouter.InOut
import VpnRouter.TcpBuffer
import VpnRouter.TcpInput

/-!
# The handler thread

`handle_packet` of `route.c`.  A frame gets to `tcptest` when the filter takes it
as the router's own and both its type fields say so; everything else is only
printed.  The frames are pulled into one buffer, one over the other.
-/

namespace VpnRouter

open Lib Lib.Memory

def eth_IP : UInt16 := 0x0800

def IPPROTO_TCP : UInt32 := 6

/-- A `char` in an `unsigned int`. -/
def ofChar (c : UInt8) : UInt32 := if c < 0x80 then c.toUInt32 else c.toUInt32 ||| 0xffffff00

/-- The handler's buffer and the connection record. -/
structure Handler where
  link : TcpLink
  buf : Mem

/-- A pulled frame, and what `tcptest` finds in its local buffer. -/
structure Arrival where
  frame : Received
  stack : Mem

/-- `getmessage` ends every message with a zero byte. -/
def endMessages (buf : Mem) (log : List TcpEvent) : Mem :=
  log.foldl (fun buf e =>
    match e with
    | .getmessage addr len => put8 buf (addr + len).toNat 0
    | _ => buf) buf

/-- One round of the loop of `handle_packet`; the other cases of the two switches
print. -/
def handlePacket (devices : List DeviceItem) (s : Handler) (f : Arrival) :
    Handler × List TcpEvent :=
  let buf := f.frame.mem s.buf
  if whetherInout devices buf = 0 then ({ s with buf := buf }, [])
  else if htons (get16 buf 12) = eth_IP then
    let proto := ofChar (buf (14 + 9))
    if proto = IPPROTO_TCP then
      let out := (tcptest s.link buf f.frame.bytes.length f.stack).2
      ({ link := out.1, buf := endMessages buf out.2 }, out.2)
    else ({ s with buf := buf }, [])
  else ({ s with buf := buf }, [])

/-! ## What the handler does with a frame -/

/-- The frame is handed to `tcptest`. -/
def Inbound (devices : List DeviceItem) (f : Received) : Prop :=
  whetherInout devices (f.mem fun _ => 0) = 1 ∧
    htons (get16 (f.mem fun _ => 0) 12) = eth_IP ∧ f.isTcp

instance (f : Received) : Decidable f.isTcp := inferInstanceAs (Decidable (_ = _))

instance (devices : List DeviceItem) (f : Received) : Decidable (Inbound devices f) :=
  inferInstanceAs (Decidable (_ ∧ _ ∧ _))

/-- The sign of a `char` does not matter for the protocol that counts. -/
theorem ofChar_eq_tcp {c : UInt8} : ofChar c = IPPROTO_TCP ↔ c = IP_PROTOTCP := by
  unfold ofChar
  split
  · rw [← UInt32.toNat_inj, UInt8.toNat_toUInt32, ← UInt8.toNat_inj]
    exact Iff.rfl
  · rename_i hneg
    apply iff_of_false
    · intro h
      have hbit := congrArg (fun v : UInt32 => v.toNat.testBit 8) h
      simp only [UInt32.toNat_or, Nat.testBit_or] at hbit
      have hset : (0xffffff00 : UInt32).toNat.testBit 8 = true := by decide
      have hclear : IPPROTO_TCP.toNat.testBit 8 = false := by decide
      rw [hset, hclear, Bool.or_true] at hbit
      contradiction
    · rintro rfl
      exact hneg (by decide)

theorem macMark_congr {addr addr' : Mem} (h : ∀ j, j < 6 → addr j = addr' j) (mac : Mac) :
    macMark addr mac = macMark addr' mac := by
  unfold macMark
  congr 1
  funext mark j
  rw [h j j.isLt]

theorem whetherInout_congr {devices : List DeviceItem} {addr addr' : Mem}
    (h : ∀ j, j < 6 → addr j = addr' j) :
    whetherInout devices addr = whetherInout devices addr' := by
  induction devices with
  | nil => rw [whetherInout, whetherInout, macMark_congr h]
  | cons d rest ih => rw [whetherInout, whetherInout, macMark_congr h, ih]

theorem whetherInout_zero_or_one (devices : List DeviceItem) (addr : Mem) :
    whetherInout devices addr = 0 ∨ whetherInout devices addr = 1 := by
  induction devices with
  | nil =>
      rw [whetherInout]
      split
      · exact .inr rfl
      · exact .inl rfl
  | cons d rest ih =>
      rw [whetherInout]
      split
      · exact .inr rfl
      · exact ih

section Round

variable {devices : List DeviceItem} {f : Received}

theorem mem_eq_cleared {x : Nat} (rest : Mem) (h : x < f.bytes.length) :
    f.mem rest x = f.mem (fun _ => 0) x := by
  rw [Received.mem_apply h, Received.mem_apply h]

/-- The filter and the type fields lie in the 42 bytes that every frame has. -/
theorem inbound_mem (rest : Mem) :
    (whetherInout devices (f.mem rest) = 1 ∧ htons (get16 (f.mem rest) 12) = eth_IP ∧
      ofChar (f.mem rest (14 + 9)) = IPPROTO_TCP) ↔ Inbound devices f := by
  have hlen := f.lower
  have hmac : whetherInout devices (f.mem rest) = whetherInout devices (f.mem fun _ => 0) :=
    whetherInout_congr fun j hj => mem_eq_cleared rest (by omega)
  have htype : get16 (f.mem rest) 12 = get16 (f.mem fun _ => 0) 12 :=
    get16_congr fun i hi => mem_eq_cleared rest (by omega)
  have htcp : f.mem rest (14 + 9) = IP_PROTOTCP ↔ f.isTcp := Received.isTcp_mem
  rw [hmac, htype, ofChar_eq_tcp, Inbound, htcp]

theorem handlePacket_skipped {s : Handler} {a : Arrival} (h : ¬ Inbound devices a.frame) :
    handlePacket devices s a = ({ s with buf := a.frame.mem s.buf }, []) := by
  rw [← inbound_mem s.buf] at h
  unfold handlePacket
  simp only
  rcases whetherInout_zero_or_one devices (a.frame.mem s.buf) with hzero | hone
  · rw [if_pos hzero]
  · rw [if_neg (by rw [hone]; decide)]
    split
    · rename_i htype
      rw [if_neg fun hproto => h ⟨hone, htype, hproto⟩]
    · rfl

theorem handlePacket_inbound {s : Handler} {a : Arrival} (h : Inbound devices a.frame) :
    handlePacket devices s a =
      let out := (tcptest s.link (a.frame.mem s.buf) a.frame.bytes.length a.stack).2
      ({ link := out.1, buf := endMessages (a.frame.mem s.buf) out.2 }, out.2) := by
  obtain ⟨hone, htype, hproto⟩ := (inbound_mem s.buf).mpr h
  unfold handlePacket
  simp only
  rw [if_neg (by rw [hone]; decide), if_pos htype, if_pos hproto]

/-- A SYN-ACK for the client's SYN connects it. -/
theorem handlePacket_connects {s : Handler} {a : Arrival} (h : Inbound devices a.frame)
    (hstatus : s.link.status = .synSend) (hanswers : AnswersSyn s.link.mynum (a.frame.mem s.buf)) :
    (handlePacket devices s a).1.link.status = .establish := by
  rw [handlePacket_inbound h, tcptest_synAck hstatus hanswers]
  rfl

/-- Once connected, every frame for `tcptest` is delivered. -/
theorem handlePacket_delivers {s : Handler} {a : Arrival} (h : Inbound devices a.frame)
    (hstatus : s.link.status = .establish) :
    ∃ addr len, .getmessage addr len ∈ (handlePacket devices s a).2 := by
  have hproto : Ip4hdr.protocal (a.frame.mem s.buf) 14 = IP_PROTOTCP := Received.isTcp_mem.mpr h.2.2
  rw [handlePacket_inbound h, tcptest_establish hproto hstatus]
  exact ⟨_, _, List.mem_append_right _ List.mem_cons_self⟩

end Round

/-- The TCP header up to its flags is in the frame. -/
def Received.Whole (f : Received) : Prop := f.tcpAt + 14 ≤ f.bytes.length

/-- The call of `tcptest` for a frame, in cleared buffers. -/
def Received.call (f : Received) : TcpCall :=
  .tcptest (f.mem fun _ => 0) f.bytes.length fun _ => 0

/-- The calls for the frames that get to `tcptest`. -/
def inboundCalls (devices : List DeviceItem) (fs : List Received) : List TcpCall :=
  (fs.filter fun f => Inbound devices f).map Received.call

/-- When the frames for `tcptest` hold their headers, nothing that earlier frames and
calls left in the buffers counts. -/
theorem trace_handlePacket {devices : List DeviceItem} {fs : List Arrival}
    (hwhole : ∀ a ∈ fs, Inbound devices a.frame → a.frame.Whole) (s : Handler) :
    Monitor.trace (handlePacket devices) s fs =
      Monitor.trace tcpExec s.link (inboundCalls devices (fs.map Arrival.frame)) := by
  induction fs generalizing s with
  | nil => rfl
  | cons a fs ih =>
      obtain ⟨hhere, hlater⟩ := List.forall_mem_cons.mp hwhole
      rw [Monitor.trace, ih hlater, List.map_cons]
      by_cases h : Inbound devices a.frame
      · have hcongr : tcptest s.link (a.frame.mem s.buf) a.frame.bytes.length a.stack =
            tcptest s.link (a.frame.mem fun _ => 0) a.frame.bytes.length fun _ => 0 := by
          have hlen := hhere h
          rw [tcptest_array s.link _ a.stack fun _ => 0]
          apply tcptest_congr
          intro x hx
          rw [Received.tcpAt_mem] at hx
          exact mem_eq_cleared s.buf (Nat.lt_of_lt_of_le hx hlen)
        have hcalls : inboundCalls devices (a.frame :: fs.map Arrival.frame) =
            a.frame.call :: inboundCalls devices (fs.map Arrival.frame) := by
          rw [inboundCalls, List.filter_cons_of_pos (by simpa using h), List.map_cons,
            inboundCalls]
        rw [handlePacket_inbound h, hcongr, hcalls, Monitor.trace]
        rfl
      · have hcalls : inboundCalls devices (a.frame :: fs.map Arrival.frame) =
            inboundCalls devices (fs.map Arrival.frame) := by
          rw [inboundCalls, List.filter_cons_of_neg (by simpa using h), inboundCalls]
        rw [handlePacket_skipped h, hcalls, List.nil_append]

end VpnRouter
