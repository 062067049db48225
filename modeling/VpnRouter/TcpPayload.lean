import VpnRouter.Tcp

/-!
# The payload that `tcptest` hands on

`tcptest` takes the two header lengths off the length of the whole frame, not
off that of the packet.  The payload of every segment comes out too long, by the
Ethernet header and the padding at least (`deliveries_tcptest`).
-/

namespace VpnRouter

open Lib.Memory

/-- The arguments of the calls of `getmessage`: address and length. -/
def deliveries (log : List TcpEvent) : List (Nat × Int) :=
  log.filterMap fun
    | .getmessage addr len => some (addr, len)
    | _ => none

/-- A frame of `n` bytes with a TCP segment whose headers lie in the packet; the
Ethernet frame may be padded. -/
structure SegmentFrame where
  buf : Mem
  n : Nat
  tcp : Ip4hdr.protocal buf 14 = IP_PROTOTCP
  ipHeader : 20 ≤ Ip4hdr.headLen buf 14 * 4
  tcpHeader : 20 ≤ TcpHdr.headLen buf (14 + Ip4hdr.headLen buf 14 * 4) * 4
  headers : Ip4hdr.headLen buf 14 * 4 + TcpHdr.headLen buf (14 + Ip4hdr.headLen buf 14 * 4) * 4 ≤
    (htons (Ip4hdr.totalLen buf 14)).toNat
  complete : (htons (Ip4hdr.totalLen buf 14)).toNat + 14 ≤ n

namespace SegmentFrame

variable (f : SegmentFrame)

def ipLen : Nat := Ip4hdr.headLen f.buf 14 * 4

def tcpLen : Nat := TcpHdr.headLen f.buf (14 + f.ipLen) * 4

def totalLen : Nat := (htons (Ip4hdr.totalLen f.buf 14)).toNat

/-- Where the payload starts in the frame, and its length. -/
def payload : Nat × Int := (14 + f.ipLen + f.tcpLen, (f.totalLen : Int) - f.ipLen - f.tcpLen)

/-- The payload alone is delivered, once. -/
def Delimited (link : TcpLink) (stack : Mem) : Prop :=
  deliveries (tcptest link f.buf f.n stack).2.2 = [f.payload]

/-- What is delivered starts at the payload and ends `n - totalLen` bytes behind
it. -/
theorem deliveries_tcptest {link : TcpLink} (hstatus : link.status = .establish) (stack : Mem) :
    deliveries (tcptest link f.buf f.n stack).2.2 =
      [(f.payload.1, f.payload.2 + ((f.n : Int) - f.totalLen))] := by
  have hlen : (f.n : Int) - Ip4hdr.headLen f.buf 14 * 4 -
      TcpHdr.headLen f.buf (14 + Ip4hdr.headLen f.buf 14 * 4) * 4 =
        f.payload.2 + ((f.n : Int) - f.totalLen) := by
    simp only [payload, tcpLen, ipLen]
    omega
  have hfin : deliveries (if AnswersFin link.mynum f.buf then
      tcptestFin link f.buf (14 + Ip4hdr.headLen f.buf 14 * 4) stack else (link, [])).2 = [] := by
    split <;> rfl
  rw [tcptest_establish f.tcp hstatus]
  simp only [deliveries, List.filterMap_append] at hfin ⊢
  rw [hfin, hlen]
  rfl

end SegmentFrame

/-- No segment is delimited as its headers say. -/
theorem payload_not_delimited (link : TcpLink) (f : SegmentFrame) (stack : Mem)
    (hstatus : link.status = .establish) : ¬ f.Delimited link stack := by
  intro h
  rw [SegmentFrame.Delimited, f.deliveries_tcptest hstatus] at h
  have hlen := congrArg Prod.snd (List.singleton_inj.mp h)
  have hcomplete := f.complete
  simp only [SegmentFrame.totalLen] at hlen
  omega

/-- Two bytes of payload behind the two headers of 20 bytes, and four of padding. -/
def paddedSegment : SegmentFrame where
  buf := tcpPack (ipPack (fun _ => 0) 14 20 42 0 0 64 6 0x0201a8c0 0x0101a8c0) 34 22 20 30000 49101
    1000 0x80571cf0 TCP_ACK 512 0 0x0201a8c0 0x0101a8c0
  n := 60
  tcp := by decide
  ipHeader := by decide
  tcpHeader := by decide
  headers := by decide
  complete := by decide

theorem paddedSegment_not_delimited :
    ¬ paddedSegment.Delimited { tcpInitial with status := .establish } fun _ => 0 :=
  payload_not_delimited { tcpInitial with status := .establish } paddedSegment (fun _ => 0) rfl

theorem padding_delivered :
    ¬ ∀ (link : TcpLink) (f : SegmentFrame) (stack : Mem), link.status = .establish →
      f.Delimited link stack := by
  intro h
  have hdelimited := h { tcpInitial with status := .establish } paddedSegment (fun _ => 0) rfl
  rw [SegmentFrame.Delimited, paddedSegment.deliveries_tcptest rfl] at hdelimited
  have hlen : paddedSegment.payload.2 + (60 - 42) = paddedSegment.payload.2 :=
    congrArg Prod.snd (List.singleton_inj.mp hdelimited)
  omega

end VpnRouter
