import VpnRouter.ArpWait
import VpnRouter.IpPack
import VpnRouter.Table

/-!
# Receiving and sending IP packets

`ip_rec_process`, `ip_sed_process` and the tunnel functions `repack_vpn` and
`unpack_vpn` of `function_head.c`.  The functions return the router they leave
behind and the events of the call, in order.
-/

namespace VpnRouter

open Lib.Memory ArpWait

/-- The calls of the IP path that can be seen from outside it, with the sizes of
its copies. -/
inductive Event
  /-- `device[i].vpn` is read in the forwarding branch of `ip_rec_process`;
  -1 is no card. -/
  | deviceRead (i : Int)
  | memcpy (size : Int)
  /-- `unpack_vpn` was entered with `*len = len`, left `len'` and returned `mark`. -/
  | unpackVpn (len len' : UInt32) (mark : Int)
  | getmessage (len : Int) (msg : List UInt8)
  | sendto (card : Nat) (upVpn : Bool) (frame : List UInt8)
  | addToArpWaitBuffer (upVpn : Bool) (frame : List UInt8) (ip : UInt32) (ret : Int)
deriving DecidableEq, Repr

def sent (log : List Event) : List (Nat × Bool × List UInt8) :=
  log.filterMap fun
    | .sendto card upVpn frame => some (card, upVpn, frame)
    | _ => none

def toU32 (n : Int) : UInt32 := UInt32.ofNat (n % 2 ^ 32).toNat

def ofU32 (v : UInt32) : Int :=
  if v.toNat < 2 ^ 31 then v.toNat else v.toNat - 2 ^ 32

theorem ofU32_toU32 {n : Nat} (h : n < 2 ^ 31) : ofU32 (toU32 (n : Int)) = n := by
  have hn : (toU32 (n : Int)).toNat = n := by
    rw [toU32, UInt32.toNat_ofNat']
    omega
  rw [ofU32, hn, if_pos h]

/-- `device[index]`, where `none` is the index -1. -/
def deviceAt (r : Router) (u : Undef) : Option Nat → DeviceItem
  | some i => r.device.getD i u.device
  | none => u.device

/-- `repack_vpn` on the buffer at `a`; it returns the new `*addr_src` and `*addr`
and the buffer with the outer header.  A tunnel without a route changes
nothing. -/
def repackVpn (r : Router) (u : Undef) (addrSrc addr : UInt32) (buf : Mem) (a : Nat) (len : Int) :
    Int × UInt32 × UInt32 × Mem :=
  match checkVpnRoute r.vpnRoute addr with
  | none => (-1, addrSrc, addr, buf)
  | some dst =>
      let src := match getnetcard r.device dst with
        | some index => (deviceAt r u (some index)).ip
        | none => u.cardIp
      (1, src, dst, ipPack buf a 20 (len + 20) 1 0 60 100 src dst)

structure UnpackRet where
  mark : Int
  buf : Mem
  len : UInt32
  src : UInt32
  dst : UInt32
  log : List Event

def unpackVpn (r : Router) (buf : Mem) (len : UInt32) : UnpackRet :=
  let src := Ip4hdr.srcAddr buf 0
  let dst := Ip4hdr.dstAddr buf 0
  if whetherIpMe r.device (Ip4hdr.dstAddr buf 0) > 0 then
    let size := len - UInt32.ofNat (Ip4hdr.headLen buf 0 * 4)
    let buf' := copy buf 0 buf (Ip4hdr.headLen buf 0 * 4) size.toNat
    -- the header length is read again, from the bytes that were moved over it
    let len' := len - UInt32.ofNat (Ip4hdr.headLen buf' 0 * 4)
    { mark := 2, buf := buf', len := len', src := src, dst := dst,
      log := [.memcpy size.toNat, .unpackVpn len len' 2] }
  else
    { mark := 1, buf := buf, len := len, src := src, dst := dst, log := [.unpackVpn len len 1] }

/-- `getmessage` ends the message with a zero byte at index `len`. -/
def getmessage (buf : Mem) (len : Int) : List Event :=
  [.getmessage len (load buf 0 (sizeT len))]

/-- The second half of `ip_sed_process`: Ethernet header, card, MAC addresses
and `sendto`, or the wait buffer when the address is not in the ARP cache. -/
def sedTransmit (r : Router) (u : Undef) (buff : Mem) (len : Int) (dst1 : UInt32) (index : Nat)
    (upVpn : Bool) : Router × List Event :=
  let buff := put16 buff 12 (htons 0x0800)
  let index := (getnetcard r.device dst1).getD index
  match searchArpCache r.arpTable dst1 with
  | none =>
      let added := addToArpWaitBuffer r.wait buff (len + 14) dst1
      ({ r with wait := added.2, buff := buff },
        [.addToArpWaitBuffer upVpn (load buff 0 (sizeT (len + 14))) dst1 added.1])
  | some netcard =>
      let mac := (r.arpTable[netcard]?.map (·.macAddr)).getD u.mac
      let buff := store buff 0 mac.toList
      let buff := store buff 6 (deviceAt r u (some index)).macAddr.toList
      ({ r with buff := buff }, [.sendto index upVpn (load buff 0 (sizeT (len + 14)))])

def ipSedProcess (r : Router) (u : Undef) (buf : Mem) (len : Int) (src dst : UInt32) :
    Router × List Event :=
  let dst1 := dst
  match (reroute r.device r.routeInfo dst1 dst).1 with
  | none => (r, [])
  | some index =>
      if (deviceAt r u (some index)).vpn > 0 then
        let buff := copy r.buff 34 buf 0 (sizeT len)
        -- the return value of `repack_vpn` is not looked at
        let packed := repackVpn r u src dst1 buff 14 len
        let out := sedTransmit r u packed.2.2.2 (len + 20) packed.2.2.1 index true
        (out.1, .memcpy len :: out.2)
      else
        let buff := copy r.buff 14 buf 0 (sizeT len)
        let out := sedTransmit r u buff len dst1 index false
        (out.1, .memcpy len :: out.2)

def ipRecProcess (r : Router) (u : Undef) (buf : Mem) (len : Int) : Router × List Event :=
  let tome := whetherIpMe r.device (Ip4hdr.dstAddr buf 0)
  if tome < 0 then
    let found := reroute r.device r.routeInfo (Ip4hdr.dstAddr buf 0) u.dst
    let read := Event.deviceRead (found.1.elim (-1) fun j => (j : Int))
    if (deviceAt r u found.1).vpn = 0 then
      let out := ipSedProcess r u buf len 0 found.2
      (out.1, read :: out.2)
    else
      let out := ipSedProcess r u buf len 0 (Ip4hdr.dstAddr buf 0)
      (out.1, read :: out.2)
  else
    let offset := Ip4hdr.headLen buf 0 * 4
    if Ip4hdr.protocal buf 0 = IP_PROTOPPTP then
      let inner := unpackVpn r (shift buf offset) (toU32 (len - offset))
      if inner.mark < 0 then (r, inner.log)
      else if inner.mark = 1 then
        let out := ipSedProcess r u inner.buf (ofU32 inner.len) 0 inner.dst
        (out.1, inner.log ++ out.2)
      else (r, inner.log ++ getmessage inner.buf (ofU32 inner.len))
    else (r, getmessage (shift buf offset) (len - offset))

/-- A received IP packet: it has a header, and its length is that of a packet. -/
structure Packet where
  bytes : List UInt8
  header : 20 ≤ bytes.length
  fits : bytes.length ≤ 65535

/-- The packet in the receive buffer, followed by what earlier packets left. -/
def Packet.mem (p : Packet) (rest : Mem) : Mem := overlay p.bytes rest

def Packet.dst (p : Packet) : UInt32 := Ip4hdr.dstAddr (p.mem fun _ => 0) 0

def receive (r : Router) (u : Undef) (p : Packet) (rest : Mem) : Router × List Event :=
  ipRecProcess r u (p.mem rest) p.bytes.length

def emptyPacket (time : UInt8) (src dst : UInt32) : Packet where
  bytes := [0x45, 0, 0, 20, 0, 0, 0, 0, time, 17, 0, 0] ++ bytes32 src ++ bytes32 dst
  header := by simp [bytes32]
  fits := by simp [bytes32]

def bareRouter : Router where
  routeInfo := []
  arpTable := []
  device := []
  vpnRoute := []
  wait := ArpWait.startBuf
  buff := fun _ => 0

theorem Packet.mem_apply (p : Packet) (rest rest' : Mem) {i : Nat} (h : i < p.bytes.length) :
    p.mem rest i = p.mem rest' i := by
  unfold Packet.mem
  rw [overlay_apply h, overlay_apply h]

@[simp] theorem Packet.load_mem (p : Packet) (rest : Mem) :
    load (p.mem rest) 0 p.bytes.length = p.bytes :=
  load_overlay p.bytes rest

theorem Packet.dstAddr_mem (p : Packet) (rest : Mem) : Ip4hdr.dstAddr (p.mem rest) 0 = p.dst := by
  have hlen := p.header
  exact get32_congr fun i hi => p.mem_apply _ _ (by omega)

@[simp] theorem sent_nil : sent [] = [] := rfl

@[simp] theorem sent_memcpy (n : Int) (log : List Event) :
    sent (.memcpy n :: log) = sent log := rfl

@[simp] theorem sent_deviceRead (i : Int) (log : List Event) :
    sent (.deviceRead i :: log) = sent log := rfl

@[simp] theorem sent_unpackVpn (len len' : UInt32) (mark : Int) (log : List Event) :
    sent (.unpackVpn len len' mark :: log) = sent log := rfl

@[simp] theorem sent_sendto (card : Nat) (upVpn : Bool) (frame : List UInt8) (log : List Event) :
    sent (.sendto card upVpn frame :: log) = (card, upVpn, frame) :: sent log := rfl

@[simp] theorem sent_addToArpWaitBuffer (upVpn : Bool) (frame : List UInt8) (ip : UInt32)
    (ret : Int) (log : List Event) :
    sent (.addToArpWaitBuffer upVpn frame ip ret :: log) = sent log := rfl

/-! ## The transmitted frame -/

def ethFrame (dst src : Mac) (packet : List UInt8) : List UInt8 :=
  dst.toList ++ src.toList ++ [0x08, 0x00] ++ packet

theorem drop_ethFrame (dst src : Mac) (packet : List UInt8) :
    (ethFrame dst src packet).drop 14 = packet := by
  unfold ethFrame
  rw [List.drop_append_of_le_length (by simp), List.drop_eq_nil_of_le (by simp), List.nil_append]

@[simp] theorem length_ethFrame (dst src : Mac) (packet : List UInt8) :
    (ethFrame dst src packet).length = packet.length + 14 := by
  simp [ethFrame]
  omega

theorem take_ethFrame (dst src : Mac) (packet : List UInt8) :
    (ethFrame dst src packet).take 6 = dst.toList := by
  unfold ethFrame
  rw [List.append_assoc, List.append_assoc, List.take_append_of_le_length (by simp),
    List.take_of_length_le (by simp)]

/-- A frame with the two addresses written over its start. -/
theorem load_macs (m : Mem) (dst src : Mac) (n : Nat) :
    load (store (store m 0 dst.toList) 6 src.toList) 0 (12 + n) =
      dst.toList ++ src.toList ++ load m 12 n := by
  let framed := store (store m 0 dst.toList) 6 src.toList
  have hdst : load framed 0 6 = dst.toList := by
    rw [load_store_disjoint (by simp)]
    simpa using load_store_same m 0 dst.toList
  have hsrc : load framed 6 6 = src.toList := by
    simpa using load_store_same (store m 0 dst.toList) 6 src.toList
  have hrest : load framed 12 n = load m 12 n := by
    rw [load_store_disjoint (by simp), load_store_disjoint (by simp)]
  calc load framed 0 (12 + n)
      = load framed 0 6 ++ load framed 6 6 ++ load framed 12 n := by
        rw [show 12 + n = 6 + 6 + n by omega, load_add, load_add]
    _ = dst.toList ++ src.toList ++ load m 12 n := by rw [hdst, hsrc, hrest]

theorem load_ethFrame (buff : Mem) (dst src : Mac) (n : Nat) :
    load (store (store (put16 buff 12 (htons 0x0800)) 0 dst.toList) 6 src.toList) 0 (14 + n) =
      ethFrame dst src (load buff 14 n) := by
  have hproto : bytes16 (htons 0x0800) = [0x08, 0x00] := rfl
  rw [show 14 + n = 12 + (2 + n) by omega, load_macs, load_add, load_put16_same, hproto,
    load_put16_beside (by omega), ethFrame, List.append_assoc _ [0x08, 0x00]]

/-! ## One call of `ip_sed_process` -/

theorem deviceAt_some {r : Router} {u : Undef} {i : Nat} {d : DeviceItem}
    (h : r.device[i]? = some d) : deviceAt r u (some i) = d := by
  rw [deviceAt, List.getD_eq_getElem?_getD, h, Option.getD_some]

/-- The address after `repack_vpn`: a tunnel with a route leads to its endpoint. -/
theorem repackVpn_addr (r : Router) (u : Undef) (src dst : UInt32) (buf : Mem) (a : Nat)
    (len : Int) :
    (repackVpn r u src dst buf a len).2.2.1 = (checkVpnRoute r.vpnRoute dst).getD dst := by
  unfold repackVpn
  cases checkVpnRoute r.vpnRoute dst with
  | none => rfl
  | some endpoint => rfl

section Transmit

variable {r : Router} {u : Undef} {dst1 : UInt32} {index n : Nat} {upVpn : Bool}

theorem sedTransmit_hit {buff : Mem} {a : Nat} (hn : n + 14 < 2 ^ 64)
    (ha : searchArpCache r.arpTable dst1 = some a) :
    (sedTransmit r u buff n dst1 index upVpn).2 =
      [.sendto ((getnetcard r.device dst1).getD index) upVpn
        (ethFrame (r.arpTable.get ⟨a, searchArpCache_lt ha⟩).macAddr
          (deviceAt r u (some ((getnetcard r.device dst1).getD index))).macAddr
          (load buff 14 n))] := by
  have hsize : sizeT ((n : Int) + 14) = 14 + n := by
    rw [Nat.add_comm]
    exact sizeT_natCast (by omega)
  have hitem : r.arpTable[a]? = some (r.arpTable.get ⟨a, searchArpCache_lt ha⟩) :=
    List.getElem?_eq_getElem (searchArpCache_lt ha)
  simp only [sedTransmit, ha, hitem, hsize, Option.map_some, Option.getD_some, load_ethFrame]

theorem sedTransmit_miss (u : Undef) (buff : Mem) (index : Nat) (upVpn : Bool)
    (hn : n + 14 < 2 ^ 64) (ha : searchArpCache r.arpTable dst1 = none) :
    ∃ head, head.length = 14 ∧ (sedTransmit r u buff n dst1 index upVpn).2 =
      [.addToArpWaitBuffer upVpn (head ++ load buff 14 n) dst1
        (if freeSlot r.wait = none then -1 else 1)] := by
  have hsize : sizeT ((n : Int) + 14) = 14 + n := by
    rw [Nat.add_comm]
    exact sizeT_natCast (by omega)
  refine ⟨load (put16 buff 12 (htons 0x0800)) 0 14, length_load _ _ _, ?_⟩
  simp only [sedTransmit, ha, hsize, addToArpWaitBuffer_ret]
  rw [load_add, Nat.zero_add, put16, load_store_disjoint (b := 14) (by simp)]

/-- A cached address ends the call with a transmission, whatever the length. -/
theorem sedTransmit_cached {netcard : Nat} (u : Undef) (buff : Mem) (len : Int) (index : Nat)
    (upVpn : Bool) (ha : searchArpCache r.arpTable dst1 = some netcard) :
    ∃ frame, frame.length = sizeT (len + 14) ∧
      (sedTransmit r u buff len dst1 index upVpn).2 =
        [.sendto ((getnetcard r.device dst1).getD index) upVpn frame] := by
  simp only [sedTransmit, ha]
  exact ⟨_, length_load _ _ _, rfl⟩

/-- Any other address is offered to the wait buffer. -/
theorem sedTransmit_uncached (u : Undef) (buff : Mem) (len : Int) (index : Nat) (upVpn : Bool)
    (ha : searchArpCache r.arpTable dst1 = none) :
    ∃ frame, frame.length = sizeT (len + 14) ∧
      (sedTransmit r u buff len dst1 index upVpn).2 =
        [.addToArpWaitBuffer upVpn frame dst1 (if freeSlot r.wait = none then -1 else 1)] := by
  simp only [sedTransmit, ha, addToArpWaitBuffer_ret]
  exact ⟨_, length_load _ _ _, rfl⟩

theorem sedTransmit_upVpn {buff : Mem} {len : Int} {x : Nat × Bool × List UInt8}
    (hx : x ∈ sent (sedTransmit r u buff len dst1 index upVpn).2) : x.2.1 = upVpn := by
  cases ha : searchArpCache r.arpTable dst1 with
  | none =>
      obtain ⟨frame, -, hlog⟩ := sedTransmit_uncached u buff len index upVpn ha
      rw [hlog] at hx
      cases hx
  | some a =>
      obtain ⟨frame, -, hlog⟩ := sedTransmit_cached u buff len index upVpn ha
      rw [hlog, sent_sendto, sent_nil] at hx
      rw [List.mem_singleton.mp hx]

theorem ipSedProcess_dropped {buf : Mem} {len : Int} {src dst : UInt32}
    (hroute : (reroute r.device r.routeInfo dst dst).1 = none) :
    ipSedProcess r u buf len src dst = (r, []) := by
  simp only [ipSedProcess, hroute]

theorem ipSedProcess_plain_eq {buf : Mem} {len : Int} {src dst : UInt32}
    (hroute : (reroute r.device r.routeInfo dst dst).1 = some index)
    (hcard : ¬ 0 < (deviceAt r u (some index)).vpn) :
    ipSedProcess r u buf len src dst =
      ((sedTransmit r u (copy r.buff 14 buf 0 (sizeT len)) len dst index false).1,
        .memcpy len ::
          (sedTransmit r u (copy r.buff 14 buf 0 (sizeT len)) len dst index false).2) := by
  simp only [ipSedProcess, hroute, gt_iff_lt, if_neg hcard]

theorem ipSedProcess_plain {buf : Mem} {len : Int} {src dst : UInt32}
    (hroute : (reroute r.device r.routeInfo dst dst).1 = some index)
    (hcard : ¬ 0 < (deviceAt r u (some index)).vpn) :
    (ipSedProcess r u buf len src dst).2 = .memcpy len ::
      (sedTransmit r u (copy r.buff 14 buf 0 (sizeT len)) len dst index false).2 := by
  rw [ipSedProcess_plain_eq hroute hcard]

theorem ipSedProcess_tunnel {buf : Mem} {len : Int} {src dst : UInt32}
    (hroute : (reroute r.device r.routeInfo dst dst).1 = some index)
    (hcard : 0 < (deviceAt r u (some index)).vpn) :
    (ipSedProcess r u buf len src dst).2 = .memcpy len ::
      (sedTransmit r u
        (repackVpn r u src dst (copy r.buff 34 buf 0 (sizeT len)) 14 len).2.2.2 (len + 20)
        (repackVpn r u src dst (copy r.buff 34 buf 0 (sizeT len)) 14 len).2.2.1 index true).2 := by
  simp only [ipSedProcess, hroute, gt_iff_lt, if_pos hcard]

/-- What holds of the copy and of every end holds of all events of a call. -/
theorem ipSedProcess_forall {P : Event → Prop} {buf : Mem} {len : Int} {src dst : UInt32}
    (hcopy : P (.memcpy len))
    (hends : ∀ buff k dst1 index upVpn, k = len ∨ k = len + 20 →
      ∀ e ∈ (sedTransmit r u buff k dst1 index upVpn).2, P e) :
    ∀ e ∈ (ipSedProcess r u buf len src dst).2, P e := by
  cases hroute : (reroute r.device r.routeInfo dst dst).1 with
  | none =>
      rw [ipSedProcess_dropped hroute]
      exact List.forall_mem_nil _
  | some index =>
      by_cases hcard : 0 < (deviceAt r u (some index)).vpn
      · rw [ipSedProcess_tunnel hroute hcard, List.forall_mem_cons]
        exact ⟨hcopy, hends _ _ _ _ _ (.inr rfl)⟩
      · rw [ipSedProcess_plain hroute hcard, List.forall_mem_cons]
        exact ⟨hcopy, hends _ _ _ _ _ (.inl rfl)⟩

/-- With a card and a cached address the packet leaves as it came. -/
theorem ipSedProcess_sends {buf : Mem} {src dst : UInt32} {a : Nat} (hn : n + 14 < 2 ^ 64)
    (hroute : (reroute r.device r.routeInfo dst dst).1 = some index)
    (hcard : ¬ 0 < (deviceAt r u (some index)).vpn)
    (ha : searchArpCache r.arpTable dst = some a) :
    (ipSedProcess r u buf n src dst).2 =
      [.memcpy n, .sendto ((getnetcard r.device dst).getD index) false
        (ethFrame (r.arpTable.get ⟨a, searchArpCache_lt ha⟩).macAddr
          (deviceAt r u (some ((getnetcard r.device dst).getD index))).macAddr
          (load buf 0 n))] := by
  have hsize : sizeT (n : Int) = n := sizeT_natCast (by omega)
  rw [ipSedProcess_plain hroute hcard, sedTransmit_hit hn ha, hsize, load_copy_same]

/-- Without a cached address it is offered to the wait buffer. -/
theorem ipSedProcess_queues (u : Undef) (buf : Mem) (src : UInt32) {dst : UInt32}
    (hn : n + 14 < 2 ^ 64)
    (hroute : (reroute r.device r.routeInfo dst dst).1 = some index)
    (hcard : ¬ 0 < (deviceAt r u (some index)).vpn) (ha : searchArpCache r.arpTable dst = none) :
    ∃ head, head.length = 14 ∧ (ipSedProcess r u buf n src dst).2 =
      [.memcpy n, .addToArpWaitBuffer false (head ++ load buf 0 n) dst
        (if freeSlot r.wait = none then -1 else 1)] := by
  have hsize : sizeT (n : Int) = n := sizeT_natCast (by omega)
  obtain ⟨head, hhead, hlog⟩ := sedTransmit_miss u (copy r.buff 14 buf 0 n) index false hn ha
  refine ⟨head, hhead, ?_⟩
  rw [ipSedProcess_plain hroute hcard, hsize, hlog, load_copy_same]

end Transmit

/-! ## The branches of `ip_rec_process` -/

/-- The forwarding branch of `ip_rec_process` after its lookup, with `hop` in the
local `dst`. -/
def forward (r : Router) (u : Undef) (buf : Mem) (len : Int) (hop : UInt32) :
    Router × List Event :=
  if (deviceAt r u (reroute r.device r.routeInfo (Ip4hdr.dstAddr buf 0) u.dst).1).vpn = 0 then
    ipSedProcess r u buf len 0 hop
  else ipSedProcess r u buf len 0 (Ip4hdr.dstAddr buf 0)

theorem ipRecProcess_forward {r : Router} {u : Undef} {buf : Mem} {len : Int}
    (hme : whetherIpMe r.device (Ip4hdr.dstAddr buf 0) < 0) :
    ipRecProcess r u buf len =
      let found := reroute r.device r.routeInfo (Ip4hdr.dstAddr buf 0) u.dst
      let out := forward r u buf len found.2
      (out.1, .deviceRead (found.1.elim (-1) fun j => (j : Int)) :: out.2) := by
  simp only [ipRecProcess, if_pos hme, forward]
  split
  · rfl
  · rfl

section Receive

variable {r : Router} {p : Packet}

/-- The address the forwarding branch passes on: the next hop when the route
names a network card, and the destination itself otherwise. -/
def forwardAddr (r : Router) (u : Undef) (addr : UInt32) : UInt32 :=
  if (deviceAt r u (reroute r.device r.routeInfo addr u.dst).1).vpn = 0 then
    (reroute r.device r.routeInfo addr u.dst).2
  else addr

theorem receive_forward (u : Undef) (rest : Mem) (hme : whetherIpMe r.device p.dst < 0) :
    ∃ i, (receive r u p rest).2 = .deviceRead i ::
      (ipSedProcess r u (p.mem rest) p.bytes.length 0 (forwardAddr r u p.dst)).2 := by
  simp only [receive, ipRecProcess, Packet.dstAddr_mem, if_pos hme, forwardAddr]
  split
  · exact ⟨_, rfl⟩
  · exact ⟨_, rfl⟩

end Receive

end VpnRouter
