import VpnRouter.Boot
import VpnRouter.Program
import VpnRouter.TcpPacket

/-!
# What the program transmits

The tables of `initial_route` under the two threads.  The program reads frames
from all cards, but the only packets it sends are those of its own connection.
Their destination 192.168.1.2 is routed to `eth4` and is in the ARP table from the
start, so every packet leaves in one frame and none waits (`frames_on_wire`).
-/

namespace VpnRouter.Program

open Lib Lib.Memory Lib.Transition ArpWait

/-- A call of `ip_sed_process`, with the memory behind the packet and what the
call reads without setting it. -/
structure Sending where
  packet : List UInt8
  src : UInt32
  dst : UInt32
  rest : Mem
  u : Undef

def Sending.exec (r : Router) (c : Sending) : Router × List Event :=
  ipSedProcess r c.u (overlay c.packet c.rest) c.packet.length c.src c.dst

def Sending.arguments (c : Sending) : List UInt8 × UInt32 × UInt32 := (c.packet, c.src, c.dst)

theorem mem_packets {log : List TcpEvent} {x : List UInt8 × UInt32 × UInt32}
    (h : x ∈ packets log) : ∃ status, .ipSedProcess x.1 x.2.1 x.2.2 status ∈ log := by
  obtain ⟨e, he, hx⟩ := List.mem_filterMap.mp h
  cases e with
  | ipSedProcess p src dst status =>
      rw [← Option.some.inj hx]
      exact ⟨status, he⟩
  | _ => cases hx

/-! ## The packets of the handler -/

theorem ofConnection_handlePacket {devices : List DeviceItem} (s : Handler) (a : Arrival) :
    (handlePacket devices s a).1.link.endpoints = s.link.endpoints ∧
      ∀ e ∈ (handlePacket devices s a).2, OfConnection s.link e := by
  by_cases h : Inbound devices a.frame
  · let call : TcpCall := .tcptest (a.frame.mem s.buf) a.frame.bytes.length a.stack
    rw [handlePacket_inbound h]
    exact ⟨endpoints_tcpExec s.link call, ofConnection_tcpExec call⟩
  · rw [handlePacket_skipped h]
    exact ⟨rfl, List.forall_mem_nil _⟩

theorem endpoints_final_handlePacket {devices : List DeviceItem} (s : Handler) (fs : List Arrival) :
    (Monitor.final (handlePacket devices) s fs).link.endpoints = s.link.endpoints := by
  induction fs generalizing s with
  | nil => rfl
  | cons a fs ih => rw [Monitor.final_cons, ih, (ofConnection_handlePacket s a).1]

theorem ofConnection_trace {devices : List DeviceItem} (s : Handler) (fs : List Arrival) :
    ∀ e ∈ Monitor.trace (handlePacket devices) s fs, OfConnection s.link e := by
  intro e he
  have hend : OfConnection (Monitor.final (handlePacket devices) s fs).link e := by
    apply Monitor.of_mem_trace (P := fun s e => OfConnection s.link e) _ _ he
    · intro s a e he
      obtain ⟨hends, hall⟩ := ofConnection_handlePacket s a
      exact (hall e he).congr hends
    · intro s a e h
      exact h.congr (ofConnection_handlePacket s a).1
  exact hend.congr (endpoints_final_handlePacket s fs).symm

/-- The program hands over packets of its connection only. -/
theorem ofConnection_log {devices : List DeviceItem} {wire : List (List UInt8)} {buf : Mem}
    {s : State} {as : List Act} (hrun : Run (Guard Ready (Step devices)) (start wire buf) as s) :
    ∀ e ∈ s.log, OfConnection tcpInitial e := by
  have h := ordered_of_run hrun
  cases hstarted : s.started with
  | none =>
      rw [(h.waiting hstarted).2.1]
      exact List.forall_mem_nil _
  | some stack =>
      rw [(h.working hstarted).1, List.forall_mem_append]
      have hends : tcpInitial.endpoints = (opened stack buf).link.endpoints :=
        (endpoints_tcpExec tcpInitial (.firstStep stack)).symm
      refine ⟨ofConnection_tcpExec (.firstStep stack), fun e he => ?_⟩
      exact (ofConnection_trace _ _ e he).congr hends

/-! ## The way to the peer -/

def peer : UInt32 := inetAddr 192 168 1 2

def peerMac : Mac := macOf 0x00 0x0c 0x29 0x42 0xaf 0x37

section Peer

variable {k : Kernel} {r : Router}

theorem reroute_peer {index : Nat} (h : cardNamed (bootDevices k) "eth4" = some index) :
    (reroute (bootDevices k) (bootRouter k).routeInfo peer peer).1 = some index := by
  have hfirst : (bootRouter k).routeInfo.find? (cmpWhichNet peer) = some eth4Route := by
    rw [bootRouter_routeInfo]
    decide
  rw [reroute_of_first hfirst h]

theorem reroute_peer_none (h : cardNamed (bootDevices k) "eth4" = none) :
    (reroute (bootDevices k) (bootRouter k).routeInfo peer peer).1 = none := by
  apply reroute_none
  rintro ⟨route, hroute, hmask, d, hd, hname⟩
  have hroutes : route ∈ [eth4Route, eth5Route, tunnelledRoute] := hroute
  simp only [List.mem_cons, List.not_mem_nil, or_false] at hroutes
  rcases hroutes with rfl | rfl | rfl
  · rw [cardNamed, List.findIdx?_eq_none_iff] at h
    have hno := h d hd
    rw [hname] at hno
    revert hno
    decide
  · revert hmask
    decide
  · revert hmask
    decide

/-- The card and the device that the packets for the peer leave on. -/
structure Egress (k : Kernel) (card : Nat) (d : DeviceItem) : Prop where
  chosen : ∃ index, cardNamed (bootDevices k) "eth4" = some index ∧
    card = (getnetcard (bootDevices k) peer).getD index
  device : (bootDevices k)[card]? = some d

theorem exists_egress {index : Nat} (h : cardNamed (bootDevices k) "eth4" = some index) :
    ∃ card d, Egress k card d := by
  have hlt : (getnetcard (bootDevices k) peer).getD index < (bootDevices k).length := by
    cases hnet : getnetcard (bootDevices k) peer with
    | none => exact cardNamed_lt h
    | some j => exact getnetcard_lt hnet
  exact ⟨_, _, ⟨index, h, rfl⟩, List.getElem?_eq_getElem hlt⟩

/-- The tables of the router are still those of `initial_route`. -/
def Booted (k : Kernel) (r : Router) : Prop := r.lookups = (bootRouter k).lookups

theorem Booted.tables (h : Booted k r) :
    r.routeInfo = (bootRouter k).routeInfo ∧ r.arpTable = (bootRouter k).arpTable ∧
      r.device = bootDevices k := by
  simp only [Booted, Router.lookups, Prod.mk.injEq] at h
  exact ⟨h.1, h.2.1, h.2.2.1⟩

theorem booted_exec (c : Sending) (h : Booted k r) : Booted k (c.exec r).1 :=
  ipSedProcess_lookups.trans h

theorem exec_sends {c : Sending} {card : Nat} {d : DeviceItem} (hr : Booted k r)
    (hdst : c.dst = peer) (hfits : c.packet.length < 65536) (h : Egress k card d) :
    (c.exec r).1.wait = r.wait ∧
      sent (c.exec r).2 = [(card, false, ethFrame peerMac d.macAddr c.packet)] := by
  obtain ⟨index, hindex, hcard⟩ := h.chosen
  obtain ⟨hroutes, harp, hdevices⟩ := hr.tables
  have hroute : (reroute r.device r.routeInfo peer peer).1 = some index := by
    rw [hroutes, hdevices]
    exact reroute_peer hindex
  have hplain : ¬ 0 < (deviceAt r c.u (some index)).vpn := by
    obtain ⟨e, he, hname⟩ := (cardNamed_iff.mp hindex).1
    have hdevice : deviceAt r c.u (some index) = e := deviceAt_some (by rw [hdevices, he])
    rw [hdevice]
    intro hpos
    have hvpn := vpn_of_bootDevices (List.mem_of_getElem? he) (by omega)
    rw [hname] at hvpn
    revert hvpn
    decide
  have hcached : searchArpCache r.arpTable peer = some 2 := by
    rw [harp]
    rfl
  have hitem : r.arpTable[2]? = some { ipAddr := peer, macAddr := peerMac } := by
    rw [harp]
    rfl
  have hmac : (r.arpTable.get ⟨2, searchArpCache_lt hcached⟩).macAddr = peerMac := by
    obtain ⟨_, hentry⟩ := List.getElem_of_getElem? hitem
    rw [List.get_eq_getElem, hentry]
  have hegress : deviceAt r c.u (some card) = d := deviceAt_some (by rw [hdevices, h.device])
  rw [Sending.exec, hdst]
  constructor
  · rw [ipSedProcess_plain_eq hroute hplain]
    exact sedTransmit_wait_hit hcached
  · rw [ipSedProcess_sends (by omega) hroute hplain hcached, sent_memcpy, sent_sendto, sent_nil,
      load_overlay, hmac, hdevices, ← hcard, hegress]

theorem exec_dropped {c : Sending} (hr : Booted k r) (hdst : c.dst = peer)
    (h : cardNamed (bootDevices k) "eth4" = none) : c.exec r = (r, []) := by
  obtain ⟨hroutes, -, hdevices⟩ := hr.tables
  rw [Sending.exec, hdst]
  apply ipSedProcess_dropped
  rw [hroutes, hdevices]
  exact reroute_peer_none h

/-! ## Runs -/

/-- A packet for the peer that `ip_sed_process` can be given. -/
def ForPeer (c : Sending) : Prop := c.dst = peer ∧ c.packet.length < 65536

theorem trace_sends {cs : List Sending} {card : Nat} {d : DeviceItem} (hr : Booted k r)
    (hcs : ∀ c ∈ cs, ForPeer c) (h : Egress k card d) :
    (Monitor.final Sending.exec r cs).wait = r.wait ∧
      sent (Monitor.trace Sending.exec r cs) =
        cs.map fun c => (card, false, ethFrame peerMac d.macAddr c.packet) := by
  induction cs generalizing r with
  | nil => exact ⟨rfl, rfl⟩
  | cons c cs ih =>
      obtain ⟨⟨hdst, hfits⟩, hrest⟩ := List.forall_mem_cons.mp hcs
      obtain ⟨hwait, hsent⟩ := exec_sends hr hdst hfits h
      obtain ⟨hwait', hsent'⟩ := ih (booted_exec c hr) hrest
      have happend (log log' : List Event) : sent (log ++ log') = sent log ++ sent log' :=
        List.filterMap_append
      rw [Monitor.final_cons, Monitor.trace, happend, hwait', hwait, hsent, hsent', List.map_cons]
      exact ⟨rfl, rfl⟩

theorem trace_dropped {cs : List Sending} (hr : Booted k r) (hcs : ∀ c ∈ cs, ForPeer c)
    (h : cardNamed (bootDevices k) "eth4" = none) :
    Monitor.final Sending.exec r cs = r ∧ Monitor.trace Sending.exec r cs = [] := by
  induction cs with
  | nil => exact ⟨rfl, rfl⟩
  | cons c cs ih =>
      obtain ⟨hhere, hrest⟩ := List.forall_mem_cons.mp hcs
      rw [Monitor.final_cons, Monitor.trace, exec_dropped hr hhere.1 h, List.nil_append]
      exact ih hrest

end Peer

theorem Wellformed.length_lt {p : List UInt8} {src dst : UInt32} {sport dport : Int}
    (h : Wellformed p src dst sport dport) : p.length < 65536 := by
  have htotal : be16 (packetMem p) (0 + 2) = p.length := congrArg IpWire.totalLen h.ip
  rw [← htotal, be16_eq_swap16]
  exact UInt16.toNat_lt _

/-- Whatever the cards and the frames that come in, in a run whose wake-ups find the
ring ready: with an interface `eth4` every packet the program hands over leaves in
one frame to the peer's address, in order, and without one nothing leaves.  No packet
ever waits. -/
theorem frames_on_wire {k : Kernel} {wire : List (List UInt8)} {buf : Mem} {s : State}
    {as : List Act} (hrun : Run (Guard Ready (Step (bootDevices k))) (start wire buf) as s)
    (cs : List Sending)
    (hcs : cs.map Sending.arguments = packets s.log) :
    (∀ c ∈ cs, Wellformed c.packet tcpInitial.sip peer 49101 30000) ∧
      (Monitor.final Sending.exec (bootRouter k) cs).wait = startBuf ∧
      ((∃ card d, Egress k card d ∧
          sent (Monitor.trace Sending.exec (bootRouter k) cs) =
            cs.map fun c => (card, false, ethFrame peerMac d.macAddr c.packet)) ∨
        cardNamed (bootDevices k) "eth4" = none ∧
          sent (Monitor.trace Sending.exec (bootRouter k) cs) = []) := by
  have hwell (c : Sending) (hc : c ∈ cs) :
      c.dst = peer ∧ Wellformed c.packet tcpInitial.sip peer 49101 30000 := by
    have hmem : c.arguments ∈ packets s.log := hcs ▸ List.mem_map_of_mem hc
    obtain ⟨status, he⟩ := mem_packets hmem
    obtain ⟨hsrc, hdst, hpacket⟩ := ofConnection_log hrun _ he
    have hpeer : c.dst = peer := hdst.trans (by decide)
    simp only [Sending.arguments] at hsrc hpacket
    rw [hsrc, hpeer] at hpacket
    exact ⟨hpeer, hpacket⟩
  have hfor (c : Sending) (hc : c ∈ cs) : ForPeer c := by
    obtain ⟨hdst, hpacket⟩ := hwell c hc
    exact ⟨hdst, Wellformed.length_lt hpacket⟩
  refine ⟨fun c hc => (hwell c hc).2, ?_⟩
  have hboot : Booted k (bootRouter k) := rfl
  cases hindex : cardNamed (bootDevices k) "eth4" with
  | none =>
      obtain ⟨hfinal, htrace⟩ := trace_dropped hboot hfor hindex
      rw [hfinal, htrace]
      exact ⟨rfl, .inr ⟨rfl, rfl⟩⟩
  | some index =>
      obtain ⟨card, d, hegress⟩ := exists_egress hindex
      obtain ⟨hwait, hsent⟩ := trace_sends hboot hfor hegress
      exact ⟨hwait, .inl ⟨card, d, hegress, hsent⟩⟩

/-! The packets of the session. -/

def callsOf (log : List TcpEvent) : List Sending :=
  (packets log).map fun x =>
    { packet := x.1, src := x.2.1, dst := x.2.2, rest := fun _ => 0xaa, u := zeroUndef }

theorem arguments_callsOf (log : List TcpEvent) :
    (callsOf log).map Sending.arguments = packets log := by
  rw [callsOf, List.map_map]
  exact List.map_id _

theorem session_on_wire :
    ∃ as s, Run (Guard Ready (Step (bootDevices eth4Kernel))) (start sessionWire fun _ => 0)
        (wokenEarly ++ as) s ∧
      s.handled = [arrival 7 synAckSegment, arrival 3 dataSegment] ∧
      sent (Monitor.trace Sending.exec (bootRouter eth4Kernel) (callsOf s.log)) =
        (callsOf s.log).map fun c =>
          (0, false, ethFrame peerMac (macOf 0 12 41 97 26 208) c.packet) := by
  obtain ⟨as, s, hrun, -, hhandled⟩ := exists_session 3
  refine ⟨as, s, hrun, hhandled, ?_⟩
  obtain ⟨-, -, ⟨card, d, ⟨⟨index, hindex, hcard⟩, hd⟩, hsent⟩ | ⟨hnone, -⟩⟩ :=
    frames_on_wire hrun (callsOf s.log) (arguments_callsOf s.log)
  · have hzero : getnetcard (bootDevices eth4Kernel) peer = some 0 := by decide
    rw [hzero] at hcard
    rw [hcard] at hd hsent
    rw [hsent, ← Option.some.inj hd]
    rfl
  · exact absurd hnone (by decide)

end VpnRouter.Program
