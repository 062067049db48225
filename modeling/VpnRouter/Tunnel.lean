import VpnRouter.NextHop

/-!
# Through the tunnel

A packet that one router sends through its tunnel device carries an outer
header for the tunnel endpoint (`receive_entry`), and the router at the
endpoint takes that header off again (`receive_exit`).  Together the two leave
the packet as it was.
-/

namespace VpnRouter

open Lib.Memory

/-- The outer header of the tunnel, in front of a packet of `len` bytes. -/
structure TunnelHeader (m : Mem) (a len : Nat) (endpoint : UInt32) : Prop where
  version : Ip4hdr.version m a = 4
  headLen : Ip4hdr.headLen m a * 4 = 20
  protocal : Ip4hdr.protocal m a = IP_PROTOPPTP
  dstAddr : Ip4hdr.dstAddr m a = endpoint
  totalLen : (htons (Ip4hdr.totalLen m a)).toNat = len + 20
  cksum : inCksum m a 20 = 0

theorem TunnelHeader.congr {m m' : Mem} {a a' len : Nat} {endpoint : UInt32}
    (h : TunnelHeader m a len endpoint) (heq : ∀ i, i < 20 → m' (a' + i) = m (a + i)) :
    TunnelHeader m' a' len endpoint := by
  have hfirst : m' a' = m a := heq 0 (by omega)
  have htotal : get16 m' (a' + 2) = get16 m (a + 2) := by
    apply get16_congr
    intro i hi
    rw [Nat.add_assoc, Nat.add_assoc, heq (2 + i) (by omega)]
  have hdst : get32 m' (a' + 16) = get32 m (a + 16) := by
    apply get32_congr
    intro i hi
    rw [Nat.add_assoc, Nat.add_assoc, heq (16 + i) (by omega)]
  have hproto : m' (a' + 9) = m (a + 9) := heq 9 (by omega)
  have hsum : inCksum m' a' 20 = inCksum m a 20 := inCksum_congr heq
  constructor
  · rw [Ip4hdr.version, hfirst]
    exact h.version
  · rw [Ip4hdr.headLen, hfirst]
    exact h.headLen
  · rw [Ip4hdr.protocal, hproto]
    exact h.protocal
  · rw [Ip4hdr.dstAddr, hdst]
    exact h.dstAddr
  · rw [Ip4hdr.totalLen, htotal]
    exact h.totalLen
  · rw [hsum]
    exact h.cksum

theorem tunnelHeader_ipPack (m : Mem) (a : Nat) {len : Nat} (hlen : len + 20 ≤ 65535)
    (src endpoint : UInt32) :
    TunnelHeader (ipPack m a 20 ((len : Int) + 20) 1 0 60 100 src endpoint) a len endpoint := by
  constructor
  · exact ipPack_version ..
  · rw [ipPack_headLen]
  · exact ipPack_protocal ..
  · exact ipPack_dstAddr ..
  · rw [ipPack_totalLen, htons_htons, toU16, UInt16.toNat_ofNat']
    omega
  · exact inCksum_ipPack _ _ _ _ _ _ _ _ _ _ (le_refl 20) (by omega)

/-! ## Into the tunnel -/

/-- Router `r` sends what is addressed to `addr` through the tunnel to
`endpoint`, one of its cards has the endpoint in its subnet, and the ARP cache
holds it. -/
structure TunnelEntry (r : Router) (addr endpoint : UInt32) where
  notMe : whetherIpMe r.device addr < 0
  index : Nat
  routed : (reroute r.device r.routeInfo addr addr).1 = some index
  tunnel : ∀ d, r.device[index]? = some d → 0 < d.vpn
  vpnRoute : checkVpnRoute r.vpnRoute addr = some endpoint
  egress : Nat
  inSubnet : getnetcard r.device endpoint = some egress
  netcard : Nat
  cached : searchArpCache r.arpTable endpoint = some netcard

namespace TunnelEntry

variable {r : Router} {addr endpoint : UInt32}

def mac (h : TunnelEntry r addr endpoint) : Mac :=
  (r.arpTable.get ⟨h.netcard, searchArpCache_lt h.cached⟩).macAddr

def card (h : TunnelEntry r addr endpoint) : DeviceItem :=
  r.device.get ⟨h.egress, getnetcard_lt h.inSubnet⟩

theorem deviceAt_index (h : TunnelEntry r addr endpoint) (u : Undef) :
    0 < (deviceAt r u (some h.index)).vpn := by
  have hcard := List.getElem?_eq_getElem (reroute_lt h.routed)
  rw [deviceAt_some hcard]
  exact h.tunnel _ hcard

theorem deviceAt_egress (h : TunnelEntry r addr endpoint) (u : Undef) :
    deviceAt r u (some h.egress) = h.card :=
  deviceAt_some (List.getElem?_eq_getElem (getnetcard_lt h.inSubnet))

/-- The static buffer once `repack_vpn` has put the outer header in front of
the packet. -/
def packed (h : TunnelEntry r addr endpoint) (p : Packet) (rest : Mem) : Mem :=
  ipPack (copy r.buff 34 (p.mem rest) 0 p.bytes.length) 14 20 ((p.bytes.length : Int) + 20) 1 0 60
    100 h.card.ip endpoint

theorem load_packed (h : TunnelEntry r addr endpoint) (p : Packet) (rest : Mem) :
    load (h.packed p rest) 34 p.bytes.length = p.bytes := by
  have hpack (i : Nat) : h.packed p rest (34 + i) =
      copy r.buff 34 (p.mem rest) 0 p.bytes.length (34 + i) :=
    ipPack_outside _ _ _ _ _ _ _ _ _ _ (by omega)
  calc load (h.packed p rest) 34 p.bytes.length
      = load (copy r.buff 34 (p.mem rest) 0 p.bytes.length) 34 p.bytes.length :=
        load_congr fun i _ => hpack i
    _ = load (p.mem rest) 0 p.bytes.length := load_copy_same ..
    _ = p.bytes := p.load_mem rest

end TunnelEntry

theorem receive_entry {r : Router} {endpoint : UInt32} {p : Packet}
    (h : TunnelEntry r p.dst endpoint) (u : Undef) (rest : Mem) :
    sent (receive r u p rest).2 =
      [(h.egress, true,
        ethFrame h.mac h.card.macAddr (load (h.packed p rest) 14 (p.bytes.length + 20)))] := by
  have hp := p.fits
  have hsize : sizeT (p.bytes.length : Int) = p.bytes.length := sizeT_natCast (by omega)
  have hforward : forwardAddr r u p.dst = p.dst := by
    have hvpn := h.deviceAt_index u
    have hindex : (reroute r.device r.routeInfo p.dst u.dst).1 = some h.index := by
      rw [reroute_fst p.dst u.dst p.dst, h.routed]
    rw [forwardAddr, hindex, if_neg (by omega)]
  have hpacked : repackVpn r u 0 p.dst (copy r.buff 34 (p.mem rest) 0 p.bytes.length) 14
      p.bytes.length = (1, h.card.ip, endpoint, h.packed p rest) := by
    simp only [repackVpn, h.vpnRoute, h.inSubnet, h.deviceAt_egress, TunnelEntry.packed]
  obtain ⟨i, hlog⟩ := receive_forward u rest h.notMe
  rw [hlog, sent_deviceRead, hforward, ipSedProcess_tunnel h.routed (h.deviceAt_index u),
    sent_memcpy, hsize, hpacked]
  have hlen : ((p.bytes.length : Int) + 20) = ((p.bytes.length + 20 : Nat) : Int) := rfl
  rw [hlen, sedTransmit_hit (by omega) h.cached, h.inSubnet, Option.getD_some,
    h.deviceAt_egress]
  rfl

/-! ## Out of the tunnel -/

/-- Router `r` is the endpoint and sends what is addressed to `addr` on through
a network card; the ARP cache holds `addr`. -/
structure TunnelExit (r : Router) (addr endpoint : UInt32) where
  me : 0 < whetherIpMe r.device endpoint
  notMe : whetherIpMe r.device addr < 0
  index : Nat
  routed : (reroute r.device r.routeInfo addr addr).1 = some index
  physical : ∀ d, r.device[index]? = some d → d.vpn = 0
  netcard : Nat
  cached : searchArpCache r.arpTable addr = some netcard

theorem receive_exit {r : Router} {addr endpoint : UInt32} (h : TunnelExit r addr endpoint)
    (u : Undef) (q : Packet) (rest : Mem) {len : Nat} (hlen : q.bytes.length = len + 20)
    (houter : TunnelHeader (q.mem rest) 0 len endpoint)
    (hinner : Ip4hdr.dstAddr (shift (q.mem rest) 20) 0 = addr) :
    ∃ card dst src, sent (receive r u q rest).2 =
      [(card, false, ethFrame dst src (q.bytes.drop 20))] := by
  have hq := q.fits
  have hme := whetherIpMe_neg.not.mpr (not_not_intro h.me)
  have hinnerMe : ¬ whetherIpMe r.device addr > 0 := whetherIpMe_neg.mp h.notMe
  have hsub : (q.bytes.length : Int) - ((20 : Nat) : Int) = len := by omega
  have hcard := List.getElem?_eq_getElem (reroute_lt h.routed)
  have hplain : ¬ 0 < (deviceAt r u (some h.index)).vpn := by
    rw [deviceAt_some hcard, h.physical _ hcard]
    omega
  have hpayload : load (shift (q.mem rest) 20) 0 len = q.bytes.drop 20 := by
    have hdrop := drop_load (q.mem rest) 0 q.bytes.length 20
    rw [Packet.load_mem, hlen, Nat.add_sub_cancel, Nat.zero_add] at hdrop
    rw [load_shift, hdrop]
  have hunpack : unpackVpn r (shift (q.mem rest) 20) (toU32 len) =
      { mark := 1, buf := shift (q.mem rest) 20, len := toU32 len,
        src := Ip4hdr.srcAddr (shift (q.mem rest) 20) 0, dst := addr,
        log := [.unpackVpn (toU32 len) (toU32 len) 1] } := by
    simp only [unpackVpn, hinner, if_neg hinnerMe]
  simp only [receive, ipRecProcess, houter.dstAddr, if_neg hme, houter.protocal, if_true,
    houter.headLen, hsub, hunpack, if_neg (show ¬ (1 : Int) < 0 by decide),
    ofU32_toU32 (show len < 2 ^ 31 by omega), List.cons_append, List.nil_append, sent_unpackVpn,
    ipSedProcess_sends (show len + 14 < 2 ^ 64 by omega) h.routed hplain h.cached, sent_memcpy,
    hpayload]
  exact ⟨_, _, _, rfl⟩

/-! ## Both ends -/

theorem tunnel_identity (A B : Router) (uA uB : Undef) (p : Packet) (restA restB : Mem)
    (hsize : p.bytes.length ≤ 4062) (endpoint : UInt32) (entry : TunnelEntry A p.dst endpoint)
    (exit : TunnelExit B p.dst endpoint) :
    ∃ frame, sent (receive A uA p restA).2 = [(entry.egress, true, frame)] ∧
      frame.take 6 = entry.mac.toList ∧
      ∃ q : Packet, q.bytes = frame.drop 14 ∧
        TunnelHeader (q.mem restB) 0 p.bytes.length endpoint ∧
        ∃ card back, sent (receive B uB q restB).2 = [(card, false, back)] ∧
          back.drop 14 = p.bytes := by
  let m := entry.packed p restA
  let q : Packet :=
    { bytes := load m 14 (p.bytes.length + 20)
      header := by simp
      fits := by
        rw [length_load]
        omega }
  have hq (i : Nat) (hi : i < p.bytes.length + 20) : q.mem restB i = m (14 + i) := by
    have hi' : i < q.bytes.length := by simpa [q] using hi
    rw [Packet.mem, overlay_apply hi', getD_load hi]
  have houter : TunnelHeader (q.mem restB) 0 p.bytes.length endpoint := by
    apply (tunnelHeader_ipPack _ 14 (by omega) _ endpoint).congr
    intro i hi
    rw [Nat.zero_add, hq i (by omega)]
    rfl
  have hpacket : load m 34 p.bytes.length = p.bytes := entry.load_packed p restA
  have hdrop : q.bytes.drop 20 = p.bytes := by
    rw [drop_load, Nat.add_sub_cancel, hpacket]
  have hinner : Ip4hdr.dstAddr (shift (q.mem restB) 20) 0 = p.dst := by
    have hheader := p.header
    apply get32_congr
    intro i hi
    have hp := load_eq_iff.mp hpacket (16 + i) (by omega)
    rw [shift, hq _ (by omega), Packet.mem, Nat.zero_add, overlay_apply (by omega), ← hp,
      show 14 + (20 + (16 + i)) = 34 + (16 + i) by omega]
  obtain ⟨card, dst, src, hback⟩ :=
    receive_exit exit uB q restB (by simp [q]) houter hinner
  refine ⟨_, receive_entry entry uA restA, take_ethFrame _ _ _, q, ?_, houter, card, _, hback, ?_⟩
  · rw [drop_ethFrame]
  · rw [drop_ethFrame, hdrop]

/-! Two sites on 10.0.0.0/24, with 192.168.2.0/24 behind the second. -/

def siteNet : RouteItem :=
  { destination := 0x0002a8c0, gateway := 0, netmask := 0x00ffffff, interface := "vpn_eth0" }

def siteA : Router where
  routeInfo := [siteNet]
  arpTable := [{ ipAddr := 0x0200000a, macAddr := macOf 2 0 0 0 0 2 }]
  device := [
    { interface := "eth0", macAddr := macOf 2 0 0 0 0 1, ip := 0x0100000a,
      netmask := 0x00ffffff, vpn := 0 },
    { interface := "vpn_eth0", macAddr := macOf 0 0 0 0 0 0, ip := 0x010aa8c0,
      netmask := 0x00ffffff, vpn := 1 }]
  vpnRoute := [{ des := 0x0200000a, vpnDes := 0x0002a8c0, netmask := 0x00ffffff }]
  wait := ArpWait.startBuf
  buff := fun _ => 0

def siteB : Router where
  routeInfo := [{ siteNet with interface := "eth1" }]
  arpTable := [{ ipAddr := 0x0502a8c0, macAddr := macOf 2 0 0 0 0 5 }]
  device := [
    { interface := "eth0", macAddr := macOf 2 0 0 0 0 2, ip := 0x0200000a,
      netmask := 0x00ffffff, vpn := 0 },
    { interface := "eth1", macAddr := macOf 2 0 0 0 0 3, ip := 0x0103a8c0,
      netmask := 0x00ffffff, vpn := 0 }]
  vpnRoute := []
  wait := ArpWait.startBuf
  buff := fun _ => 0

def toSiteB : Packet := emptyPacket 64 0x0505a8c0 0x0502a8c0

def entryA : TunnelEntry siteA toSiteB.dst 0x0200000a where
  notMe := by decide
  index := 1
  routed := by decide
  tunnel := by
    intro d hd
    cases hd
    decide
  vpnRoute := by decide
  egress := 0
  inSubnet := by decide
  netcard := 0
  cached := by decide

def exitB : TunnelExit siteB toSiteB.dst 0x0200000a where
  me := by decide
  notMe := by decide
  index := 1
  routed := by decide
  physical := by
    intro d hd
    cases hd
    rfl
  netcard := 0
  cached := by decide

theorem site_tunnel :
    ∃ frame, sent (receive siteA zeroUndef toSiteB fun _ => 0).2 = [(0, true, frame)] ∧
      frame.take 6 = [2, 0, 0, 0, 0, 2] ∧
      ∃ q : Packet, q.bytes = frame.drop 14 ∧
        TunnelHeader (q.mem fun _ => 0) 0 20 0x0200000a ∧
        ∃ card back, sent (receive siteB zeroUndef q fun _ => 0).2 = [(card, false, back)] ∧
          back.drop 14 = toSiteB.bytes :=
  tunnel_identity siteA siteB zeroUndef zeroUndef toSiteB _ _ (by decide) 0x0200000a entryA exitB

end VpnRouter
