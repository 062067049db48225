import VpnRouter.IpProcess

/-!
# Delivery to the next hop

`ip_rec_process` looks the destination up and passes the gateway on, and
`ip_sed_process` looks the address it is given up once more.  A packet whose
route leads to a known neighbour therefore leaves for that neighbour exactly
when the gateway has a route of its own through a network card.
-/

namespace VpnRouter

open Lib.Memory

/-- A next hop for `addr`: the first matching route names a network card, some
card has the gateway in its subnet, and the ARP cache holds the gateway. -/
structure NextHop (r : Router) (addr : UInt32) where
  route : RouteItem
  first : r.routeInfo.find? (cmpWhichNet addr) = some route
  card : Nat
  named : cardNamed r.device route.interface = some card
  physical : ∀ d, r.device[card]? = some d → d.vpn = 0
  egress : Nat
  inSubnet : getnetcard r.device route.gateway = some egress
  netcard : Nat
  cached : searchArpCache r.arpTable route.gateway = some netcard

namespace NextHop

variable {r : Router} {addr : UInt32}

def mac (h : NextHop r addr) : Mac :=
  (r.arpTable.get ⟨h.netcard, searchArpCache_lt h.cached⟩).macAddr

def cardMac (h : NextHop r addr) : Mac :=
  (r.device.get ⟨h.egress, getnetcard_lt h.inSubnet⟩).macAddr

theorem forwardAddr_eq (h : NextHop r addr) (u : Undef) :
    forwardAddr r u addr = h.route.gateway := by
  have hlt := cardNamed_lt h.named
  have hcard : r.device[h.card]? = some r.device[h.card] := List.getElem?_eq_getElem hlt
  unfold forwardAddr
  rw [reroute_of_first h.first h.named, deviceAt_some hcard, if_pos (h.physical _ hcard)]

end NextHop

def GatewayOnCard (r : Router) (gateway : UInt32) : Prop :=
  ∃ i d, (reroute r.device r.routeInfo gateway gateway).1 = some i ∧ r.device[i]? = some d ∧
    ¬ 0 < d.vpn

theorem next_hop_delivery_iff (r : Router) (u : Undef) (p : Packet) (rest : Mem)
    (hme : whetherIpMe r.device p.dst < 0) (hop : NextHop r p.dst) :
    sent (receive r u p rest).2 =
        [(hop.egress, false, ethFrame hop.mac hop.cardMac p.bytes)] ↔
      GatewayOnCard r hop.route.gateway := by
  obtain ⟨i, hlog⟩ := receive_forward u rest hme
  rw [hlog, hop.forwardAddr_eq, sent_deviceRead]
  cases hroute : (reroute r.device r.routeInfo hop.route.gateway hop.route.gateway).1 with
  | none =>
      rw [ipSedProcess_dropped hroute]
      constructor
      · intro h
        cases h
      · intro h
        obtain ⟨i, d, hi, -⟩ := h
        rw [hroute] at hi
        contradiction
  | some index =>
      have hdev : r.device[index]? = some (r.device.get ⟨index, reroute_lt hroute⟩) :=
        List.getElem?_eq_getElem (reroute_lt hroute)
      by_cases hvpn : 0 < (deviceAt r u (some index)).vpn
      · rw [ipSedProcess_tunnel hroute hvpn, sent_memcpy]
        constructor
        · intro h
          have htrue := sedTransmit_upVpn (h ▸ List.mem_singleton.mpr rfl)
          contradiction
        · intro h
          obtain ⟨i, d, hi, hd, hnot⟩ := h
          rw [hroute] at hi
          rw [← deviceAt_some (u := u) hd, ← Option.some.inj hi] at hnot
          contradiction
      · have hp := p.fits
        have hegress : r.device[hop.egress]? = some _ :=
          List.getElem?_eq_getElem (getnetcard_lt hop.inSubnet)
        rw [ipSedProcess_sends (by omega) hroute hvpn hop.cached, sent_memcpy, hop.inSubnet,
          Packet.load_mem, Option.getD_some, deviceAt_some hegress]
        refine iff_of_true rfl ⟨index, _, hroute, hdev, ?_⟩
        rwa [deviceAt_some hdev] at hvpn

/-! Two cards, and a neighbour on the second that is the gateway of 10.0.0.0/8. -/

def gatewayRoute : RouteItem :=
  { destination := 0x0000000a, gateway := 0x0201a8c0, netmask := 0x000000ff, interface := "eth4" }

def neighbourRoute : RouteItem :=
  { destination := 0x0001a8c0, gateway := 0, netmask := 0x00ffffff, interface := "eth4" }

def twoCards (routes : List RouteItem) : Router where
  routeInfo := routes
  arpTable := [{ ipAddr := 0x0201a8c0, macAddr := macOf 2 0 0 0 0 2 }]
  device := [
    { interface := "eth3", macAddr := macOf 2 0 0 0 0 3, ip := 0x0102a8c0,
      netmask := 0x00ffffff, vpn := 0 },
    { interface := "eth4", macAddr := macOf 2 0 0 0 0 4, ip := 0x0101a8c0,
      netmask := 0x00ffffff, vpn := 0 }]
  vpnRoute := []
  wait := ArpWait.startBuf
  buff := fun _ => 0

def toTenNet : Packet := emptyPacket 64 0x0302a8c0 0x0500000a

def hopTenNet (routes : List RouteItem) (h : routes.find? (cmpWhichNet toTenNet.dst) =
    some gatewayRoute) : NextHop (twoCards routes) toTenNet.dst where
  route := gatewayRoute
  first := h
  card := 1
  named := rfl
  physical := by
    intro d hd
    cases hd
    rfl
  egress := 1
  inSubnet := rfl
  netcard := 0
  cached := rfl

theorem ten_net_delivered :
    sent (receive (twoCards [gatewayRoute, neighbourRoute]) zeroUndef toTenNet fun _ => 0).2 =
      [(1, false, ethFrame (macOf 2 0 0 0 0 2) (macOf 2 0 0 0 0 4) toTenNet.bytes)] :=
  (next_hop_delivery_iff _ zeroUndef toTenNet _ (by decide) (hopTenNet _ (by decide))).mpr
    ⟨1, (twoCards []).device[1], by decide, rfl, by decide⟩

/-- Without a route of its own the gateway is not reached and the packet is
dropped, although card, subnet and MAC address are known. -/
theorem ten_net_dropped :
    ¬ ∀ (r : Router) (u : Undef) (p : Packet) (rest : Mem),
      whetherIpMe r.device p.dst < 0 → ∀ hop : NextHop r p.dst,
        sent (receive r u p rest).2 =
          [(hop.egress, false, ethFrame hop.mac hop.cardMac p.bytes)] := by
  intro h
  have hlog := h (twoCards [gatewayRoute]) zeroUndef toTenNet (fun _ => 0) (by decide)
    (hopTenNet _ (by decide))
  have hnone : sent (receive (twoCards [gatewayRoute]) zeroUndef toTenNet fun _ => 0).2 = [] := by
    decide
  rw [hnone] at hlog
  contradiction

end VpnRouter
