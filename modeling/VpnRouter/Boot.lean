import VpnRouter.InOut
import VpnRouter.Network

/-!
# The start of the program

`initial_route` of `header.h`, which fills the tables.  The routes, the tunnel and
the ARP entries are written into the program; only the cards come from the
kernel.
-/

namespace VpnRouter

open Lib.Memory

/-- `inet_addr` of the text with these four numbers. -/
def inetAddr (a b c d : UInt8) : UInt32 :=
  UInt32.ofNat (a.toNat + 256 * b.toNat + 65536 * c.toNat + 16777216 * d.toNat)

def initialRoute (r : Router) (k : Kernel) : Router :=
  let r := { r with routeInfo := [], arpTable := [], device := [], vpnRoute := [] }
  let r := { r with device := initialVpnDevice (initialDevice k) }
  let r := { r with
    vpnRoute := addVpnRoute r.vpnRoute (inetAddr 192 168 2 10) (inetAddr 192 168 3 0)
      (inetAddr 255 255 255 0) }
  let r := { r with
    routeInfo := addRoute r.routeInfo (inetAddr 192 168 1 0) (inetAddr 192 168 1 2)
      (inetAddr 255 255 255 0) "eth4" }
  let r := { r with
    routeInfo := addRoute r.routeInfo (inetAddr 192 168 2 0) (inetAddr 192 168 2 10)
      (inetAddr 255 255 255 0) "eth5" }
  let r := { r with
    routeInfo := addRoute r.routeInfo (inetAddr 192 168 3 0) (inetAddr 192 168 3 2)
      (inetAddr 255 255 255 0) "vpn_eth0" }
  let r := { r with
    arpTable := addArpItem r.arpTable (inetAddr 192 168 2 10)
      (macOf 0x00 0x0c 0x29 0x6c 0x35 0xc5) }
  let r := { r with
    arpTable := addArpItem r.arpTable (inetAddr 192 168 1 1)
      (macOf 0x00 0x0c 0x29 0xde 0xdb 0xeb) }
  { r with
    arpTable := addArpItem r.arpTable (inetAddr 192 168 1 2)
      (macOf 0x00 0x0c 0x29 0x42 0xaf 0x37) }

/-- The globals are cleared when the program starts. -/
def bootRouter (k : Kernel) : Router := initialRoute bareRouter k

/-! The entries that `initial_route` adds. -/

def eth4Route : RouteItem :=
  { destination := inetAddr 192 168 1 0, gateway := inetAddr 192 168 1 2,
    netmask := inetAddr 255 255 255 0, interface := "eth4" }

def eth5Route : RouteItem :=
  { destination := inetAddr 192 168 2 0, gateway := inetAddr 192 168 2 10,
    netmask := inetAddr 255 255 255 0, interface := "eth5" }

def tunnelledRoute : RouteItem :=
  { destination := inetAddr 192 168 3 0, gateway := inetAddr 192 168 3 2,
    netmask := inetAddr 255 255 255 0, interface := "vpn_eth0" }

def siteTunnel : VpnRouteTable :=
  { des := inetAddr 192 168 2 10, vpnDes := inetAddr 192 168 3 0,
    netmask := inetAddr 255 255 255 0 }

theorem bootRouter_routeInfo (k : Kernel) :
    (bootRouter k).routeInfo = [eth4Route, eth5Route, tunnelledRoute] := rfl

@[simp] theorem bootRouter_device (k : Kernel) : (bootRouter k).device = bootDevices k := rfl

theorem tunnelsRouted_bootRouter (k : Kernel) : TunnelsRouted (bootRouter k) := by
  apply tunnelsRouted_of_covered
  intro route hroute d hd hname hvpn
  have hvpnName : d.interface = "vpn_eth0" := vpn_of_bootDevices hd (by omega)
  rw [hvpnName] at hname
  have hroutes : route ∈ [eth4Route, eth5Route, tunnelledRoute] := hroute
  simp only [List.mem_cons, List.not_mem_nil, or_false] at hroutes
  rcases hroutes with rfl | rfl | rfl
  · exact absurd hname (by decide)
  · exact absurd hname (by decide)
  · exact ⟨siteTunnel, List.mem_cons_self, rfl, by decide⟩

/-! ## The tunnel of the gateway -/

section Gateway

variable {k : Kernel} {p : Packet}

theorem cardNamed_vpn (hnames : ∀ d ∈ initialDevice k, d.interface ≠ "vpn_eth0") :
    cardNamed (bootDevices k) "vpn_eth0" = some (initialDevice k).length := by
  rw [cardNamed_iff]
  constructor
  · refine ⟨_, List.getElem?_concat_length, rfl⟩
  · intro i d hi hd
    rw [bootDevices, initialVpnDevice, List.getElem?_append_left hi] at hd
    exact hnames d (List.mem_of_getElem? hd)

/-- The lookups of a packet for the other site. -/
def bootEntry (hnames : ∀ d ∈ initialDevice k, d.interface ≠ "vpn_eth0")
    (hsite : p.dst &&& inetAddr 255 255 255 0 = inetAddr 192 168 3 0)
    (hme : whetherIpMe (bootDevices k) p.dst < 0) {egress : Nat}
    (hsubnet : getnetcard (bootDevices k) (inetAddr 192 168 2 10) = some egress) :
    TunnelEntry (bootRouter k) p.dst (inetAddr 192 168 2 10) where
  notMe := hme
  index := (initialDevice k).length
  routed := by
    have hfirst : (bootRouter k).routeInfo.find? (cmpWhichNet p.dst) = some tunnelledRoute := by
      have hmask : cmpWhichNet p.dst eth4Route = false ∧ cmpWhichNet p.dst eth5Route = false ∧
          cmpWhichNet p.dst tunnelledRoute = true := by
        simp only [cmpWhichNet, eth4Route, eth5Route, tunnelledRoute, hsite]
        decide
      rw [bootRouter_routeInfo]
      simp only [List.find?_cons, hmask]
    rw [bootRouter_device, reroute_of_first hfirst (cardNamed_vpn hnames)]
  tunnel := by
    intro d hd
    rw [bootRouter_device, bootDevices, initialVpnDevice, List.getElem?_concat_length] at hd
    rw [← Option.some.inj hd]
    decide
  vpnRoute := by
    have hin : inVpnNet p.dst siteTunnel = true := by
      rw [inVpnNet_iff]
      exact hsite
    have htable : (bootRouter k).vpnRoute = [siteTunnel] := rfl
    rw [checkVpnRoute_eq, htable, List.find?_cons, hin]
    rfl
  egress := egress
  inSubnet := hsubnet
  netcard := 0
  cached := rfl

/-- A packet for 192.168.3.0/24 leaves for 192.168.2.10 behind an outer header, on
every machine that has a card in the subnet of that address. -/
theorem gateway_tunnels (u : Undef) (rest : Mem) (hfits : p.bytes.length ≤ 4062)
    (hnames : ∀ d ∈ initialDevice k, d.interface ≠ "vpn_eth0")
    (hsite : p.dst &&& inetAddr 255 255 255 0 = inetAddr 192 168 3 0)
    (hme : whetherIpMe (bootDevices k) p.dst < 0) {egress : Nat}
    (hsubnet : getnetcard (bootDevices k) (inetAddr 192 168 2 10) = some egress) :
    ∃ header d, HeaderTo (inetAddr 192 168 2 10) header p.bytes ∧
      (bootDevices k)[egress]? = some d ∧
      sent (receive (bootRouter k) u p rest).2 =
        [(egress, true,
          ethFrame (macOf 0x00 0x0c 0x29 0x6c 0x35 0xc5) d.macAddr (header ++ p.bytes))] := by
  let h := bootEntry hnames hsite hme hsubnet
  have hload : load (h.packed p rest) 14 (p.bytes.length + 20) =
      load (h.packed p rest) 14 20 ++ p.bytes := by
    rw [Nat.add_comm, load_add, h.load_packed p rest]
  refine ⟨load (h.packed p rest) 14 20, h.card, headerTo_ipPack _ hfits _ _ rfl, ?_, ?_⟩
  · exact List.getElem?_eq_getElem (getnetcard_lt hsubnet)
  · rw [receive_entry h u rest, hload]
    rfl

end Gateway

/-! The gateway with `eth4` and `eth5`. -/

def gatewayAnswers (name : String) : IfAnswers :=
  if name = "eth4" then eth4Answers
  else
    { hwaddr := some (macOf 0 12 41 97 26 218), addr := some (inetAddr 192 168 2 1),
      netmask := some (inetAddr 255 255 255 0) }

def gatewayKernel : Kernel where
  procNetDev := some [[], [], ['e', 't', 'h', '4', ':', ' ', '0', '\n'],
    ['e', 't', 'h', '5', ':', ' ', '0', '\n']]
  socket := some gatewayAnswers

def toOtherSite : Packet := emptyPacket 64 (inetAddr 192 168 1 5) (inetAddr 192 168 3 7)

theorem other_site_tunnelled :
    ∃ header d, HeaderTo (inetAddr 192 168 2 10) header toOtherSite.bytes ∧
      (bootDevices gatewayKernel)[1]? = some d ∧
      sent (receive (bootRouter gatewayKernel) zeroUndef toOtherSite fun _ => 0).2 =
        [(1, true,
          ethFrame (macOf 0x00 0x0c 0x29 0x6c 0x35 0xc5) d.macAddr
            (header ++ toOtherSite.bytes))] :=
  gateway_tunnels zeroUndef _ (by decide) (by decide) (by decide) (by decide) (by decide)

end VpnRouter
