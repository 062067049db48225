import VpnRouter.Data

/-!
# Table lookups

The routing, device, ARP and VPN tables of `header.h` and `function_head.c`.
Every lookup is a scan for the first matching entry.  A lookup that the source
answers with -1 is `none` here.
-/

namespace VpnRouter

def MAX_ARP_SIZE : Nat := 512

def MAX_DEVICE : Nat := 10

/-- The size of `route_info` and of `vpn_route`. -/
def MAX_ROUTE_INFO : Nat := 20

variable (routes : List RouteItem) (devices : List DeviceItem)

def addRoute (des gw netmask : UInt32) (interface : String) : List RouteItem :=
  routes ++ [{ destination := des, gateway := gw, netmask := netmask, interface := interface }]

def addVpnRoute (table : List VpnRouteTable) (des vpnDes netmask : UInt32) :
    List VpnRouteTable :=
  table ++ [{ des := des, vpnDes := vpnDes, netmask := netmask }]

def addArpItem (table : List ArpTableItem) (addr : UInt32) (mac : Mac) : List ArpTableItem :=
  table ++ [{ ipAddr := addr, macAddr := mac }]

def cmpWhichNet (addr : UInt32) (r : RouteItem) : Bool :=
  addr &&& r.netmask == r.destination

def cardNamed (interface : String) : Option Nat :=
  devices.findIdx? fun d => d.interface == interface

/-- `reroute` returns the card and writes `*dst`: every matching route leaves
its gateway there, also one whose interface no device has. -/
def reroute : List RouteItem → UInt32 → UInt32 → Option Nat × UInt32
  | [], _, dst => (none, dst)
  | r :: rest, addr, dst =>
      if cmpWhichNet addr r then
        match cardNamed devices r.interface with
        | some j => (some j, r.gateway)
        | none => reroute rest addr r.gateway
      else reroute rest addr dst

def searchArpCache (table : List ArpTableItem) (addr : UInt32) : Option Nat :=
  table.findIdx? fun e => e.ipAddr == addr

def checkVpnRoute (table : List VpnRouteTable) (addr : UInt32) : Option UInt32 :=
  (table.find? fun v => addr &&& v.netmask == v.vpnDes &&& v.netmask).map (·.des)

/-- `getnetcard` writes `*num` only when it returns 1. -/
def getnetcard (addr : UInt32) : Option Nat :=
  devices.findIdx? fun d => cmpIpNetMask addr d.ip d.netmask

def whetherIpMe (addr : UInt32) : Int :=
  if devices.any fun d => cmpIpNetMask addr d.ip d.netmask then 1 else -1

/-! ## What the lookups return -/

variable {routes devices}

theorem cardNamed_lt {interface : String} {j : Nat} (h : cardNamed devices interface = some j) :
    j < devices.length :=
  (List.findIdx?_eq_some_iff_findIdx_eq.mp h).1

theorem getnetcard_lt {addr : UInt32} {k : Nat} (h : getnetcard devices addr = some k) :
    k < devices.length :=
  (List.findIdx?_eq_some_iff_findIdx_eq.mp h).1

theorem searchArpCache_lt {table : List ArpTableItem} {addr : UInt32} {a : Nat}
    (h : searchArpCache table addr = some a) : a < table.length :=
  (List.findIdx?_eq_some_iff_findIdx_eq.mp h).1

theorem reroute_fst (addr dst dst' : UInt32) :
    (reroute devices routes addr dst).1 = (reroute devices routes addr dst').1 := by
  induction routes generalizing dst dst' with
  | nil => rfl
  | cons r rest ih =>
      simp only [reroute]
      split
      · split
        · rfl
        · exact ih _ _
      · exact ih _ _

theorem reroute_lt {addr dst : UInt32} {j : Nat}
    (h : (reroute devices routes addr dst).1 = some j) : j < devices.length := by
  induction routes generalizing dst with
  | nil => simp [reroute] at h
  | cons r rest ih =>
      simp only [reroute] at h
      split at h
      · split at h
        · rename_i hcard
          exact Option.some.inj h ▸ cardNamed_lt hcard
        · exact ih h
      · exact ih h

/-- The first matching route decides when a device has its interface. -/
theorem reroute_of_first {addr dst : UInt32} {r : RouteItem} {j : Nat}
    (hfirst : routes.find? (cmpWhichNet addr) = some r)
    (hcard : cardNamed devices r.interface = some j) :
    reroute devices routes addr dst = (some j, r.gateway) := by
  induction routes generalizing dst with
  | nil => simp at hfirst
  | cons s rest ih =>
      rw [List.find?_cons] at hfirst
      simp only [reroute]
      cases hs : cmpWhichNet addr s with
      | true =>
          rw [hs] at hfirst
          rw [Option.some.inj hfirst, hcard]
          rfl
      | false =>
          rw [hs] at hfirst
          exact ih hfirst

theorem reroute_of_no_match {addr dst : UInt32}
    (h : routes.find? (cmpWhichNet addr) = none) :
    reroute devices routes addr dst = (none, dst) := by
  induction routes with
  | nil => rfl
  | cons r rest ih =>
      rw [List.find?_cons] at h
      rw [reroute]
      cases hr : cmpWhichNet addr r with
      | true =>
          rw [hr] at h
          exact absurd h (Option.some_ne_none r)
      | false =>
          rw [hr] at h
          exact ih h

theorem whetherIpMe_pos {addr : UInt32} :
    0 < whetherIpMe devices addr ↔ ∃ d ∈ devices, cmpIpNetMask addr d.ip d.netmask = true := by
  unfold whetherIpMe
  rw [← List.any_eq_true]
  split <;> simp_all

theorem whetherIpMe_neg {addr : UInt32} :
    whetherIpMe devices addr < 0 ↔ ¬ 0 < whetherIpMe devices addr := by
  unfold whetherIpMe
  split <;> decide

end VpnRouter
