import VpnRouter.Lib.Memory
import Mathlib.Algebra.Group.Int.Defs

/-!
# Records and tables of the router

The structures of `essential_head.h` and the globals of `essential_data.c`.
Addresses and masks are the 32 bit words the source loads from the packet, in
network byte order and never swapped.  A table with its `..._index` counter is
a list: the counter is the length and an insertion appends.
-/

namespace VpnRouter

open Lib.Memory

abbrev Mac := Vector UInt8 6

def macOf (b0 b1 b2 b3 b4 b5 : UInt8) : Mac := #v[b0, b1, b2, b3, b4, b5]

/-- `struct route_item`; the source keeps each address in a 16 byte array and
uses only its first word. -/
structure RouteItem where
  destination : UInt32
  gateway : UInt32
  netmask : UInt32
  interface : String
deriving DecidableEq, Repr

structure ArpTableItem where
  ipAddr : UInt32
  macAddr : Mac
deriving DecidableEq, Repr

/-- `struct device_item`; `vpn` is 1 for the tunnel pseudo-device and 0 for a
network card. -/
structure DeviceItem where
  interface : String
  macAddr : Mac
  ip : UInt32
  netmask : UInt32
  vpn : Int
deriving DecidableEq, Repr

structure VpnRouteTable where
  des : UInt32
  vpnDes : UInt32
  netmask : UInt32
deriving DecidableEq, Repr

/-- One index of the four arrays `arp_wait_buf`, `arp_wait_len`, `arp_wait_ip`
and `arp_valid`. -/
structure WaitSlot where
  buf : Mem
  len : Int
  ip : UInt32
  valid : Bool

abbrev WaitBuf := Fin 10 → WaitSlot

/-- The globals the IP path works on, with the static frame buffer of
`ip_sed_process`. -/
structure Router where
  routeInfo : List RouteItem
  arpTable : List ArpTableItem
  device : List DeviceItem
  vpnRoute : List VpnRouteTable
  wait : WaitBuf
  buff : Mem

/-- What the source reads without having set it: the table entries at index -1
and the local variables a failed lookup leaves alone.  C gives these reads no
value, so every statement about the code is made for all of them. -/
structure Undef where
  /-- `device[-1]` in `ip_rec_process`. -/
  device : DeviceItem
  /-- `arp_table[-1].mac_addr` in `route`. -/
  mac : Mac
  /-- The local `dst` of `ip_rec_process`. -/
  dst : UInt32
  /-- `device[index].ip` in `repack_vpn` when no card was found. -/
  cardIp : UInt32

def zeroUndef : Undef where
  device := { interface := "", macAddr := macOf 0 0 0 0 0 0, ip := 0, netmask := 0, vpn := 0 }
  mac := macOf 0 0 0 0 0 0
  dst := 0
  cardIp := 0

def sizeT (n : Int) : Nat := (n % 2 ^ 64).toNat

theorem sizeT_natCast {n : Nat} (h : n < 2 ^ 64) : sizeT (n : Int) = n := by
  unfold sizeT
  omega

theorem sizeT_of_int {n : Int} (h : 0 ≤ n ∧ n < 2 ^ 31) : (sizeT n : Int) = n := by
  unfold sizeT
  omega

/-- The macro `cmp_ip_net_mask`. -/
def cmpIpNetMask (x y z : UInt32) : Bool := x &&& z == y &&& z

def htons : UInt16 → UInt16 := swap16

def htonl : UInt32 → UInt32 := swap32

@[simp] theorem htons_htons (v : UInt16) : htons (htons v) = v := swap16_swap16 v

@[simp] theorem htonl_htonl (v : UInt32) : htonl (htonl v) = v := swap32_swap32 v

end VpnRouter
