import VpnRouter.Arp
import VpnRouter.Device
import VpnRouter.Lib.Monitor
import Mathlib.Algebra.BigOperators.Group.List.Basic

/-!
# Table capacities

The four tables are arrays of fixed size, and every insertion writes at the
counter and advances it without a look at the size.  So a run stays in bounds
exactly when it inserts no more than fits (`capacity_iff`).
-/

namespace VpnRouter

open Lib Lib.Memory

inductive Table
  | device
  | routeInfo
  | vpnRoute
  | arpTable
deriving DecidableEq, Repr

def Table.capacity : Table → Nat
  | .device => MAX_DEVICE
  | .routeInfo => MAX_ROUTE_INFO
  | .vpnRoute => MAX_ROUTE_INFO
  | .arpTable => MAX_ARP_SIZE

/-- The tables with their counters, which are the lengths. -/
structure Tables where
  device : List DeviceItem
  routeInfo : List RouteItem
  vpnRoute : List VpnRouteTable
  arpTable : List ArpTableItem

def Tables.count (t : Tables) : Table → Nat
  | .device => t.device.length
  | .routeInfo => t.routeInfo.length
  | .vpnRoute => t.vpnRoute.length
  | .arpTable => t.arpTable.length

def Router.tables (r : Router) : Tables where
  device := r.device
  routeInfo := r.routeInfo
  vpnRoute := r.vpnRoute
  arpTable := r.arpTable

/-- What `initial_route` clears. -/
def clearedTables : Tables where
  device := []
  routeInfo := []
  vpnRoute := []
  arpTable := []

/-! ## The calls and what they write -/

/-- The cards `initial_device` finds in `/proc/net/dev`. -/
def cardsOf (k : Kernel) : List DeviceItem :=
  match k.procNetDev with
  | none => []
  | some lines => ((lines.drop 2).filterMap cardOfLine).map newCard

/-- `initial_device` on a table that is not empty. -/
def initialDeviceOn (k : Kernel) (devices : List DeviceItem) : List DeviceItem :=
  match k.procNetDev, k.socket with
  | some _, some ask => initialDeviceMacGetway ask (devices ++ cardsOf k)
  | _, _ => devices ++ cardsOf k

/-- The indices `initial_device_mac_getway` writes, up to the first failure. -/
def getwayWrites (ask : String → IfAnswers) (devices : List DeviceItem) : List Nat :=
  List.range (devices.takeWhile fun d => (ask d.interface).hwaddr.isSome).length

def initialDeviceWrites (k : Kernel) (devices : List DeviceItem) : List Nat :=
  List.range' devices.length (cardsOf k).length ++
    match k.procNetDev, k.socket with
    | some _, some ask => getwayWrites ask (devices ++ cardsOf k)
    | _, _ => []

inductive TableCall
  | initialDevice (k : Kernel)
  | initialVpnDevice
  | addRoute (des gw netmask : UInt32) (interface : String)
  | addVpnRoute (des vpnDes netmask : UInt32)
  | addArpItem (addr : UInt32) (mac : Mac)
  | handleArp (buf : Mem)

/-- A call with the table entries it writes. -/
def tableExec (t : Tables) : TableCall → Tables × List (Table × Nat)
  | .initialDevice k =>
      ({ t with device := initialDeviceOn k t.device },
        (initialDeviceWrites k t.device).map fun i => (.device, i))
  | .initialVpnDevice =>
      ({ t with device := VpnRouter.initialVpnDevice t.device }, [(.device, t.device.length)])
  | .addRoute des gw netmask interface =>
      ({ t with routeInfo := VpnRouter.addRoute t.routeInfo des gw netmask interface },
        [(.routeInfo, t.routeInfo.length)])
  | .addVpnRoute des vpnDes netmask =>
      ({ t with vpnRoute := VpnRouter.addVpnRoute t.vpnRoute des vpnDes netmask },
        [(.vpnRoute, t.vpnRoute.length)])
  | .addArpItem addr mac =>
      ({ t with arpTable := VpnRouter.addArpItem t.arpTable addr mac },
        [(.arpTable, t.arpTable.length)])
  | .handleArp buf =>
      if htons (ArpMsg.op buf 14) = ARP_REPLY then
        ({ t with
            arpTable := VpnRouter.addArpItem t.arpTable (ArpMsg.srcIp buf 14)
              (ArpMsg.srcMac buf 14) },
          [(.arpTable, t.arpTable.length)])
      else (t, [])

/-- How many entries a call inserts. -/
def TableCall.inserts : TableCall → Table → Nat
  | .initialDevice k, .device => (cardsOf k).length
  | .initialVpnDevice, .device => 1
  | .addRoute _ _ _ _, .routeInfo => 1
  | .addVpnRoute _ _ _, .vpnRoute => 1
  | .addArpItem _ _, .arpTable => 1
  | .handleArp buf, .arpTable => if htons (ArpMsg.op buf 14) = ARP_REPLY then 1 else 0
  | _, _ => 0

theorem initialDeviceOn_nil (k : Kernel) : initialDeviceOn k [] = initialDevice k := by
  obtain ⟨lines, ask⟩ := k
  cases lines with
  | none => rfl
  | some lines => cases ask <;> rfl

/-- `handle_arp` changes the tables like its call here. -/
theorem tables_handleArp {fuel : Nat} {r : Router} {u : Undef} {buf stack : Mem}
    {len length : Int} {out : Router × FlushRet}
    (h : handleArp fuel r u buf len stack length = some out) :
    out.1.tables = (tableExec r.tables (.handleArp buf)).1 := by
  have hne : ARP_REQUEST ≠ ARP_REPLY := by decide
  unfold handleArp at h
  split at h
  · rename_i hrequest
    rw [← Option.some.inj h, tableExec, if_neg (by rw [hrequest]; exact hne)]
  · split at h
    · rename_i hreply
      obtain ⟨f, -, hf⟩ := Option.map_eq_some_iff.mp h
      rw [← hf, tableExec, if_pos hreply]
      rfl
    · rename_i hreply
      rw [← Option.some.inj h, tableExec, if_neg hreply]

/-! ## One call -/

theorem length_initialDeviceMacGetway (ask : String → IfAnswers) (devices : List DeviceItem) :
    (initialDeviceMacGetway ask devices).length = devices.length := by
  have hlength := congrArg List.length (names_initialDeviceMacGetway ask devices)
  rwa [List.length_map, List.length_map] at hlength

theorem length_initialDeviceOn (k : Kernel) (devices : List DeviceItem) :
    (initialDeviceOn k devices).length = devices.length + (cardsOf k).length := by
  unfold initialDeviceOn
  split
  · rw [length_initialDeviceMacGetway, List.length_append]
  · rw [List.length_append]

theorem lt_of_mem_initialDeviceWrites {k : Kernel} {devices : List DeviceItem} {i : Nat}
    (h : i ∈ initialDeviceWrites k devices) : i < devices.length + (cardsOf k).length := by
  rcases List.mem_append.mp h with hcard | hgetway
  · exact (List.mem_range'_1.mp hcard).2
  · split at hgetway
    · rename_i ask _ _
      have hprefix := (List.takeWhile_prefix (l := devices ++ cardsOf k)
        fun d => (ask d.interface).hwaddr.isSome).length_le
      rw [List.length_append] at hprefix
      exact Nat.lt_of_lt_of_le (List.mem_range.mp hgetway) hprefix
    · cases hgetway

theorem count_tableExec (t : Tables) (c : TableCall) (T : Table) :
    (tableExec t c).1.count T = t.count T + c.inserts T := by
  cases c with
  | initialDevice k =>
      cases T with
      | device => exact length_initialDeviceOn k t.device
      | _ => rfl
  | initialVpnDevice =>
      cases T with
      | device => exact List.length_append
      | _ => rfl
  | addRoute des gw netmask interface =>
      cases T with
      | routeInfo => exact List.length_append
      | _ => rfl
  | addVpnRoute des vpnDes netmask =>
      cases T with
      | vpnRoute => exact List.length_append
      | _ => rfl
  | addArpItem addr mac =>
      cases T with
      | arpTable => exact List.length_append
      | _ => rfl
  | handleArp buf =>
      by_cases hreply : htons (ArpMsg.op buf 14) = ARP_REPLY
      · rw [tableExec, if_pos hreply]
        cases T with
        | arpTable =>
            rw [TableCall.inserts, if_pos hreply]
            exact List.length_append
        | _ => rfl
      · rw [tableExec, if_neg hreply]
        cases T with
        | arpTable => rw [TableCall.inserts, if_neg hreply, Nat.add_zero]
        | _ => rfl

/-- What a call writes lies below the counter it leaves. -/
theorem lt_count_tableExec {t : Tables} {c : TableCall} {w : Table × Nat}
    (h : w ∈ (tableExec t c).2) : w.2 < (tableExec t c).1.count w.1 := by
  rw [count_tableExec]
  cases c with
  | initialDevice k =>
      obtain ⟨i, hi, rfl⟩ := List.mem_map.mp h
      exact lt_of_mem_initialDeviceWrites hi
  | handleArp buf =>
      by_cases hreply : htons (ArpMsg.op buf 14) = ARP_REPLY
      · rw [tableExec, if_pos hreply] at h
        rw [List.mem_singleton.mp h, TableCall.inserts, if_pos hreply]
        exact Nat.lt_succ_self _
      · rw [tableExec, if_neg hreply] at h
        cases h
  | _ =>
      rw [List.mem_singleton.mp h]
      exact Nat.lt_succ_self _

/-! ## Runs -/

theorem count_final (t : Tables) (calls : List TableCall) (T : Table) :
    (Monitor.final tableExec t calls).count T =
      t.count T + (calls.map fun c => c.inserts T).sum := by
  apply Monitor.count_final (n := fun t : Tables => t.count T)
  intro t c
  exact count_tableExec t c T

theorem lt_count_of_mem_trace {t : Tables} {calls : List TableCall} {w : Table × Nat}
    (h : w ∈ Monitor.trace tableExec t calls) :
    w.2 < (Monitor.final tableExec t calls).count w.1 := by
  apply Monitor.of_mem_trace (P := fun t w => w.2 < t.count w.1) _ _ h
  · intro t c w hw
    exact lt_count_tableExec hw
  · intro t c w hw
    rw [count_tableExec]
    exact Nat.lt_add_right _ hw

/-- Every write of a run goes to an entry of its table, and no counter exceeds
the capacity after any part of the run. -/
def InBounds (t : Tables) (calls : List TableCall) : Prop :=
  (∀ w ∈ Monitor.trace tableExec t calls, w.2 < w.1.capacity) ∧
    ∀ done, done <+: calls → ∀ T, (Monitor.final tableExec t done).count T ≤ T.capacity

theorem capacity_iff (t : Tables) (calls : List TableCall) :
    InBounds t calls ↔
      ∀ T, t.count T + (calls.map fun c => c.inserts T).sum ≤ T.capacity := by
  constructor
  · intro h T
    rw [← count_final]
    exact h.2 calls (List.prefix_refl calls) T
  · intro h
    refine ⟨fun w hw => ?_, fun done hdone T => ?_⟩
    · have hlt := lt_count_of_mem_trace hw
      rw [count_final] at hlt
      exact Nat.lt_of_lt_of_le hlt (h w.1)
    · obtain ⟨rest, rfl⟩ := hdone
      have hsum := h T
      rw [List.map_append, List.sum_append] at hsum
      rw [count_final]
      omega

def procLine (name : Char) : List Char := ['e', 't', 'h', name, ':', ' ', '0']

/-- Ten network cards; the tunnel pseudo-device is the eleventh device. -/
def tenCards : Kernel where
  procNetDev := some ([] :: [] :: ['0', '1', '2', '3', '4', '5', '6', '7', '8', '9'].map procLine)
  socket := none

theorem eleventh_device :
    ¬ ∀ calls, InBounds clearedTables calls := by
  intro h
  have hbound := (h [.initialDevice tenCards, .initialVpnDevice]).2 _ (List.prefix_refl _) .device
  rw [count_final] at hbound
  revert hbound
  decide

end VpnRouter
