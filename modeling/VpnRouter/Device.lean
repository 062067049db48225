import VpnRouter.Table

/-!
# Filling the device table

`initial_device`, `initial_device_mac_getway` and `initial_vpn_device` of
`header.h`, on the table that `initial_route` has cleared.  The kernel is a
parameter: the lines of `/proc/net/dev` and the answers of `ioctl`.
-/

namespace VpnRouter

/-- The answers to `SIOCGIFHWADDR`, `SIOCGIFADDR` and `SIOCGIFNETMASK`; `none`
is a failure. -/
structure IfAnswers where
  hwaddr : Option Mac
  addr : Option UInt32
  netmask : Option UInt32

structure Kernel where
  procNetDev : Option (List (List Char))
  socket : Option (String → IfAnswers)

def isspace (c : Char) : Bool := c.toNat == 32 || (9 ≤ c.toNat && c.toNat ≤ 13)

/-- `sscanf( szline, "%s", szname )` on a cleared `szname`. -/
def scanWord (szline : List Char) : List Char :=
  (szline.dropWhile isspace).takeWhile fun c => !isspace c

def cardOfLine (szline : List Char) : Option String :=
  let szname := scanWord szline
  if szname = [] then none
  else
    let szname := if szname.getLast? = some ':' then szname.dropLast else szname
    if szname = ['l', 'o'] ∨ szname = ['p', 'a', 'n', '0'] then none
    else some (String.ofList szname)

def newCard (interface : String) : DeviceItem :=
  { interface := interface, macAddr := macOf 0 0 0 0 0 0, ip := 0, netmask := 0, vpn := 0 }

/-- The loop of `initial_device_mac_getway` ends at the first interface without
a hardware address and leaves the cards from there on cleared. -/
def initialDeviceMacGetway (ask : String → IfAnswers) : List DeviceItem → List DeviceItem
  | [] => []
  | d :: rest =>
      match (ask d.interface).hwaddr with
      | none => d :: rest
      | some mac =>
          { d with
            macAddr := mac
            ip := (ask d.interface).addr.getD 0
            netmask := (ask d.interface).netmask.getD 0 } :: initialDeviceMacGetway ask rest

def initialDevice (k : Kernel) : List DeviceItem :=
  match k.procNetDev with
  | none => []
  | some lines =>
      -- two `fgets` skip the heading of the file
      let cards := ((lines.drop 2).filterMap cardOfLine).map newCard
      match k.socket with
      | none => cards
      | some ask => initialDeviceMacGetway ask cards

/-- 192.168.10.1/24; the hardware address stays cleared. -/
def initialVpnDevice (devices : List DeviceItem) : List DeviceItem :=
  devices ++ [{ interface := "vpn_eth0", macAddr := macOf 0 0 0 0 0 0, ip := 0x010aa8c0,
                netmask := 0x00ffffff, vpn := 1 }]

def bootDevices (k : Kernel) : List DeviceItem := initialVpnDevice (initialDevice k)

/-! ## What the table holds -/

/-- The addresses are filled in without a change to the names and marks. -/
theorem names_initialDeviceMacGetway (ask : String → IfAnswers) (devices : List DeviceItem) :
    (initialDeviceMacGetway ask devices).map (fun d => (d.interface, d.vpn)) =
      devices.map fun d => (d.interface, d.vpn) := by
  induction devices with
  | nil => rfl
  | cons d rest ih =>
      rw [initialDeviceMacGetway]
      split
      · rfl
      · rw [List.map_cons, List.map_cons, ih]

theorem vpn_of_initialDeviceMacGetway {ask : String → IfAnswers} {devices : List DeviceItem}
    (h : ∀ d ∈ devices, d.vpn = 0) : ∀ d ∈ initialDeviceMacGetway ask devices, d.vpn = 0 := by
  intro d hd
  have hmem : (d.interface, d.vpn) ∈ devices.map fun d => (d.interface, d.vpn) := by
    rw [← names_initialDeviceMacGetway ask devices]
    exact List.mem_map_of_mem hd
  obtain ⟨e, he, heq⟩ := List.mem_map.mp hmem
  rw [← (Prod.mk.inj heq).2]
  exact h e he

theorem vpn_of_initialDevice {k : Kernel} : ∀ d ∈ initialDevice k, d.vpn = 0 := by
  have hnew (names : List String) : ∀ d ∈ names.map newCard, d.vpn = 0 := by
    intro d hd
    obtain ⟨name, -, rfl⟩ := List.mem_map.mp hd
    rfl
  unfold initialDevice
  split
  · intro d hd
    cases hd
  · split
    · exact hnew _
    · exact vpn_of_initialDeviceMacGetway (hnew _)

/-- The tunnel pseudo-device is the only one with a VPN mark. -/
theorem vpn_of_bootDevices {k : Kernel} {d : DeviceItem} (hd : d ∈ bootDevices k)
    (hvpn : d.vpn ≠ 0) : d.interface = "vpn_eth0" := by
  rcases List.mem_append.mp hd with hcard | htunnel
  · exact absurd (vpn_of_initialDevice d hcard) hvpn
  · rw [List.mem_singleton.mp htunnel]

end VpnRouter
