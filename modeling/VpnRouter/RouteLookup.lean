import VpnRouter.Table

/-!
# The lookup in the routing table

`reroute` returns the card and the gateway of one and the same route, the first
one that contains the address and names a card (`reroute_coherent`).  Its test
for a subnet compares with the destination as it was added; the VPN table masks
its own first (`sameSubnet_iff`).
-/

namespace VpnRouter

/-- The route contains the address and a device has its interface. -/
def Usable (devices : List DeviceItem) (addr : UInt32) (r : RouteItem) : Prop :=
  addr &&& r.netmask = r.destination ∧ ∃ d ∈ devices, d.interface = r.interface

/-- `j` is the first device with this interface. -/
def FirstCard (devices : List DeviceItem) (interface : String) (j : Nat) : Prop :=
  (∃ d, devices[j]? = some d ∧ d.interface = interface) ∧
    ∀ i d, i < j → devices[i]? = some d → d.interface ≠ interface

section Reroute

variable {devices : List DeviceItem} {routes : List RouteItem} {addr dst : UInt32}

theorem cmpWhichNet_iff {r : RouteItem} :
    cmpWhichNet addr r = true ↔ addr &&& r.netmask = r.destination := by
  rw [cmpWhichNet, beq_iff_eq]

theorem cardNamed_iff {interface : String} {j : Nat} :
    cardNamed devices interface = some j ↔ FirstCard devices interface j := by
  unfold cardNamed FirstCard
  rw [List.findIdx?_eq_some_iff_getElem]
  constructor
  · rintro ⟨hj, heq, hbefore⟩
    refine ⟨⟨devices[j], List.getElem?_eq_getElem hj, beq_iff_eq.mp heq⟩, ?_⟩
    intro i d hij hd hname
    obtain ⟨hi, rfl⟩ := List.getElem?_eq_some_iff.mp hd
    exact hbefore i hij (beq_iff_eq.mpr hname)
  · rintro ⟨⟨d, hd, hname⟩, hbefore⟩
    obtain ⟨hj, rfl⟩ := List.getElem?_eq_some_iff.mp hd
    refine ⟨hj, beq_iff_eq.mpr hname, ?_⟩
    intro i hij heq
    have hi : i < devices.length := Nat.lt_trans hij hj
    exact hbefore i devices[i] hij (List.getElem?_eq_getElem hi) (beq_iff_eq.mp heq)

theorem cardNamed_none_iff {interface : String} :
    cardNamed devices interface = none ↔ ¬ ∃ d ∈ devices, d.interface = interface := by
  simp [cardNamed]

/-- Routes that are not usable leave nothing but their gateway behind. -/
theorem reroute_skip {l rest : List RouteItem} (h : ∀ s ∈ l, ¬ Usable devices addr s) :
    ∃ dst', reroute devices (l ++ rest) addr dst = reroute devices rest addr dst' := by
  induction l generalizing dst with
  | nil => exact ⟨dst, rfl⟩
  | cons s l ih =>
      have hrest : ∀ t ∈ l, ¬ Usable devices addr t := fun t ht =>
        h t (List.mem_cons_of_mem s ht)
      rw [List.cons_append, reroute]
      by_cases hmatch : cmpWhichNet addr s = true
      · have hcard : cardNamed devices s.interface = none :=
          cardNamed_none_iff.mpr fun hd => h s List.mem_cons_self ⟨cmpWhichNet_iff.mp hmatch, hd⟩
        rw [if_pos hmatch, hcard]
        exact ih hrest
      · rw [if_neg hmatch]
        exact ih hrest

/-- The first usable route gives both results. -/
theorem reroute_of_usable {l rest : List RouteItem} {r : RouteItem} {j : Nat}
    (h : ∀ s ∈ l, ¬ Usable devices addr s) (hr : Usable devices addr r)
    (hj : FirstCard devices r.interface j) :
    reroute devices (l ++ r :: rest) addr dst = (some j, r.gateway) := by
  have hskip : ∃ dst', reroute devices (l ++ r :: rest) addr dst =
      reroute devices (r :: rest) addr dst' := reroute_skip h
  obtain ⟨dst', heq⟩ := hskip
  rw [heq, reroute, if_pos (cmpWhichNet_iff.mpr hr.1), cardNamed_iff.mpr hj]

theorem firstCard_exists {interface : String} (h : ∃ d ∈ devices, d.interface = interface) :
    ∃ j, FirstCard devices interface j := by
  cases hcard : cardNamed devices interface with
  | none => exact absurd h (cardNamed_none_iff.mp hcard)
  | some j => exact ⟨j, cardNamed_iff.mp hcard⟩

instance (r : RouteItem) : Decidable (Usable devices addr r) :=
  inferInstanceAs (Decidable (_ ∧ _))

theorem exists_first_usable (h : ∃ r ∈ routes, Usable devices addr r) :
    ∃ l r rest, routes = l ++ r :: rest ∧ (∀ s ∈ l, ¬ Usable devices addr s) ∧
      Usable devices addr r := by
  cases hfind : routes.find? fun r => Usable devices addr r with
  | none =>
      obtain ⟨r, hr, husable⟩ := h
      exact absurd (decide_eq_true husable) (List.find?_eq_none.mp hfind r hr)
  | some r =>
      obtain ⟨hr, l, rest, heq, hbefore⟩ := List.find?_eq_some_iff_append.mp hfind
      refine ⟨l, r, rest, heq, ?_, of_decide_eq_true hr⟩
      intro s hs husable
      simpa [husable] using hbefore s hs

theorem reroute_none (h : ¬ ∃ r ∈ routes, Usable devices addr r) :
    (reroute devices routes addr dst).1 = none := by
  have hskip : ∃ dst', reroute devices (routes ++ []) addr dst = reroute devices [] addr dst' :=
    reroute_skip fun s hs husable => h ⟨s, hs, husable⟩
  obtain ⟨dst', heq⟩ := hskip
  rw [List.append_nil] at heq
  rw [heq, reroute]

theorem reroute_isSome_iff :
    (reroute devices routes addr dst).1.isSome = true ↔ ∃ r ∈ routes, Usable devices addr r := by
  constructor
  · intro hsome
    refine Classical.byContradiction fun hnone => ?_
    rw [reroute_none hnone] at hsome
    exact Bool.false_ne_true hsome
  · intro h
    obtain ⟨l, r, rest, heq, hbefore, hr⟩ := exists_first_usable h
    obtain ⟨j, hj⟩ := firstCard_exists hr.2
    rw [heq, reroute_of_usable hbefore hr hj]
    rfl

theorem reroute_eq_some_iff {j : Nat} {gw : UInt32} :
    reroute devices routes addr dst = (some j, gw) ↔
      ∃ l r rest, routes = l ++ r :: rest ∧ (∀ s ∈ l, ¬ Usable devices addr s) ∧
        Usable devices addr r ∧ FirstCard devices r.interface j ∧ gw = r.gateway := by
  constructor
  · intro hpair
    have hsome : (reroute devices routes addr dst).1.isSome = true := by
      rw [hpair]
      rfl
    obtain ⟨l, r, rest, rfl, hbefore, hr⟩ := exists_first_usable (reroute_isSome_iff.mp hsome)
    obtain ⟨i, hi⟩ := firstCard_exists hr.2
    rw [reroute_of_usable hbefore hr hi] at hpair
    obtain ⟨hij, hgw⟩ := Prod.mk.inj hpair
    exact ⟨l, r, rest, rfl, hbefore, hr, Option.some.inj hij ▸ hi, hgw.symm⟩
  · rintro ⟨l, r, rest, rfl, hbefore, hr, hj, rfl⟩
    exact reroute_of_usable hbefore hr hj

end Reroute

/-- A card comes back when some route is usable, and then card and gateway are
those of the first usable route. -/
theorem reroute_coherent (devices : List DeviceItem) (routes : List RouteItem)
    (addr dst : UInt32) :
    ((reroute devices routes addr dst).1.isSome = true ↔
        ∃ r ∈ routes, Usable devices addr r) ∧
      ∀ j gw, reroute devices routes addr dst = (some j, gw) ↔
        ∃ l r rest, routes = l ++ r :: rest ∧ (∀ s ∈ l, ¬ Usable devices addr s) ∧
          Usable devices addr r ∧ FirstCard devices r.interface j ∧ gw = r.gateway :=
  ⟨reroute_isSome_iff, fun _ _ => reroute_eq_some_iff⟩

/-! ## Two tests for a subnet -/

/-- The comparison in the loop of `check_vpn_route`. -/
def inVpnNet (addr : UInt32) (v : VpnRouteTable) : Bool :=
  addr &&& v.netmask == v.vpnDes &&& v.netmask

theorem checkVpnRoute_eq (table : List VpnRouteTable) (addr : UInt32) :
    checkVpnRoute table addr = (table.find? (inVpnNet addr)).map (·.des) := rfl

theorem inVpnNet_iff {addr : UInt32} {v : VpnRouteTable} :
    inVpnNet addr v = true ↔ addr &&& v.netmask = v.vpnDes &&& v.netmask := by
  rw [inVpnNet, beq_iff_eq]

/-- The entries that `add_route` and `add_vpn_route` add for the same subnet take
the same addresses, those of the subnet. -/
def SameSubnet (d m a : UInt32) : Prop :=
  ∀ routes gw ifc table e r v,
    addRoute routes d gw m ifc = routes ++ [r] → addVpnRoute table e d m = table ++ [v] →
      (cmpWhichNet a r = true ↔ inVpnNet a v = true) ∧
        (cmpWhichNet a r = true ↔ a &&& m = d &&& m)

theorem sameSubnet_def (d m a : UInt32) :
    SameSubnet d m a ↔ (a &&& m = d ↔ a &&& m = d &&& m) := by
  constructor
  · intro h
    have hentry := h [] 0 "" [] 0 _ _ rfl rfl
    rw [cmpWhichNet_iff] at hentry
    exact hentry.2
  · intro h routes gw ifc table e r v hr hv
    obtain rfl : _ = r := List.singleton_inj.mp (List.append_cancel_left hr)
    obtain rfl : _ = v := List.singleton_inj.mp (List.append_cancel_left hv)
    rw [cmpWhichNet_iff, inVpnNet_iff]
    exact ⟨h, h⟩

/-- The unmasked destination matters when it has host bits and the address lies
in the subnet. -/
theorem sameSubnet_iff (d m a : UInt32) :
    SameSubnet d m a ↔ d &&& m = d ∨ a &&& m ≠ d &&& m := by
  rw [sameSubnet_def]
  constructor
  · intro h
    by_cases hin : a &&& m = d &&& m
    · exact .inl (hin.symm.trans (h.mpr hin))
    · exact .inr hin
  · rintro (hnet | hout)
    · rw [hnet]
    · constructor
      · intro heq
        rw [← heq, UInt32.and_assoc, UInt32.and_self]
      · exact fun hin => absurd hin hout

/-- 192.168.3.5/24 as a destination, and the address 192.168.3.7. -/
theorem sameSubnet_hostBits : ¬ SameSubnet 0x0503a8c0 0x00ffffff 0x0703a8c0 := by
  intro h
  have hentry := h [] 0 "vpn_eth0" [] 0 _ _ rfl rfl
  exact absurd hentry.1 (by decide)


end VpnRouter
