import VpnRouter.RouteLookup
import VpnRouter.Lib.LongestMatch
import Mathlib.Data.List.Pairwise

/-!
# First match against longest prefix

`reroute` takes the first route that contains the address, whatever the
lengths of the netmasks.  For tables of proper prefixes that is the longest
match exactly when the specific routes stand first (`reroute_longest`).
-/

namespace VpnRouter

open Lib.LongestMatch

/-- Bit `i` of an address or a netmask, counted from the first bit sent. -/
def netBit (v : UInt32) (i : Nat) : Bool := v.toNat.testBit (8 * (i / 8) + (7 - i % 8))

def prefixLength (netmask : UInt32) : Nat := (List.range 32).countP (netBit netmask)

def Contiguous (netmask : UInt32) : Prop :=
  ∀ i, i < 32 → netBit netmask i = decide (i < prefixLength netmask)

instance (netmask : UInt32) : Decidable (Contiguous netmask) :=
  inferInstanceAs (Decidable (∀ i, i < 32 → _))

def inSubnet (addr : UInt32) (r : RouteItem) : Bool :=
  addr &&& r.netmask == r.destination &&& r.netmask

/-- A table of `add_route` whose routes are distinct prefixes, written without
host bits, and all name a card. -/
structure PrefixTable (devices : List DeviceItem) where
  routes : List RouteItem
  contiguous : ∀ r ∈ routes, Contiguous r.netmask
  network : ∀ r ∈ routes, r.destination &&& r.netmask = r.destination
  distinct : routes.Pairwise fun r s => ¬ (r.destination = s.destination ∧ r.netmask = s.netmask)
  present : ∀ r ∈ routes, ∃ d ∈ devices, d.interface = r.interface

def routeLength (r : RouteItem) : Nat := prefixLength r.netmask

/-! ## Netmasks -/

theorem netBit_and (v w : UInt32) (i : Nat) : netBit (v &&& w) i = (netBit v i && netBit w i) := by
  rw [netBit, UInt32.toNat_and, Nat.testBit_and]
  rfl

theorem eq_of_netBit {v w : UInt32} (h : ∀ i, i < 32 → netBit v i = netBit w i) : v = w := by
  apply UInt32.toNat.inj
  apply Nat.eq_of_testBit_eq
  intro i
  by_cases hi : i < 32
  · have hbit := h (8 * (i / 8) + (7 - i % 8)) (by omega)
    unfold netBit at hbit
    rwa [show 8 * ((8 * (i / 8) + (7 - i % 8)) / 8) + (7 - (8 * (i / 8) + (7 - i % 8)) % 8) = i
      by omega] at hbit
  · have hpow : 2 ^ 32 ≤ 2 ^ i := Nat.pow_le_pow_right (by decide) (by omega)
    rw [Nat.testBit_lt_two_pow (by have := v.toNat_lt; omega),
      Nat.testBit_lt_two_pow (by have := w.toNat_lt; omega)]

/-- The shorter of two contiguous netmasks is part of the longer one. -/
theorem and_of_length_le {m n : UInt32} (hm : Contiguous m) (hn : Contiguous n)
    (h : prefixLength m ≤ prefixLength n) : n &&& m = m := by
  apply eq_of_netBit
  intro i hi
  rw [netBit_and, hm i hi, hn i hi]
  by_cases hlt : i < prefixLength m
  · have hlt' : i < prefixLength n := by omega
    simp [hlt, hlt']
  · simp [hlt]

theorem eq_of_length_eq {m n : UInt32} (hm : Contiguous m) (hn : Contiguous n)
    (h : prefixLength m = prefixLength n) : m = n := by
  apply eq_of_netBit
  intro i hi
  rw [hm i hi, hn i hi, h]

theorem inSubnet_iff {addr : UInt32} {r : RouteItem} :
    inSubnet addr r = true ↔ addr &&& r.netmask = r.destination &&& r.netmask := by
  rw [inSubnet, beq_iff_eq]

/-! ## Tables of prefixes -/

namespace PrefixTable

variable {devices : List DeviceItem} (t : PrefixTable devices)

theorem cmpWhichNet_eq {addr : UInt32} {r : RouteItem} (hr : r ∈ t.routes) :
    cmpWhichNet addr r = inSubnet addr r := by
  rw [cmpWhichNet, inSubnet, t.network r hr]

theorem nested : Nested inSubnet routeLength t.routes := by
  intro r hr s hs b hbr hbs hle c hcs
  have hpart : s.netmask &&& r.netmask = r.netmask :=
    and_of_length_le (t.contiguous r hr) (t.contiguous s hs) hle
  rw [inSubnet_iff] at hbr hbs hcs ⊢
  calc
    c &&& r.netmask = c &&& s.netmask &&& r.netmask := by rw [UInt32.and_assoc, hpart]
    _ = b &&& s.netmask &&& r.netmask := by rw [hcs, hbs]
    _ = b &&& r.netmask := by rw [UInt32.and_assoc, hpart]
    _ = r.destination &&& r.netmask := hbr

theorem separated : Separated inSubnet routeLength t.routes := by
  intro r hr s hs b hbr hbs hlen
  have hmask : r.netmask = s.netmask :=
    eq_of_length_eq (t.contiguous r hr) (t.contiguous s hs) hlen
  rw [inSubnet_iff, t.network r hr] at hbr
  rw [inSubnet_iff, t.network s hs] at hbs
  have hdest : r.destination = s.destination := by
    rw [← hbr, ← hbs, hmask]
  have hsymm : Std.Symm fun r s : RouteItem =>
      ¬ (r.destination = s.destination ∧ r.netmask = s.netmask) :=
    ⟨fun _ _ h heq => h ⟨heq.1.symm, heq.2.symm⟩⟩
  refine Classical.byContradiction fun hne => ?_
  exact t.distinct.forall hr hs hne ⟨hdest, hmask⟩

/-- The scan of `reroute` is the scan by subnet. -/
theorem find?_cmpWhichNet (addr : UInt32) :
    t.routes.find? (cmpWhichNet addr) = t.routes.find? (inSubnet addr) := by
  rw [← List.head?_filter, ← List.head?_filter,
    List.filter_congr fun r hr => t.cmpWhichNet_eq hr]

/-- The first route that contains the address gives the card and the gateway. -/
theorem reroute_of_first {addr : UInt32} {r : RouteItem}
    (h : t.routes.find? (inSubnet addr) = some r) :
    ∃ j, FirstCard devices r.interface j ∧
      ∀ dst, reroute devices t.routes addr dst = (some j, r.gateway) := by
  obtain ⟨j, hj⟩ := firstCard_exists (t.present r (List.mem_of_find?_eq_some h))
  refine ⟨j, hj, fun dst => ?_⟩
  rw [← t.find?_cmpWhichNet] at h
  exact VpnRouter.reroute_of_first h (cardNamed_iff.mpr hj)

theorem reroute_of_none {addr : UInt32} (h : t.routes.find? (inSubnet addr) = none)
    (dst : UInt32) : reroute devices t.routes addr dst = (none, dst) := by
  rw [← t.find?_cmpWhichNet] at h
  exact reroute_of_no_match h

end PrefixTable

/-- The first match decides; it is the longest one for every address exactly when
the specific routes stand first, and any two such orders of the same routes
route alike. -/
theorem reroute_longest (devices : List DeviceItem) (t : PrefixTable devices) :
    (∀ addr r, t.routes.find? (inSubnet addr) = some r →
        ∃ j, FirstCard devices r.interface j ∧
          ∀ dst, reroute devices t.routes addr dst = (some j, r.gateway)) ∧
      ((∀ addr r, t.routes.find? (inSubnet addr) = some r →
          Longest inSubnet routeLength t.routes addr r) ↔
        SpecificFirst inSubnet routeLength t.routes) ∧
      ∀ u : PrefixTable devices, t.routes.Perm u.routes →
        SpecificFirst inSubnet routeLength t.routes →
          SpecificFirst inSubnet routeLength u.routes →
            ∀ addr dst, reroute devices t.routes addr dst = reroute devices u.routes addr dst := by
  refine ⟨fun addr r h => t.reroute_of_first h, longest_iff_specificFirst t.nested, ?_⟩
  intro u hperm ht hu addr dst
  have hfind := find?_eq_of_perm hperm t.nested t.separated ht hu addr
  cases hr : t.routes.find? (inSubnet addr) with
  | none => rw [t.reroute_of_none hr, u.reroute_of_none (hfind.symm.trans hr)]
  | some r =>
      obtain ⟨j, hj, hres⟩ := t.reroute_of_first hr
      obtain ⟨i, hi, hres'⟩ := u.reroute_of_first (hfind.symm.trans hr)
      have hcard : i = j :=
        Option.some.inj ((cardNamed_iff.mpr hi).symm.trans (cardNamed_iff.mpr hj))
      rw [hres, hres', hcard]

/-! ## A shadowed route -/

def overlapCards : List DeviceItem :=
  [{ interface := "eth4", macAddr := macOf 0 12 41 97 26 208, ip := 0x0101a8c0,
     netmask := 0x00ffffff, vpn := 0 },
   { interface := "eth5", macAddr := macOf 0 12 41 97 26 218, ip := 0x0102a8c0,
     netmask := 0x00ffffff, vpn := 0 }]

/-- 10.0.0.0/8 on `eth4`. -/
def wideRoute : RouteItem :=
  { destination := 0x0000000a, gateway := 0x0201a8c0, netmask := 0x000000ff, interface := "eth4" }

/-- 10.1.0.0/16 on `eth5`. -/
def narrowRoute : RouteItem :=
  { destination := 0x0000010a, gateway := 0x0a02a8c0, netmask := 0x0000ffff, interface := "eth5" }

def wideFirst : PrefixTable overlapCards where
  routes := [wideRoute, narrowRoute]
  contiguous := by decide
  network := by decide
  distinct := by decide
  present := by decide

def narrowFirst : PrefixTable overlapCards where
  routes := [narrowRoute, wideRoute]
  contiguous := by decide
  network := by decide
  distinct := by decide
  present := by decide

/-- With the wide route first, 10.1.0.5 leaves by the shorter prefix, and the
order of the two routes decides the card. -/
theorem wideFirst_shadows :
    wideFirst.routes.find? (inSubnet 0x0500010a) = some wideRoute ∧
      ¬ Longest inSubnet routeLength wideFirst.routes 0x0500010a wideRoute ∧
      wideFirst.routes.Perm narrowFirst.routes ∧
      reroute overlapCards wideFirst.routes 0x0500010a 0 = (some 0, 0x0201a8c0) ∧
      reroute overlapCards narrowFirst.routes 0x0500010a 0 = (some 1, 0x0a02a8c0) := by
  refine ⟨by decide, ?_, List.Perm.swap _ _ _, by decide, by decide⟩
  intro h
  have hle := h.2.2 narrowRoute (by decide) (by decide)
  exact absurd hle (by decide)

end VpnRouter
