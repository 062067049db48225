import VpnRouter.Device
import VpnRouter.NextHop

/-!
# Failed lookups

`ip_sed_process` and `ip_rec_process` when a lookup finds nothing.  Only the
first lookup of `ip_sed_process` is checked.  A tunnel without a route or without
a card goes on to the ARP cache with the header an earlier packet left
(`fails_cleanly_iff`), and `ip_rec_process` reads `device[-1]`
(`never_dropped_cleanly`).
-/

namespace VpnRouter

open Lib.Memory ArpWait

/-- The frames that got a slot of the wait buffer, with their addresses. -/
def queued (log : List Event) : List (List UInt8 × UInt32) :=
  log.filterMap fun
    | .addToArpWaitBuffer _ frame ip ret => if ret = 1 then some (frame, ip) else none
    | _ => none

def EmitsNothing (log : List Event) : Prop := sent log = [] ∧ queued log = []

instance (log : List Event) : Decidable (EmitsNothing log) :=
  inferInstanceAs (Decidable (_ ∧ _))

theorem emitsNothing_memcpy {n : Int} {log : List Event} :
    EmitsNothing (.memcpy n :: log) ↔ EmitsNothing log :=
  Iff.rfl

/-! ## Encapsulation -/

/-- `repack_vpn` finds a tunnel for `dst` and a card for its endpoint. -/
def Encapsulates (r : Router) (dst : UInt32) : Prop :=
  ∃ endpoint card, checkVpnRoute r.vpnRoute dst = some endpoint ∧
    getnetcard r.device endpoint = some card

/-- A failed encapsulation emits nothing, and no frame leaves through the tunnel
pseudo-device, for which `initial` opens no socket. -/
structure FailsCleanly (r : Router) (u : Undef) (dst : UInt32) (log : List Event) : Prop where
  failed : ∀ index, (reroute r.device r.routeInfo dst dst).1 = some index →
    0 < (deviceAt r u (some index)).vpn → ¬ Encapsulates r dst → EmitsNothing log
  sockets : ∀ x ∈ sent log, (deviceAt r u (some x.1)).vpn = 0

/-- The address that the ARP cache is asked for after `repack_vpn`. -/
def tunnelAddr (r : Router) (dst : UInt32) : UInt32 := (checkVpnRoute r.vpnRoute dst).getD dst

def Stuck (r : Router) (addr : UInt32) : Prop :=
  searchArpCache r.arpTable addr = none ∧ ∀ i, (r.wait i).valid = true

/-- When the address is cached, its card is no tunnel. -/
def OnSocket (r : Router) (u : Undef) (addr : UInt32) (index : Nat) : Prop :=
  ∀ netcard, searchArpCache r.arpTable addr = some netcard →
    (deviceAt r u (some ((getnetcard r.device addr).getD index))).vpn = 0

def LookupsHold (r : Router) (u : Undef) (dst : UInt32) : Prop :=
  ∀ index, (reroute r.device r.routeInfo dst dst).1 = some index →
    if 0 < (deviceAt r u (some index)).vpn then
      Encapsulates r dst ∧ OnSocket r u (tunnelAddr r dst) index ∨
        ¬ Encapsulates r dst ∧ Stuck r (tunnelAddr r dst)
    else OnSocket r u dst index

section Sending

variable {r : Router} {u : Undef} {buff : Mem} {len : Int} {dst : UInt32} {index : Nat}
  {upVpn : Bool}

theorem sedTransmit_emits_iff :
    EmitsNothing (sedTransmit r u buff len dst index upVpn).2 ↔ Stuck r dst := by
  cases ha : searchArpCache r.arpTable dst with
  | some netcard =>
      obtain ⟨frame, -, hlog⟩ := sedTransmit_cached u buff len index upVpn ha
      rw [hlog]
      constructor
      · intro h
        have hsent := h.1
        rw [sent_sendto] at hsent
        contradiction
      · intro h
        have hnone := h.1
        rw [ha] at hnone
        contradiction
  | none =>
      obtain ⟨frame, -, hlog⟩ := sedTransmit_uncached u buff len index upVpn ha
      rw [hlog, Stuck, and_iff_right ha, ← freeSlot_eq_none]
      by_cases hfull : freeSlot r.wait = none
      · rw [if_pos hfull]
        exact iff_of_true ⟨rfl, rfl⟩ hfull
      · rw [if_neg hfull]
        refine iff_of_false ?_ hfull
        intro h
        have hqueued : [(frame, dst)] = [] := h.2
        contradiction

theorem sedTransmit_sockets_iff :
    (∀ x ∈ sent (sedTransmit r u buff len dst index upVpn).2,
        (deviceAt r u (some x.1)).vpn = 0) ↔
      OnSocket r u dst index := by
  cases ha : searchArpCache r.arpTable dst with
  | some netcard =>
      obtain ⟨frame, -, hlog⟩ := sedTransmit_cached u buff len index upVpn ha
      rw [hlog, sent_sendto, sent_nil, List.forall_mem_singleton, OnSocket]
      constructor
      · intro h a _
        exact h
      · intro h
        exact h netcard ha
  | none =>
      obtain ⟨frame, -, hlog⟩ := sedTransmit_uncached u buff len index upVpn ha
      rw [hlog, sent_addToArpWaitBuffer, sent_nil]
      constructor
      · intro _ a hsome
        rw [ha] at hsome
        contradiction
      · intro _
        exact List.forall_mem_nil _

theorem failsCleanly_tunnel_iff {log : List Event}
    (hroute : (reroute r.device r.routeInfo dst dst).1 = some index)
    (hcard : 0 < (deviceAt r u (some index)).vpn)
    (hemits : EmitsNothing log ↔ Stuck r (tunnelAddr r dst))
    (hsockets : (∀ x ∈ sent log, (deviceAt r u (some x.1)).vpn = 0) ↔
      OnSocket r u (tunnelAddr r dst) index) :
    FailsCleanly r u dst log ↔
      Encapsulates r dst ∧ OnSocket r u (tunnelAddr r dst) index ∨
        ¬ Encapsulates r dst ∧ Stuck r (tunnelAddr r dst) := by
  rw [← hemits, ← hsockets]
  constructor
  · intro h
    by_cases hpacked : Encapsulates r dst
    · exact .inl ⟨hpacked, h.sockets⟩
    · exact .inr ⟨hpacked, h.failed index hroute hcard hpacked⟩
  · intro h
    rcases h with ⟨hpacked, hsent⟩ | ⟨-, hnothing⟩
    · exact ⟨fun _ _ _ hfailed => absurd hpacked hfailed, hsent⟩
    · refine ⟨fun _ _ _ _ => hnothing, ?_⟩
      rw [hnothing.1]
      exact List.forall_mem_nil _

theorem failsCleanly_plain_iff {log : List Event}
    (hroute : (reroute r.device r.routeInfo dst dst).1 = some index)
    (hcard : ¬ 0 < (deviceAt r u (some index)).vpn)
    (hsockets : (∀ x ∈ sent log, (deviceAt r u (some x.1)).vpn = 0) ↔ OnSocket r u dst index) :
    FailsCleanly r u dst log ↔ OnSocket r u dst index := by
  rw [← hsockets]
  constructor
  · intro h
    exact h.sockets
  · intro h
    refine ⟨?_, h⟩
    intro index' hroute' hcard'
    rw [hroute] at hroute'
    rw [← Option.some.inj hroute'] at hcard'
    contradiction

end Sending

/-- A call emits only what it should exactly when the lookups it does not check
succeed, or the frame gets stuck without their help. -/
theorem fails_cleanly_iff (r : Router) (u : Undef) (buf : Mem) (len : Int) (src dst : UInt32) :
    FailsCleanly r u dst (ipSedProcess r u buf len src dst).2 ↔ LookupsHold r u dst := by
  unfold LookupsHold
  cases hroute : (reroute r.device r.routeInfo dst dst).1 with
  | none =>
      rw [ipSedProcess_dropped hroute]
      refine iff_of_true ⟨fun _ _ _ _ => ⟨rfl, rfl⟩, ?_⟩ ?_
      · exact List.forall_mem_nil _
      · exact fun index hindex => absurd hindex (by simp)
  | some index =>
      simp only [Option.some.injEq, forall_eq']
      by_cases hcard : 0 < (deviceAt r u (some index)).vpn
      · rw [if_pos hcard, ipSedProcess_tunnel hroute hcard, repackVpn_addr,
          ← tunnelAddr]
        apply failsCleanly_tunnel_iff hroute hcard
        · rw [emitsNothing_memcpy]
          exact sedTransmit_emits_iff
        · rw [sent_memcpy]
          exact sedTransmit_sockets_iff
      · rw [if_neg hcard, ipSedProcess_plain hroute hcard]
        apply failsCleanly_plain_iff hroute hcard
        rw [sent_memcpy]
        exact sedTransmit_sockets_iff

/-! A route through the tunnel, and no tunnel. -/

def tunnelRoute : RouteItem :=
  { destination := 0x0000000a, gateway := 0, netmask := 0x000000ff, interface := "vpn_eth0" }

def tunnelOnly : Router :=
  { bareRouter with
    routeInfo := [tunnelRoute]
    device := initialVpnDevice [] }

/-- The frame of a packet that `repack_vpn` refuses is queued all the same. -/
theorem refused_packet_queued :
    ¬ ∀ (r : Router) (u : Undef) (buf : Mem) (len : Int) (src dst : UInt32),
      FailsCleanly r u dst (ipSedProcess r u buf len src dst).2 := by
  intro h
  have hclean := h tunnelOnly zeroUndef (toTenNet.mem fun _ => 0) 20 0 0x0500000a
  have hrefused : ¬ Encapsulates tunnelOnly 0x0500000a := by
    intro hpacked
    obtain ⟨endpoint, card, hendpoint, -⟩ := hpacked
    cases hendpoint
  have hnothing := (hclean.failed 0 (by decide) (by decide) hrefused).2
  revert hnothing
  decide

/-! ## Packets without a route -/

structure DroppedCleanly (r : Router) (u : Undef) (p : Packet) (rest : Mem) : Prop where
  emits : EmitsNothing (receive r u p rest).2
  reads : ∀ i : Int, .deviceRead i ∈ (receive r u p rest).2 → 0 ≤ i ∧ i < r.device.length
  hop : ∀ hop hop', forward r u (p.mem rest) p.bytes.length hop =
    forward r u (p.mem rest) p.bytes.length hop'

/-- A packet without a route is never dropped before `device[-1]` was read. -/
theorem never_dropped_cleanly (r : Router) (u : Undef) (p : Packet) (rest : Mem)
    (hme : whetherIpMe r.device p.dst < 0)
    (hroute : (reroute r.device r.routeInfo p.dst u.dst).1 = none) :
    ¬ DroppedCleanly r u p rest := by
  have hread : .deviceRead (-1) ∈ (receive r u p rest).2 := by
    rw [receive, ipRecProcess_forward (by rwa [Packet.dstAddr_mem]), Packet.dstAddr_mem]
    simp only [hroute]
    exact List.mem_cons_self
  intro h
  have hindex := (h.reads (-1) hread).1
  contradiction

/-! The route of 10.0.0.0/8 names an interface that does not exist. -/

def absentRoute : RouteItem :=
  { destination := 0x0000000a, gateway := 0x0201a8c0, netmask := 0x000000ff, interface := "eth9" }

theorem absent_interface_read :
    ¬ DroppedCleanly (twoCards [absentRoute, neighbourRoute]) zeroUndef toTenNet fun _ => 0 :=
  never_dropped_cleanly _ zeroUndef toTenNet _ (by decide) (by decide)

/-- The packet leaves for the gateway of that route. -/
theorem unroutable_sent :
    ¬ ∀ (r : Router) (u : Undef) (p : Packet) (rest : Mem), whetherIpMe r.device p.dst < 0 →
      (reroute r.device r.routeInfo p.dst u.dst).1 = none → DroppedCleanly r u p rest := by
  intro h
  have hclean := h (twoCards [absentRoute, neighbourRoute]) zeroUndef toTenNet (fun _ => 0)
    (by decide) (by decide)
  have hnothing := hclean.emits.1
  revert hnothing
  decide

end VpnRouter
