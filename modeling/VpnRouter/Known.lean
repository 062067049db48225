import VpnRouter.ArpCache
import VpnRouter.Network
import VpnRouter.Waiting

/-!
# Known neighbours

Of the calls of a router only `handle_arp` writes the ARP table, and it appends.
The first entry for an address therefore answers every later lookup: whatever
replies come, packets for a neighbour that was known once never wait, and all of
them go to the MAC address it was known by first (`known_for_ever`).
-/

namespace VpnRouter.Waiting

open Lib.Memory Lib.Transition ArpWait

/-- The address that `ip_sed_process` looks up for a packet to `dst`: a tunnel with
a route leads to its endpoint. -/
def neighbour (r : Router) (dst : UInt32) : Option UInt32 :=
  (reroute r.device r.routeInfo dst dst).1.map fun index =>
    if (r.device[index]?).any fun d => decide (0 < d.vpn) then
      (checkVpnRoute r.vpnRoute dst).getD dst
    else dst

/-! ## One packet -/

section Send

variable {r : Router} {u : Undef} {buf : Mem} {n : Nat} {src dst addr : UInt32} {mac : Mac}

theorem sedTransmit_known {buff : Mem} {index : Nat} {upVpn : Bool} (hn : n + 14 < 2 ^ 64)
    (hmac : cachedMac r.arpTable addr = some mac) :
    ∃ card frame, sent (sedTransmit r u buff n addr index upVpn).2 = [(card, upVpn, frame)] ∧
      frame.take 6 = mac.toList ∧ (sedTransmit r u buff n addr index upVpn).1.wait = r.wait := by
  obtain ⟨a, ha, hitem⟩ := Option.bind_eq_some_iff.mp hmac
  have hentry : r.arpTable[a]? = some (r.arpTable.get ⟨a, searchArpCache_lt ha⟩) :=
    List.getElem?_eq_getElem (searchArpCache_lt ha)
  rw [hentry, Option.map_some, Option.some.injEq] at hitem
  have hlog : (sedTransmit r u buff n addr index upVpn).2 = _ := sedTransmit_hit hn ha
  rw [hlog, sent_sendto, sent_nil]
  refine ⟨_, _, rfl, ?_, sedTransmit_wait_hit ha⟩
  rw [take_ethFrame, hitem]

theorem ipSedProcess_known (hn : n + 34 < 2 ^ 64) (hdst : neighbour r dst = some addr)
    (hmac : cachedMac r.arpTable addr = some mac) :
    ∃ card upVpn frame, sent (ipSedProcess r u buf n src dst).2 = [(card, upVpn, frame)] ∧
      frame.take 6 = mac.toList ∧ (ipSedProcess r u buf n src dst).1.wait = r.wait := by
  obtain ⟨index, hroute, haddr⟩ := Option.map_eq_some_iff.mp hdst
  have hdevice : r.device[index]? = some (r.device.get ⟨index, reroute_lt hroute⟩) :=
    List.getElem?_eq_getElem (reroute_lt hroute)
  have hvpn : (r.device[index]?.any fun d => decide (0 < d.vpn)) = true ↔
      0 < (deviceAt r u (some index)).vpn := by
    rw [deviceAt_some hdevice, hdevice, Option.any_some, decide_eq_true_iff]
  by_cases hcard : 0 < (deviceAt r u (some index)).vpn
  · rw [if_pos (hvpn.mpr hcard)] at haddr
    have hlen : (n : Int) + 20 = ((n + 20 : Nat) : Int) := by omega
    simp only [ipSedProcess, hroute, gt_iff_lt, if_pos hcard, sent_memcpy, repackVpn_addr, haddr,
      hlen]
    obtain ⟨card, frame, hsent⟩ := sedTransmit_known (n := n + 20) (by omega) hmac
    exact ⟨card, true, frame, hsent⟩
  · rw [if_neg fun h => hcard (hvpn.mp h)] at haddr
    rw [ipSedProcess_plain_eq hroute hcard, sent_memcpy, haddr]
    obtain ⟨card, frame, hsent⟩ := sedTransmit_known (n := n) (by omega) hmac
    exact ⟨card, false, frame, hsent⟩

end Send

/-! ## Runs -/

theorem cachedMac_addArpItem {table : List ArpTableItem} {addr other : UInt32} {mac m : Mac}
    (h : cachedMac table addr = some mac) :
    cachedMac (addArpItem table other m) addr = some mac := by
  rw [cachedMac_eq] at h
  rw [cachedMac_eq, addArpItem, List.find?_append, Option.map_or, h, Option.some_or]

/-- The packets for `dst` go to `addr`, which is known by `mac`. -/
def Knows (r : Router) (dst addr : UInt32) (mac : Mac) : Prop :=
  neighbour r dst = some addr ∧ cachedMac r.arpTable addr = some mac

section Runs

variable {r r' : Router} {dst addr : UInt32} {mac : Mac} {s t : State} {a : Act}

theorem Knows.congr (h : Knows r dst addr mac) (htables : r'.lookups = r.lookups) :
    Knows r' dst addr mac := by
  simp only [Router.lookups, Prod.mk.injEq] at htables
  obtain ⟨hroutes, harp, hdevice, htunnels⟩ := htables
  rw [Knows, neighbour, hroutes, harp, hdevice, htunnels]
  exact h

theorem knows_handleArp {fuel : Nat} {u : Undef} {buf stack : Mem} {len length : Int}
    {out : Router × FlushRet} (h : Knows r dst addr mac)
    (hreturns : handleArp fuel r u buf len stack length = some out) :
    Knows out.1 dst addr mac := by
  unfold handleArp at hreturns
  split at hreturns
  · exact Option.some.inj hreturns ▸ h
  · split at hreturns
    · obtain ⟨f, -, hout⟩ := Option.map_eq_some_iff.mp hreturns
      rw [← hout]
      exact ⟨h.1, cachedMac_addArpItem h.2⟩
    · exact Option.some.inj hreturns ▸ h

theorem knows_step (h : Knows s.router dst addr mac) (hstep : Step s a t) :
    Knows t.router dst addr mac := by
  cases hstep with
  | receive u buf len => exact h.congr ipRecProcess_lookups
  | send u buf len src dst => exact h.congr ipSedProcess_lookups
  | arp hreturns => exact knows_handleArp h hreturns

/-- In every run after a neighbour is known, every packet for it leaves at once, in
one frame, to the MAC address it was known by first. -/
theorem known_for_ever {bs : List Act} (hrun : Run Step s bs t)
    (hdst : neighbour s.router dst = some addr)
    (hmac : cachedMac s.router.arpTable addr = some mac) {n : Nat} (hn : n + 34 < 2 ^ 64)
    (u : Undef) (buf : Mem) (src : UInt32) :
    ∃ card upVpn frame,
      sent (ipSedProcess t.router u buf n src dst).2 = [(card, upVpn, frame)] ∧
        frame.take 6 = mac.toList ∧
          (ipSedProcess t.router u buf n src dst).1.wait = t.router.wait := by
  have hknows : Knows t.router dst addr mac :=
    hrun.invariant (I := fun t => Knows t.router dst addr mac)
      (fun _ _ _ h hstep => knows_step h hstep) ⟨hdst, hmac⟩
  exact ipSedProcess_known hn hknows.1 hknows.2

end Runs

/-- The neighbour 192.168.1.2 says that its MAC address is another one now. -/
theorem neighbour_stays_known :
    ∃ t, Run Step (start (twoCards [neighbourRoute])) [reply] t ∧
      ArpMsg.srcMac replyFrame 14 ≠ macOf 2 0 0 0 0 2 ∧
      ∃ card upVpn frame,
        sent (ipSedProcess t.router zeroUndef (fun _ => 0) (60 : Nat) 0 0x0201a8c0).2 =
            [(card, upVpn, frame)] ∧
          frame.take 6 = (macOf 2 0 0 0 0 2).toList ∧
            (ipSedProcess t.router zeroUndef (fun _ => 0) (60 : Nat) 0 0x0201a8c0).1.wait =
              t.router.wait := by
  have hdst : neighbour (twoCards [neighbourRoute]) 0x0201a8c0 = some 0x0201a8c0 := by decide
  have hrun : ∃ t, Run Step (start (twoCards [neighbourRoute])) [reply] t :=
    ⟨_, .one (@Step.arp _ _ _ _ _ _ 12 _ rfl)⟩
  obtain ⟨t, ht⟩ := hrun
  exact ⟨t, ht, by decide,
    known_for_ever ht hdst (by decide) (by decide) zeroUndef (fun _ => 0) 0⟩

end VpnRouter.Waiting
