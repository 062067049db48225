import VpnRouter.Network
import VpnRouter.NextHop

/-!
# Paths through the network

A packet whose next hop is known at every router of a path arrives as it was,
also when the path goes through a tunnel.  Nothing on the way counts the hops.
-/

namespace VpnRouter

open Lib.Memory Lib.Encapsulation Lib.Transition

/-- The router sends what is addressed to `addr` on to a neighbour it knows. -/
def Passes (r : Router) (addr : UInt32) : Prop :=
  whetherIpMe r.device addr < 0 ∧
    ∃ hop : NextHop r addr, GatewayOnCard r hop.route.gateway

/-! ## Single routers -/

section Single

variable {r : Router} {p : Packet} {addr endpoint : UInt32}

theorem emitted_passes (h : Passes r p.dst) (u : Undef) (rest : Mem) :
    emitted (receive r u p rest).2 = [p.bytes] := by
  obtain ⟨hme, hop, index, d, hroute, hd, hplain⟩ := h
  obtain ⟨i, hlog⟩ := receive_forward u rest hme
  rw [← deviceAt_some (u := u) hd] at hplain
  have hfits := p.fits
  rw [hlog, hop.forwardAddr_eq, emitted, sent_deviceRead,
    ipSedProcess_sends (by omega) hroute hplain hop.cached, sent_memcpy, sent_sendto, sent_nil,
    List.map_singleton, drop_ethFrame, Packet.load_mem]

theorem emitted_entry (h : TunnelEntry r p.dst endpoint) (hfits : p.bytes.length ≤ 4062)
    (u : Undef) (rest : Mem) :
    ∃ header, HeaderTo endpoint header p.bytes ∧
      emitted (receive r u p rest).2 = [header ++ p.bytes] := by
  refine ⟨load (h.packed p rest) 14 20, ?_, ?_⟩
  · exact headerTo_ipPack _ hfits _ _ rfl
  · rw [emitted, receive_entry h u rest, List.map_singleton, drop_ethFrame, Nat.add_comm _ 20,
      load_add, h.load_packed p rest]

/-- The address that the inner packet shows to the router at the endpoint. -/
theorem dstAddr_inner {q : Packet} {header : List UInt8} (hbytes : q.bytes = header ++ p.bytes)
    (hlen : header.length = 20) (rest : Mem) :
    Ip4hdr.dstAddr (shift (q.mem rest) 20) 0 = p.dst := by
  have hheader := p.header
  apply get32_congr
  intro i hi
  rw [shift, Packet.mem, overlay_apply (by rw [hbytes, List.length_append]; omega), hbytes,
    List.getD_append_right _ _ _ _ (by omega), hlen, Packet.mem, overlay_apply (by omega)]
  congr 1
  omega

theorem emitted_exit (h : TunnelExit r p.dst endpoint) {q : Packet} {header : List UInt8}
    (hbytes : q.bytes = header ++ p.bytes) (hheader : HeaderTo endpoint header p.bytes) (u : Undef)
    (rest : Mem) : emitted (receive r u q rest).2 = [p.bytes] := by
  have hlen : q.bytes.length = p.bytes.length + 20 := by
    rw [hbytes, List.length_append, hheader.1, Nat.add_comm]
  obtain ⟨card, dst, src, hsent⟩ := receive_exit h u q rest hlen
    (tunnelHeader_mem hbytes hheader rest) (dstAddr_inner hbytes hheader.1 rest)
  rw [emitted, hsent, List.map_singleton, drop_ethFrame, hbytes, ← hheader.1, List.drop_left]

theorem dst_of_headerTo {q : Packet} {header inner : List UInt8}
    (hbytes : q.bytes = header ++ inner) (hheader : HeaderTo endpoint header inner) :
    q.dst = endpoint :=
  (tunnelHeader_mem hbytes hheader fun _ => 0).dstAddr

/-! The three conditions are conditions on the tables. -/

theorem eq_of_lookups {r' : Router} (h : r'.lookups = r.lookups) :
    r' = { r with wait := r'.wait, buff := r'.buff } := by
  obtain ⟨routeInfo, arpTable, device, vpnRoute, wait, buff⟩ := r
  obtain ⟨routeInfo', arpTable', device', vpnRoute', wait', buff'⟩ := r'
  simp only [Router.lookups, Prod.mk.injEq] at h
  obtain ⟨rfl, rfl, rfl, rfl⟩ := h
  rfl

theorem Passes.congr {r' : Router} (h : Passes r addr) (htables : r'.lookups = r.lookups) :
    Passes r' addr := by
  obtain ⟨hme, hop, hgateway⟩ := h
  rw [eq_of_lookups htables]
  exact ⟨hme, { hop with }, hgateway⟩

theorem tunnelEntry_congr {r' : Router} (h : TunnelEntry r addr endpoint)
    (htables : r'.lookups = r.lookups) : Nonempty (TunnelEntry r' addr endpoint) := by
  rw [eq_of_lookups htables]
  exact ⟨{ h with }⟩

theorem tunnelExit_congr {r' : Router} (h : TunnelExit r addr endpoint)
    (htables : r'.lookups = r.lookups) : Nonempty (TunnelExit r' addr endpoint) := by
  rw [eq_of_lookups htables]
  exact ⟨{ h with }⟩

end Single

/-! ## Runs along a path -/

/-- A router on a path, with what it reads unset. -/
structure Visit (ι : Type) where
  node : ι
  u : Undef
  rest : Mem

def Visit.take {ι : Type} (p : Packet) (v : Visit ι) : Take ι :=
  { node := v.node, u := v.u, p := p, rest := v.rest }

variable {ι : Type} [DecidableEq ι]

/-- The tables are those of `s₀`, and `q` is in flight beside the other packets. -/
structure Bears (s₀ : Net ι) (others : Multiset (List UInt8)) (q : List UInt8) (s : Net ι) :
    Prop where
  tables : ∀ i, (s.routers i).lookups = (s₀.routers i).lookups
  flight : s.flight = q ::ₘ others
  stopped : s.stopped = s₀.stopped

section Runs

variable {s₀ s : Net ι} {others : Multiset (List UInt8)} {p q : Packet} {out : List UInt8}

theorem bears_step {v : Visit ι} (h : Bears s₀ others p.bytes s) (hfits : p.bytes.length ≤ 4062)
    (hout : emitted (receive (s.routers v.node) v.u p v.rest).2 = [out]) :
    ∃ t, NetStep s (v.take p) t ∧ Bears s₀ others out t := by
  obtain ⟨hflight, hstopped⟩ := received_of_emitted (a := v.take p) hout
  refine ⟨s.received (v.take p), ⟨?_, hfits, rfl⟩, ?_, ?_, ?_⟩
  · rw [h.flight]
    exact Multiset.mem_cons_self _ _
  · intro i
    rw [lookups_received, h.tables i]
  · rw [hflight, h.flight, Visit.take, Multiset.erase_cons_head, Multiset.add_comm,
      Multiset.singleton_add]
  · rw [hstopped, h.stopped]

/-- Along routers that pass it on, the packet stays as it is. -/
theorem bears_passes {visits : List (Visit ι)} (h : Bears s₀ others p.bytes s)
    (hfits : p.bytes.length ≤ 4062)
    (hpasses : ∀ v ∈ visits, Passes (s₀.routers v.node) p.dst) :
    ∃ t, Run NetStep s (visits.map (Visit.take p)) t ∧ Bears s₀ others p.bytes t := by
  induction visits generalizing s with
  | nil => exact ⟨s, .nil s, h⟩
  | cons v visits ih =>
      have hpass := (hpasses v List.mem_cons_self).congr (h.tables v.node)
      obtain ⟨t, hstep, ht⟩ := bears_step h hfits (emitted_passes hpass v.u v.rest)
      obtain ⟨t', hrun, ht'⟩ := ih ht fun w hw => hpasses w (List.mem_cons_of_mem v hw)
      exact ⟨t', .cons hstep hrun, ht'⟩

/-- A packet goes along routers that pass it on to the entry of a tunnel, through
the tunnel along routers that pass its outer header on, and from the exit along
routers that pass it on again: it arrives as it was, and nothing else in flight
has changed. -/
theorem site_to_site {endpoint : UInt32} {before middle after : List (Visit ι)}
    {entry exit : Visit ι} (hflight : s.flight = p.bytes ::ₘ others)
    (hfits : p.bytes.length ≤ 4042)
    (hbefore : ∀ v ∈ before, Passes (s.routers v.node) p.dst)
    (hentry : TunnelEntry (s.routers entry.node) p.dst endpoint)
    (hmiddle : ∀ v ∈ middle, Passes (s.routers v.node) endpoint)
    (hexit : TunnelExit (s.routers exit.node) p.dst endpoint)
    (hafter : ∀ v ∈ after, Passes (s.routers v.node) p.dst) :
    ∃ (q : Packet) (t : Net ι),
      Run NetStep s ((before ++ [entry]).map (Visit.take p) ++
        ((middle ++ [exit]).map (Visit.take q) ++ after.map (Visit.take p))) t ∧
      (∃ header, q.bytes = header ++ p.bytes ∧ HeaderTo endpoint header p.bytes) ∧
      t.flight = p.bytes ::ₘ others ∧ t.stopped = s.stopped := by
  have hstart : Bears s others p.bytes s := ⟨fun _ => rfl, hflight, rfl⟩
  obtain ⟨s₁, hrun₁, h₁⟩ := bears_passes hstart (by omega) hbefore
  obtain ⟨hentry₁⟩ := tunnelEntry_congr hentry (h₁.tables entry.node)
  obtain ⟨header, hheader, hout⟩ := emitted_entry hentry₁ (by omega) entry.u entry.rest
  obtain ⟨s₂, hstep₂, h₂⟩ := bears_step h₁ (by omega) hout
  let q : Packet :=
    { bytes := header ++ p.bytes
      header := by
        rw [List.length_append, hheader.1]
        omega
      fits := by
        rw [List.length_append, hheader.1]
        omega }
  have hq : q.dst = endpoint := dst_of_headerTo rfl hheader
  have hqfits : q.bytes.length ≤ 4062 := by
    rw [List.length_append, hheader.1]
    omega
  obtain ⟨s₃, hrun₃, h₃⟩ := bears_passes (p := q) h₂ hqfits (by rwa [hq])
  obtain ⟨hexit₃⟩ := tunnelExit_congr hexit (h₃.tables exit.node)
  obtain ⟨s₄, hstep₄, h₄⟩ :=
    bears_step h₃ hqfits (emitted_exit hexit₃ rfl hheader exit.u exit.rest)
  obtain ⟨t, hrun₅, ht⟩ := bears_passes h₄ (by omega) hafter
  refine ⟨q, t, ?_, ⟨header, rfl, hheader⟩, ht.flight, ht.stopped⟩
  rw [List.map_append, List.map_append]
  exact (hrun₁.append (.one hstep₂)).append ((hrun₃.append (.one hstep₄)).append hrun₅)

/-- As long as every packet is received where it is passed on, the packets in
flight stay the same ones, however long the run: a loop of routes never ends. -/
theorem never_leaves {t : Net ι} {as : List (Take ι)} (hrun : Run NetStep s as t)
    (hpasses : ∀ a ∈ as, Passes (s.routers a.node) a.p.dst) :
    t.flight = s.flight ∧ t.stopped = s.stopped := by
  induction hrun with
  | nil s => exact ⟨rfl, rfl⟩
  | @cons s s' t a as hstep _ ih =>
      obtain ⟨hmem, -, rfl⟩ := hstep
      obtain ⟨hhere, hlater⟩ := List.forall_mem_cons.mp hpasses
      obtain ⟨hflight, hstopped⟩ := received_of_emitted (emitted_passes hhere a.u a.rest)
      have hnext (b : Take ι) (hb : b ∈ as) :
          Passes ((s.received a).routers b.node) b.p.dst :=
        (hlater b hb).congr (lookups_received s a b.node)
      obtain ⟨hflight', hstopped'⟩ := ih hnext
      rw [hflight', hstopped', hflight, hstopped, Multiset.add_comm, Multiset.singleton_add,
        Multiset.cons_erase hmem]
      exact ⟨rfl, rfl⟩

end Runs

/-! The two sites with a router between them that knows the way to 10.0.0.0/8. -/

def transit : Router := twoCards [gatewayRoute, neighbourRoute]

theorem transit_passes {addr : UInt32} (hme : whetherIpMe transit.device addr < 0)
    (hnet : transit.routeInfo.find? (cmpWhichNet addr) = some gatewayRoute) :
    Passes transit addr := by
  have hgateway : GatewayOnCard transit gatewayRoute.gateway :=
    ⟨1, transit.device[1], by decide, rfl, by decide⟩
  refine ⟨hme, ⟨gatewayRoute, hnet, 1, rfl, ?_, 1, rfl, 0, rfl⟩, hgateway⟩
  intro d hd
  cases hd
  rfl

def sitesVia : Net (Option Bool) where
  routers := fun
    | some true => siteA
    | some false => siteB
    | none => transit
  flight := {toSiteB.bytes}
  stopped := 0

def visit (node : Option Bool) : Visit (Option Bool) :=
  { node := node, u := zeroUndef, rest := fun _ => 0 }

theorem site_packet_arrives :
    ∃ (q : Packet) (t : Net (Option Bool)),
      Run NetStep sitesVia (([] ++ [visit (some true)]).map (Visit.take toSiteB) ++
        (([visit none] ++ [visit (some false)]).map (Visit.take q) ++
          ([] : List (Visit (Option Bool))).map (Visit.take toSiteB))) t ∧
      (∃ header, q.bytes = header ++ toSiteB.bytes ∧ HeaderTo 0x0200000a header toSiteB.bytes) ∧
      t.flight = toSiteB.bytes ::ₘ 0 ∧ t.stopped = sitesVia.stopped :=
  site_to_site rfl (by decide) (List.forall_mem_nil _) entryA
    (List.forall_mem_singleton.mpr (transit_passes (by decide) (by decide))) exitB
    (List.forall_mem_nil _)

def tenNetLoop : Net (Option Bool) := { sitesVia with flight := {toTenNet.bytes} }

theorem ten_net_never_leaves :
    ∃ t, Run NetStep tenNetLoop [(visit none).take toTenNet] t ∧
      t.flight = tenNetLoop.flight ∧ t.stopped = tenNetLoop.stopped := by
  have hstep : NetStep tenNetLoop ((visit none).take toTenNet)
      (tenNetLoop.received ((visit none).take toTenNet)) :=
    ⟨Multiset.mem_singleton_self _, by decide, rfl⟩
  refine ⟨_, .one hstep, never_leaves (.one hstep) ?_⟩
  rw [List.forall_mem_singleton]
  exact transit_passes (by decide) (by decide)

end VpnRouter
