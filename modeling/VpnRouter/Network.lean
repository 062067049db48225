import VpnRouter.Lib.Encapsulation
import VpnRouter.Conservation
import VpnRouter.RouteLookup
import VpnRouter.Tunnel
import Mathlib.Data.Multiset.ZeroCons
import Mathlib.Data.Multiset.AddSub

/-!
# Packets in a network of routers

Any number of routers pass packets to each other, and any packet in flight may
be received by any of them next.
-/

namespace VpnRouter

open Lib.Memory Lib.Encapsulation

/-- The 20 bytes `h` are an outer header of the tunnel to `endpoint` for the
packet `q`. -/
def HeaderTo (endpoint : UInt32) (h q : List UInt8) : Prop :=
  h.length = 20 ∧ TunnelHeader (overlay h fun _ => 0) 0 q.length endpoint

def OuterHeader (h q : List UInt8) : Prop := ∃ endpoint, HeaderTo endpoint h q

/-- Every address that the routes send to a tunnel device has a tunnel. -/
def TunnelsRouted (r : Router) : Prop :=
  ∀ addr i d, (reroute r.device r.routeInfo addr addr).1 = some i → r.device[i]? = some d →
    0 < d.vpn → ∃ endpoint, checkVpnRoute r.vpnRoute addr = some endpoint

/-- The packets that a call transmits, without the Ethernet header. -/
def emitted (log : List Event) : List (List UInt8) := (sent log).map fun x => x.2.2.drop 14

/-! ## What one call emits -/

section Emitted

variable {r : Router} {u : Undef} {buf : Mem} {n : Nat} {src dst : UInt32}

theorem headerTo_ipPack (m : Mem) {n : Nat} (hn : n ≤ 4062) (src endpoint : UInt32)
    {q : List UInt8} (hq : q.length = n) :
    HeaderTo endpoint
      (load (ipPack m 14 20 ((n : Int) + 20) 1 0 60 100 src endpoint) 14 20) q := by
  refine ⟨length_load _ _ _, ?_⟩
  rw [hq]
  apply (tunnelHeader_ipPack m 14 (by omega) src endpoint).congr
  intro i hi
  rw [Nat.zero_add, overlay_apply (by rw [length_load]; exact hi), getD_load hi]

theorem sedTransmit_emits (buff : Mem) {n : Nat} (hn : n + 14 < 2 ^ 64) (u : Undef) (dst : UInt32)
    (index : Nat) (upVpn : Bool) :
    emitted (sedTransmit r u buff n dst index upVpn).2 = [] ∨
      emitted (sedTransmit r u buff n dst index upVpn).2 = [load buff 14 n] := by
  cases ha : searchArpCache r.arpTable dst with
  | none =>
      obtain ⟨frame, -, hlog⟩ := sedTransmit_uncached u buff n index upVpn ha
      left
      rw [hlog]
      rfl
  | some a =>
      right
      rw [sedTransmit_hit hn ha, emitted, sent_sendto, sent_nil, List.map_singleton, drop_ethFrame]

/-- With a tunnel `repack_vpn` puts an outer header in front of the packet. -/
theorem repackVpn_outer (u : Undef) (src : UInt32) (buf : Mem) (hn : n ≤ 4062) {endpoint : UInt32}
    (htunnel : checkVpnRoute r.vpnRoute dst = some endpoint) :
    ∃ hdr mem, (repackVpn r u src dst buf 14 n).2.2 = (endpoint, mem) ∧
      load mem 14 (n + 20) = hdr ++ load buf 34 n ∧ HeaderTo endpoint hdr (load buf 34 n) := by
  obtain ⟨cardIp, hpacked⟩ : ∃ cardIp, (repackVpn r u src dst buf 14 n).2.2 =
      (endpoint, ipPack buf 14 20 ((n : Int) + 20) 1 0 60 100 cardIp endpoint) := by
    simp only [repackVpn, htunnel]
    exact ⟨_, rfl⟩
  let mem := ipPack buf 14 20 ((n : Int) + 20) 1 0 60 100 cardIp endpoint
  refine ⟨load mem 14 20, mem, hpacked, ?_, ?_⟩
  · have hpacket : load mem 34 n = load buf 34 n := by
      apply load_congr
      intro i _
      exact ipPack_outside _ _ _ _ _ _ _ _ _ _ (by omega)
    rw [Nat.add_comm n 20, load_add, hpacket]
  · exact headerTo_ipPack buf hn cardIp endpoint (length_load _ _ _)

/-- One call emits the packet, or the packet behind one outer header, or nothing. -/
theorem ipSedProcess_emits (hr : TunnelsRouted r) (u : Undef) (buf : Mem) (hn : n ≤ 4062)
    (src dst : UInt32) :
    emitted (ipSedProcess r u buf n src dst).2 = [] ∨
      ∃ k out, emitted (ipSedProcess r u buf n src dst).2 = [out] ∧
        Under OuterHeader k (load buf 0 n) out := by
  have hsize : sizeT (n : Int) = n := sizeT_natCast (by omega)
  cases hroute : (reroute r.device r.routeInfo dst dst).1 with
  | none =>
      left
      rw [ipSedProcess_dropped hroute]
      rfl
  | some index =>
      have hdevice : r.device[index]? = some _ := List.getElem?_eq_getElem (reroute_lt hroute)
      by_cases hcard : 0 < (deviceAt r u (some index)).vpn
      · rw [deviceAt_some hdevice] at hcard
        obtain ⟨endpoint, htunnel⟩ := hr dst index _ hroute hdevice hcard
        rw [← deviceAt_some (u := u) hdevice] at hcard
        rw [ipSedProcess_tunnel hroute hcard, hsize]
        obtain ⟨hdr, mem, haddr, hload, houter⟩ :=
          repackVpn_outer u src (copy r.buff 34 buf 0 n) hn htunnel
        rw [load_copy_same] at hload houter
        rw [haddr]
        rcases sedTransmit_emits mem (show n + 20 + 14 < 2 ^ 64 by omega) u endpoint index
          true with hnone | hone
        · exact .inl hnone
        · refine .inr ⟨1, _, hone, ?_⟩
          rw [hload]
          exact .wrap (.bare _) ⟨endpoint, houter⟩
      · rw [ipSedProcess_plain hroute hcard, hsize]
        have hcopy : load (copy r.buff 14 buf 0 n) 14 n = load buf 0 n := load_copy_same ..
        rcases sedTransmit_emits (copy r.buff 14 buf 0 n) (show n + 14 < 2 ^ 64 by omega) u dst
          index false with hnone | hone
        · exact .inl hnone
        · exact .inr ⟨0, _, hone, hcopy ▸ .bare _⟩

/-- What `unpack_vpn` logs transmits nothing, and unless the inner packet is for
the router it is passed on from where it lies. -/
theorem unpackVpn_cases (r : Router) (buf : Mem) (len : UInt32) :
    sent (unpackVpn r buf len).log = [] ∧
      ((unpackVpn r buf len).mark = 2 ∨
        (unpackVpn r buf len).mark = 1 ∧ (unpackVpn r buf len).buf = buf ∧
          (unpackVpn r buf len).len = len) := by
  unfold unpackVpn
  split
  · exact ⟨rfl, .inl rfl⟩
  · exact ⟨rfl, .inr ⟨rfl, rfl, rfl⟩⟩

theorem sent_append (log log' : List Event) : sent (log ++ log') = sent log ++ sent log' :=
  List.filterMap_append

theorem emitted_append_of_silent {log log' : List Event} (h : sent log = []) :
    emitted (log ++ log') = emitted log' := by
  rw [emitted, sent_append, h, List.nil_append, emitted]

theorem sent_getmessage (buf : Mem) (len : Int) : sent (getmessage buf len) = [] := rfl

end Emitted

/-! ## What a router emits for a packet -/

section Receive

variable {r : Router} {p : Packet} {n : Nat} {orig : List UInt8}

/-- The outer header at the start of a packet, as the router reads it. -/
theorem tunnelHeader_mem {h inner : List UInt8} {endpoint : UInt32}
    (hbytes : p.bytes = h ++ inner) (hheader : HeaderTo endpoint h inner) (rest : Mem) :
    TunnelHeader (p.mem rest) 0 inner.length endpoint := by
  obtain ⟨hlen, houter⟩ := hheader
  apply houter.congr
  intro i hi
  rw [Nat.zero_add, Packet.mem, overlay_apply (by rw [hbytes, List.length_append]; omega),
    overlay_apply (by omega), hbytes, List.getD_append _ _ _ _ (by omega)]

/-- A packet that the router takes for itself out of the tunnel. -/
theorem receive_unwraps (hr : TunnelsRouted r) (u : Undef) (rest : Mem)
    (hme : ¬ whetherIpMe r.device p.dst < 0) (hfits : p.bytes.length ≤ 4062)
    {h inner : List UInt8} (hbytes : p.bytes = h ++ inner) (hheader : OuterHeader h inner) :
    emitted (receive r u p rest).2 = [] ∨
      ∃ k out, emitted (receive r u p rest).2 = [out] ∧ Under OuterHeader k inner out := by
  obtain ⟨endpoint, hlen20, hheader⟩ := hheader
  have houter := tunnelHeader_mem hbytes ⟨hlen20, hheader⟩ rest
  have hlen : p.bytes.length = 20 + inner.length := by
    rw [hbytes, List.length_append, hlen20]
  have hsub : (p.bytes.length : Int) - ((20 : Nat) : Int) = (inner.length : Nat) := by omega
  have hload : load (shift (p.mem rest) 20) 0 inner.length = inner := by
    have hdrop := drop_load (p.mem rest) 0 p.bytes.length 20
    rw [Packet.load_mem, hlen, Nat.add_sub_cancel_left, Nat.zero_add] at hdrop
    rw [load_shift, ← hdrop, hbytes, ← hlen20, List.drop_left]
  simp only [receive, ipRecProcess, Packet.dstAddr_mem, if_neg hme, houter.protocal, if_true,
    houter.headLen, hsub]
  obtain ⟨hlog, hmark | ⟨hmark, hbuf, hret⟩⟩ :=
    unpackVpn_cases r (shift (p.mem rest) 20) (toU32 (inner.length : Nat))
  · left
    simp only [hmark, if_neg (show ¬ (2 : Int) < 0 by decide), if_neg (show ¬ (2 : Int) = 1 by
      decide), emitted, sent_append, hlog, sent_getmessage]
    rfl
  · simp only [hmark, if_neg (show ¬ (1 : Int) < 0 by decide), if_true, hbuf, hret,
      ofU32_toU32 (show inner.length < 2 ^ 31 by omega), emitted_append_of_silent hlog]
    have hemits := ipSedProcess_emits hr u (shift (p.mem rest) 20) (show inner.length ≤ 4062 by
      omega) 0 (unpackVpn r (shift (p.mem rest) 20) (toU32 (inner.length : Nat))).dst
    rw [hload] at hemits
    exact hemits

/-- Whatever the router does, what it emits is still the original packet behind
some number of outer headers. -/
theorem receive_emits (hr : TunnelsRouted r) (u : Undef) (rest : Mem)
    (hfits : p.bytes.length ≤ 4062) (horig : orig.getD 9 0 ≠ IP_PROTOPPTP)
    (hunder : Under OuterHeader n orig p.bytes) :
    emitted (receive r u p rest).2 = [] ∨
      ∃ k out, emitted (receive r u p rest).2 = [out] ∧ Under OuterHeader k orig out := by
  by_cases hme : whetherIpMe r.device p.dst < 0
  · obtain ⟨i, hlog⟩ := receive_forward u rest hme
    have hemits := ipSedProcess_emits hr u (p.mem rest) hfits 0 (forwardAddr r u p.dst)
    rw [Packet.load_mem] at hemits
    rw [hlog, emitted, sent_deviceRead]
    rcases hemits with hnone | ⟨k, out, hone, hout⟩
    · exact .inl hnone
    · exact .inr ⟨n + k, out, hone, hunder.trans hout⟩
  · cases n with
    | zero =>
        have hproto : ¬ Ip4hdr.protocal (p.mem rest) 0 = IP_PROTOPPTP := by
          have hheader := p.header
          rw [Ip4hdr.protocal, Packet.mem, overlay_apply (by omega), hunder.eq_of_bare]
          exact horig
        left
        simp only [receive, ipRecProcess, Packet.dstAddr_mem, if_neg hme, if_neg hproto]
        rfl
    | succ n =>
        obtain ⟨h, inner, hbytes, hheader, hinner⟩ := hunder.exists_unwrapped
        rcases receive_unwraps hr u rest hme hfits hbytes hheader with hnone | ⟨k, out, hone, hout⟩
        · exact .inl hnone
        · exact .inr ⟨n + k, out, hone, hinner.trans hout⟩

end Receive

/-! ## What a router keeps -/

section Tables

variable {r : Router} {u : Undef} {buf : Mem} {len : Int} {src dst : UInt32}

theorem tunnelsRouted_congr {r' : Router} (h : r'.lookups = r.lookups) :
    TunnelsRouted r' ↔ TunnelsRouted r := by
  simp only [Router.lookups, Prod.mk.injEq] at h
  obtain ⟨hroutes, -, hdevice, htunnels⟩ := h
  simp only [TunnelsRouted, hroutes, hdevice, htunnels]

/-- A tunnel for the subnet of every route that names a tunnel device is enough. -/
theorem tunnelsRouted_of_covered
    (h : ∀ route ∈ r.routeInfo, ∀ d ∈ r.device, d.interface = route.interface → 0 < d.vpn →
      ∃ v ∈ r.vpnRoute, v.netmask = route.netmask ∧ v.vpnDes &&& v.netmask = route.destination) :
    TunnelsRouted r := by
  intro addr i d hcard hd hvpn
  have hpair : reroute r.device r.routeInfo addr addr = (some i, _) := Prod.ext hcard rfl
  obtain ⟨l, route, rest, hroutes, -, husable, hfirst, -⟩ := reroute_eq_some_iff.mp hpair
  obtain ⟨⟨e, he, hname⟩, -⟩ := hfirst
  rw [hd] at he
  rw [← Option.some.inj he] at hname
  have hroute : route ∈ r.routeInfo := hroutes ▸ List.mem_append_right l List.mem_cons_self
  obtain ⟨v, hv, hmask, hnet⟩ := h route hroute d (List.mem_of_getElem? hd) hname hvpn
  have hin : inVpnNet addr v = true := by
    rw [inVpnNet_iff, hnet, hmask]
    exact husable.1
  cases hfind : r.vpnRoute.find? (inVpnNet addr) with
  | none => exact absurd hin (List.find?_eq_none.mp hfind v hv)
  | some w =>
      rw [checkVpnRoute_eq, hfind]
      exact ⟨w.des, rfl⟩

end Tables

/-! ## The network -/

/-- The routers, the packets in flight, and the packets that a router took and
did not pass on: it delivered, stored or dropped them. -/
structure Net (ι : Type) where
  routers : ι → Router
  flight : Multiset (List UInt8)
  stopped : Multiset (List UInt8)

/-- Router `node` receives the packet `p`. -/
structure Take (ι : Type) where
  node : ι
  u : Undef
  p : Packet
  rest : Mem

variable {ι : Type} [DecidableEq ι]

def Net.received (s : Net ι) (a : Take ι) : Net ι :=
  let out := receive (s.routers a.node) a.u a.p a.rest
  { routers := Function.update s.routers a.node out.1
    flight := s.flight.erase a.p.bytes + emitted out.2
    stopped := if emitted out.2 = [] then a.p.bytes ::ₘ s.stopped else s.stopped }

/-- A packet in flight is received; it leaves room for an outer header in the
buffer of `ip_sed_process`. -/
def NetStep (s : Net ι) (a : Take ι) (t : Net ι) : Prop :=
  a.p.bytes ∈ s.flight ∧ a.p.bytes.length ≤ 4062 ∧ t = s.received a

theorem lookups_received (s : Net ι) (a : Take ι) (i : ι) :
    ((s.received a).routers i).lookups = (s.routers i).lookups := by
  simp only [Net.received]
  by_cases hi : i = a.node
  · subst hi
    rw [Function.update_self]
    exact ipRecProcess_lookups
  · rw [Function.update_of_ne hi]

theorem received_of_emitted {s : Net ι} {a : Take ι} {out : List UInt8}
    (h : emitted (receive (s.routers a.node) a.u a.p a.rest).2 = [out]) :
    (s.received a).flight = s.flight.erase a.p.bytes + {out} ∧
      (s.received a).stopped = s.stopped := by
  simp only [Net.received, h, Multiset.coe_singleton, if_neg (List.cons_ne_nil _ _), and_self]

/-- Every router has its tunnels, and each of the original packets is in flight or
stopped exactly once, behind some number of outer headers. -/
def Intact (origs : Multiset (List UInt8)) (s : Net ι) : Prop :=
  (∀ i, TunnelsRouted (s.routers i)) ∧
    Multiset.Rel (fun p q => ∃ n, Under OuterHeader n p q) origs (s.flight + s.stopped)

/-- One packet of a collection is exchanged for another descendant of its original. -/
theorem rel_exchange {R : List UInt8 → List UInt8 → Prop} {origs flight : Multiset (List UInt8)}
    {q out : List UInt8} (h : Multiset.Rel R origs (q ::ₘ flight))
    (hout : ∀ p ∈ origs, R p q → R p out) : Multiset.Rel R origs (out ::ₘ flight) := by
  obtain ⟨p, rest, hp, hrest, rfl⟩ := Multiset.rel_cons_right.mp h
  exact .cons (hout p (Multiset.mem_cons_self p rest) hp) hrest

theorem intact_step {origs : Multiset (List UInt8)}
    (horigs : ∀ p ∈ origs, p.getD 9 0 ≠ IP_PROTOPPTP) {s t : Net ι} {a : Take ι}
    (h : Intact origs s) (hstep : NetStep s a t) : Intact origs t := by
  obtain ⟨hmem, hfits, rfl⟩ := hstep
  constructor
  · intro i
    exact (tunnelsRouted_congr (lookups_received s a i)).mpr (h.1 i)
  · obtain ⟨flight, hcons⟩ := Multiset.exists_cons_of_mem hmem
    have hrel := h.2
    rw [hcons, Multiset.cons_add] at hrel
    have hemits (p : List UInt8) (hp : p ∈ origs)
        (hunder : ∃ n, Under OuterHeader n p a.p.bytes) :=
      receive_emits (h.1 a.node) a.u a.rest hfits (horigs p hp) hunder.choose_spec
    obtain ⟨p, rest, hp, -, horig⟩ := Multiset.rel_cons_right.mp hrel
    rcases hemits p (horig ▸ Multiset.mem_cons_self p rest) hp with hnone | ⟨k, out, hone, -⟩
    · simp only [Net.received, hnone, if_true, hcons, Multiset.erase_cons_head, Multiset.coe_nil,
        Multiset.add_zero, Multiset.add_cons]
      exact hrel
    · obtain ⟨hflight, hstopped⟩ := received_of_emitted hone
      rw [hflight, hstopped, hcons, Multiset.erase_cons_head, Multiset.add_assoc,
        Multiset.singleton_add, Multiset.add_cons]
      refine rel_exchange hrel ?_
      intro p' hp' hunder
      rcases hemits p' hp' hunder with hnone | ⟨k', out', hone', hout⟩
      · rw [hone] at hnone
        cases hnone
      · rw [hone] at hone'
        cases hone'
        exact ⟨k', hout⟩

/-- Over every run of the network each original packet is in flight or stopped
exactly once, and below its outer headers no byte of it has changed. -/
theorem packets_intact {s t : Net ι} {as : List (Take ι)}
    (hrouters : ∀ i, TunnelsRouted (s.routers i))
    (hplain : ∀ p ∈ s.flight + s.stopped, p.getD 9 0 ≠ IP_PROTOPPTP)
    (hrun : Lib.Transition.Run NetStep s as t) :
    Multiset.Rel (fun p q => ∃ n, Under OuterHeader n p q ∧ q.drop (n * 20) = p)
      (s.flight + s.stopped) (t.flight + t.stopped) := by
  have hstart : Intact (s.flight + s.stopped) s := by
    refine ⟨hrouters, Multiset.rel_refl_of_refl_on ?_⟩
    intro p _
    exact ⟨0, .bare p⟩
  have hend := (hrun.invariant (fun _ _ _ h hstep => intact_step hplain h hstep) hstart).2
  apply hend.mono
  rintro p - q - ⟨n, hn⟩
  refine ⟨n, hn, hn.drop_eq ?_⟩
  rintro h q ⟨endpoint, hlen, -⟩
  exact hlen

/-! The two sites, with a packet of the first. -/

def sites : Net Bool where
  routers := fun b => if b then siteA else siteB
  flight := {toSiteB.bytes}
  stopped := 0

def takeA : Take Bool where
  node := true
  u := zeroUndef
  p := toSiteB
  rest := fun _ => 0

theorem sites_tunnelsRouted (b : Bool) : TunnelsRouted (sites.routers b) := by
  apply tunnelsRouted_of_covered
  cases b with
  | false => decide
  | true => decide

theorem site_packet_intact :
    ∃ t, Lib.Transition.Run NetStep sites [takeA] t ∧
      Multiset.Rel (fun p q => ∃ n, Under OuterHeader n p q ∧ q.drop (n * 20) = p)
        (sites.flight + sites.stopped) (t.flight + t.stopped) := by
  have hstep : NetStep sites takeA (sites.received takeA) :=
    ⟨Multiset.mem_singleton_self _, by decide, rfl⟩
  refine ⟨_, .one hstep, packets_intact sites_tunnelsRouted ?_ (.one hstep)⟩
  decide

end VpnRouter
