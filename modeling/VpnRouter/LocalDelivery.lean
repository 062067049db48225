import VpnRouter.Device
import VpnRouter.IpProcess

/-!
# Local delivery

`ip_rec_process` asks `whether_ip_me` whether a packet is for the router, and
`whether_ip_me` compares under the mask of each card.  So the router keeps every
packet for an address of a connected subnet.
-/

namespace VpnRouter

open Lib.Memory

/-- The calls `ip_rec_process` makes for a packet it takes as its own. -/
def Event.isDelivery : Event → Bool
  | .unpackVpn .. => true
  | .getmessage .. => true
  | _ => false

def TakesAsOwn (log : List Event) : Prop := ∃ e ∈ log, e.isDelivery = true

def Forwards (log : List Event) : Prop := ∃ i, .deviceRead i ∈ log

def OwnAddr (devices : List DeviceItem) (addr : UInt32) : Prop := ∃ d ∈ devices, d.ip = addr

/-- The router keeps the packet only when it is addressed to one of its devices
and forwards every other one. -/
def LocalOnly (devices : List DeviceItem) (addr : UInt32) (log : List Event) : Prop :=
  (TakesAsOwn log → OwnAddr devices addr) ∧ (¬ OwnAddr devices addr → Forwards log)

def Connected (devices : List DeviceItem) (addr : UInt32) : Prop :=
  ∃ d ∈ devices, cmpIpNetMask addr d.ip d.netmask = true

theorem takesAsOwn_cons {e : Event} {log : List Event} :
    TakesAsOwn (e :: log) ↔ e.isDelivery = true ∨ TakesAsOwn log := by
  simp only [TakesAsOwn, List.exists_mem_cons_iff]

theorem takesAsOwn_append_left {log : List Event} (h : TakesAsOwn log) (log' : List Event) :
    TakesAsOwn (log ++ log') := by
  obtain ⟨e, he, hdel⟩ := h
  exact ⟨e, List.mem_append_left log' he, hdel⟩

theorem sedTransmit_not_delivery {r : Router} {u : Undef} (buff : Mem) (len : Int)
    (dst1 : UInt32) (index : Nat) (upVpn : Bool) :
    ∀ e ∈ (sedTransmit r u buff len dst1 index upVpn).2, ¬ e.isDelivery = true := by
  cases ha : searchArpCache r.arpTable dst1 with
  | none =>
      obtain ⟨frame, -, hlog⟩ := sedTransmit_uncached u buff len index upVpn ha
      rw [hlog, List.forall_mem_singleton]
      exact Bool.false_ne_true
  | some a =>
      obtain ⟨frame, -, hlog⟩ := sedTransmit_cached u buff len index upVpn ha
      rw [hlog, List.forall_mem_singleton]
      exact Bool.false_ne_true

theorem ipSedProcess_not_delivery {r : Router} {u : Undef} {buf : Mem} {len : Int}
    {src dst : UInt32} : ¬ TakesAsOwn (ipSedProcess r u buf len src dst).2 := by
  intro htakes
  obtain ⟨e, he, hdelivery⟩ := htakes
  apply ipSedProcess_forall (P := fun e => ¬ e.isDelivery = true) _ _ e he hdelivery
  · exact Bool.false_ne_true
  · intro buff k dst1 index upVpn _
    exact sedTransmit_not_delivery buff k dst1 index upVpn

section Receive

variable (r : Router) (u : Undef) (p : Packet) (rest : Mem)

theorem receive_forwards (hme : ¬ Connected r.device p.dst) :
    Forwards (receive r u p rest).2 ∧ ¬ TakesAsOwn (receive r u p rest).2 := by
  have hneg : whetherIpMe r.device p.dst < 0 := by
    rw [whetherIpMe_neg, whetherIpMe_pos]
    exact hme
  obtain ⟨i, hlog⟩ := receive_forward u rest hneg
  rw [hlog, takesAsOwn_cons]
  constructor
  · exact ⟨i, List.mem_cons_self⟩
  · apply not_or_intro
    · exact Bool.false_ne_true
    · exact ipSedProcess_not_delivery

theorem receive_takes (hme : Connected r.device p.dst) :
    TakesAsOwn (receive r u p rest).2 := by
  have hpos : ¬ whetherIpMe r.device p.dst < 0 := by
    rw [whetherIpMe_neg, whetherIpMe_pos]
    exact not_not_intro hme
  have hunpack (buf : Mem) (len : UInt32) : TakesAsOwn (unpackVpn r buf len).log := by
    unfold unpackVpn
    split
    · exact ⟨_, List.mem_cons_of_mem _ List.mem_cons_self, rfl⟩
    · exact ⟨_, List.mem_cons_self, rfl⟩
  simp only [receive, ipRecProcess, Packet.dstAddr_mem, if_neg hpos]
  split
  · have htakes := hunpack (shift (p.mem rest) (Ip4hdr.headLen (p.mem rest) 0 * 4))
      (toU32 (p.bytes.length - (Ip4hdr.headLen (p.mem rest) 0 * 4 : Nat)))
    split
    · exact htakes
    · split
      · exact takesAsOwn_append_left htakes _
      · exact takesAsOwn_append_left htakes _
  · exact ⟨_, List.mem_cons_self, rfl⟩

/-- A card without an address and without a mask takes every packet. -/
theorem unconfigured_takes {d : DeviceItem} (hd : d ∈ r.device) (hmask : d.netmask = 0) :
    TakesAsOwn (receive r u p rest).2 := by
  apply receive_takes
  refine ⟨d, hd, ?_⟩
  simp [cmpIpNetMask, hmask]

end Receive

/-- With a device table as `initial_route` fills it, the router keeps what is
addressed to it and nothing else exactly when the address is one of its own or
lies in no connected subnet. -/
theorem local_delivery_iff (k : Kernel) (r : Router) (u : Undef) (p : Packet) (rest : Mem) :
    LocalOnly (bootDevices k) p.dst (receive { r with device := bootDevices k } u p rest).2 ↔
      OwnAddr (bootDevices k) p.dst ∨ ¬ Connected (bootDevices k) p.dst := by
  by_cases hconn : Connected (bootDevices k) p.dst
  · have htakes : TakesAsOwn (receive { r with device := bootDevices k } u p rest).2 :=
      receive_takes _ u p rest hconn
    constructor
    · intro h
      exact Or.inl (h.1 htakes)
    · intro h
      have hown := h.resolve_right (not_not_intro hconn)
      exact ⟨fun _ => hown, fun hnot => absurd hown hnot⟩
  · obtain ⟨hforward, hnot⟩ := receive_forwards { r with device := bootDevices k } u p rest hconn
    exact iff_of_true ⟨fun h => absurd h hnot, fun _ => hforward⟩ (Or.inr hconn)

/-! One card, eth0 with 192.168.1.1/24. -/

def oneCard : Kernel where
  procNetDev := some [[], [], [' ', 'l', 'o', ':', ' ', '0'], ['e', 't', 'h', '0', ':', ' ', '0']]
  socket := some fun _ =>
    { hwaddr := some (macOf 2 0 0 0 0 1), addr := some 0x0101a8c0, netmask := some 0x00ffffff }

theorem neighbour_kept :
    ¬ LocalOnly (bootDevices oneCard) 0x0201a8c0
      (receive { bareRouter with device := bootDevices oneCard } zeroUndef
        (emptyPacket 64 0x0301a8c0 0x0201a8c0) fun _ => 0).2 := by
  have hdst : (emptyPacket 64 0x0301a8c0 0x0201a8c0).dst = 0x0201a8c0 := by decide
  have hown : ∀ d ∈ bootDevices oneCard, d.ip ≠ 0x0201a8c0 := by decide
  have hconn : ∃ d ∈ bootDevices oneCard, cmpIpNetMask 0x0201a8c0 d.ip d.netmask = true := by
    decide
  intro h
  obtain ⟨d, hd, hip⟩ := h.1 (receive_takes _ _ _ _ (by rw [hdst]; exact hconn))
  exact hown d hd hip

end VpnRouter
