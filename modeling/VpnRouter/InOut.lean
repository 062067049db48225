import VpnRouter.Device
import Mathlib.Data.List.Basic

/-!
# The filter for incoming frames

`whether_inout` of `header.h` compares the destination of a frame with the
hardware address of every entry of the device table, the tunnel pseudo-device
among them, whose address stays zero (`inbound_iff`).
-/

namespace VpnRouter

open Lib.Memory

/-- The loop over the six bytes; `mark` is set by every byte that differs. -/
def macMark (addr : Mem) (mac : Mac) : Int :=
  (List.finRange 6).foldl (fun (mark : Int) (j : Fin 6) => if addr j ≠ mac[j] then 1 else mark) 0

def broadcastMac : Mac := macOf 0xff 0xff 0xff 0xff 0xff 0xff

def whetherInout : List DeviceItem → Mem → Int
  | [], addr => if macMark addr broadcastMac = 0 then 1 else 0
  | d :: rest, addr => if macMark addr d.macAddr = 0 then 1 else whetherInout rest addr

/-- The destination address of a frame. -/
def Targets (frame : Mem) (mac : Mac) : Prop := ∀ j : Fin 6, frame j = mac[j]

instance (frame : Mem) (mac : Mac) : Decidable (Targets frame mac) :=
  inferInstanceAs (Decidable (∀ j : Fin 6, frame j = mac[j]))

theorem foldl_mark {α : Type} {p : α → Prop} [DecidablePred p] (l : List α) (mark : Int) :
    l.foldl (fun (mark : Int) j => if p j then 1 else mark) mark = 0 ↔
      mark = 0 ∧ ∀ j ∈ l, ¬ p j := by
  induction l generalizing mark with
  | nil => simp
  | cons j l ih =>
      rw [List.foldl_cons, ih, List.forall_mem_cons]
      by_cases hj : p j
      · rw [if_pos hj]
        simp [hj]
      · rw [if_neg hj]
        simp [hj]

theorem macMark_eq_zero {addr : Mem} {mac : Mac} : macMark addr mac = 0 ↔ Targets addr mac := by
  rw [macMark, foldl_mark]
  simp [Targets]

theorem ite_one_iff {p : Prop} [Decidable p] {n : Int} :
    (if p then 1 else n) = 1 ↔ p ∨ n = 1 := by
  by_cases hp : p <;> simp [hp]

theorem whetherInout_iff {devices : List DeviceItem} {addr : Mem} :
    whetherInout devices addr = 1 ↔
      (∃ d ∈ devices, Targets addr d.macAddr) ∨ Targets addr broadcastMac := by
  induction devices with
  | nil =>
      rw [whetherInout, ite_one_iff, macMark_eq_zero]
      simp
  | cons d rest ih =>
      rw [whetherInout, ite_one_iff, macMark_eq_zero, ih, List.exists_mem_cons_iff, or_assoc]

/-! ## The router's own traffic -/

def zeroMac : Mac := macOf 0 0 0 0 0 0

/-- To a network card of the table or to all stations. -/
def Own (devices : List DeviceItem) (frame : Mem) : Prop :=
  (∃ d ∈ devices, d.vpn = 0 ∧ Targets frame d.macAddr) ∨ Targets frame broadcastMac

instance (devices : List DeviceItem) (frame : Mem) : Decidable (Own devices frame) :=
  inferInstanceAs (Decidable (_ ∨ _))

theorem Targets.unique {frame : Mem} {mac mac' : Mac} (h : Targets frame mac)
    (h' : Targets frame mac') : mac = mac' := by
  ext j hj : 1
  exact (h ⟨j, hj⟩).symm.trans (h' ⟨j, hj⟩)

/-- The zero address is that of the tunnel pseudo-device. -/
theorem whetherInout_bootDevices {k : Kernel} {frame : Mem} :
    whetherInout (bootDevices k) frame = 1 ↔
      Own (bootDevices k) frame ∨ Targets frame zeroMac := by
  rw [whetherInout_iff]
  constructor
  · rintro (⟨d, hd, hmac⟩ | hall)
    · rcases List.mem_append.mp hd with hcard | htunnel
      · exact .inl (.inl ⟨d, hd, vpn_of_initialDevice d hcard, hmac⟩)
      · right
        rw [List.mem_singleton.mp htunnel] at hmac
        exact hmac
    · exact .inl (.inr hall)
  · rintro ((⟨d, hd, -, hmac⟩ | hall) | hzero)
    · exact .inl ⟨d, hd, hmac⟩
    · exact .inr hall
    · exact .inl ⟨_, List.mem_append_right _ List.mem_cons_self, hzero⟩

/-- On a table whose cards all have an address the filter accepts exactly the
router's own traffic but for frames to the address zero. -/
theorem inbound_iff (k : Kernel) (frame : Mem)
    (hcards : ∀ d ∈ bootDevices k, d.vpn = 0 → d.macAddr ≠ zeroMac) :
    (whetherInout (bootDevices k) frame = 1 ↔ Own (bootDevices k) frame) ↔
      ¬ Targets frame zeroMac := by
  rw [whetherInout_bootDevices]
  constructor
  · intro h hzero
    rcases h.mp (.inr hzero) with ⟨d, hd, hvpn, hmac⟩ | hall
    · exact hcards d hd hvpn (hmac.unique hzero)
    · exact absurd (hall.unique hzero) (by decide)
  · intro h
    exact or_iff_left h

/-! One card, `eth4`. -/

def eth4Answers : IfAnswers where
  hwaddr := some (macOf 0 12 41 97 26 208)
  addr := some 0x0101a8c0
  netmask := some 0x00ffffff

def eth4Kernel : Kernel where
  procNetDev := some [[], [], ['e', 't', 'h', '4', ':', ' ', '0', '\n']]
  socket := some fun _ => eth4Answers

theorem broadcast_accepted :
    (whetherInout (bootDevices eth4Kernel) (fun _ => 0xff) = 1 ↔
        Own (bootDevices eth4Kernel) fun _ => 0xff) ↔ ¬ Targets (fun _ => 0xff) zeroMac :=
  inbound_iff eth4Kernel (fun _ => 0xff) (by decide)

/-- A frame of the loopback interface. -/
theorem zero_address_accepted :
    ¬ ∀ (k : Kernel) (frame : Mem),
      (∀ d ∈ bootDevices k, d.vpn = 0 → d.macAddr ≠ zeroMac) →
        (whetherInout (bootDevices k) frame = 1 ↔ Own (bootDevices k) frame) := by
  intro h
  have hown := (h eth4Kernel (fun _ => 0) (by decide)).mp (by decide)
  revert hown
  decide

end VpnRouter
