import VpnRouter.Boot
import VpnRouter.Tcp

/-!
# The sockets of the cards

The loop of `initial` in `route.c`.  It opens one packet socket for each network
card and returns at the first call that fails, and `main` goes on all the same
(`sockets_opened`).
-/

namespace VpnRouter

open Lib.Memory

/-- The fields of `struct sockaddr_ll` that `initial` sets. -/
structure SockaddrLl where
  family : UInt16
  protocol : UInt16
  ifindex : Int
  halen : UInt8
  addr : Mac
deriving DecidableEq, Repr

def zeroAddr : SockaddrLl :=
  { family := 0, protocol := 0, ifindex := 0, halen := 0, addr := macOf 0 0 0 0 0 0 }

/-- The calls of the loop.  The answers to `SIOCGIFINDEX` and `SIOCGIFHWADDR` are
not checked: these are the values of the fields after the call. -/
structure SocketKernel where
  socket : Nat → Option Nat
  ifindex : String → Int
  hwaddr : String → Mac
  bind : Nat → SockaddrLl → Bool
  getFlags : String → Bool
  setFlags : String → Bool

structure Sockets where
  socketArray : Nat → Nat
  sendAddr : Nat → SockaddrLl

def Sockets.set (s : Sockets) (i sock : Nat) (sll : SockaddrLl) : Sockets :=
  { socketArray := Function.update s.socketArray i sock
    sendAddr := Function.update s.sendAddr i sll }

def cardAddr (k : SocketKernel) (d : DeviceItem) : SockaddrLl :=
  { family := 17, protocol := htons 0x0003, ifindex := k.ifindex d.interface, halen := 6,
    addr := k.hwaddr d.interface }

/-- The loop of `initial` from device `i` on; `none` is the end of the function,
which has no `return`. -/
def openSockets (k : SocketKernel) : Nat → List DeviceItem → Sockets → Option Int × Sockets
  | _, [], s => (none, s)
  | i, d :: rest, s =>
      if d.vpn = 1 then openSockets k (i + 1) rest s
      else
        match k.socket i with
        | none => (some (-1), s)
        | some sock =>
            let sll := cardAddr k d
            if k.bind sock sll = false then (some (-1), s)
            else if k.getFlags d.interface = false then (some (-1), s)
            else if k.setFlags d.interface = false then (some (-1), s)
            else openSockets k (i + 1) rest (s.set i sock sll)

/-- `initial_route` clears both arrays; `main` does not look at the result. -/
def initial (k : Kernel) (sk : SocketKernel) : Router × TcpLink × Option Int × Sockets :=
  let r := bootRouter k
  (r, tcpInitial,
    openSockets sk 0 r.device { socketArray := fun _ => 0, sendAddr := fun _ => zeroAddr })

/-- The calls for card `d` at index `i` all succeed, with the socket `sock`. -/
def Opens (k : SocketKernel) (i : Nat) (d : DeviceItem) (sock : Nat) : Prop :=
  k.socket i = some sock ∧ k.bind sock (cardAddr k d) = true ∧
    k.getFlags d.interface = true ∧ k.setFlags d.interface = true

/-- The loop from device `i` on has served the first `n` devices of the list: each
card among them has a socket of its own, no other entry from `i` on is set, and the
loop ended behind the list or at a card that does not open. -/
structure Serves (k : SocketKernel) (i : Nat) (devices : List DeviceItem)
    (out : Option Int × Sockets) (n : Nat) : Prop where
  cards : ∀ j d, devices[j]? = some d → j < n → d.vpn ≠ 1 →
    Opens k (i + j) d (out.2.socketArray (i + j)) ∧ out.2.sendAddr (i + j) = cardAddr k d
  others : ∀ j, (n ≤ j ∨ ∃ d, devices[j]? = some d ∧ d.vpn = 1) →
    out.2.socketArray (i + j) = 0 ∧ out.2.sendAddr (i + j) = zeroAddr
  ends : out.1 = none ∧ n = devices.length ∨
    out.1 = some (-1) ∧ ∃ d, devices[n]? = some d ∧ d.vpn ≠ 1 ∧ ∀ sock, ¬ Opens k (i + n) d sock

theorem Sockets.set_of_ne (s : Sockets) {i j : Nat} (h : j ≠ i) (sock : Nat) (sll : SockaddrLl) :
    (s.set i sock sll).socketArray j = s.socketArray j ∧
      (s.set i sock sll).sendAddr j = s.sendAddr j :=
  ⟨Function.update_of_ne h _ _, Function.update_of_ne h _ _⟩

theorem Sockets.set_self (s : Sockets) (i sock : Nat) (sll : SockaddrLl) :
    (s.set i sock sll).socketArray i = sock ∧ (s.set i sock sll).sendAddr i = sll :=
  ⟨Function.update_self .., Function.update_self ..⟩

section OpenSockets

variable {k : SocketKernel} {i : Nat} {d : DeviceItem} {rest devices : List DeviceItem}
  {s : Sockets}

theorem openSockets_vpn (hvpn : d.vpn = 1) :
    openSockets k i (d :: rest) s = openSockets k (i + 1) rest s := by
  rw [openSockets, if_pos hvpn]

theorem openSockets_card {sock : Nat} (hcard : d.vpn ≠ 1) (hopens : Opens k i d sock) :
    openSockets k i (d :: rest) s = openSockets k (i + 1) rest (s.set i sock (cardAddr k d)) := by
  obtain ⟨hsocket, hbind, hget, hset⟩ := hopens
  simp only [openSockets, if_neg hcard, hsocket, hbind, hget, hset, reduceCtorEq, if_false]

theorem openSockets_fails (hcard : d.vpn ≠ 1) (hfails : ∀ sock, ¬ Opens k i d sock) :
    openSockets k i (d :: rest) s = (some (-1), s) := by
  rw [openSockets, if_neg hcard]
  cases hsocket : k.socket i with
  | none => rfl
  | some sock =>
      have hno := hfails sock
      simp only [Opens, hsocket, true_and, not_and, Bool.not_eq_true] at hno
      simp only
      split
      · rfl
      · split
        · rfl
        · rename_i hbind hget
          rw [Bool.not_eq_false] at hbind hget
          rw [if_pos (hno hbind hget)]

/-- The loop sets no entry before the one it starts at. -/
theorem openSockets_before (k : SocketKernel) (devices : List DeviceItem) (s : Sockets) {j : Nat}
    (hj : j < i) :
    (openSockets k i devices s).2.socketArray j = s.socketArray j ∧
      (openSockets k i devices s).2.sendAddr j = s.sendAddr j := by
  induction devices generalizing i s with
  | nil => exact ⟨rfl, rfl⟩
  | cons d rest ih =>
      by_cases hvpn : d.vpn = 1
      · rw [openSockets_vpn hvpn]
        exact ih _ (show j < i + 1 by omega)
      · by_cases hopens : ∃ sock, Opens k i d sock
        · obtain ⟨sock, hopens⟩ := hopens
          rw [openSockets_card hvpn hopens, ← (Sockets.set_of_ne s hj.ne sock (cardAddr k d)).1,
            ← (Sockets.set_of_ne s hj.ne sock (cardAddr k d)).2]
          exact ih _ (show j < i + 1 by omega)
        · rw [openSockets_fails hvpn fun sock h => hopens ⟨sock, h⟩]
          exact ⟨rfl, rfl⟩

/-- What the rest of the loop serves, and what the loop did at device `i`. -/
theorem serves_cons {out : Option Int × Sockets} {n : Nat} (h : Serves k (i + 1) rest out n)
    (hcard : d.vpn ≠ 1 → Opens k i d (out.2.socketArray i) ∧ out.2.sendAddr i = cardAddr k d)
    (hvpn : d.vpn = 1 → out.2.socketArray i = 0 ∧ out.2.sendAddr i = zeroAddr) :
    Serves k i (d :: rest) out (n + 1) := by
  have hshift (j : Nat) : i + 1 + j = i + (j + 1) := by omega
  constructor
  · intro j e hj hlt hne
    cases j with
    | zero =>
        rw [List.getElem?_cons_zero, Option.some.injEq] at hj
        subst hj
        exact hcard hne
    | succ j =>
        rw [List.getElem?_cons_succ] at hj
        rw [← hshift]
        exact h.cards j e hj (by omega) hne
  · intro j hj
    cases j with
    | zero =>
        rcases hj with hle | ⟨e, he, hone⟩
        · omega
        · rw [List.getElem?_cons_zero, Option.some.injEq] at he
          subst he
          exact hvpn hone
    | succ j =>
        rw [List.getElem?_cons_succ] at hj
        rw [← hshift]
        refine h.others j ?_
        rcases hj with hle | hone
        · exact .inl (by omega)
        · exact .inr hone
  · rcases h.ends with ⟨hret, hlen⟩ | ⟨hret, e, he, hne, hfails⟩
    · exact .inl ⟨hret, by rw [List.length_cons, hlen]⟩
    · rw [hshift] at hfails
      exact .inr ⟨hret, e, by rwa [List.getElem?_cons_succ], hne, hfails⟩

theorem exists_serves (hclear : ∀ j, i ≤ j → s.socketArray j = 0 ∧ s.sendAddr j = zeroAddr) :
    ∃ n, Serves k i devices (openSockets k i devices s) n := by
  induction devices generalizing i s with
  | nil =>
      refine ⟨0, ?_, ?_, .inl ⟨rfl, rfl⟩⟩
      · intro j d hd
        cases hd
      · intro j _
        exact hclear (i + j) (by omega)
  | cons d rest ih =>
      by_cases hvpn : d.vpn = 1
      · obtain ⟨n, hn⟩ := ih (i := i + 1) (s := s) fun j hj => hclear j (by omega)
        rw [openSockets_vpn hvpn]
        refine ⟨n + 1, serves_cons hn (fun hne => absurd hvpn hne) fun _ => ?_⟩
        obtain ⟨hsocket, haddr⟩ := openSockets_before k rest s (show i < i + 1 by omega)
        rw [hsocket, haddr]
        exact hclear i (le_refl i)
      · by_cases hopens : ∃ sock, Opens k i d sock
        · obtain ⟨sock, hopens⟩ := hopens
          have hrest : ∀ j, i + 1 ≤ j → (s.set i sock (cardAddr k d)).socketArray j = 0 ∧
              (s.set i sock (cardAddr k d)).sendAddr j = zeroAddr := by
            intro j hj
            obtain ⟨hsocket, haddr⟩ :=
              Sockets.set_of_ne s (show j ≠ i by omega) sock (cardAddr k d)
            rw [hsocket, haddr]
            exact hclear j (by omega)
          obtain ⟨n, hn⟩ := ih hrest
          rw [openSockets_card hvpn hopens]
          refine ⟨n + 1, serves_cons hn (fun _ => ?_) fun hone => absurd hone hvpn⟩
          obtain ⟨hsocket, haddr⟩ := openSockets_before k rest
            (s.set i sock (cardAddr k d)) (show i < i + 1 by omega)
          rw [hsocket, haddr, (Sockets.set_self ..).1, (Sockets.set_self ..).2]
          exact ⟨hopens, rfl⟩
        · rw [openSockets_fails hvpn fun sock h => hopens ⟨sock, h⟩]
          refine ⟨0, ?_, ?_, .inr ⟨rfl, d, rfl, hvpn, fun sock h => hopens ⟨sock, h⟩⟩⟩
          · intro j e _ hj
            omega
          · intro j _
            exact hclear (i + j) (by omega)

end OpenSockets

/-- When `main` goes on, the cards before the first one that does not open have a
socket of their own, bound to their interface.  All other devices, the tunnel
among them, are left with descriptor 0. -/
theorem sockets_opened (k : Kernel) (sk : SocketKernel) :
    ∃ n, Serves sk 0 (bootDevices k) (initial k sk).2.2 n :=
  exists_serves fun _ _ => ⟨rfl, rfl⟩

end VpnRouter
