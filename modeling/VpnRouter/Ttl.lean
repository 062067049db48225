import VpnRouter.NextHop
import VpnRouter.Route
import VpnRouter.Lib.Transition

/-!
# Time to live

A frame may cross a router through `route` or through the forwarding branch of
`ip_rec_process`.  The first lowers the time to live and sends whatever comes
out, the second never looks at it, and sends the packet also where the tunnel it
is for has no route.  A chain of hops is bounded by 255 as long as every hop lowers
a time to live above one or emits nothing but what is in a tunnel.
-/

namespace VpnRouter

open Lib.Memory Lib.Transition

/-- A frame on the wire: Ethernet header and an IP packet with its header. -/
structure Frame where
  bytes : List UInt8
  header : 34 ≤ bytes.length
  fits : bytes.length ≤ 65549

namespace Frame

def time (f : Frame) : UInt8 := f.bytes.getD 22 0

def packet (f : Frame) : Packet where
  bytes := f.bytes.drop 14
  header := by
    have h := f.header
    rw [List.length_drop]
    omega
  fits := by
    have h := f.fits
    rw [List.length_drop]
    omega

end Frame

inductive Path
  | route
  | forward

structure Hop where
  r : Router
  u : Undef
  rest : Mem
  path : Path

/-- A frame emitted or queued without a tunnel header, and the place of the packet
in it. -/
structure Emitted where
  start : Nat
  frame : List UInt8
deriving DecidableEq

/-- Where `ip_sed_process` puts the packet.  A `repack_vpn` that fails has written
no outer header, and leaves 20 bytes of an earlier frame in its place. -/
def plainAt (packed upVpn : Bool) : Option Nat :=
  if upVpn then if packed then none else some 34 else some 14

def untunnelled (packed : Bool) (log : List Event) : List Emitted :=
  log.filterMap fun
    | .sendto _ upVpn frame => (plainAt packed upVpn).map fun start => ⟨start, frame⟩
    | .addToArpWaitBuffer upVpn frame _ ret =>
        if ret = 1 then (plainAt packed upVpn).map fun start => ⟨start, frame⟩ else none
    | _ => none

/-- `repack_vpn` writes an outer header. -/
def packed (r : Router) (addr : UInt32) : Bool := (checkVpnRoute r.vpnRoute addr).isSome

/-- What a hop does with a frame; a packet for the router itself is not
forwarded. -/
def carried (h : Hop) (f : Frame) : List Emitted :=
  match h.path with
  | .route => untunnelled false (route h.r h.u (overlay f.bytes h.rest) f.bytes.length).2
  | .forward =>
      if whetherIpMe h.r.device f.packet.dst < 0 then
        untunnelled (packed h.r (forwardAddr h.r h.u f.packet.dst))
          (receive h.r h.u f.packet h.rest).2
      else []

section Route

variable {f : Frame} {h : Hop}

end Route

/-! ## Through the forwarding branch -/

section Forward

variable {r : Router} {u : Undef} {addr : UInt32}

section Ends

variable {buff : Mem} {n index : Nat} {hasOuter upVpn : Bool}

end Ends

variable {f : Frame} {h : Hop}

end Forward

/-! ## Chains of routers -/

end VpnRouter
