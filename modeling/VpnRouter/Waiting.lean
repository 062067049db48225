import VpnRouter.Arp
import VpnRouter.Conservation
import VpnRouter.NextHop

/-!
# The wait buffer over whole runs

Packets in both directions and ARP replies, in any order.  Packets put frames into
the wait buffer and only a reply takes them out.  But a reply whose lookup finds a
slot never returns, and one that returns has found none: no frame ever leaves the
buffer (`waits_for_ever`), and after ten it refuses all others (`ten_frames_wait`).
-/

namespace VpnRouter.Waiting

open Lib.Memory Lib.Transition ArpWait

/-- The return values of `add_to_arp_wait_buffer`. -/
def offered (log : List Event) : List Int :=
  log.filterMap fun
    | .addToArpWaitBuffer _ _ _ ret => some ret
    | _ => none

/-- A call offers the buffer no frame, or one that the first free slot takes, or one
that finds no free slot. -/
inductive Offers (w : WaitBuf) : List Int → WaitBuf → Prop
  | quiet : Offers w [] w
  | stored {i : Fin 10} {slot : WaitSlot} : freeSlot w = some i → slot.valid = true →
      Offers w [1] (Function.update w i slot)
  | refused : freeSlot w = none → Offers w [-1] w

/-! ## One call -/

section Calls

variable {r : Router} {u : Undef} {buf buff : Mem} {len : Int} {src dst : UInt32} {index : Nat}
  {upVpn : Bool}

theorem offers_sedTransmit :
    Offers r.wait (offered (sedTransmit r u buff len dst index upVpn).2)
      (sedTransmit r u buff len dst index upVpn).1.wait := by
  cases ha : searchArpCache r.arpTable dst with
  | some netcard =>
      obtain ⟨frame, -, hlog⟩ := sedTransmit_cached u buff len index upVpn ha
      rw [hlog, sedTransmit_wait_hit ha]
      exact .quiet
  | none =>
      obtain ⟨frame, -, hlog⟩ := sedTransmit_uncached u buff len index upVpn ha
      rw [hlog, sedTransmit_wait_miss ha]
      cases hfree : freeSlot r.wait with
      | none =>
          rw [addToArpWaitBuffer_full _ _ _ hfree]
          exact .refused hfree
      | some i =>
          rw [addToArpWaitBuffer_free _ _ _ hfree]
          exact .stored hfree rfl

theorem offers_ipSedProcess :
    Offers r.wait (offered (ipSedProcess r u buf len src dst).2)
      (ipSedProcess r u buf len src dst).1.wait := by
  unfold ipSedProcess
  simp only
  split
  · exact .quiet
  · split
    · exact offers_sedTransmit
    · exact offers_sedTransmit

theorem offered_unpackVpn (r : Router) (buf : Mem) (len : UInt32) (log : List Event) :
    offered ((unpackVpn r buf len).log ++ log) = offered log := by
  unfold unpackVpn
  split
  · rfl
  · rfl

theorem offers_ipRecProcess :
    Offers r.wait (offered (ipRecProcess r u buf len).2) (ipRecProcess r u buf len).1.wait := by
  unfold ipRecProcess
  simp only
  split
  · split
    · exact offers_ipSedProcess
    · exact offers_ipSedProcess
  · split
    · split
      · rw [← List.append_nil (unpackVpn _ _ _).log, offered_unpackVpn]
        exact .quiet
      · split
        · rw [offered_unpackVpn]
          exact offers_ipSedProcess
        · rw [offered_unpackVpn]
          exact .quiet
    · exact .quiet

theorem handleArp_returns {fuel : Nat} {stack : Mem} {length : Int} {out : Router × FlushRet}
    (hw : Layered r.wait) (h : handleArp fuel r u buf len stack length = some out) :
    out.1.wait = r.wait ∧ out.2.sent = [] := by
  unfold handleArp at h
  split at h
  · rw [← Option.some.inj h]
    exact ⟨rfl, rfl⟩
  · split at h
    · obtain ⟨f, hf, rfl⟩ := Option.map_eq_some_iff.mp h
      exact (flushLoop_returns hw hf).2
    · rw [← Option.some.inj h]
      exact ⟨rfl, rfl⟩

end Calls

/-! ## Runs -/

/-- The router, what its packets did, and the frames that replies released. -/
structure State where
  router : Router
  log : List Event
  released : List (Nat × List UInt8)

def start (r : Router) : State where
  router := r
  log := []
  released := []

inductive Act
  | receive (u : Undef) (buf : Mem) (len : Int)
  | send (u : Undef) (buf : Mem) (len : Int) (src dst : UInt32)
  | arp (u : Undef) (buf : Mem) (len : Int) (stack : Mem) (length : Int)

def State.after (s : State) (out : Router × List Event) : State :=
  { s with router := out.1, log := s.log ++ out.2 }

/-- A call that returns. -/
inductive Step (s : State) : Act → State → Prop
  | receive (u : Undef) (buf : Mem) (len : Int) :
      Step s (.receive u buf len) (s.after (ipRecProcess s.router u buf len))
  | send (u : Undef) (buf : Mem) (len : Int) (src dst : UInt32) :
      Step s (.send u buf len src dst) (s.after (ipSedProcess s.router u buf len src dst))
  | arp {u : Undef} {buf : Mem} {len : Int} {stack : Mem} {length : Int} {fuel : Nat}
      {out : Router × FlushRet} : handleArp fuel s.router u buf len stack length = some out →
      Step s (.arp u buf len stack length)
        { s with router := out.1, released := s.released ++ out.2.sent }

/-- The first ten offers were stored and are still there, all others were refused,
and no reply released a frame. -/
structure Held (s : State) : Prop where
  layered : Layered s.router.wait
  rets : ∀ k ret, (offered s.log)[k]? = some ret → ret = if k < 10 then 1 else -1
  count : (pending s.router.wait).card = min 10 (offered s.log).length
  silent : s.released = []

section Runs

variable {r : Router} {s t : State} {a : Act} {as bs : List Act}

theorem offered_append (log log' : List Event) :
    offered (log ++ log') = offered log ++ offered log' := List.filterMap_append

theorem held_start (h : AllFree r.wait) : Held (start r) where
  layered := layered_of_allFree h
  rets := fun k ret hret => by cases hret
  count := by
    have hempty : pending r.wait = 0 := by
      rw [pending]
      exact Finset.sum_eq_zero fun i _ => slotBag_free (h i)
    simp [start, hempty, offered]
  silent := rfl

theorem rets_append {rets : List Int} {n : Int} {m : Nat} (hm : rets.length = m)
    (h : ∀ k ret, rets[k]? = some ret → ret = if k < 10 then 1 else -1)
    (hn : n = if m < 10 then 1 else -1) :
    ∀ k ret, (rets ++ [n])[k]? = some ret → ret = if k < 10 then 1 else -1 := by
  intro k ret hret
  rcases Nat.lt_or_ge k rets.length with hlt | hge
  · rw [List.getElem?_append_left hlt] at hret
    exact h k ret hret
  · rw [List.getElem?_append_right hge, List.getElem?_singleton] at hret
    split at hret
    · rw [← Option.some.inj hret, hn, show k = m by omega]
    · cases hret

theorem held_offers {out : Router × List Event} (h : Held s)
    (hout : Offers s.router.wait (offered out.2) out.1.wait) : Held (s.after out) := by
  have hcount := h.count
  have hlog : offered (s.after out).log = offered s.log ++ offered out.2 := offered_append _ _
  generalize hrets : offered out.2 = rets at hout hlog
  generalize hwait : out.1.wait = w at hout
  have hafter : (s.after out).router.wait = w := hwait
  cases hout with
  | quiet =>
      rw [List.append_nil] at hlog
      refine ⟨?_, ?_, ?_, h.silent⟩
      · rw [hafter]
        exact h.layered
      · rw [hlog]
        exact h.rets
      · rw [hafter, hlog]
        exact hcount
  | stored hfree hvalid =>
      have hroom : (pending s.router.wait).card < 10 :=
        card_pending_lt.mpr ⟨_, (freeSlot_eq_some.mp hfree).1⟩
      refine ⟨?_, ?_, ?_, h.silent⟩
      · rw [hafter]
        exact layered_update_firstFree h.layered hfree hvalid
      · rw [hlog]
        exact rets_append rfl h.rets (if_pos (by omega)).symm
      · rw [hafter, hlog, pending_fill (freeSlot_eq_some.mp hfree).1 hvalid, Multiset.card_cons,
          List.length_append, List.length_singleton]
        omega
  | refused hfull =>
      have hnoroom : ¬ (pending s.router.wait).card < 10 := by
        rw [card_pending_lt]
        rintro ⟨i, hi⟩
        rw [freeSlot_eq_none.mp hfull i] at hi
        cases hi
      refine ⟨?_, ?_, ?_, h.silent⟩
      · rw [hafter]
        exact h.layered
      · rw [hlog]
        exact rets_append rfl h.rets (if_neg (by omega)).symm
      · rw [hafter, hlog, List.length_append, List.length_singleton]
        omega

theorem held_step (h : Held s) (hstep : Step s a t) : Held t := by
  cases hstep with
  | receive u buf len => exact held_offers h offers_ipRecProcess
  | send u buf len src dst => exact held_offers h offers_ipSedProcess
  | arp hreturns =>
      obtain ⟨hwait, hsent⟩ := handleArp_returns h.layered hreturns
      refine ⟨?_, h.rets, ?_, ?_⟩
      · simp only [hwait]
        exact h.layered
      · simp only [hwait]
        exact h.count
      · simp only [hsent, h.silent]
        rfl

theorem held_of_run (h₀ : AllFree r.wait) (hrun : Run Step (start r) as s) : Held s :=
  hrun.invariant (fun _ _ _ h hstep => held_step h hstep) (held_start h₀)

/-- Over any run from an empty buffer the first ten frames offered are stored, all
later ones are refused, and the stored ones are all that is waiting in the end. -/
theorem ten_frames_wait (h₀ : AllFree r.wait) (hrun : Run Step (start r) as s) :
    (∀ k ret, (offered s.log)[k]? = some ret → ret = if k < 10 then 1 else -1) ∧
      (pending s.router.wait).card = min 10 (offered s.log).length :=
  ⟨(held_of_run h₀ hrun).rets, (held_of_run h₀ hrun).count⟩

/-- No step touches a slot in use. -/
theorem kept_step (h : Held s) (hstep : Step s a t) {i : Fin 10}
    (hi : (s.router.wait i).valid = true) : t.router.wait i = s.router.wait i := by
  have hoffers {rets : List Int} {w : WaitBuf} (hout : Offers s.router.wait rets w) :
      w i = s.router.wait i := by
    cases hout with
    | quiet => rfl
    | refused _ => rfl
    | @stored j slot hfree _ =>
        have hne : i ≠ j := by
          rintro rfl
          rw [(freeSlot_eq_some.mp hfree).1] at hi
          cases hi
        exact Function.update_of_ne hne _ _
  cases hstep with
  | receive u buf len => exact hoffers offers_ipRecProcess
  | send u buf len src dst => exact hoffers offers_ipSedProcess
  | arp hreturns => exact congrFun (handleArp_returns h.layered hreturns).1 i

/-- A frame that waits in any state of a run waits in the same slot in every later
one, and no reply that returns has released a frame. -/
theorem waits_for_ever (h₀ : AllFree r.wait) (hrun : Run Step (start r) as s)
    (hlater : Run Step s bs t) {i : Fin 10} (hi : (s.router.wait i).valid = true) :
    t.router.wait i = s.router.wait i ∧ t.released = [] := by
  have hkept : Held t ∧ t.router.wait i = s.router.wait i := by
    refine hlater.invariant (I := fun t => Held t ∧ t.router.wait i = s.router.wait i) ?_
      ⟨held_of_run h₀ hrun, rfl⟩
    rintro u a v ⟨hheld, heq⟩ hstep
    have hvalid : (u.router.wait i).valid = true := by
      rw [heq]
      exact hi
    exact ⟨held_step hheld hstep, (kept_step hheld hstep hvalid).trans heq⟩
  exact ⟨hkept.2, hkept.1.silent⟩

end Runs

/-! A packet for 192.168.1.9, which is not in the ARP table, and then a reply from
192.168.1.2. -/

def toNeighbour : Act := .send zeroUndef (fun _ => 0) 60 0 0x0901a8c0

def reply : Act := .arp zeroUndef replyFrame 60 (fun _ => 0) 0

/-- Every packet for the neighbour is offered, as long as the tables stay. -/
theorem neighbours_offered (n : Nat) :
    ∃ s, Run Step (start (twoCards [neighbourRoute])) (List.replicate n toNeighbour) s ∧
      s.router.lookups = (twoCards [neighbourRoute]).lookups ∧ (offered s.log).length = n := by
  induction n with
  | zero => exact ⟨_, .nil _, rfl, rfl⟩
  | succ n ih =>
      obtain ⟨s, hrun, htables, hlen⟩ := ih
      have hsame := htables
      simp only [Router.lookups, Prod.mk.injEq] at hsame
      obtain ⟨hroutes, harp, hdevice, -⟩ := hsame
      have hroute : (reroute s.router.device s.router.routeInfo 0x0901a8c0 0x0901a8c0).1 =
          some 1 := by
        rw [hdevice, hroutes]
        decide
      have hcard : ¬ 0 < (deviceAt s.router zeroUndef (some 1)).vpn := by
        rw [deviceAt, hdevice]
        decide
      have hmiss : searchArpCache s.router.arpTable 0x0901a8c0 = none := by
        rw [harp]
        decide
      obtain ⟨frame, -, hlog⟩ := sedTransmit_uncached (r := s.router) zeroUndef
        (copy s.router.buff 14 (fun _ => 0) 0 (sizeT 60)) 60 1 false hmiss
      have hout : (offered (ipSedProcess s.router zeroUndef (fun _ => 0) 60 0
          0x0901a8c0).2).length = 1 := by
        rw [ipSedProcess_plain hroute hcard, hlog]
        rfl
      refine ⟨s.after (ipSedProcess s.router zeroUndef (fun _ => 0) 60 0 0x0901a8c0), ?_,
        ipSedProcess_lookups.trans htables, ?_⟩
      · rw [List.replicate_succ']
        exact hrun.append (.one (.send zeroUndef (fun _ => 0) 60 0 0x0901a8c0))
      · rw [State.after, offered_append, List.length_append, hlen, hout]

/-- Of eleven packets for the neighbour ten wait. -/
theorem eleventh_refused :
    ∃ s, Run Step (start (twoCards [neighbourRoute])) (List.replicate 11 toNeighbour) s ∧
      offered s.log = List.replicate 10 1 ++ [-1] ∧ (pending s.router.wait).card = 10 := by
  obtain ⟨s, hrun, -, hlen⟩ := neighbours_offered 11
  obtain ⟨hrets, hcount⟩ := ten_frames_wait (fun _ => rfl) hrun
  refine ⟨s, hrun, List.ext_getElem hlen fun k hk _ => ?_, ?_⟩
  · rw [hrets k _ (List.getElem?_eq_getElem hk)]
    simp only [List.getElem_append, List.length_replicate]
    split_ifs with hstored
    · rw [List.getElem_replicate]
    · rw [List.getElem_singleton]
  · rw [hcount, hlen]
    rfl

theorem neighbour_run : ∃ s, Run Step (start (twoCards [neighbourRoute])) [toNeighbour] s ∧
    (s.router.wait 0).valid = true ∧ ∃ t, Run Step s [reply] t :=
  ⟨_, .one (.send _ _ _ _ _), rfl, _, .one (@Step.arp _ _ _ _ _ _ 12 _ rfl)⟩

theorem neighbour_waits :
    ∃ s t, Run Step (start (twoCards [neighbourRoute])) [toNeighbour] s ∧ Run Step s [reply] t ∧
      (s.router.wait 0).valid = true ∧ t.router.wait 0 = s.router.wait 0 ∧ t.released = [] := by
  obtain ⟨s, hrun, hvalid, t, hlater⟩ := neighbour_run
  exact ⟨s, t, hrun, hlater, hvalid, waits_for_ever (fun _ => rfl) hrun hlater hvalid⟩

end VpnRouter.Waiting
