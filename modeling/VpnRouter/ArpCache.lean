import VpnRouter.Arp

/-!
# The ARP cache under replies

`add_arp_item` appends every reply and `search_arp_cache` takes the first entry
for an address, so what the cache answers is the oldest MAC address it was told
and not the latest.  A reply from a sender that a slot of the wait buffer records is
never done with (`cache_latest_iff`).
-/

namespace VpnRouter

open Lib.Memory Lib.Transition ArpWait

/-- A reply that `handle_arp` gets, and what it finds in its local variables. -/
structure ArpReply where
  buf : Mem
  len : Int
  stack : Mem
  length : Int
  isReply : htons (ArpMsg.op buf 14) = ARP_REPLY

def ArpReply.addr (f : ArpReply) : UInt32 := ArpMsg.srcIp f.buf 14

def ArpReply.mac (f : ArpReply) : Mac := ArpMsg.srcMac f.buf 14

/-- `handle_arp` returns, and leaves the router `r'`. -/
def ReplyStep (u : Undef) (r : Router) (f : ArpReply) (r' : Router) : Prop :=
  ∃ fuel out, handleArp fuel r u f.buf f.len f.stack f.length = some (r', out)

def cachedMac (table : List ArpTableItem) (addr : UInt32) : Option Mac :=
  (searchArpCache table addr).bind fun a => (table[a]?).map (·.macAddr)

def firstReply (replies : List ArpReply) (addr : UInt32) : Option ArpReply :=
  replies.find? fun f => f.addr == addr

def lastReply (replies : List ArpReply) (addr : UInt32) : Option ArpReply :=
  replies.reverse.find? fun f => f.addr == addr

/-- The law on a lookup after the replies, for one address. -/
def ReflectsLatest (before after : List ArpTableItem) (replies : List ArpReply)
    (addr : UInt32) : Prop :=
  match lastReply replies addr with
  | some f => ∃ a, searchArpCache after addr = some a ∧ (after[a]?).map (·.macAddr) = some f.mac
  | none => searchArpCache after addr = searchArpCache before addr

/-- The MAC address known first: that of the cache, or else of the first reply. -/
def oldestMac (before : List ArpTableItem) (replies : List ArpReply) (addr : UInt32) :
    Option Mac :=
  (cachedMac before addr).or ((firstReply replies addr).map ArpReply.mac)

/-! ## What a reply does to the table -/

theorem handleArp_reply {fuel : Nat} {r : Router} {u : Undef} (f : ArpReply) :
    handleArp fuel r u f.buf f.len f.stack f.length =
      (flushLoop { r with arpTable := addArpItem r.arpTable f.addr f.mac } u f.addr f.mac f.len fuel
        r.wait f.stack f.length).map fun g =>
          ({ r with arpTable := addArpItem r.arpTable f.addr f.mac, wait := g.wait }, g) := by
  have hrequest : ¬ htons (ArpMsg.op f.buf 14) = ARP_REQUEST := by
    rw [f.isReply]
    decide
  rw [handleArp, if_neg hrequest, if_pos f.isReply]
  rfl

theorem arpTable_of_replyStep {u : Undef} {r r' : Router} {f : ArpReply}
    (h : ReplyStep u r f r') : r'.arpTable = addArpItem r.arpTable f.addr f.mac := by
  obtain ⟨fuel, out, hout⟩ := h
  rw [handleArp_reply] at hout
  obtain ⟨g, -, hg⟩ := Option.map_eq_some_iff.mp hout
  rw [← (Prod.mk.inj hg).1]

theorem arpTable_of_run {u : Undef} {r r' : Router} {replies : List ArpReply}
    (h : Run (ReplyStep u) r replies r') :
    r'.arpTable = r.arpTable ++ replies.map fun f => { ipAddr := f.addr, macAddr := f.mac } := by
  induction h with
  | nil r => rw [List.map_nil, List.append_nil]
  | cons hstep _ ih =>
      rw [ih, arpTable_of_replyStep hstep, addArpItem, List.append_assoc, List.map_cons]
      rfl

/-- In a buffer that the program can have produced, a reply is done with exactly when
no slot records its sender, and then it only adds its entry. -/
theorem replyStep_iff {u : Undef} {r r' : Router} {f : ArpReply} (hw : Layered r.wait) :
    ReplyStep u r f r' ↔ firstRecord r.wait f.addr = none ∧
      r' = { r with arpTable := addArpItem r.arpTable f.addr f.mac } := by
  constructor
  · rintro ⟨fuel, out, hout⟩
    rw [handleArp_reply] at hout
    obtain ⟨g, hg, hr⟩ := Option.map_eq_some_iff.mp hout
    obtain ⟨hslot, hwait, -⟩ := flushLoop_returns hw hg
    refine ⟨hslot, ?_⟩
    rw [← (Prod.mk.inj hr).1, hwait]
  · rintro ⟨hslot, rfl⟩
    refine ⟨12, { rounds := 0, wait := r.wait, sent := [] }, ?_⟩
    rw [handleArp_reply, flushLoop_of_no_record hw hslot]
    rfl

theorem replies_run_iff {u : Undef} {r : Router} (hw : Layered r.wait)
    (replies : List ArpReply) :
    (∃ r', Run (ReplyStep u) r replies r') ↔
      ∀ f ∈ replies, firstRecord r.wait f.addr = none := by
  induction replies generalizing r with
  | nil => exact iff_of_true ⟨r, .nil r⟩ (List.forall_mem_nil _)
  | cons f replies ih =>
      -- the wait buffer is as before after the first reply
      have hlater := ih (r := { r with arpTable := addArpItem r.arpTable f.addr f.mac }) hw
      rw [List.forall_mem_cons]
      constructor
      · rintro ⟨r', hrun⟩
        cases hrun with
        | cons hstep hrest =>
            obtain ⟨hslot, rfl⟩ := (replyStep_iff hw).mp hstep
            exact ⟨hslot, hlater.mp ⟨r', hrest⟩⟩
      · rintro ⟨hslot, hrest⟩
        obtain ⟨r', hrun⟩ := hlater.mpr hrest
        exact ⟨r', .cons ((replyStep_iff hw).mpr ⟨hslot, rfl⟩) hrun⟩

/-! ## What a lookup answers -/

theorem cachedMac_eq (table : List ArpTableItem) (addr : UInt32) :
    cachedMac table addr = (table.find? fun e => e.ipAddr == addr).map (·.macAddr) := by
  rw [List.find?_eq_bind_findIdx?_getElem?, Option.map_bind]
  rfl

theorem cachedMac_append (table : List ArpTableItem) (replies : List ArpReply) (addr : UInt32) :
    cachedMac (table ++ replies.map fun f => { ipAddr := f.addr, macAddr := f.mac }) addr =
      oldestMac table replies addr := by
  rw [oldestMac, cachedMac_eq, cachedMac_eq, List.find?_append, List.find?_map, Option.map_or,
    Option.map_map]
  rfl

theorem searchArpCache_append {table : List ArpTableItem} {replies : List ArpReply}
    {addr : UInt32} (h : lastReply replies addr = none) :
    searchArpCache (table ++ replies.map fun f => { ipAddr := f.addr, macAddr := f.mac }) addr =
      searchArpCache table addr := by
  have hnone : (replies.map fun f => (⟨f.addr, f.mac⟩ : ArpTableItem)).findIdx?
      (fun e => e.ipAddr == addr) = none := by
    rw [List.findIdx?_eq_none_iff]
    intro e he
    obtain ⟨f, hf, rfl⟩ := List.mem_map.mp he
    simpa using List.find?_eq_none.mp h f (List.mem_reverse.mpr hf)
  rw [searchArpCache, List.findIdx?_append, hnone]
  exact Option.or_none

theorem reflectsLatest_iff (table : List ArpTableItem) (replies : List ArpReply) (addr : UInt32) :
    ReflectsLatest table
        (table ++ replies.map fun f => { ipAddr := f.addr, macAddr := f.mac }) replies addr ↔
      ∀ f, lastReply replies addr = some f → oldestMac table replies addr = some f.mac := by
  rw [ReflectsLatest]
  cases hlast : lastReply replies addr with
  | none => exact iff_of_true (searchArpCache_append hlast) fun f hf => absurd hf (by simp)
  | some f =>
      simp only [Option.some.injEq, forall_eq']
      rw [← cachedMac_append, cachedMac, Option.bind_eq_some_iff]

/-- The replies are all done with, and a lookup then reflects the last one for an
address, exactly when no slot of the wait buffer records a sender and that last reply
says what the cache was told first. -/
theorem cache_latest_iff {r : Router} {w₀ : WaitBuf} (h₀ : AllFree w₀)
    (hreach : Reachable CallStep w₀ r.wait) (u : Undef) (replies : List ArpReply)
    (addr : UInt32) :
    (∃ r', Run (ReplyStep u) r replies r' ∧
        ReflectsLatest r.arpTable r'.arpTable replies addr) ↔
      (∀ f ∈ replies, ∀ j, ¬ Records r.wait f.addr j) ∧
        ∀ f, lastReply replies addr = some f →
          oldestMac r.arpTable replies addr = some f.mac := by
  have hw : Layered r.wait := layered_of_reachable h₀ hreach
  have hrecords (f : ArpReply) :
      firstRecord r.wait f.addr = none ↔ ∀ j, ¬ Records r.wait f.addr j := firstRecord_eq_none
  simp only [← hrecords]
  rw [← replies_run_iff (u := u) hw, ← reflectsLatest_iff]
  constructor
  · rintro ⟨r', hrun, hlaw⟩
    rw [arpTable_of_run hrun] at hlaw
    exact ⟨⟨r', hrun⟩, hlaw⟩
  · rintro ⟨⟨r', hrun⟩, hlaw⟩
    refine ⟨r', hrun, ?_⟩
    rw [arpTable_of_run hrun]
    exact hlaw

/-! Two replies from 192.168.1.2 with different MAC addresses. -/

def earlyReply : ArpReply where
  buf := put8 replyFrame 22 1
  len := 60
  stack := fun _ => 0
  length := 0
  isReply := by decide

def lateReply : ArpReply where
  buf := put8 replyFrame 22 2
  len := 60
  stack := fun _ => 0
  length := 0
  isReply := by decide

/-- Two frames wait for 192.168.1.9, and 192.168.1.2 is known by the MAC address of
its early reply. -/
def neighbourKnown : Router :=
  let w := (addToArpWaitBuffer startBuf (fun _ => 7) 60 0x0901a8c0).2
  { bareRouter with
    arpTable := [⟨0x0101a8c0, macOf 0 12 41 66 175 55⟩, ⟨0x0201a8c0, earlyReply.mac⟩]
    wait := (addToArpWaitBuffer w (fun _ => 9) 60 0x0901a8c0).2 }

/-- The neighbour says something else in between. -/
theorem known_mac_again :
    ∃ r', Run (ReplyStep zeroUndef) neighbourKnown [earlyReply, lateReply, earlyReply] r' ∧
      ReflectsLatest neighbourKnown.arpTable r'.arpTable [earlyReply, lateReply, earlyReply]
        0x0201a8c0 := by
  have hreach : Reachable CallStep startBuf neighbourKnown.wait :=
    ⟨[.add (fun _ => 7) 60 0x0901a8c0, .add (fun _ => 9) 60 0x0901a8c0],
      .cons rfl (.cons rfl (.nil _))⟩
  exact (cache_latest_iff (fun _ => rfl) hreach zeroUndef _ _).mpr (by decide)

theorem late_reply_lost :
    ¬ ∀ (u : Undef) (r r' : Router) (replies : List ArpReply) (addr : UInt32),
      r.arpTable.length + replies.length ≤ MAX_ARP_SIZE → Run (ReplyStep u) r replies r' →
        ReflectsLatest r.arpTable r'.arpTable replies addr := by
  intro h
  have hw : Layered bareRouter.wait := layered_of_allFree fun _ => rfl
  obtain ⟨r', hrun⟩ :=
    (replies_run_iff (u := zeroUndef) hw [earlyReply, lateReply]).mpr (by decide)
  have hlaw := h zeroUndef bareRouter r' [earlyReply, lateReply] 0x0201a8c0 (by decide) hrun
  rw [arpTable_of_run hrun, reflectsLatest_iff] at hlaw
  have hmac : oldestMac [] [earlyReply, lateReply] 0x0201a8c0 = some lateReply.mac :=
    hlaw lateReply rfl
  revert hmac
  decide

end VpnRouter
