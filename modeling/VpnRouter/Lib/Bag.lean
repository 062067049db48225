import VpnRouter.Lib.Transition
import Mathlib.Algebra.Order.Group.Multiset

/-!
# A bounded bag with retrieval by key

The abstract container behind a fixed set of slots: `put` adds a value while
there is room, `take` removes some value with the wanted key, and neither
changes anything when it fails.  Over a run nothing is lost and nothing is
handed out twice (`Step.run_balance`).
-/

namespace VpnRouter.Lib.Bag

open Transition

variable {β κ : Type*}

/-- A call on the bag together with what the caller sees of it. -/
inductive Event (β κ : Type*)
  | put (x : β) (stored : Bool)
  | take (k : κ) (found : Option β)

/-- The bag's behaviour with room for `cap` values. -/
inductive Step [DecidableEq β] (key : β → κ) (cap : Nat) :
    Multiset β → Event β κ → Multiset β → Prop
  | put {m : Multiset β} {x : β} (room : m.card < cap) :
      Step key cap m (.put x true) (x ::ₘ m)
  | full {m : Multiset β} {x : β} (room : cap ≤ m.card) :
      Step key cap m (.put x false) m
  | take {m : Multiset β} {x : β} (mem : x ∈ m) :
      Step key cap m (.take (key x) (some x)) (m.erase x)
  | miss {m : Multiset β} {k : κ} (none_left : ∀ x ∈ m, key x ≠ k) :
      Step key cap m (.take k none) m

def Event.stored : Event β κ → Multiset β
  | .put x true => {x}
  | _ => 0

def Event.found : Event β κ → Multiset β
  | .take _ (some x) => {x}
  | _ => 0

variable [DecidableEq β] {key : β → κ} {cap : Nat}

theorem Step.balance {m m' : Multiset β} {e : Event β κ} (h : Step key cap m e m') :
    m + e.stored = e.found + m' := by
  cases h with
  | @put x room =>
      simp only [Event.stored, Event.found, zero_add]
      rw [add_comm, Multiset.singleton_add]
  | full room => simp [Event.stored, Event.found]
  | take mem => simp [Event.stored, Event.found, Multiset.singleton_add, Multiset.cons_erase mem]
  | miss none_left => simp [Event.stored, Event.found]

/-- What was in the bag or was added is in the bag or was handed out, each
value as often as before. -/
theorem Step.run_balance {m m' : Multiset β} {es : List (Event β κ)}
    (h : Run (Step key cap) m es m') :
    m + (es.map Event.stored).sum = (es.map Event.found).sum + m' := by
  induction h with
  | nil m => simp
  | @cons m t u e es hstep _ ih =>
      have hone := hstep.balance
      calc m + ((e :: es).map Event.stored).sum
          = m + e.stored + (es.map Event.stored).sum := by simp [add_assoc]
        _ = e.found + (t + (es.map Event.stored).sum) := by rw [hone, add_assoc]
        _ = ((e :: es).map Event.found).sum + u := by rw [ih]; simp [add_assoc]

theorem Step.card_of_found {m m' : Multiset β} {k : κ} {x : β}
    (h : Step key cap m (.take k (some x)) m') : m'.card + 1 = m.card := by
  cases h with
  | take mem => exact Multiset.card_erase_add_one mem

end VpnRouter.Lib.Bag
