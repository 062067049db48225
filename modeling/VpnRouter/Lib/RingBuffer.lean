import Mathlib.Data.List.Basic
import Mathlib.Data.Nat.ModEq
import Mathlib.Logic.Function.Basic

/-!
# Ring buffers

A ring of `n` slots with a write index `i` and a read index `j` that keeps one
slot free.  `Holds` relates the ring to the two histories a queue has: what was
pushed and what was pulled.  Under it the two index tests of a ring decide
whether the queue is empty or full, and the two operations extend one history
each.  `Newest` is what is left of it for a ring whose tests are not made: each
slot has the last value pushed at a position of that slot.
-/

namespace VpnRouter.Lib.RingBuffer

variable {α : Type*}

/-- The ring holds what was pushed and not pulled yet, in order. -/
structure Holds (n : ℕ) (slots : ℕ → α) (i j : ℕ) (pushed pulled : List α) : Prop where
  write : i = pushed.length % n
  read : j = pulled.length % n
  order : pulled <+: pushed
  room : pushed.length < pulled.length + n
  kept : ∀ k (h : k < pushed.length), pulled.length ≤ k → slots (k % n) = pushed[k]

/-- Two counters less than one turn apart are equal when their slots are. -/
theorem mod_eq_iff {n a b : ℕ} (hle : b ≤ a) (hlt : a < b + n) : a % n = b % n ↔ a = b := by
  constructor
  · intro h
    have hdvd : n ∣ a - b := (Nat.modEq_iff_dvd' hle).mp h.symm
    have hzero := Nat.eq_zero_of_dvd_of_lt hdvd (by omega)
    omega
  · intro h
    rw [h]

theorem holds_nil {n : ℕ} (hn : 0 < n) (slots : ℕ → α) : Holds n slots 0 0 [] [] where
  write := by simp
  read := by simp
  order := List.prefix_refl []
  room := by simpa using hn
  kept := by
    intro k hk
    simp at hk

namespace Holds

variable {n i j : ℕ} {slots : ℕ → α} {pushed pulled : List α}

theorem empty_iff (h : Holds n slots i j pushed pulled) :
    i = j ↔ pushed.length = pulled.length := by
  rw [h.write, h.read]
  exact mod_eq_iff h.order.length_le h.room

theorem full_iff (h : Holds n slots i j pushed pulled) :
    (i + 1) % n = j ↔ pushed.length + 1 = pulled.length + n := by
  have hle := h.order.length_le
  have hroom := h.room
  rw [h.write, h.read, Nat.mod_add_mod]
  by_cases hlast : pushed.length + 1 = pulled.length + n
  · rw [hlast, Nat.add_mod_right]
    exact iff_of_true rfl rfl
  · rw [mod_eq_iff (by omega) (by omega)]
    omega

theorem push (h : Holds n slots i j pushed pulled) (hfull : (i + 1) % n ≠ j) (x : α) :
    Holds n (Function.update slots i x) ((i + 1) % n) j (pushed ++ [x]) pulled := by
  have hle := h.order.length_le
  have hroom := h.room
  have hspace : pushed.length + 1 ≠ pulled.length + n := h.full_iff.not.mp hfull
  constructor
  · rw [h.write, Nat.mod_add_mod, List.length_append, List.length_singleton]
  · exact h.read
  · exact h.order.trans (List.prefix_append pushed [x])
  · rw [List.length_append, List.length_singleton]
    omega
  · intro k hk hpulled
    rw [List.length_append, List.length_singleton] at hk
    by_cases hlast : k = pushed.length
    · subst hlast
      rw [← h.write, Function.update_self, List.getElem_concat_length rfl]
    · have hslot : k % n ≠ i := by
        rw [h.write]
        intro heq
        exact hlast ((mod_eq_iff (by omega) (by omega)).mp heq.symm).symm
      rw [Function.update_of_ne hslot, List.getElem_append_left (by omega)]
      exact h.kept k (by omega) hpulled

theorem pull (h : Holds n slots i j pushed pulled) (hempty : i ≠ j) :
    Holds n slots i ((j + 1) % n) pushed (pulled ++ [slots j]) := by
  have hle := h.order.length_le
  have hroom := h.room
  have hmore : pushed.length ≠ pulled.length := h.empty_iff.not.mp hempty
  have hnext : pulled.length < pushed.length := by omega
  have hslot : slots j = pushed[pulled.length] := by
    rw [h.read]
    exact h.kept _ hnext (le_refl _)
  constructor
  · exact h.write
  · rw [h.read, Nat.mod_add_mod, List.length_append, List.length_singleton]
  · obtain ⟨rest, hrest⟩ := h.order
    cases rest with
    | nil =>
        rw [List.append_nil] at hrest
        rw [hrest] at hnext
        omega
    | cons x rest =>
        refine ⟨rest, ?_⟩
        rw [hslot]
        simp [← hrest]
  · rw [List.length_append, List.length_singleton]
    omega
  · intro k hk hpulled
    rw [List.length_append, List.length_singleton] at hpulled
    exact h.kept k hk (by omega)

/-- What was pushed and not pulled yet lies between the indices. -/
theorem stored (h : Holds n slots i j pushed pulled) :
    ∃ kept, pushed = pulled ++ kept ∧ kept.length = (i + n - j) % n ∧ kept.length < n := by
  obtain ⟨kept, hkept⟩ := h.order
  have hroom := h.room
  rw [← hkept, List.length_append] at hroom
  have hlt : kept.length < n := by omega
  have hread : j < n := h.read ▸ Nat.mod_lt _ (by omega)
  refine ⟨kept, hkept.symm, ?_, hlt⟩
  have hwrite : i = (j + kept.length) % n := by
    rw [h.write, h.read, ← hkept, List.length_append, Nat.mod_add_mod]
  by_cases hwrap : j + kept.length < n
  · have hsplit : i + n - j = kept.length + n := by
      rw [hwrite, Nat.mod_eq_of_lt hwrap]
      omega
    rw [hsplit, Nat.add_mod_right, Nat.mod_eq_of_lt hlt]
  · have hsplit : i + n - j = kept.length := by
      rw [hwrite, Nat.mod_eq_sub_mod (by omega), Nat.mod_eq_of_lt (by omega)]
      omega
    rw [hsplit, Nat.mod_eq_of_lt hlt]

theorem pull_ne (h : Holds n slots i j pushed pulled) (hempty : i ≠ j) :
    (i + 1) % n ≠ (j + 1) % n := by
  have hlen := (h.pull hempty).full_iff
  have hroom := h.room
  rw [List.length_append, List.length_singleton] at hlen
  omega

end Holds

/-! ## The queue of a ring -/

inductive QueueEvent (α : Type*)
  | push (x : α)
  | pull (x : α)

/-- A queue that takes up to `n - 1` values. -/
def Fifo (n : ℕ) (q : List α) : QueueEvent α → List α → Prop
  | .push x, q' => q.length + 1 < n ∧ q' = q ++ [x]
  | .pull x, q' => q = x :: q'

namespace Holds

variable {n i j : ℕ} {slots : ℕ → α} {pushed pulled q : List α}

theorem not_full_iff (h : Holds n slots i j pushed pulled) (hq : pushed = pulled ++ q) :
    (i + 1) % n ≠ j ↔ q.length + 1 < n := by
  have hroom := h.room
  rw [Ne, h.full_iff]
  rw [hq, List.length_append] at hroom ⊢
  omega

/-- A ring that is not empty reads the head of its queue. -/
theorem fifo_pull (h : Holds n slots i j pushed pulled) (hq : pushed = pulled ++ q)
    (hempty : i ≠ j) :
    ∃ rest, Fifo n q (.pull (slots j)) rest ∧ pushed = pulled ++ [slots j] ++ rest := by
  obtain ⟨rest, hrest⟩ := (h.pull hempty).order
  refine ⟨rest, ?_, hrest.symm⟩
  rw [hq, List.append_assoc, List.append_cancel_left_eq] at hrest
  exact hrest.symm

/-- Where the queue has a head, the ring is not empty and reads it. -/
theorem pull_of_fifo (h : Holds n slots i j pushed pulled) (hq : pushed = pulled ++ q) {x : α}
    {rest : List α} (hpull : Fifo n q (.pull x) rest) :
    i ≠ j ∧ x = slots j ∧ pushed = pulled ++ [slots j] ++ rest := by
  have hhead : q = x :: rest := hpull
  have hempty : i ≠ j := by
    rw [Ne, h.empty_iff, hq, hhead, List.length_append, List.length_cons]
    omega
  obtain ⟨rest', hread, hpushed⟩ := h.fifo_pull hq hempty
  obtain ⟨rfl, rfl⟩ := List.cons.inj (hhead.symm.trans hread)
  exact ⟨hempty, rfl, hpushed⟩

end Holds

/-! ## Rings without their tests -/

/-- The value `x` in slot `c` is the newest one of the pushes that went there, or
the first one when none did. -/
def Newest (n : ℕ) (first : ℕ → α) (pushed : List α) (c : ℕ) (x : α) : Prop :=
  (∃ k, ∃ h : k < pushed.length, k % n = c ∧ pushed.length ≤ k + n ∧ x = pushed[k]) ∨
    (pushed.length ≤ c ∧ x = first c)

theorem newest_nil (n : ℕ) (first : ℕ → α) (c : ℕ) : Newest n first [] c (first c) :=
  .inr ⟨Nat.zero_le c, rfl⟩

theorem newest_push {n : ℕ} {first slots : ℕ → α} {pushed : List α}
    (h : ∀ c < n, Newest n first pushed c (slots c)) (x : α) {c : ℕ} (hc : c < n) :
    Newest n first (pushed ++ [x]) c (Function.update slots (pushed.length % n) x c) := by
  have hlen : (pushed ++ [x]).length = pushed.length + 1 := by
    rw [List.length_append, List.length_singleton]
  by_cases hslot : c = pushed.length % n
  · refine .inl ⟨pushed.length, by omega, hslot.symm, by omega, ?_⟩
    rw [hslot, Function.update_self, List.getElem_concat_length rfl]
  · rw [Function.update_of_ne hslot]
    rcases h c hc with ⟨k, hk, hmod, hnew, hx⟩ | ⟨hle, hx⟩
    · refine .inl ⟨k, by omega, hmod, ?_, ?_⟩
      · -- a whole turn later the slot would be the one just written
        by_contra hturn
        have hlast : pushed.length = k + n := by omega
        rw [hlast, Nat.add_mod_right] at hslot
        exact hslot hmod.symm
      · rw [List.getElem_append_left hk]
        exact hx
    · refine .inr ⟨?_, hx⟩
      by_contra hlast
      have hself : pushed.length = c := by omega
      rw [hself, Nat.mod_eq_of_lt hc] at hslot
      exact hslot rfl

end VpnRouter.Lib.RingBuffer
