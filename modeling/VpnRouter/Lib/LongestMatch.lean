import Mathlib.Data.List.Defs
import Mathlib.Tactic.TypeStar

/-!
# First match and longest match

Entries that take points, each with a length, are scanned in list order.  The
scan finds an entry of greatest length for every point exactly when the list
is ordered with the specific entries first (`longest_iff_specificFirst`), and
the order does not matter otherwise (`find?_eq_of_perm`).
-/

namespace VpnRouter.Lib.LongestMatch

variable {α β : Type*} (test : β → α → Bool) (len : α → Nat)

def Longest (xs : List α) (b : β) (r : α) : Prop :=
  r ∈ xs ∧ test b r = true ∧ ∀ s ∈ xs, test b s = true → len s ≤ len r

/-- Of two entries with a common point the longer one lies inside the other. -/
def Nested (xs : List α) : Prop :=
  ∀ r ∈ xs, ∀ s ∈ xs, ∀ b, test b r = true → test b s = true → len r ≤ len s →
    ∀ c, test c s = true → test c r = true

/-- No two entries of the same length have a common point. -/
def Separated (xs : List α) : Prop :=
  ∀ r ∈ xs, ∀ s ∈ xs, ∀ b, test b r = true → test b s = true → len r = len s → r = s

/-- Where an entry stands before a longer one that lies inside it, still earlier
entries take all points of the longer one. -/
def SpecificFirst (xs : List α) : Prop :=
  ∀ l r rest, xs = l ++ r :: rest → ∀ s ∈ rest, len r < len s →
    (∀ b, test b s = true → test b r = true) →
      ∀ b, test b s = true → ∃ q ∈ l, test b q = true

variable {test len} {xs ys : List α}

theorem exists_split {b : β} {r : α} (h : xs.find? (test b) = some r) :
    test b r = true ∧ ∃ l rest, xs = l ++ r :: rest ∧ ∀ q ∈ l, ¬ test b q = true := by
  obtain ⟨hr, l, rest, heq, hbefore⟩ := List.find?_eq_some_iff_append.mp h
  refine ⟨hr, l, rest, heq, ?_⟩
  intro q hq
  simpa using hbefore q hq

theorem exists_find?_of_mem {b : β} {s : α} (hs : s ∈ xs) (htest : test b s = true) :
    ∃ r, xs.find? (test b) = some r := by
  cases h : xs.find? (test b) with
  | none => exact absurd htest (List.find?_eq_none.mp h s hs)
  | some r => exact ⟨r, rfl⟩

theorem longest_of_specificFirst (hnest : Nested test len xs) (h : SpecificFirst test len xs)
    {b : β} {r : α} (hfind : xs.find? (test b) = some r) : Longest test len xs b r := by
  obtain ⟨hr, l, rest, heq, hbefore⟩ := exists_split hfind
  have hmem : r ∈ xs := List.mem_of_find?_eq_some hfind
  refine ⟨hmem, hr, ?_⟩
  intro s hs hsb
  refine Nat.le_of_not_lt fun hlt => ?_
  have hrest : s ∈ rest := by
    rw [heq] at hs
    rcases List.mem_append.mp hs with hl | hcons
    · exact absurd hsb (hbefore s hl)
    · rcases List.mem_cons.mp hcons with hsr | hrest
      · exact absurd (hsr ▸ hlt) (Nat.lt_irrefl _)
      · exact hrest
  have hinside := hnest r hmem s hs b hr hsb (Nat.le_of_lt hlt)
  obtain ⟨q, hq, hqb⟩ := h l r rest heq s hrest hlt hinside b hsb
  exact hbefore q hq hqb

theorem specificFirst_of_longest
    (h : ∀ b r, xs.find? (test b) = some r → Longest test len xs b r) :
    SpecificFirst test len xs := by
  intro l r rest heq s hs hlt hinside b hsb
  refine Classical.byContradiction fun hnone => ?_
  have hfind : xs.find? (test b) = some r := by
    rw [heq]
    refine List.find?_eq_some_iff_append.mpr ⟨hinside b hsb, l, rest, rfl, ?_⟩
    intro q hq
    simpa using fun hqb => hnone ⟨q, hq, hqb⟩
  have hmem : s ∈ xs := by
    rw [heq]
    exact List.mem_append_right l (List.mem_cons_of_mem r hs)
  exact Nat.not_le_of_lt hlt ((h b r hfind).2.2 s hmem hsb)

theorem longest_iff_specificFirst (hnest : Nested test len xs) :
    (∀ b r, xs.find? (test b) = some r → Longest test len xs b r) ↔
      SpecificFirst test len xs :=
  ⟨specificFirst_of_longest, fun h _ _ hfind => longest_of_specificFirst hnest h hfind⟩

theorem Longest.unique (hsep : Separated test len xs) {b : β} {r s : α}
    (hr : Longest test len xs b r) (hs : Longest test len xs b s) : r = s :=
  hsep r hr.1 s hs.1 b hr.2.1 hs.2.1
    (Nat.le_antisymm (hs.2.2 r hr.1 hr.2.1) (hr.2.2 s hs.1 hs.2.1))

theorem Longest.perm (hperm : xs.Perm ys) {b : β} {r : α} (h : Longest test len xs b r) :
    Longest test len ys b r :=
  ⟨hperm.mem_iff.mp h.1, h.2.1, fun s hs => h.2.2 s (hperm.mem_iff.mpr hs)⟩

theorem Nested.perm (hperm : xs.Perm ys) (h : Nested test len xs) : Nested test len ys :=
  fun r hr s hs => h r (hperm.mem_iff.mpr hr) s (hperm.mem_iff.mpr hs)

/-- Two orders that both put the specific entries first give the same scan. -/
theorem find?_eq_of_perm (hperm : xs.Perm ys) (hnest : Nested test len xs)
    (hsep : Separated test len xs) (hxs : SpecificFirst test len xs)
    (hys : SpecificFirst test len ys) (b : β) :
    xs.find? (test b) = ys.find? (test b) := by
  cases hx : xs.find? (test b) with
  | none =>
      refine (List.find?_eq_none.mpr ?_).symm
      intro s hs
      exact List.find?_eq_none.mp hx s (hperm.mem_iff.mpr hs)
  | some r =>
      have hr := longest_of_specificFirst hnest hxs hx
      obtain ⟨s, hs⟩ := exists_find?_of_mem (hperm.mem_iff.mp hr.1) hr.2.1
      have hlongest := longest_of_specificFirst (hnest.perm hperm) hys hs
      rw [hs, hr.unique hsep (hlongest.perm hperm.symm)]

end VpnRouter.Lib.LongestMatch
