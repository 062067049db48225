import Mathlib.Data.List.Basic

/-!
# Encapsulation

A message behind any number of headers.  `Hdr h q` says that `h` is a header in
front of the message `q`; the headers of one kind have one width.
-/

namespace VpnRouter.Lib.Encapsulation

variable {α : Type*}

/-- `q` is `p` behind `n` headers. -/
inductive Under (Hdr : List α → List α → Prop) : ℕ → List α → List α → Prop
  | bare (p : List α) : Under Hdr 0 p p
  | wrap {n : ℕ} {p q h : List α} : Under Hdr n p q → Hdr h q → Under Hdr (n + 1) p (h ++ q)

namespace Under

variable {Hdr : List α → List α → Prop} {width n : ℕ} {p q : List α}

theorem eq_of_bare (h : Under Hdr 0 p q) : q = p := by
  cases h
  rfl

theorem exists_unwrapped (h : Under Hdr (n + 1) p q) :
    ∃ header inner, q = header ++ inner ∧ Hdr header inner ∧ Under Hdr n p inner := by
  cases h with
  | wrap hinner hheader => exact ⟨_, _, rfl, hheader, hinner⟩

theorem trans {m : ℕ} {r : List α} (hpq : Under Hdr n p q) (hqr : Under Hdr m q r) :
    Under Hdr (n + m) p r := by
  induction hqr with
  | bare q => exact hpq
  | wrap _ hheader ih => exact .wrap (ih hpq) hheader

/-- Without its headers the message is what it was. -/
theorem drop_eq (hwidth : ∀ h q, Hdr h q → h.length = width) (h : Under Hdr n p q) :
    q.drop (n * width) = p := by
  induction h with
  | bare p => rw [Nat.zero_mul, List.drop_zero]
  | wrap _ hheader ih =>
      rw [Nat.succ_mul, Nat.add_comm, ← hwidth _ _ hheader, ← List.drop_drop, List.drop_left]
      rw [hwidth _ _ hheader]
      exact ih

end Under

end VpnRouter.Lib.Encapsulation
