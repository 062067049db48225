import Mathlib.Algebra.Group.Nat.Defs
import Mathlib.Data.List.GetD
import Mathlib.Data.Nat.Basic
import Mathlib.Data.Set.Operations
import Mathlib.Order.Interval.Set.Defs

/-!
# Byte memory of a little-endian machine

A memory maps addresses to bytes.  `load` reads a block, `store` writes one,
`copy` and `fill` are the block operations of C's string library, and the
16 and 32 bit accessors read and write words in the machine's own byte order.
`swap16` and `swap32` change that order to the network's, in which `be16` and
`be32` read.
-/

namespace VpnRouter.Lib.Memory

abbrev Mem := Nat → UInt8

def load (m : Mem) (a n : Nat) : List UInt8 :=
  (List.range n).map fun i => m (a + i)

def store (m : Mem) (a : Nat) (bs : List UInt8) : Mem := fun x =>
  if a ≤ x ∧ x < a + bs.length then bs.getD (x - a) 0 else m x

/-- Copy `n` bytes of `src` at `s` to `d`; all reads come before the writes. -/
def copy (m : Mem) (d : Nat) (src : Mem) (s n : Nat) : Mem := fun x =>
  if d ≤ x ∧ x < d + n then src (s + (x - d)) else m x

def fill (m : Mem) (a : Nat) (v : UInt8) (n : Nat) : Mem := fun x =>
  if a ≤ x ∧ x < a + n then v else m x

/-- The memory seen from address `a` on. -/
def shift (m : Mem) (a : Nat) : Mem := fun x => m (a + x)

/-- A memory that starts with `bs` and goes on as `rest`. -/
def overlay (bs : List UInt8) (rest : Mem) : Mem := store rest 0 bs

def bytes16 (v : UInt16) : List UInt8 :=
  [UInt8.ofNat v.toNat, UInt8.ofNat (v.toNat / 256)]

def bytes32 (v : UInt32) : List UInt8 :=
  [UInt8.ofNat v.toNat, UInt8.ofNat (v.toNat / 256),
    UInt8.ofNat (v.toNat / 65536), UInt8.ofNat (v.toNat / 16777216)]

def get16 (m : Mem) (a : Nat) : UInt16 :=
  UInt16.ofNat ((m a).toNat + 256 * (m (a + 1)).toNat)

def get32 (m : Mem) (a : Nat) : UInt32 :=
  UInt32.ofNat ((m a).toNat + 256 * (m (a + 1)).toNat
    + 65536 * (m (a + 2)).toNat + 16777216 * (m (a + 3)).toNat)

def put8 (m : Mem) (a : Nat) (v : UInt8) : Mem := store m a [v]

def put16 (m : Mem) (a : Nat) (v : UInt16) : Mem := store m a (bytes16 v)

def put32 (m : Mem) (a : Nat) (v : UInt32) : Mem := store m a (bytes32 v)

def putLow4 (m : Mem) (a v : Nat) : Mem :=
  put8 m a (UInt8.ofNat ((m a).toNat / 16 * 16 + v % 16))

def putHigh4 (m : Mem) (a v : Nat) : Mem :=
  put8 m a (UInt8.ofNat ((m a).toNat % 16 + v % 16 * 16))

def setBit (m : Mem) (a k : Nat) : Mem := put8 m a (m a ||| UInt8.ofNat (2 ^ k))

def swap16 (v : UInt16) : UInt16 :=
  UInt16.ofNat (v.toNat % 256 * 256 + v.toNat / 256)

def swap32 (v : UInt32) : UInt32 :=
  UInt32.ofNat (v.toNat % 256 * 16777216 + v.toNat / 256 % 256 * 65536
    + v.toNat / 65536 % 256 * 256 + v.toNat / 16777216)

def be16 (m : Mem) (a : Nat) : Nat := 256 * (m a).toNat + (m (a + 1)).toNat

def be32 (m : Mem) (a : Nat) : Nat :=
  16777216 * (m a).toNat + 65536 * (m (a + 1)).toNat
    + 256 * (m (a + 2)).toNat + (m (a + 3)).toNat

/-! ## Blocks -/

@[simp] theorem length_load (m : Mem) (a n : Nat) : (load m a n).length = n := by
  simp [load]

@[simp] theorem getElem_load (m : Mem) (a n i : Nat) (h : i < (load m a n).length) :
    (load m a n)[i] = m (a + i) := by
  simp [load]

theorem getD_load {m : Mem} {a n i : Nat} (h : i < n) :
    (load m a n).getD i 0 = m (a + i) := by
  rw [List.getD_eq_getElem _ _ (by simpa using h), getElem_load]

theorem load_congr {m m' : Mem} {a a' n : Nat}
    (h : ∀ i, i < n → m (a + i) = m' (a' + i)) : load m a n = load m' a' n := by
  apply List.ext_getElem
  · simp
  · intro i hi _
    simpa using h i (by simpa using hi)

theorem load_add (m : Mem) (a n k : Nat) :
    load m a (n + k) = load m a n ++ load m (a + n) k := by
  apply List.ext_getElem
  · simp
  · intro i hi _
    rw [List.getElem_append]
    split
    · simp
    · rename_i hlt
      simp only [length_load] at hlt
      rw [getElem_load, getElem_load]
      congr 1
      simp only [length_load]
      omega

theorem drop_load (m : Mem) (a n k : Nat) :
    (load m a n).drop k = load m (a + k) (n - k) := by
  apply List.ext_getElem
  · simp
  · intro i _ _
    simp [Nat.add_assoc]

theorem take_load (m : Mem) (a : Nat) {n k : Nat} (hk : k ≤ n) :
    (load m a n).take k = load m a k := by
  apply List.ext_getElem
  · rw [List.length_take, length_load, length_load, Nat.min_eq_left hk]
  · intro i _ _
    simp

theorem load_shift (m : Mem) (b a n : Nat) : load (shift m b) a n = load m (b + a) n := by
  apply load_congr
  intro i _
  simp [shift, Nat.add_assoc]

theorem load_eq_iff {m : Mem} {a : Nat} {bs : List UInt8} :
    load m a bs.length = bs ↔ ∀ i, i < bs.length → m (a + i) = bs.getD i 0 := by
  constructor
  · intro h i hi
    rw [← getD_load (m := m) (a := a) hi, h]
  · intro h
    apply List.ext_getElem
    · simp
    · intro i hi hi'
      rw [getElem_load, h i hi', List.getD_eq_getElem _ _ hi']

/-! ## What a write changes -/

theorem store_inside {m : Mem} {a x : Nat} {bs : List UInt8}
    (h : a ≤ x ∧ x < a + bs.length) : store m a bs x = bs.getD (x - a) 0 := by
  rw [store, if_pos h]

theorem store_outside {m : Mem} {a x : Nat} {bs : List UInt8}
    (h : x < a ∨ a + bs.length ≤ x) : store m a bs x = m x := by
  rw [store, if_neg (by omega)]

/-- What a block was before it is written does not matter. -/
theorem store_congr {m m' : Mem} {a x : Nat} {bs : List UInt8}
    (h : x < a ∨ a + bs.length ≤ x → m x = m' x) : store m a bs x = store m' a bs x := by
  unfold store
  split
  · rfl
  · exact h (by omega)

/-- Blocks written one after the other, each at its address. -/
def storeAll (m : Mem) (ws : List (Nat × List UInt8)) : Mem :=
  ws.foldl (fun m w => store m w.1 w.2) m

theorem storeAll_cons (m : Mem) (w : Nat × List UInt8) (ws : List (Nat × List UInt8)) :
    storeAll m (w :: ws) = storeAll (store m w.1 w.2) ws := rfl

def Covers (ws : List (Nat × List UInt8)) (x : Nat) : Prop :=
  ∃ w ∈ ws, w.1 ≤ x ∧ x < w.1 + w.2.length

theorem storeAll_uncovered {m : Mem} {ws : List (Nat × List UInt8)} {x : Nat}
    (h : ¬ Covers ws x) : storeAll m ws x = m x := by
  induction ws generalizing m with
  | nil => rfl
  | cons w ws ih =>
      have hw : ¬ (w.1 ≤ x ∧ x < w.1 + w.2.length) := fun hx => h ⟨w, List.mem_cons_self, hx⟩
      have hws : ¬ Covers ws x := fun ⟨v, hv, hx⟩ => h ⟨v, List.mem_cons_of_mem w hv, hx⟩
      rw [storeAll_cons, ih hws, store_outside (by omega)]

/-- What stood where a block is written does not matter, whatever is written later. -/
theorem storeAll_covered {m m' : Mem} {ws : List (Nat × List UInt8)} {x : Nat}
    (h : m x = m' x ∨ Covers ws x) : storeAll m ws x = storeAll m' ws x := by
  induction ws generalizing m m' with
  | nil =>
      rcases h with heq | ⟨w, hw, -⟩
      · exact heq
      · cases hw
  | cons w ws ih =>
      rw [storeAll_cons, storeAll_cons]
      apply ih
      rcases h with heq | ⟨v, hv, hx⟩
      · exact .inl (store_congr fun _ => heq)
      · rcases List.mem_cons.mp hv with rfl | hmem
        · exact .inl (store_congr fun _ => by omega)
        · exact .inr ⟨v, hmem, hx⟩

theorem fill_eq_store (m : Mem) (a : Nat) (v : UInt8) (n : Nat) :
    fill m a v n = store m a (List.replicate n v) := by
  ext x : 1
  unfold fill store
  rw [List.length_replicate]
  split
  · rw [List.getD_eq_getElem _ _ (by rw [List.length_replicate]; omega), List.getElem_replicate]
  · rfl

theorem store_comm {m : Mem} {a b : Nat} {bs cs : List UInt8}
    (h : a + bs.length ≤ b ∨ b + cs.length ≤ a) :
    store (store m a bs) b cs = store (store m b cs) a bs := by
  ext x : 1
  by_cases hx : a ≤ x ∧ x < a + bs.length
  · rw [store_inside hx, store_outside (by omega), store_inside hx]
  · rw [store_outside (m := store m b cs) (by omega)]
    apply store_congr
    intro _
    exact store_outside (by omega)

theorem copy_inside {m src : Mem} {d s n x : Nat} (h : d ≤ x ∧ x < d + n) :
    copy m d src s n x = src (s + (x - d)) := by
  rw [copy, if_pos h]

theorem load_store_same (m : Mem) (a : Nat) (bs : List UInt8) :
    load (store m a bs) a bs.length = bs := by
  rw [load_eq_iff]
  intro i hi
  rw [store_inside (by omega), Nat.add_sub_cancel_left]

theorem load_store_disjoint {m : Mem} {a b n : Nat} {bs : List UInt8}
    (h : b + n ≤ a ∨ a + bs.length ≤ b) : load (store m a bs) b n = load m b n := by
  apply load_congr
  intro i hi
  exact store_outside (by omega)

theorem load_copy_same (m src : Mem) (d s n : Nat) :
    load (copy m d src s n) d n = load src s n := by
  apply load_congr
  intro i hi
  rw [copy_inside (by omega), Nat.add_sub_cancel_left]

theorem overlay_apply {bs : List UInt8} {rest : Mem} {i : Nat} (h : i < bs.length) :
    overlay bs rest i = bs.getD i 0 := by
  rw [overlay, store_inside (by omega), Nat.sub_zero]

theorem overlay_load {m rest : Mem} {n i : Nat} (h : i < n) :
    overlay (load m 0 n) rest i = m i := by
  rw [overlay_apply (by rwa [length_load]), getD_load h, Nat.zero_add]

theorem load_overlay (bs : List UInt8) (rest : Mem) :
    load (overlay bs rest) 0 bs.length = bs :=
  load_store_same rest 0 bs

/-! Memories that agree on a set of addresses agree there after the same write. -/

theorem eqOn_store {m m' : Mem} {s : Set Nat} {a : Nat} {bs : List UInt8}
    (h : Set.EqOn m m' s) : Set.EqOn (store m a bs) (store m' a bs) s :=
  fun _ hx => store_congr fun _ => h hx

theorem eqOn_putHigh4 {m m' : Mem} {s : Set Nat} {a v : Nat} (ha : a ∈ s)
    (h : Set.EqOn m m' s) : Set.EqOn (putHigh4 m a v) (putHigh4 m' a v) s := by
  rw [putHigh4, putHigh4, h ha]
  exact eqOn_store h

theorem eqOn_setBit {m m' : Mem} {s : Set Nat} {a k : Nat} (ha : a ∈ s)
    (h : Set.EqOn m m' s) : Set.EqOn (setBit m a k) (setBit m' a k) s := by
  rw [setBit, setBit, h ha]
  exact eqOn_store h

theorem load_eqOn {m m' : Mem} {a n : Nat} (h : Set.EqOn m m' (Set.Ico a (a + n))) :
    load m a n = load m' a n := by
  apply load_congr
  intro i hi
  exact h ⟨Nat.le_add_right a i, by omega⟩

/-! ## Words -/

@[simp] theorem length_bytes16 (v : UInt16) : (bytes16 v).length = 2 := rfl

@[simp] theorem length_bytes32 (v : UInt32) : (bytes32 v).length = 4 := rfl

theorem toNat_get16 (m : Mem) (a : Nat) :
    (get16 m a).toNat = (m a).toNat + 256 * (m (a + 1)).toNat := by
  have h0 := (m a).toNat_lt
  have h1 := (m (a + 1)).toNat_lt
  rw [get16, UInt16.toNat_ofNat']
  omega

theorem toNat_get32 (m : Mem) (a : Nat) :
    (get32 m a).toNat = (m a).toNat + 256 * (m (a + 1)).toNat
      + 65536 * (m (a + 2)).toNat + 16777216 * (m (a + 3)).toNat := by
  have h0 := (m a).toNat_lt
  have h1 := (m (a + 1)).toNat_lt
  have h2 := (m (a + 2)).toNat_lt
  have h3 := (m (a + 3)).toNat_lt
  rw [get32, UInt32.toNat_ofNat']
  omega

theorem get16_congr {m m' : Mem} {a a' : Nat}
    (h : ∀ i, i < 2 → m (a + i) = m' (a' + i)) : get16 m a = get16 m' a' := by
  have h0 : m a = m' a' := by simpa using h 0 (by omega)
  rw [get16, get16, h0, h 1 (by omega)]

theorem get32_congr {m m' : Mem} {a a' : Nat}
    (h : ∀ i, i < 4 → m (a + i) = m' (a' + i)) : get32 m a = get32 m' a' := by
  have h0 : m a = m' a' := by simpa using h 0 (by omega)
  rw [get32, get32, h0, h 1 (by omega), h 2 (by omega), h 3 (by omega)]

theorem get16_of_load {m : Mem} {a : Nat} {v : UInt16} (h : load m a 2 = bytes16 v) :
    get16 m a = v := by
  have hb := load_eq_iff.mp (by simpa using h : load m a (bytes16 v).length = bytes16 v)
  have h0 : m a = UInt8.ofNat v.toNat := hb 0 (by simp)
  have h1 : m (a + 1) = UInt8.ofNat (v.toNat / 256) := hb 1 (by simp)
  have hv := v.toNat_lt
  apply UInt16.toNat.inj
  rw [toNat_get16, h0, h1, UInt8.toNat_ofNat', UInt8.toNat_ofNat']
  omega

theorem get32_of_load {m : Mem} {a : Nat} {v : UInt32} (h : load m a 4 = bytes32 v) :
    get32 m a = v := by
  have hb := load_eq_iff.mp (by simpa using h : load m a (bytes32 v).length = bytes32 v)
  have h0 : m a = UInt8.ofNat v.toNat := hb 0 (by simp)
  have h1 : m (a + 1) = UInt8.ofNat (v.toNat / 256) := hb 1 (by simp)
  have h2 : m (a + 2) = UInt8.ofNat (v.toNat / 65536) := hb 2 (by simp)
  have h3 : m (a + 3) = UInt8.ofNat (v.toNat / 16777216) := hb 3 (by simp)
  have hv := v.toNat_lt
  apply UInt32.toNat.inj
  rw [toNat_get32, h0, h1, h2, h3]
  simp only [UInt8.toNat_ofNat']
  omega

theorem load_of_get32 {m : Mem} {a : Nat} {v : UInt32} (h : get32 m a = v) :
    load m a 4 = bytes32 v := by
  have h0 := (m a).toNat_lt
  have h1 := (m (a + 1)).toNat_lt
  have h2 := (m (a + 2)).toNat_lt
  have h3 := (m (a + 3)).toNat_lt
  have hload : load m a 4 = [m a, m (a + 1), m (a + 2), m (a + 3)] := rfl
  have hbyte (n : Nat) (b : UInt8) (hn : n % 256 = b.toNat) : UInt8.ofNat n = b := by
    apply UInt8.toNat.inj
    rw [UInt8.toNat_ofNat', hn]
  have hv := toNat_get32 m a
  rw [h] at hv
  rw [hload, bytes32, hv, hbyte _ (m a) (by omega), hbyte _ (m (a + 1)) (by omega),
    hbyte _ (m (a + 2)) (by omega), hbyte _ (m (a + 3)) (by omega)]

@[simp] theorem get16_put16_same (m : Mem) (a : Nat) (v : UInt16) :
    get16 (put16 m a v) a = v :=
  get16_of_load (load_store_same m a (bytes16 v))

@[simp] theorem get32_put32_same (m : Mem) (a : Nat) (v : UInt32) :
    get32 (put32 m a v) a = v :=
  get32_of_load (load_store_same m a (bytes32 v))

theorem get16_store_disjoint {m : Mem} {a b : Nat} {bs : List UInt8}
    (h : b + 2 ≤ a ∨ a + bs.length ≤ b) : get16 (store m a bs) b = get16 m b :=
  get16_congr fun i hi => store_outside (by omega)

theorem get32_store_disjoint {m : Mem} {a b : Nat} {bs : List UInt8}
    (h : b + 4 ≤ a ∨ a + bs.length ≤ b) : get32 (store m a bs) b = get32 m b :=
  get32_congr fun i hi => store_outside (by omega)

/-! ## Reads beside a write

One lemma for each kind of read and write, for use with `simp` and `omega` as
its discharger on a chain of field writes. -/

section Beside

variable {m : Mem} {a b n : Nat}

@[simp] theorem put8_same (v : UInt8) : put8 m a v a = v := by
  rw [put8, store_inside (by simp)]
  simp

theorem put8_beside {v : UInt8} (h : b < a ∨ a + 1 ≤ b) : put8 m a v b = m b :=
  store_outside (by simpa using h)

theorem put16_beside {v : UInt16} (h : b < a ∨ a + 2 ≤ b) : put16 m a v b = m b :=
  store_outside h

theorem put16_inside {v : UInt16} {i : Nat} (hi : i < 2) :
    put16 m a v (a + i) = (bytes16 v).getD i 0 := by
  rw [put16, store_inside (by rw [length_bytes16]; omega), Nat.add_sub_cancel_left]

theorem put32_beside {v : UInt32} (h : b < a ∨ a + 4 ≤ b) : put32 m a v b = m b :=
  store_outside h

theorem get16_put8_beside {v : UInt8} (h : b + 2 ≤ a ∨ a + 1 ≤ b) :
    get16 (put8 m a v) b = get16 m b :=
  get16_store_disjoint h

theorem get16_put16_beside {v : UInt16} (h : b + 2 ≤ a ∨ a + 2 ≤ b) :
    get16 (put16 m a v) b = get16 m b :=
  get16_store_disjoint h

theorem get16_put32_beside {v : UInt32} (h : b + 2 ≤ a ∨ a + 4 ≤ b) :
    get16 (put32 m a v) b = get16 m b :=
  get16_store_disjoint h

theorem get32_put8_beside {v : UInt8} (h : b + 4 ≤ a ∨ a + 1 ≤ b) :
    get32 (put8 m a v) b = get32 m b :=
  get32_store_disjoint h

theorem get32_put16_beside {v : UInt16} (h : b + 4 ≤ a ∨ a + 2 ≤ b) :
    get32 (put16 m a v) b = get32 m b :=
  get32_store_disjoint h

theorem get32_put32_beside {v : UInt32} (h : b + 4 ≤ a ∨ a + 4 ≤ b) :
    get32 (put32 m a v) b = get32 m b :=
  get32_store_disjoint h

theorem load_put8_beside {v : UInt8} (h : b + n ≤ a ∨ a + 1 ≤ b) :
    load (put8 m a v) b n = load m b n :=
  load_store_disjoint h

theorem load_put16_beside {v : UInt16} (h : b + n ≤ a ∨ a + 2 ≤ b) :
    load (put16 m a v) b n = load m b n :=
  load_store_disjoint h

theorem load_put32_beside {v : UInt32} (h : b + n ≤ a ∨ a + 4 ≤ b) :
    load (put32 m a v) b n = load m b n :=
  load_store_disjoint h

end Beside

section Same

variable (m : Mem) (a : Nat)

theorem load_put8_same (v : UInt8) : load (put8 m a v) a 1 = [v] := load_store_same m a [v]

theorem load_put16_same (v : UInt16) : load (put16 m a v) a 2 = bytes16 v :=
  load_store_same m a (bytes16 v)

theorem load_put32_same (v : UInt32) : load (put32 m a v) a 4 = bytes32 v :=
  load_store_same m a (bytes32 v)

end Same

/-! ## Byte order -/

theorem toNat_swap16 (v : UInt16) :
    (swap16 v).toNat = v.toNat % 256 * 256 + v.toNat / 256 := by
  have hv := v.toNat_lt
  rw [swap16, UInt16.toNat_ofNat']
  omega

theorem toNat_swap32 (v : UInt32) :
    (swap32 v).toNat = v.toNat % 256 * 16777216 + v.toNat / 256 % 256 * 65536
      + v.toNat / 65536 % 256 * 256 + v.toNat / 16777216 := by
  have hv := v.toNat_lt
  rw [swap32, UInt32.toNat_ofNat']
  omega

@[simp] theorem swap16_swap16 (v : UInt16) : swap16 (swap16 v) = v := by
  have hv := v.toNat_lt
  apply UInt16.toNat.inj
  rw [toNat_swap16, toNat_swap16]
  omega

/-- Every word is the sum of its four bytes, weighted by their places. -/
theorem exists_bytes32 (v : UInt32) : ∃ b0 b1 b2 b3 : Nat,
    b0 < 256 ∧ b1 < 256 ∧ b2 < 256 ∧ b3 < 256 ∧
      v.toNat = b0 + 256 * b1 + 65536 * b2 + 16777216 * b3 := by
  have hv := v.toNat_lt
  refine ⟨v.toNat % 256, v.toNat / 256 % 256, v.toNat / 65536 % 256,
    v.toNat / 16777216, ?_, ?_, ?_, ?_, ?_⟩ <;> omega

theorem swap32_of_bytes {v : UInt32} {b0 b1 b2 b3 : Nat}
    (h0 : b0 < 256) (h1 : b1 < 256) (h2 : b2 < 256)
    (hv : v.toNat = b0 + 256 * b1 + 65536 * b2 + 16777216 * b3) :
    (swap32 v).toNat = b3 + 256 * b2 + 65536 * b1 + 16777216 * b0 := by
  have e0 : v.toNat % 256 = b0 := by omega
  have e1 : v.toNat / 256 % 256 = b1 := by omega
  have e2 : v.toNat / 65536 % 256 = b2 := by omega
  have e3 : v.toNat / 16777216 = b3 := by omega
  rw [toNat_swap32, e0, e1, e2, e3]
  omega

@[simp] theorem swap32_swap32 (v : UInt32) : swap32 (swap32 v) = v := by
  obtain ⟨b0, b1, b2, b3, h0, h1, h2, h3, hv⟩ := exists_bytes32 v
  have hswap := swap32_of_bytes h0 h1 h2 hv
  apply UInt32.toNat.inj
  rw [swap32_of_bytes h3 h2 h1 hswap, hv]

theorem bytes16_swap16 (v : UInt16) :
    bytes16 (swap16 v) = [UInt8.ofNat (v.toNat / 256), UInt8.ofNat v.toNat] := by
  have hv := v.toNat_lt
  have hlow : UInt8.ofNat (swap16 v).toNat = UInt8.ofNat (v.toNat / 256) := by
    apply UInt8.toNat.inj
    rw [UInt8.toNat_ofNat', UInt8.toNat_ofNat', toNat_swap16]
    omega
  have hhigh : UInt8.ofNat ((swap16 v).toNat / 256) = UInt8.ofNat v.toNat := by
    have hdiv : v.toNat / 256 < 256 := by omega
    apply UInt8.toNat.inj
    rw [UInt8.toNat_ofNat', UInt8.toNat_ofNat', toNat_swap16, Nat.add_comm,
      Nat.add_mul_div_right _ _ (by decide), Nat.div_eq_of_lt hdiv, Nat.zero_add, Nat.mod_mod]
  rw [bytes16, hlow, hhigh]

theorem be16_eq_swap16 (m : Mem) (a : Nat) : be16 m a = (swap16 (get16 m a)).toNat := by
  have h0 := (m a).toNat_lt
  have hget := toNat_get16 m a
  rw [toNat_swap16, be16]
  omega

theorem be32_eq_swap32 (m : Mem) (a : Nat) : be32 m a = (swap32 (get32 m a)).toNat := by
  have hget := toNat_get32 m a
  rw [swap32_of_bytes (m a).toNat_lt (m (a + 1)).toNat_lt (m (a + 2)).toNat_lt hget, be32]
  omega

end VpnRouter.Lib.Memory
