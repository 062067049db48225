import VpnRouter.Lib.Memory
import Mathlib.Algebra.GroupWithZero.Nat
import Mathlib.Data.Nat.Init

/-!
# One's-complement sums of 16 bit words

The Internet checksum adds the 16 bit words of a block, folds the carries back
in twice and complements.  Folding twice reduces modulo 65535 with the values
1 to 65535 as representatives of a non-zero sum (`foldTwice_eq`), so a block
whose checksum word holds the complement of the rest adds up to 65535
(`foldTwice_add_complement`).  The sum in either byte order determines the other
one (`onesSum_networkWords`).
-/

namespace VpnRouter.Lib.OnesComplement

open Memory

def foldTwice (sum : Nat) : Nat :=
  (sum / 65536 + sum % 65536 + (sum / 65536 + sum % 65536) / 65536) % 65536

theorem and_0xffff (n : Nat) : n &&& 0xffff = n % 65536 := Nat.and_two_pow_sub_one_eq_mod n 16

theorem shiftRight_16 (n : Nat) : n >>> 16 = n / 65536 := Nat.shiftRight_eq_div_pow n 16

theorem foldTwice_eq (sum : Nat) (hsum : sum < 2 ^ 32) :
    foldTwice sum = if sum = 0 then 0 else (sum - 1) % 65535 + 1 := by
  by_cases h0 : sum = 0
  · simp [h0, foldTwice]
  · rw [if_neg h0]
    unfold foldTwice
    have hdiv := Nat.div_add_mod sum 65536
    have hmod := Nat.mod_lt sum (show 0 < 65536 by decide)
    generalize sum / 65536 = q at hdiv ⊢
    generalize sum % 65536 = t at hdiv hmod ⊢
    by_cases hcarry : q + t < 65536
    · have hsplit : sum - 1 = 65535 * q + (q + t - 1) := by omega
      have hzero : (q + t) / 65536 = 0 := Nat.div_eq_of_lt hcarry
      rw [hsplit, Nat.mul_add_mod, Nat.mod_eq_of_lt (by omega), hzero,
        Nat.mod_eq_of_lt (by omega)]
      omega
    · obtain ⟨y, hy⟩ := Nat.exists_eq_add_of_le (Nat.le_of_not_lt hcarry)
      have hsplit : sum - 1 = 65535 * (q + 1) + y := by omega
      have hone : (q + t) / 65536 = 1 := by omega
      rw [hsplit, Nat.mul_add_mod, Nat.mod_eq_of_lt (show y < 65535 by omega), hone, hy,
        Nat.add_assoc, Nat.add_mod_left, Nat.mod_eq_of_lt (by omega)]

theorem foldTwice_le (sum : Nat) : foldTwice sum ≤ 65535 := by
  unfold foldTwice
  omega

theorem foldTwice_add_complement {sum : Nat} (hsum : sum < 2 ^ 31) :
    foldTwice (sum + (65535 - foldTwice sum)) = 65535 := by
  have hle := foldTwice_le sum
  rw [foldTwice_eq (sum + _) (by omega)]
  rw [foldTwice_eq sum (by omega)] at hle ⊢
  by_cases h0 : sum = 0
  · simp [h0]
  · rw [if_neg h0] at hle ⊢
    rw [if_neg (by omega)]
    omega

/-- A word is the complement of a non-zero sum when both add up to a multiple of
65535; the word 65535 never is. -/
theorem complement_eq_iff {sum k : Nat} (hsum : 0 < sum) (hlt : sum < 2 ^ 31) (hk : k ≤ 65535) :
    65535 - foldTwice sum = k ↔ k ≠ 65535 ∧ 65535 ∣ sum + k := by
  have hfold := foldTwice_eq sum (by omega)
  rw [if_neg (by omega)] at hfold
  rw [hfold]
  omega

/-- The sum of the 16 bit words of a block, a last odd byte counting as a word
of its own. -/
def wordSum (m : Mem) : Nat → Nat → Nat
  | a, n + 2 => (get16 m a).toNat + wordSum m (a + 2) n
  | a, 1 => (m a).toNat
  | _, 0 => 0

theorem wordSum_congr {m m' : Mem} {a a' n : Nat}
    (h : ∀ i, i < n → m (a + i) = m' (a' + i)) : wordSum m a n = wordSum m' a' n := by
  induction n using Nat.twoStepInduction generalizing a a' with
  | zero => rfl
  | one => simpa [wordSum] using congrArg UInt8.toNat (h 0 (by omega))
  | more n ih _ =>
      have hword : get16 m a = get16 m' a' := get16_congr fun i hi => h i (by omega)
      have hrest : wordSum m (a + 2) n = wordSum m' (a' + 2) n := by
        apply ih
        intro i hi
        simpa [Nat.add_assoc, Nat.add_comm 2 i] using h (i + 2) (by omega)
      rw [wordSum, wordSum, hword, hrest]

theorem wordSum_le (m : Mem) (a n : Nat) : wordSum m a n ≤ 65535 * ((n + 1) / 2) := by
  induction n using Nat.twoStepInduction generalizing a with
  | zero => simp [wordSum]
  | one =>
      have hbyte := (m a).toNat_lt
      simp only [wordSum]
      omega
  | more n ih _ =>
      have hword := (get16 m a).toNat_lt
      have hrest := ih (a + 2)
      simp only [wordSum]
      omega

/-- Replacing the word at an even offset changes the sum by the difference. -/
theorem wordSum_put16 (m : Mem) (a n k : Nat) (v : UInt16) (hk : k % 2 = 0) (hkn : k + 2 ≤ n) :
    wordSum (put16 m (a + k) v) a n + (get16 m (a + k)).toNat = wordSum m a n + v.toNat := by
  induction k using Nat.twoStepInduction generalizing a n with
  | zero =>
      obtain ⟨n, rfl⟩ : ∃ r, n = r + 2 := ⟨n - 2, by omega⟩
      have hrest : wordSum (put16 m (a + 0) v) (a + 2) n = wordSum m (a + 2) n :=
        wordSum_congr fun i _ => store_outside (by simp only [length_bytes16]; omega)
      rw [wordSum, wordSum, hrest]
      simp only [Nat.add_zero, get16_put16_same]
      omega
  | one => omega
  | more k ih _ =>
      obtain ⟨n, rfl⟩ : ∃ r, n = r + 2 := ⟨n - 2, by omega⟩
      have hword : get16 (put16 m (a + (k + 2)) v) a = get16 m a :=
        get16_store_disjoint (by omega)
      have hrest := ih (a + 2) n (by omega) (by omega)
      rw [show a + 2 + k = a + (k + 2) by omega] at hrest
      rw [wordSum, wordSum, hword]
      omega

theorem get16_le_wordSum {m : Mem} {a n k : Nat} (hk : k % 2 = 0) (hkn : k + 2 ≤ n) :
    (get16 m (a + k)).toNat ≤ wordSum m a n := by
  have hsum := wordSum_put16 m a n k 0 hk hkn
  rw [UInt16.toNat_zero] at hsum
  omega

/-- Two words give the same folded sum only as the two representations of zero
beside a non-zero rest. -/
theorem foldTwice_add_eq_iff {sum w w' : Nat} (hw : w ≤ 65535) (hw' : w' ≤ 65535)
    (hne : w ≠ w') (hsum : sum < 2 ^ 31) :
    foldTwice (sum + w) = foldTwice (sum + w') ↔
      (w = 0 ∧ w' = 65535 ∨ w = 65535 ∧ w' = 0) ∧ sum ≠ 0 := by
  rw [foldTwice_eq (sum + w) (by omega), foldTwice_eq (sum + w') (by omega)]
  by_cases h0 : sum = 0
  · rw [h0, Nat.zero_add, Nat.zero_add]
    split <;> split <;> omega
  · split <;> split <;> omega

/-! ## Sums over byte strings -/

/-- One's-complement addition: the carry is added back in. -/
def onesAdd (a b : Nat) : Nat := (a + b) % 65536 + (a + b) / 65536

def onesSum (ws : List Nat) : Nat := ws.foldl onesAdd 0

/-- The words of a byte string, a last odd byte padded with zero on the right. -/
def words (word : UInt8 → UInt8 → Nat) : List UInt8 → List Nat
  | x :: y :: rest => word x y :: words word rest
  | [x] => [word x 0]
  | [] => []

def networkWord (x y : UInt8) : Nat := 256 * x.toNat + y.toNat

/-- The word that a little-endian machine reads. -/
def nativeWord (x y : UInt8) : Nat := x.toNat + 256 * y.toNat

theorem networkWord_le (x y : UInt8) : networkWord x y ≤ 65535 := by
  have hx := x.toNat_lt
  have hy := y.toNat_lt
  unfold networkWord
  omega

theorem nativeWord_le (x y : UInt8) : nativeWord x y ≤ 65535 := by
  have hx := x.toNat_lt
  have hy := y.toNat_lt
  unfold nativeWord
  omega

theorem words_le {word : UInt8 → UInt8 → Nat} (h : ∀ x y, word x y ≤ 65535) {bs : List UInt8} :
    ∀ w ∈ words word bs, w ≤ 65535 := by
  induction bs using words.induct with
  | case1 x y rest ih =>
      intro w hw
      rcases List.mem_cons.mp hw with heq | hmem
      · rw [heq]
        exact h x y
      · exact ih w hmem
  | case2 x =>
      intro w hw
      rw [List.mem_singleton.mp hw]
      exact h x 0
  | case3 => exact fun w hw => absurd hw List.not_mem_nil

theorem sum_words_le {word : UInt8 → UInt8 → Nat} (h : ∀ x y, word x y ≤ 65535)
    (bs : List UInt8) : (words word bs).sum ≤ 65535 * ((bs.length + 1) / 2) := by
  induction bs using words.induct with
  | case1 x y rest ih =>
      have hword := h x y
      simp only [words, List.sum_cons, List.length_cons]
      omega
  | case2 x => simpa [words] using h x 0
  | case3 => exact Nat.zero_le _

theorem wordSum_store (m : Mem) (a : Nat) (bs : List UInt8) :
    wordSum (store m a bs) a bs.length = (words nativeWord bs).sum := by
  induction bs using words.induct generalizing m a with
  | case1 x y rest ih =>
      have hx : store m a (x :: y :: rest) a = x := by
        rw [store_inside ⟨Nat.le_refl a, by simp⟩, Nat.sub_self]
        rfl
      have hy : store m a (x :: y :: rest) (a + 1) = y := by
        rw [store_inside ⟨Nat.le_add_right a 1, by simp⟩, Nat.add_sub_cancel_left]
        rfl
      have hrest : wordSum (store m a (x :: y :: rest)) (a + 2) rest.length =
          wordSum (store m (a + 2) rest) (a + 2) rest.length := by
        apply wordSum_congr
        intro i hi
        rw [store_inside (by simp; omega), store_inside (by omega)]
        simp [show a + 2 + i - a = i + 2 by omega]
      rw [List.length_cons, List.length_cons, wordSum, hrest, ih, words, List.sum_cons,
        toNat_get16, hx, hy, nativeWord]
  | case2 x => simp [wordSum, store, words, nativeWord]
  | case3 => rfl

theorem onesAdd_foldTwice {sum w : Nat} (hw : w ≤ 65535) (hsum : sum + w < 2 ^ 32) :
    onesAdd (foldTwice sum) w = foldTwice (sum + w) := by
  rw [foldTwice_eq sum (by omega), foldTwice_eq (sum + w) hsum]
  unfold onesAdd
  by_cases h0 : sum = 0
  · rw [if_pos h0, h0, Nat.zero_add]
    split <;> omega
  · rw [if_neg h0, if_neg (by omega)]
    omega

/-- Carrying at each addition or folding the plain sum twice is the same. -/
theorem foldl_onesAdd {ws : List Nat} {sum : Nat} (hws : ∀ w ∈ ws, w ≤ 65535)
    (hsum : sum + ws.sum < 2 ^ 32) :
    ws.foldl onesAdd (foldTwice sum) = foldTwice (sum + ws.sum) := by
  induction ws generalizing sum with
  | nil => rfl
  | cons w rest ih =>
      rw [List.sum_cons] at hsum ⊢
      rw [List.foldl_cons, onesAdd_foldTwice (hws w List.mem_cons_self) (by omega),
        ih (fun v hv => hws v (List.mem_cons_of_mem w hv)) (by omega), Nat.add_assoc]

theorem onesSum_eq {ws : List Nat} (hws : ∀ w ∈ ws, w ≤ 65535) (hsum : ws.sum < 2 ^ 32) :
    onesSum ws = foldTwice ws.sum := by
  have hfold := foldl_onesAdd hws (show 0 + ws.sum < 2 ^ 32 by omega)
  rwa [Nat.zero_add] at hfold

/-- Each sum is 256 times the other one modulo 65535. -/
theorem sum_networkWords (bs : List UInt8) :
    (∃ q, 256 * (words nativeWord bs).sum = (words networkWord bs).sum + 65535 * q) ∧
      ∃ q, 256 * (words networkWord bs).sum = (words nativeWord bs).sum + 65535 * q := by
  induction bs using words.induct with
  | case1 x y rest ih =>
      obtain ⟨⟨p, hp⟩, q, hq⟩ := ih
      simp only [words, nativeWord, networkWord, List.sum_cons]
      exact ⟨⟨p + y.toNat, by omega⟩, q + x.toNat, by omega⟩
  | case2 x =>
      simp only [words, nativeWord, networkWord, List.sum_cons, List.sum_nil, UInt8.toNat_zero]
      exact ⟨⟨0, by omega⟩, x.toNat, by omega⟩
  | case3 => exact ⟨⟨0, rfl⟩, 0, rfl⟩

theorem foldTwice_swap {native network p q : Nat} (hp : 256 * native = network + 65535 * p)
    (hq : 256 * network = native + 65535 * q) (hlt : native < 2 ^ 32) (hlt' : network < 2 ^ 32) :
    foldTwice network = foldTwice native % 256 * 256 + foldTwice native / 256 := by
  rw [foldTwice_eq native hlt, foldTwice_eq network hlt']
  by_cases h0 : native = 0
  · rw [if_pos (show network = 0 by omega), if_pos h0]
  · rw [if_neg (show network ≠ 0 by omega), if_neg h0]
    omega

/-- The sum over the network's words is the byte swap of the sum over the
machine's. -/
theorem onesSum_networkWords {bs : List UInt8} (hlen : bs.length ≤ 65535) :
    onesSum (words networkWord bs) =
      foldTwice (words nativeWord bs).sum % 256 * 256 +
        foldTwice (words nativeWord bs).sum / 256 := by
  have hle := sum_words_le nativeWord_le bs
  obtain ⟨⟨p, hp⟩, q, hq⟩ := sum_networkWords bs
  have hle' := sum_words_le networkWord_le bs
  rw [onesSum_eq (words_le networkWord_le) (by omega)]
  exact foldTwice_swap hp hq (by omega) (by omega)

/-- The complement of a word and the one of its byte swap have the same bytes. -/
theorem complement_swap {w : Nat} (hw : w ≤ 65535) :
    (65535 - (w % 256 * 256 + w / 256)) / 256 = (65535 - w) % 256 ∧
      (65535 - (w % 256 * 256 + w / 256)) % 256 = (65535 - w) / 256 := by
  have hdiv := Nat.div_add_mod w 256
  have hlow := Nat.mod_lt w (show 0 < 256 by decide)
  generalize w / 256 = q at hdiv ⊢
  generalize w % 256 = t at hdiv hlow ⊢
  have hswap : 65535 - (t * 256 + q) = 256 * (255 - t) + (255 - q) := by omega
  have hword : 65535 - w = 256 * (255 - q) + (255 - t) := by omega
  have hparts (x y : Nat) (hy : y < 256) :
      (256 * x + y) / 256 = x ∧ (256 * x + y) % 256 = y := by omega
  obtain ⟨hhigh, hlow'⟩ := hparts (255 - t) (255 - q) (by omega)
  obtain ⟨hhigh', hlow''⟩ := hparts (255 - q) (255 - t) (by omega)
  rw [hswap, hword]
  exact ⟨hhigh.trans hlow''.symm, hlow'.trans hhigh'.symm⟩

end VpnRouter.Lib.OnesComplement
