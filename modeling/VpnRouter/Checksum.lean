import VpnRouter.IpPack

/-!
# The checksum against its definition

`in_cksum` adds native words and never swaps, in an `int`.  What it stores is the
Internet checksum over the words in network order (`inCksum_internetChecksum`),
and it misses the corruption of one word only when that word changes from one
representation of zero to the other (`inCksum_collision`).
-/

namespace VpnRouter

open Lib.Memory Lib.OnesComplement

/-- An addition to the accumulator, an `int` that ends at 2147483647. -/
def addInt (sum n : Nat) : Option Nat :=
  if sum + n ≤ 2147483647 then some (sum + n) else none

def cksumLoopInt (m : Mem) : Nat → Nat → Nat → Option Nat
  | addr, len + 2, sum => do
      let sum ← addInt sum (get16 m addr).toNat
      cksumLoopInt m (addr + 2) len sum
  | addr, 1, sum => addInt sum (m addr).toNat
  | _, 0, sum => some sum

/-- `in_cksum` with every addition checked; `none` is an overflow. -/
def inCksumInt (m : Mem) (addr len : Nat) : Option UInt16 := do
  let sum ← cksumLoopInt m addr len 0
  let sum ← addInt (sum >>> 16) (sum &&& 0xffff)
  let sum ← addInt sum (sum >>> 16)
  return ~~~ UInt16.ofNat sum

/-- The Internet checksum: the complement of the one's-complement sum of the words
in network order, as the two bytes that are sent. -/
def internetChecksum (bs : List UInt8) : List UInt8 :=
  let c := 65535 - onesSum (words networkWord bs)
  [UInt8.ofNat (c / 256), UInt8.ofNat (c % 256)]

/-! ## The accumulator -/

theorem addInt_of_le {sum n : Nat} (h : sum + n ≤ 2147483647) :
    addInt sum n = some (sum + n) := if_pos h

theorem cksumLoopInt_eq {m : Mem} {addr len sum : Nat}
    (h : sum + wordSum m addr len ≤ 2147483647) :
    cksumLoopInt m addr len sum = some (cksumLoop m addr len sum) := by
  induction len using Nat.twoStepInduction generalizing addr sum with
  | zero => rfl
  | one => exact addInt_of_le h
  | more len ih _ =>
      rw [wordSum] at h
      rw [cksumLoopInt, addInt_of_le (by omega), cksumLoop]
      exact ih (by omega)

/-- No block of up to 65535 bytes overflows the accumulator. -/
theorem inCksumInt_eq (m : Mem) (addr : Nat) {len : Nat} (hlen : len ≤ 65535) :
    inCksumInt m addr len = some (inCksum m addr len) := by
  have hle := wordSum_le m addr len
  have hloop : cksumLoopInt m addr len 0 = some (cksumLoop m addr len 0) :=
    cksumLoopInt_eq (by omega)
  have hsum : cksumLoop m addr len 0 = wordSum m addr len := by
    rw [cksumLoop_eq, Nat.zero_add]
  unfold inCksumInt inCksum
  rw [hloop, hsum]
  simp only [Option.bind_eq_bind, Option.bind_some, and_0xffff, shiftRight_16]
  rw [addInt_of_le (by omega), Option.bind_some, addInt_of_le (by omega)]
  rfl

/-! ## The bytes on the wire -/

theorem inCksum_store (m : Mem) (a : Nat) (bs : List UInt8) :
    (inCksum (store m a bs) a bs.length).toNat = 65535 - foldTwice (words nativeWord bs).sum := by
  rw [inCksum_toNat, wordSum_store]

/-- The two folds leave the one's-complement sum of the words as they are read. -/
theorem inCksum_onesSum (m : Mem) (a : Nat) {bs : List UInt8} (hlen : bs.length ≤ 65535) :
    (inCksum (store m a bs) a bs.length).toNat = 65535 - onesSum (words nativeWord bs) := by
  have hle := sum_words_le nativeWord_le bs
  rw [inCksum_store, onesSum_eq (words_le nativeWord_le) (by omega)]

/-- The additions stay inside an `int`, two folds suffice, and the stored result is
the Internet checksum. -/
theorem inCksum_internetChecksum (m : Mem) (a : Nat) (bs : List UInt8) (hlen : bs.length ≤ 65535) :
    inCksumInt (store m a bs) a bs.length = some (inCksum (store m a bs) a bs.length) ∧
      (inCksum (store m a bs) a bs.length).toNat = 65535 - onesSum (words nativeWord bs) ∧
      bytes16 (inCksum (store m a bs) a bs.length) = internetChecksum bs := by
  refine ⟨inCksumInt_eq _ _ hlen, inCksum_onesSum m a hlen, ?_⟩
  have hswap := onesSum_networkWords hlen
  have hle := foldTwice_le (words nativeWord bs).sum
  obtain ⟨hhigh, hlow⟩ := complement_swap hle
  rw [bytes16, internetChecksum, inCksum_store, hswap, hhigh, hlow]
  congr 1
  apply UInt8.toNat.inj
  rw [UInt8.toNat_ofNat', UInt8.toNat_ofNat', Nat.mod_mod]

theorem inCksum_internetChecksum_odd :
    inCksumInt (store (fun _ => 0xaa) 7 [0x45, 0x00, 0xf3]) 7 3 =
        some (inCksum (store (fun _ => 0xaa) 7 [0x45, 0x00, 0xf3]) 7 3) ∧
      (inCksum (store (fun _ => 0xaa) 7 [0x45, 0x00, 0xf3]) 7 3).toNat = 65535 - (0x45 + 0xf3) ∧
      bytes16 (inCksum (store (fun _ => 0xaa) 7 [0x45, 0x00, 0xf3]) 7 3) = [0xc7, 0xfe] :=
  inCksum_internetChecksum (fun _ => 0xaa) 7 [0x45, 0x00, 0xf3] (by decide)

/-! ## Corruption of one word -/

theorem inCksum_eq_iff (m m' : Mem) (a a' : Nat) (bs bs' : List UInt8) :
    inCksum (store m a bs) a bs.length = inCksum (store m' a' bs') a' bs'.length ↔
      foldTwice (words nativeWord bs).sum = foldTwice (words nativeWord bs').sum := by
  have hle := foldTwice_le (words nativeWord bs).sum
  have hle' := foldTwice_le (words nativeWord bs').sum
  rw [← UInt16.toNat_inj, inCksum_store, inCksum_store]
  omega

/-- Two strings that differ in the word `w` against `w'` alone have the same
checksum when those are the two representations of zero and another word is not
zero, and in no other case. -/
theorem inCksum_collision (m m' : Mem) (a a' : Nat) (bs bs' : List UInt8) (l r : List Nat)
    (w w' : Nat) (hmax : bs.length ≤ 65535) (hwords : words nativeWord bs = l ++ w :: r)
    (hwords' : words nativeWord bs' = l ++ w' :: r) (hne : w ≠ w') :
    inCksum (store m a bs) a bs.length = inCksum (store m' a' bs') a' bs'.length ↔
      (w = 0x0000 ∧ w' = 0xffff ∨ w = 0xffff ∧ w' = 0x0000) ∧ ∃ v ∈ l ++ r, v ≠ 0 := by
  have hmid (v : Nat) : (l ++ v :: r).sum = (l ++ r).sum + v := by
    rw [List.sum_append, List.sum_cons, List.sum_append]
    omega
  have hle := sum_words_le nativeWord_le bs
  rw [hwords, hmid] at hle
  have hmem : w ∈ words nativeWord bs := by simp [hwords]
  have hmem' : w' ∈ words nativeWord bs' := by simp [hwords']
  have hzero : (l ++ r).sum ≠ 0 ↔ ∃ v ∈ l ++ r, v ≠ 0 := by
    rw [Ne, List.sum_eq_zero_iff_forall_eq_nat]
    simp only [Classical.not_forall, exists_prop]
  rw [inCksum_eq_iff, hwords, hwords', hmid, hmid,
    foldTwice_add_eq_iff (words_le nativeWord_le w hmem) (words_le nativeWord_le w' hmem') hne
      (by omega), hzero]

theorem inCksum_collision_tail :
    inCksum (store (fun _ => 0) 0 [1, 2, 0, 0, 7]) 0 5 =
        inCksum (store (fun _ => 0) 0 [1, 2, 0xff, 0xff, 7]) 0 5 ↔
      (0 = 0x0000 ∧ 65535 = 0xffff ∨ 0 = 0xffff ∧ 65535 = 0x0000) ∧ ∃ v ∈ [513, 7], v ≠ 0 :=
  inCksum_collision (fun _ => 0) (fun _ => 0) 0 0 [1, 2, 0, 0, 7] [1, 2, 0xff, 0xff, 7] [513] [7]
    0 65535 (by decide) (by decide) (by decide) (by decide)

end VpnRouter
