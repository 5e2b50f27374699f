import Mathlib.Data.List.Lex
import Mathlib.Order.Fin.Basic
import CrossChainEscrow.Library.Words

/-!
# Bytes and fixed-width integer encodings

Byte arrays compare lexicographically, as arrays do. The two integer encoders
write a fixed number of bytes, so encodings of one width can be concatenated
without separators and still be read back field by field.
-/
namespace CrossChainEscrow.Library.Bytes
open Words

abbrev Byte := Fin 256

instance neZeroBytes : NeZero 256 := ⟨by decide⟩

/-- A 32-byte array. The order is the lexicographic one of the bytes. -/
abbrev Bytes32 := {bytes : List Byte // bytes.length = 32}

def zero32 : Bytes32 := ⟨List.replicate 32 0, by simp⟩

/-- The lowest `k` bytes of `n`, least significant first. -/
def leBytes : Nat → Nat → List Byte
  | 0, _ => []
  | k + 1, n => Fin.ofNat 256 n :: leBytes k (n / 256)

/-- The lowest `k` bytes of `n`, most significant first. -/
def beBytes (k n : Nat) : List Byte := (leBytes k n).reverse

@[simp] theorem leBytes_length (k n : Nat) : (leBytes k n).length = k := by
  induction k generalizing n with
  | zero => rfl
  | succ k ih => simp [leBytes, ih]

@[simp] theorem beBytes_length (k n : Nat) : (beBytes k n).length = k := by
  simp [beBytes]

/-- Equal encodings agree on the part of the number the width holds. -/
theorem leBytes_inj (k n m : Nat) (h : leBytes k n = leBytes k m) :
    n % 256 ^ k = m % 256 ^ k := by
  induction k generalizing n m with
  | zero => simp [Nat.mod_one]
  | succ k ih =>
    simp only [leBytes, List.cons.injEq] at h
    have low : n % 256 = m % 256 := by simpa [Fin.ext_iff] using h.1
    have high := ih _ _ h.2
    rw [Nat.pow_succ, Nat.mul_comm, Nat.mod_mul, Nat.mod_mul, low, high]

theorem leBytes_word_inj {w k : Nat} (width : 2 ^ w = 256 ^ k) {x y : BitVec w}
    (h : leBytes k x.toNat = leBytes k y.toNat) : x = y := by
  have same := leBytes_inj k _ _ h
  rw [← width, Nat.mod_eq_of_lt x.isLt, Nat.mod_eq_of_lt y.isLt] at same
  exact BitVec.eq_of_toNat_eq same

theorem beBytes_word_inj {w k : Nat} (width : 2 ^ w = 256 ^ k) {x y : BitVec w}
    (h : beBytes k x.toNat = beBytes k y.toNat) : x = y :=
  leBytes_word_inj width (List.reverse_injective h)

/-- `u64::to_be_bytes`. -/
def u64ToBeBytes (x : U64) : List Byte := beBytes 8 x.toNat

/-- `u32::to_be_bytes`. -/
def u32ToBeBytes (x : U32) : List Byte := beBytes 4 x.toNat

@[simp] theorem u64ToBeBytes_length (x : U64) : (u64ToBeBytes x).length = 8 :=
  beBytes_length 8 x.toNat

@[simp] theorem u32ToBeBytes_length (x : U32) : (u32ToBeBytes x).length = 4 :=
  beBytes_length 4 x.toNat

theorem u64ToBeBytes_injective : Function.Injective u64ToBeBytes :=
  fun _ _ h => beBytes_word_inj (by decide) h

theorem u32ToBeBytes_injective : Function.Injective u32ToBeBytes :=
  fun _ _ h => beBytes_word_inj (by decide) h

/-- `u16::from_be_bytes` of the first two bytes of an array. -/
def u16FromBeBytes (bytes : Bytes32) : U16 :=
  BitVec.ofNat 16 ((bytes.1.getD 0 0).val * 256 + (bytes.1.getD 1 0).val)

end CrossChainEscrow.Library.Bytes
