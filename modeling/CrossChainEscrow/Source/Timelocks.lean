import CrossChainEscrow.Source.Common

/-!
# Packed timelocks

`common/src/timelocks.rs`: seven 32-bit stage offsets in the low bits of a
256-bit word and the deployment time in the top 32 bits. The stored form is the
array of four little-endian `u64` limbs. The arithmetic reading (`deployedAt`,
`offset`) is what the getters are proved to add.
-/
namespace CrossChainEscrow.Source
open Library.Words Library.Bytes Library.Accounts

/-- `[u64; 4]`, least significant limb first. -/
structure Limbs where
  w0 : U64
  w1 : U64
  w2 : U64
  w3 : U64
  deriving DecidableEq, Repr

/-- `U256(limbs)`. -/
def Limbs.toU256 (x : Limbs) : U256 := x.w3 ++ x.w2 ++ x.w1 ++ x.w0

/-- The limbs of a `U256`. -/
def Limbs.ofU256 (x : U256) : Limbs :=
  ⟨x.extractLsb' 0 64, x.extractLsb' 64 64, x.extractLsb' 128 64, x.extractLsb' 192 64⟩

/-- `<[u64; 4]>::try_to_vec`: four little-endian limbs, no length. -/
def Limbs.tryToVec (x : Limbs) : List Byte :=
  leBytes 8 x.w0.toNat ++ leBytes 8 x.w1.toNat ++ leBytes 8 x.w2.toNat ++ leBytes 8 x.w3.toNat

@[simp] theorem Limbs.toU256_ofU256 (x : U256) : (Limbs.ofU256 x).toU256 = x := by
  apply BitVec.eq_of_getLsbD_eq
  intro i hi
  simp only [toU256, ofU256, BitVec.getLsbD_append, BitVec.getLsbD_extractLsb']
  grind

theorem Limbs.ofU256_toU256 (x : Limbs) : Limbs.ofU256 x.toU256 = x := by
  obtain ⟨w0, w1, w2, w3⟩ := x
  simp only [ofU256, toU256, Limbs.mk.injEq]
  refine ⟨?_, ?_, ?_, ?_⟩ <;> apply BitVec.eq_of_getLsbD_eq <;> intro i hi <;>
    simp only [BitVec.getLsbD_append, BitVec.getLsbD_extractLsb'] <;> grind

theorem Limbs.toU256_injective : Function.Injective Limbs.toU256 := by
  intro x y same
  rw [← Limbs.ofU256_toU256 x, ← Limbs.ofU256_toU256 y, same]

/-- `U256::as_u32`, which panics on values above `u32::MAX`. -/
def asU32 (x : U256) : Result U32 :=
  orFault (ofNat? 32 x.toNat) (.panic "Integer overflow when casting to u32")

structure Timelocks where
  value : U256
  deriving DecidableEq, Repr

inductive Stage where
  | srcWithdrawal | srcPublicWithdrawal | srcCancellation | srcPublicCancellation
  | dstWithdrawal | dstPublicWithdrawal | dstCancellation
  deriving DecidableEq, Repr

/-- The discriminant of `#[repr(u8)] enum Stage`. -/
def Stage.index : Stage → Nat
  | .srcWithdrawal => 0
  | .srcPublicWithdrawal => 1
  | .srcCancellation => 2
  | .srcPublicCancellation => 3
  | .dstWithdrawal => 4
  | .dstPublicWithdrawal => 5
  | .dstCancellation => 6

def deployedAtOffset : Nat := 224

def stageBitSize : Nat := 32

def deployedAtMask : U256 := (⟨0, 0, 0, 0xffffffff00000000⟩ : Limbs).toU256

namespace Timelocks

def getTimelocks (t : Timelocks) : Limbs := Limbs.ofU256 t.value

def setDeployedAt (t : Timelocks) (value : U32) : Timelocks :=
  let cleared := t.value &&& ~~~deployedAtMask
  ⟨cleared ||| (value.setWidth 256 <<< deployedAtOffset)⟩

def rescueStart (t : Timelocks) (delay : U32) : Result U32 := do
  let deployedAt ← asU32 (t.value >>> deployedAtOffset)
  orFault (checkedAdd deployedAt delay) .arithmeticOverflow

def get (t : Timelocks) (stage : Stage) : Result U32 := do
  let shift := stage.index * stageBitSize
  let deployedAt ← asU32 (t.value >>> deployedAtOffset)
  let delta ← asU32 ((t.value >>> shift) &&& 0xffffffff)
  orFault (checkedAdd deployedAt delta) .arithmeticOverflow

/-- The deployment time: the top 32 bits. -/
def deployedAt (t : Timelocks) : Nat := t.value.toNat / 2 ^ 224

/-- The offset of a stage: bits `32 s` to `32 s + 31`. -/
def offset (t : Timelocks) (stage : Stage) : Nat :=
  t.value.toNat / 2 ^ (32 * stage.index) % 2 ^ 32

theorem deployedAt_lt (t : Timelocks) : t.deployedAt < 2 ^ 32 := by
  have bound := t.value.isLt
  unfold deployedAt
  omega

theorem offset_lt (t : Timelocks) (stage : Stage) : t.offset stage < 2 ^ 32 :=
  Nat.mod_lt _ (by decide)

/-- The cast of the deployment time never panics. -/
theorem asU32_deployedAt {t : Timelocks} {r : U32} :
    asU32 (t.value >>> deployedAtOffset) = .ok r ↔ r.toNat = t.deployedAt := by
  simp only [asU32, orFault_ok, ofNat?_eq_some, deployedAt, deployedAtOffset,
    BitVec.toNat_ushiftRight, Nat.shiftRight_eq_div_pow]

theorem asU32_offset {t : Timelocks} {stage : Stage} {r : U32} :
    asU32 ((t.value >>> (stage.index * stageBitSize)) &&& 0xffffffff) = .ok r ↔
      r.toNat = t.offset stage := by
  have mask : (0xffffffff : U256).toNat = 2 ^ 32 - 1 := by decide
  simp only [asU32, orFault_ok, ofNat?_eq_some, offset, stageBitSize, BitVec.toNat_and, mask,
    BitVec.toNat_ushiftRight, Nat.and_two_pow_sub_one_eq_mod, Nat.shiftRight_eq_div_pow,
    Nat.mul_comm]

/-- The stage getter returns the sum of deployment time and offset, and fails
exactly when the sum leaves `u32`. -/
theorem get_ok {t : Timelocks} {stage : Stage} {r : U32} :
    t.get stage = .ok r ↔ r.toNat = t.deployedAt + t.offset stage := by
  simp only [get, bind_ok, asU32_deployedAt, asU32_offset, orFault_ok, checkedAdd_eq_some]
  constructor
  · rintro ⟨deployed, hd, delta, ho, sum⟩
    rw [sum, hd, ho]
  · intro sum
    refine ⟨BitVec.ofNat 32 t.deployedAt, ?_, BitVec.ofNat 32 (t.offset stage), ?_, ?_⟩
    · exact Nat.mod_eq_of_lt t.deployedAt_lt
    · exact Nat.mod_eq_of_lt (t.offset_lt stage)
    · rw [sum, BitVec.toNat_ofNat, BitVec.toNat_ofNat, Nat.mod_eq_of_lt t.deployedAt_lt,
        Nat.mod_eq_of_lt (t.offset_lt stage)]

theorem rescueStart_ok {t : Timelocks} {delay r : U32} :
    t.rescueStart delay = .ok r ↔ r.toNat = t.deployedAt + delay.toNat := by
  simp only [rescueStart, bind_ok, asU32_deployedAt, orFault_ok, checkedAdd_eq_some]
  constructor
  · rintro ⟨deployed, hd, sum⟩
    rw [sum, hd]
  · intro sum
    refine ⟨BitVec.ofNat 32 t.deployedAt, Nat.mod_eq_of_lt t.deployedAt_lt, ?_⟩
    rw [sum, BitVec.toNat_ofNat, Nat.mod_eq_of_lt t.deployedAt_lt]

theorem deployedAtMask_eq : deployedAtMask = BitVec.allOnes 256 <<< 224 := by decide

/-- Setting the deployment time replaces the top 32 bits and nothing else. -/
theorem setDeployedAt_value (t : Timelocks) (value : U32) :
    (t.setDeployedAt value).value = (value ++ t.value.extractLsb' 0 224 : BitVec 256) := by
  simp only [setDeployedAt, deployedAtMask_eq, deployedAtOffset]
  apply BitVec.eq_of_getLsbD_eq
  intro i hi
  simp only [BitVec.getLsbD_or, BitVec.getLsbD_and, BitVec.getLsbD_not, BitVec.getLsbD_shiftLeft,
    BitVec.getLsbD_append, BitVec.getLsbD_extractLsb', BitVec.getLsbD_setWidth,
    BitVec.getLsbD_allOnes]
  by_cases low : i < 224
  · simp [low, hi]
  · have small : i - 224 < 256 := by omega
    simp [low, hi, small]

theorem setDeployedAt_toNat (t : Timelocks) (value : U32) :
    (t.setDeployedAt value).value.toNat = value.toNat * 2 ^ 224 + t.value.toNat % 2 ^ 224 := by
  rw [setDeployedAt_value]
  have low : (t.value.extractLsb' 0 224).toNat = t.value.toNat % 2 ^ 224 := by simp
  rw [BitVec.toNat_append, ← Nat.shiftLeft_add_eq_or_of_lt (BitVec.isLt _), low,
    Nat.shiftLeft_eq]

@[simp] theorem setDeployedAt_deployedAt (t : Timelocks) (value : U32) :
    (t.setDeployedAt value).deployedAt = value.toNat := by
  rw [deployedAt, setDeployedAt_toNat]
  omega

@[simp] theorem setDeployedAt_offset (t : Timelocks) (value : U32) (stage : Stage) :
    (t.setDeployedAt value).offset stage = t.offset stage := by
  rw [offset, offset, setDeployedAt_toNat]
  cases stage <;> simp only [Stage.index] <;> omega

end Timelocks

/-! ## The packing of the clients -/

/-- `init_timelocks` of `common/tests/src/helpers.rs`. -/
def initTimelocks (srcWithdrawal srcPublicWithdrawal srcCancellation srcPublicCancellation
    dstWithdrawal dstPublicWithdrawal dstCancellation deployedAt : U32) : Timelocks :=
  let value : U256 := 0
  let value := value ||| (deployedAt.setWidth 256 <<< deployedAtOffset)
  let value := value ||| (srcWithdrawal.setWidth 256 <<<
    (Stage.srcWithdrawal.index * stageBitSize))
  let value := value ||| (srcPublicWithdrawal.setWidth 256 <<<
    (Stage.srcPublicWithdrawal.index * stageBitSize))
  let value := value ||| (srcCancellation.setWidth 256 <<<
    (Stage.srcCancellation.index * stageBitSize))
  let value := value ||| (srcPublicCancellation.setWidth 256 <<<
    (Stage.srcPublicCancellation.index * stageBitSize))
  let value := value ||| (dstWithdrawal.setWidth 256 <<<
    (Stage.dstWithdrawal.index * stageBitSize))
  let value := value ||| (dstPublicWithdrawal.setWidth 256 <<<
    (Stage.dstPublicWithdrawal.index * stageBitSize))
  let value := value ||| (dstCancellation.setWidth 256 <<<
    (Stage.dstCancellation.index * stageBitSize))
  ⟨value⟩

/-- The timelocks of a stored limb array. -/
abbrev Limbs.timelocks (x : Limbs) : Timelocks := ⟨x.toU256⟩

@[simp] theorem Timelocks.getTimelocks_timelocks (t : Timelocks) :
    t.getTimelocks.timelocks = t := by
  simp [Timelocks.getTimelocks, Limbs.timelocks]

end CrossChainEscrow.Source
