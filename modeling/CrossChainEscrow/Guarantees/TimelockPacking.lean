import CrossChainEscrow.Library.Lanes
import CrossChainEscrow.Source.Timelocks
import Mathlib.Tactic.IntervalCases

/-!
# Timelocks pack and unpack

The seven stage offsets and the deployment time are the eight 32-bit lanes of the
packed word. Setting the deployment time writes the top lane only, the getters
add it to what they are asked for, and the packing of the clients puts every
value into the lane it is read from.
-/
namespace CrossChainEscrow.Source
open Library.Words Library.Bytes Library.Accounts Library.Lanes

/-- A sum of two times, or the error of the getters where it leaves `u32`. -/
def addOrOverflow (a b : U32) : Result U32 :=
  if a.toNat + b.toNat < 2 ^ 32 then .ok (a + b) else .error .arithmeticOverflow

theorem checkedAdd_addOrOverflow (a b : U32) :
    orFault (checkedAdd a b) .arithmeticOverflow = addOrOverflow a b := by
  unfold checkedAdd ofNat? addOrOverflow
  split
  · rw [BitVec.ofNat_add, BitVec.ofNat_toNat, BitVec.ofNat_toNat, BitVec.setWidth_eq,
      BitVec.setWidth_eq]
    rfl
  · rfl

namespace Timelocks

/-- Bits `32 s` to `32 s + 31`. -/
def stageBits (t : Timelocks) (stage : Stage) : U32 := t.value.extractLsb' (32 * stage.index) 32

/-- The top 32 bits. -/
def topBits (t : Timelocks) : U32 := t.value.extractLsb' 224 32

theorem stageBits_eq_lane (t : Timelocks) (stage : Stage) :
    t.stageBits stage = lane 32 t.value stage.index := by
  rw [stageBits, lane, Nat.mul_comm]

theorem topBits_eq_lane (t : Timelocks) : t.topBits = lane 32 t.value 7 := rfl

theorem stageBits_toNat (t : Timelocks) (stage : Stage) :
    (t.stageBits stage).toNat = t.offset stage := by
  rw [stageBits_eq_lane, lane_toNat, offset, Nat.mul_comm]

theorem topBits_toNat (t : Timelocks) : t.topBits.toNat = t.deployedAt := by
  rw [topBits_eq_lane, lane_toNat]
  exact Nat.mod_eq_of_lt t.deployedAt_lt

/-- Every lane below the top belongs to a stage. -/
theorem lane_cases {i : Nat} (inWord : i < 8) : i = 7 ∨ ∃ stage : Stage, stage.index = i := by
  by_cases top : i = 7
  · exact Or.inl top
  · right
    have below : i < 7 := by omega
    interval_cases i
    · exact ⟨.srcWithdrawal, rfl⟩
    · exact ⟨.srcPublicWithdrawal, rfl⟩
    · exact ⟨.srcCancellation, rfl⟩
    · exact ⟨.srcPublicCancellation, rfl⟩
    · exact ⟨.dstWithdrawal, rfl⟩
    · exact ⟨.dstPublicWithdrawal, rfl⟩
    · exact ⟨.dstCancellation, rfl⟩

/-- The eight fields determine the word. -/
theorem ext_fields {t t' : Timelocks} (top : t.topBits = t'.topBits)
    (stages : ∀ stage, t.stageBits stage = t'.stageBits stage) : t = t' := by
  obtain ⟨x⟩ := t
  obtain ⟨y⟩ := t'
  rw [Timelocks.mk.injEq]
  apply eq_of_lanes (k := 32) (m := 8) (by decide)
  intro i inWord
  rcases lane_cases inWord with rfl | ⟨stage, rfl⟩
  · exact top
  · simpa only [stageBits_eq_lane] using stages stage

/-! ## The getters -/

theorem asU32_top (t : Timelocks) : asU32 (t.value >>> deployedAtOffset) = .ok t.topBits :=
  asU32_deployedAt.mpr t.topBits_toNat

theorem asU32_stage (t : Timelocks) (stage : Stage) :
    asU32 ((t.value >>> (stage.index * stageBitSize)) &&& 0xffffffff) = .ok (t.stageBits stage) :=
  asU32_offset.mpr (t.stageBits_toNat stage)

theorem get_eq (t : Timelocks) (stage : Stage) :
    t.get stage = addOrOverflow t.topBits (t.stageBits stage) := by
  rw [get, asU32_top, asU32_stage]
  exact checkedAdd_addOrOverflow _ _

theorem rescueStart_eq (t : Timelocks) (delay : U32) :
    t.rescueStart delay = addOrOverflow t.topBits delay := by
  rw [rescueStart, asU32_top]
  exact checkedAdd_addOrOverflow _ _

/-! ## Setting the deployment time -/

@[simp] theorem setDeployedAt_topBits (t : Timelocks) (value : U32) :
    (t.setDeployedAt value).topBits = value := by
  apply BitVec.eq_of_toNat_eq
  rw [topBits_toNat, setDeployedAt_deployedAt]

@[simp] theorem setDeployedAt_stageBits (t : Timelocks) (value : U32) (stage : Stage) :
    (t.setDeployedAt value).stageBits stage = t.stageBits stage := by
  apply BitVec.eq_of_toNat_eq
  rw [stageBits_toNat, stageBits_toNat, setDeployedAt_offset]

/-- Only the last deployment time counts. -/
theorem setDeployedAt_setDeployedAt (t : Timelocks) (value value' : U32) :
    (t.setDeployedAt value).setDeployedAt value' = t.setDeployedAt value' := by
  apply ext_fields
  · simp
  · simp

end Timelocks

/-! ## Packing -/

/-- The packed word of eight fields. -/
theorem initTimelocks_value (fields : Stage → U32) (deployedAt : U32) :
    (initTimelocks (fields .srcWithdrawal) (fields .srcPublicWithdrawal) (fields .srcCancellation)
      (fields .srcPublicCancellation) (fields .dstWithdrawal) (fields .dstPublicWithdrawal)
      (fields .dstCancellation) deployedAt).value =
    0 ||| place 256 deployedAt 7 ||| place 256 (fields .srcWithdrawal) 0 |||
      place 256 (fields .srcPublicWithdrawal) 1 ||| place 256 (fields .srcCancellation) 2 |||
      place 256 (fields .srcPublicCancellation) 3 ||| place 256 (fields .dstWithdrawal) 4 |||
      place 256 (fields .dstPublicWithdrawal) 5 ||| place 256 (fields .dstCancellation) 6 := rfl

/-- Every field is read back from where it was packed. -/
theorem initTimelocks_lane (fields : Stage → U32) (deployedAt : U32) :
    (initTimelocks (fields .srcWithdrawal) (fields .srcPublicWithdrawal) (fields .srcCancellation)
      (fields .srcPublicCancellation) (fields .dstWithdrawal) (fields .dstPublicWithdrawal)
      (fields .dstCancellation) deployedAt).topBits = deployedAt ∧
    ∀ stage, (initTimelocks (fields .srcWithdrawal) (fields .srcPublicWithdrawal)
      (fields .srcCancellation) (fields .srcPublicCancellation) (fields .dstWithdrawal)
      (fields .dstPublicWithdrawal) (fields .dstCancellation) deployedAt).stageBits stage =
      fields stage := by
  have here (v : U32) {i : Nat} (fits : i < 8) : lane 32 (place 256 v i) i = v :=
    lane_place v (by omega)
  have elsewhere (v : U32) {i j : Nat} (other : i ≠ j) : lane 32 (place 256 v j) i = 0 :=
    lane_place_ne v other
  constructor
  · rw [Timelocks.topBits_eq_lane, initTimelocks_value]
    simp [here, elsewhere]
  · intro stage
    rw [Timelocks.stageBits_eq_lane, initTimelocks_value]
    cases stage <;> simp [Stage.index, here, elsewhere]

/-- For every packed word, stored as four limbs: setting the deployment time leaves
the offsets and makes every getter return its sum with them, or the error where
the sum leaves `u32`, with all casts in range; setting it again forgets the first
time; and the clients' packing holds exactly its eight arguments. -/
theorem Timelocks.packing (x : Limbs) (v w delay : U32) :
    (∀ stage, (x.timelocks.setDeployedAt v).stageBits stage = x.timelocks.stageBits stage) ∧
    (∀ stage, (x.timelocks.setDeployedAt v).get stage =
      addOrOverflow v (x.timelocks.stageBits stage)) ∧
    (x.timelocks.setDeployedAt v).rescueStart delay = addOrOverflow v delay ∧
    asU32 ((x.timelocks.setDeployedAt v).value >>> deployedAtOffset) = .ok v ∧
    (∀ stage, asU32 (((x.timelocks.setDeployedAt v).value >>> (stage.index * stageBitSize)) &&&
      0xffffffff) = .ok (x.timelocks.stageBits stage)) ∧
    (x.timelocks.setDeployedAt v).setDeployedAt w = x.timelocks.setDeployedAt w ∧
    (∀ (fields : Stage → U32) (deployedAt : U32),
      let packed := initTimelocks (fields .srcWithdrawal) (fields .srcPublicWithdrawal)
        (fields .srcCancellation) (fields .srcPublicCancellation) (fields .dstWithdrawal)
        (fields .dstPublicWithdrawal) (fields .dstCancellation) deployedAt
      packed.topBits = deployedAt ∧ ∀ stage, packed.stageBits stage = fields stage) := by
  refine ⟨?_, ?_, ?_, ?_, ?_, ?_, initTimelocks_lane⟩
  · exact x.timelocks.setDeployedAt_stageBits v
  · intro stage
    rw [Timelocks.get_eq, Timelocks.setDeployedAt_topBits, Timelocks.setDeployedAt_stageBits]
  · rw [Timelocks.rescueStart_eq, Timelocks.setDeployedAt_topBits]
  · rw [Timelocks.asU32_top, Timelocks.setDeployedAt_topBits]
  · intro stage
    rw [Timelocks.asU32_stage, Timelocks.setDeployedAt_stageBits]
  · exact x.timelocks.setDeployedAt_setDeployedAt v w

end CrossChainEscrow.Source
