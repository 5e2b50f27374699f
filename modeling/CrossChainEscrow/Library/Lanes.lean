import Mathlib.Data.BitVec

/-!
# A word cut into lanes

Lane `i` of a word is its bits from `i * k` on, `k` of them. Or-ing values that
were each shifted into a lane of their own packs them: every lane reads back the
value put there, and lanes that got none read zero.
-/
namespace CrossChainEscrow.Library.Lanes

variable {n k : Nat}

def lane (k : Nat) (x : BitVec n) (i : Nat) : BitVec k := x.extractLsb' (i * k) k

/-- A value in lane `i` of a wider word. -/
def place (n : Nat) (v : BitVec k) (i : Nat) : BitVec n := v.setWidth n <<< (i * k)

theorem lane_toNat (x : BitVec n) (i : Nat) :
    (lane k x i).toNat = x.toNat / 2 ^ (i * k) % 2 ^ k := by
  rw [lane, BitVec.extractLsb'_toNat, Nat.shiftRight_eq_div_pow]

@[simp] theorem lane_or (x y : BitVec n) (i : Nat) :
    lane k (x ||| y) i = lane k x i ||| lane k y i :=
  BitVec.extractLsb'_or

@[simp] theorem lane_zero (i : Nat) : lane k (0 : BitVec n) i = 0 := by
  apply BitVec.eq_of_getLsbD_eq
  intro j _
  simp [lane]

/-- A lane is read back from where it was put. -/
theorem lane_place (v : BitVec k) {i : Nat} (fits : (i + 1) * k ≤ n) :
    lane k (place n v i) i = v := by
  apply BitVec.eq_of_getLsbD_eq
  intro j inside
  have inWord : i * k + j < n := by
    rw [Nat.add_mul] at fits
    omega
  simp [lane, place, inside, inWord]

/-- Nothing is put into the other lanes. -/
theorem lane_place_ne (v : BitVec k) {i j : Nat} (other : i ≠ j) :
    lane k (place n v j) i = 0 := by
  apply BitVec.eq_of_getLsbD_eq
  intro b inside
  simp only [lane, place, BitVec.getLsbD_extractLsb', BitVec.getLsbD_shiftLeft,
    BitVec.getLsbD_setWidth]
  rcases Nat.lt_or_gt_of_ne other with below | above
  · -- the lane ends before the value starts
    have ends : (i + 1) * k ≤ j * k := Nat.mul_le_mul_right k below
    rw [Nat.add_mul] at ends
    have early : i * k + b < j * k := by omega
    simp [early]
  · -- the value ends before the lane starts
    have starts : (j + 1) * k ≤ i * k := Nat.mul_le_mul_right k above
    rw [Nat.add_mul] at starts
    have late : v.getLsbD (i * k + b - j * k) = false := BitVec.getLsbD_of_ge _ _ (by omega)
    simp [late]

/-- Words that agree on lanes that cover them are equal. -/
theorem eq_of_lanes {m : Nat} (covered : n ≤ m * k) {x y : BitVec n}
    (same : ∀ i < m, lane k x i = lane k y i) : x = y := by
  apply BitVec.eq_of_getLsbD_eq
  intro b inside
  have wide : 0 < k := Nat.pos_of_ne_zero (by rintro rfl; omega)
  have position : b / k * k + b % k = b := by
    rw [Nat.mul_comm]
    exact Nat.div_add_mod b k
  have low : b % k < k := Nat.mod_lt _ wide
  have inLane : b / k < m := (Nat.div_lt_iff_lt_mul wide).mpr (by omega)
  have bits := congrArg (BitVec.getLsbD · (b % k)) (same _ inLane)
  simpa [lane, low, position] using bits

end CrossChainEscrow.Library.Lanes
