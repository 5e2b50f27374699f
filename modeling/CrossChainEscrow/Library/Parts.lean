import Mathlib.Algebra.Order.BigOperators.Group.List
import Mathlib.Algebra.Order.Ring.Nat
import Mathlib.Data.List.Pairwise

/-!
# Filling a total in numbered parts

A total is divided into `parts` equal parts. A fill that does not complete the
total is numbered by the part its last unit falls into, and must reach a later
part than the fill before it; the completing fill takes the number after the
part of the last unit. Numbers then increase strictly and stay within
`0..parts`, whether or not the total is a multiple of the number of parts.
-/
namespace CrossChainEscrow.Library.Parts

/-- The part of the `n`-th unit, counting units from one. -/
def partOf (total parts n : Nat) : Nat := (n - 1) * parts / total

theorem partOf_mono {total parts n m : Nat} (h : n ≤ m) :
    partOf total parts n ≤ partOf total parts m := by
  unfold partOf
  apply Nat.div_le_div_right
  apply Nat.mul_le_mul_right
  omega

theorem partOf_lt {total parts n : Nat} (positive : 0 < n) (fits : n ≤ total)
    (some : 0 < parts) : partOf total parts n < parts := by
  unfold partOf
  rw [Nat.div_lt_iff_lt_mul (by omega), Nat.mul_comm]
  apply Nat.mul_lt_mul_of_pos_left
  · omega
  · exact some

/-- The last unit falls into the last part when there is a unit for each part, and
only then. -/
theorem partOf_total {total parts : Nat} (positive : 0 < total) (some : 0 < parts) :
    partOf total parts total + 1 = parts ↔ parts ≤ total := by
  have product : (total - 1) * parts = total * parts - parts := by
    rw [Nat.sub_mul, Nat.one_mul]
  have whole : parts ≤ total * parts := Nat.le_mul_of_pos_left parts positive
  have last : partOf total parts total < parts := partOf_lt positive (Nat.le_refl _) some
  constructor
  · intro same
    have reached : (parts - 1) * total ≤ (total - 1) * parts := by
      apply (Nat.le_div_iff_mul_le positive).mp
      change parts - 1 ≤ partOf total parts total
      omega
    rw [product, Nat.sub_mul, Nat.one_mul, Nat.mul_comm parts total] at reached
    have units : total ≤ total * parts := Nat.le_mul_of_pos_right total some
    omega
  · intro enough
    have reached : parts - 1 ≤ partOf total parts total := by
      apply (Nat.le_div_iff_mul_le positive).mpr
      rw [product, Nat.sub_mul, Nat.one_mul, Nat.mul_comm parts total]
      omega
    omega

/-- The numbering rule for a fill of `n` after `filled` units were filled. -/
structure Numbered (total parts filled n index : Nat) : Prop where
  positive : 0 < filled + n
  fits : filled + n ≤ total
  completing : filled + n = total → index = partOf total parts total + 1
  inside : filled + n < total → index = partOf total parts (filled + n)
  later : filled + n < total → 0 < filled → index ≠ partOf total parts filled

/-- A completing fill has exactly one number. -/
theorem numbered_completing {total parts filled n index : Nat} (positive : 0 < total)
    (full : filled + n = total) :
    Numbered total parts filled n index ↔ index = partOf total parts total + 1 := by
  constructor
  · intro h
    exact h.completing full
  · intro h
    exact ⟨by omega, by omega, fun _ => h, fun short => by omega, fun short => by omega⟩

/-- Any other fill has the number of its part, and reaches a later part than the
fill before it. -/
theorem numbered_inside {total parts filled n index : Nat} (positive : 0 < filled + n)
    (short : filled + n < total) :
    Numbered total parts filled n index ↔ index = partOf total parts (filled + n) ∧
      (0 < filled → partOf total parts filled < partOf total parts (filled + n)) := by
  have grows : partOf total parts filled ≤ partOf total parts (filled + n) :=
    partOf_mono (Nat.le_add_right _ _)
  constructor
  · intro h
    have here := h.inside short
    refine ⟨here, fun some => ?_⟩
    have other := h.later short some
    omega
  · rintro ⟨here, moved⟩
    refine ⟨positive, by omega, fun full => by omega, fun _ => here, fun _ some => ?_⟩
    have later := moved some
    omega

def filledBy (fills : List (Nat × Nat)) : Nat := (fills.map Prod.fst).sum

/-- A sequence of fills, the newest first, each an amount and its number. -/
inductive Filling (total parts : Nat) : List (Nat × Nat) → Prop
  | nil : Filling total parts []
  | cons {fills : List (Nat × Nat)} {n index : Nat} (earlier : Filling total parts fills)
      (unfinished : filledBy fills < total)
      (numbered : Numbered total parts (filledBy fills) n index) :
      Filling total parts ((n, index) :: fills)

variable {total parts : Nat} {fills : List (Nat × Nat)}

/-- A numbered fill takes at least one unit. -/
theorem Numbered.amount_pos {done n index : Nat} (h : Numbered total parts done n index)
    (unfinished : done < total) : 0 < n := by
  rcases Nat.eq_zero_or_pos n with rfl | positive
  · have some : 0 < done := by simpa using h.positive
    have short : done + 0 < total := by omega
    exact absurd (h.inside short) (h.later short some)
  · exact positive

theorem Filling.amounts_pos (h : Filling total parts fills) : ∀ fill ∈ fills, 0 < fill.1 := by
  induction h with
  | nil => simp
  | cons _ unfinished numbered ih =>
    intro fill member
    rcases List.mem_cons.mp member with rfl | earlier
    · exact numbered.amount_pos unfinished
    · exact ih fill earlier

theorem Filling.index_le (h : Filling total parts fills) (some : 0 < parts) :
    ∀ fill ∈ fills, fill.2 ≤ parts := by
  induction h with
  | nil => simp
  | cons _ _ numbered ih =>
    intro fill member
    rcases List.mem_cons.mp member with rfl | earlier
    · have positive := numbered.positive
      rcases Nat.lt_or_eq_of_le numbered.fits with short | full
      · rw [numbered.inside short]
        exact Nat.le_of_lt (partOf_lt positive numbered.fits some)
      · rw [numbered.completing full]
        exact partOf_lt (by omega) (Nat.le_refl _) some
    · exact ih fill earlier

/-- While a total is unfinished, all numbers so far are at most the part of the
last unit filled. -/
theorem Filling.index_le_last (h : Filling total parts fills) (unfinished : filledBy fills < total) :
    ∀ fill ∈ fills, fill.2 ≤ partOf total parts (filledBy fills) := by
  induction h with
  | nil => simp
  | @cons fills n index _ started numbered ih =>
    intro fill member
    have sum : filledBy ((n, index) :: fills) = filledBy fills + n := by
      simp [filledBy, Nat.add_comm]
    rw [sum] at unfinished ⊢
    rcases List.mem_cons.mp member with rfl | earlier
    · exact Nat.le_of_eq (numbered.inside unfinished)
    · exact Nat.le_trans (ih started fill earlier) (partOf_mono (Nat.le_add_right _ _))

/-- Numbers increase strictly with the fills, the newest being the largest. -/
theorem Filling.indices_increase (h : Filling total parts fills) :
    (fills.map Prod.snd).Pairwise (· > ·) := by
  induction h with
  | nil => exact List.Pairwise.nil
  | @cons fills n index earlier started numbered ih =>
    rw [List.map_cons, List.pairwise_cons]
    refine ⟨?_, ih⟩
    intro i member
    obtain ⟨fill, inFills, rfl⟩ := List.mem_map.mp member
    have before := earlier.index_le_last started fill inFills
    have some : 0 < filledBy fills := by
      have amount := earlier.amounts_pos fill inFills
      have inSum : fill.1 ≤ filledBy fills := by
        apply List.le_sum_of_mem
        exact List.mem_map_of_mem inFills
      omega
    rcases Nat.lt_or_eq_of_le numbered.fits with short | full
    · have grows : partOf total parts (filledBy fills) ≤ partOf total parts (filledBy fills + n) :=
        partOf_mono (Nat.le_add_right _ _)
      have moved := numbered.later short some
      have reached := numbered.inside short
      omega
    · have grows : partOf total parts (filledBy fills) ≤ partOf total parts total :=
        partOf_mono (by omega)
      rw [numbered.completing full]
      omega

/-- There is one more number than there are parts, so at most that many fills. -/
theorem Filling.length_le (h : Filling total parts fills) (some : 0 < parts) :
    fills.length ≤ parts + 1 := by
  have nodup : (fills.map Prod.snd).Nodup :=
    h.indices_increase.imp (fun greater => Nat.ne_of_gt greater)
  have within : ∀ i ∈ fills.map Prod.snd, i ∈ List.range (parts + 1) := by
    intro i member
    obtain ⟨fill, inFills, rfl⟩ := List.mem_map.mp member
    rw [List.mem_range]
    exact Nat.lt_succ_of_le (h.index_le some fill inFills)
  have bound := (List.subperm_of_subset nodup within).length_le
  simpa using bound

end CrossChainEscrow.Library.Parts
