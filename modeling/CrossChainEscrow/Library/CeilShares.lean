import Mathlib.Algebra.Order.BigOperators.Group.List
import Mathlib.Algebra.Order.Field.Rat
import Mathlib.Algebra.Order.Floor.Div
import Mathlib.GroupTheory.GroupAction.Ring
import Mathlib.Tactic.FieldSimp
import Mathlib.Tactic.Linarith
import Mathlib.Tactic.Ring

/-!
# Shares rounded up twice

A part of a whole receives its share of a total, rounded up, and then a premium
on it, rounded up again. Each record lies within less than two units and the
premium of one unit above the exact value, and the records of parts that make up
the whole add up to at least what the whole would receive at the least premium.
-/
namespace CrossChainEscrow.Library.CeilShares

/-- The record of `part` of `whole`: its share of `total` with the premium
`bump / base`. -/
def scaledShare (total whole base part bump : Nat) : Nat :=
  ((total * part) ⌈/⌉ whole * (base + bump)) ⌈/⌉ base

variable {total whole base part bump : Nat}

theorem le_mul_ceilDiv {n d : Nat} (positive : 0 < d) : n ≤ (n ⌈/⌉ d) * d := by
  have bound : n ≤ d * (n ⌈/⌉ d) := (ceilDiv_le_iff_le_mul positive).mp (Nat.le_refl _)
  rwa [Nat.mul_comm] at bound

theorem ceilDiv_mul_lt {n d : Nat} (positive : 0 < d) : (n ⌈/⌉ d) * d < n + d := by
  rw [Nat.ceilDiv_eq_add_pred_div]
  have floor := Nat.div_mul_le_self (n + d - 1) d
  omega

/-- The record is at least the exact value. -/
theorem scaledShare_lower (total part bump : Nat) (wholePos : 0 < whole) (basePos : 0 < base) :
    total * part * (base + bump) ≤ scaledShare total whole base part bump * (whole * base) := by
  calc total * part * (base + bump)
      ≤ ((total * part) ⌈/⌉ whole * whole) * (base + bump) :=
        Nat.mul_le_mul_right _ (le_mul_ceilDiv wholePos)
    _ = ((total * part) ⌈/⌉ whole * (base + bump)) * whole := by ring
    _ ≤ (scaledShare total whole base part bump * base) * whole :=
        Nat.mul_le_mul_right _ (le_mul_ceilDiv basePos)
    _ = scaledShare total whole base part bump * (whole * base) := by ring

/-- The record stays below the exact value and two units with one premium. -/
theorem scaledShare_upper (total part bump : Nat) (wholePos : 0 < whole) (basePos : 0 < base) :
    scaledShare total whole base part bump * (whole * base) <
      total * part * (base + bump) + whole * (base + bump) + whole * base := by
  calc scaledShare total whole base part bump * (whole * base)
      = (scaledShare total whole base part bump * base) * whole := by ring
    _ < ((total * part) ⌈/⌉ whole * (base + bump) + base) * whole :=
        Nat.mul_lt_mul_of_pos_right (ceilDiv_mul_lt basePos) wholePos
    _ = ((total * part) ⌈/⌉ whole * whole) * (base + bump) + whole * base := by ring
    _ ≤ (total * part + whole) * (base + bump) + whole * base :=
        Nat.add_le_add_right (Nat.mul_le_mul_right _ (ceilDiv_mul_lt wholePos).le) _
    _ = total * part * (base + bump) + whole * (base + bump) + whole * base := by ring

/-- Both bounds, as rational numbers. -/
theorem scaledShare_bounds (total part bump : Nat) (wholePos : 0 < whole) (basePos : 0 < base) :
    (total * part * (base + bump) / (whole * base) : ℚ) ≤ scaledShare total whole base part bump ∧
      (scaledShare total whole base part bump : ℚ) <
        total * part * (base + bump) / (whole * base) + 2 + bump / base := by
  have wholeQ : (0 : ℚ) < whole := by exact_mod_cast wholePos
  have baseQ : (0 : ℚ) < base := by exact_mod_cast basePos
  have productQ : (0 : ℚ) < whole * base := mul_pos wholeQ baseQ
  have lower : (total * part * (base + bump) : ℚ) ≤
      scaledShare total whole base part bump * (whole * base) := by
    exact_mod_cast scaledShare_lower total part bump wholePos basePos
  have upper : (scaledShare total whole base part bump * (whole * base) : ℚ) <
      total * part * (base + bump) + whole * (base + bump) + whole * base := by
    exact_mod_cast scaledShare_upper total part bump wholePos basePos
  constructor
  · exact (div_le_iff₀ productQ).mpr lower
  · have exact_value : (total * part * (base + bump) / (whole * base) + 2 + bump / base : ℚ) =
        (total * part * (base + bump) + whole * (base + bump) + whole * base) / (whole * base) := by
      field_simp
      ring
    rw [exact_value]
    exact (lt_div_iff₀ productQ).mpr upper

/-- The records of parts of a whole reach what the whole receives at a premium
that none of theirs is below. -/
theorem scaledShare_sum (wholePos : 0 < whole) (basePos : 0 < base) (parts : List (Nat × Nat))
    (sum : (parts.map Prod.fst).sum = whole) (least : Nat) (above : ∀ p ∈ parts, least ≤ p.2) :
    (total * (base + least)) ⌈/⌉ base ≤
      (parts.map (fun p => scaledShare total whole base p.1 p.2)).sum := by
  have records : total * (base + least) * (parts.map Prod.fst).sum ≤
      (parts.map (fun p => scaledShare total whole base p.1 p.2)).sum * (whole * base) := by
    clear sum
    induction parts with
    | nil => simp
    | cons p parts ih =>
      have rest := ih (fun q member => above q (List.mem_cons_of_mem _ member))
      have first := scaledShare_lower total p.1 p.2 wholePos basePos
      have grown : total * (base + least) * p.1 ≤ total * p.1 * (base + p.2) := by
        have premium := above p (by simp)
        calc total * (base + least) * p.1 = total * p.1 * (base + least) := by ring
          _ ≤ total * p.1 * (base + p.2) := Nat.mul_le_mul_left _ (by omega)
      simp only [List.map_cons, List.sum_cons, Nat.mul_add, Nat.add_mul] at *
      omega
  rw [sum] at records
  have cancelled : total * (base + least) ≤
      base * (parts.map (fun p => scaledShare total whole base p.1 p.2)).sum := by
    apply Nat.le_of_mul_le_mul_right _ wholePos
    calc total * (base + least) * whole ≤ _ := records
      _ = base * (parts.map (fun p => scaledShare total whole base p.1 p.2)).sum * whole := by ring
  exact (ceilDiv_le_iff_le_mul basePos).mpr cancelled

/-- A premium never lowers a total. -/
theorem le_premium (basePos : 0 < base) : total ≤ (total * (base + bump)) ⌈/⌉ base := by
  have bound := le_mul_ceilDiv (n := total * (base + bump)) basePos
  have grown : total * base ≤ total * (base + bump) := Nat.mul_le_mul_left _ (by omega)
  exact Nat.le_of_mul_le_mul_right (Nat.le_trans grown bound) basePos

end CrossChainEscrow.Library.CeilShares
