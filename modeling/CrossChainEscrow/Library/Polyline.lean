import Mathlib.Algebra.Order.Ring.Nat
import Mathlib.Data.List.Chain
import Mathlib.Tactic.Ring

/-!
# Lines with rounded values

A line starts at a value and a time, runs straight from vertex to vertex, each
given by its value and its distance in time from the last, and from the last
vertex falls to zero at a final time. Values in between are rounded down. When no
vertex is above the one before it, the rounded values never rise, whatever the
distances are: zero, or past the final time. A ramp is the single stretch that
rises from zero, and its rounded values never fall.
-/
namespace CrossChainEscrow.Library.Polyline

/-- The value at `t`, `left` before the end of a stretch that began at `value`
`elapsed` ago and ends at `next`. -/
def between (elapsed left value next : Nat) : Nat :=
  (elapsed * next + left * value) / (elapsed + left)

theorem between_le {elapsed left value next : Nat} (falls : next ≤ value) :
    between elapsed left value next ≤ value := by
  unfold between
  apply Nat.div_le_of_le_mul
  calc elapsed * next + left * value
      ≤ elapsed * value + left * value := Nat.add_le_add_right (Nat.mul_le_mul_left _ falls) _
    _ = (elapsed + left) * value := by ring

theorem le_between {elapsed left value next : Nat} (falls : next ≤ value)
    (some : 0 < elapsed + left) : next ≤ between elapsed left value next := by
  unfold between
  rw [Nat.le_div_iff_mul_le some]
  calc next * (elapsed + left) = elapsed * next + left * next := by ring
    _ ≤ elapsed * next + left * value := Nat.add_le_add_left (Nat.mul_le_mul_left _ falls) _

/-- Later on the same stretch the value is no higher. -/
theorem between_anti (elapsed left n : Nat) {value next : Nat} (falls : next ≤ value) :
    between (elapsed + n) left value next ≤ between elapsed (left + n) value next := by
  unfold between
  rw [show elapsed + n + left = elapsed + (left + n) by omega]
  apply Nat.div_le_div_right
  calc (elapsed + n) * next + left * value
      = elapsed * next + left * value + n * next := by ring
    _ ≤ elapsed * next + left * value + n * value :=
        Nat.add_le_add_left (Nat.mul_le_mul_left _ falls) _
    _ = elapsed * next + (left + n) * value := by ring

/-- The value at `t` of the line that is at `value` at time `start` and has the
vertices `rest` ahead. -/
def valueAt (finish t : Nat) : List (Nat × Nat) → Nat → Nat → Nat
  | [], value, start => between (t - start) (finish - t) value 0
  | (next, delta) :: rest, value, start =>
    if t ≤ start + delta then between (t - start) (start + delta - t) value next
    else valueAt finish t rest next (start + delta)

/-- The vertices do not rise. -/
abbrev Falling (value : Nat) (points : List (Nat × Nat)) : Prop :=
  List.IsChain (· ≥ ·) (value :: points.map Prod.fst)

variable {finish t t' value start : Nat} {points : List (Nat × Nat)}

theorem valueAt_le (falling : Falling value points) : valueAt finish t points value start ≤ value := by
  induction points generalizing value start with
  | nil => exact between_le (Nat.zero_le _)
  | cons point rest ih =>
    obtain ⟨next, delta⟩ := point
    have chain := List.isChain_cons_cons.mp falling
    have falls : next ≤ value := chain.1
    unfold valueAt
    split
    · exact between_le falls
    · exact Nat.le_trans (ih chain.2) falls

/-- Between its start and its final time the line never rises. -/
theorem valueAt_anti (falling : Falling value points) (began : start < t) (ordered : t ≤ t')
    (running : t' < finish) :
    valueAt finish t' points value start ≤ valueAt finish t points value start := by
  induction points generalizing value start with
  | nil =>
    have moved := between_anti (t - start) (finish - t') (t' - t) (Nat.zero_le value)
    rw [show t - start + (t' - t) = t' - start by omega,
      show finish - t' + (t' - t) = finish - t by omega] at moved
    exact moved
  | cons point rest ih =>
    obtain ⟨next, delta⟩ := point
    have chain := List.isChain_cons_cons.mp falling
    have falls : next ≤ value := chain.1
    unfold valueAt
    by_cases first : t ≤ start + delta
    · rw [if_pos first]
      by_cases second : t' ≤ start + delta
      · -- both times on this stretch
        rw [if_pos second]
        have moved := between_anti (t - start) (start + delta - t') (t' - t) falls
        rw [show t - start + (t' - t) = t' - start by omega,
          show start + delta - t' + (t' - t) = start + delta - t by omega] at moved
        exact moved
      · -- the vertex lies between the two times
        rw [if_neg second]
        exact Nat.le_trans (valueAt_le chain.2) (le_between falls (by omega))
    · rw [if_neg first, if_neg (by omega)]
      exact ih chain.2 (by omega)

/-- The whole course: the initial value until the start, zero from the end on. -/
def course (start duration initial : Nat) (points : List (Nat × Nat)) (t : Nat) : Nat :=
  if t ≤ start then initial
  else if start + duration ≤ t then 0
  else valueAt (start + duration) t points initial start

theorem course_le {duration initial : Nat} (falling : Falling initial points) :
    course start duration initial points t ≤ initial := by
  unfold course
  split
  · exact Nat.le_refl _
  · split
    · exact Nat.zero_le _
    · exact valueAt_le falling

/-- A course whose vertices do not rise never rises. -/
theorem course_anti {duration initial : Nat} (falling : Falling initial points)
    (ordered : t ≤ t') :
    course start duration initial points t' ≤ course start duration initial points t := by
  by_cases early : t ≤ start
  · have whole : course start duration initial points t = initial := if_pos early
    rw [whole]
    exact course_le falling
  · unfold course
    rw [if_neg early, if_neg (by omega)]
    by_cases ended : start + duration ≤ t'
    · rw [if_pos ended]
      exact Nat.zero_le _
    · rw [if_neg ended, if_neg (by omega)]
      exact valueAt_anti falling (by omega) ordered (by omega)

/-! ## Rising ramps -/

/-- Zero until the start, `top` from the end on and rounded down in between. -/
def ramp (start duration top t : Nat) : Nat :=
  if t ≤ start then 0
  else if duration ≤ t - start then top
  else (t - start) * top / duration

theorem ramp_le (start duration top t : Nat) : ramp start duration top t ≤ top := by
  unfold ramp
  split
  · exact Nat.zero_le _
  · split
    · exact Nat.le_refl _
    · next running =>
      apply Nat.div_le_of_le_mul
      exact Nat.mul_le_mul_right _ (by omega)

theorem ramp_mono (start duration top : Nat) (ordered : t ≤ t') :
    ramp start duration top t ≤ ramp start duration top t' := by
  by_cases early : t ≤ start
  · rw [ramp, if_pos early]
    exact Nat.zero_le _
  · by_cases ended : duration ≤ t' - start
    · have full : ramp start duration top t' = top := by
        rw [ramp, if_neg (by omega), if_pos ended]
      rw [full]
      exact ramp_le _ _ _ _
    · -- both times lie on the slope
      unfold ramp
      rw [if_neg early, if_neg (by omega), if_neg (by omega), if_neg ended]
      apply Nat.div_le_div_right
      exact Nat.mul_le_mul_right _ (by omega)

end CrossChainEscrow.Library.Polyline
