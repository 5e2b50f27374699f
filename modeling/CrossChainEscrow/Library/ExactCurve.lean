import CrossChainEscrow.Library.Polyline
import Mathlib.Data.Rat.Floor
import Mathlib.Tactic.FieldSimp
import Mathlib.Tactic.Ring

/-!
# The exact curve behind the rounded line

Over the rationals, with the vertices placed by the sums of their distances: the
first vertex at or after a time ends the segment that the time lies on. Between
its start and its end the rounded line is the floor of this curve.
-/
namespace CrossChainEscrow.Library.Polyline

/-- The line through `(x, y)` and `(x', y')`. -/
def line (x y x' y' t : ℚ) : ℚ := y + (y' - y) * (t - x) / (x' - x)

/-- A stretch of the rounded line is the floor of a straight line. -/
theorem floor_line {x x' t : Nat} (y y' : Nat) (began : x < t) (running : t ≤ x') :
    ⌊line x y x' y' t⌋ = (between (t - x) (x' - t) y y' : ℤ) := by
  have wide : (x' : ℚ) - x ≠ 0 := by
    have apart : (x : ℚ) < x' := Nat.cast_lt.mpr (by omega)
    exact sub_ne_zero.mpr apart.ne'
  have quotient : line x y x' y' t =
      (((t - x) * y' + (x' - t) * y : Nat) : ℚ) / ((t - x + (x' - t) : Nat) : ℚ) := by
    have span : t - x + (x' - t) = x' - x := by omega
    rw [span, line]
    push_cast [Nat.cast_sub began.le, Nat.cast_sub running, Nat.cast_sub (began.le.trans running)]
    field_simp
    ring
  rw [quotient, Rat.floor_natCast_div_natCast, between]
  rfl

/-! ## Vertices -/

/-- Vertex `j` lies the first `j` distances after the start. -/
def vertexTime (start : Nat) (points : List (Nat × Nat)) (j : Nat) : Nat :=
  start + ((points.take j).map Prod.snd).sum

/-- The values of the vertices, the initial value first. -/
def vertexValue (value : Nat) (points : List (Nat × Nat)) (j : Nat) : Nat :=
  (value :: points.map Prod.fst).getD j 0

/-- The segment whose end is the first vertex at or after `t`. -/
def segment (start t : Nat) (points : List (Nat × Nat)) : Option Nat :=
  (List.range points.length).find? (fun j => t ≤ vertexTime start points (j + 1))

/-- The curve between the start and the final time. -/
def exactAt (finish t : Nat) (points : List (Nat × Nat)) (value start : Nat) : ℚ :=
  match segment start t points with
  | some j => line (vertexTime start points j) (vertexValue value points j)
      (vertexTime start points (j + 1)) (vertexValue value points (j + 1)) t
  | none => line (vertexTime start points points.length)
      (vertexValue value points points.length) finish 0 t

/-- The whole curve. -/
def curve (start duration initial : Nat) (points : List (Nat × Nat)) (t : Nat) : ℚ :=
  if t ≤ start then initial
  else if start + duration ≤ t then 0
  else exactAt (start + duration) t points initial start

@[simp] theorem vertexTime_zero (start : Nat) (points : List (Nat × Nat)) :
    vertexTime start points 0 = start := by
  simp [vertexTime]

@[simp] theorem vertexTime_cons (start next delta : Nat) (rest : List (Nat × Nat)) (j : Nat) :
    vertexTime start ((next, delta) :: rest) (j + 1) = vertexTime (start + delta) rest j := by
  simp [vertexTime, Nat.add_assoc]

@[simp] theorem vertexValue_zero (value : Nat) (points : List (Nat × Nat)) :
    vertexValue value points 0 = value := by
  simp [vertexValue]

@[simp] theorem vertexValue_cons (value next delta : Nat) (rest : List (Nat × Nat)) (j : Nat) :
    vertexValue value ((next, delta) :: rest) (j + 1) = vertexValue next rest j := by
  simp [vertexValue]

/-- The first segment ends at or after `t`, or the search goes on behind it. -/
theorem segment_cons (start t next delta : Nat) (rest : List (Nat × Nat)) :
    segment start t ((next, delta) :: rest) =
      if t ≤ start + delta then some 0 else (segment (start + delta) t rest).map Nat.succ := by
  unfold segment
  rw [List.length_cons, List.range_succ_eq_map, List.find?_cons, List.find?_map]
  by_cases here : t ≤ start + delta
  · simp [here]
  · have later : ((fun j => decide (t ≤ vertexTime start ((next, delta) :: rest) (j + 1))) ∘
        Nat.succ) = fun j => decide (t ≤ vertexTime (start + delta) rest (j + 1)) := by
      funext j
      simp
    rw [later, if_neg here]
    simp [here]

/-- Without points the curve falls straight to zero. -/
theorem exactAt_nil (finish t value start : Nat) :
    exactAt finish t [] value start = line start value finish 0 t := by
  simp [exactAt, segment]

/-- Behind its first vertex the curve is that of the remaining points. -/
theorem exactAt_cons (finish t next delta : Nat) (rest : List (Nat × Nat)) (value start : Nat) :
    exactAt finish t ((next, delta) :: rest) value start =
      if t ≤ start + delta then line start value (start + delta : Nat) next t
      else exactAt finish t rest next (start + delta) := by
  unfold exactAt
  rw [segment_cons]
  by_cases here : t ≤ start + delta
  · simp [here]
  · rw [if_neg here, if_neg here]
    cases segment (start + delta) t rest with
    | none => simp
    | some j => simp

variable {finish t value start : Nat} {points : List (Nat × Nat)}

/-- Between the start and the final time the rounded line is the floor. -/
theorem valueAt_floor (began : start < t) (running : t < finish) :
    (valueAt finish t points value start : ℤ) = ⌊exactAt finish t points value start⌋ := by
  induction points generalizing value start with
  | nil =>
    have straight := floor_line value 0 began running.le
    rw [exactAt_nil, valueAt, ← straight, Nat.cast_zero]
  | cons point rest ih =>
    obtain ⟨next, delta⟩ := point
    rw [exactAt_cons, valueAt]
    by_cases here : t ≤ start + delta
    · rw [if_pos here, if_pos here, floor_line value next began here]
    · rw [if_neg here, if_neg here]
      exact ih (by omega)

/-- The rounded course is the floor of the curve at every time. -/
theorem course_floor (start duration initial : Nat) (points : List (Nat × Nat)) (t : Nat) :
    (course start duration initial points t : ℤ) = ⌊curve start duration initial points t⌋ := by
  unfold course curve
  by_cases early : t ≤ start
  · rw [if_pos early, if_pos early, Int.floor_natCast]
  · rw [if_neg early, if_neg early]
    by_cases ended : start + duration ≤ t
    · rw [if_pos ended, if_pos ended, Int.floor_zero, Nat.cast_zero]
    · rw [if_neg ended, if_neg ended]
      exact valueAt_floor (by omega) (by omega)

/-! ## The largest value -/

theorem between_le_max (elapsed left value next : Nat) :
    between elapsed left value next ≤ value ∨ between elapsed left value next ≤ next := by
  rcases Nat.le_total next value with falls | rises
  · exact Or.inl (between_le falls)
  · right
    unfold between
    apply Nat.div_le_of_le_mul
    calc elapsed * next + left * value
        ≤ elapsed * next + left * next := Nat.add_le_add_left (Nat.mul_le_mul_left _ rises) _
      _ = (elapsed + left) * next := by ring

/-- The rounded line is nowhere above all of its values. -/
theorem valueAt_bounded (finish t : Nat) (points : List (Nat × Nat)) (value start : Nat) :
    ∃ v ∈ value :: points.map Prod.fst, valueAt finish t points value start ≤ v := by
  induction points generalizing value start with
  | nil => exact ⟨value, List.mem_singleton.mpr rfl, between_le (Nat.zero_le value)⟩
  | cons point rest ih =>
    obtain ⟨next, delta⟩ := point
    unfold valueAt
    split
    · rcases between_le_max (t - start) (start + delta - t) value next with below | below
      · exact ⟨value, by simp, below⟩
      · exact ⟨next, by simp, below⟩
    · obtain ⟨v, member, below⟩ := ih next (start + delta)
      exact ⟨v, List.mem_cons_of_mem _ member, below⟩

theorem course_bounded (start duration initial : Nat) (points : List (Nat × Nat)) (t : Nat) :
    ∃ v ∈ initial :: points.map Prod.fst, course start duration initial points t ≤ v := by
  unfold course
  split
  · exact ⟨initial, List.mem_cons_self, Nat.le_refl _⟩
  · split
    · exact ⟨initial, List.mem_cons_self, Nat.zero_le _⟩
    · exact valueAt_bounded _ _ _ _ _

end CrossChainEscrow.Library.Polyline
