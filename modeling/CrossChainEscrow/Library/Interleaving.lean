import Mathlib.Data.List.Basic

/-!
# Interleavings of commuting steps

Two lists of steps that are merged in any order end where the one after the other
ends, when each step of the one commutes with each of the other.
-/
namespace CrossChainEscrow.Library.Steps

variable {C S E : Type}

/-- The third list merges the first two, each in its own order. -/
inductive Interleaving : List C → List C → List C → Prop where
  | nil : Interleaving [] [] []
  | left {xs ys zs : List C} (c : C) (rest : Interleaving xs ys zs) :
      Interleaving (c :: xs) ys (c :: zs)
  | right {xs ys zs : List C} (c : C) (rest : Interleaving xs ys zs) :
      Interleaving xs (c :: ys) (c :: zs)

/-- The steps in order, until one fails. -/
def runAll (step : C → S → Except E S) : List C → S → Except E S
  | [], s => .ok s
  | c :: rest, s => (step c s).bind (runAll step rest)

variable {step : C → S → Except E S} {s u : S}

theorem runAll_cons {c : C} {rest : List C} :
    runAll step (c :: rest) s = .ok u ↔ ∃ t, step c s = .ok t ∧ runAll step rest t = .ok u := by
  rw [runAll]
  cases step c s with
  | error fault => simp [Except.bind]
  | ok t => simp [Except.bind]

/-- What every step preserves, a run preserves. -/
theorem runAll_induction {R : S → S → Prop} (refl : ∀ s, R s s)
    (trans : ∀ {s t u}, R s t → R t u → R s u) {steps : List C}
    (each : ∀ c ∈ steps, ∀ s t, step c s = .ok t → R s t) (ran : runAll step steps s = .ok u) :
    R s u := by
  induction steps generalizing s with
  | nil =>
    obtain rfl := Except.ok.inj ran
    exact refl s
  | cons c rest ih =>
    obtain ⟨t, first, later⟩ := runAll_cons.mp ran
    have later := ih (fun c member => each c (List.mem_cons_of_mem _ member)) later
    exact trans (each c (List.mem_cons_self ..) s t first) later

/-- The two steps can be swapped, this one being first. -/
def Commutes (step : C → S → Except E S) (a b : C) : Prop :=
  ∀ s t u, step a s = .ok t → step b t = .ok u → ∃ t', step b s = .ok t' ∧ step a t' = .ok u

theorem swap_iff {a b : C} {rest : List C} (there : Commutes step a b) (back : Commutes step b a) :
    runAll step (a :: b :: rest) s = .ok u ↔ runAll step (b :: a :: rest) s = .ok u := by
  simp only [runAll_cons]
  constructor
  · rintro ⟨t, first, v, second, later⟩
    obtain ⟨t', first, second⟩ := there s t v first second
    exact ⟨t', first, v, second, later⟩
  · rintro ⟨t, first, v, second, later⟩
    obtain ⟨t', first, second⟩ := back s t v first second
    exact ⟨t', first, v, second, later⟩

/-- A step that commutes with a list of others may be done after them. -/
theorem delay_iff {y : C} {xs rest : List C}
    (apart : ∀ x ∈ xs, Commutes step x y ∧ Commutes step y x) :
    runAll step (y :: (xs ++ rest)) s = .ok u ↔ runAll step (xs ++ y :: rest) s = .ok u := by
  induction xs generalizing s with
  | nil => rfl
  | cons x xs ih =>
    have ⟨there, back⟩ := apart x (List.mem_cons_self ..)
    have ih := fun t => ih (s := t) fun x member => apart x (List.mem_cons_of_mem _ member)
    calc
      runAll step (y :: (x :: xs ++ rest)) s = .ok u ↔
          runAll step (x :: y :: (xs ++ rest)) s = .ok u := swap_iff back there
      _ ↔ ∃ t, step x s = .ok t ∧ runAll step (y :: (xs ++ rest)) t = .ok u := runAll_cons
      _ ↔ ∃ t, step x s = .ok t ∧ runAll step (xs ++ y :: rest) t = .ok u := by simp only [ih]
      _ ↔ runAll step (x :: xs ++ y :: rest) s = .ok u := runAll_cons.symm

/-- Every interleaving of two lists whose steps commute with each other's ends where
the one list after the other does. -/
theorem Interleaving.runAll_iff {xs ys zs : List C} (merge : Interleaving xs ys zs)
    (apart : ∀ x ∈ xs, ∀ y ∈ ys, Commutes step x y ∧ Commutes step y x) :
    runAll step zs s = .ok u ↔ runAll step (xs ++ ys) s = .ok u := by
  induction merge generalizing s with
  | nil => rfl
  | left c rest ih =>
    have ih := fun t => ih (s := t) fun x member => apart x (List.mem_cons_of_mem _ member)
    simp only [List.cons_append, runAll_cons, ih]
  | @right xs ys zs c rest ih =>
    have ih := fun t => ih (s := t) fun x left y right => apart x left y (List.mem_cons_of_mem _ right)
    calc
      runAll step (c :: zs) s = .ok u ↔ ∃ t, step c s = .ok t ∧ runAll step zs t = .ok u := runAll_cons
      _ ↔ ∃ t, step c s = .ok t ∧ runAll step (xs ++ ys) t = .ok u := by simp only [ih]
      _ ↔ runAll step (c :: (xs ++ ys)) s = .ok u := runAll_cons.symm
      _ ↔ runAll step (xs ++ c :: ys) s = .ok u :=
        delay_iff fun x member => apart x member c (List.mem_cons_self ..)

end CrossChainEscrow.Library.Steps
