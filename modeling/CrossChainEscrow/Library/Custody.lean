import CrossChainEscrow.Library.Bookkeeping

/-!
# Custody of positions

A keeper holds positions at places. A position is lodged at a vacant place on
terms it keeps for life, parts of it may be split off to vacant places, and it
leaves when it is released, with a fate. The log of these operations tells what
is held: for all terms, what was lodged is what is held and what was released,
and a place is occupied exactly when it was opened once more than it was closed.
-/
namespace CrossChainEscrow.Library.Custody
open Bookkeeping

structure Position (T : Type) where
  terms : T
  value : Nat

/-- The operations. A split that leaves no `rest` closes the place. -/
inductive Op (A T F : Type) where
  | lodge (place : A) (terms : T) (value : Nat)
  | split (place part : A) (terms : T) (value rest : Nat)
  | release (place : A) (terms : T) (value : Nat) (fate : F)

abbrev Book (A T : Type) := A → Option (Position T)

variable {A T F : Type} [DecidableEq A]

inductive Step : Book A T → Op A T F → Book A T → Prop
  | lodge {b : Book A T} {place : A} {terms : T} {value : Nat} (vacant : b place = none) :
      Step b (.lodge place terms value) (Function.update b place (some ⟨terms, value⟩))
  | split {b : Book A T} {place part : A} {terms : T} {value rest : Nat}
      (held : b place = some ⟨terms, value + rest⟩) (vacant : b part = none) :
      Step b (.split place part terms value rest)
        (Function.update (Function.update b part (some ⟨terms, value⟩)) place
          (if rest = 0 then none else some ⟨terms, rest⟩))
  | release {b : Book A T} {place : A} {terms : T} {value : Nat} {fate : F}
      (held : b place = some ⟨terms, value⟩) :
      Step b (.release place terms value fate) (Function.update b place none)

/-- The books that logs of operations lead to, the newest operation first. -/
inductive Reached : List (Op A T F) → Book A T → Prop
  | empty : Reached [] (fun _ => none)
  | step {log : List (Op A T F)} {op : Op A T F} {b b' : Book A T} (earlier : Reached log b)
      (taken : Step b op b') : Reached (op :: log) b'

/-- The places an operation is about. -/
def Op.places : Op A T F → Finset A
  | .lodge place _ _ => {place}
  | .split place part _ _ _ => {place, part}
  | .release place _ _ _ => {place}

def places : List (Op A T F) → Finset A
  | [] => ∅
  | op :: log => op.places ∪ places log

variable {log : List (Op A T F)} {b b' : Book A T} {op : Op A T F} {a : A}

/-- Only the places an operation is about change. -/
theorem Step.elsewhere (taken : Step b op b') (other : a ∉ op.places) : b' a = b a := by
  cases taken with
  | @lodge place _ _ _ =>
    have distinct : a ≠ place := by simpa [Op.places] using other
    exact Function.update_of_ne distinct _ _
  | @split place part _ _ _ _ _ =>
    have distinct : a ≠ place ∧ a ≠ part := by simpa [Op.places] using other
    rw [Function.update_of_ne distinct.1, Function.update_of_ne distinct.2]
  | @release place _ _ _ _ =>
    have distinct : a ≠ place := by simpa [Op.places] using other
    exact Function.update_of_ne distinct _ _

/-- Everything held is at a place of the log. -/
theorem Reached.placed (reached : Reached log b) (held : (b a).isSome = true) :
    a ∈ places log := by
  induction reached with
  | empty => cases held
  | @step log op b b' _ taken ih =>
    rw [places, Finset.mem_union]
    by_cases here : a ∈ op.places
    · exact Or.inl here
    · rw [taken.elsewhere here] at held
      exact Or.inr (ih held)

/-! ## Balance -/

section Balance
variable [DecidableEq T]

/-- The value held at a place on the terms `t`. -/
def worth (b : Book A T) (t : T) (a : A) : Nat :=
  match b a with
  | some position => if position.terms = t then position.value else 0
  | none => 0

omit [DecidableEq A] in
theorem worth_none {t : T} (vacant : b a = none) : worth b t a = 0 := by
  rw [worth, vacant]

omit [DecidableEq A] in
theorem worth_some {t : T} {position : Position T} (held : b a = some position) :
    worth b t a = if position.terms = t then position.value else 0 := by
  rw [worth, held]

omit [DecidableEq A] in
theorem worth_congr {t : T} (same : b' a = b a) : worth b' t a = worth b t a := by
  rw [worth, worth, same]

/-- What the operation lodges on the terms `t`. -/
def Op.lodged (t : T) : Op A T F → Nat
  | .lodge _ terms value => if terms = t then value else 0
  | _ => 0

/-- What the operation releases on the terms `t`, to the fate `f`. -/
def Op.released [DecidableEq F] (t : T) (f : F) : Op A T F → Nat
  | .release _ terms value fate => if terms = t ∧ fate = f then value else 0
  | _ => 0

def lodged (t : T) (log : List (Op A T F)) : Nat := (log.map (Op.lodged t)).sum

def released [DecidableEq F] (t : T) (f : F) (log : List (Op A T F)) : Nat :=
  (log.map (Op.released t f)).sum

/-- The entries an operation posts on the terms `t`. -/
def Op.debits (t : T) : Op A T F → List (A × Nat)
  | .split place _ terms value _ => [(place, if terms = t then value else 0)]
  | .release place terms value _ => [(place, if terms = t then value else 0)]
  | _ => []

def Op.credits (t : T) : Op A T F → List (A × Nat)
  | .lodge place terms value => [(place, if terms = t then value else 0)]
  | .split _ part terms value _ => [(part, if terms = t then value else 0)]
  | _ => []

theorem Op.entries_placed (t : T) (op : Op A T F) :
    ∀ entry ∈ op.debits t ++ op.credits t, entry.1 ∈ op.places := by
  cases op <;> simp [Op.debits, Op.credits, Op.places]

omit [DecidableEq A] in
/-- What is credited and not debited was lodged, what is debited and not credited
was released. -/
theorem Op.volumes [DecidableEq F] [Fintype F] (t : T) (op : Op A T F) :
    volume (op.credits t) + ∑ f, op.released t f = volume (op.debits t) + op.lodged t := by
  cases op with
  | lodge place terms value => simp [Op.debits, Op.credits, Op.released, Op.lodged]
  | split place part terms value rest => simp [Op.debits, Op.credits, Op.released, Op.lodged]
  | release place terms value fate =>
    by_cases same : terms = t
    · simp [Op.debits, Op.credits, Op.released, Op.lodged, same]
    · simp [Op.debits, Op.credits, Op.released, Op.lodged, same]

/-- A step posts its entries. -/
theorem Step.booked (taken : Step b op b') (t : T) :
    Booked (op.debits t) (op.credits t) (worth b t) (worth b' t) := by
  refine ⟨fun k => ?_⟩
  by_cases here : k ∈ op.places
  · cases taken with
    | @lodge place terms value vacant =>
      obtain rfl : k = place := by simpa [Op.places] using here
      rw [worth_none vacant, worth_some (Function.update_self _ _ _)]
      simp [Op.debits, Op.credits]
    | @split place part terms value rest held vacant =>
      have distinct : part ≠ place := by
        rintro rfl
        rw [vacant] at held
        cases held
      rcases Finset.mem_insert.mp here with rfl | isPart
      · -- what is left at the place
        have left : worth (Function.update (Function.update b part (some ⟨terms, value⟩)) k
            (if rest = 0 then none else some ⟨terms, rest⟩)) t k =
            if terms = t then rest else 0 := by
          rw [worth, Function.update_self]
          by_cases ended : rest = 0
          · simp [ended]
          · simp [ended]
        rw [left, worth_some held]
        by_cases same : terms = t
        · simp [Op.debits, Op.credits, same, Ne.symm distinct]
          omega
        · simp [Op.debits, Op.credits, same]
      · obtain rfl := Finset.mem_singleton.mp isPart
        have opened : Function.update (Function.update b k (some (⟨terms, value⟩ : Position T))) place
            (if rest = 0 then none else some ⟨terms, rest⟩) k = some ⟨terms, value⟩ := by
          rw [Function.update_of_ne distinct, Function.update_self]
        rw [worth_none vacant, worth_some opened]
        simp [Op.debits, Op.credits, distinct]
    | @release place terms value fate held =>
      obtain rfl : k = place := by simpa [Op.places] using here
      rw [worth_some held, worth_none (Function.update_self _ _ _)]
      simp [Op.debits, Op.credits]
  · have outside : ∀ entries : List (A × Nat), (∀ entry ∈ entries, entry.1 ∈ op.places) →
        posted entries k = 0 := by
      intro entries inside
      induction entries with
      | nil => rfl
      | cons entry rest ih =>
        have other : k ≠ entry.1 := fun same => here (same ▸ inside entry (by simp))
        rw [posted_cons, if_neg other, ih (fun e member => inside e (by simp [member]))]
    have entries := op.entries_placed t
    rw [worth_congr (taken.elsewhere here),
      outside _ (fun e member => entries e (List.mem_append_left _ member)),
      outside _ (fun e member => entries e (List.mem_append_right _ member))]

/-- What was lodged on some terms is held or was released. -/
theorem Reached.balance [DecidableEq F] [Fintype F] (reached : Reached log b) (t : T) {S : Finset A}
    (covers : places log ⊆ S) :
    lodged t log = ∑ a ∈ S, worth b t a + ∑ f, released t f log := by
  induction reached with
  | empty => simp [lodged, released, worth]
  | @step log op b b' _ taken ih =>
    obtain ⟨here, before⟩ := Finset.union_subset_iff.mp covers
    have total := (taken.booked t).total (fun e member => here (op.entries_placed t e member))
    have volumes := op.volumes t
    have earlier := ih before
    have sums : ∑ f, released t f (op :: log) = ∑ f, op.released t f + ∑ f, released t f log :=
      Finset.sum_add_distrib
    have deposits : lodged t (op :: log) = op.lodged t + lodged t log := rfl
    omega

end Balance

/-! ## Occupation -/

/-- The operation opens the place. -/
def Op.opens (a : A) : Op A T F → Bool
  | .lodge place _ _ => decide (place = a)
  | .split _ part _ _ _ => decide (part = a)
  | .release _ _ _ _ => false

/-- The operation closes the place. -/
def Op.closes (a : A) : Op A T F → Bool
  | .lodge _ _ _ => false
  | .split place _ _ _ rest => decide (place = a ∧ rest = 0)
  | .release place _ _ _ => decide (place = a)

/-- A step turns a place it opens from vacant to occupied, one it closes from
occupied to vacant, and leaves the occupation of all others. -/
theorem Step.occupation (taken : Step b op b') (a : A) :
    (op.opens a = true ∧ op.closes a = false ∧ b a = none ∧ (b' a).isSome = true) ∨
      (op.opens a = false ∧ op.closes a = true ∧ (b a).isSome = true ∧ b' a = none) ∨
      (op.opens a = false ∧ op.closes a = false ∧ (b' a).isSome = (b a).isSome) := by
  cases taken with
  | @lodge place terms value vacant =>
    by_cases same : a = place
    · subst same
      exact Or.inl ⟨by simp [Op.opens], rfl, vacant, by simp⟩
    · exact Or.inr (Or.inr ⟨by simp [Op.opens, Ne.symm same], rfl, by simp [same]⟩)
  | @split place part terms value rest held vacant =>
    have distinct : part ≠ place := by
      rintro rfl
      rw [vacant] at held
      cases held
    by_cases isPart : a = part
    · subst isPart
      exact Or.inl ⟨by simp [Op.opens], by simp [Op.closes, Ne.symm distinct], vacant,
        by simp [distinct]⟩
    · by_cases isPlace : a = place
      · subst isPlace
        by_cases ended : rest = 0
        · exact Or.inr (Or.inl ⟨by simp [Op.opens, distinct], by simp [Op.closes, ended],
            by simp [held], by simp [ended]⟩)
        · exact Or.inr (Or.inr ⟨by simp [Op.opens, distinct], by simp [Op.closes, ended],
            by simp [held, ended]⟩)
      · exact Or.inr (Or.inr ⟨by simp [Op.opens, Ne.symm isPart],
          by simp [Op.closes, Ne.symm isPlace], by simp [isPlace, isPart]⟩)
  | @release place terms value fate held =>
    by_cases same : a = place
    · subst same
      exact Or.inr (Or.inl ⟨rfl, by simp [Op.closes], by simp [held], by simp⟩)
    · exact Or.inr (Or.inr ⟨rfl, by simp [Op.closes, Ne.symm same], by simp [same]⟩)

/-- A place was opened as often as it was closed, and once more if it is occupied. -/
theorem Reached.alternates (reached : Reached log b) (a : A) :
    log.countP (Op.opens a) = log.countP (Op.closes a) + if (b a).isSome then 1 else 0 := by
  induction reached with
  | empty => simp
  | @step log op b b' _ taken ih =>
    rw [List.countP_cons, List.countP_cons, ih]
    rcases taken.occupation a with ⟨opens, closes, before, after⟩ |
      ⟨opens, closes, before, after⟩ | ⟨opens, closes, same⟩
    · simp [opens, closes, before, after]
    · simp [opens, closes, before, after]
    · simp [opens, closes, same]

end CrossChainEscrow.Library.Custody
