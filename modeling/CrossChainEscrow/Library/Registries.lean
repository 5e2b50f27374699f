import Mathlib.Data.Finset.Insert
import Mathlib.Data.Finset.Erase

/-!
# Registries with one authority

One key at a time has the authority to enrol and dismiss members and to appoint
its successor. The registry after a log of operations can be read off the log:
the authority is the one the latest change of authority left, a member is in when
the latest operation on it enrolled it.
-/
namespace CrossChainEscrow.Library.Registries

/-- The operations, each with the key that signed it. -/
inductive Op (A P : Type) where
  | establish (signer : A)
  | enrol (signer : A) (member : P)
  | dismiss (signer : A) (member : P)
  | appoint (signer successor : A)

structure Registry (A P : Type) where
  authority : Option A
  members : Finset P

variable {A P : Type}

namespace Op

def signer : Op A P → A
  | .establish signer => signer
  | .enrol signer _ => signer
  | .dismiss signer _ => signer
  | .appoint signer _ => signer

def establishes : Op A P → Bool
  | .establish _ => true
  | _ => false

/-- The authority that the operation leaves, when it changes it. -/
def leaves : Op A P → Option A
  | .establish signer => some signer
  | .appoint _ successor => some successor
  | _ => none

/-- Whether the member is in after the operation, when it is about the member. -/
def decides [DecidableEq P] (member : P) : Op A P → Option Bool
  | .enrol _ p => if p = member then some true else none
  | .dismiss _ p => if p = member then some false else none
  | _ => none

end Op

/-- The key that holds the authority after a log, the newest operation first. -/
def holder (log : List (Op A P)) : Option A := log.findSome? Op.leaves

variable [DecidableEq P]

/-- The latest operation about the member enrolled it. -/
def Enrolled (member : P) (log : List (Op A P)) : Prop :=
  log.findSome? (Op.decides member) = some true

instance (member : P) (log : List (Op A P)) : Decidable (Enrolled member log) := by
  unfold Enrolled
  infer_instance

/-- Establishing needs an unclaimed registry, everything else the signature of
the authority. -/
inductive Step : Registry A P → Op A P → Registry A P → Prop
  | establish {signer : A} {members : Finset P} :
      Step ⟨none, members⟩ (.establish signer) ⟨some signer, members⟩
  | enrol {signer : A} {members : Finset P} {p : P} (fresh : p ∉ members) :
      Step ⟨some signer, members⟩ (.enrol signer p) ⟨some signer, insert p members⟩
  | dismiss {signer : A} {members : Finset P} {p : P} (enrolled : p ∈ members) :
      Step ⟨some signer, members⟩ (.dismiss signer p) ⟨some signer, members.erase p⟩
  | appoint {signer successor : A} {members : Finset P} :
      Step ⟨some signer, members⟩ (.appoint signer successor) ⟨some successor, members⟩

/-- The registries that logs of operations lead to. -/
inductive Reached : List (Op A P) → Registry A P → Prop
  | empty : Reached [] ⟨none, ∅⟩
  | step {log : List (Op A P)} {op : Op A P} {r r' : Registry A P} (earlier : Reached log r)
      (taken : Step r op r') : Reached (op :: log) r'

variable {log : List (Op A P)} {r : Registry A P}

theorem Reached.authority_eq (reached : Reached log r) : r.authority = holder log := by
  unfold holder
  induction reached with
  | empty => rfl
  | step _ taken ih =>
    rw [List.findSome?_cons]
    cases taken with
    | establish => rfl
    | enrol _ => exact ih
    | dismiss _ => exact ih
    | appoint => rfl

theorem Reached.mem_members (reached : Reached log r) (member : P) :
    member ∈ r.members ↔ Enrolled member log := by
  unfold Enrolled
  induction reached with
  | empty => simp
  | step _ taken ih =>
    rw [List.findSome?_cons]
    cases taken with
    | establish => exact ih
    | @enrol _ _ p _ =>
      by_cases same : p = member
      · simp [Op.decides, same]
      · have other : member ≠ p := fun equal => same equal.symm
        simpa [Op.decides, same, other] using ih
    | @dismiss _ _ p _ =>
      by_cases same : p = member
      · simp [Op.decides, same]
      · have other : member ≠ p := fun equal => same equal.symm
        simpa [Op.decides, same, other] using ih
    | appoint => exact ih

/-- Every operation but the establishing one is signed by the authority of its
time. -/
theorem Reached.signed (reached : Reached log r) {op : Op A P} {earlier : List (Op A P)}
    (suffix : op :: earlier <:+ log) (other : op.establishes = false) :
    holder earlier = some op.signer := by
  induction reached with
  | empty => simp at suffix
  | step before taken ih =>
    rcases List.suffix_cons_iff.mp suffix with newest | older
    · obtain ⟨rfl, rfl⟩ := List.cons.inj newest
      rw [← before.authority_eq]
      cases taken with
      | establish => cases other
      | enrol _ => rfl
      | dismiss _ => rfl
      | appoint => rfl
    · exact ih older

/-- An unclaimed registry was never established, a claimed one once. -/
theorem Reached.established (reached : Reached log r) :
    log.countP Op.establishes = if r.authority.isSome then 1 else 0 := by
  induction reached with
  | empty => rfl
  | step _ taken ih =>
    rw [List.countP_cons, ih]
    cases taken with
    | establish => rfl
    | enrol _ => rfl
    | dismiss _ => rfl
    | appoint => rfl

end CrossChainEscrow.Library.Registries
