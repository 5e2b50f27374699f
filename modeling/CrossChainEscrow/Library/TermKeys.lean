import CrossChainEscrow.Library.Accounts

/-!
# Keys as terms

The free model of address derivation: a derived address is the term of its
program, its seeds and its bump, so no two derivations agree and no atom is
derived. The assumptions on derivation are consistent because this host meets
them, and runs over it can be evaluated.
-/
namespace CrossChainEscrow.Library.Accounts
open Bytes

inductive Term where
  | atom (n : Nat)
  | node (left right : Term)
  deriving DecidableEq, Repr

namespace Term

def ofSeed : Byte ⊕ Term → Term
  | .inl byte => .atom byte.val
  | .inr key => .node key (.atom 0)

def ofSeeds : Seeds Term → Term
  | [] => .atom 0
  | seed :: seeds => .node (ofSeed seed) (ofSeeds seeds)

/-- The address of a derivation. -/
def derive (program : Term) (seeds : Seeds Term) (bump : Byte) : Term :=
  .node program (ofSeeds (seeds ++ [Sum.inl bump]))

theorem ofSeed_injective : Function.Injective ofSeed := by
  intro first second same
  cases first with
  | inl a =>
    cases second with
    | inl b =>
      have values : a.val = b.val := by simpa [ofSeed] using same
      rw [Fin.ext values]
    | inr key => cases same
  | inr key =>
    cases second with
    | inl b => cases same
    | inr other =>
      have keys : key = other := by simpa [ofSeed] using same
      rw [keys]

theorem ofSeeds_injective : Function.Injective ofSeeds := by
  intro first
  induction first with
  | nil =>
    intro second same
    cases second with
    | nil => rfl
    | cons seed seeds => cases same
  | cons seed seeds ih =>
    intro second same
    cases second with
    | nil => cases same
    | cons other others =>
      simp only [ofSeeds, node.injEq] at same
      rw [ofSeed_injective same.1, ih same.2]

theorem derive_ne_atom (program : Term) (seeds : Seeds Term) (bump : Byte) (n : Nat) :
    derive program seeds bump ≠ .atom n := by
  intro same
  cases same

end Term

/-- A host whose keys are terms. The search finds the highest bump at once. -/
def termHost (associatedTokenProgram : Term) (tokenProgramKey : TokenProgram → Term)
    (injective : Function.Injective tokenProgramKey) (mintProgram : Term → Option TokenProgram)
    (nativeMint : TokenProgram → Term) (tokenAccountLen : Term → Nat)
    (minimumBalance : Nat → Nat) : Host Term where
  findProgramAddress program seeds := (Term.derive program seeds 255, 255)
  createProgramAddress program seeds bump := some (Term.derive program seeds bump)
  find_create _ _ := rfl
  associatedTokenProgram := associatedTokenProgram
  tokenProgramKey := tokenProgramKey
  tokenProgramKey_injective := injective
  mintProgram := mintProgram
  nativeMint := nativeMint
  tokenAccountLen := tokenAccountLen
  minimumBalance := minimumBalance

theorem termHost_collisionFree {associatedTokenProgram : Term}
    {tokenProgramKey : TokenProgram → Term} {injective : Function.Injective tokenProgramKey}
    {mintProgram : Term → Option TokenProgram} {nativeMint : TokenProgram → Term}
    {tokenAccountLen : Term → Nat} {minimumBalance : Nat → Nat} :
    (termHost associatedTokenProgram tokenProgramKey injective mintProgram nativeMint
      tokenAccountLen minimumBalance).CollisionFree := by
  intro program seeds bump program' seeds' bump' address first second
  have same : Term.derive program seeds bump = Term.derive program' seeds' bump' :=
    (Option.some.inj first).trans (Option.some.inj second).symm
  simp only [Term.derive, Term.node.injEq] at same
  exact ⟨same.1, Term.ofSeeds_injective same.2⟩

end CrossChainEscrow.Library.Accounts
