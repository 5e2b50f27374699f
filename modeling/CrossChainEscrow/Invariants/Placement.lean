import CrossChainEscrow.Effects.Step

/-!
# Where accounts sit and who their parties are

The induction over runs is packaged once for properties of program data and once
for each of the two soundness properties of token accounts. From it: every
program account sits at the address its own fields derive, and the parties an
order or an escrow stores are wallets.
-/

namespace CrossChainEscrow.Source
open Library.Words Library.Bytes Library.Accounts

variable {K : Type} [DecidableEq K] {env : Environment K} {h : History K} {s : State K}

/-- Token accounts stay sound in every run. -/
theorem Trace.tokenSound (trace : Trace env h s) : TokenSound env.toHost s.ledger := by
  induction trace with
  | start genesis => exact genesis.tokens
  | step _ _ ran ih => exact Actions.tokenSound (Instruction.actions ran) ih
  | external _ _ sound _ _ => exact sound
  | tick _ _ ih => exact ih

/-- The associated accounts of a derived key are its own in every run. -/
theorem Trace.associatedSound (free : env.CollisionFree) (trace : Trace env h s) {wallet : K}
    (derived : ¬ env.Wallet wallet) : AssociatedSound env.toHost wallet s.ledger := by
  induction trace with
  | start genesis => exact genesis.derived wallet derived
  | step _ _ ran ih => exact Actions.associatedSound free (Instruction.actions ran) ih
  | external _ confined _ _ ih =>
    exact confined.associatedSound free derived
      (fun program mint => env.associated_notWallet wallet mint program) ih
  | tick _ _ ih => exact ih

/-- The token program an instruction checked on an account of a derived key is
the one of the mint. -/
theorem Trace.ata_program (free : env.CollisionFree) (trace : Trace env h s)
    {a : K} (derived : ¬ env.Wallet a)
    {program : TokenProgram} {mint : K} {account : TokenAccount K}
    (loaded : s.ledger.data (env.associatedTokenAddress a program mint) = .token account) :
    env.mintProgram mint = some program := by
  obtain ⟨_, programs, mints⟩ := trace.associatedSound free derived program mint account loaded
  exact trace.tokenSound.mintProgram_eq loaded programs mints

/-- Such an account is the one under the program of the mint. -/
theorem Trace.checked_ata (free : env.CollisionFree) (trace : Trace env h s) {a key mint : K}
    {program named : TokenProgram} {account : TokenAccount K} (derived : ¬ env.Wallet a)
    (owned : env.mintProgram mint = some program)
    (loaded : s.ledger.data key = .token account)
    (address : key = env.associatedTokenAddress a named mint) :
    named = program ∧ key = env.associatedTokenAddress a program mint := by
  rw [address] at loaded
  have same := trace.ata_program free derived loaded
  rw [owned] at same
  obtain rfl := Option.some.inj same
  exact ⟨rfl, address⟩

/-- The balance of a derived key, at the account an instruction checked. -/
theorem Trace.balance_eq (free : env.CollisionFree) (trace : Trace env h s) {a key mint : K}
    {program : TokenProgram} {account : TokenAccount K} (derived : ¬ env.Wallet a)
    (loaded : s.ledger.data key = .token account)
    (address : key = env.associatedTokenAddress a program mint) :
    env.mintProgram mint = some program ∧ env.balance s.ledger a mint = s.ledger.tokens key ∧
      env.ataOf a mint = some key := by
  subst address
  have owned := trace.ata_program free derived loaded
  exact ⟨owned, Host.balance_eq owned, Host.ataOf_eq owned⟩

/-- A property of program accounts holds in every run if what instructions
write has it whenever all accounts had it before. -/
theorem Trace.programs_invariant {P : K → Data K → Prop}
    (written : ∀ {h : History K} {s : State K} {ix : Instruction K} {l : Chain K} {a : K}
      {data : Data K}, Trace env h s → (∀ key ∈ ix.signers, env.Wallet key) →
      (∀ a data, s.ledger.programAt a = some data → P a data) →
      Written env s.clock s.ledger l ix a data → P a data)
    (trace : Trace env h s) : ∀ a data, s.ledger.programAt a = some data → P a data := by
  induction trace with
  | start genesis =>
    intro a data held
    rw [genesis.noPrograms a] at held
    cases held
  | step trace signed ran ih =>
    intro a data held
    rcases Instruction.origin ran held with kept | new
    · exact ih a data kept
    · exact written trace signed ih new
  | external _ _ _ owned ih =>
    intro a data held
    rw [owned] at held
    exact ih a data held
  | tick _ _ ih => exact ih

/-! ## Addresses -/

/-- An account sits at the address, and stores the bump, that a search with the
seeds made of its own fields returns. -/
def Placed (env : Environment K) (a : K) : Data K → Prop
  | .order o => env.findProgramAddress env.srcId (orderSeeds o.orderHash) = (a, o.bump)
  | .escrowSrc e => env.findProgramAddress env.srcId e.seeds = (a, e.bump)
  | .escrowDst e => env.findProgramAddress env.dstId e.seeds = (a, e.bump)
  | .whitelistState _ => (env.findProgramAddress env.whitelistId whitelistStateSeeds).1 = a
  | .resolverAccess r => ∃ client user,
      env.findProgramAddress env.whitelistId (resolverAccessSeeds client user) = (a, r.bump)

theorem Trace.placed (trace : Trace env h s) {a : K} {data : Data K}
    (held : s.ledger.programAt a = some data) : Placed env a data := by
  refine trace.programs_invariant (P := Placed env) ?_ a data held
  intro h s ix l a data trace _ before new
  cases new with
  | order ran =>
    obtain ⟨_, _, _, steps⟩ := Src.create_steps ran
    exact Prod.ext steps.derived.symm rfl
  | escrowSrc steps =>
    have same := Src.acceptedHashlock_eq steps.accepted
    have derived := steps.derived
    rw [← same] at derived
    refine Prod.ext derived.symm ?_
    rw [Src.CreateEscrow.newEscrow, ← same]
    rfl
  | @counted c v _ steps _ _ =>
    exact before _ (.order v.order) (Ledger.programAt_eq_some.mpr steps.loaded)
  | escrowDst ran =>
    obtain ⟨_, _, _, steps⟩ := Dst.create_steps ran
    exact Prod.ext steps.derived.symm rfl
  | whitelistState _ derived => exact derived.symm
  | @resolverAccess c ran =>
    exact ⟨c.client, c.user, Prod.ext (Whitelist.register_ok.mp ran).2.1.symm rfl⟩

omit [DecidableEq K] in
theorem Placed.derived {a : K} {data : Data K} (placed : Placed env a data) : env.Derived a := by
  cases data with
  | order o => exact Environment.derived_src (env.create_of_find placed)
  | escrowSrc e => exact Environment.derived_src (env.create_of_find placed)
  | escrowDst e => exact Environment.derived_dst (env.create_of_find placed)
  | whitelistState w => exact Environment.derived_whitelist (Environment.find_created placed.symm)
  | resolverAccess r =>
    obtain ⟨client, user, found⟩ := placed
    exact Environment.derived_whitelist (env.create_of_find found)

/-! ## Parties -/

/-- Whoever an order or escrow stores as the one who funded it is a wallet. -/
def PartiesAreWallets (env : Environment K) : Data K → Prop
  | .order o => env.Wallet o.creator
  | .escrowSrc e => env.Wallet e.maker ∧ env.Wallet e.taker
  | .escrowDst e => env.Wallet e.creator
  | _ => True

theorem Trace.parties (trace : Trace env h s) {a : K} {data : Data K}
    (held : s.ledger.programAt a = some data) : PartiesAreWallets env data := by
  refine trace.programs_invariant (P := fun _ data => PartiesAreWallets env data) ?_ a data held
  intro h s ix l a data trace signed before new
  cases new with
  | @order c _ => exact signed c.creator (by simp [Instruction.signers, Src.Instruction.signers])
  | @escrowSrc c v steps =>
    exact ⟨before _ (.order v.order) (Ledger.programAt_eq_some.mpr steps.loaded),
      signed c.taker (by simp [Instruction.signers, Src.Instruction.signers])⟩
  | @counted c v _ steps _ _ =>
    exact before _ (.order v.order) (Ledger.programAt_eq_some.mpr steps.loaded)
  | @escrowDst c _ => exact signed c.creator (by simp [Instruction.signers, Dst.Instruction.signers])
  | whitelistState _ _ => exact True.intro
  | resolverAccess _ => exact True.intro

/-- A wallet is none of the accounts of the programs. -/
theorem Trace.wallet_ne (trace : Trace env h s) {a wallet : K} {data : Data K}
    (held : s.ledger.programAt a = some data) (isWallet : env.Wallet wallet) : wallet ≠ a := by
  rintro rfl
  exact (trace.placed held).derived.notWallet isWallet

end CrossChainEscrow.Source
