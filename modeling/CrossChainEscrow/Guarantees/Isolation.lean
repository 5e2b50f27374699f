import CrossChainEscrow.Invariants.Isolation
import CrossChainEscrow.Source.Execution

/-!
# Isolation between orders and escrows

A source-chain instruction leaves every live account it does not name alone. The
account list of `create_escrow` names the order it debits and the escrow it
credits, which is new.
-/

namespace CrossChainEscrow.Source
open Library.Words Library.Bytes Library.Accounts

variable {K : Type} [DecidableEq K] {env : Environment K}

/-- In every reachable state and for every successful source-chain instruction,
rescues included: a live account that the instruction does not name keeps its
data, and neither its own lamports nor the tokens and lamports of an account at
one of its associated addresses, or owned by it anywhere, decrease. Only a fill
names two accounts, and its escrow was not live before. -/
theorem Trace.isolated (free : env.CollisionFree) {h : History K} {s : State K}
    (trace : Trace env h s) {ix : Src.Instruction K} {l : Chain K}
    (signed : ∀ key ∈ ix.signers, env.Wallet key)
    (ran : ix.run env s.clock s.ledger = .ok l) :
    (∀ a data, s.ledger.programAt a = some data → a ∉ ix.named →
      l.programAt a = some data ∧ s.ledger.lamports a ≤ l.lamports a ∧
      (∀ program mint,
        s.ledger.tokens (env.associatedTokenAddress a program mint) ≤
          l.tokens (env.associatedTokenAddress a program mint) ∧
        s.ledger.lamports (env.associatedTokenAddress a program mint) ≤
          l.lamports (env.associatedTokenAddress a program mint)) ∧
      ∀ key account, s.ledger.data key = .token account → account.owner = a →
        s.ledger.tokens key ≤ l.tokens key ∧ s.ledger.lamports key ≤ l.lamports key) ∧
    ((∃ a, ix.named = [a]) ∨ ∃ c, ix = .createEscrow c ∧ ix.named = [c.order, c.escrow] ∧
      s.ledger.programAt c.escrow = none) := by
  constructor
  · intro a data live other
    have call : (Instruction.src ix).run env s.clock s.ledger = .ok l := ran
    have wallets : ∀ key ∈ (Instruction.src ix).signers, env.Wallet key := signed
    have kept := trace.untouched_call free live wallets call other
    refine ⟨kept.data.trans live, kept.lamports, fun program mint => ?_, kept.owned⟩
    exact ⟨kept.tokens program mint, kept.ataLamports program mint⟩
  · cases ix with
    | createEscrow c =>
      obtain ⟨v, steps⟩ := Src.createEscrow_steps ran
      have unused := (createAccount_ok.mp steps.allocate).1
      refine Or.inr ⟨c, rfl, rfl, ?_⟩
      simp [Ledger.programAt, unused]
    | _ => exact Or.inl ⟨_, rfl⟩

def Sample.twoOrders : Sample.Scenario
    (fun r => (r.state.ledger.programAt (Sample.orderAt Sample.multiple)).isSome = true ∧
      (Src.createEscrow Sample.env r.state.clock (Sample.createEscrow Sample.single 1000 none)
        r.state.ledger).toOption.isSome = true) where
  commands := Sample.whitelisting ++ [.wait 100, .call (.src (.create (Sample.create Sample.single))),
      .call (.src (.create (Sample.create Sample.multiple)))]

/-- A fill of one sample order leaves another order alone. -/
theorem Trace.isolated_sample : ∃ (s : State Term) (l : Chain Term) (data : Data Term),
    Src.createEscrow Sample.env s.clock (Sample.createEscrow Sample.single 1000 none) s.ledger
      = .ok l ∧
    s.ledger.programAt (Sample.orderAt Sample.multiple) = some data ∧
    l.programAt (Sample.orderAt Sample.multiple) = some data := by
  obtain ⟨r, trace, held, filled⟩ := Sample.twoOrders.reached
  obtain ⟨data, live⟩ := Option.isSome_iff_exists.mp held
  obtain ⟨l, ran⟩ := isSome_toOption filled
  have signed : ∀ key ∈ (Src.Instruction.createEscrow
      (Sample.createEscrow Sample.single 1000 none)).signers, Sample.env.Wallet key :=
    Sample.signed_atom 12
  have other : Sample.orderAt Sample.multiple ∉ (Src.Instruction.createEscrow
      (Sample.createEscrow Sample.single 1000 none)).named := by
    decide +kernel
  have kept := (trace.isolated Sample.collisionFree signed ran).1 _ data live other
  exact ⟨r.state, l, data, ran, live, kept.1⟩

end CrossChainEscrow.Source
