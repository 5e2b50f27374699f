import CrossChainEscrow.Invariants.Placement
import CrossChainEscrow.Source.Execution

/-!
# How much a rescue takes

A rescue closes the account when it takes all the tokens that the token program
counts there, and closing pays out every lamport. Lamports that no token stands
for go with it: those a native destination escrow is funded with, which the
destination program does not sync as the source program does, and any that
somebody sent.
-/

namespace CrossChainEscrow.Source
open Library.Words Library.Bytes Library.Accounts

variable {K : Type} [DecidableEq K] {env : Environment K}

/-- What leaves the account is the requested amount, and its reserve if it is
closed. -/
structure RescueCall.Exact (env : Environment K) (c : RescueCall K) (token : TokenAccount K)
    (l l' : Chain K) : Prop where
  tokens : l'.tokens c.ata + c.rescueAmount.toNat = l.tokens c.ata
  lamports : l'.lamports c.ata + token.wrapped c.rescueAmount.toNat +
    (if (l'.data c.ata).isEmpty = true then env.reserve token else 0) = l.lamports c.ata

/-- For every successful rescue of either program, in every state: it moves
exactly the requested amount, and the reserve if it closes the account, if and
only if it does not ask for all the tokens counted in the account or the account
holds no lamports besides its reserve and those that its tokens are. -/
theorem rescue_exact_iff {clock : Clock} {ix : Instruction K} {l l' : Chain K}
    (signed : ∀ key ∈ ix.signers, env.Wallet key) (ran : ix.run env clock l = .ok l')
    {c : RescueCall K} (rescue : ix.rescueCall env = some c) :
    ∃ token, l.data c.ata = .token token ∧ token.owner = c.address ∧
      c.ata = env.associatedTokenAddress c.address c.tokenProgram c.mint ∧
      (c.Exact env token l l' ↔ c.rescueAmount.toNat ≠ token.amount ∨
        l.lamports c.ata = token.wrapped token.amount + env.reserve token) := by
  obtain ⟨party, named, token, partyToken, start, steps⟩ := Instruction.rescue_steps ran rescue
  have distinct : c.party ≠ c.address := by
    intro same
    exact (Instruction.named_derived ran _ named).notWallet (same ▸ signed _ party)
  obtain ⟨all, some⟩ := steps.accountAfter distinct
  have drained := (steps.rescued distinct).drained
  refine ⟨token, steps.account, steps.tokenOwner, steps.ataDerived, ?_⟩
  by_cases everything : c.rescueAmount.toNat = token.amount
  · -- the account is closed, and everything in it has left
    obtain ⟨gone, none⟩ := all everything
    have closed : (l'.data c.ata).isEmpty = true := AccountData.isEmpty_iff.mpr gone
    constructor
    · intro precise
      have lamports := precise.lamports
      rw [none, if_pos closed, everything] at lamports
      exact Or.inr (by omega)
    · intro holds
      have lamports := holds.resolve_left (fun other => other everything)
      refine ⟨drained, ?_⟩
      rw [none, if_pos closed, everything]
      omega
  · obtain ⟨held, lamports⟩ := some everything
    have stays : ¬ (l'.data c.ata).isEmpty = true := by
      rw [held]
      simp [AccountData.isEmpty]
    refine ⟨fun _ => Or.inl everything, fun _ => ⟨drained, ?_⟩⟩
    rw [if_neg stays]
    exact lamports

/-- A rescue of nothing from its account. -/
def Sample.rescueNothing : Dst.RescueFunds Term where
  creator := Sample.taker
  mint := Sample.nativeMint .token
  escrow := Sample.nativeDst.escrow
  escrowAta := Sample.nativeDst.escrowAta
  creatorAta := Sample.wrapped Sample.taker
  tokenProgram := .token
  orderHash := Sample.nativeDst.orderHash
  hashlock := Sample.nativeDst.hashlock
  escrowAmount := 2000
  rescueAmount := 0

def Sample.nativeRescue : Sample.Scenario
    (fun r => ((r.state.ledger.programAt Sample.nativeDst.escrow).bind Data.toEscrowDst).any
        (fun e => decide (e.amount = 2000)) = true ∧
      (r.state.ledger.tokenAt Sample.nativeDst.escrowAta).any
        (fun t => decide (t.isNative = some 2039280)) = true ∧
      (Dst.rescueFunds Sample.env r.state.clock Sample.rescueNothing
        r.state.ledger).toOption.any (fun l =>
          decide (r.state.ledger.lamports Sample.nativeDst.escrowAta = 2041280 ∧
            l.lamports Sample.nativeDst.escrowAta = 0 ∧
            l.lamports Sample.taker =
              r.state.ledger.lamports Sample.taker + 2041280)) = true) where
  ledger := Sample.wrapping
  genesis := Sample.genesis_wrapping
  commands := [.wait 100, .call (.dst (.create Sample.nativeDst)), .wait 691400]

/-- A rescue of no lamports closes the account of a live native escrow and moves
its whole principal to the creator. -/
theorem rescue_exact_native : ∃ (h : History Term) (s : State Term) (l : Chain Term)
    (e : EscrowDst Term) (token : TokenAccount Term), Trace Sample.env h s ∧
      s.ledger.programAt Sample.nativeDst.escrow = some (.escrowDst e) ∧ e.amount = 2000 ∧
      s.ledger.data Sample.nativeDst.escrowAta = .token token ∧
      Dst.rescueFunds Sample.env s.clock Sample.rescueNothing s.ledger = .ok l ∧
      ¬ (Sample.rescueNothing.call Sample.env).Exact Sample.env token s.ledger l ∧
      l.lamports Sample.taker =
        s.ledger.lamports Sample.taker + Sample.env.reserve token + 2000 := by
  obtain ⟨r, trace, live, account, rescued⟩ := Sample.nativeRescue.reached
  obtain ⟨e, stored, amount⟩ := Sample.live_escrowDst live
  obtain ⟨token, held, native⟩ := Sample.live_token account
  obtain ⟨l, ran, before, after, gained⟩ := Sample.ran rescued
  have reserve : Sample.env.reserve token = 2039280 := by
    rw [Host.reserve, native]
    rfl
  refine ⟨r.history, r.state, l, e, token, trace, stored, amount, held, ran, fun precise => ?_, ?_⟩
  · have left : l.lamports Sample.nativeDst.escrowAta + token.wrapped 0 +
        (if (l.data Sample.nativeDst.escrowAta).isEmpty = true then Sample.env.reserve token
          else 0) = r.state.ledger.lamports Sample.nativeDst.escrowAta := precise.lamports
    have nothing : token.wrapped 0 = 0 := ite_self 0
    rw [before, after, nothing, reserve] at left
    split at left <;> omega
  · rw [reserve, gained]

def Sample.partialRescue : Sample.Scenario
    (fun r => (r.state.ledger.tokenAt Sample.rescueOrder.orderAta).any
        (fun t => decide (t.amount = 1000)) = true ∧
      (Src.rescueFundsForOrder Sample.env r.state.clock
        { Sample.rescueOrder with rescueAmount := 500 } r.state.ledger).toOption.isSome = true) where
  commands := Sample.whitelisting ++ [.wait 100, .call (.src (.create (Sample.create Sample.single))),
      .wait 691400]

/-- A rescue of half of what the sample order holds. -/
theorem rescue_exact_sample : ∃ (c : RescueCall Term) (token : TokenAccount Term)
    (l l' : Chain Term), c.rescueAmount = 500 ∧ l.data c.ata = .token token ∧
      token.amount = 1000 ∧ c.Exact Sample.env token l l' := by
  obtain ⟨r, _, account, rescued⟩ := Sample.partialRescue.reached
  obtain ⟨token, held, amount⟩ := Sample.live_token account
  obtain ⟨l', ran⟩ := isSome_toOption rescued
  have called : (Instruction.src (.rescueFundsForOrder
      { Sample.rescueOrder with rescueAmount := 500 })).run Sample.env r.state.clock
        r.state.ledger = .ok l' := ran
  obtain ⟨token', held', _, _, precise⟩ := rescue_exact_iff
    (Sample.signed_atom 12) called rfl
  obtain rfl : token' = token := AccountData.token.inj (held'.symm.trans held)
  have some : (500 : U64).toNat ≠ token'.amount := by
    rw [amount]
    decide
  exact ⟨_, token', _, l', rfl, held, amount, precise.mpr (Or.inl some)⟩

end CrossChainEscrow.Source
