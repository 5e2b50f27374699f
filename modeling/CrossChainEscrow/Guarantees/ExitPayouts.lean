import CrossChainEscrow.Invariants.Escrows
import CrossChainEscrow.Source.Execution

/-!
# Exits pay out exactly what the two accounts hold

Every withdrawal and cancellation of a live escrow, once its guards pass, runs
through and closes the escrow and its token account. What they held is with the
caller, the payee and the rent payer, and the runtime only checks that these end
with their rent. A destination escrow may name its own address as its recipient;
then the payout goes to the account that is closed next.
-/

namespace CrossChainEscrow.Source
open Library.Words Library.Bytes Library.Accounts Library.Bookkeeping

variable {K : Type} [DecidableEq K] {env : Environment K} {h : History K} {s : State K}

/-- A settled exit keeps the totals. -/
theorem Exit.Settled.conserves {x : Exit K} {rest : Nat} {l l' : Chain K}
    (settled : x.Settled rest l l') {accounts : Finset K}
    (inside : ∀ k ∈ x.accounts, k ∈ accounts) :
    ∑ k ∈ accounts, l'.lamports k = ∑ k ∈ accounts, l.lamports k ∧
      (x.native = false → ∑ k ∈ accounts, l'.tokens k = ∑ k ∈ accounts, l.tokens k) := by
  have receiver := inside _ x.receiver_mem
  have split := settled.split
  refine ⟨settled.lamports.conserves ?_ ?_, fun plain => (settled.tokens plain).conserves rfl ?_⟩
  · simp only [volume_cons, volume_nil]
    omega
  · have named : ∀ k ∈ [x.caller, x.rentPayer, x.payee, x.escrow, x.ata.key], k ∈ accounts :=
      fun k member => inside k (List.mem_append_left _ member)
    simp only [List.forall_mem_cons] at named
    simp [named, receiver]
  · have ata : x.ata.key ∈ accounts := inside _ (by simp [Exit.accounts])
    simp [ata, receiver]

/-- For every live escrow that no rescue touched and whose payee is not the escrow
itself, and every caller: once the guards of an exit pass, it closes both accounts,
conserves all lamports and, when it pays tokens, all tokens, and every account gets
what is due to it: the caller the deposit unless it is the rent payer, the receiver
the principal, which covers the amount, and the rent payer all that is left. The
transaction succeeds exactly when the runtime accepts these three balances. -/
theorem Trace.exit_exact (free : env.CollisionFree) (trace : Trace env h s)
    (wrapped : env.mintProgram env.NATIVE_MINT = some .token) {ix : Instruction K}
    (signed : ∀ key ∈ ix.signers, env.Wallet key) {x : Exit K} {ready : Chain K}
    (passed : ix.exit env s.clock s.ledger = some (x, ready))
    (ofMint : ∀ key ∈ x.payeeAta, ∀ account, ready.data key = .token account →
      account.mint = x.mint)
    (whole : unrescued env x.escrow x.ata.key h = true) (other : x.payee ≠ x.escrow) :
    x.caller ∈ ix.signers ∧ x.Stored env s.ledger ∧
      ((∀ key ∈ x.payeeAta, s.ledger.data key ≠ .empty) → ready = s.ledger) ∧
      (x.mint ≠ env.nativeMint x.tokenProgram → ready.tokens = s.ledger.tokens) ∧
      ∃ (l' : Chain K) (rest : Nat), ix.run env s.clock s.ledger = .ok l' ∧
        (ix.process env s.clock s.ledger = .ok l' ↔
          ∀ k ∈ [x.caller, x.receiver, x.rentPayer], env.RentAllowed s.ledger l' k) ∧
        l'.data x.escrow = .empty ∧ l'.data x.ata.key = .empty ∧
        (∀ accounts : Finset K, (∀ k ∈ x.accounts, k ∈ accounts) →
          ∑ k ∈ accounts, l'.lamports k = ∑ k ∈ accounts, s.ledger.lamports k ∧
          (x.native = false → ∑ k ∈ accounts, l'.tokens k = ∑ k ∈ accounts, ready.tokens k)) ∧
        s.ledger.lamports x.escrow + s.ledger.lamports x.ata.key =
          x.depositPaid + x.principal + rest ∧
        (∀ k, k ≠ x.escrow → k ≠ x.ata.key → l'.lamports k = ready.lamports k +
          (if k = x.caller then x.depositPaid else 0) +
          (if k = x.receiver then x.principal else 0) + (if k = x.rentPayer then rest else 0)) ∧
        (x.native = false → x.amount.toNat ≤ x.ata.account.amount ∧
          l'.tokens x.receiver = ready.tokens x.receiver + x.ata.account.amount) := by
  have checked := Instruction.exit_checked passed
  obtain ⟨sound, escrowLamports, ataLamports⟩ := trace.exit_sound free checked signed wrapped
  obtain ⟨lamports, tokens⟩ := trace.exit_covered free checked whole sound.wrapped
  have payable : x.Payable env s.clock ready := {
    toSound := sound
    payee := other
    receives := checked.receives free other ofMint
    principal := fun native => ataLamports ▸ lamports native
    deposit := escrowLamports ▸ trace.exit_deposit checked free }
  obtain ⟨l', rest, ran, settled⟩ := payable.run
  have called := (Instruction.exit_run passed).trans ran
  refine ⟨checked.signer, checked.stored, fun existing => ?_, fun plain => ?_, l', rest, called,
    settled.processes_iff payable checked called, settled.escrow, settled.ata,
    fun accounts inside => ?_, ?_, fun k notEscrow notAta => ?_, fun plain => ⟨tokens plain, ?_⟩⟩
  · rcases checked.prepared with same | init
    · exact same
    · exact initRecipientAta_existing init existing
  · rcases checked.prepared with same | init
    · rw [same]
    · exact initRecipientAta_tokens init plain
  · obtain ⟨sameLamports, sameTokens⟩ := settled.conserves inside
    refine ⟨sameLamports.trans ?_, sameTokens⟩
    rcases checked.prepared with same | init
    · rw [same]
    · refine initRecipientAta_conserves init (inside _ (by simp [Exit.accounts])) fun key given => ?_
      exact inside key (by simp [Exit.accounts, Option.mem_def.mp given])
  · rw [← escrowLamports, ← ataLamports]
    exact settled.split
  · have booked := settled.lamports.account k
    simp only [posted_cons, posted_nil, if_neg notEscrow, if_neg notAta] at booked
    omega
  · obtain ⟨key, account, given, loaded, _, _, distinct⟩ := payable.receives plain
    have receiver : x.receiver = key := by
      rw [Exit.receiver, if_neg (by simp [plain]), given, Option.getD_some]
    have booked := (settled.tokens plain).account x.receiver
    rw [receiver] at booked ⊢
    simpa [Ne.symm distinct] using booked

/-- A destination escrow that names its own address as its recipient. -/
def Sample.selfDst : Dst.Create Term :=
  let plain := Sample.createDst Sample.single (Sample.offsets 10 20 30 40 5 8 12) 2000000
  { plain with recipient := plain.escrow }

/-- The withdrawal from it, to the account that it closes. -/
def Sample.withdrawSelf : Dst.Withdraw Term where
  creator := Sample.taker
  recipient := Sample.selfDst.escrow
  mint := Sample.usdc
  escrow := Sample.selfDst.escrow
  escrowAta := Sample.selfDst.escrowAta
  recipientAta := some Sample.selfDst.escrowAta
  tokenProgram := .token
  secret := Sample.secret

def Sample.selfWithdrawal : Sample.Scenario
    (fun r => ((Instruction.dst (.withdraw Sample.withdrawSelf)).exit Sample.env r.state.clock
        r.state.ledger).any (fun p =>
          unrescued Sample.env p.1.escrow p.1.ata.key r.history &&
          ((r.state.ledger.programAt p.1.escrow).bind Data.toEscrowDst).any
            (fun e => decide (e.recipient = p.1.escrow))) = true ∧
      ((Instruction.dst (.withdraw Sample.withdrawSelf)).run Sample.env r.state.clock
        r.state.ledger).toOption.isNone = true) where
  commands := [.wait 100, .call (.dst (.create Sample.selfDst)), .wait 105]

/-- With its own address as recipient, all guards of the withdrawal pass and it
still fails: the tokens stay in the account, which then cannot be closed. -/
theorem Trace.exit_self : ∃ (h : History Term) (s : State Term) (e : EscrowDst Term)
    (x : Exit Term) (ready : Chain Term), Trace Sample.env h s ∧
      s.ledger.programAt x.escrow = some (.escrowDst e) ∧
      unrescued Sample.env x.escrow x.ata.key h = true ∧
      (Instruction.dst (.withdraw Sample.withdrawSelf)).exit Sample.env s.clock s.ledger =
        some (x, ready) ∧
      ∀ l', (Instruction.dst (.withdraw Sample.withdrawSelf)).run Sample.env s.clock s.ledger ≠
        .ok l' := by
  obtain ⟨r, trace, passed, fails⟩ := Sample.selfWithdrawal.reached
  obtain ⟨⟨x, ready⟩, exit, holds⟩ := (Option.any_eq_true _ _).mp passed
  obtain ⟨whole, named⟩ := Bool.and_eq_true_iff.mp holds
  obtain ⟨e, live, _⟩ := Sample.live_escrowDst named
  refine ⟨r.history, r.state, e, x, ready, trace, live, whole, exit, fun l' ran => ?_⟩
  rw [ran] at fails
  cases fails

/-- The authority as a resolver, who withdraws for the taker. -/
def Sample.publicWithdrawSrc : Src.PublicWithdraw Term where
  taker := Sample.taker
  payer := Sample.authority
  resolverAccess := Sample.derived Sample.whitelistId
    (resolverAccessSeeds Sample.srcId Sample.authority)
  mint := Sample.usdc
  escrow := Sample.escrow
  escrowAta := Sample.associated Sample.escrow
  takerAta := Sample.associated Sample.taker
  tokenProgram := .token
  secret := Sample.secret

def Sample.publicWithdrawal : Sample.Scenario
    (fun r => ((Instruction.src (.publicWithdraw Sample.publicWithdrawSrc)).exit Sample.env
        r.state.clock r.state.ledger).any (fun p =>
          unrescued Sample.env p.1.escrow p.1.ata.key r.history &&
          p.1.payeeAta.all (fun key =>
            (p.2.tokenAt key).all (fun t => decide (t.mint = p.1.mint)) &&
            !(r.state.ledger.data key).isEmpty) &&
          decide (p.1.payee ≠ p.1.escrow ∧ p.1.caller = Sample.authority ∧
            p.1.rentPayer = Sample.taker ∧ p.1.receiver = Sample.associated Sample.taker ∧
            Sample.authority ≠ p.1.escrow ∧ Sample.authority ≠ p.1.ata.key ∧
            p.1.native = false ∧ p.1.ata.account.amount = 1000 ∧ p.1.deposit = 5)) = true) where
  commands := Sample.singleFill Sample.single ++ [.call (.whitelist (.register ⟨Sample.authority,
      Sample.whitelistState, Sample.publicWithdrawSrc.resolverAccess, Sample.authority,
      Sample.srcId⟩)), .wait 175]

/-- A public withdrawal of the sample escrow: the resolver gets the deposit of 5
lamports and the taker the 1000 tokens. -/
theorem Trace.exit_exact_sample : ∃ (s : State Term) (l' : Chain Term),
    Src.publicWithdraw Sample.env s.clock Sample.publicWithdrawSrc s.ledger = .ok l' ∧
      l'.lamports Sample.authority = s.ledger.lamports Sample.authority + 5 ∧
      l'.tokens (Sample.associated Sample.taker) =
        s.ledger.tokens (Sample.associated Sample.taker) + 1000 := by
  obtain ⟨r, trace, passed⟩ := Sample.publicWithdrawal.reached
  obtain ⟨⟨x, ready⟩, exit, holds⟩ := (Option.any_eq_true _ _).mp passed
  obtain ⟨accounts, facts⟩ := Bool.and_eq_true_iff.mp holds
  obtain ⟨whole, mints⟩ := Bool.and_eq_true_iff.mp accounts
  obtain ⟨other, caller, rentPayer, receiver, notEscrow, notAta, plain, amount, deposit⟩ :=
    of_decide_eq_true facts
  dsimp only at other caller rentPayer receiver notEscrow notAta plain amount deposit mints
  have checkedMint : ∀ key ∈ x.payeeAta, (ready.tokenAt key).all
      (fun t => decide (t.mint = x.mint)) = true ∧ (r.state.ledger.data key).isEmpty = false := by
    intro key given
    simpa using (Option.all_eq_true _ _).mp mints key given
  have ofMint : ∀ key ∈ x.payeeAta, ∀ account, ready.data key = .token account →
      account.mint = x.mint := by
    intro key given account loaded
    have decided := (checkedMint key given).1
    rw [Ledger.tokenAt_eq_some.mpr loaded, Option.all_some] at decided
    exact of_decide_eq_true decided
  have wallets : ∀ key ∈ (Instruction.src (.publicWithdraw Sample.publicWithdrawSrc)).signers,
      Sample.env.Wallet key := Sample.signed_atom 10
  obtain ⟨_, _, existing, _, l', rest, ran, _, _, _, _, _, lamports, tokens⟩ := trace.exit_exact
    Sample.collisionFree rfl wallets exit ofMint whole other
  have same : ready = r.state.ledger := by
    apply existing
    intro key given unused
    have held := (checkedMint key given).2
    rw [unused] at held
    cases held
  refine ⟨r.state, l', ran, ?_, ?_⟩
  · have distinct : ¬ Sample.taker = Sample.authority := by decide
    have elsewhere : ¬ Sample.authority = Sample.associated Sample.taker := by decide +kernel
    have paid := lamports Sample.authority notEscrow notAta
    rw [same, caller, receiver, rentPayer, if_pos rfl, if_neg elsewhere,
      if_neg (Ne.symm distinct), Exit.depositPaid, rentPayer, caller, if_neg distinct, deposit]
      at paid
    exact paid
  · have received := (tokens plain).2
    rw [receiver, same, amount] at received
    exact received

end CrossChainEscrow.Source
