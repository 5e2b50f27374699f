import CrossChainEscrow.Effects.Operations
import CrossChainEscrow.Guarantees.SecretReveal
import CrossChainEscrow.Invariants.Lifetimes

/-!
# Nothing is created, lost or taken from bystanders

In every run each instruction leaves the total of lamports and of every mint's
tokens as it was, so the lamport edits that the programs make by hand always
balance. It takes from nobody but its signers and the accounts it names, and from
its signers it takes no account: their token accounts stay theirs.
-/

namespace CrossChainEscrow.Source
open Library.Words Library.Bytes Library.Accounts Library.Bookkeeping

variable {K : Type} [DecidableEq K] {env : Environment K} {h : History K} {s : State K}

/-- In every run, every instruction that succeeded conserves the lamports and,
for every mint that does not wrap lamports, the tokens; and no token account is
left with more wrapped tokens than lamports behind them. -/
theorem Trace.instructions_conserve (trace : Trace env h s) {e : Event K} (member : e ∈ h) :
    Conserves e.pre.ledger.lamports e.post.lamports ∧
      (∀ mint, env.Plain mint → Conserves (e.pre.ledger.holdings mint) (e.post.holdings mint)) ∧
      ∀ k account, e.post.data k = .token account → account.wrapped account.amount ≤ e.post.lamports k := by
  obtain ⟨before, past, _, ran, _⟩ := trace.event member
  have conserving := Instruction.related
    (Conserving.operational env.toHost env.Derived (· ∈ e.ix.writable)) (fun _ member => member) ran
  have sound := past.tokenSound
  refine ⟨conserving.lamports, conserving.holdings sound, fun k account held => ?_⟩
  exact (conserving.sound sound k account held).wrapped_le

/-! ## Bystanders -/

/-- A wallet that does not sign has no authority in an instruction. -/
theorem Trace.outsider {ix : Instruction K} {l : Chain K} (ran : ix.run env s.clock s.ledger = .ok l)
    {wallet : K} (isWallet : env.Wallet wallet) (unsigned : wallet ∉ ix.signers) :
    ¬ ix.authority wallet := by
  rintro (signer | named)
  · exact unsigned signer
  · exact (Instruction.named_derived ran wallet named).notWallet isWallet

/-- In every run, an instruction that a wallet does not sign takes nothing from it:
a wallet without data keeps its lamports, and its token accounts stay its own and
lose neither tokens nor lamports. -/
theorem Trace.bystander_keeps (trace : Trace env h s) {e : Event K} (member : e ∈ h) {wallet : K}
    (isWallet : env.Wallet wallet) (unsigned : wallet ∉ e.ix.signers) :
    (e.pre.ledger.data wallet = .empty →
      e.pre.ledger.lamports wallet ≤ e.post.lamports wallet) ∧
    ∀ k account, e.pre.ledger.data k = .token account → account.owner = wallet →
      e.pre.ledger.lamports k ≤ e.post.lamports k ∧
      ∃ amount, account.amount ≤ amount ∧ e.post.data k = .token { account with amount } := by
  obtain ⟨before, past, _, ran, _⟩ := trace.event member
  have outside := Trace.outsider ran isWallet unsigned
  have confined := Instruction.confined ran
  refine ⟨fun plain => confined.lamports wallet ?_, fun k account held owned => ⟨confined.lamports k ?_,
    confined.token k account held (owned ▸ outside)⟩⟩
  · rw [Ledger.ControlledBy, plain]
    rintro (authority | ⟨owner, program, mint, same, _⟩)
    · exact outside authority
    · exact env.associated_notWallet owner mint program (same ▸ isWallet)
  · rw [Ledger.ControlledBy, held]
    change ¬ e.ix.authority account.owner
    exact owned ▸ outside

/-- The withdrawal that publishes the secret of the sample swap. -/
theorem Sample.withdrawal : ∃ (r : Run Term) (l : Chain Term),
    Trace Sample.env (⟨r.state, .dst (.withdraw Sample.withdrawDst), l⟩ :: r.history)
      ⟨l, r.state.clock⟩ := by
  obtain ⟨r, trace, _, _, withdrawn⟩ := Sample.revealed.reached
  obtain ⟨l, ran⟩ := isSome_toOption withdrawn
  exact ⟨r, l, trace.step (Sample.signed_atom 12) ran⟩

/-- It moves tokens between accounts and loses none. -/
theorem Trace.instructions_conserve_sample : ∃ e : Event Term,
    e.ix = .dst (.withdraw Sample.withdrawDst) ∧
      Conserves e.pre.ledger.lamports e.post.lamports ∧
      Conserves (e.pre.ledger.holdings Sample.usdc) (e.post.holdings Sample.usdc) := by
  obtain ⟨r, l, trace⟩ := Sample.withdrawal
  obtain ⟨lamports, holdings, _⟩ := trace.instructions_conserve (List.mem_cons_self ..)
  refine ⟨_, rfl, lamports, holdings Sample.usdc fun program => ?_⟩
  cases program <;> decide

/-- The maker, who does not sign it, loses nothing. -/
theorem Trace.bystander_keeps_sample : ∃ e : Event Term,
    e.ix = .dst (.withdraw Sample.withdrawDst) ∧
      (e.pre.ledger.data Sample.maker = .empty →
        e.pre.ledger.lamports Sample.maker ≤ e.post.lamports Sample.maker) := by
  obtain ⟨r, l, trace⟩ := Sample.withdrawal
  have unsigned : Sample.maker ∉ (Instruction.dst (.withdraw Sample.withdrawDst)).signers := by decide
  exact ⟨_, rfl, (trace.bystander_keeps (List.mem_cons_self ..) (Sample.wallet_atom 11) unsigned).1⟩

end CrossChainEscrow.Source
