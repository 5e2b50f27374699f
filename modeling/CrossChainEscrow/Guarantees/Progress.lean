import CrossChainEscrow.Guarantees.StageWindows
import CrossChainEscrow.Guarantees.Whitelisting
import CrossChainEscrow.Invariants.Progress
import CrossChainEscrow.Library.Operations

/-!
# Funds are never stuck

An escrow that no rescue ran on can be ended through each of its exits whenever
the exit's window is open, whatever happened before on either chain. The call to
make has the accounts that the escrow stores; it succeeds exactly in its window,
with the secret where one is asked for, and a resolver's call exactly when the
resolver is on the whitelist.
-/

namespace CrossChainEscrow.Source
open Library.Words Library.Bytes Library.Accounts Library.Bookkeeping Library.Registries Whitelist

variable {K : Type} [DecidableEq K] {env : Environment K} {h : History K} {s : State K} {a : K}
  {program : TokenProgram} {secret : Bytes32} {x : Exit K} {l l' ready : Chain K} {clock : Clock}

/-! ## The calls -/

section Calls
variable (env : Environment K)

/-- The token account to pay, which a native payout does without. -/
def payeeAccount (native : Bool) (payee : K) (program : TokenProgram) (mint : K) : Option K :=
  if native = true then none else some (env.associatedTokenAddress payee program mint)

section Source
variable (e : EscrowSrc K) (a : K) (program : TokenProgram)

def EscrowSrc.withdrawCall (secret : Bytes32) : Src.Withdraw K where
  taker := e.taker
  mint := e.token
  escrow := a
  escrowAta := env.associatedTokenAddress a program e.token
  takerAta := env.associatedTokenAddress e.taker program e.token
  tokenProgram := program
  secret := secret

def EscrowSrc.publicWithdrawCall (payer : K) (secret : Bytes32) : Src.PublicWithdraw K where
  taker := e.taker
  payer := payer
  resolverAccess := env.accessAddress env.srcId payer
  mint := e.token
  escrow := a
  escrowAta := env.associatedTokenAddress a program e.token
  takerAta := env.associatedTokenAddress e.taker program e.token
  tokenProgram := program
  secret := secret

def EscrowSrc.cancelCall : Src.CancelEscrow K where
  taker := e.taker
  maker := e.maker
  mint := e.token
  escrow := a
  escrowAta := env.associatedTokenAddress a program e.token
  makerAta := payeeAccount env e.assetIsNative e.maker program e.token
  tokenProgram := program

def EscrowSrc.publicCancelCall (payer : K) : Src.PublicCancelEscrow K where
  taker := e.taker
  maker := e.maker
  mint := e.token
  payer := payer
  resolverAccess := env.accessAddress env.srcId payer
  escrow := a
  escrowAta := env.associatedTokenAddress a program e.token
  makerAta := payeeAccount env e.assetIsNative e.maker program e.token
  tokenProgram := program

/-- The exit that these calls are. -/
def EscrowSrc.exit (caller payee : K) (native : Bool) (account : TokenAccount K) : Exit K where
  programId := env.srcId
  caller := caller
  rentPayer := e.taker
  payee := payee
  payeeAta := payeeAccount env native payee program e.token
  mint := e.token
  tokenProgram := program
  escrow := a
  ata := ⟨env.associatedTokenAddress a program e.token, account⟩
  native := native
  amount := e.amount
  deposit := e.safetyDeposit
  seeds := ⟨e.seeds, e.bump⟩

end Source

section Destination
variable (d : EscrowDst K) (a : K) (program : TokenProgram)

def EscrowDst.withdrawCall (secret : Bytes32) : Dst.Withdraw K where
  creator := d.creator
  recipient := d.recipient
  mint := d.token
  escrow := a
  escrowAta := env.associatedTokenAddress a program d.token
  recipientAta := payeeAccount env d.assetIsNative d.recipient program d.token
  tokenProgram := program
  secret := secret

def EscrowDst.publicWithdrawCall (payer : K) (secret : Bytes32) : Dst.PublicWithdraw K where
  creator := d.creator
  recipient := d.recipient
  payer := payer
  resolverAccess := env.accessAddress env.dstId payer
  mint := d.token
  escrow := a
  escrowAta := env.associatedTokenAddress a program d.token
  recipientAta := payeeAccount env d.assetIsNative d.recipient program d.token
  tokenProgram := program
  secret := secret

def EscrowDst.cancelCall : Dst.Cancel K where
  creator := d.creator
  mint := d.token
  escrow := a
  escrowAta := env.associatedTokenAddress a program d.token
  creatorAta := payeeAccount env d.assetIsNative d.creator program d.token
  tokenProgram := program

def EscrowDst.exit (caller payee : K) (account : TokenAccount K) : Exit K where
  programId := env.dstId
  caller := caller
  rentPayer := d.creator
  payee := payee
  payeeAta := payeeAccount env d.assetIsNative payee program d.token
  mint := d.token
  tokenProgram := program
  escrow := a
  ata := ⟨env.associatedTokenAddress a program d.token, account⟩
  native := d.assetIsNative
  amount := d.amount
  deposit := d.safetyDeposit
  seeds := ⟨d.seeds, d.bump⟩

end Destination

end Calls

/-- The account that is paid is there, for a payout in tokens. -/
def Receivable (env : Environment K) (native : Bool) (payee : K) (program : TokenProgram) (mint : K)
    (l : Chain K) : Prop :=
  native = false → HoldsAccount env payee program mint l

omit [DecidableEq K] in
theorem Receivable.checked {native : Bool} {payee mint : K}
    (receivable : Receivable env native payee program mint l) :
    ∀ key ∈ payeeAccount env native payee program mint, ∃ account, l.data key = .token account ∧
      account.program = program ∧ account.owner = payee ∧
      key = env.associatedTokenAddress payee program mint := by
  intro key given
  cases native with
  | true => cases given
  | false =>
    obtain rfl := Option.some.inj given
    obtain ⟨account, loaded, programs, owner, _⟩ := receivable rfl
    exact ⟨account, loaded, programs, owner, rfl⟩

omit [DecidableEq K] in
theorem Receivable.ofMint {native : Bool} {payee mint : K}
    (receivable : Receivable env native payee program mint l) :
    ∀ key ∈ payeeAccount env native payee program mint, ∀ account, l.data key = .token account →
      account.mint = mint := by
  intro key given account held
  cases native with
  | true => cases given
  | false =>
    obtain rfl := Option.some.inj given
    obtain ⟨found, loaded, _, _, mints⟩ := receivable rfl
    rw [loaded] at held
    exact AccountData.token.inj held ▸ mints

omit [DecidableEq K] in
/-- A payee that has its account costs nothing. -/
theorem Receivable.openingCost {native : Bool} {payee mint : K}
    (receivable : Receivable env native payee program mint l) :
    openingCost env native payee program mint l = 0 := by
  unfold Source.openingCost
  cases native with
  | true => exact if_pos rfl
  | false =>
    obtain ⟨account, held, _⟩ := receivable rfl
    have used : ¬ (l.data (env.associatedTokenAddress payee program mint)).isEmpty = true := by
      rw [held]
      simp [AccountData.isEmpty]
    rw [if_neg Bool.false_ne_true, Host.openingLamports, if_neg used, Nat.sub_self]

omit [DecidableEq K] in
theorem HoldsAccount.stands {wallet mint : K} (holds : HoldsAccount env wallet program mint l)
    (isWallet : env.Wallet wallet) (standing : Standing env.Wallet l l') :
    HoldsAccount env wallet program mint l' := by
  obtain ⟨account, loaded, programs, owner, mints⟩ := holds
  obtain ⟨amount, kept⟩ := standing.accounts _ account loaded (owner ▸ isWallet)
  exact ⟨_, kept, programs, owner, mints⟩

omit [DecidableEq K] in
theorem Receivable.stands {native : Bool} {payee mint : K}
    (receivable : Receivable env native payee program mint l) (isWallet : env.Wallet payee)
    (standing : Standing env.Wallet l l') : Receivable env native payee program mint l' :=
  fun plain => (receivable plain).stands isWallet standing

omit [DecidableEq K] in
theorem payeeAccount_given (native : Bool) (payee mint : K) :
    native = true ∨ (payeeAccount env native payee program mint).isSome = true := by
  cases native with
  | true => exact Or.inl rfl
  | false => exact Or.inr rfl

/-! ## Their guards -/

section Guards
variable {e : EscrowSrc K}
  (present : Presentable env l env.srcId e.seeds e.bump a program e.token)
  (stored : l.data a = .program (.escrowSrc e))
include present stored

theorem EscrowSrc.withdrawCall_guards (holds : HoldsAccount env e.taker program e.token l)
    (preimage : hashv env [secret.1] = e.hashlock) (opened : e.withdrawOpen clock.unixTimestamp) :
    ∃ account, (e.withdrawCall env a program secret).guards env clock l =
      .ok (e.exit env a program e.taker e.taker false account, l) := by
  obtain ⟨account, loaded, programs, owner, _⟩ := present.account
  obtain ⟨taker, takerLoaded, takerProgram, takerOwner, _⟩ := holds
  refine ⟨account, ?_⟩
  simp only [Src.Withdraw.guards, bind_ok, requireMint_ok, requireSeeds_ok, requireThat_ok,
    loadEscrowSrc_ok, loadAssociatedToken_ok, exists_const, Exit.ready_ok]
  exact ⟨e, stored, rfl, present.known, rfl, present.seeds, account,
    ⟨loaded, programs, owner, rfl⟩, taker, ⟨takerLoaded, takerProgram, takerOwner, rfl⟩, (),
    opened, preimage, Or.inr rfl, rfl, trivial⟩

theorem EscrowSrc.publicWithdrawCall_guards {payer : K}
    (holds : HoldsAccount env e.taker program e.token l)
    (preimage : hashv env [secret.1] = e.hashlock)
    (opened : e.publicWithdrawOpen clock.unixTimestamp)
    (resolver : requireResolverAccess env env.srcId payer (env.accessAddress env.srcId payer) l =
      .ok ()) :
    ∃ account, (e.publicWithdrawCall env a program payer secret).guards env clock l =
      .ok (e.exit env a program payer e.taker false account, l) := by
  obtain ⟨account, loaded, programs, owner, _⟩ := present.account
  obtain ⟨taker, takerLoaded, takerProgram, takerOwner, _⟩ := holds
  refine ⟨account, ?_⟩
  simp only [Src.PublicWithdraw.guards, bind_ok, requireMint_ok, requireSeeds_ok, requireThat_ok,
    loadEscrowSrc_ok, loadAssociatedToken_ok, exists_const, Exit.ready_ok]
  exact ⟨e, stored, rfl, (), resolver, present.known, rfl, present.seeds, account,
    ⟨loaded, programs, owner, rfl⟩, taker, ⟨takerLoaded, takerProgram, takerOwner, rfl⟩, (),
    opened, preimage, Or.inr rfl, rfl, trivial⟩

theorem EscrowSrc.cancelCall_guards
    (receivable : Receivable env e.assetIsNative e.maker program e.token l)
    (opened : e.cancelOpen clock.unixTimestamp) :
    ∃ account, (e.cancelCall env a program).guards env clock l =
      .ok (e.exit env a program e.taker e.maker e.assetIsNative account, l) := by
  obtain ⟨account, loaded, programs, owner, _⟩ := present.account
  refine ⟨account, ?_⟩
  simp only [Src.CancelEscrow.guards, bind_ok, requireMint_ok, requireSeeds_ok, requireThat_ok,
    checkOptionalToken_ok, loadEscrowSrc_ok, loadAssociatedToken_ok, exists_const, Exit.ready_ok]
  exact ⟨e, stored, rfl, rfl, present.known, rfl, present.seeds, account,
    ⟨loaded, programs, owner, rfl⟩, receivable.checked, (), opened,
    payeeAccount_given e.assetIsNative e.maker e.token, rfl, trivial⟩

theorem EscrowSrc.publicCancelCall_guards {payer : K}
    (receivable : Receivable env e.assetIsNative e.maker program e.token l)
    (opened : e.publicCancelOpen clock.unixTimestamp)
    (resolver : requireResolverAccess env env.srcId payer (env.accessAddress env.srcId payer) l =
      .ok ()) :
    ∃ account, (e.publicCancelCall env a program payer).guards env clock l =
      .ok (e.exit env a program payer e.maker e.assetIsNative account, l) := by
  obtain ⟨account, loaded, programs, owner, _⟩ := present.account
  refine ⟨account, ?_⟩
  simp only [Src.PublicCancelEscrow.guards, bind_ok, requireMint_ok, requireSeeds_ok,
    requireThat_ok, checkOptionalToken_ok, loadEscrowSrc_ok, loadAssociatedToken_ok, exists_const,
    Exit.ready_ok]
  exact ⟨e, stored, rfl, rfl, present.known, rfl, (), resolver, present.seeds, account,
    ⟨loaded, programs, owner, rfl⟩, receivable.checked, (), opened,
    payeeAccount_given e.assetIsNative e.maker e.token, rfl, trivial⟩

end Guards

/-- The account of the recipient is there, or the caller can have it created. -/
def Fundable (env : Environment K) (caller payee : K) (native : Bool) (program : TokenProgram)
    (mint : K) (l : Chain K) : Prop :=
  native = false → HoldsAccount env payee program mint l ∨
    (l.data (env.associatedTokenAddress payee program mint) = .empty ∧ l.data caller = .empty ∧
      env.minimumBalance (env.tokenAccountLen mint) ≤
        l.lamports (env.associatedTokenAddress payee program mint) + l.lamports caller)

/-- Then it is there after the account checks, with no fewer tokens. -/
theorem Fundable.prepared {caller payee mint : K} {native : Bool}
    (payable : Fundable env caller payee native program mint l) (wallet : env.Wallet caller)
    (owned : env.mintProgram mint = some program) :
    ∃ ready, Dst.initRecipientAta env [caller] caller (payeeAccount env native payee program mint)
        payee program mint l = .ok ready ∧
      Receivable env native payee program mint ready ∧ (native = true → ready = l) ∧
      ∀ k, l.tokens k ≤ ready.tokens k := by
  cases native with
  | true =>
    refine ⟨l, rfl, fun plain => ?_, fun _ => rfl, fun k => Nat.le_refl _⟩
    cases plain
  | false =>
    have created : ∃ ready, Dst.initRecipientAta env [caller] caller
        (payeeAccount env false payee program mint) payee program mint l = .ok ready := by
      rcases payable rfl with ⟨account, loaded, programs, owner, mints⟩ | ⟨unused, plain, enough⟩
      · exact ⟨l, initIfNeeded_existing loaded programs owner mints rfl⟩
      · refine initIfNeeded_creates unused ?_ (List.mem_singleton_self _) plain owned rfl enough
        intro same
        exact env.associated_notWallet payee mint program (same ▸ wallet)
    obtain ⟨ready, init⟩ := created
    obtain ⟨account, initialized⟩ := initIfNeeded_ok init
    refine ⟨ready, init, fun _ => ⟨account, initialized.loaded, initialized.programEq,
      initialized.ownerEq, initialized.mintEq⟩, by simp, fun k => ?_⟩
    rcases initialized.existing with ⟨_, same⟩ | ⟨unused, _⟩
    · rw [same]
    · by_cases here : k = env.associatedTokenAddress payee program mint
      · rw [here, Ledger.tokens, unused]
        exact Nat.zero_le _
      · exact Nat.le_of_eq (Ledger.tokens_congr (initialized.others k here)).symm

section Guards
variable {d : EscrowDst K}
  (present : Presentable env l env.dstId d.seeds d.bump a program d.token)
  (stored : l.data a = .program (.escrowDst d))
include present stored

theorem EscrowDst.withdrawCall_guards
    (prepared : Dst.initRecipientAta env [d.creator] d.creator
      (payeeAccount env d.assetIsNative d.recipient program d.token) d.recipient program d.token l =
        .ok ready)
    (preimage : hashv env [secret.1] = d.hashlock) (opened : d.withdrawOpen clock.unixTimestamp) :
    ∃ account, (d.withdrawCall env a program secret).guards env clock l =
      .ok (d.exit env a program d.creator d.recipient account, ready) := by
  obtain ⟨account, loaded, programs, owner, _⟩ := present.account
  refine ⟨account, ?_⟩
  simp only [Dst.Withdraw.guards, bind_ok, requireMint_ok, requireSeeds_ok, requireThat_ok,
    loadEscrowDst_ok, loadAssociatedToken_ok, exists_const, Exit.ready_ok]
  exact ⟨d, stored, rfl, rfl, present.known, rfl, present.seeds, account,
    ⟨loaded, programs, owner, rfl⟩, ready, prepared, (), opened, preimage,
    payeeAccount_given d.assetIsNative d.recipient d.token, rfl, rfl⟩

theorem EscrowDst.publicWithdrawCall_guards {payer : K}
    (prepared : Dst.initRecipientAta env [payer] payer
      (payeeAccount env d.assetIsNative d.recipient program d.token) d.recipient program d.token l =
        .ok ready)
    (preimage : hashv env [secret.1] = d.hashlock)
    (opened : d.publicWithdrawOpen clock.unixTimestamp)
    (resolver : requireResolverAccess env env.dstId payer (env.accessAddress env.dstId payer) l =
      .ok ()) :
    ∃ account, (d.publicWithdrawCall env a program payer secret).guards env clock l =
      .ok (d.exit env a program payer d.recipient account, ready) := by
  obtain ⟨account, loaded, programs, owner, _⟩ := present.account
  refine ⟨account, ?_⟩
  simp only [Dst.PublicWithdraw.guards, bind_ok, requireMint_ok, requireSeeds_ok, requireThat_ok,
    loadEscrowDst_ok, loadAssociatedToken_ok, exists_const, Exit.ready_ok]
  exact ⟨d, stored, rfl, rfl, (), resolver, present.known, rfl, present.seeds, account,
    ⟨loaded, programs, owner, rfl⟩, ready, prepared, (), opened, preimage,
    payeeAccount_given d.assetIsNative d.recipient d.token, rfl, rfl⟩

theorem EscrowDst.cancelCall_guards
    (receivable : Receivable env d.assetIsNative d.creator program d.token l)
    (opened : d.cancelOpen clock.unixTimestamp) :
    ∃ account, (d.cancelCall env a program).guards env clock l =
      .ok (d.exit env a program d.creator d.creator account, l) := by
  obtain ⟨account, loaded, programs, owner, _⟩ := present.account
  refine ⟨account, ?_⟩
  simp only [Dst.Cancel.guards, bind_ok, requireMint_ok, requireSeeds_ok, requireThat_ok,
    checkOptionalToken_ok, loadEscrowDst_ok, loadAssociatedToken_ok, exists_const, Exit.ready_ok]
  exact ⟨d, stored, rfl, present.known, rfl, present.seeds, account,
    ⟨loaded, programs, owner, rfl⟩, receivable.checked, (), opened,
    payeeAccount_given d.assetIsNative d.creator d.token, rfl, trivial⟩

end Guards

/-! ## Success exactly when open -/

/-- The instruction succeeds now exactly under the condition, and what it leaves
is as stated. -/
def State.SucceedsIff (env : Environment K) (s : State K) (ix : Instruction K) (condition : Prop)
    (post : Chain K → Prop) : Prop :=
  ((∃ l', ix.run env s.clock s.ledger = .ok l') ↔ condition) ∧
    ∀ l', ix.run env s.clock s.ledger = .ok l' → post l'

theorem State.succeedsIff {ix : Instruction K} {condition : Prop} {post : Chain K → Prop}
    (needs : ∀ l', ix.run env s.clock s.ledger = .ok l' → condition)
    (enough : condition → ∃ l', ix.run env s.clock s.ledger = .ok l' ∧ post l') :
    s.SucceedsIff env ix condition post := by
  refine ⟨⟨fun ⟨l', ran⟩ => needs l' ran, fun met => ?_⟩, fun l' ran => ?_⟩
  · obtain ⟨l', ran, _⟩ := enough met
    exact ⟨l', ran⟩
  · obtain ⟨l'', ran', holds⟩ := enough (needs l' ran)
    rw [ran] at ran'
    cases ran'
    exact holds

/-- The same of the transaction that the instruction makes up. -/
def State.ProcessesIff (env : Environment K) (s : State K) (ix : Instruction K) (condition : Prop)
    (post : Chain K → Prop) : Prop :=
  ((∃ l', ix.process env s.clock s.ledger = .ok l') ↔ condition) ∧
    ∀ l', ix.process env s.clock s.ledger = .ok l' → post l'

theorem State.processesIff {ix : Instruction K} {condition : Prop} {post : Chain K → Prop}
    (needs : ∀ l', ix.run env s.clock s.ledger = .ok l' → condition)
    (enough : condition → ∃ l', ix.process env s.clock s.ledger = .ok l' ∧ post l') :
    s.ProcessesIff env ix condition post := by
  have needed : ∀ {l' : Chain K}, ix.process env s.clock s.ledger = .ok l' → condition :=
    fun processed => needs _ (Instruction.process_ok.mp processed).1
  refine ⟨⟨fun ⟨l', processed⟩ => needed processed, fun met => ?_⟩, fun l' processed => ?_⟩
  · obtain ⟨l', processed, _⟩ := enough met
    exact ⟨l', processed⟩
  · obtain ⟨l'', processed', holds⟩ := enough (needed processed)
    rw [processed] at processed'
    cases processed'
    exact holds

/-- The escrow at `a` and its token account are closed, and the payee got the
amount: in lamports, or in tokens at its associated account. -/
structure EndsPaying (env : Environment K) (a payee mint : K) (program : TokenProgram) (native : Bool)
    (amount : U64) (l l' : Chain K) : Prop where
  escrow : l'.data a = .empty
  account : l'.data (env.associatedTokenAddress a program mint) = .empty
  lamports : native = true → payee ≠ env.associatedTokenAddress a program mint →
    l.lamports payee + amount.toNat ≤ l'.lamports payee
  tokens : native = false → l.tokens (env.associatedTokenAddress payee program mint) + amount.toNat ≤
    l'.tokens (env.associatedTokenAddress payee program mint)

/-- The whitelist check of a resolver's call passes exactly when the latest
registration or removal of the resolver registered it. -/
theorem Trace.resolver_iff (free : env.CollisionFree) (trace : Trace env h s) (client user : K) :
    requireResolverAccess env client user (env.accessAddress client user) s.ledger = .ok () ↔
      Enrolled (client, user) (whitelistLog h) := by
  rw [← trace.access_iff free client user]
  constructor
  · intro passes
    obtain ⟨access, loaded, _⟩ := requireResolverAccess_ok.mp passes
    exact ⟨access, Ledger.programAt_eq_some.mpr loaded⟩
  · intro listed
    obtain ⟨access, held⟩ := listed
    exact trace.resolver_passes free held

omit [DecidableEq K] in
theorem wallet_of_signers {k : K} (wallet : env.Wallet k) : ∀ key ∈ [k], env.Wallet key := by
  simpa using wallet

section Source
variable {e : EscrowSrc K} (free : env.CollisionFree) (trace : Trace env h s)
  (wrapped : env.mintProgram env.NATIVE_MINT = some .token)
  (live : s.ledger.programAt a = some (.escrowSrc e))
  (owned : env.mintProgram e.token = some program)
  (whole : unrescued env a (env.associatedTokenAddress a program e.token) h = true)
include free trace wrapped live owned whole

omit owned in
/-- A call whose guards make it an exit of the escrow pays, and the runtime accepts it
where its wallets are rent-exempt. -/
theorem Trace.src_exit_pays (ix : Instruction K) {caller payee : K} {native : Bool}
    {account : TokenAccount K} (signed : ∀ key ∈ ix.signers, env.Wallet key)
    (passed : ix.exit env s.clock s.ledger =
      some (e.exit env a program caller payee native account, s.ledger))
    (receivable : Receivable env native payee program e.token s.ledger) (wallet : env.Wallet payee) :
    ∃ l', ix.run env s.clock s.ledger = .ok l' ∧
      EndsPaying env a payee e.token program native e.amount s.ledger l' ∧
      (RentSound env.toHost s.ledger → env.RentExempt s.ledger caller →
        env.RentExempt s.ledger e.taker →
        (native = true → env.ExemptWith s.ledger payee e.amount.toNat) →
        ix.process env s.clock s.ledger = .ok l') := by
  obtain ⟨l', ran, paid, accepted, _⟩ := trace.exit_pays free wrapped signed passed receivable.ofMint
    whole (trace.wallet_ne live wallet)
  refine ⟨l', ran, ⟨paid.escrow, paid.account, paid.lamports, fun plain => ?_⟩,
    fun rent callerExempt takerExempt paidExempt => accepted rent
      ⟨callerExempt, takerExempt, fun isNative => ⟨fun same => ?_, paidExempt isNative⟩⟩⟩
  · have received := paid.tokens plain
    obtain rfl : native = false := plain
    exact received
  · have isAta : payee = env.associatedTokenAddress a program e.token := same
    exact env.associated_notWallet a e.token program (isAta ▸ wallet)

theorem Trace.srcWithdraw_succeeds (holds : HoldsAccount env e.taker program e.token s.ledger)
    (preimage : hashv env [secret.1] = e.hashlock) (opened : e.withdrawOpen s.clock.unixTimestamp) :
    ∃ l', (Instruction.src (.withdraw (e.withdrawCall env a program secret))).run env s.clock
        s.ledger = .ok l' ∧
      EndsPaying env a e.taker e.token program false e.amount s.ledger l' ∧
      (RentSound env.toHost s.ledger → env.RentExempt s.ledger e.taker →
        (Instruction.src (.withdraw (e.withdrawCall env a program secret))).process env s.clock
          s.ledger = .ok l') := by
  have taker : env.Wallet e.taker := (trace.parties live).2
  have present := trace.presentable free live rfl owned whole (trace.placed live)
  obtain ⟨account, guards⟩ := EscrowSrc.withdrawCall_guards present
    (Ledger.programAt_eq_some.mp live) holds preimage opened
  obtain ⟨l', ran, ends, accepted⟩ := trace.src_exit_pays free wrapped live whole
    (.src (.withdraw (e.withdrawCall env a program secret))) (wallet_of_signers taker)
    (congrArg Except.toOption guards) (fun _ => holds) taker
  exact ⟨l', ran, ends, fun rent exempt => accepted rent exempt exempt nofun⟩

/-- In every reachable state, for every live source escrow that no rescue ran on
and whose taker has its token account: the taker's withdrawal goes through exactly
with a preimage of the hashlock and while its window is open, a public withdrawal
exactly with one in its window and by a whitelisted resolver, and either closes
the escrow and pays the taker the whole amount. The wallets that take part are
rent-exempt, and token accounts are. -/
theorem Trace.src_withdrawals (rent : RentSound env.toHost s.ledger)
    (holds : HoldsAccount env e.taker program e.token s.ledger)
    (exempt : env.RentExempt s.ledger e.taker) (secret : Bytes32) :
    s.ProcessesIff env (.src (.withdraw (e.withdrawCall env a program secret)))
        (hashv env [secret.1] = e.hashlock ∧ e.withdrawOpen s.clock.unixTimestamp)
        (EndsPaying env a e.taker e.token program false e.amount s.ledger) ∧
    ∀ payer, env.Wallet payer → env.RentExempt s.ledger payer → s.ProcessesIff env
        (.src (.publicWithdraw (e.publicWithdrawCall env a program payer secret)))
        (hashv env [secret.1] = e.hashlock ∧ e.publicWithdrawOpen s.clock.unixTimestamp ∧
          Enrolled (env.srcId, payer) (whitelistLog h))
        (EndsPaying env a e.taker e.token program false e.amount s.ledger) := by
  have stored := Ledger.programAt_eq_some.mp live
  have present := trace.presentable free live rfl owned whole (trace.placed live)
  have taker : env.Wallet e.taker := (trace.parties live).2
  refine ⟨State.processesIff (fun l' ran => ?_) fun ⟨preimage, opened⟩ => ?_,
    fun payer wallet payerExempt => State.processesIff (fun l' ran => ?_)
      fun ⟨preimage, opened, listed⟩ => ?_⟩
  · obtain ⟨_, _, _, _, _, steps⟩ := Src.withdraw_steps ran
    obtain rfl := EscrowSrc.unique live steps.loaded
    exact ⟨steps.secret, steps.window⟩
  · obtain ⟨l', _, ends, accepted⟩ :=
      trace.srcWithdraw_succeeds free wrapped live owned whole holds preimage opened
    exact ⟨l', accepted rent exempt, ends⟩
  · obtain ⟨resolver, _, _, _, _, _, steps⟩ := Src.publicWithdraw_steps ran
    obtain rfl := EscrowSrc.unique live steps.loaded
    exact ⟨steps.secret, steps.window, (trace.resolver_iff free _ _).mp resolver⟩
  · have resolver := (trace.resolver_iff free env.srcId payer).mpr listed
    obtain ⟨account, guards⟩ :=
      EscrowSrc.publicWithdrawCall_guards present stored holds preimage opened resolver
    obtain ⟨l', _, ends, accepted⟩ := trace.src_exit_pays free wrapped live whole
      (.src (.publicWithdraw (e.publicWithdrawCall env a program payer secret)))
      (wallet_of_signers wallet) (congrArg Except.toOption guards) (fun _ => holds) taker
    exact ⟨l', accepted rent payerExempt exempt nofun, ends⟩

section Cancellations
variable (rent : RentSound env.toHost s.ledger)
  (receivable : Receivable env e.assetIsNative e.maker program e.token s.ledger)
  (exempt : env.RentExempt s.ledger e.taker)
  (paid : e.assetIsNative = true → env.ExemptWith s.ledger e.maker e.amount.toNat)
include rent receivable exempt paid

theorem Trace.srcCancel_processes (opened : e.cancelOpen s.clock.unixTimestamp) :
    ∃ l', (Instruction.src (.cancelEscrow (e.cancelCall env a program))).process env s.clock
        s.ledger = .ok l' ∧
      EndsPaying env a e.maker e.token program e.assetIsNative e.amount s.ledger l' := by
  have present := trace.presentable free live rfl owned whole (trace.placed live)
  obtain ⟨maker, taker⟩ : env.Wallet e.maker ∧ env.Wallet e.taker := trace.parties live
  obtain ⟨account, guards⟩ := EscrowSrc.cancelCall_guards present (Ledger.programAt_eq_some.mp live)
    receivable opened
  obtain ⟨l', _, ends, accepted⟩ := trace.src_exit_pays free wrapped live whole
    (.src (.cancelEscrow (e.cancelCall env a program))) (wallet_of_signers taker)
    (congrArg Except.toOption guards) receivable maker
  exact ⟨l', accepted rent exempt exempt paid, ends⟩

theorem Trace.srcPublicCancel_processes {payer : K} (wallet : env.Wallet payer)
    (payerExempt : env.RentExempt s.ledger payer) (opened : e.publicCancelOpen s.clock.unixTimestamp)
    (listed : Enrolled (env.srcId, payer) (whitelistLog h)) :
    ∃ l', (Instruction.src (.publicCancelEscrow (e.publicCancelCall env a program payer))).process env
        s.clock s.ledger = .ok l' ∧
      EndsPaying env a e.maker e.token program e.assetIsNative e.amount s.ledger l' := by
  have present := trace.presentable free live rfl owned whole (trace.placed live)
  obtain ⟨maker, _⟩ : env.Wallet e.maker ∧ env.Wallet e.taker := trace.parties live
  have resolver := (trace.resolver_iff free env.srcId payer).mpr listed
  obtain ⟨account, guards⟩ := EscrowSrc.publicCancelCall_guards present
    (Ledger.programAt_eq_some.mp live) receivable opened resolver
  obtain ⟨l', _, ends, accepted⟩ := trace.src_exit_pays free wrapped live whole
    (.src (.publicCancelEscrow (e.publicCancelCall env a program payer)))
    (wallet_of_signers wallet) (congrArg Except.toOption guards) receivable maker
  exact ⟨l', accepted rent payerExempt exempt paid, ends⟩

end Cancellations

/-- In every reachable state, for every live source escrow that no rescue ran on
and whose maker has its token account or is paid natively: the taker's
cancellation goes through exactly from its stage on, a public one exactly from its
stage on and by a whitelisted resolver, and either closes the escrow and returns
the whole amount to the maker. The wallets that take part are rent-exempt, a maker
that is paid natively with what it gets, and token accounts are. -/
theorem Trace.src_cancellations (rent : RentSound env.toHost s.ledger)
    (receivable : Receivable env e.assetIsNative e.maker program e.token s.ledger)
    (exempt : env.RentExempt s.ledger e.taker)
    (paid : e.assetIsNative = true → env.ExemptWith s.ledger e.maker e.amount.toNat) :
    s.ProcessesIff env (.src (.cancelEscrow (e.cancelCall env a program)))
        (e.cancelOpen s.clock.unixTimestamp)
        (EndsPaying env a e.maker e.token program e.assetIsNative e.amount s.ledger) ∧
    ∀ payer, env.Wallet payer → env.RentExempt s.ledger payer → s.ProcessesIff env
        (.src (.publicCancelEscrow (e.publicCancelCall env a program payer)))
        (e.publicCancelOpen s.clock.unixTimestamp ∧ Enrolled (env.srcId, payer) (whitelistLog h))
        (EndsPaying env a e.maker e.token program e.assetIsNative e.amount s.ledger) := by
  refine ⟨State.processesIff (fun l' ran => (Src.cancelEscrow_times live).passed ran) fun opened => ?_,
    fun payer wallet payerExempt => State.processesIff (fun l' ran => ?_)
      fun ⟨opened, listed⟩ => ?_⟩
  · exact trace.srcCancel_processes free wrapped live owned whole rent receivable exempt paid opened
  · obtain ⟨resolver, _⟩ := Src.publicCancelEscrow_steps ran
    exact ⟨(Src.publicCancelEscrow_times live).passed ran, (trace.resolver_iff free _ _).mp resolver⟩
  · exact trace.srcPublicCancel_processes free wrapped live owned whole rent receivable exempt paid
      wallet payerExempt opened listed

end Source

def Sample.holds (wallet : Term) (l : Chain Term) : Bool :=
  (l.tokenAt (Sample.associated wallet)).any
    (fun t => decide (t.program = .token ∧ t.owner = wallet ∧ t.mint = Sample.usdc))

theorem Sample.holdsAccount {wallet : Term} {l : Chain Term} (held : Sample.holds wallet l = true) :
    HoldsAccount Sample.env wallet .token Sample.usdc l :=
  Sample.live_token held

/-- The escrow of the filled sample order stands at second `now`, with the
accounts of its parties and a taker that has its own rent. -/
def Sample.stands (now : Nat) (r : Run Term) : Bool :=
  ((r.state.ledger.programAt Sample.escrow).bind Data.toEscrowSrc).any (fun e =>
    decide (e.token = Sample.usdc ∧ e.taker = Sample.taker ∧ e.maker = Sample.maker ∧
      hashv Sample.env [Sample.secret.1] = e.hashlock ∧ e.timelocks.timelocks.deployedAt = 150 ∧
      e.timelocks.timelocks.offset .srcWithdrawal = 10 ∧
      e.timelocks.timelocks.offset .srcCancellation = 30 ∧ r.state.clock.unixTimestamp.toNat = now ∧
      unrescued Sample.env Sample.escrow (Sample.associated Sample.escrow) r.history = true ∧
      e.assetIsNative = false)) &&
  (Sample.holds Sample.taker r.state.ledger && (Sample.holds Sample.maker r.state.ledger &&
    decide (Sample.env.RentExempt r.state.ledger Sample.taker)))

def Sample.withdrawable : Sample.Scenario (fun r => Sample.stands 165 r = true) where
  commands := Sample.singleFill Sample.single ++ [.wait 165]

def Sample.cancellable : Sample.Scenario (fun r => Sample.stands 185 r = true) where
  commands := Sample.singleFill Sample.single ++ [.wait 185]

/-- Fifteen seconds after the fill the taker withdraws the 1000 tokens. -/
theorem Trace.src_withdrawals_sample : ∃ (s : State Term) (e : EscrowSrc Term) (l' : Chain Term),
    s.ledger.programAt Sample.escrow = some (.escrowSrc e) ∧
      (Instruction.src (.withdraw
        (e.withdrawCall Sample.env Sample.escrow .token Sample.secret))).process Sample.env s.clock
          s.ledger = .ok l' ∧ l'.data Sample.escrow = .empty := by
  obtain ⟨r, trace, rent, stands⟩ := Sample.withdrawable.reached_sound Sample.rentSound
  obtain ⟨held, accounts⟩ := Bool.and_eq_true_iff.mp stands
  obtain ⟨taker, others⟩ := Bool.and_eq_true_iff.mp accounts
  have exempt := of_decide_eq_true (Bool.and_eq_true_iff.mp others).2
  obtain ⟨e, live, token, isTaker, _, preimage, deployed, opens, closes, now, whole, _⟩ :=
    Sample.live_escrowSrc held
  have holds := Sample.holdsAccount taker
  rw [← isTaker, ← token] at holds
  rw [Sample.associated, ← token] at whole
  rw [← isTaker] at exempt
  obtain ⟨⟨_, succeeds⟩, ends⟩ := (trace.src_withdrawals Sample.collisionFree rfl live
    (token ▸ rfl) whole rent holds exempt Sample.secret).1
  have opened : e.withdrawOpen r.state.clock.unixTimestamp := by
    rw [EscrowSrc.withdrawOpen, Limbs.inWindow_iff, deployed, opens, closes, now]
    decide
  obtain ⟨l', ran⟩ := succeeds ⟨preimage, opened⟩
  exact ⟨r.state, e, l', live, ran, (ends l' ran).escrow⟩

/-- Thirty-five seconds after the fill the taker cancels for the maker. -/
theorem Trace.src_cancellations_sample : ∃ (s : State Term) (e : EscrowSrc Term) (l' : Chain Term),
    s.ledger.programAt Sample.escrow = some (.escrowSrc e) ∧
      (Instruction.src (.cancelEscrow (e.cancelCall Sample.env Sample.escrow .token))).process
        Sample.env s.clock s.ledger = .ok l' ∧ l'.data Sample.escrow = .empty := by
  obtain ⟨r, trace, rent, stands⟩ := Sample.cancellable.reached_sound Sample.rentSound
  obtain ⟨held, accounts⟩ := Bool.and_eq_true_iff.mp stands
  obtain ⟨_, others⟩ := Bool.and_eq_true_iff.mp accounts
  obtain ⟨maker, taker⟩ := Bool.and_eq_true_iff.mp others
  have exempt := of_decide_eq_true taker
  obtain ⟨e, live, token, isTaker, isMaker, _, deployed, _, closes, now, whole, plain⟩ :=
    Sample.live_escrowSrc held
  have holds := Sample.holdsAccount maker
  rw [← isMaker, ← token] at holds
  rw [Sample.associated, ← token] at whole
  rw [← isTaker] at exempt
  have paid : e.assetIsNative = true →
      Sample.env.ExemptWith r.state.ledger e.maker e.amount.toNat := by
    intro native
    rw [plain] at native
    cases native
  obtain ⟨⟨_, succeeds⟩, ends⟩ := (trace.src_cancellations Sample.collisionFree rfl live
    (token ▸ rfl) whole rent (fun _ => holds) exempt paid).1
  have opened : e.cancelOpen r.state.clock.unixTimestamp := by
    rw [EscrowSrc.cancelOpen, Limbs.reached_iff, deployed, closes, now]
    decide
  obtain ⟨l', ran⟩ := succeeds opened
  exact ⟨r.state, e, l', live, ran, (ends l' ran).escrow⟩

/-- The checks of a withdrawal leave rent-exempt a caller that can spare what the
recipient's account costs, and any other wallet that was. -/
theorem EscrowDst.prepared_exempt (d : EscrowDst K) {caller k : K}
    (prepared : Dst.initRecipientAta env [caller] caller
      (payeeAccount env d.assetIsNative d.recipient program d.token) d.recipient program d.token l =
        .ok ready)
    (callerWallet : env.Wallet caller) (wallet : env.Wallet k) (exempt : env.RentExempt l k)
    (spare : k = caller → env.CanSpare l k
      (openingCost env d.assetIsNative d.recipient program d.token l)) :
    env.RentExempt ready k := by
  have notAta : ∀ {key : K}, env.Wallet key →
      key ≠ env.associatedTokenAddress d.recipient program d.token :=
    fun isWallet same => env.associated_notWallet d.recipient d.token program (same ▸ isWallet)
  refine initRecipientAta_exempt (fun native => if_pos native) (fun key given => ?_) prepared
    (notAta wallet) (notAta callerWallet) exempt spare
  cases native : d.assetIsNative with
  | true =>
    rw [native] at given
    cases given
  | false =>
    rw [native] at given
    exact (Option.some.inj given).symm

section Destination
variable {d : EscrowDst K} (free : env.CollisionFree) (trace : Trace env h s)
  (wrapped : env.mintProgram env.NATIVE_MINT = some .token)
  (live : s.ledger.programAt a = some (.escrowDst d))
  (owned : env.mintProgram d.token = some program)
  (whole : unrescued env a (env.associatedTokenAddress a program d.token) h = true)
include free trace wrapped live owned whole

omit live owned in
theorem Trace.dst_exit_pays (ix : Instruction K) {caller payee : K} {account : TokenAccount K}
    (signed : ∀ key ∈ ix.signers, env.Wallet key)
    (passed : ix.exit env s.clock s.ledger = some (d.exit env a program caller payee account, ready))
    (receivable : Receivable env d.assetIsNative payee program d.token ready)
    (native : d.assetIsNative = true → ready = s.ledger)
    (more : ∀ k, s.ledger.tokens k ≤ ready.tokens k) (other : payee ≠ a) :
    ∃ l', ix.run env s.clock s.ledger = .ok l' ∧
      EndsPaying env a payee d.token program d.assetIsNative d.amount s.ledger l' ∧
      (RentSound env.toHost s.ledger → env.RentExempt ready caller → env.RentExempt ready d.creator →
        (d.assetIsNative = true → payee ≠ env.associatedTokenAddress a program d.token ∧
          env.ExemptWith s.ledger payee d.amount.toNat) →
        ix.process env s.clock s.ledger = .ok l') ∧
      (RentSound env.toHost s.ledger → ∀ k, env.Wallet k → env.RentExempt ready k →
        env.RentExempt l' k) := by
  obtain ⟨l', ran, paid, accepted, keeps⟩ :=
    trace.exit_pays free wrapped signed passed receivable.ofMint whole other
  refine ⟨l', ran, ⟨paid.escrow, paid.account, fun paidNative notAta => ?_, fun plain => ?_⟩,
    fun rent callerExempt creatorExempt paidExempt => accepted rent
      ⟨callerExempt, creatorExempt, fun isNative => ?_⟩, keeps⟩
  · rw [← native paidNative]
    exact paid.lamports paidNative notAta
  · have received := paid.tokens plain
    have receiver : (d.exit env a program caller payee account).receiver =
        env.associatedTokenAddress payee program d.token := by
      simp [Exit.receiver, EscrowDst.exit, payeeAccount, plain]
    rw [receiver] at received
    exact Nat.le_trans (Nat.add_le_add_right (more _) _) received
  · rw [native isNative]
    exact paidExempt isNative

theorem Trace.dstWithdraw_succeeds (other : d.recipient ≠ a)
    (fundable : Fundable env d.creator d.recipient d.assetIsNative program d.token s.ledger)
    (preimage : hashv env [secret.1] = d.hashlock) (opened : d.withdrawOpen s.clock.unixTimestamp) :
    ∃ l', (Instruction.dst (.withdraw (d.withdrawCall env a program secret))).run env s.clock
        s.ledger = .ok l' ∧
      EndsPaying env a d.recipient d.token program d.assetIsNative d.amount s.ledger l' ∧
      (RentSound env.toHost s.ledger →
        env.CanSpare s.ledger d.creator
          (openingCost env d.assetIsNative d.recipient program d.token s.ledger) →
        (d.assetIsNative = true → d.recipient ≠ env.associatedTokenAddress a program d.token ∧
          env.ExemptWith s.ledger d.recipient d.amount.toNat) →
        (Instruction.dst (.withdraw (d.withdrawCall env a program secret))).process env s.clock
            s.ledger = .ok l' ∧
          ∀ k, env.Wallet k → env.RentExempt s.ledger k → env.RentExempt l' k) := by
  have creator : env.Wallet d.creator := trace.parties live
  have present := trace.presentable free live rfl owned whole (trace.placed live)
  obtain ⟨ready, prepared, receivable, native, more⟩ := fundable.prepared creator owned
  obtain ⟨account, guards⟩ := EscrowDst.withdrawCall_guards present
    (Ledger.programAt_eq_some.mp live) prepared preimage opened
  obtain ⟨l', ran, ends, accepted, keeps⟩ := trace.dst_exit_pays free wrapped whole
    (.dst (.withdraw (d.withdrawCall env a program secret))) (wallet_of_signers creator)
    (congrArg Except.toOption guards) receivable native more other
  refine ⟨l', ran, ends, fun rent spare paid => ?_⟩
  have stays : ∀ k, env.Wallet k → env.RentExempt s.ledger k → env.RentExempt ready k :=
    fun k wallet exempt => d.prepared_exempt prepared creator wallet exempt fun same => same ▸ spare
  have exempt := stays _ creator (Nat.le_trans (Nat.le_add_right _ _) spare)
  exact ⟨accepted rent exempt exempt paid, fun k wallet before => keeps rent k wallet
    (stays k wallet before)⟩

theorem Trace.dstPublicWithdraw_succeeds (other : d.recipient ≠ a) {payer : K}
    (wallet : env.Wallet payer)
    (fundable : Fundable env payer d.recipient d.assetIsNative program d.token s.ledger)
    (preimage : hashv env [secret.1] = d.hashlock)
    (opened : d.publicWithdrawOpen s.clock.unixTimestamp)
    (listed : Enrolled (env.dstId, payer) (whitelistLog h)) :
    ∃ l', (Instruction.dst (.publicWithdraw (d.publicWithdrawCall env a program payer secret))).run
        env s.clock s.ledger = .ok l' ∧
      EndsPaying env a d.recipient d.token program d.assetIsNative d.amount s.ledger l' ∧
      (RentSound env.toHost s.ledger → env.RentExempt s.ledger d.creator →
        env.CanSpare s.ledger payer
          (openingCost env d.assetIsNative d.recipient program d.token s.ledger) →
        (d.assetIsNative = true → d.recipient ≠ env.associatedTokenAddress a program d.token ∧
          env.ExemptWith s.ledger d.recipient d.amount.toNat) →
        (Instruction.dst (.publicWithdraw (d.publicWithdrawCall env a program payer
          secret))).process env s.clock s.ledger = .ok l') := by
  have creator : env.Wallet d.creator := trace.parties live
  have present := trace.presentable free live rfl owned whole (trace.placed live)
  obtain ⟨ready, prepared, receivable, native, more⟩ := fundable.prepared wallet owned
  have resolver := (trace.resolver_iff free env.dstId payer).mpr listed
  obtain ⟨account, guards⟩ := EscrowDst.publicWithdrawCall_guards present
    (Ledger.programAt_eq_some.mp live) prepared preimage opened resolver
  obtain ⟨l', ran, ends, accepted, _⟩ := trace.dst_exit_pays free wrapped whole
    (.dst (.publicWithdraw (d.publicWithdrawCall env a program payer secret)))
    (wallet_of_signers wallet) (congrArg Except.toOption guards) receivable native more other
  refine ⟨l', ran, ends, fun rent creatorExempt spare paid => ?_⟩
  have payerExempt := d.prepared_exempt prepared wallet wallet
    (Nat.le_trans (Nat.le_add_right _ _) spare) fun _ => spare
  refine accepted rent payerExempt ?_ paid
  exact d.prepared_exempt prepared wallet creator creatorExempt fun same => same ▸ spare

/-- In every reachable state, for every live destination escrow that no rescue ran
on and whose recipient is neither the escrow itself nor paid natively at its token
account: the creator's withdrawal goes through exactly with a preimage of the hashlock
and while its window is open, a public one exactly with one in its window and by a
whitelisted resolver, and either closes the escrow and pays the recipient the whole
amount, in lamports or at its token account, which the caller pays for where it is
missing. The creator and the caller are rent-exempt, the caller without what that
costs, a recipient that is paid natively with what it gets, and token accounts are. -/
theorem Trace.dst_withdrawals (other : d.recipient ≠ a) (rent : RentSound env.toHost s.ledger)
    (paid : d.assetIsNative = true → d.recipient ≠ env.associatedTokenAddress a program d.token ∧
      env.ExemptWith s.ledger d.recipient d.amount.toNat) (secret : Bytes32) :
    (Fundable env d.creator d.recipient d.assetIsNative program d.token s.ledger →
      env.CanSpare s.ledger d.creator
        (openingCost env d.assetIsNative d.recipient program d.token s.ledger) →
      s.ProcessesIff env (.dst (.withdraw (d.withdrawCall env a program secret)))
        (hashv env [secret.1] = d.hashlock ∧ d.withdrawOpen s.clock.unixTimestamp)
        (EndsPaying env a d.recipient d.token program d.assetIsNative d.amount s.ledger)) ∧
    (env.RentExempt s.ledger d.creator → ∀ payer, env.Wallet payer →
      Fundable env payer d.recipient d.assetIsNative program d.token s.ledger →
      env.CanSpare s.ledger payer
        (openingCost env d.assetIsNative d.recipient program d.token s.ledger) →
      s.ProcessesIff env (.dst (.publicWithdraw (d.publicWithdrawCall env a program payer secret)))
        (hashv env [secret.1] = d.hashlock ∧ d.publicWithdrawOpen s.clock.unixTimestamp ∧
          Enrolled (env.dstId, payer) (whitelistLog h))
        (EndsPaying env a d.recipient d.token program d.assetIsNative d.amount s.ledger)) := by
  refine ⟨fun fundable spare => State.processesIff (fun l' ran => ?_) fun ⟨preimage, opened⟩ => ?_,
    fun exempt payer wallet fundable spare => State.processesIff (fun l' ran => ?_)
      fun ⟨preimage, opened, listed⟩ => ?_⟩
  · obtain ⟨_, _, _, _, _, steps⟩ := Dst.withdraw_steps ran
    obtain rfl := EscrowDst.unique live steps.loaded
    exact ⟨steps.secret, steps.window⟩
  · obtain ⟨l', _, ends, accepted⟩ :=
      trace.dstWithdraw_succeeds free wrapped live owned whole other fundable preimage opened
    exact ⟨l', (accepted rent spare paid).1, ends⟩
  · obtain ⟨resolver, _, _, _, _, _, steps⟩ := Dst.publicWithdraw_steps ran
    obtain rfl := EscrowDst.unique live steps.loaded
    exact ⟨steps.secret, steps.window, (trace.resolver_iff free _ _).mp resolver⟩
  · obtain ⟨l', _, ends, accepted⟩ := trace.dstPublicWithdraw_succeeds free wrapped live owned whole
      other wallet fundable preimage opened listed
    exact ⟨l', accepted rent exempt spare paid, ends⟩

/-- In every reachable state, for every live destination escrow that no rescue ran
on and whose creator has its token account or is paid natively, the creator's
cancellation succeeds exactly from its stage on; then it closes the escrow and
returns the whole amount. -/
theorem Trace.dst_cancellation
    (receivable : Receivable env d.assetIsNative d.creator program d.token s.ledger) :
    s.SucceedsIff env (.dst (.cancel (d.cancelCall env a program)))
      (d.cancelOpen s.clock.unixTimestamp)
      (EndsPaying env a d.creator d.token program d.assetIsNative d.amount s.ledger) := by
  have stored := Ledger.programAt_eq_some.mp live
  have present := trace.presentable free live rfl owned whole (trace.placed live)
  have creator : env.Wallet d.creator := trace.parties live
  refine State.succeedsIff (fun l' ran => ?_) fun opened => ?_
  · obtain ⟨_, _, _, steps⟩ := Dst.cancel_steps ran
    obtain rfl := EscrowDst.unique live steps.loaded
    exact steps.reached
  · obtain ⟨account, guards⟩ := EscrowDst.cancelCall_guards present stored receivable opened
    obtain ⟨l', ran, ends, _⟩ := trace.dst_exit_pays free wrapped whole
      (.dst (.cancel (d.cancelCall env a program))) (wallet_of_signers creator)
      (congrArg Except.toOption guards) receivable (fun _ => rfl) (fun _ => Nat.le_refl _)
      (trace.wallet_ne live creator)
    exact ⟨l', ran, ends⟩

end Destination

/-- A destination escrow for a recipient that has no token account yet. -/
def Sample.newcomerDst : Dst.Create Term :=
  { Sample.createDst Sample.single (Sample.offsets 10 20 30 40 5 8 12) 2000000 with
    recipient := Sample.authority }

/-- The escrow stands at second `now`, with the accounts that its exits need. -/
def Sample.awaits (now : Nat) (r : Run Term) : Bool :=
  ((r.state.ledger.programAt Sample.newcomerDst.escrow).bind Data.toEscrowDst).any (fun d =>
    decide (d.token = Sample.usdc ∧ d.creator = Sample.taker ∧ d.recipient = Sample.authority ∧
      d.assetIsNative = false ∧ hashv Sample.env [Sample.secret.1] = d.hashlock ∧
      d.timelocks.timelocks.deployedAt = 100 ∧ d.timelocks.timelocks.offset .dstWithdrawal = 5 ∧
      d.timelocks.timelocks.offset .dstCancellation = 12 ∧
      r.state.clock.unixTimestamp.toNat = now ∧ unrescued Sample.env Sample.newcomerDst.escrow
        (Sample.associated Sample.newcomerDst.escrow) r.history = true)) &&
  (Sample.holds Sample.taker r.state.ledger &&
    decide (r.state.ledger.data (Sample.associated Sample.authority) = .empty ∧
      r.state.ledger.data Sample.taker = .empty ∧
      Sample.env.minimumBalance (Sample.env.tokenAccountLen Sample.usdc) ≤
        r.state.ledger.lamports Sample.taker ∧
      Sample.env.CanSpare r.state.ledger Sample.taker
        (openingCost Sample.env false Sample.authority .token Sample.usdc r.state.ledger)))

def Sample.payable : Sample.Scenario (fun r => Sample.awaits 106 r = true) where
  commands := [.wait 100, .call (.dst (.create Sample.newcomerDst)), .wait 106]

def Sample.returnable : Sample.Scenario (fun r => Sample.awaits 112 r = true) where
  commands := [.wait 100, .call (.dst (.create Sample.newcomerDst)), .wait 112]

/-- The taker withdraws for the newcomer and pays for the account. -/
theorem Trace.dst_withdrawals_sample : ∃ (s : State Term) (d : EscrowDst Term) (l' : Chain Term),
    s.ledger.programAt Sample.newcomerDst.escrow = some (.escrowDst d) ∧
      (Instruction.dst (.withdraw
        (d.withdrawCall Sample.env Sample.newcomerDst.escrow .token Sample.secret))).process Sample.env
          s.clock s.ledger = .ok l' ∧ l'.data Sample.newcomerDst.escrow = .empty := by
  obtain ⟨r, trace, rent, awaits⟩ := Sample.payable.reached_sound Sample.rentSound
  obtain ⟨held, accounts⟩ := Bool.and_eq_true_iff.mp awaits
  obtain ⟨_, missing⟩ := Bool.and_eq_true_iff.mp accounts
  obtain ⟨unused, plain, enough, spare⟩ := of_decide_eq_true missing
  obtain ⟨d, live, token, creator, recipient, notNative, preimage, deployed, opens, closes, now,
    whole⟩ := Sample.live_escrowDst held
  rw [Sample.associated, ← token] at whole
  rw [← creator, ← recipient, ← notNative, ← token] at spare
  have other : d.recipient ≠ Sample.newcomerDst.escrow := by
    rw [recipient]
    decide
  have paid : d.assetIsNative = true →
      d.recipient ≠ Sample.env.associatedTokenAddress Sample.newcomerDst.escrow .token d.token ∧
        Sample.env.ExemptWith r.state.ledger d.recipient d.amount.toNat := by
    intro native
    rw [notNative] at native
    cases native
  have fundable : Fundable Sample.env d.creator d.recipient d.assetIsNative .token d.token
      r.state.ledger := by
    intro _
    rw [creator, recipient, token]
    exact Or.inr ⟨unused, plain, Nat.le_trans enough (Nat.le_add_left _ _)⟩
  obtain ⟨⟨_, succeeds⟩, ends⟩ := (trace.dst_withdrawals Sample.collisionFree rfl live
    (token ▸ rfl) whole other rent paid Sample.secret).1 fundable spare
  have opened : d.withdrawOpen r.state.clock.unixTimestamp := by
    rw [EscrowDst.withdrawOpen, Limbs.inWindow_iff, deployed, opens, closes, now]
    decide
  obtain ⟨l', ran⟩ := succeeds ⟨preimage, opened⟩
  exact ⟨r.state, d, l', live, ran, (ends l' ran).escrow⟩

/-- Without the withdrawal the taker gets the tokens back. -/
theorem Trace.dst_cancellation_sample : ∃ (s : State Term) (d : EscrowDst Term) (l' : Chain Term),
    s.ledger.programAt Sample.newcomerDst.escrow = some (.escrowDst d) ∧
      Dst.cancel Sample.env s.clock (d.cancelCall Sample.env Sample.newcomerDst.escrow .token)
        s.ledger = .ok l' ∧ l'.data Sample.newcomerDst.escrow = .empty := by
  obtain ⟨r, trace, awaits⟩ := Sample.returnable.reached
  obtain ⟨held, accounts⟩ := Bool.and_eq_true_iff.mp awaits
  obtain ⟨taker, _⟩ := Bool.and_eq_true_iff.mp accounts
  obtain ⟨d, live, token, creator, _, _, _, deployed, _, closes, now, whole⟩ :=
    Sample.live_escrowDst held
  have holds := Sample.holdsAccount taker
  rw [← creator, ← token] at holds
  rw [Sample.associated, ← token] at whole
  obtain ⟨⟨_, succeeds⟩, ends⟩ := trace.dst_cancellation Sample.collisionFree rfl live
    (token ▸ rfl) whole (fun _ => holds)
  have opened : d.cancelOpen r.state.clock.unixTimestamp := by
    rw [EscrowDst.cancelOpen, Limbs.reached_iff, deployed, closes, now]
  obtain ⟨l', ran⟩ := succeeds opened
  exact ⟨r.state, d, l', live, ran, (ends l' ran).escrow⟩

end CrossChainEscrow.Source
