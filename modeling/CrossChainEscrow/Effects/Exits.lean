import CrossChainEscrow.Effects.Common
import CrossChainEscrow.Library.Bookkeeping
import CrossChainEscrow.Source.Protocol

/-!
# What the seven exits have in common

A withdrawal or a cancellation of an escrow checks its accounts, its time and
its secret, and then does the same three things: it pays out the token account,
distributes the safety deposit and closes the escrow. `guards` are the checks of
each handler in the order of the source, and a handler is its guards followed by
`Exit.run`. A withdrawal on the destination chain may create the recipient's
account among its checks, so guards leave a ledger.
-/

namespace CrossChainEscrow.Source
open Library.Words Library.Bytes Library.Accounts Library.Bookkeeping Whitelist

/-- Whom an exit pays, and what. -/
structure Exit (K : Type) where
  programId : K
  caller : K
  rentPayer : K
  payee : K
  payeeAta : Option K
  mint : K
  tokenProgram : TokenProgram
  escrow : K
  ata : InterfaceAccount K
  native : Bool
  amount : U64
  deposit : U64
  seeds : SignerSeeds K

variable {K : Type} [DecidableEq K]

def Exit.context (clock : Clock) (x : Exit K) : Context K := ⟨x.programId, [x.caller], clock⟩

def Exit.payout (env : Environment K) (clock : Clock) (x : Exit K) (l : Chain K) :
    Result (Chain K) :=
  processPayout env (x.context clock) x.mint x.native x.amount x.escrow x.ata x.payee x.payeeAta
    x.rentPayer x.seeds x.tokenProgram l

def Exit.run (env : Environment K) (clock : Clock) (x : Exit K) (l : Chain K) :
    Result (Chain K) := do
  let l ← x.payout env clock l
  let l ← distributeSafetyDeposit x.escrow x.rentPayer x.caller x.deposit l
  closeProgram x.escrow x.rentPayer l

/-- The last guard: a payout in tokens first looks for the account to pay. -/
def Exit.ready (x : Exit K) (l : Chain K) : Result (Exit K × Chain K) := do
  requireThat (x.native = true ∨ x.payeeAta.isSome = true) EscrowError.missingRecipientAta.fault
  pure (x, l)

/-! ## Guards -/

def Src.Withdraw.guards (env : Environment K) (clock : Clock) (ix : Src.Withdraw K)
    (l : Chain K) : Result (Exit K × Chain K) := do
  let escrow ← loadEscrowSrc l ix.escrow
  requireThat (ix.taker = escrow.taker) EscrowError.invalidAccount.fault
  requireMint env.toHost ix.mint
  requireThat (ix.mint = escrow.token) EscrowError.invalidMint.fault
  requireSeeds env.toHost env.srcId escrow.seeds escrow.bump ix.escrow
  let escrowToken ← loadAssociatedToken env.toHost ix.escrowAta ix.escrow ix.tokenProgram
    ix.mint l
  let _ ← loadAssociatedToken env.toHost ix.takerAta ix.taker ix.tokenProgram ix.mint l
  requireWindow (getCurrentTimestamp clock) escrow.timelocks.timelocks .srcWithdrawal
    .srcCancellation
  requireThat (hashv env [ix.secret.1] = escrow.hashlock) EscrowError.invalidSecret.fault
  Exit.ready ⟨env.srcId, ix.taker, ix.taker, ix.taker, some ix.takerAta, ix.mint, ix.tokenProgram,
    ix.escrow, ⟨ix.escrowAta, escrowToken⟩, false, escrow.amount, escrow.safetyDeposit,
    ⟨escrow.seeds, escrow.bump⟩⟩ l

def Src.PublicWithdraw.guards (env : Environment K) (clock : Clock) (ix : Src.PublicWithdraw K)
    (l : Chain K) : Result (Exit K × Chain K) := do
  let escrow ← loadEscrowSrc l ix.escrow
  requireThat (ix.taker = escrow.taker) EscrowError.invalidAccount.fault
  requireResolverAccess env env.srcId ix.payer ix.resolverAccess l
  requireMint env.toHost ix.mint
  requireThat (ix.mint = escrow.token) EscrowError.invalidMint.fault
  requireSeeds env.toHost env.srcId escrow.seeds escrow.bump ix.escrow
  let escrowToken ← loadAssociatedToken env.toHost ix.escrowAta ix.escrow ix.tokenProgram
    ix.mint l
  let _ ← loadAssociatedToken env.toHost ix.takerAta ix.taker ix.tokenProgram ix.mint l
  requireWindow (getCurrentTimestamp clock) escrow.timelocks.timelocks .srcPublicWithdrawal
    .srcCancellation
  requireThat (hashv env [ix.secret.1] = escrow.hashlock) EscrowError.invalidSecret.fault
  Exit.ready ⟨env.srcId, ix.payer, ix.taker, ix.taker, some ix.takerAta, ix.mint, ix.tokenProgram,
    ix.escrow, ⟨ix.escrowAta, escrowToken⟩, false, escrow.amount, escrow.safetyDeposit,
    ⟨escrow.seeds, escrow.bump⟩⟩ l

def Src.CancelEscrow.guards (env : Environment K) (clock : Clock) (ix : Src.CancelEscrow K)
    (l : Chain K) : Result (Exit K × Chain K) := do
  let escrow ← loadEscrowSrc l ix.escrow
  requireThat (ix.taker = escrow.taker) EscrowError.invalidAccount.fault
  requireThat (ix.maker = escrow.maker) EscrowError.invalidAccount.fault
  requireMint env.toHost ix.mint
  requireThat (ix.mint = escrow.token) EscrowError.invalidMint.fault
  requireSeeds env.toHost env.srcId (escrowSeeds escrow.orderHash escrow.hashlock ix.taker
    escrow.amount) escrow.bump ix.escrow
  let escrowToken ← loadAssociatedToken env.toHost ix.escrowAta ix.escrow ix.tokenProgram
    ix.mint l
  checkOptionalToken env.toHost ix.makerAta ix.maker ix.tokenProgram ix.mint l
  requireReached (getCurrentTimestamp clock) escrow.timelocks.timelocks .srcCancellation
  Exit.ready ⟨env.srcId, ix.taker, ix.taker, ix.maker, ix.makerAta, ix.mint, ix.tokenProgram,
    ix.escrow, ⟨ix.escrowAta, escrowToken⟩, escrow.assetIsNative, escrow.amount,
    escrow.safetyDeposit, ⟨escrow.seeds, escrow.bump⟩⟩ l

def Src.PublicCancelEscrow.guards (env : Environment K) (clock : Clock)
    (ix : Src.PublicCancelEscrow K) (l : Chain K) : Result (Exit K × Chain K) := do
  let escrow ← loadEscrowSrc l ix.escrow
  requireThat (ix.taker = escrow.taker) EscrowError.invalidAccount.fault
  requireThat (ix.maker = escrow.maker) EscrowError.invalidAccount.fault
  requireMint env.toHost ix.mint
  requireThat (ix.mint = escrow.token) EscrowError.invalidMint.fault
  requireResolverAccess env env.srcId ix.payer ix.resolverAccess l
  requireSeeds env.toHost env.srcId (escrowSeeds escrow.orderHash escrow.hashlock ix.taker
    escrow.amount) escrow.bump ix.escrow
  let escrowToken ← loadAssociatedToken env.toHost ix.escrowAta ix.escrow ix.tokenProgram
    ix.mint l
  checkOptionalToken env.toHost ix.makerAta escrow.maker ix.tokenProgram ix.mint l
  requireReached (getCurrentTimestamp clock) escrow.timelocks.timelocks .srcPublicCancellation
  Exit.ready ⟨env.srcId, ix.payer, ix.taker, ix.maker, ix.makerAta, ix.mint, ix.tokenProgram,
    ix.escrow, ⟨ix.escrowAta, escrowToken⟩, escrow.assetIsNative, escrow.amount,
    escrow.safetyDeposit, ⟨escrow.seeds, escrow.bump⟩⟩ l

def Dst.Withdraw.guards (env : Environment K) (clock : Clock) (ix : Dst.Withdraw K)
    (l : Chain K) : Result (Exit K × Chain K) := do
  let escrow ← loadEscrowDst l ix.escrow
  requireThat (ix.creator = escrow.creator) EscrowError.invalidAccount.fault
  requireThat (ix.recipient = escrow.recipient) EscrowError.invalidAccount.fault
  requireMint env.toHost ix.mint
  requireThat (ix.mint = escrow.token) EscrowError.invalidMint.fault
  requireSeeds env.toHost env.dstId escrow.seeds escrow.bump ix.escrow
  let escrowToken ← loadAssociatedToken env.toHost ix.escrowAta ix.escrow ix.tokenProgram
    ix.mint l
  let l ← Dst.initRecipientAta env [ix.creator] ix.creator ix.recipientAta ix.recipient
    ix.tokenProgram ix.mint l
  requireWindow (getCurrentTimestamp clock) escrow.timelocks.timelocks .dstWithdrawal
    .dstCancellation
  requireThat (hashv env [ix.secret.1] = escrow.hashlock) EscrowError.invalidSecret.fault
  Exit.ready ⟨env.dstId, ix.creator, ix.creator, ix.recipient, ix.recipientAta, ix.mint,
    ix.tokenProgram, ix.escrow, ⟨ix.escrowAta, escrowToken⟩, escrow.assetIsNative, escrow.amount,
    escrow.safetyDeposit, ⟨escrow.seeds, escrow.bump⟩⟩ l

def Dst.PublicWithdraw.guards (env : Environment K) (clock : Clock) (ix : Dst.PublicWithdraw K)
    (l : Chain K) : Result (Exit K × Chain K) := do
  let escrow ← loadEscrowDst l ix.escrow
  requireThat (ix.creator = escrow.creator) EscrowError.invalidAccount.fault
  requireThat (ix.recipient = escrow.recipient) EscrowError.invalidAccount.fault
  requireResolverAccess env env.dstId ix.payer ix.resolverAccess l
  requireMint env.toHost ix.mint
  requireThat (ix.mint = escrow.token) EscrowError.invalidMint.fault
  requireSeeds env.toHost env.dstId escrow.seeds escrow.bump ix.escrow
  let escrowToken ← loadAssociatedToken env.toHost ix.escrowAta ix.escrow ix.tokenProgram
    ix.mint l
  let l ← Dst.initRecipientAta env [ix.payer] ix.payer ix.recipientAta ix.recipient
    ix.tokenProgram ix.mint l
  requireWindow (getCurrentTimestamp clock) escrow.timelocks.timelocks .dstPublicWithdrawal
    .dstCancellation
  requireThat (hashv env [ix.secret.1] = escrow.hashlock) EscrowError.invalidSecret.fault
  Exit.ready ⟨env.dstId, ix.payer, ix.creator, ix.recipient, ix.recipientAta, ix.mint,
    ix.tokenProgram, ix.escrow, ⟨ix.escrowAta, escrowToken⟩, escrow.assetIsNative, escrow.amount,
    escrow.safetyDeposit, ⟨escrow.seeds, escrow.bump⟩⟩ l

def Dst.Cancel.guards (env : Environment K) (clock : Clock) (ix : Dst.Cancel K) (l : Chain K) :
    Result (Exit K × Chain K) := do
  let escrow ← loadEscrowDst l ix.escrow
  requireThat (ix.creator = escrow.creator) EscrowError.invalidAccount.fault
  requireMint env.toHost ix.mint
  requireThat (ix.mint = escrow.token) EscrowError.invalidMint.fault
  requireSeeds env.toHost env.dstId escrow.seeds escrow.bump ix.escrow
  let escrowToken ← loadAssociatedToken env.toHost ix.escrowAta ix.escrow ix.tokenProgram
    ix.mint l
  checkOptionalToken env.toHost ix.creatorAta ix.creator ix.tokenProgram ix.mint l
  requireReached (getCurrentTimestamp clock) escrow.timelocks.timelocks .dstCancellation
  Exit.ready ⟨env.dstId, ix.creator, ix.creator, ix.creator, ix.creatorAta, ix.mint, ix.tokenProgram,
    ix.escrow, ⟨ix.escrowAta, escrowToken⟩, escrow.assetIsNative, escrow.amount,
    escrow.safetyDeposit, ⟨escrow.seeds, escrow.bump⟩⟩ l

/-- The exit that an instruction is, if its guards pass, and the ledger they
leave. -/
def Instruction.exit (env : Environment K) (clock : Clock) (l : Chain K) :
    Instruction K → Option (Exit K × Chain K)
  | .src (.withdraw ix) => (ix.guards env clock l).toOption
  | .src (.publicWithdraw ix) => (ix.guards env clock l).toOption
  | .src (.cancelEscrow ix) => (ix.guards env clock l).toOption
  | .src (.publicCancelEscrow ix) => (ix.guards env clock l).toOption
  | .dst (.withdraw ix) => (ix.guards env clock l).toOption
  | .dst (.publicWithdraw ix) => (ix.guards env clock l).toOption
  | .dst (.cancel ix) => (ix.guards env clock l).toOption
  | _ => none

/-! ## A handler is its guards followed by the exit -/

section Equations
variable {env : Environment K} {clock : Clock} {l : Chain K}

/-- Looking for the account to pay is the first thing an exit does. -/
theorem Exit.ready_run (x : Exit K) :
    (x.ready l >>= fun p => p.1.run env clock p.2) = x.run env clock l := by
  obtain ⟨_, _, _, _, payeeAta, _, _, _, _, native, _, _, _⟩ := x
  cases native with
  | true => rfl
  | false =>
    cases payeeAta with
    | none => rfl
    | some key => rfl

theorem Src.withdraw_eq (ix : Src.Withdraw K) :
    Src.withdraw env clock ix l = ix.guards env clock l >>= fun p => p.1.run env clock p.2 := by
  simp only [Src.withdraw, Src.utilsWithdraw, Src.Withdraw.guards, bind_assoc, Exit.ready_run]
  rfl

theorem Src.publicWithdraw_eq (ix : Src.PublicWithdraw K) :
    Src.publicWithdraw env clock ix l = ix.guards env clock l >>= fun p => p.1.run env clock p.2 := by
  simp only [Src.publicWithdraw, Src.utilsWithdraw, Src.PublicWithdraw.guards, bind_assoc,
    Exit.ready_run]
  rfl

theorem Src.cancelEscrow_eq (ix : Src.CancelEscrow K) :
    Src.cancelEscrow env clock ix l = ix.guards env clock l >>= fun p => p.1.run env clock p.2 := by
  simp only [Src.cancelEscrow, Src.utilsCancel, Src.CancelEscrow.guards, bind_assoc, Exit.ready_run]
  rfl

theorem Src.publicCancelEscrow_eq (ix : Src.PublicCancelEscrow K) :
    Src.publicCancelEscrow env clock ix l =
      ix.guards env clock l >>= fun p => p.1.run env clock p.2 := by
  simp only [Src.publicCancelEscrow, Src.utilsCancel, Src.PublicCancelEscrow.guards, bind_assoc,
    Exit.ready_run]
  rfl

theorem Dst.withdraw_eq (ix : Dst.Withdraw K) :
    Dst.withdraw env clock ix l = ix.guards env clock l >>= fun p => p.1.run env clock p.2 := by
  simp only [Dst.withdraw, Dst.utilsWithdraw, Dst.Withdraw.guards, bind_assoc, Exit.ready_run]
  rfl

theorem Dst.publicWithdraw_eq (ix : Dst.PublicWithdraw K) :
    Dst.publicWithdraw env clock ix l = ix.guards env clock l >>= fun p => p.1.run env clock p.2 := by
  simp only [Dst.publicWithdraw, Dst.utilsWithdraw, Dst.PublicWithdraw.guards, bind_assoc,
    Exit.ready_run]
  rfl

theorem Dst.cancel_eq (ix : Dst.Cancel K) :
    Dst.cancel env clock ix l = ix.guards env clock l >>= fun p => p.1.run env clock p.2 := by
  simp only [Dst.cancel, Dst.Cancel.guards, bind_assoc, Exit.ready_run]
  -- the creator is both rent payer and caller, so no deposit is distributed
  simp only [Exit.run, distributeSafetyDeposit, ne_eq, not_true_eq_false, if_false, pure_bind]
  rfl

theorem Instruction.exit_run {ix : Instruction K} {x : Exit K} {ready : Chain K}
    (passed : ix.exit env clock l = some (x, ready)) :
    ix.run env clock l = x.run env clock ready := by
  have continued : ∀ {guards : Result (Exit K × Chain K)}, guards.toOption = some (x, ready) →
      (guards >>= fun p => p.1.run env clock p.2) = x.run env clock ready := by
    intro guards passed
    rw [ok_of_toOption passed]
    rfl
  cases ix with
  | whitelist ix => cases passed
  | src ix =>
    cases ix with
    | withdraw ix => exact (Src.withdraw_eq ix).trans (continued passed)
    | publicWithdraw ix => exact (Src.publicWithdraw_eq ix).trans (continued passed)
    | cancelEscrow ix => exact (Src.cancelEscrow_eq ix).trans (continued passed)
    | publicCancelEscrow ix => exact (Src.publicCancelEscrow_eq ix).trans (continued passed)
    | _ => cases passed
  | dst ix =>
    cases ix with
    | withdraw ix => exact (Dst.withdraw_eq ix).trans (continued passed)
    | publicWithdraw ix => exact (Dst.publicWithdraw_eq ix).trans (continued passed)
    | cancel ix => exact (Dst.cancel_eq ix).trans (continued passed)
    | _ => cases passed

/-! ## What the guards have checked -/

/-- The accounts whose lamports an exit may change. -/
def Exit.accounts (x : Exit K) : List K :=
  [x.caller, x.rentPayer, x.payee, x.escrow, x.ata.key] ++ x.payeeAta.toList

/-- The account at `key` is the payee's own associated account. -/
def Exit.Receives (env : Environment K) (x : Exit K) (l : Chain K) (key : K) : Prop :=
  ∃ account, l.data key = .token account ∧ account.program = x.tokenProgram ∧
    account.owner = x.payee ∧ key = env.associatedTokenAddress x.payee x.tokenProgram x.mint

/-- The exit is one of the escrow that is stored. -/
inductive Exit.Stored (env : Environment K) (x : Exit K) (l : Chain K) : Prop
  | src {escrow : EscrowSrc K} (live : l.programAt x.escrow = some (.escrowSrc escrow))
      (mint : x.mint = escrow.token) (amount : x.amount = escrow.amount)
      (deposit : x.deposit = escrow.safetyDeposit) (rentPayer : x.rentPayer = escrow.taker)
      (payee : (x.payee = escrow.taker ∧ x.native = false) ∨
        (x.payee = escrow.maker ∧ x.native = escrow.assetIsNative))
  | dst {escrow : EscrowDst K} (live : l.programAt x.escrow = some (.escrowDst escrow))
      (mint : x.mint = escrow.token) (amount : x.amount = escrow.amount)
      (deposit : x.deposit = escrow.safetyDeposit) (rentPayer : x.rentPayer = escrow.creator)
      (payee : x.payee = escrow.recipient ∨ x.payee = escrow.creator)
      (native : x.native = escrow.assetIsNative)

structure Exit.Checked (env : Environment K) (ix : Instruction K) (x : Exit K)
    (l ready : Chain K) : Prop where
  signer : x.caller ∈ ix.signers
  writable : ∀ k ∈ x.accounts, k ∈ ix.writable
  stored : x.Stored env l
  seeds : env.createProgramAddress x.programId x.seeds.seeds x.seeds.bump = some x.escrow
  token : l.data x.ata.key = .token x.ata.account
  program : x.ata.account.program = x.tokenProgram
  owner : x.ata.account.owner = x.escrow
  derived : x.ata.key = env.associatedTokenAddress x.escrow x.tokenProgram x.mint
  payeeToken : x.native = false → ∃ key, x.payeeAta = some key ∧ x.Receives env ready key
  prepared : ready = l ∨ Dst.initRecipientAta env [x.caller] x.caller x.payeeAta x.payee
    x.tokenProgram x.mint l = .ok ready

omit [DecidableEq K] in
theorem Exit.ready_ok {x x' : Exit K} {ready : Chain K} :
    x.ready l = .ok (x', ready) ↔
      (x.native = true ∨ x.payeeAta.isSome = true) ∧ x' = x ∧ ready = l := by
  simp only [Exit.ready, bind_ok, requireThat_ok, pure_ok, exists_const, Prod.mk.injEq]

omit [DecidableEq K] in
/-- A payout that is not native has the account that was checked. -/
theorem Exit.payee_given {native : Bool} {payeeAta : Option K} {P : K → Prop}
    (given : native = true ∨ payeeAta.isSome = true) (checked : ∀ key ∈ payeeAta, P key)
    (plain : native = false) : ∃ key, payeeAta = some key ∧ P key := by
  rcases given with native | given
  · rw [plain] at native
    cases native
  · obtain ⟨key, found⟩ := Option.isSome_iff_exists.mp given
    exact ⟨key, found, checked key found⟩

section Checked
variable {x : Exit K} {ready : Chain K}

theorem Src.Withdraw.checked {ix : Src.Withdraw K}
    (h : ix.guards env clock l = .ok (x, ready)) :
    x.Checked env (.src (.withdraw ix)) l ready := by
  simp only [Src.Withdraw.guards, bind_ok, requireMint_ok, requireSeeds_ok, requireThat_ok,
    loadEscrowSrc_ok, loadAssociatedToken_ok, exists_const, Exit.ready_ok] at h
  obtain ⟨escrow, loaded, taker, mintKnown, mint, seeds, escrowToken,
    ⟨token, program, owner, derived⟩, takerToken, receives, _, window, secret, _, rfl, rfl⟩ := h
  exact {
    signer := List.mem_singleton_self _
    writable := by simp [Exit.accounts, Source.Instruction.writable, Src.Instruction.writable]
    stored := .src (Ledger.programAt_eq_some.mpr loaded) mint rfl rfl taker
      (Or.inl ⟨taker, rfl⟩)
    seeds := seeds
    token := token
    program := program
    owner := owner
    derived := derived
    payeeToken := fun _ => ⟨_, rfl, takerToken, receives⟩
    prepared := Or.inl rfl }

theorem Src.PublicWithdraw.checked {ix : Src.PublicWithdraw K}
    (h : ix.guards env clock l = .ok (x, ready)) :
    x.Checked env (.src (.publicWithdraw ix)) l ready := by
  simp only [Src.PublicWithdraw.guards, bind_ok, requireMint_ok, requireSeeds_ok, requireThat_ok,
    loadEscrowSrc_ok, loadAssociatedToken_ok, exists_const, Exit.ready_ok] at h
  obtain ⟨escrow, loaded, taker, _, resolver, mintKnown, mint, seeds, escrowToken,
    ⟨token, program, owner, derived⟩, takerToken, receives, _, window, secret, _, rfl, rfl⟩ := h
  exact {
    signer := List.mem_singleton_self _
    writable := by simp [Exit.accounts, Source.Instruction.writable, Src.Instruction.writable]
    stored := .src (Ledger.programAt_eq_some.mpr loaded) mint rfl rfl taker
      (Or.inl ⟨taker, rfl⟩)
    seeds := seeds
    token := token
    program := program
    owner := owner
    derived := derived
    payeeToken := fun _ => ⟨_, rfl, takerToken, receives⟩
    prepared := Or.inl rfl }

theorem Src.CancelEscrow.checked {ix : Src.CancelEscrow K}
    (h : ix.guards env clock l = .ok (x, ready)) :
    x.Checked env (.src (.cancelEscrow ix)) l ready := by
  simp only [Src.CancelEscrow.guards, bind_ok, requireMint_ok, requireSeeds_ok, requireThat_ok,
    checkOptionalToken_ok, loadEscrowSrc_ok, loadAssociatedToken_ok, exists_const,
    Exit.ready_ok] at h
  obtain ⟨escrow, loaded, taker, maker, mintKnown, mint, seeds, escrowToken,
    ⟨token, program, owner, derived⟩, makerToken, _, reached, given, rfl, rfl⟩ := h
  rw [taker] at seeds
  exact {
    signer := List.mem_singleton_self _
    writable := by simp [Exit.accounts, Source.Instruction.writable, Src.Instruction.writable]
    stored := .src (Ledger.programAt_eq_some.mpr loaded) mint rfl rfl taker
      (Or.inr ⟨maker, rfl⟩)
    seeds := seeds
    token := token
    program := program
    owner := owner
    derived := derived
    payeeToken := Exit.payee_given given makerToken
    prepared := Or.inl rfl }

theorem Src.PublicCancelEscrow.checked {ix : Src.PublicCancelEscrow K}
    (h : ix.guards env clock l = .ok (x, ready)) :
    x.Checked env (.src (.publicCancelEscrow ix)) l ready := by
  simp only [Src.PublicCancelEscrow.guards, bind_ok, requireMint_ok, requireSeeds_ok,
    requireThat_ok, checkOptionalToken_ok, loadEscrowSrc_ok, loadAssociatedToken_ok, exists_const,
    Exit.ready_ok] at h
  obtain ⟨escrow, loaded, taker, maker, mintKnown, mint, _, resolver, seeds, escrowToken,
    ⟨token, program, owner, derived⟩, makerToken, _, reached, given, rfl, rfl⟩ := h
  rw [taker] at seeds
  rw [← maker] at makerToken
  exact {
    signer := List.mem_singleton_self _
    writable := by
      simp only [Exit.accounts, Source.Instruction.writable, Src.Instruction.writable]
      simp +contextual
    stored := .src (Ledger.programAt_eq_some.mpr loaded) mint rfl rfl taker
      (Or.inr ⟨maker, rfl⟩)
    seeds := seeds
    token := token
    program := program
    owner := owner
    derived := derived
    payeeToken := Exit.payee_given given makerToken
    prepared := Or.inl rfl }

/-- The recipient's account, once it was created if it had to be. -/
theorem Dst.initRecipientAta_receives {signers : List K} {payer recipient mint : K}
    {recipientAta : Option K} {program : TokenProgram}
    (h : Dst.initRecipientAta env signers payer recipientAta recipient program mint l = .ok ready) :
    ∀ key ∈ recipientAta, ∃ account, ready.data key = .token account ∧
      account.program = program ∧ account.owner = recipient ∧
      key = env.associatedTokenAddress recipient program mint := by
  rintro key rfl
  obtain ⟨account, init⟩ := initIfNeeded_ok h
  exact ⟨account, init.loaded, init.programEq, init.ownerEq, init.derived⟩

theorem Dst.Withdraw.checked {ix : Dst.Withdraw K}
    (h : ix.guards env clock l = .ok (x, ready)) :
    x.Checked env (.dst (.withdraw ix)) l ready := by
  simp only [Dst.Withdraw.guards, bind_ok, requireMint_ok, requireSeeds_ok, requireThat_ok,
    loadEscrowDst_ok, loadAssociatedToken_ok, exists_const, Exit.ready_ok] at h
  obtain ⟨escrow, loaded, creator, recipient, mintKnown, mint, seeds, escrowToken,
    ⟨token, program, owner, derived⟩, initialized, init, _, window, secret, given, rfl, rfl⟩ := h
  exact {
    signer := List.mem_singleton_self _
    writable := by simp [Exit.accounts, Source.Instruction.writable, Dst.Instruction.writable]
    stored := .dst (Ledger.programAt_eq_some.mpr loaded) mint rfl rfl creator
      (Or.inl recipient) rfl
    seeds := seeds
    token := token
    program := program
    owner := owner
    derived := derived
    payeeToken := Exit.payee_given given (Dst.initRecipientAta_receives init)
    prepared := Or.inr init }

theorem Dst.PublicWithdraw.checked {ix : Dst.PublicWithdraw K}
    (h : ix.guards env clock l = .ok (x, ready)) :
    x.Checked env (.dst (.publicWithdraw ix)) l ready := by
  simp only [Dst.PublicWithdraw.guards, bind_ok, requireMint_ok, requireSeeds_ok, requireThat_ok,
    loadEscrowDst_ok, loadAssociatedToken_ok, exists_const, Exit.ready_ok] at h
  obtain ⟨escrow, loaded, creator, recipient, _, resolver, mintKnown, mint, seeds, escrowToken,
    ⟨token, program, owner, derived⟩, initialized, init, _, window, secret, given, rfl, rfl⟩ := h
  exact {
    signer := List.mem_singleton_self _
    writable := by
      simp only [Exit.accounts, Source.Instruction.writable, Dst.Instruction.writable]
      simp +contextual
    stored := .dst (Ledger.programAt_eq_some.mpr loaded) mint rfl rfl creator
      (Or.inl recipient) rfl
    seeds := seeds
    token := token
    program := program
    owner := owner
    derived := derived
    payeeToken := Exit.payee_given given (Dst.initRecipientAta_receives init)
    prepared := Or.inr init }

theorem Dst.Cancel.checked {ix : Dst.Cancel K} (h : ix.guards env clock l = .ok (x, ready)) :
    x.Checked env (.dst (.cancel ix)) l ready := by
  simp only [Dst.Cancel.guards, bind_ok, requireMint_ok, requireSeeds_ok, requireThat_ok,
    checkOptionalToken_ok, loadEscrowDst_ok, loadAssociatedToken_ok, exists_const,
    Exit.ready_ok] at h
  obtain ⟨escrow, loaded, creator, mintKnown, mint, seeds, escrowToken,
    ⟨token, program, owner, derived⟩, creatorToken, _, reached, given, rfl, rfl⟩ := h
  exact {
    signer := List.mem_singleton_self _
    writable := by simp [Exit.accounts, Source.Instruction.writable, Dst.Instruction.writable]
    stored := .dst (Ledger.programAt_eq_some.mpr loaded) mint rfl rfl creator
      (Or.inr creator) rfl
    seeds := seeds
    token := token
    program := program
    owner := owner
    derived := derived
    payeeToken := Exit.payee_given given creatorToken
    prepared := Or.inl rfl }

theorem Instruction.exit_checked {ix : Instruction K}
    (passed : ix.exit env clock l = some (x, ready)) : x.Checked env ix l ready := by
  cases ix with
  | whitelist ix => cases passed
  | src ix =>
    cases ix with
    | withdraw ix => exact Src.Withdraw.checked (ok_of_toOption passed)
    | publicWithdraw ix => exact Src.PublicWithdraw.checked (ok_of_toOption passed)
    | cancelEscrow ix => exact Src.CancelEscrow.checked (ok_of_toOption passed)
    | publicCancelEscrow ix => exact Src.PublicCancelEscrow.checked (ok_of_toOption passed)
    | _ => cases passed
  | dst ix =>
    cases ix with
    | withdraw ix => exact Dst.Withdraw.checked (ok_of_toOption passed)
    | publicWithdraw ix => exact Dst.PublicWithdraw.checked (ok_of_toOption passed)
    | cancel ix => exact Dst.Cancel.checked (ok_of_toOption passed)
    | _ => cases passed

end Checked

end Equations

end CrossChainEscrow.Source
