import CrossChainEscrow.Source.Whitelist

/-!
# The destination-chain program

`cross-chain-escrow-dst/src/lib.rs` and `utils.rs`.
-/
namespace CrossChainEscrow.Source.Dst
open Library.Words Library.Bytes Library.Accounts Whitelist

variable {K : Type} [DecidableEq K]

structure Create (K : Type) where
  creator : K
  mint : K
  creatorAta : Option K
  escrow : K
  escrowAta : K
  tokenProgram : TokenProgram
  orderHash : Bytes32
  hashlock : Bytes32
  amount : U64
  safetyDeposit : U64
  recipient : K
  timelocks : Limbs
  srcCancellationTimestamp : U32
  assetIsNative : Bool

structure Withdraw (K : Type) where
  creator : K
  recipient : K
  mint : K
  escrow : K
  escrowAta : K
  recipientAta : Option K
  tokenProgram : TokenProgram
  secret : Bytes32

structure PublicWithdraw (K : Type) where
  creator : K
  recipient : K
  payer : K
  resolverAccess : K
  mint : K
  escrow : K
  escrowAta : K
  recipientAta : Option K
  tokenProgram : TokenProgram
  secret : Bytes32

structure Cancel (K : Type) where
  creator : K
  mint : K
  escrow : K
  escrowAta : K
  creatorAta : Option K
  tokenProgram : TokenProgram

/-- The `recipient` account of the source is neither read nor written. -/
structure RescueFunds (K : Type) where
  creator : K
  mint : K
  escrow : K
  escrowAta : K
  creatorAta : K
  tokenProgram : TokenProgram
  orderHash : Bytes32
  hashlock : Bytes32
  escrowAmount : U64
  rescueAmount : U64

/-- Native tokens stay lamports of the escrow's token account; nothing is
wrapped, so the account's token amount does not count them. -/
def fundEscrow (env : Environment K) (ctx : Context K) (ix : Create K) (l : Chain K) :
    Result (Chain K) :=
  if ix.assetIsNative = true then
    uniTransfer env ctx (.nativeTransfer ix.creator ix.escrowAta ix.amount.toNat) none l
  else do
    let creatorAta ← orFault ix.creatorAta EscrowError.missingCreatorAta.fault
    uniTransfer env ctx (.tokenTransfer creatorAta ix.creator ix.escrowAta ix.mint
      ix.amount.toNat ix.tokenProgram) none l

def Create.seeds (ix : Create K) : Seeds K :=
  escrowSeeds ix.orderHash ix.hashlock ix.creator ix.amount

/-- The timelocks with the clock of the creation. -/
def Create.updatedTimelocks (ix : Create K) (now : U32) : Timelocks :=
  ix.timelocks.timelocks.setDeployedAt now

/-- The escrow that `set_inner` writes. -/
def Create.newEscrow (env : Environment K) (ix : Create K) (now : U32) : EscrowDst K where
  orderHash := ix.orderHash
  hashlock := ix.hashlock
  creator := ix.creator
  recipient := ix.recipient
  token := ix.mint
  assetIsNative := ix.assetIsNative
  amount := ix.amount
  safetyDeposit := ix.safetyDeposit
  timelocks := (ix.updatedTimelocks now).getTimelocks
  bump := (env.findProgramAddress env.dstId ix.seeds).2

def create (env : Environment K) (clock : Clock) (ix : Create K) (l : Chain K) :
    Result (Chain K) := do
  let ctx : Context K := ⟨env.dstId, [ix.creator], clock⟩
  requireMint env.toHost ix.mint
  checkOptionalToken env.toHost ix.creatorAta ix.creator ix.tokenProgram ix.mint l
  requireFound env.toHost env.dstId ix.seeds ix.escrow
  let l ← createAccount env.toHost ctx.signers ix.creator ix.escrow
    (discriminatorBytes + EscrowDst.initSpace) l
  let l ← initIfNeeded env.toHost ctx.signers ix.creator ix.escrowAta ix.escrow ix.tokenProgram
    ix.mint l
  let now := getCurrentTimestamp clock
  let cancellationStart ← (ix.updatedTimelocks now).get .dstCancellation
  requireThat (cancellationStart ≤ ix.srcCancellationTimestamp)
    EscrowError.invalidCreationTime.fault
  requireThat (ix.amount ≠ 0 ∧ ix.safetyDeposit ≠ 0) EscrowError.zeroAmountOrDeposit.fault
  requireThat (ix.safetyDeposit.toNat ≤
    env.minimumBalance (EscrowDst.initSpace + discriminatorBytes))
    EscrowError.safetyDepositTooLarge.fault
  requireThat (ix.mint = env.NATIVE_MINT ∨ ix.assetIsNative = false)
    EscrowError.inconsistentNativeTrait.fault
  let l ← fundEscrow env ctx ix l
  writeProgram ix.escrow (.escrowDst (ix.newEscrow env now)) l

/-- `utils::withdraw`. -/
def utilsWithdraw (env : Environment K) (ctx : Context K) (escrow : EscrowDst K) (address : K)
    (escrowAta : InterfaceAccount K) (recipient : K) (recipientAta : Option K) (mint : K)
    (tokenProgram : TokenProgram) (rentRecipient safetyDepositRecipient : K)
    (secret : Bytes32) (l : Chain K) : Result (Chain K) := do
  requireThat (hashv env [secret.1] = escrow.hashlock) EscrowError.invalidSecret.fault
  let l ← processPayout env ctx mint escrow.assetIsNative escrow.amount address escrowAta
    recipient recipientAta rentRecipient ⟨escrow.seeds, escrow.bump⟩ tokenProgram l
  distributeSafetyDeposit address rentRecipient safetyDepositRecipient escrow.safetyDeposit l

/-- `init_if_needed` on an optional account: an absent one is not created. -/
def initRecipientAta (env : Environment K) (signers : List K) (payer : K)
    (recipientAta : Option K) (recipient : K) (tokenProgram : TokenProgram) (mint : K)
    (l : Chain K) : Result (Chain K) :=
  match recipientAta with
  | none => pure l
  | some ata => initIfNeeded env.toHost signers payer ata recipient tokenProgram mint l

def withdraw (env : Environment K) (clock : Clock) (ix : Withdraw K) (l : Chain K) :
    Result (Chain K) := do
  let ctx : Context K := ⟨env.dstId, [ix.creator], clock⟩
  let escrow ← loadEscrowDst l ix.escrow
  requireThat (ix.creator = escrow.creator) EscrowError.invalidAccount.fault
  requireThat (ix.recipient = escrow.recipient) EscrowError.invalidAccount.fault
  requireMint env.toHost ix.mint
  requireThat (ix.mint = escrow.token) EscrowError.invalidMint.fault
  requireSeeds env.toHost env.dstId escrow.seeds escrow.bump ix.escrow
  let escrowToken ← loadAssociatedToken env.toHost ix.escrowAta ix.escrow ix.tokenProgram
    ix.mint l
  let l ← initRecipientAta env ctx.signers ix.creator ix.recipientAta ix.recipient
    ix.tokenProgram ix.mint l
  requireWindow (getCurrentTimestamp clock) escrow.timelocks.timelocks .dstWithdrawal
    .dstCancellation
  let l ← utilsWithdraw env ctx escrow ix.escrow ⟨ix.escrowAta, escrowToken⟩ ix.recipient
    ix.recipientAta ix.mint ix.tokenProgram ix.creator ix.creator ix.secret l
  closeProgram ix.escrow ix.creator l

def publicWithdraw (env : Environment K) (clock : Clock) (ix : PublicWithdraw K)
    (l : Chain K) : Result (Chain K) := do
  let ctx : Context K := ⟨env.dstId, [ix.payer], clock⟩
  let escrow ← loadEscrowDst l ix.escrow
  requireThat (ix.creator = escrow.creator) EscrowError.invalidAccount.fault
  requireThat (ix.recipient = escrow.recipient) EscrowError.invalidAccount.fault
  requireResolverAccess env env.dstId ix.payer ix.resolverAccess l
  requireMint env.toHost ix.mint
  requireThat (ix.mint = escrow.token) EscrowError.invalidMint.fault
  requireSeeds env.toHost env.dstId escrow.seeds escrow.bump ix.escrow
  let escrowToken ← loadAssociatedToken env.toHost ix.escrowAta ix.escrow ix.tokenProgram
    ix.mint l
  let l ← initRecipientAta env ctx.signers ix.payer ix.recipientAta ix.recipient
    ix.tokenProgram ix.mint l
  requireWindow (getCurrentTimestamp clock) escrow.timelocks.timelocks .dstPublicWithdrawal
    .dstCancellation
  let l ← utilsWithdraw env ctx escrow ix.escrow ⟨ix.escrowAta, escrowToken⟩ ix.recipient
    ix.recipientAta ix.mint ix.tokenProgram ix.creator ix.payer ix.secret l
  closeProgram ix.escrow ix.creator l

def cancel (env : Environment K) (clock : Clock) (ix : Cancel K) (l : Chain K) :
    Result (Chain K) := do
  let ctx : Context K := ⟨env.dstId, [ix.creator], clock⟩
  let escrow ← loadEscrowDst l ix.escrow
  requireThat (ix.creator = escrow.creator) EscrowError.invalidAccount.fault
  requireMint env.toHost ix.mint
  requireThat (ix.mint = escrow.token) EscrowError.invalidMint.fault
  requireSeeds env.toHost env.dstId escrow.seeds escrow.bump ix.escrow
  let escrowToken ← loadAssociatedToken env.toHost ix.escrowAta ix.escrow ix.tokenProgram
    ix.mint l
  checkOptionalToken env.toHost ix.creatorAta ix.creator ix.tokenProgram ix.mint l
  requireReached (getCurrentTimestamp clock) escrow.timelocks.timelocks .dstCancellation
  let l ← processPayout env ctx ix.mint escrow.assetIsNative escrow.amount ix.escrow
    ⟨ix.escrowAta, escrowToken⟩ ix.creator ix.creatorAta ix.creator
    ⟨escrow.seeds, escrow.bump⟩ ix.tokenProgram l
  closeProgram ix.escrow ix.creator l

def rescueFunds (env : Environment K) (clock : Clock) (ix : RescueFunds K) (l : Chain K) :
    Result (Chain K) := do
  let ctx : Context K := ⟨env.dstId, [ix.creator], clock⟩
  let seeds := escrowSeeds ix.orderHash ix.hashlock ix.creator ix.escrowAmount
  requireMint env.toHost ix.mint
  requireFound env.toHost env.dstId seeds ix.escrow
  let escrowToken ← loadAssociatedToken env.toHost ix.escrowAta ix.escrow ix.tokenProgram
    ix.mint l
  let _ ← loadAssociatedToken env.toHost ix.creatorAta ix.creator ix.tokenProgram ix.mint l
  let rescueStart ← rescueStartOf Data.toEscrowDst EscrowDst.timelocks l ix.escrow
  Source.rescueFunds env ctx ix.escrow rescueStart ⟨ix.escrowAta, escrowToken⟩ ix.creator
    ix.creatorAta ix.mint ix.tokenProgram ix.rescueAmount
    ⟨seeds, (env.findProgramAddress env.dstId seeds).2⟩ l

end CrossChainEscrow.Source.Dst
