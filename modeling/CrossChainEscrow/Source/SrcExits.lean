import CrossChainEscrow.Source.SrcProgram

/-!
# Withdrawals, cancellations and rescues of the source-chain program

The instructions of `cross-chain-escrow-src/src/lib.rs` that take funds out of
an order or an escrow, with the two bodies of `utils.rs` they share. A handler
ends with the `close` constraint of its accounts.
-/
namespace CrossChainEscrow.Source.Src
open Library.Words Library.Bytes Library.Accounts Whitelist

variable {K : Type} [DecidableEq K]

/-- `utils::withdraw`. -/
def utilsWithdraw (env : Environment K) (ctx : Context K) (escrow : EscrowSrc K) (address : K)
    (escrowAta : InterfaceAccount K) (takerAta mint : K) (tokenProgram : TokenProgram)
    (rentRecipient safetyDepositRecipient : K) (secret : Bytes32) (l : Chain K) :
    Result (Chain K) := do
  requireThat (hashv env [secret.1] = escrow.hashlock) EscrowError.invalidSecret.fault
  let l ← withdrawAndCloseTokenAta env ctx escrowAta address takerAta mint tokenProgram
    rentRecipient ⟨escrow.seeds, escrow.bump⟩ l
  distributeSafetyDeposit address rentRecipient safetyDepositRecipient escrow.safetyDeposit l

/-- `utils::cancel`. -/
def utilsCancel (env : Environment K) (ctx : Context K) (escrow : EscrowSrc K) (address : K)
    (escrowAta : InterfaceAccount K) (creatorAta : Option K) (mint : K)
    (tokenProgram : TokenProgram) (rentRecipient creator safetyDepositRecipient : K)
    (l : Chain K) : Result (Chain K) := do
  let l ← processPayout env ctx mint escrow.assetIsNative escrow.amount address escrowAta
    creator creatorAta rentRecipient ⟨escrow.seeds, escrow.bump⟩ tokenProgram l
  distributeSafetyDeposit address rentRecipient safetyDepositRecipient escrow.safetyDeposit l

def withdraw (env : Environment K) (clock : Clock) (ix : Withdraw K) (l : Chain K) :
    Result (Chain K) := do
  let ctx : Context K := ⟨env.srcId, [ix.taker], clock⟩
  let escrow ← loadEscrowSrc l ix.escrow
  requireThat (ix.taker = escrow.taker) EscrowError.invalidAccount.fault
  requireMint env.toHost ix.mint
  requireThat (ix.mint = escrow.token) EscrowError.invalidMint.fault
  requireSeeds env.toHost env.srcId escrow.seeds escrow.bump ix.escrow
  let escrowToken ← loadAssociatedToken env.toHost ix.escrowAta ix.escrow ix.tokenProgram
    ix.mint l
  let _ ← loadAssociatedToken env.toHost ix.takerAta ix.taker ix.tokenProgram ix.mint l
  requireWindow (getCurrentTimestamp clock) escrow.timelocks.timelocks .srcWithdrawal
    .srcCancellation
  let l ← utilsWithdraw env ctx escrow ix.escrow ⟨ix.escrowAta, escrowToken⟩ ix.takerAta ix.mint
    ix.tokenProgram ix.taker ix.taker ix.secret l
  closeProgram ix.escrow ix.taker l

def publicWithdraw (env : Environment K) (clock : Clock) (ix : PublicWithdraw K)
    (l : Chain K) : Result (Chain K) := do
  let ctx : Context K := ⟨env.srcId, [ix.payer], clock⟩
  let escrow ← loadEscrowSrc l ix.escrow
  requireThat (ix.taker = escrow.taker) EscrowError.invalidAccount.fault
  requireResolverAccess env env.srcId ix.payer ix.resolverAccess l
  requireMint env.toHost ix.mint
  requireThat (ix.mint = escrow.token) EscrowError.invalidMint.fault
  requireSeeds env.toHost env.srcId escrow.seeds escrow.bump ix.escrow
  let escrowToken ← loadAssociatedToken env.toHost ix.escrowAta ix.escrow ix.tokenProgram
    ix.mint l
  let _ ← loadAssociatedToken env.toHost ix.takerAta ix.taker ix.tokenProgram ix.mint l
  requireWindow (getCurrentTimestamp clock) escrow.timelocks.timelocks .srcPublicWithdrawal
    .srcCancellation
  let l ← utilsWithdraw env ctx escrow ix.escrow ⟨ix.escrowAta, escrowToken⟩ ix.takerAta ix.mint
    ix.tokenProgram ix.taker ix.payer ix.secret l
  closeProgram ix.escrow ix.taker l

def cancelEscrow (env : Environment K) (clock : Clock) (ix : CancelEscrow K) (l : Chain K) :
    Result (Chain K) := do
  let ctx : Context K := ⟨env.srcId, [ix.taker], clock⟩
  let escrow ← loadEscrowSrc l ix.escrow
  requireThat (ix.taker = escrow.taker) EscrowError.invalidAccount.fault
  requireThat (ix.maker = escrow.maker) EscrowError.invalidAccount.fault
  requireMint env.toHost ix.mint
  requireThat (ix.mint = escrow.token) EscrowError.invalidMint.fault
  requireSeeds env.toHost env.srcId (escrowSeeds escrow.orderHash escrow.hashlock ix.taker
    escrow.amount) escrow.bump ix.escrow
  let escrowToken ← loadAssociatedToken env.toHost ix.escrowAta ix.escrow ix.tokenProgram
    ix.mint l
  checkOptionalToken env.toHost ix.makerAta ix.maker ix.tokenProgram ix.mint l
  requireReached (getCurrentTimestamp clock) escrow.timelocks.timelocks .srcCancellation
  let l ← utilsCancel env ctx escrow ix.escrow ⟨ix.escrowAta, escrowToken⟩ ix.makerAta ix.mint
    ix.tokenProgram ix.taker ix.maker ix.taker l
  closeProgram ix.escrow ix.taker l

def publicCancelEscrow (env : Environment K) (clock : Clock) (ix : PublicCancelEscrow K)
    (l : Chain K) : Result (Chain K) := do
  let ctx : Context K := ⟨env.srcId, [ix.payer], clock⟩
  let escrow ← loadEscrowSrc l ix.escrow
  requireThat (ix.taker = escrow.taker) EscrowError.invalidAccount.fault
  requireThat (ix.maker = escrow.maker) EscrowError.invalidAccount.fault
  requireMint env.toHost ix.mint
  requireThat (ix.mint = escrow.token) EscrowError.invalidMint.fault
  requireResolverAccess env env.srcId ix.payer ix.resolverAccess l
  requireSeeds env.toHost env.srcId (escrowSeeds escrow.orderHash escrow.hashlock ix.taker
    escrow.amount) escrow.bump ix.escrow
  let escrowToken ← loadAssociatedToken env.toHost ix.escrowAta ix.escrow ix.tokenProgram
    ix.mint l
  checkOptionalToken env.toHost ix.makerAta escrow.maker ix.tokenProgram ix.mint l
  requireReached (getCurrentTimestamp clock) escrow.timelocks.timelocks .srcPublicCancellation
  let l ← utilsCancel env ctx escrow ix.escrow ⟨ix.escrowAta, escrowToken⟩ ix.makerAta ix.mint
    ix.tokenProgram ix.taker ix.maker ix.payer l
  closeProgram ix.escrow ix.taker l

/-! ## Cancellation of an order -/

/-- The tokens of an order that is not native go back to its creator. -/
def returnTokens (env : Environment K) (ctx : Context K) (order : Order K)
    (address : K) (orderAta : InterfaceAccount K) (creatorAta : Option K) (mint : K)
    (tokenProgram : TokenProgram) (l : Chain K) : Result (Chain K) :=
  if order.assetIsNative = false then do
    let creatorAta ← orFault creatorAta EscrowError.missingCreatorAta.fault
    uniTransfer env ctx (.tokenTransfer orderAta.key address creatorAta mint
      orderAta.account.amount tokenProgram) (some (Order.signerSeeds order)) l
  else pure l

def cancelOrder (env : Environment K) (clock : Clock) (ix : CancelOrder K) (l : Chain K) :
    Result (Chain K) := do
  let ctx : Context K := ⟨env.srcId, [ix.creator], clock⟩
  let order ← loadOrder l ix.order
  requireThat (ix.creator = order.creator) EscrowError.invalidAccount.fault
  requireMint env.toHost ix.mint
  requireThat (ix.mint = order.token) EscrowError.invalidMint.fault
  requireSeeds env.toHost env.srcId (orderSeeds order.orderHash) order.bump ix.order
  let orderToken ← loadAssociatedToken env.toHost ix.orderAta ix.order ix.tokenProgram ix.mint l
  checkOptionalToken env.toHost ix.creatorAta ix.creator ix.tokenProgram ix.mint l
  requireThat (order.assetIsNative = ix.creatorAta.isNone)
    EscrowError.inconsistentNativeTrait.fault
  let l ← returnTokens env ctx order ix.order ⟨ix.orderAta, orderToken⟩ ix.creatorAta ix.mint
    ix.tokenProgram l
  let l ← closeAccount (ctx.callSigners env (some (Order.signerSeeds order))) ix.tokenProgram
    ix.orderAta ix.creator ix.order l
  closeProgram ix.order ix.creator l

def cancelOrderByResolver (env : Environment K) (clock : Clock) (ix : CancelOrderbyResolver K)
    (l : Chain K) : Result (Chain K) := do
  let ctx : Context K := ⟨env.srcId, [ix.resolver], clock⟩
  requireResolverAccess env env.srcId ix.resolver ix.resolverAccess l
  let order ← loadOrder l ix.order
  requireThat (ix.creator = order.creator) EscrowError.invalidAccount.fault
  requireMint env.toHost ix.mint
  requireThat (ix.mint = order.token) EscrowError.invalidMint.fault
  requireSeeds env.toHost env.srcId (orderSeeds order.orderHash) order.bump ix.order
  let orderToken ← loadAssociatedToken env.toHost ix.orderAta ix.order ix.tokenProgram ix.mint l
  checkOptionalToken env.toHost ix.creatorAta ix.creator ix.tokenProgram ix.mint l
  let now := getCurrentTimestamp clock
  requireThat (now ≥ order.expirationTime) EscrowError.orderNotExpired.fault
  requireThat (order.maxCancellationPremium > 0)
    EscrowError.cancelOrderByResolverIsForbidden.fault
  requireThat (order.assetIsNative = ix.creatorAta.isNone)
    EscrowError.inconsistentNativeTrait.fault
  let l ← returnTokens env ctx order ix.order ⟨ix.orderAta, orderToken⟩ ix.creatorAta ix.mint
    ix.tokenProgram l
  let cancellationPremium ← calculatePremium now order.expirationTime
    order.cancellationAuctionDuration order.maxCancellationPremium
  let reward := min cancellationPremium.toNat ix.rewardLimit.toNat
  requireThat (reward ≤ l.lamports ix.orderAta) overflowFault
  let makerAmount := l.lamports ix.orderAta - reward
  let l ← closeAccount (ctx.callSigners env (some (Order.signerSeeds order))) ix.tokenProgram
    ix.orderAta ix.resolver ix.order l
  let l ← uniTransfer env ctx (.nativeTransfer ix.resolver ix.creator makerAmount) none l
  closeProgram ix.order ix.creator l

/-! ## Rescues -/

def rescueFundsForEscrow (env : Environment K) (clock : Clock) (ix : RescueFundsForEscrow K)
    (l : Chain K) : Result (Chain K) := do
  let ctx : Context K := ⟨env.srcId, [ix.taker], clock⟩
  let seeds := escrowSeeds ix.orderHash ix.hashlock ix.taker ix.amount
  requireMint env.toHost ix.mint
  requireFound env.toHost env.srcId seeds ix.escrow
  let escrowToken ← loadAssociatedToken env.toHost ix.escrowAta ix.escrow ix.tokenProgram
    ix.mint l
  let _ ← loadAssociatedToken env.toHost ix.takerAta ix.taker ix.tokenProgram ix.mint l
  let rescueStart ← rescueStartOf Data.toEscrowSrc EscrowSrc.timelocks l ix.escrow
  Source.rescueFunds env ctx ix.escrow rescueStart ⟨ix.escrowAta, escrowToken⟩ ix.taker
    ix.takerAta ix.mint ix.tokenProgram ix.rescueAmount
    ⟨seeds, (env.findProgramAddress env.srcId seeds).2⟩ l

def rescueFundsForOrder (env : Environment K) (clock : Clock) (ix : RescueFundsForOrder K)
    (l : Chain K) : Result (Chain K) := do
  let ctx : Context K := ⟨env.srcId, [ix.resolver], clock⟩
  let seeds := orderSeeds (getOrderHash env ix.params)
  requireResolverAccess env env.srcId ix.resolver ix.resolverAccess l
  requireMint env.toHost ix.mint
  requireFound env.toHost env.srcId seeds ix.order
  let orderToken ← loadAssociatedToken env.toHost ix.orderAta ix.order ix.tokenProgram ix.mint l
  let _ ← loadAssociatedToken env.toHost ix.resolverAta ix.resolver ix.tokenProgram ix.mint l
  let rescueStart ← rescueStartOf Data.toOrder Order.timelocks l ix.order
  Source.rescueFunds env ctx ix.order rescueStart ⟨ix.orderAta, orderToken⟩ ix.resolver
    ix.resolverAta ix.mint ix.tokenProgram ix.rescueAmount
    ⟨seeds, (env.findProgramAddress env.srcId seeds).2⟩ l

end CrossChainEscrow.Source.Src
