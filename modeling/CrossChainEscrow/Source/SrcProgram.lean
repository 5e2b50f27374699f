import CrossChainEscrow.Source.PartialFill
import CrossChainEscrow.Source.Whitelist

/-!
# The source-chain program

`cross-chain-escrow-src/src/lib.rs` and `utils.rs`. Each instruction is a
structure with the accounts its caller supplies and its arguments, and a function
that performs the account validation in the order of the declared accounts, the
handler, and what runs when the instruction exits.
-/
namespace CrossChainEscrow.Source.Src
open Library.Words Library.Bytes Library.Accounts Whitelist

variable {K : Type} [DecidableEq K]

structure Create (K : Type) where
  creator : K
  mint : K
  creatorAta : Option K
  order : K
  orderAta : K
  tokenProgram : TokenProgram
  hashlock : Bytes32
  amount : U64
  safetyDeposit : U64
  timelocks : Limbs
  expirationTime : U32
  assetIsNative : Bool
  dstAmount : Limbs
  dutchAuctionDataHash : Bytes32
  maxCancellationPremium : U64
  cancellationAuctionDuration : U32
  allowMultipleFills : Bool
  salt : U64

structure CreateEscrow (K : Type) where
  taker : K
  resolverAccess : K
  maker : K
  mint : K
  order : K
  orderAta : K
  escrow : K
  escrowAta : K
  tokenProgram : TokenProgram
  amount : U64
  merkleProof : Option MerkleProof
  dutchAuctionData : AuctionData

structure Withdraw (K : Type) where
  taker : K
  mint : K
  escrow : K
  escrowAta : K
  takerAta : K
  tokenProgram : TokenProgram
  secret : Bytes32

structure PublicWithdraw (K : Type) where
  taker : K
  payer : K
  resolverAccess : K
  mint : K
  escrow : K
  escrowAta : K
  takerAta : K
  tokenProgram : TokenProgram
  secret : Bytes32

structure CancelEscrow (K : Type) where
  taker : K
  maker : K
  mint : K
  escrow : K
  escrowAta : K
  makerAta : Option K
  tokenProgram : TokenProgram

structure PublicCancelEscrow (K : Type) where
  taker : K
  maker : K
  mint : K
  payer : K
  resolverAccess : K
  escrow : K
  escrowAta : K
  makerAta : Option K
  tokenProgram : TokenProgram

structure CancelOrder (K : Type) where
  creator : K
  mint : K
  order : K
  orderAta : K
  creatorAta : Option K
  tokenProgram : TokenProgram

structure CancelOrderbyResolver (K : Type) where
  resolver : K
  resolverAccess : K
  creator : K
  mint : K
  order : K
  orderAta : K
  creatorAta : Option K
  tokenProgram : TokenProgram
  rewardLimit : U64

structure RescueFundsForEscrow (K : Type) where
  taker : K
  mint : K
  escrow : K
  escrowAta : K
  takerAta : K
  tokenProgram : TokenProgram
  orderHash : Bytes32
  hashlock : Bytes32
  amount : U64
  rescueAmount : U64

structure RescueFundsForOrder (K : Type) where
  resolver : K
  resolverAccess : K
  mint : K
  order : K
  orderAta : K
  resolverAta : K
  tokenProgram : TokenProgram
  params : OrderParams K
  rescueAmount : U64

/-! ## Creation of an order -/

def Create.params (ix : Create K) : OrderParams K where
  hashlock := ix.hashlock
  maker := ix.creator
  token := ix.mint
  orderAmount := ix.amount
  safetyDeposit := ix.safetyDeposit
  timelocks := ix.timelocks
  expirationTime := ix.expirationTime
  assetIsNative := ix.assetIsNative
  dstAmount := ix.dstAmount
  dutchAuctionDataHash := ix.dutchAuctionDataHash
  maxCancellationPremium := ix.maxCancellationPremium
  cancellationAuctionDuration := ix.cancellationAuctionDuration
  allowMultipleFills := ix.allowMultipleFills
  salt := ix.salt

/-- Wrap the creator's lamports in the order's token account, or move the
creator's tokens there. -/
def fundOrder (env : Environment K) (ctx : Context K) (ix : Create K) (l : Chain K) :
    Result (Chain K) :=
  if ix.assetIsNative = true then do
    let l ← uniTransfer env ctx (.nativeTransfer ix.creator ix.orderAta ix.amount.toNat) none l
    syncNative ix.tokenProgram ix.orderAta l
  else do
    let creatorAta ← orFault ix.creatorAta EscrowError.missingCreatorAta.fault
    uniTransfer env ctx (.tokenTransfer creatorAta ix.creator ix.orderAta ix.mint
      ix.amount.toNat ix.tokenProgram) none l

/-- The order that `set_inner` writes. -/
def Create.newOrder (env : Environment K) (ix : Create K) (now : U32) : Order K where
  orderHash := getOrderHash env ix.params
  hashlock := ix.hashlock
  creator := ix.creator
  token := ix.mint
  amount := ix.amount
  remainingAmount := ix.amount
  safetyDeposit := ix.safetyDeposit
  timelocks := (ix.timelocks.timelocks.setDeployedAt now).getTimelocks
  expirationTime := ix.expirationTime
  assetIsNative := ix.assetIsNative
  dstAmount := ix.dstAmount
  dutchAuctionDataHash := ix.dutchAuctionDataHash
  maxCancellationPremium := ix.maxCancellationPremium
  cancellationAuctionDuration := ix.cancellationAuctionDuration
  allowMultipleFills := ix.allowMultipleFills
  bump := (env.findProgramAddress env.srcId (orderSeeds (getOrderHash env ix.params))).2

def create (env : Environment K) (clock : Clock) (ix : Create K) (l : Chain K) :
    Result (Chain K) := do
  let ctx : Context K := ⟨env.srcId, [ix.creator], clock⟩
  requireMint env.toHost ix.mint
  checkOptionalToken env.toHost ix.creatorAta ix.creator ix.tokenProgram ix.mint l
  requireFound env.toHost env.srcId (orderSeeds (getOrderHash env ix.params)) ix.order
  let l ← createAccount env.toHost ctx.signers ix.creator ix.order
    (discriminatorBytes + Order.initSpace) l
  let l ← initIfNeeded env.toHost ctx.signers ix.creator ix.orderAta ix.order ix.tokenProgram
    ix.mint l
  requireThat (l.lamports ix.orderAta ≥ ix.maxCancellationPremium.toNat)
    EscrowError.invalidCancellationFee.fault
  requireThat (ix.allowMultipleFills = true → u16FromBeBytes ix.hashlock > 1)
    EscrowError.invalidPartsAmount.fault
  let now := getCurrentTimestamp clock
  requireThat (now < ix.expirationTime) EscrowError.orderHasExpired.fault
  requireThat (ix.amount ≠ 0 ∧ ix.safetyDeposit ≠ 0) EscrowError.zeroAmountOrDeposit.fault
  requireThat (ix.safetyDeposit.toNat ≤
    env.minimumBalance (EscrowSrc.initSpace + discriminatorBytes))
    EscrowError.safetyDepositTooLarge.fault
  requireThat (ix.mint = env.NATIVE_MINT ∨ ix.assetIsNative = false)
    EscrowError.inconsistentNativeTrait.fault
  let l ← fundOrder env ctx ix l
  writeProgram ix.order (.order (ix.newOrder env now)) l

/-! ## Filling an order -/

def Order.signerSeeds (order : Order K) : SignerSeeds K :=
  ⟨orderSeeds order.orderHash, order.bump⟩

/-- The last fill sweeps the account, whatever was sent to it meanwhile. -/
def amountToTransfer (order : Order K) (orderAta : InterfaceAccount K) (amount : U64) : Nat :=
  if order.remainingAmount = amount then orderAta.account.amount else amount.toNat

def CreateEscrow.newEscrow (env : Environment K) (ix : CreateEscrow K) (order : Order K)
    (hashlock : Bytes32) (dstAmount : Limbs) (now : U32) : EscrowSrc K where
  orderHash := order.orderHash
  hashlock := hashlock
  maker := order.creator
  taker := ix.taker
  token := order.token
  amount := ix.amount
  safetyDeposit := order.safetyDeposit
  timelocks := (order.timelocks.timelocks.setDeployedAt now).getTimelocks
  assetIsNative := order.assetIsNative
  dstAmount := dstAmount
  bump := (env.findProgramAddress env.srcId (escrowSeeds order.orderHash
    (getEscrowHashlock order.hashlock ix.merkleProof) ix.taker ix.amount)).2

/-- Close a filled order and its token account, or count the fill. -/
def settleOrder (env : Environment K) (ctx : Context K) (ix : CreateEscrow K) (order : Order K)
    (l : Chain K) : Result (Chain K) :=
  if order.allowMultipleFills = false ∨ order.remainingAmount = ix.amount then do
    let l ← closeAccount (ctx.callSigners env (some (Order.signerSeeds order))) ix.tokenProgram
      ix.orderAta ix.maker ix.order l
    closeProgram ix.order ix.maker l
  else do
    let remainingAmount ← minus order.remainingAmount ix.amount
    writeProgram ix.order (.order { order with remainingAmount }) l

def createEscrow (env : Environment K) (clock : Clock) (ix : CreateEscrow K) (l : Chain K) :
    Result (Chain K) := do
  let ctx : Context K := ⟨env.srcId, [ix.taker], clock⟩
  requireResolverAccess env env.srcId ix.taker ix.resolverAccess l
  let order ← loadOrder l ix.order
  requireThat (ix.maker = order.creator) EscrowError.invalidAccount.fault
  requireMint env.toHost ix.mint
  requireThat (ix.mint = order.token) EscrowError.invalidMint.fault
  requireSeeds env.toHost env.srcId (orderSeeds order.orderHash) order.bump ix.order
  let orderToken ← loadAssociatedToken env.toHost ix.orderAta ix.order ix.tokenProgram ix.mint l
  let orderAta : InterfaceAccount K := ⟨ix.orderAta, orderToken⟩
  requireFound env.toHost env.srcId (escrowSeeds order.orderHash
    (getEscrowHashlock order.hashlock ix.merkleProof) ix.taker ix.amount) ix.escrow
  let l ← createAccount env.toHost ctx.signers ix.taker ix.escrow
    (discriminatorBytes + EscrowSrc.initSpace) l
  let l ← initIfNeeded env.toHost ctx.signers ix.taker ix.escrowAta ix.escrow ix.tokenProgram
    ix.mint l
  requireFillAmount order ix.amount
  let now := getCurrentTimestamp clock
  requireThat (now < order.expirationTime) EscrowError.orderHasExpired.fault
  let auctionBytes ← ix.dutchAuctionData.tryToVec
  requireThat (hashv env [auctionBytes] = order.dutchAuctionDataHash)
    EscrowError.dutchAuctionDataHashMismatch.fault
  requireThat (order.allowMultipleFills = ix.merkleProof.isSome)
    EscrowError.inconsistentMerkleProofTrait.fault
  let hashlock ← acceptedHashlock env order ix.amount ix.merkleProof
  let l ← uniTransfer env ctx (.tokenTransfer orderAta.key ix.order ix.escrowAta ix.mint
    (amountToTransfer order orderAta ix.amount) ix.tokenProgram)
    (some (Order.signerSeeds order)) l
  let share ← shareOfDstAmount order.dstAmount ix.amount order.amount
  let dstAmount ← getDstAmount clock share ix.dutchAuctionData
  let l ← writeProgram ix.escrow
    (.escrowSrc (ix.newEscrow env order hashlock dstAmount now)) l
  settleOrder env ctx ix order l

end CrossChainEscrow.Source.Src
