import CrossChainEscrow.Source.Auction
import CrossChainEscrow.Source.MerkleTree
import CrossChainEscrow.Source.State

/-!
# Fills of an order

The free functions of `cross-chain-escrow-src/src/lib.rs` that decide how much a
fill takes, which secret index it uses, which hashlock its escrow carries and
which amount the taker owes on the destination chain.
-/
namespace CrossChainEscrow.Source
open Library.Words Library.Bytes Library.Accounts

variable {K : Type}

/-- The index the filled amount falls into: `(filled - 1) * parts / order`. -/
def calculatedIndex (filledLessOne orderMakingAmount partsAmount : U64) : Result U64 := do
  let scaled ← times filledLessOne partsAmount
  dividedBy scaled orderMakingAmount

/-- A fill that neither completes nor starts the order must reach a new index. -/
def reachesNewIndex (remainingMakingAmount orderMakingAmount partsAmount calculated : U64) :
    Result Bool :=
  if orderMakingAmount ≠ remainingMakingAmount then do
    let filled ← minus orderMakingAmount remainingMakingAmount
    let filledLessOne ← minus filled 1
    let prevCalculatedIndex ← calculatedIndex filledLessOne orderMakingAmount partsAmount
    pure (decide (calculated ≠ prevCalculatedIndex))
  else pure true

def isValidPartialFill (makingAmount remainingMakingAmount orderMakingAmount partsAmount
    validatedIndex : U64) : Result Bool := do
  let filled ← minus orderMakingAmount remainingMakingAmount
  let filledAfter ← plus filled makingAmount
  let filledLessOne ← minus filledAfter 1
  let calculated ← calculatedIndex filledLessOne orderMakingAmount partsAmount
  if remainingMakingAmount = makingAmount then do
    -- a completing fill uses the index after the one of the last part
    let completing ← plus calculated 1
    pure (decide (completing = validatedIndex))
  else do
    let fresh ← reachesNewIndex remainingMakingAmount orderMakingAmount partsAmount calculated
    pure (fresh && decide (calculated = validatedIndex))

/-- `get_index_for_escrow_amount` of `tests/helpers_src.rs`: the index of the
secret that a maker hands out for a fill. -/
def getIndexForEscrowAmount (orderAmount orderRemainingAmount partsAmount escrowAmount : U64) :
    Result U64 :=
  if escrowAmount = orderRemainingAmount then pure partsAmount
  else do
    let filled ← minus orderAmount orderRemainingAmount
    let filledAfter ← plus filled escrowAmount
    let filledLessOne ← minus filledAfter 1
    calculatedIndex filledLessOne orderAmount partsAmount

def getEscrowHashlock (orderHashlock : Bytes32) : Option MerkleProof → Bytes32
  | some merkleProof => merkleProof.hashedSecret
  | none => orderHashlock

def getDstAmount (clock : Clock) (dstAmount : Limbs) (data : AuctionData) : Result Limbs := do
  let rateBump ← calculateRateBump clock.asU64 data
  let multiplier ← plus base1e7 rateBump
  let scaled ← orFault (checkedMul dstAmount.toU256 (multiplier.setWidth 256))
    (.panic "Overflow when multiplying destination amount with rate bump")
  let padded ← orFault (checkedAdd scaled ((base1e7 - 1).setWidth 256))
    (.panic "Overflow when adding BASE_1E7 - 1")
  let result ← orFault (checkedDiv padded (base1e7.setWidth 256))
    (.panic "Overflow when dividing by BASE_1E7")
  pure (Limbs.ofU256 result)

/-- The share of the order's destination amount that a fill buys, rounded up. -/
def shareOfDstAmount (dstAmount : Limbs) (amount orderAmount : U64) : Result Limbs := do
  let product ← orFault (checkedMul dstAmount.toU256 (amount.setWidth 256))
    (.panic "Overflow during multiplication in dst_amount calculation")
  let divisorLessOne ← minus orderAmount 1
  let padded ← orFault (checkedAdd product (divisorLessOne.setWidth 256))
    (.panic "Overflow when adding divisor - 1 for ceiling division")
  let share ← orFault (checkedDiv padded (orderAmount.setWidth 256))
    (.panic "Division by zero or overflow during division in dst_amount calculation")
  pure (Limbs.ofU256 share)

/-- The amount check at the start of `create_escrow`. -/
def requireFillAmount (order : Order K) (amount : U64) : Result Unit :=
  requireThat ((order.allowMultipleFills = true ∧ amount ≤ order.remainingAmount) ∨
    (order.allowMultipleFills = false ∧ amount = order.amount)) EscrowError.invalidAmount.fault

/-- The proof check of `create_escrow` and the hashlock it stores. -/
def acceptedHashlock (env : Environment K) (order : Order K) (amount : U64) :
    Option MerkleProof → Result Bytes32
  | some proof => do
    requireThat ((proof.processProof env).1.drop 2 = order.hashlock.1.drop 2)
      EscrowError.invalidMerkleProof.fault
    let partsAmount := u16FromBeBytes order.hashlock
    let valid ← isValidPartialFill amount order.remainingAmount order.amount
      (partsAmount.setWidth 64) proof.index
    requireThat (valid = true) EscrowError.invalidPartialFill.fault
    pure proof.hashedSecret
  | none => pure order.hashlock

end CrossChainEscrow.Source
