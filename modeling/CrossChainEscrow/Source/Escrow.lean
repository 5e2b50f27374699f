import CrossChainEscrow.Library.Validation
import CrossChainEscrow.Source.State

/-!
# Transfers, payouts and rescues

`common/src/escrow.rs`, the time checks shared by the handlers, and the
distribution of the safety deposit that the `utils.rs` of both programs repeat.
-/
namespace CrossChainEscrow.Source
open Library.Words Library.Bytes Library.Accounts

variable {K : Type} [DecidableEq K]

/-- The running program, the keys that signed the instruction and the clock. -/
structure Context (K : Type) where
  programId : K
  signers : List K
  clock : Clock

/-- Seeds with the bump, as `new_with_signer` takes them. -/
structure SignerSeeds (K : Type) where
  seeds : Seeds K
  bump : Byte

/-- The signatures a call carries. -/
def Context.callSigners (env : Environment K) (ctx : Context K) :
    Option (SignerSeeds K) → List K
  | none => ctx.signers
  | some s => ctx.signers ++ env.seedSigner ctx.programId s.seeds s.bump

inductive UniTransferParams (K : Type) where
  | nativeTransfer (src dst : K) (amount : Nat)
  | tokenTransfer (src authority dst mint : K) (amount : Nat) (program : TokenProgram)

def uniTransfer (env : Environment K) (ctx : Context K) (params : UniTransferParams K)
    (signerSeeds : Option (SignerSeeds K)) (l : Chain K) : Result (Chain K) :=
  match params with
  | .nativeTransfer src dst amount =>
    if amount = 0 then pure l
    else systemTransfer (ctx.callSigners env signerSeeds) src dst amount l
  | .tokenTransfer src authority dst mint amount program =>
    if amount = 0 then pure l
    else transferChecked (ctx.callSigners env signerSeeds) program src mint dst authority amount l

def withdrawAndCloseTokenAta (env : Environment K) (ctx : Context K)
    (escrowAta : InterfaceAccount K) (authority toAccount mint : K) (tokenProgram : TokenProgram)
    (rentRecipient : K) (seeds : SignerSeeds K) (l : Chain K) : Result (Chain K) := do
  let l ← uniTransfer env ctx
    (.tokenTransfer escrowAta.key authority toAccount mint escrowAta.account.amount tokenProgram)
    (some seeds) l
  closeAccount (ctx.callSigners env (some seeds)) tokenProgram escrowAta.key rentRecipient
    authority l

def processPayout (env : Environment K) (ctx : Context K) (mint : K) (assetIsNative : Bool)
    (escrowAmount : U64) (escrow : K) (escrowAta : InterfaceAccount K) (recipient : K)
    (recipientAta : Option K) (rentRecipient : K) (seeds : SignerSeeds K)
    (tokenProgram : TokenProgram) (l : Chain K) : Result (Chain K) :=
  if assetIsNative = true then do
    -- the escrow address is the intermediate account of the lamports
    let l ← closeAccount (ctx.callSigners env (some seeds)) tokenProgram escrowAta.key escrow
      escrow l
    let l ← subLamports escrow escrowAmount.toNat l
    addLamports recipient escrowAmount.toNat l
  else do
    let toAccount ← orFault recipientAta EscrowError.missingRecipientAta.fault
    withdrawAndCloseTokenAta env ctx escrowAta escrow toAccount mint tokenProgram rentRecipient seeds l

/-- `if rent_recipient.key() != safety_deposit_recipient.key() { .. }`. -/
def distributeSafetyDeposit (escrow rentRecipient safetyDepositRecipient : K)
    (safetyDeposit : U64) (l : Chain K) : Result (Chain K) :=
  if rentRecipient ≠ safetyDepositRecipient then do
    let l ← subLamports escrow safetyDeposit.toNat l
    addLamports safetyDepositRecipient safetyDeposit.toNat l
  else pure l

def requireRescueStarted (now : U32) : Option U32 → Result Unit
  | some rescueStart => requireThat (now ≥ rescueStart) EscrowError.invalidRescueStart.fault
  | none => pure ()

/-- Tokens the rescue leaves behind keep the account open. -/
def closeRescued (env : Environment K) (ctx : Context K) (escrow : K)
    (escrowAta : InterfaceAccount K) (recipient : K) (tokenProgram : TokenProgram)
    (rescueAmount : U64) (seeds : SignerSeeds K) (l : Chain K) : Result (Chain K) :=
  if rescueAmount.toNat = escrowAta.account.amount then
    closeAccount (ctx.callSigners env (some seeds)) tokenProgram escrowAta.key recipient escrow l
  else pure l

def rescueFunds (env : Environment K) (ctx : Context K) (escrow : K) (rescueStart : Option U32)
    (escrowAta : InterfaceAccount K) (recipient recipientAta mint : K)
    (tokenProgram : TokenProgram) (rescueAmount : U64) (seeds : SignerSeeds K) (l : Chain K) :
    Result (Chain K) := do
  requireRescueStarted (getCurrentTimestamp ctx.clock) rescueStart
  let l ← uniTransfer env ctx
    (.tokenTransfer escrowAta.key escrow recipientAta mint rescueAmount.toNat tokenProgram)
    (some seeds) l
  closeRescued env ctx escrow escrowAta recipient tokenProgram rescueAmount seeds l

/-- The start of the rescue period of a stored account; an address without data
has none. -/
def rescueStartOf {T : Type} (read : Data K → Option T) (timelocks : T → Limbs) (l : Chain K)
    (address : K) : Result (Option U32) :=
  if (l.data address).isEmpty = true then pure none
  else do
    let value ← loadAs read l address
    let rescueStart ← (timelocks value).timelocks.rescueStart rescueDelay
    pure (some rescueStart)

/-! ## Time checks -/

/-- `now >= t.get(opens)? && now < t.get(closes)?`. -/
def insideWindow (now : U32) (t : Timelocks) (opens closes : Stage) : Result Bool := do
  let start ← t.get opens
  if now ≥ start then do
    let stop ← t.get closes
    pure (decide (now < stop))
  else pure false

def requireWindow (now : U32) (t : Timelocks) (opens closes : Stage) : Result Unit := do
  let inside ← insideWindow now t opens closes
  requireThat (inside = true) EscrowError.invalidTime.fault

/-- `now >= t.get(stage)?`. -/
def requireReached (now : U32) (t : Timelocks) (stage : Stage) : Result Unit := do
  let start ← t.get stage
  requireThat (now ≥ start) EscrowError.invalidTime.fault

end CrossChainEscrow.Source
