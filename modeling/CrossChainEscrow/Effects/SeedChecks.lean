import CrossChainEscrow.Effects.Exits
import CrossChainEscrow.Effects.OrderCancel
import CrossChainEscrow.Effects.Rescues
import CrossChainEscrow.Effects.SrcFill
import CrossChainEscrow.Library.SeedRefusals

/-!
# The seeds that instructions derive again

Every instruction after a creation puts a `seeds` constraint on the order or the
escrow it works on. An exit and a fill take the seeds and the bump from what the
account stores, a rescue builds the seeds of its arguments and searches. An
instruction that runs passed its constraint, and one that ends in
`constraintSeeds`, with its other derived addresses right, failed it.
-/

namespace CrossChainEscrow.Source
open Library.Words Library.Bytes Library.Accounts Whitelist

/-- `seeds = [..], bump = ..` on an account; without a stored bump the address is
searched. -/
structure SeedConstraint (K : Type) where
  address : K
  program : K
  seeds : Seeds K
  bump : Option Byte

variable {K : Type}

def SeedConstraint.check [DecidableEq K] (env : Environment K) (c : SeedConstraint K) :
    Result Unit :=
  match c.bump with
  | some bump => requireSeeds env.toHost c.program c.seeds bump c.address
  | none => requireFound env.toHost c.program c.seeds c.address

/-- The constraint on the account that the instruction works on and that stores
the data. -/
def Src.Instruction.seedConstraint (env : Environment K) :
    Src.Instruction K → Data K → Option (SeedConstraint K)
  | .createEscrow ix, .order o =>
    some ⟨ix.order, env.srcId, orderSeeds o.orderHash, some o.bump⟩
  | .cancelOrder ix, .order o =>
    some ⟨ix.order, env.srcId, orderSeeds o.orderHash, some o.bump⟩
  | .cancelOrderByResolver ix, .order o =>
    some ⟨ix.order, env.srcId, orderSeeds o.orderHash, some o.bump⟩
  | .rescueFundsForOrder ix, .order _ =>
    some ⟨ix.order, env.srcId, orderSeeds (getOrderHash env ix.params), none⟩
  | .withdraw ix, .escrowSrc e => some ⟨ix.escrow, env.srcId, e.seeds, some e.bump⟩
  | .publicWithdraw ix, .escrowSrc e => some ⟨ix.escrow, env.srcId, e.seeds, some e.bump⟩
  | .cancelEscrow ix, .escrowSrc e =>
    some ⟨ix.escrow, env.srcId, escrowSeeds e.orderHash e.hashlock ix.taker e.amount,
      some e.bump⟩
  | .publicCancelEscrow ix, .escrowSrc e =>
    some ⟨ix.escrow, env.srcId, escrowSeeds e.orderHash e.hashlock ix.taker e.amount,
      some e.bump⟩
  | .rescueFundsForEscrow ix, .escrowSrc _ =>
    some ⟨ix.escrow, env.srcId, escrowSeeds ix.orderHash ix.hashlock ix.taker ix.amount, none⟩
  | _, _ => none

def Dst.Instruction.seedConstraint (env : Environment K) :
    Dst.Instruction K → Data K → Option (SeedConstraint K)
  | .withdraw ix, .escrowDst e => some ⟨ix.escrow, env.dstId, e.seeds, some e.bump⟩
  | .publicWithdraw ix, .escrowDst e => some ⟨ix.escrow, env.dstId, e.seeds, some e.bump⟩
  | .cancel ix, .escrowDst e => some ⟨ix.escrow, env.dstId, e.seeds, some e.bump⟩
  | .rescueFunds ix, .escrowDst _ =>
    some ⟨ix.escrow, env.dstId, escrowSeeds ix.orderHash ix.hashlock ix.creator ix.escrowAmount,
      none⟩
  | _, _ => none

def Instruction.seedConstraint (env : Environment K) :
    Instruction K → Data K → Option (SeedConstraint K)
  | .whitelist _, _ => none
  | .src ix, data => ix.seedConstraint env data
  | .dst ix, data => ix.seedConstraint env data

section Others
variable [DecidableEq K] (env : Environment K) (l : Chain K)

/-- The other derived addresses that an instruction checks are right: the access
account of a resolver, and the escrow that a fill opens. -/
def Src.Instruction.OthersDerived : Src.Instruction K → Data K → Prop
  | .createEscrow ix, .order o =>
    requireResolverAccess env env.srcId ix.taker ix.resolverAccess l = .ok () ∧
      ix.escrow = (env.findProgramAddress env.srcId (escrowSeeds o.orderHash
        (getEscrowHashlock o.hashlock ix.merkleProof) ix.taker ix.amount)).1
  | .publicWithdraw ix, _ =>
    requireResolverAccess env env.srcId ix.payer ix.resolverAccess l = .ok ()
  | .publicCancelEscrow ix, _ =>
    requireResolverAccess env env.srcId ix.payer ix.resolverAccess l = .ok ()
  | .cancelOrderByResolver ix, _ =>
    requireResolverAccess env env.srcId ix.resolver ix.resolverAccess l = .ok ()
  | .rescueFundsForOrder ix, _ =>
    requireResolverAccess env env.srcId ix.resolver ix.resolverAccess l = .ok ()
  | _, _ => True

def Dst.Instruction.OthersDerived : Dst.Instruction K → Data K → Prop
  | .publicWithdraw ix, _ =>
    requireResolverAccess env env.dstId ix.payer ix.resolverAccess l = .ok ()
  | _, _ => True

def Instruction.OthersDerived : Instruction K → Data K → Prop
  | .whitelist _, _ => True
  | .src ix, data => ix.OthersDerived env l data
  | .dst ix, data => ix.OthersDerived env l data

end Others

variable [DecidableEq K] {env : Environment K} {clock : Clock} {ctx : Context K} {l l' : Chain K}

/-! ## The steps that refuse no seeds -/

section Steps
variable {w : Nat} {a b c : BitVec w} {found : Option (BitVec w)} {address : K}

omit [DecidableEq K] in
@[simp] theorem not_refusesSeeds_loadAs {T : Type} {read : Data K → Option T} :
    ¬ RefusesSeeds (loadAs read l address) := by
  simp [loadAs, refusesSeeds_bind]

omit [DecidableEq K] in
@[simp] theorem not_refusesSeeds_loadOrder : ¬ RefusesSeeds (loadOrder l address) := by
  simp [loadOrder]

omit [DecidableEq K] in
@[simp] theorem not_refusesSeeds_loadEscrowSrc : ¬ RefusesSeeds (loadEscrowSrc l address) := by
  simp [loadEscrowSrc]

omit [DecidableEq K] in
@[simp] theorem not_refusesSeeds_loadEscrowDst : ¬ RefusesSeeds (loadEscrowDst l address) := by
  simp [loadEscrowDst]

@[simp] theorem not_refusesSeeds_plus : ¬ RefusesSeeds (plus a b) := by
  simp [plus, overflowFault]

@[simp] theorem not_refusesSeeds_minus : ¬ RefusesSeeds (minus a b) := by
  simp [minus, overflowFault]

@[simp] theorem not_refusesSeeds_times : ¬ RefusesSeeds (times a b) := by
  simp [times, overflowFault]

@[simp] theorem not_refusesSeeds_dividedBy : ¬ RefusesSeeds (dividedBy a b) := by
  simp [dividedBy, overflowFault]

@[simp] theorem not_refusesSeeds_get {t : Timelocks} {stage : Stage} :
    ¬ RefusesSeeds (t.get stage) := by
  simp [Timelocks.get, asU32, refusesSeeds_bind]

@[simp] theorem not_refusesSeeds_requireReached {now : U32} {t : Timelocks} {stage : Stage} :
    ¬ RefusesSeeds (requireReached now t stage) := by
  simp [requireReached, refusesSeeds_bind]

@[simp] theorem not_refusesSeeds_requireWindow {now : U32} {t : Timelocks}
    {opens closes : Stage} : ¬ RefusesSeeds (requireWindow now t opens closes) := by
  have inside : ¬ RefusesSeeds (insideWindow now t opens closes) := by
    simp only [insideWindow, refusesSeeds_bind, not_refusesSeeds_get, false_or, not_exists,
      not_and]
    intro start _
    split <;> simp
  simp [requireWindow, refusesSeeds_bind, inside]

@[simp] theorem not_refusesSeeds_uniTransfer {params : UniTransferParams K}
    {seeds : Option (SignerSeeds K)} : ¬ RefusesSeeds (uniTransfer env ctx params seeds l) := by
  unfold uniTransfer
  split <;> split <;> simp

@[simp] theorem not_refusesSeeds_withdrawAndCloseTokenAta {ata : InterfaceAccount K}
    {authority toAccount mint rentRecipient : K} {program : TokenProgram} {seeds : SignerSeeds K} :
    ¬ RefusesSeeds (withdrawAndCloseTokenAta env ctx ata authority toAccount mint program
      rentRecipient seeds l) := by
  simp [withdrawAndCloseTokenAta, refusesSeeds_bind]

@[simp] theorem not_refusesSeeds_closeRescued {ata : InterfaceAccount K}
    {escrow recipient : K} {program : TokenProgram} {amount : U64} {seeds : SignerSeeds K} :
    ¬ RefusesSeeds (closeRescued env ctx escrow ata recipient program amount seeds l) := by
  unfold closeRescued
  split <;> simp

omit [DecidableEq K] in
@[simp] theorem not_refusesSeeds_rescueStartOf {T : Type} {read : Data K → Option T}
    {timelocks : T → Limbs} : ¬ RefusesSeeds (rescueStartOf read timelocks l address) := by
  unfold rescueStartOf
  split
  · simp
  · simp [refusesSeeds_bind, Timelocks.rescueStart, asU32]

@[simp] theorem not_refusesSeeds_rescueFunds {start : Option U32} {ata : InterfaceAccount K}
    {escrow recipient recipientAta mint : K} {program : TokenProgram} {amount : U64}
    {seeds : SignerSeeds K} :
    ¬ RefusesSeeds (rescueFunds env ctx escrow start ata recipient recipientAta mint program
      amount seeds l) := by
  have started : ∀ now, ¬ RefusesSeeds (requireRescueStarted now start) := by
    intro now
    cases start with
    | none => simp [requireRescueStarted]
    | some rescueStart => simp [requireRescueStarted]
  simp [rescueFunds, refusesSeeds_bind, started]

@[simp] theorem not_refusesSeeds_returnTokens {order : Order K} {mint : K}
    {orderAta : InterfaceAccount K} {creatorAta : Option K} {program : TokenProgram} :
    ¬ RefusesSeeds (Src.returnTokens env ctx order address orderAta creatorAta mint program l) := by
  unfold Src.returnTokens
  split <;> simp [refusesSeeds_bind]

@[simp] theorem not_refusesSeeds_initRecipientAta {signers : List K} {payer recipient mint : K}
    {recipientAta : Option K} {program : TokenProgram} :
    ¬ RefusesSeeds (Dst.initRecipientAta env signers payer recipientAta recipient program mint
      l) := by
  unfold Dst.initRecipientAta
  split <;> simp

end Steps

/-! ## The computations of a fill -/

section Fill
variable {now : U32} {ix : Src.CreateEscrow K} {order : Order K}

@[simp] theorem not_refusesSeeds_rateBumpLoop {timestamp finish : U64}
    {points : List PointAndTimeDelta} {rate time : U64} :
    ¬ RefusesSeeds (rateBumpLoop timestamp finish points rate time) := by
  induction points generalizing rate time with
  | nil => simp [rateBumpLoop, finalStretch, refusesSeeds_bind]
  | cons point rest ih =>
    simp only [rateBumpLoop, refusesSeeds_bind, not_refusesSeeds_plus, false_or, not_exists,
      not_and]
    intro next _
    split
    · simp [interpolate, refusesSeeds_bind]
    · exact ih

omit [DecidableEq K] in
@[simp] theorem not_refusesSeeds_requireFillAmount {amount : U64} :
    ¬ RefusesSeeds (requireFillAmount order amount) := by
  simp [requireFillAmount]

@[simp] theorem not_refusesSeeds_tryToVec {data : AuctionData} :
    ¬ RefusesSeeds data.tryToVec := by
  simp [AuctionData.tryToVec]

@[simp] theorem not_refusesSeeds_getDstAmount {clock : Clock} {share : Limbs}
    {data : AuctionData} : ¬ RefusesSeeds (getDstAmount clock share data) := by
  have bump : ¬ RefusesSeeds (calculateRateBump clock.asU64 data) := by
    unfold calculateRateBump
    simp only
    split
    · simp
    · simp only [refusesSeeds_bind, not_refusesSeeds_plus, false_or, not_exists, not_and]
      intro finish _
      split <;> simp
  simp [getDstAmount, refusesSeeds_bind, bump]

@[simp] theorem not_refusesSeeds_shareOfDstAmount {dstAmount : Limbs} {amount total : U64} :
    ¬ RefusesSeeds (shareOfDstAmount dstAmount amount total) := by
  simp [shareOfDstAmount, refusesSeeds_bind]

omit [DecidableEq K] in
@[simp] theorem not_refusesSeeds_acceptedHashlock {amount : U64} {proof : Option MerkleProof} :
    ¬ RefusesSeeds (acceptedHashlock env order amount proof) := by
  have reaches : ∀ remaining total parts calculated,
      ¬ RefusesSeeds (reachesNewIndex remaining total parts calculated) := by
    intro remaining total parts calculated
    unfold reachesNewIndex
    split
    · simp [calculatedIndex, refusesSeeds_bind]
    · simp
  have valid : ∀ making remaining total parts index,
      ¬ RefusesSeeds (isValidPartialFill making remaining total parts index) := by
    intro making remaining total parts index
    simp only [isValidPartialFill, calculatedIndex, refusesSeeds_bind, not_refusesSeeds_minus,
      not_refusesSeeds_plus, not_refusesSeeds_times, not_refusesSeeds_dividedBy, false_or,
      not_exists, not_and, and_false, exists_false]
    intros
    split <;> simp [reaches]
  cases proof with
  | none => simp [acceptedHashlock]
  | some proof => simp [acceptedHashlock, refusesSeeds_bind, valid]

@[simp] theorem not_refusesSeeds_settleOrder :
    ¬ RefusesSeeds (Src.settleOrder env ctx ix order l) := by
  unfold Src.settleOrder
  split <;> simp [refusesSeeds_bind]

@[simp] theorem not_refusesSeeds_calculatePremium {start duration : U32} {most : U64} :
    ¬ RefusesSeeds (calculatePremium now start duration most) := by
  unfold calculatePremium
  split
  · simp
  · simp only [refusesSeeds_bind, not_refusesSeeds_minus, false_or, not_exists, not_and]
    intro elapsed _
    split <;> simp [refusesSeeds_bind]

end Fill

/-! ## The ends of the exits -/


theorem Exit.not_refusesSeeds (x : Exit K) : ¬ RefusesSeeds (x.run env clock l) := by
  have payout : ¬ RefusesSeeds (x.payout env clock l) := by
    unfold Exit.payout processPayout
    split <;> simp [refusesSeeds_bind]
  have deposit : ∀ l : Chain K,
      ¬ RefusesSeeds (distributeSafetyDeposit x.escrow x.rentPayer x.caller x.deposit l) := by
    intro l
    unfold distributeSafetyDeposit
    split <;> simp [refusesSeeds_bind]
  simp [Exit.run, refusesSeeds_bind, payout, deposit]

omit [DecidableEq K] in
theorem Exit.ready_not_refusesSeeds (x : Exit K) : ¬ RefusesSeeds (x.ready l) := by
  simp [Exit.ready]

/-! ## A run passes its constraint -/

section Constraint
variable {c : SeedConstraint K}

theorem Src.Instruction.passes_seeds {ix : Src.Instruction K} {data : Data K}
    (constraint : ix.seedConstraint env data = some c)
    (held : c.bump.isSome = true → l.data c.address = .program data)
    (ran : ix.run env clock l = .ok l') : c.check env = .ok () := by
  cases ix with
  | create ix => cases constraint
  | createEscrow ix =>
    cases data with
    | order o =>
      cases constraint
      simp only [Src.Instruction.run, Src.createEscrow, bind_ok, loadOrder_ok, held rfl,
        AccountData.program.injEq, Data.order.injEq, exists_eq_left', requireSeeds_ok] at ran
      refine requireSeeds_ok.mpr ?_
      grind
    | _ => cases constraint
  | withdraw ix =>
    cases data with
    | escrowSrc e =>
      cases constraint
      simp only [Src.Instruction.run, Src.withdraw, bind_ok, loadEscrowSrc_ok, held rfl,
        AccountData.program.injEq, Data.escrowSrc.injEq, exists_eq_left', requireSeeds_ok] at ran
      refine requireSeeds_ok.mpr ?_
      grind
    | _ => cases constraint
  | publicWithdraw ix =>
    cases data with
    | escrowSrc e =>
      cases constraint
      simp only [Src.Instruction.run, Src.publicWithdraw, bind_ok, loadEscrowSrc_ok, held rfl,
        AccountData.program.injEq, Data.escrowSrc.injEq, exists_eq_left', requireSeeds_ok] at ran
      refine requireSeeds_ok.mpr ?_
      grind
    | _ => cases constraint
  | cancelEscrow ix =>
    cases data with
    | escrowSrc e =>
      cases constraint
      simp only [Src.Instruction.run, Src.cancelEscrow, bind_ok, loadEscrowSrc_ok, held rfl,
        AccountData.program.injEq, Data.escrowSrc.injEq, exists_eq_left', requireSeeds_ok] at ran
      refine requireSeeds_ok.mpr ?_
      grind
    | _ => cases constraint
  | publicCancelEscrow ix =>
    cases data with
    | escrowSrc e =>
      cases constraint
      simp only [Src.Instruction.run, Src.publicCancelEscrow, bind_ok, loadEscrowSrc_ok, held rfl,
        AccountData.program.injEq, Data.escrowSrc.injEq, exists_eq_left', requireSeeds_ok] at ran
      refine requireSeeds_ok.mpr ?_
      grind
    | _ => cases constraint
  | cancelOrder ix =>
    cases data with
    | order o =>
      cases constraint
      simp only [Src.Instruction.run, Src.cancelOrder, bind_ok, loadOrder_ok, held rfl,
        AccountData.program.injEq, Data.order.injEq, exists_eq_left', requireSeeds_ok] at ran
      refine requireSeeds_ok.mpr ?_
      grind
    | _ => cases constraint
  | cancelOrderByResolver ix =>
    cases data with
    | order o =>
      cases constraint
      simp only [Src.Instruction.run, Src.cancelOrderByResolver, bind_ok, loadOrder_ok, held rfl,
        AccountData.program.injEq, Data.order.injEq, exists_eq_left', requireSeeds_ok] at ran
      refine requireSeeds_ok.mpr ?_
      grind
    | _ => cases constraint
  | rescueFundsForEscrow ix =>
    cases data with
    | escrowSrc e =>
      cases constraint
      obtain ⟨_, _, _, steps⟩ := rescueFundsForEscrow_steps ran
      exact requireFound_ok.mpr steps.derived
    | _ => cases constraint
  | rescueFundsForOrder ix =>
    cases data with
    | order o =>
      cases constraint
      obtain ⟨_, _, _, _, steps⟩ := rescueFundsForOrder_steps ran
      exact requireFound_ok.mpr steps.derived
    | _ => cases constraint

theorem Dst.Instruction.passes_seeds {ix : Dst.Instruction K} {data : Data K}
    (constraint : ix.seedConstraint env data = some c)
    (held : c.bump.isSome = true → l.data c.address = .program data)
    (ran : ix.run env clock l = .ok l') : c.check env = .ok () := by
  cases ix with
  | create ix => cases constraint
  | withdraw ix =>
    cases data with
    | escrowDst e =>
      cases constraint
      simp only [Dst.Instruction.run, Dst.withdraw, bind_ok, loadEscrowDst_ok, held rfl,
        AccountData.program.injEq, Data.escrowDst.injEq, exists_eq_left', requireSeeds_ok] at ran
      refine requireSeeds_ok.mpr ?_
      grind
    | _ => cases constraint
  | publicWithdraw ix =>
    cases data with
    | escrowDst e =>
      cases constraint
      simp only [Dst.Instruction.run, Dst.publicWithdraw, bind_ok, loadEscrowDst_ok, held rfl,
        AccountData.program.injEq, Data.escrowDst.injEq, exists_eq_left', requireSeeds_ok] at ran
      refine requireSeeds_ok.mpr ?_
      grind
    | _ => cases constraint
  | cancel ix =>
    cases data with
    | escrowDst e =>
      cases constraint
      simp only [Dst.Instruction.run, Dst.cancel, bind_ok, loadEscrowDst_ok, held rfl,
        AccountData.program.injEq, Data.escrowDst.injEq, exists_eq_left', requireSeeds_ok] at ran
      refine requireSeeds_ok.mpr ?_
      grind
    | _ => cases constraint
  | rescueFunds ix =>
    cases data with
    | escrowDst e =>
      cases constraint
      obtain ⟨_, _, _, steps⟩ := rescueFundsDst_steps ran
      exact requireFound_ok.mpr steps.derived
    | _ => cases constraint

/-! ## A refusal comes from the constraint -/

theorem Src.Instruction.refuses_seeds {ix : Src.Instruction K} {data : Data K}
    (constraint : ix.seedConstraint env data = some c)
    (held : l.data c.address = .program data) (others : ix.OthersDerived env l data)
    (refused : RefusesSeeds (ix.run env clock l)) : c.check env ≠ .ok () := by
  cases ix with
  | create ix => cases constraint
  | createEscrow ix =>
    cases data with
    | order o =>
      cases constraint
      simp only [Src.Instruction.OthersDerived] at others
      simp [Src.Instruction.run, Src.createEscrow, refusesSeeds_bind, held, others] at refused
      rw [SeedConstraint.check, ne_eq, requireSeeds_ok]
      grind
    | _ => cases constraint
  | withdraw ix =>
    cases data with
    | escrowSrc e =>
      cases constraint
      simp [Src.Instruction.run, Src.withdraw_eq, Src.Withdraw.guards, refusesSeeds_bind,
        Exit.not_refusesSeeds, Exit.ready_not_refusesSeeds, held] at refused
      rw [SeedConstraint.check, ne_eq, requireSeeds_ok]
      grind
    | _ => cases constraint
  | publicWithdraw ix =>
    cases data with
    | escrowSrc e =>
      cases constraint
      simp only [Src.Instruction.OthersDerived] at others
      simp [Src.Instruction.run, Src.publicWithdraw_eq, Src.PublicWithdraw.guards, refusesSeeds_bind,
        Exit.not_refusesSeeds, Exit.ready_not_refusesSeeds, held, others] at refused
      rw [SeedConstraint.check, ne_eq, requireSeeds_ok]
      grind
    | _ => cases constraint
  | cancelEscrow ix =>
    cases data with
    | escrowSrc e =>
      cases constraint
      simp [Src.Instruction.run, Src.cancelEscrow_eq, Src.CancelEscrow.guards, refusesSeeds_bind,
        Exit.not_refusesSeeds, Exit.ready_not_refusesSeeds, held] at refused
      rw [SeedConstraint.check, ne_eq, requireSeeds_ok]
      grind
    | _ => cases constraint
  | publicCancelEscrow ix =>
    cases data with
    | escrowSrc e =>
      cases constraint
      simp only [Src.Instruction.OthersDerived] at others
      simp [Src.Instruction.run, Src.publicCancelEscrow_eq, Src.PublicCancelEscrow.guards, refusesSeeds_bind,
        Exit.not_refusesSeeds, Exit.ready_not_refusesSeeds, held, others] at refused
      rw [SeedConstraint.check, ne_eq, requireSeeds_ok]
      grind
    | _ => cases constraint
  | cancelOrder ix =>
    cases data with
    | order o =>
      cases constraint
      simp [Src.Instruction.run, Src.cancelOrder, refusesSeeds_bind, held] at refused
      rw [SeedConstraint.check, ne_eq, requireSeeds_ok]
      grind
    | _ => cases constraint
  | cancelOrderByResolver ix =>
    cases data with
    | order o =>
      cases constraint
      simp only [Src.Instruction.OthersDerived] at others
      simp [Src.Instruction.run, Src.cancelOrderByResolver, refusesSeeds_bind, overflowFault, held,
        others] at refused
      rw [SeedConstraint.check, ne_eq, requireSeeds_ok]
      grind
    | _ => cases constraint
  | rescueFundsForEscrow ix =>
    cases data with
    | escrowSrc e =>
      cases constraint
      simp [Src.Instruction.run, Src.rescueFundsForEscrow, refusesSeeds_bind] at refused
      rw [SeedConstraint.check, ne_eq, requireFound_ok]
      grind
    | _ => cases constraint
  | rescueFundsForOrder ix =>
    cases data with
    | order o =>
      cases constraint
      simp only [Src.Instruction.OthersDerived] at others
      simp [Src.Instruction.run, Src.rescueFundsForOrder, refusesSeeds_bind, others] at refused
      rw [SeedConstraint.check, ne_eq, requireFound_ok]
      grind
    | _ => cases constraint

theorem Dst.Instruction.refuses_seeds {ix : Dst.Instruction K} {data : Data K}
    (constraint : ix.seedConstraint env data = some c)
    (held : l.data c.address = .program data) (others : ix.OthersDerived env l data)
    (refused : RefusesSeeds (ix.run env clock l)) : c.check env ≠ .ok () := by
  cases ix with
  | create ix => cases constraint
  | withdraw ix =>
    cases data with
    | escrowDst e =>
      cases constraint
      simp [Dst.Instruction.run, Dst.withdraw_eq, Dst.Withdraw.guards, refusesSeeds_bind,
        Exit.not_refusesSeeds, Exit.ready_not_refusesSeeds, held] at refused
      rw [SeedConstraint.check, ne_eq, requireSeeds_ok]
      grind
    | _ => cases constraint
  | publicWithdraw ix =>
    cases data with
    | escrowDst e =>
      cases constraint
      simp only [Dst.Instruction.OthersDerived] at others
      simp [Dst.Instruction.run, Dst.publicWithdraw_eq, Dst.PublicWithdraw.guards, refusesSeeds_bind,
        Exit.not_refusesSeeds, Exit.ready_not_refusesSeeds, held, others] at refused
      rw [SeedConstraint.check, ne_eq, requireSeeds_ok]
      grind
    | _ => cases constraint
  | cancel ix =>
    cases data with
    | escrowDst e =>
      cases constraint
      simp [Dst.Instruction.run, Dst.cancel_eq, Dst.Cancel.guards, refusesSeeds_bind,
        Exit.not_refusesSeeds, Exit.ready_not_refusesSeeds, held] at refused
      rw [SeedConstraint.check, ne_eq, requireSeeds_ok]
      grind
    | _ => cases constraint
  | rescueFunds ix =>
    cases data with
    | escrowDst e =>
      cases constraint
      simp [Dst.Instruction.run, Dst.rescueFunds, refusesSeeds_bind] at refused
      rw [SeedConstraint.check, ne_eq, requireFound_ok]
      grind
    | _ => cases constraint

end Constraint

/-- An instruction that runs passed the constraint. -/
theorem Instruction.passes_seeds {ix : Instruction K} {data : Data K} {c : SeedConstraint K}
    (constraint : ix.seedConstraint env data = some c)
    (held : c.bump.isSome = true → l.data c.address = .program data)
    (ran : ix.run env clock l = .ok l') : c.check env = .ok () := by
  cases ix with
  | whitelist ix => cases constraint
  | src ix => exact ix.passes_seeds constraint held ran
  | dst ix => exact ix.passes_seeds constraint held ran

/-- One that ends for its seeds failed it, or another derived address was wrong. -/
theorem Instruction.refuses_seeds {ix : Instruction K} {data : Data K} {c : SeedConstraint K}
    (constraint : ix.seedConstraint env data = some c)
    (held : l.data c.address = .program data) (others : ix.OthersDerived env l data)
    (refused : RefusesSeeds (ix.run env clock l)) : c.check env ≠ .ok () := by
  cases ix with
  | whitelist ix => cases constraint
  | src ix => exact ix.refuses_seeds constraint held others refused
  | dst ix => exact ix.refuses_seeds constraint held others refused

end CrossChainEscrow.Source
