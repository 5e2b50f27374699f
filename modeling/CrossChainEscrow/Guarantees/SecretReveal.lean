import CrossChainEscrow.Guarantees.StageWindows
import CrossChainEscrow.Invariants.Destination
import CrossChainEscrow.Invariants.Isolation

/-!
# The secret is revealed before the refund

A destination escrow created for a source escrow pays out, and so publishes the
secret, only while no cancellation of the source escrow has passed its time
check.
-/

namespace CrossChainEscrow.Source
open Library.Words Library.Bytes Library.Accounts

variable {K : Type} [DecidableEq K] {env : Environment K} {h : History K} {s : State K}

/-- A withdrawal happens before the cancellation time of its escrow. -/
theorem WithdrawsDst.early {clock : Clock} {l l' : Chain K} {ix : Instruction K} {d : K}
    {secret : Bytes32} (withdraws : WithdrawsDst d secret ix) (ran : ix.run env clock l = .ok l') :
    ∃ escrow, l.programAt d = some (.escrowDst escrow) ∧
      clock.unixTimestamp.toNat < escrow.timelocks.timelocks.deployedAt +
        escrow.timelocks.timelocks.offset .dstCancellation := by
  cases withdraws with
  | withdraw named _ =>
    subst named
    obtain ⟨escrow, live, opened⟩ := Dst.withdraw_open ran
    exact ⟨escrow, live, (Limbs.inWindow_iff.mp opened).2.1⟩
  | publicWithdraw named _ =>
    subst named
    obtain ⟨escrow, live, opened⟩ := Dst.publicWithdraw_open ran
    exact ⟨escrow, live, (Limbs.inWindow_iff.mp opened).2.1⟩

/-- A cancellation passes one of the two checks of the escrow it cancels. -/
theorem CancelsSrc.checked {clock : Clock} {l l' : Chain K} {ix : Instruction K} {a : K}
    {escrow : EscrowSrc K} (cancels : CancelsSrc a ix) (ran : ix.run env clock l = .ok l')
    (live : l.programAt a = some (.escrowSrc escrow)) :
    escrow.cancelOpen clock.unixTimestamp ∨ escrow.publicCancelOpen clock.unixTimestamp := by
  cases cancels with
  | cancelEscrow named =>
    subst named
    obtain ⟨stored, found, opened⟩ := Src.cancelEscrow_open ran
    rw [live] at found
    cases found
    exact Or.inl opened
  | publicCancelEscrow named =>
    subst named
    obtain ⟨stored, found, opened⟩ := Src.publicCancelEscrow_open ran
    rw [live] at found
    cases found
    exact Or.inr opened

omit [DecidableEq K] in
/-- Before its cancellation time neither check of a source escrow passes, when
the public one does not come first. -/
theorem EscrowSrc.not_cancellable {escrow : EscrowSrc K} (now : U32)
    (ordered : escrow.timelocks.timelocks.offset .srcCancellation ≤
      escrow.timelocks.timelocks.offset .srcPublicCancellation)
    (early : now.toNat < escrow.timelocks.timelocks.deployedAt +
      escrow.timelocks.timelocks.offset .srcCancellation) :
    ¬ escrow.cancelOpen now ∧ ¬ escrow.publicCancelOpen now := by
  unfold EscrowSrc.cancelOpen EscrowSrc.publicCancelOpen
  rw [Limbs.reached_iff, Limbs.reached_iff]
  omega

/-- Over every run of both programs on one clock: when a withdrawal of a
destination escrow succeeds whose creation was given the cancellation time of a
source escrow, that source escrow's cancellations fail their time checks at that
moment, and none of them has succeeded before. -/
theorem Trace.reveal_before_refund (trace : Trace env h s) (src : K) {dst : K} {escrow : EscrowSrc K}
    {c : Dst.Create K} {clock : Clock} {secret : Bytes32} {ix : Instruction K} {l : Chain K}
    (ordered : escrow.timelocks.timelocks.offset .srcCancellation ≤
      escrow.timelocks.timelocks.offset .srcPublicCancellation)
    (created : dstCreationOf dst h = some (c, clock))
    (given : c.srcCancellationTimestamp.toNat = escrow.timelocks.timelocks.deployedAt +
      escrow.timelocks.timelocks.offset .srcCancellation)
    (withdraws : WithdrawsDst dst secret ix) (ran : ix.run env s.clock s.ledger = .ok l) :
    (¬ escrow.cancelOpen s.clock.unixTimestamp ∧ ¬ escrow.publicCancelOpen s.clock.unixTimestamp) ∧
    ∀ e ∈ h, CancelsSrc src e.ix →
      e.pre.ledger.programAt src ≠ some (.escrowSrc escrow) := by
  obtain ⟨destination, live, early⟩ := withdraws.early ran
  obtain ⟨c', clock', found, _, before⟩ := trace.dst_created live
  rw [created] at found
  obtain ⟨rfl, rfl⟩ : c = c' ∧ clock = clock' := by simpa using found
  refine ⟨EscrowSrc.not_cancellable _ ordered (by omega), ?_⟩
  intro e member cancels held
  obtain ⟨earlier, past⟩ := trace.event_ran member
  have closed := EscrowSrc.not_cancellable e.pre.clock.unixTimestamp ordered (by omega)
  exact (cancels.checked earlier held).elim closed.1 closed.2

/-- The commands of a swap: the order and its escrow on the source side, and the
destination escrow with the source escrow's cancellation time. -/
def Sample.swap : List (Command Term) :=
  Sample.singleFill Sample.single ++ [.wait 160, .call (.dst (.create
    (Sample.createDst Sample.single Sample.single.timelocks 180))), .wait 166]

def Sample.withdrawDst : Dst.Withdraw Term :=
  let c := Sample.createDst Sample.single Sample.single.timelocks 180
  { creator := Sample.taker, recipient := Sample.maker, mint := Sample.usdc, escrow := c.escrow
    escrowAta := c.escrowAta, recipientAta := some (Sample.associated Sample.maker)
    tokenProgram := .token, secret := Sample.secret }

def Sample.revealed : Sample.Scenario
    (fun r => (dstCreationOf Sample.withdrawDst.escrow r.history).any
        (fun c => decide (c.1.srcCancellationTimestamp = 180)) = true ∧
      ((r.state.ledger.programAt (Sample.escrowAt Sample.single 1000 none)).bind
        Data.toEscrowSrc).any (fun e => decide (
          e.timelocks.timelocks.deployedAt + e.timelocks.timelocks.offset .srcCancellation = 180 ∧
          e.timelocks.timelocks.offset .srcCancellation ≤
            e.timelocks.timelocks.offset .srcPublicCancellation)) = true ∧
      (Dst.withdraw Sample.env r.state.clock Sample.withdrawDst
        r.state.ledger).toOption.isSome = true) where
  commands := Sample.swap

/-- The withdrawal of the sample's destination escrow. -/
theorem Trace.reveal_before_refund_sample : ∃ (h : History Term) (s : State Term)
    (l : Chain Term) (escrow : EscrowSrc Term), Trace Sample.env h s ∧
      Dst.withdraw Sample.env s.clock Sample.withdrawDst s.ledger = .ok l ∧
      s.ledger.programAt (Sample.escrowAt Sample.single 1000 none) = some (.escrowSrc escrow) ∧
      ¬ escrow.cancelOpen s.clock.unixTimestamp := by
  obtain ⟨r, trace, created, held, withdrawn⟩ := Sample.revealed.reached
  obtain ⟨⟨c, clock⟩, found, time⟩ := (Option.any_eq_true _ _).mp created
  obtain ⟨escrow, live, sum, ordered⟩ := Sample.live_escrowSrc held
  obtain ⟨l, ran⟩ := isSome_toOption withdrawn
  have given : c.srcCancellationTimestamp.toNat = 180 := congrArg BitVec.toNat (of_decide_eq_true time)
  have withdraws : WithdrawsDst Sample.withdrawDst.escrow Sample.secret
      (.dst (.withdraw Sample.withdrawDst)) := .withdraw rfl rfl
  have revealed := trace.reveal_before_refund (Sample.escrowAt Sample.single 1000 none) ordered
    found (given.trans sum.symm) withdraws ran
  exact ⟨_, _, l, escrow, trace, ran, live, revealed.1.1⟩

end CrossChainEscrow.Source
