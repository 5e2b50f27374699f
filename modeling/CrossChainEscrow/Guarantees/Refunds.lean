import CrossChainEscrow.Guarantees.Progress
import CrossChainEscrow.Invariants.Orders

/-!
# Whether the maker can be refunded

The stages of an escrow are offsets that `create` accepts unread, added to the
time of the fill. Where a sum leaves 32 bits its stage getter fails at every
time, and with it the instruction that asks for the stage. Whether some time
passes either check (`EscrowSrc.Refundable`) is thus decided by the fill, and it is
whether some cancellation will go through.
-/

namespace CrossChainEscrow.Source
open Library.Words Library.Bytes Library.Accounts Library.Registries

variable {K : Type}

/-- A time, from the escrow's creation on, at which a cancellation's time check
passes. -/
def EscrowSrc.Refundable (e : EscrowSrc K) : Prop :=
  ∃ t : U32, e.timelocks.timelocks.deployedAt ≤ t.toNat ∧ (e.cancelOpen t ∨ e.publicCancelOpen t)

/-- A stage is reached at some time exactly when its time fits 32 bits, and then
the getter returns it. -/
theorem Limbs.reached_some {x : Limbs} {stage : Stage} :
    (∃ t : U32, x.timelocks.deployedAt ≤ t.toNat ∧ x.reached stage t) ↔
      x.timelocks.deployedAt + x.timelocks.offset stage < 2 ^ 32 := by
  simp only [Limbs.reached_iff]
  constructor
  · intro reached
    obtain ⟨t, _, past⟩ := reached
    have bound := t.isLt
    omega
  · intro fits
    have first : (BitVec.ofNat 32 (x.timelocks.deployedAt + x.timelocks.offset stage)).toNat =
        x.timelocks.deployedAt + x.timelocks.offset stage := Nat.mod_eq_of_lt fits
    exact ⟨_, Nat.le_trans (Nat.le_add_right _ _) (Nat.le_of_eq first.symm),
      Nat.le_of_eq first.symm⟩

theorem EscrowSrc.refundable_offsets (e : EscrowSrc K) : e.Refundable ↔
    e.timelocks.timelocks.deployedAt + e.timelocks.timelocks.offset .srcCancellation < 2 ^ 32 ∨
      e.timelocks.timelocks.deployedAt +
        e.timelocks.timelocks.offset .srcPublicCancellation < 2 ^ 32 := by
  rw [← Limbs.reached_some, ← Limbs.reached_some]
  constructor
  · intro refundable
    obtain ⟨t, later, cancels | cancels⟩ := refundable
    · exact Or.inl ⟨t, later, cancels⟩
    · exact Or.inr ⟨t, later, cancels⟩
  · intro reached
    rcases reached with ⟨t, later, cancels⟩ | ⟨t, later, cancels⟩
    · exact ⟨t, later, Or.inl cancels⟩
    · exact ⟨t, later, Or.inr cancels⟩

variable [DecidableEq K] {env : Environment K} {h : History K} {s : State K}

/-- For every order that `create` accepted and every escrow that `create_escrow`
makes from it, which is before the expiration: some time passes the check of one
of the two cancellations if and only if the time of the fill and one of the two
cancellation offsets of the order add up in 32 bits. -/
theorem Trace.refundable_iff (trace : Trace env h s) {ix : Src.CreateEscrow K} {l : Chain K}
    (ran : Src.createEscrow env s.clock ix s.ledger = .ok l) :
    ∃ (c : Src.Create K) (clock : Clock) (e : EscrowSrc K),
      creationOf ix.order h = some (c, clock) ∧
      (∃ before after, Src.create env clock c before = .ok after) ∧
      s.clock.unixTimestamp < c.expirationTime ∧
      l.programAt ix.escrow = some (.escrowSrc e) ∧
      e.timelocks.timelocks.deployedAt = s.clock.unixTimestamp.toNat ∧
      (e.Refundable ↔
        s.clock.unixTimestamp.toNat + c.timelocks.timelocks.offset .srcCancellation < 2 ^ 32 ∨
        s.clock.unixTimestamp.toNat +
          c.timelocks.timelocks.offset .srcPublicCancellation < 2 ^ 32) := by
  obtain ⟨v, steps⟩ := Src.createEscrow_steps ran
  have live : s.ledger.programAt ix.order = some (.order v.order) :=
    Ledger.programAt_eq_some.mpr steps.loaded
  obtain ⟨c, clock, created, same, _⟩ := (trace.tracked live).created
  obtain ⟨_, before, after, accepted⟩ := trace.creation_ran created
  have offsets (stage : Stage) :
      v.order.timelocks.timelocks.offset stage = c.timelocks.timelocks.offset stage := by
    rw [same]
    simp only [Src.Create.orderWith, Src.Create.newOrder, Timelocks.getTimelocks_timelocks,
      Timelocks.setDeployedAt_offset]
  have expiration : v.order.expirationTime = c.expirationTime := by
    rw [same]
    rfl
  refine ⟨c, clock, _, created, ⟨before, after, accepted⟩, expiration ▸ steps.notExpired,
    steps.escrow_programAt, ?_, ?_⟩
  · simp only [Src.CreateEscrow.newEscrow, Timelocks.getTimelocks_timelocks,
      Timelocks.setDeployedAt_deployedAt]
  · rw [EscrowSrc.refundable_offsets]
    simp only [Src.CreateEscrow.newEscrow, Timelocks.getTimelocks_timelocks,
      Timelocks.setDeployedAt_deployedAt, Timelocks.setDeployedAt_offset, offsets]

omit [DecidableEq K] in
/-- A check that passes at some time passes at some time from any on. -/
theorem EscrowSrc.Refundable.later {e : EscrowSrc K} (refundable : e.Refundable) (start : U32) :
    ∃ now : U32, start ≤ now ∧ (e.cancelOpen now ∨ e.publicCancelOpen now) := by
  obtain ⟨t, _, passes⟩ := refundable
  by_cases past : start ≤ t
  · exact ⟨t, past, passes⟩
  · have before : t.toNat ≤ start.toNat := Nat.le_of_lt (Nat.lt_of_not_le past)
    refine ⟨start, Nat.le_refl _, passes.imp (fun opened => ?_) fun opened => ?_⟩
    · exact Limbs.reached_iff.mpr (Nat.le_trans (Limbs.reached_iff.mp opened) before)
    · exact Limbs.reached_iff.mpr (Nat.le_trans (Limbs.reached_iff.mp opened) before)

/-- In every reachable state, for every live escrow that no rescue ran on, whose maker
has its token account or is paid natively, and whose wallets are rent-exempt: it is
refundable exactly if its taker's cancellation, or that of a resolver on the
whitelist, goes through at some time that is still to come. -/
theorem Trace.refundable_cancels {a : K} {e : EscrowSrc K} {program : TokenProgram}
    (free : env.CollisionFree) (trace : Trace env h s)
    (wrapped : env.mintProgram env.NATIVE_MINT = some .token)
    (live : s.ledger.programAt a = some (.escrowSrc e))
    (owned : env.mintProgram e.token = some program)
    (whole : unrescued env a (env.associatedTokenAddress a program e.token) h = true)
    (rent : RentSound env.toHost s.ledger)
    (receivable : Receivable env e.assetIsNative e.maker program e.token s.ledger)
    (exempt : env.RentExempt s.ledger e.taker)
    (paid : e.assetIsNative = true → env.ExemptWith s.ledger e.maker e.amount.toNat)
    {payer : K} (wallet : env.Wallet payer) (payerExempt : env.RentExempt s.ledger payer)
    (listed : Enrolled (env.srcId, payer) (whitelistLog h)) :
    e.Refundable ↔ ∃ now : Clock, s.clock.unixTimestamp ≤ now.unixTimestamp ∧
      ((∃ l, (Instruction.src (.cancelEscrow (e.cancelCall env a program))).process env now
          s.ledger = .ok l) ∨
        ∃ l, (Instruction.src (.publicCancelEscrow (e.publicCancelCall env a program payer))).process
          env now s.ledger = .ok l) := by
  have begun : ∀ {stage : Stage} {now : U32}, e.timelocks.reached stage now →
      e.timelocks.timelocks.deployedAt ≤ now.toNat :=
    fun reached => Nat.le_trans (Nat.le_add_right _ _) (Limbs.reached_iff.mp reached)
  constructor
  · intro refundable
    obtain ⟨now, ahead, opened⟩ := refundable.later s.clock.unixTimestamp
    have waited : Trace env h ⟨s.ledger, ⟨now⟩⟩ := .tick trace ahead
    refine ⟨⟨now⟩, ahead, opened.imp (fun opened => ?_) fun opened => ?_⟩
    · obtain ⟨l, processed, _⟩ := waited.srcCancel_processes free wrapped live owned whole rent
        receivable exempt paid opened
      exact ⟨l, processed⟩
    · obtain ⟨l, processed, _⟩ := waited.srcPublicCancel_processes free wrapped live owned whole rent
        receivable exempt paid wallet payerExempt opened listed
      exact ⟨l, processed⟩
  · rintro ⟨now, _, ⟨l, processed⟩ | ⟨l, processed⟩⟩
    · have ran : Src.cancelEscrow env now (e.cancelCall env a program) s.ledger = .ok l :=
        (Instruction.process_ok.mp processed).1
      have opened := (Src.cancelEscrow_times live).passed ran
      exact ⟨now.unixTimestamp, begun opened, Or.inl opened⟩
    · have ran : Src.publicCancelEscrow env now (e.publicCancelCall env a program payer) s.ledger =
        .ok l := (Instruction.process_ok.mp processed).1
      have opened := (Src.publicCancelEscrow_times live).passed ran
      exact ⟨now.unixTimestamp, begun opened, Or.inr opened⟩

def Sample.overflowingFill : Sample.Scenario
    (fun r => ((r.state.ledger.programAt (Sample.escrowAt Sample.overflowing 1000 none)).bind
      Data.toEscrowSrc).any (fun e =>
        decide (e.timelocks.timelocks.deployedAt = 150 ∧
          e.timelocks.timelocks.offset .srcCancellation = 0xffffffff ∧
          e.timelocks.timelocks.offset .srcPublicCancellation = 0xffffffff)) = true) where
  commands := Sample.singleFill Sample.overflowing

/-- `create` accepts an order, and `create_escrow` an escrow of it, whose
cancellations never pass. -/
theorem Trace.refundable_overflowing : ∃ (h : History Term) (s : State Term) (e : EscrowSrc Term),
    Trace Sample.env h s ∧
      s.ledger.programAt (Sample.escrowAt Sample.overflowing 1000 none) = some (.escrowSrc e) ∧
      ¬ e.Refundable := by
  obtain ⟨r, trace, held⟩ := Sample.overflowingFill.reached
  obtain ⟨e, live, deployed, cancellation, publicCancellation⟩ := Sample.live_escrowSrc held
  refine ⟨r.history, r.state, e, trace, live, ?_⟩
  rw [EscrowSrc.refundable_offsets, deployed, cancellation, publicCancellation]
  decide

def Sample.refundableFill : Sample.Scenario
    (fun r => r.state.clock.unixTimestamp = 150 ∧
      (creationOf (Sample.orderAt Sample.single) r.history).any (fun c =>
        decide (c.1.timelocks.timelocks.offset .srcCancellation = 30)) = true ∧
      (Src.createEscrow Sample.env r.state.clock (Sample.createEscrow Sample.single 1000 none)
        r.state.ledger).toOption.isSome = true) where
  commands := Sample.whitelisting ++ [.wait 100, .call (.src (.create (Sample.create Sample.single))),
      .wait 150]

/-- The fill of the sample order, fifty seconds after its creation. -/
theorem Trace.refundable_sample : ∃ (l : Chain Term) (e : EscrowSrc Term),
    l.programAt (Sample.escrowAt Sample.single 1000 none) = some (.escrowSrc e) ∧ e.Refundable := by
  obtain ⟨r, trace, time, created, filled⟩ := Sample.refundableFill.reached
  obtain ⟨l, ran⟩ := isSome_toOption filled
  obtain ⟨c, clock, e, found, _, _, live, _, refundable⟩ := trace.refundable_iff ran
  refine ⟨l, e, live, refundable.mpr (Or.inl ?_)⟩
  obtain ⟨⟨c', _⟩, found', checked⟩ := (Option.any_eq_true _ _).mp created
  obtain rfl : c' = c := congrArg Prod.fst (Option.some.inj (found'.symm.trans found))
  rw [time, of_decide_eq_true checked]
  decide

end CrossChainEscrow.Source
