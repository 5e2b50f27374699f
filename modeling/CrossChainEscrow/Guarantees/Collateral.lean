import CrossChainEscrow.Invariants.Backing
import CrossChainEscrow.Source.Execution

/-!
# Whether a new escrow is collateralised

A fill that leaves something of the order moves its amount or fails. The last
fill moves whatever the order's account holds, and a rescue of the live order may
have taken some of it.
-/

namespace CrossChainEscrow.Source
open Library.Words Library.Bytes Library.Accounts

variable {K : Type} [DecidableEq K] {env : Environment K} {h : History K} {s : State K}

/-- For every successful fill in every reachable state: the escrow's token
account ends with at least the amount that the escrow records if and only if the
fill leaves something of the order, or the order's account and what already was
in the escrow's cover the amount. They do as long as no rescue took tokens from
the order. -/
theorem Trace.collateral_iff (free : env.CollisionFree) (trace : Trace env h s)
    {ix : Src.CreateEscrow K} {l : Chain K} (signed : env.Wallet ix.taker)
    (ran : Src.createEscrow env s.clock ix s.ledger = .ok l) :
    ∃ (order : Order K) (orderToken : TokenAccount K) (e : EscrowSrc K)
      (escrowToken : TokenAccount K),
      s.ledger.programAt ix.order = some (.order order) ∧
      s.ledger.data ix.orderAta = .token orderToken ∧
      l.programAt ix.escrow = some (.escrowSrc e) ∧ e.amount = ix.amount ∧
      l.data ix.escrowAta = .token escrowToken ∧
      (e.amount.toNat ≤ escrowToken.amount ↔
        ix.amount ≠ order.remainingAmount ∨
          ix.amount.toNat ≤
            env.opening s.ledger ix.escrow ix.tokenProgram ix.mint + orderToken.amount) ∧
      (rescuedFrom ix.order order.token h = 0 → e.amount.toNat ≤ escrowToken.amount) := by
  obtain ⟨v, steps⟩ := Src.createEscrow_steps ran
  have live : s.ledger.programAt ix.order = some (.order v.order) :=
    Ledger.programAt_eq_some.mpr steps.loaded
  have derived := (trace.placed live).derived.notWallet
  obtain ⟨program, backed⟩ := trace.backed free live
  have ataDerived := steps.filled.derived
  have notTaker : ix.escrowAta ≠ ix.taker := by
    intro same
    rw [ataDerived] at same
    exact env.associated_notWallet _ _ _ (same ▸ signed)
  have notEscrow : ix.escrowAta ≠ ix.escrow := by
    rw [ataDerived]
    exact Ne.symm ((Environment.derived_src (Environment.find_created steps.derived)).ne_associated
      free _ _ _)
  obtain ⟨escrowToken, held, amount⟩ := steps.collateral notTaker notEscrow
  refine ⟨v.order, v.orderToken, _, escrowToken, live, steps.token, steps.escrow_programAt, rfl,
    held, ?_, fun whole => ?_⟩
  · change ix.amount.toNat ≤ escrowToken.amount ↔ _
    rw [amount, Src.CreateEscrow.Values.taken, Src.amountToTransfer]
    by_cases last : v.order.remainingAmount = ix.amount
    · rw [if_pos last]
      simp [last]
    · rw [if_neg last]
      have leaves : ix.amount ≠ v.order.remainingAmount := fun same => last same.symm
      simp [leaves]
  · change ix.amount.toNat ≤ escrowToken.amount
    have enough : ix.amount.toNat ≤ v.taken ix :=
      taken_enough (backed.unrescued free trace derived steps whole)
    omega

/-- A rescue of 600 tokens of the lasting order. -/
def Sample.rescueLasting : Src.RescueFundsForOrder Term :=
  { Sample.rescueOrder with
    order := Sample.orderAt Sample.lasting
    orderAta := Sample.associated (Sample.orderAt Sample.lasting)
    params := Sample.lasting
    rescueAmount := 600 }

def Sample.rescuedOrder : Sample.Scenario
    (fun r => (Src.createEscrow Sample.env r.state.clock
        (Sample.createEscrow Sample.lasting 1000 none) r.state.ledger).toOption.any (fun l =>
      ((l.programAt (Sample.escrowAt Sample.lasting 1000 none)).bind Data.toEscrowSrc).any
        (fun e => decide (e.amount = 1000)) &&
      (l.tokenAt (Sample.associated (Sample.escrowAt Sample.lasting 1000 none))).any
        (fun t => decide (t.amount = 400))) = true) where
  commands := Sample.whitelisting ++ [.wait 100, .call (.src (.create (Sample.create Sample.lasting))),
      .wait 691400, .call (.src (.rescueFundsForOrder Sample.rescueLasting))]

/-- Eight days after the creation of an order that has not expired the resolver
rescues 600 of its 1000 tokens, then fills it: the escrow records 1000 and holds
400. -/
theorem Trace.collateral_rescued : ∃ (h : History Term) (s : State Term) (l : Chain Term)
    (e : EscrowSrc Term) (escrowToken : TokenAccount Term), Trace Sample.env h s ∧
      Src.createEscrow Sample.env s.clock (Sample.createEscrow Sample.lasting 1000 none) s.ledger
        = .ok l ∧
      l.programAt (Sample.escrowAt Sample.lasting 1000 none) = some (.escrowSrc e) ∧
      l.data (Sample.associated (Sample.escrowAt Sample.lasting 1000 none)) = .token escrowToken ∧
      escrowToken.amount < e.amount.toNat := by
  obtain ⟨r, trace, filled⟩ := Sample.rescuedOrder.reached
  obtain ⟨l, ran, holds⟩ := (Option.any_eq_true _ _).mp filled
  obtain ⟨recorded, held⟩ := Bool.and_eq_true_iff.mp holds
  obtain ⟨e, live, amount⟩ := Sample.live_escrowSrc recorded
  obtain ⟨token, stored, has⟩ := Sample.live_token held
  refine ⟨r.history, r.state, l, e, token, trace, ok_of_toOption ran, live, stored, ?_⟩
  rw [amount, has]
  decide

def Sample.openOrder : Sample.Scenario
    (fun r => ((r.state.ledger.programAt (Sample.orderAt Sample.single)).bind Data.toOrder).any
        (fun o => decide (rescuedFrom (Sample.orderAt Sample.single) o.token r.history = 0)) = true ∧
      (Src.createEscrow Sample.env r.state.clock (Sample.createEscrow Sample.single 1000 none)
        r.state.ledger).toOption.isSome = true) where
  commands := Sample.whitelisting ++ [.wait 100, .call (.src (.create (Sample.create Sample.single))),
      .wait 150]

/-- The fill of the sample order, which nobody rescued from. -/
theorem Trace.collateral_sample : ∃ (l : Chain Term) (e : EscrowSrc Term)
    (escrowToken : TokenAccount Term),
    l.data (Sample.associated (Sample.escrowAt Sample.single 1000 none)) = .token escrowToken ∧
      l.programAt (Sample.escrowAt Sample.single 1000 none) = some (.escrowSrc e) ∧
      e.amount.toNat ≤ escrowToken.amount := by
  obtain ⟨r, trace, whole, filled⟩ := Sample.openOrder.reached
  obtain ⟨l, ran⟩ := isSome_toOption filled
  obtain ⟨order, _, e, token, live, _, escrow, _, held, _, covered⟩ :=
    trace.collateral_iff Sample.collisionFree (Sample.wallet_atom 12) ran
  obtain ⟨order', live', unrescued⟩ := Sample.live_order whole
  obtain rfl : order' = order := Data.order.inj (Option.some.inj (live'.symm.trans live))
  exact ⟨l, e, token, held, escrow, covered unrescued⟩

end CrossChainEscrow.Source
