import CrossChainEscrow.Invariants.Backing
import CrossChainEscrow.Source.Execution

/-!
# Backing and accounting of orders and source escrows

What remains of an order and what its escrows took add up to its amount, and
until rescues may begin the token accounts hold what the records say.
-/

namespace CrossChainEscrow.Source
open Library.Words Library.Bytes Library.Accounts

variable {K : Type} [DecidableEq K] {env : Environment K} {h : History K} {s : State K}
  {l : Chain K} {a : K}

/-- The escrows of a fill that closes its order make up the whole amount. -/
theorem Trace.closing_fill (trace : Trace env h s) {ix : Src.CreateEscrow K} {order : Order K}
    (live : s.ledger.programAt ix.order = some (.order order))
    (ran : Src.createEscrow env s.clock ix s.ledger = .ok l)
    (closed : l.programAt ix.order = none) :
    filledAmount (fillsOf ix.order (⟨s, .src (.createEscrow ix), l⟩ :: h)) =
      order.amount.toNat := by
  obtain ⟨v, steps⟩ := Src.createEscrow_steps ran
  obtain rfl := steps.order_eq live
  have tracked := trace.tracked live
  have accounted := tracked.accounted
  have ends : ix.Ends v.order := by
    obtain ⟨left, leaves, programs⟩ := steps.programAt
    rw [programs, Function.update_self] at closed
    subst closed
    rcases leaves with ⟨ends, _⟩ | ⟨_, _, _, kept⟩
    · exact ends
    · cases kept
  have rest : ix.amount = v.order.remainingAmount := by
    rcases ends with single | last
    · rcases requireFillAmount_ok.mp steps.amount with ⟨many, _⟩ | ⟨_, whole⟩
      · rw [single] at many
        cases many
      · rw [whole, tracked.whole single]
    · exact last.symm
  have fills := (fillsOf_fill h rfl rfl steps.fill_eq).2
  rw [fills, filledAmount, List.map_cons, List.sum_cons]
  change ix.amount.toNat + filledAmount _ = v.order.amount.toNat
  rw [rest, Nat.add_comm]
  omega

/-- In every state of every run: a live order has something left, at most its
amount, and its escrows took the rest; the escrows of an order that a fill closes
make up its amount; before its rescue period a live order's account holds what
remains; before its rescue period a live escrow's account holds its amount, if the
escrow was created before its order's rescue period. -/
theorem Trace.accounted (free : env.CollisionFree) (trace : Trace env h s) :
    (∀ (a : K) (order : Order K), s.ledger.programAt a = some (.order order) →
      0 < order.remainingAmount.toNat ∧ order.remainingAmount.toNat ≤ order.amount.toNat ∧
      filledAmount (fillsOf a h) = order.amount.toNat - order.remainingAmount.toNat ∧
      (fillsOf a h).map Fill.ix = fillCalls a h) ∧
    (∀ (ix : Src.CreateEscrow K) (order : Order K) (l : Chain K),
      s.ledger.programAt ix.order = some (.order order) →
      Src.createEscrow env s.clock ix s.ledger = .ok l → l.programAt ix.order = none →
      filledAmount (fillsOf ix.order (⟨s, .src (.createEscrow ix), l⟩ :: h)) =
        order.amount.toNat) ∧
    (∀ (a : K) (order : Order K), s.ledger.programAt a = some (.order order) →
      s.clock.unixTimestamp.toNat < rescueTime order.timelocks →
      order.remainingAmount.toNat ≤ env.balance s.ledger a order.token) ∧
    (∀ (a : K) (escrow : EscrowSrc K), s.ledger.programAt a = some (.escrowSrc escrow) →
      ∃ f, fillOf a h = some f ∧ f.escrow = escrow ∧
        (f.clock.unixTimestamp.toNat < rescueTime f.order.timelocks →
          s.clock.unixTimestamp.toNat < rescueTime escrow.timelocks →
          escrow.amount.toNat ≤ env.balance s.ledger a escrow.token)) := by
  refine ⟨fun a order live => ?_, fun ix order l live ran closed => ?_,
    fun a order live early => ?_, fun a escrow live => ?_⟩
  · have tracked := trace.tracked live
    have accounted := tracked.accounted
    have unfinished := tracked.unfinished
    refine ⟨unfinished, ?_, ?_, trace.fillCalls_eq a⟩
    · omega
    · omega
  · exact trace.closing_fill live ran closed
  · obtain ⟨program, backed⟩ := trace.backed free live
    have tokens := backed.tokens
    rw [backed.early early, Nat.add_zero] at tokens
    rw [Host.balance_eq backed.owned]
    exact tokens
  · obtain ⟨program, backed⟩ := trace.backed free live
    obtain ⟨f, found, same, holds⟩ := backed.filled
    refine ⟨f, found, same, fun before early => ?_⟩
    rw [Host.balance_eq backed.owned]
    exact holds before early

def Sample.firstFill : Sample.Scenario
    (fun r => ((r.state.ledger.programAt (Sample.orderAt Sample.multiple)).bind Data.toOrder).any
      (fun order => decide (order.remainingAmount.toNat = 700)) = true) where
  commands := Sample.multipleFills (([300] : List U64).zip Sample.proofs)

/-- The sample order in parts after its first fill. -/
theorem Trace.accounted_sample : ∃ (h : History Term) (s : State Term) (order : Order Term),
    Trace Sample.env h s ∧
      s.ledger.programAt (Sample.orderAt Sample.multiple) = some (.order order) ∧
      order.remainingAmount.toNat = 700 ∧
      filledAmount (fillsOf (Sample.orderAt Sample.multiple) h) =
        order.amount.toNat - order.remainingAmount.toNat := by
  obtain ⟨r, trace, held⟩ := Sample.firstFill.reached
  obtain ⟨order, live, rest⟩ := Sample.live_order held
  have accounted := (trace.accounted Sample.collisionFree).1 _ _ live
  exact ⟨_, _, order, trace, live, rest, accounted.2.2.1⟩

end CrossChainEscrow.Source
