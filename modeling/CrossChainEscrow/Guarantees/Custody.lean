import CrossChainEscrow.Invariants.Custody
import CrossChainEscrow.Source.Execution

/-!
# The book of orders and escrows

Over whole runs of both programs the live orders and escrows refine a book of
positions. Its two laws are what a keeper of other people's funds is asked for:
nothing is paid twice, and for every owner and token what came in is what is
still recorded or has ended in one of three ways.
-/

namespace CrossChainEscrow.Source
open Library.Words Library.Bytes Library.Accounts Library.Custody

variable {K : Type} [DecidableEq K] {env : Environment K} {h : History K} {s : State K}

/-- The records of a run are the book its custody operations lead to, whatever
else was interleaved with them, and an address was opened as often as it was
closed, once more while it holds an order or an escrow. So no order and no escrow
ends twice, and none ends that was not opened. -/
theorem Trace.custody_refined (trace : Trace env h s) :
    Reached (custodyLog h) (custodyBook s.ledger) ∧
    ∀ a, (custodyLog h).countP (Op.opens a) = (custodyLog h).countP (Op.closes a) +
      if (custodyBook s.ledger a).isSome then 1 else 0 :=
  ⟨trace.custody, trace.custody.alternates⟩

/-- An order that is filled, and its escrow that is withdrawn from. -/
def Sample.settledOrder : Sample.Scenario
    (fun r => (custodyLog r.history).countP (Op.opens (Sample.orderAt Sample.single)) = 1 ∧
      (custodyLog r.history).countP (Op.closes Sample.escrow) = 1 ∧
      released ⟨.src, Sample.maker, Sample.usdc⟩ .withdrawn (custodyLog r.history) = 1000) where
  commands := Sample.singleFill Sample.single ++ [.wait 165, .call (.src (.withdraw
    Sample.withdrawSrc))]

/-- The settled order was opened and closed once, and is gone. -/
theorem Trace.custody_refined_sample : ∃ (h : History Term) (s : State Term),
    Trace Sample.env h s ∧
      (custodyLog h).countP (Op.closes (Sample.orderAt Sample.single)) +
        (if (custodyBook s.ledger (Sample.orderAt Sample.single)).isSome then 1 else 0) = 1 := by
  obtain ⟨r, trace, opened, _⟩ := Sample.settledOrder.reached
  exact ⟨r.history, r.state, trace, ((trace.custody_refined).2 _).symm.trans opened⟩

/-- For every program, owner and token, over every run: the amounts of the orders
or destination escrows created are what the live orders and escrows record, what
escrows recorded when they were withdrawn from, what they recorded when they were
cancelled, and what remained of the orders called off. -/
theorem Trace.custody_balance (trace : Trace env h s) (t : Terms K) :
    (∀ a, (custodyBook s.ledger a).isSome = true → a ∈ places (custodyLog h)) ∧
    lodged t (custodyLog h) =
      ∑ a ∈ places (custodyLog h), worth (custodyBook s.ledger) t a +
        (released t .withdrawn (custodyLog h) + released t .cancelled (custodyLog h) +
          released t .calledOff (custodyLog h)) := by
  refine ⟨fun a held => trace.custody.placed held, ?_⟩
  have fates : ∑ f, released t f (custodyLog h) = released t .withdrawn (custodyLog h) +
      released t .cancelled (custodyLog h) + released t .calledOff (custodyLog h) := by
    rw [Nat.add_assoc]
    simp [Finset.univ, Fintype.elems]
  rw [trace.custody.balance t (Finset.Subset.refl _), fates]

/-- All of the settled order was withdrawn. -/
theorem Trace.custody_balance_sample : ∃ (h : History Term) (s : State Term),
    Trace Sample.env h s ∧
      released ⟨.src, Sample.maker, Sample.usdc⟩ .withdrawn (custodyLog h) = 1000 ∧
      1000 ≤ lodged ⟨.src, Sample.maker, Sample.usdc⟩ (custodyLog h) := by
  obtain ⟨r, trace, _, _, withdrawn⟩ := Sample.settledOrder.reached
  refine ⟨r.history, r.state, trace, withdrawn, ?_⟩
  rw [(trace.custody_balance ⟨.src, Sample.maker, Sample.usdc⟩).2, withdrawn]
  omega

end CrossChainEscrow.Source
