import CrossChainEscrow.Guarantees.PartialFills

/-!
# Splitting an order never costs the maker

The destination amount of each fill is its doubly rounded share of the order's,
so the fills that make up an order owe the maker at least what one fill of the
whole would at the lowest of their rate bumps.
-/

namespace CrossChainEscrow.Source
open Library.Words Library.Bytes Library.Accounts Library.CeilShares

variable {K : Type} [DecidableEq K] {env : Environment K}

/-- The rate bump of a fill, from the auction data it supplied and its clock. -/
def Fill.rateBump (f : Fill K) : Nat :=
  match calculateRateBump f.clock.asU64 f.ix.dutchAuctionData with
  | .ok bump => bump.toNat
  | .error _ => 0

/-- What the escrow of a fill records for the destination chain. -/
def Fill.dstAmount (f : Fill K) : Nat := f.escrow.dstAmount.toU256.toNat

/-- The order's destination amount. -/
def Src.Create.dstTotal (c : Src.Create K) : Nat := c.dstAmount.toU256.toNat

/-- A fill's bump was computed from the data its order commits to, and its
record is its scaled share. -/
theorem Fill.Accepted.recorded {c : Src.Create K} {clock : Clock} {filled : Nat} {f : Fill K}
    (accepted : f.Accepted env c clock filled) :
    (∃ bytes bump, f.ix.dutchAuctionData.tryToVec = .ok bytes ∧
      hashv env [bytes] = c.dutchAuctionDataHash ∧
      calculateRateBump f.clock.asU64 f.ix.dutchAuctionData = .ok bump) ∧
    f.dstAmount = scaledShare c.dstTotal c.amount.toNat 10000000 f.escrow.amount.toNat
      f.rateBump := by
  have amounts := accepted.escrow_amount
  obtain ⟨l, l', v, steps, same, escrow⟩ := accepted.ran
  have order : v.order = c.orderWith env clock f.order.remainingAmount := same.trans accepted.order
  obtain ⟨_, share⟩ := shareOfDstAmount_ok steps.share
  obtain ⟨bump, computed, scaled⟩ := getDstAmount_ok steps.dstAmount
  have committed := steps.committed
  rw [order] at share committed
  have rate : f.rateBump = bump.toNat := by
    rw [Fill.rateBump, computed]
  have record : f.dstAmount = v.dstAmount.toU256.toNat := by
    rw [Fill.dstAmount, escrow]
    rfl
  refine ⟨⟨v.auctionBytes, bump, steps.auction, committed, computed⟩, ?_⟩
  rw [record, scaled, share, rate, amounts]
  rfl

theorem Filled.recorded {c : Src.Create K} {clock : Clock} {fills : List (Fill K)}
    (h : Filled env c clock fills) : ∀ f ∈ fills, ∃ filled, f.Accepted env c clock filled := by
  induction h with
  | nil => simp
  | cons _ accepted ih =>
    intro f member
    rcases List.mem_cons.mp member with rfl | earlier
    · exact ⟨_, accepted⟩
    · exact ih f earlier

theorem Filled.dstAmounts {c : Src.Create K} {clock : Clock} {fills : List (Fill K)}
    (h : Filled env c clock fills) :
    (fills.map Fill.dstAmount).sum =
      ((fills.map (fun f => (f.escrow.amount.toNat, f.rateBump))).map
        (fun p => scaledShare c.dstTotal c.amount.toNat 10000000 p.1 p.2)).sum := by
  induction h with
  | nil => rfl
  | cons _ accepted ih =>
    simp only [List.map_cons, List.sum_cons]
    rw [ih, accepted.recorded.2]

/-- For every order and every sequence of fills that makes it up, at any times:
each rate bump comes from the committed auction data, each recorded destination
amount lies within its bounds, and their sum is at least what one fill of the
whole order records at any bump that none of theirs is below, hence at least the
destination amount of the order. -/
theorem Trace.splitting_favours_maker {h : History K} {s : State K} (trace : Trace env h s)
    {address : K} {c : Src.Create K} {clock : Clock}
    (created : creationOf address h = some (c, clock))
    (complete : filledAmount (fillsOf address h) = c.amount.toNat) :
    (∀ f ∈ fillsOf address h,
      (∃ bytes bump, f.ix.dutchAuctionData.tryToVec = .ok bytes ∧
        hashv env [bytes] = c.dutchAuctionDataHash ∧
        calculateRateBump f.clock.asU64 f.ix.dutchAuctionData = .ok bump ∧
        f.rateBump = bump.toNat) ∧
      (c.dstTotal * f.escrow.amount.toNat * (10 ^ 7 + f.rateBump) / (c.amount.toNat * 10 ^ 7) : ℚ) ≤
        f.dstAmount ∧
      (f.dstAmount : ℚ) < c.dstTotal * f.escrow.amount.toNat * (10 ^ 7 + f.rateBump) /
        (c.amount.toNat * 10 ^ 7) + 2 + f.rateBump / 10 ^ 7) ∧
    (∀ least, (∀ f ∈ fillsOf address h, least ≤ f.rateBump) →
      (c.dstTotal * (10 ^ 7 + least)) ⌈/⌉ 10 ^ 7 ≤ ((fillsOf address h).map Fill.dstAmount).sum) ∧
    c.dstTotal ≤ ((fillsOf address h).map Fill.dstAmount).sum := by
  have filled := trace.filled created
  obtain ⟨_, l, l', ran⟩ := trace.creation_ran created
  have wholePos : 0 < c.amount.toNat := (Src.create_order ran).2
  have basePos : 0 < 10000000 := by decide
  have sum : ((fillsOf address h).map (fun f => (f.escrow.amount.toNat, f.rateBump))).map Prod.fst =
      (fillsOf address h).map (fun f => f.escrow.amount.toNat) := by
    rw [List.map_map]
    rfl
  have atLeast : ∀ least, (∀ f ∈ fillsOf address h, least ≤ f.rateBump) →
      (c.dstTotal * (10000000 + least)) ⌈/⌉ 10000000 ≤
        ((fillsOf address h).map Fill.dstAmount).sum := by
    intro least above
    rw [filled.dstAmounts]
    apply scaledShare_sum wholePos basePos
    · rw [sum]
      exact complete
    · intro p member
      obtain ⟨f, inFills, rfl⟩ := List.mem_map.mp member
      exact above f inFills
  refine ⟨fun f member => ?_, atLeast, ?_⟩
  · obtain ⟨before, accepted⟩ := filled.recorded f member
    obtain ⟨⟨bytes, bump, serialized, committed, computed⟩, record⟩ := accepted.recorded
    have rate : f.rateBump = bump.toNat := by
      rw [Fill.rateBump, computed]
    have bounds := scaledShare_bounds c.dstTotal f.escrow.amount.toNat f.rateBump wholePos basePos
    rw [← record] at bounds
    norm_num at bounds ⊢
    exact ⟨⟨bytes, serialized, committed, bump, computed, rate⟩, bounds⟩
  · exact Nat.le_trans (le_premium basePos) (atLeast 0 (fun _ _ => Nat.zero_le _))

def Sample.splitFills : Sample.Scenario
    (fun r => (creationOf (Sample.orderAt Sample.multiple) r.history).any
        (fun c => decide (c.1.dstTotal = 2000 ∧ c.1.amount.toNat = 1000)) = true ∧
      filledAmount (fillsOf (Sample.orderAt Sample.multiple) r.history) = 1000 ∧
      (fillsOf (Sample.orderAt Sample.multiple) r.history).length = 3) where
  commands := Sample.multipleFills (([300, 400, 300] : List U64).zip Sample.proofs)

/-- The sample order filled in three parts. -/
theorem Trace.splitting_favours_maker_sample : ∃ (h : History Term) (s : State Term),
    Trace Sample.env h s ∧ (fillsOf (Sample.orderAt Sample.multiple) h).length = 3 ∧
      2000 ≤ ((fillsOf (Sample.orderAt Sample.multiple) h).map Fill.dstAmount).sum := by
  obtain ⟨r, trace, created, complete, length⟩ := Sample.splitFills.reached
  obtain ⟨⟨c, clock⟩, found, checks⟩ := (Option.any_eq_true _ _).mp created
  obtain ⟨total, amount⟩ := of_decide_eq_true checks
  have favours := (trace.splitting_favours_maker found (complete.trans amount.symm)).2.2
  rw [total] at favours
  exact ⟨_, _, trace, length, favours⟩

end CrossChainEscrow.Source
