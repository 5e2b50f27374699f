import CrossChainEscrow.Effects.Auction
import CrossChainEscrow.Effects.SrcFill
import CrossChainEscrow.Effects.PartialFill
import CrossChainEscrow.Source.Execution

/-!
# The price of a fill

What a fill records for the destination chain is a function of the order, the
amount, the clock and the auction data, and the order commits to the auction
data. When the rate bumps of the auction do not rise from point to point, neither
does the rate over time, nor what a fill records.
-/

namespace CrossChainEscrow.Source
open Library.Words Library.Bytes Library.Accounts Library.Polyline Library.CeilShares

variable {K : Type} [DecidableEq K] {env : Environment K}

/-! ## The taker does not choose the price -/

/-- The price is computed from the order's fields, the amount and the auction data. -/
theorem Src.CreateEscrow.Steps.price {clock : Clock} {ix : Src.CreateEscrow K} {l l' : Chain K}
    {v : Src.CreateEscrow.Values K} (s : Src.CreateEscrow.Steps env clock ix l v l') :
    ∃ bump, calculateRateBump clock.asU64 ix.dutchAuctionData = .ok bump ∧
      v.dstAmount.toU256.toNat =
        scaledShare v.order.dstAmount.toU256.toNat v.order.amount.toNat 10000000 ix.amount.toNat
          bump.toNat := by
  obtain ⟨_, share⟩ := shareOfDstAmount_ok s.share
  obtain ⟨bump, computed, scaled⟩ := getDstAmount_ok s.dstAmount
  refine ⟨bump, computed, ?_⟩
  rw [scaled, share]
  rfl

/-- Two fills of one amount of one order, in one state and at one time, record
the same destination amount whatever auction data and proofs they supply, unless
the two serializations of the data are different messages with one digest. -/
theorem Src.createEscrow_price {clock : Clock} {l l₁ l₂ : Chain K} {first second : Src.CreateEscrow K}
    (orders : first.order = second.order) (amounts : first.amount = second.amount)
    (ran₁ : Src.createEscrow env clock first l = .ok l₁)
    (ran₂ : Src.createEscrow env clock second l = .ok l₂) :
    ∃ e₁ e₂ bytes₁ bytes₂, l₁.programAt first.escrow = some (.escrowSrc e₁) ∧
      l₂.programAt second.escrow = some (.escrowSrc e₂) ∧
      first.dutchAuctionData.tryToVec = .ok bytes₁ ∧
      second.dutchAuctionData.tryToVec = .ok bytes₂ ∧
      (e₁.dstAmount = e₂.dstAmount ∨
        (bytes₁ ≠ bytes₂ ∧ env.keccak bytes₁ = env.keccak bytes₂)) := by
  obtain ⟨v, steps⟩ := Src.createEscrow_steps ran₁
  obtain ⟨w, steps'⟩ := Src.createEscrow_steps ran₂
  have order : w.order = v.order := by
    apply steps'.order_eq
    rw [← orders]
    exact Ledger.programAt_eq_some.mpr steps.loaded
  refine ⟨_, _, _, _, steps.escrow_programAt, steps'.escrow_programAt, steps.auction,
    steps'.auction, ?_⟩
  by_cases same : v.auctionBytes = w.auctionBytes
  · -- equal bytes carry equal data, so both prices are the same computation
    have data : first.dutchAuctionData = second.dutchAuctionData :=
      AuctionData.tryToVec_inj steps.auction (same ▸ steps'.auction)
    obtain ⟨bump, computed, price⟩ := steps.price
    obtain ⟨bump', computed', price'⟩ := steps'.price
    rw [data, computed'] at computed
    obtain rfl : bump' = bump := Except.ok.inj computed
    rw [order, ← amounts, ← price] at price'
    exact Or.inl (Limbs.toU256_injective (BitVec.eq_of_toNat_eq price'.symm))
  · have committed := steps.committed
    have committed' := steps'.committed
    rw [order, ← committed] at committed'
    simp only [hashv, List.flatten_cons, List.flatten_nil, List.append_nil] at committed'
    exact Or.inr ⟨same, committed'.symm⟩

def Sample.pricedFill : Sample.Scenario
    (fun r => (Src.createEscrow Sample.env ⟨150⟩
        (Sample.createEscrow Sample.ambiguous 500 (some Sample.firstProof))
        r.state.ledger).toOption.isSome = true ∧
      (Src.createEscrow Sample.env ⟨150⟩
        (Sample.createEscrow Sample.ambiguous 500 (some Sample.rivalProof))
        r.state.ledger).toOption.isSome = true) where
  commands := Sample.whitelisting ++
    [.wait 100, .call (.src (.create (Sample.create Sample.ambiguous)))]

/-- The first half of an order whose tree has two secrets for it, with either: both
fills record one price. -/
theorem Src.createEscrow_price_sample : ∃ (l l₁ l₂ : Chain Term) (e₁ e₂ : EscrowSrc Term),
    Src.createEscrow Sample.env ⟨150⟩
      (Sample.createEscrow Sample.ambiguous 500 (some Sample.firstProof)) l = .ok l₁ ∧
    Src.createEscrow Sample.env ⟨150⟩
      (Sample.createEscrow Sample.ambiguous 500 (some Sample.rivalProof)) l = .ok l₂ ∧
    l₁.programAt (Sample.escrowAt Sample.ambiguous 500 (some Sample.firstProof)) =
      some (.escrowSrc e₁) ∧
    l₂.programAt (Sample.escrowAt Sample.ambiguous 500 (some Sample.rivalProof)) =
      some (.escrowSrc e₂) ∧
    Sample.firstProof ≠ Sample.rivalProof ∧ e₁.dstAmount = e₂.dstAmount := by
  obtain ⟨r, _, first, second⟩ := Sample.pricedFill.reached
  obtain ⟨l₁, ran₁⟩ := isSome_toOption first
  obtain ⟨l₂, ran₂⟩ := isSome_toOption second
  have orders : (Sample.createEscrow Sample.ambiguous 500 (some Sample.firstProof)).order =
      (Sample.createEscrow Sample.ambiguous 500 (some Sample.rivalProof)).order := rfl
  have amounts : (Sample.createEscrow Sample.ambiguous 500 (some Sample.firstProof)).amount =
      (Sample.createEscrow Sample.ambiguous 500 (some Sample.rivalProof)).amount := rfl
  obtain ⟨e₁, e₂, bytes₁, bytes₂, live₁, live₂, data₁, data₂, same⟩ :=
    Src.createEscrow_price orders amounts ran₁ ran₂
  -- both calls carry the same auction data
  have alike : bytes₁ = bytes₂ := Except.ok.inj (data₁.symm.trans data₂)
  exact ⟨r.state.ledger, l₁, l₂, e₁, e₂, ran₁, ran₂, live₁, live₂, by decide,
    same.resolve_right fun collides => collides.1 alike⟩

/-! ## The rate never rises -/

/-- The rate bumps do not rise along the list of points. -/
def AuctionData.Falls (data : AuctionData) : Prop :=
  List.IsChain (· ≥ ·) (data.initialRateBump.toU64 ::
    data.pointsAndTimeDeltas.map (fun point => point.rateBump.toU64))

instance (data : AuctionData) : Decidable data.Falls := by
  unfold AuctionData.Falls
  infer_instance

theorem AuctionData.Falls.course_falling {data : AuctionData} (falls : data.Falls) :
    Falling data.initialRateBump.toU64.toNat
      (data.pointsAndTimeDeltas.map PointAndTimeDelta.vertex) := by
  have mapped := (List.isChain_map BitVec.toNat).mpr
    (falls.imp (fun _ _ (above : _ ≥ _) => (above : _ ≥ BitVec.toNat _)))
  rw [List.map_cons, List.map_map] at mapped
  rw [Falling, List.map_map]
  exact mapped

/-- A scaled share grows with its premium. -/
theorem scaledShare_mono {total whole base part bump bump' : Nat} (basePos : 0 < base)
    (more : bump ≤ bump') :
    scaledShare total whole base part bump ≤ scaledShare total whole base part bump' := by
  unfold scaledShare
  rw [ceilDiv_le_iff_le_mul basePos]
  calc (total * part) ⌈/⌉ whole * (base + bump)
      ≤ (total * part) ⌈/⌉ whole * (base + bump') := Nat.mul_le_mul_left _ (by omega)
    _ ≤ base * (((total * part) ⌈/⌉ whole * (base + bump')) ⌈/⌉ base) :=
        (ceilDiv_le_iff_le_mul basePos).mp (Nat.le_refl _)

/-- For auction data whose rate bumps do not rise along the list: the rate bump is
defined at every time and never rises, and of two fills with that data, of one
amount of orders with one amount and one destination amount, the later one never
records more. -/
theorem auction_never_rises {data : AuctionData} (falls : data.Falls) :
    (∀ t₁ t₂ : U64, t₁ ≤ t₂ → ∃ r₁ r₂, calculateRateBump t₁ data = .ok r₁ ∧
      calculateRateBump t₂ data = .ok r₂ ∧ r₁ ≥ r₂) ∧
    (∀ (first second : Src.CreateEscrow K) (clock₁ clock₂ : Clock) (l₁ l₁' l₂ l₂' : Chain K)
      (order₁ order₂ : Order K) (e₁ e₂ : EscrowSrc K),
      first.dutchAuctionData = data → second.dutchAuctionData = data →
      first.amount = second.amount →
      clock₁.unixTimestamp ≤ clock₂.unixTimestamp →
      l₁.programAt first.order = some (.order order₁) →
      l₂.programAt second.order = some (.order order₂) →
      order₁.amount = order₂.amount → order₁.dstAmount = order₂.dstAmount →
      Src.createEscrow env clock₁ first l₁ = .ok l₁' →
      Src.createEscrow env clock₂ second l₂ = .ok l₂' →
      l₁'.programAt first.escrow = some (.escrowSrc e₁) →
      l₂'.programAt second.escrow = some (.escrowSrc e₂) →
      e₂.dstAmount.toU256 ≤ e₁.dstAmount.toU256) := by
  have rate : ∀ t₁ t₂ : U64, t₁ ≤ t₂ → ∃ r₁ r₂, calculateRateBump t₁ data = .ok r₁ ∧
      calculateRateBump t₂ data = .ok r₂ ∧ r₁ ≥ r₂ := by
    intro t₁ t₂ ordered
    obtain ⟨r₁, computed₁, value₁⟩ := calculateRateBump_some t₁ data
    obtain ⟨r₂, computed₂, value₂⟩ := calculateRateBump_some t₂ data
    refine ⟨r₁, r₂, computed₁, computed₂, ?_⟩
    change r₂.toNat ≤ r₁.toNat
    rw [value₁, value₂]
    exact course_anti falls.course_falling ordered
  refine ⟨rate, ?_⟩
  intro first second clock₁ clock₂ l₁ l₁' l₂ l₂' order₁ order₂ e₁ e₂ data₁ data₂ amounts later
    live₁ live₂ wholes totals ran₁ ran₂ held₁ held₂
  obtain ⟨v, steps⟩ := Src.createEscrow_steps ran₁
  obtain ⟨w, steps'⟩ := Src.createEscrow_steps ran₂
  obtain rfl := steps.order_eq live₁
  obtain rfl := steps'.order_eq live₂
  obtain rfl := Data.escrowSrc.inj (Option.some.inj (steps.escrow_programAt.symm.trans held₁))
  obtain rfl := Data.escrowSrc.inj (Option.some.inj (steps'.escrow_programAt.symm.trans held₂))
  obtain ⟨bump₁, computed₁, price₁⟩ := steps.price
  obtain ⟨bump₂, computed₂, price₂⟩ := steps'.price
  have ordered : clock₁.asU64 ≤ clock₂.asU64 := by
    change (clock₁.unixTimestamp.setWidth 64).toNat ≤ (clock₂.unixTimestamp.setWidth 64).toNat
    rw [toNat_setWidth_64 _ (by decide), toNat_setWidth_64 _ (by decide)]
    exact later
  obtain ⟨r₁, r₂, same₁, same₂, falls⟩ := rate _ _ ordered
  rw [data₁, same₁] at computed₁
  rw [data₂, same₂] at computed₂
  obtain rfl := Except.ok.inj computed₁
  obtain rfl := Except.ok.inj computed₂
  change w.dstAmount.toU256.toNat ≤ v.dstAmount.toU256.toNat
  rw [price₁, price₂, wholes, totals, amounts]
  exact scaledShare_mono (by decide) falls

/-- Three points, one of them at the time of the one before it and the last past
the end of the auction. -/
def Sample.steps : AuctionData :=
  ⟨100, 1000, ⟨0, 4, 0⟩, [⟨⟨0, 3, 0⟩, 100⟩, ⟨⟨0, 2, 0⟩, 0⟩, ⟨⟨0, 1, 0⟩, 2000⟩]⟩

example : [100, 150, 200, 201, 1099, 1100].map (fun t => calculateRateBump t Sample.steps) =
    [.ok 1024, .ok 896, .ok 768, .ok 511, .ok 396, .ok 0] := by decide

def Sample.lateFill : Sample.Scenario
    (fun r => ((r.state.ledger.programAt (Sample.orderAt Sample.single)).bind
        Data.toOrder).isSome = true ∧
      (Src.createEscrow Sample.env ⟨150⟩ (Sample.createEscrow Sample.single 1000 none)
        r.state.ledger).toOption.isSome = true ∧
      (Src.createEscrow Sample.env ⟨600⟩ (Sample.createEscrow Sample.single 1000 none)
        r.state.ledger).toOption.isSome = true) where
  commands := Sample.whitelisting ++ [.wait 100, .call (.src (.create (Sample.create Sample.single)))]

/-- Its rate at two times of different stretches, and the sample order at two
times. -/
theorem auction_never_rises_sample :
    (∃ r₁ r₂, calculateRateBump 150 Sample.steps = .ok r₁ ∧
      calculateRateBump 201 Sample.steps = .ok r₂ ∧ r₁ ≥ r₂) ∧
    ∃ (l l₁ l₂ : Chain Term) (e₁ e₂ : EscrowSrc Term),
      Src.createEscrow Sample.env ⟨150⟩ (Sample.createEscrow Sample.single 1000 none) l = .ok l₁ ∧
      Src.createEscrow Sample.env ⟨600⟩ (Sample.createEscrow Sample.single 1000 none) l = .ok l₂ ∧
      e₂.dstAmount.toU256 ≤ e₁.dstAmount.toU256 := by
  refine ⟨(@auction_never_rises Term _ Sample.env Sample.steps (by decide)).1 150 201 (by decide), ?_⟩
  obtain ⟨r, _, created, first, second⟩ := Sample.lateFill.reached
  obtain ⟨order, live⟩ := Sample.present Data.toOrder_eq_some created
  obtain ⟨l₁, ran₁⟩ := isSome_toOption first
  obtain ⟨l₂, ran₂⟩ := isSome_toOption second
  obtain ⟨_, steps₁⟩ := Src.createEscrow_steps ran₁
  obtain ⟨_, steps₂⟩ := Src.createEscrow_steps ran₂
  exact ⟨_, l₁, l₂, _, _, ran₁, ran₂,
    (@auction_never_rises Term _ Sample.env Sample.auction (by decide)).2 _ _ ⟨150⟩
      ⟨600⟩ _ _ _ _ order order _ _ rfl rfl rfl (by decide) live live rfl rfl ran₁ ran₂
      steps₁.escrow_programAt steps₂.escrow_programAt⟩

end CrossChainEscrow.Source
