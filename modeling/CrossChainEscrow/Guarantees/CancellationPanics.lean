import CrossChainEscrow.Guarantees.CancellationSplit
import CrossChainEscrow.Invariants.Premiums

/-!
# When a cancellation by a resolver panics

The creation compares the largest premium with all lamports of the order's token
account. Those that are wrapped tokens leave with the tokens, before the reward is
subtracted; and nothing bounds the product of the premium.
-/

namespace CrossChainEscrow.Source
open Library.Words Library.Bytes Library.Accounts Library.Polyline

variable {K : Type} [DecidableEq K] {env : Environment K} {h : History K} {s : State K}
  {clock : Clock} {a : K} {order : Order K}

/-- The largest product of a premium that grows: at the last second of the auction,
or at the last of all. -/
def Order.largestProduct (order : Order K) : Nat :=
  min (order.cancellationAuctionDuration.toNat - 1) (2 ^ 32 - 1 - order.expirationTime.toNat) *
    order.maxCancellationPremium.toNat

omit [DecidableEq K] in
theorem Order.premiumFits_always :
    (∀ now, order.PremiumFits now) ↔ order.largestProduct < 2 ^ 64 := by
  have start := order.expirationTime.isLt
  unfold Order.PremiumFits Order.largestProduct Source.PremiumFits
  constructor
  · intro fits
    rcases Nat.eq_zero_or_pos order.cancellationAuctionDuration.toNat with none | some
    · rw [none, Nat.zero_sub, Nat.zero_min, Nat.zero_mul]
      decide
    · generalize last : min (order.cancellationAuctionDuration.toNat - 1)
        (2 ^ 32 - 1 - order.expirationTime.toNat) = elapsed
      have time : (BitVec.ofNat 32 (order.expirationTime.toNat + elapsed)).toNat =
          order.expirationTime.toNat + elapsed := by
        rw [BitVec.toNat_ofNat]
        exact Nat.mod_eq_of_lt (by omega)
      have fit := fits (BitVec.ofNat 32 (order.expirationTime.toNat + elapsed))
      rw [time, Nat.add_sub_cancel_left] at fit
      exact fit (by omega)
  · intro small now running
    have bounded := now.isLt
    refine Nat.lt_of_le_of_lt (Nat.mul_le_mul_right _ ?_) small
    omega

omit [DecidableEq K] in
theorem Order.reward_le (order : Order K) (now : U32) (limit : U64) :
    min (order.premiumAt now) limit.toNat ≤ order.maxCancellationPremium.toNat :=
  Nat.le_trans (Nat.min_le_left _ _) (ramp_le _ _ _ _)

section Unrescued
variable {ix : Src.CancelOrderbyResolver K} {orderToken : TokenAccount K}
  (free : env.CollisionFree) (trace : Trace env h s)
  (live : s.ledger.programAt ix.order = some (.order order))
  (whole : orderUnrescued ix.order h = true)
include free trace live whole

/-- The account of such an order, as a call checked it. -/
theorem Trace.premium_account (token : s.ledger.data ix.orderAta = .token orderToken)
    (mint : ix.mint = order.token)
    (ataDerived : ix.orderAta = env.associatedTokenAddress ix.order ix.tokenProgram ix.mint) :
    PremiumBacked env h s ix.order order ix.tokenProgram orderToken ∧
      ix.orderAta = env.associatedTokenAddress ix.order ix.tokenProgram order.token ∧
      orderToken.mint = ix.mint ∧
      (orderToken.isNative.isSome = true ↔ order.token = env.nativeMint ix.tokenProgram) := by
  have derived := (trace.placed live).derived.notWallet
  have ata := ataDerived
  rw [mint] at ata
  have wraps := (trace.tokenSound _ _ token).native
  obtain ⟨program, account, backed⟩ := trace.premiumBacked free live whole
  obtain ⟨rfl, _⟩ := trace.checked_ata free derived backed.owned token ata
  rw [ata] at token
  obtain ⟨_, programs, mints⟩ := trace.associatedSound free derived _ _ _ token
  obtain rfl : account = orderToken := AccountData.token.inj (backed.loaded.symm.trans token)
  rw [mints, programs] at wraps
  exact ⟨backed, ata, mints.trans mint.symm, wraps⟩

/-- What remains to be filled is in the account. -/
theorem Trace.unrescued_holds (token : s.ledger.data ix.orderAta = .token orderToken)
    (ata : ix.orderAta = env.associatedTokenAddress ix.order ix.tokenProgram order.token) :
    0 < orderToken.amount ∧ (order.assetIsNative = true →
      order.maxCancellationPremium.toNat ≤ s.ledger.lamports ix.orderAta) := by
  have derived := (trace.placed live).derived.notWallet
  have unfinished := (trace.tracked live).unfinished
  obtain ⟨program, backed⟩ := trace.backed free live
  obtain ⟨rfl, _⟩ := trace.checked_ata free derived backed.owned token ata
  have tokens := backed.tokens
  rw [rescuedFrom_eq_zero whole, ← ata, Ledger.tokens_of_token token] at tokens
  refine ⟨by omega, fun native => ?_⟩
  have lamports := backed.lamports native
  rw [rescuedFrom_eq_zero whole, ← ata] at lamports
  omega

/-- The calls that get to their computations, read off the ledger before them. -/
theorem Trace.reaches_iff :
    (∃ returned, ix.Reaches env clock order orderToken s.ledger returned) ↔
      ix.Attempts env clock order orderToken s.ledger := by
  constructor
  · rintro ⟨returned, reaches⟩
    have token : s.ledger.data ix.orderAta = .token orderToken := reaches.checked.token
    obtain ⟨_, ata, _⟩ := trace.premium_account free live whole token reaches.checked.mint
      reaches.checked.ataDerived
    have holds := (trace.unrescued_holds free live whole token ata).1
    exact reaches.attempts (fun _ => Nat.pos_iff_ne_zero.mp holds)
  · intro attempts
    obtain ⟨_, _, mint, _⟩ := trace.premium_account free live whole attempts.token attempts.mint
      attempts.ataDerived
    apply attempts.reaches mint
    exact (trace.tokenSound _ _ attempts.token).wrapped_le

/-- A reward that the order allows is covered, except by an account that wraps
lamports: there it must be covered by those that the tokens leave. -/
theorem Trace.reward_covered {returned : Chain K} {reward : Nat}
    (reaches : ix.Reaches env clock order orderToken s.ledger returned)
    (limited : reward ≤ order.maxCancellationPremium.toNat) :
    reward ≤ returned.lamports ix.orderAta ↔
      (order.assetIsNative = false → order.token = env.nativeMint ix.tokenProgram →
        reward + orderToken.amount ≤ s.ledger.lamports ix.orderAta) := by
  have creator : ix.creator ≠ ix.order := by
    have same : ix.creator = order.creator := reaches.checked.creator
    rw [same]
    exact trace.wallet_ne live (trace.parties live)
  have left : returned.lamports ix.orderAta + Src.sentLamports order orderToken =
      s.ledger.lamports ix.orderAta := (reaches.checked.returned_booked creator).funded
  have token : s.ledger.data ix.orderAta = .token orderToken := reaches.checked.token
  obtain ⟨backed, ata, _, wraps⟩ := trace.premium_account free live whole token
    reaches.checked.mint reaches.checked.ataDerived
  unfold Src.sentLamports Src.sentTokens TokenAccount.wrapped at left
  cases native : order.assetIsNative with
  | true =>
    have enough := (trace.unrescued_holds free live whole token ata).2 native
    simp only [native, if_true, ite_self, Nat.add_zero] at left
    simp only [reduceCtorEq, false_implies, iff_true]
    omega
  | false =>
    simp only [native, reduceCtorEq, if_false] at left
    by_cases wrapped : order.token = env.nativeMint ix.tokenProgram
    · rw [if_pos (wraps.mpr wrapped)] at left
      simp only [wrapped, true_implies]
      omega
    · have plain : orderToken.isNative = none := by
        rw [← Option.not_isSome_iff_eq_none]
        exact fun isSome => wrapped (wraps.mp isSome)
      have enough := backed.covered plain
      rw [← ata] at enough
      rw [plain, Option.isSome_none, if_neg Bool.false_ne_true] at left
      simp only [wrapped, false_implies, implies_true, iff_true]
      omega

/-- One cancellation. -/
theorem Trace.cancellation_panics_iff :
    Panics (Src.cancelOrderByResolver env clock ix s.ledger) ↔
      ∃ orderToken, ix.Attempts env clock order orderToken s.ledger ∧
        ¬ (order.PremiumFits clock.unixTimestamp ∧
          (order.assetIsNative = false → order.token = env.nativeMint ix.tokenProgram →
            min (order.premiumAt clock.unixTimestamp) ix.rewardLimit.toNat + orderToken.amount ≤
              s.ledger.lamports ix.orderAta)) := by
  rw [Src.cancelOrderByResolver_panics]
  constructor
  · rintro ⟨order', orderToken, returned, reaches, fails⟩
    have loaded := Ledger.programAt_eq_some.mpr reaches.checked.loaded
    obtain rfl : order' = order := Data.order.inj (Option.some.inj (loaded.symm.trans live))
    rw [trace.reward_covered free live whole reaches (order'.reward_le _ _)] at fails
    exact ⟨orderToken, (trace.reaches_iff free live whole).mp ⟨returned, reaches⟩, fails⟩
  · rintro ⟨orderToken, attempts, fails⟩
    obtain ⟨returned, reaches⟩ := (trace.reaches_iff free live whole).mpr attempts
    rw [← trace.reward_covered free live whole reaches (order.reward_le _ _)] at fails
    exact ⟨order, orderToken, returned, reaches, fails⟩

/-- A reserve of the largest premium covers any reward, whatever the account wraps. -/
theorem Trace.reward_reserved {reward : Nat}
    (attempts : ix.Attempts env clock order orderToken s.ledger)
    (limited : reward ≤ order.maxCancellationPremium.toNat)
    (reserved : ∀ reserve ∈ reserveOf ix.order h, order.maxCancellationPremium.toNat ≤ reserve)
    (wrapped : order.token = env.nativeMint ix.tokenProgram) :
    reward + orderToken.amount ≤ s.ledger.lamports ix.orderAta := by
  obtain ⟨backed, _, _, wraps⟩ := trace.premium_account free live whole attempts.token
    attempts.mint attempts.ataDerived
  obtain ⟨reserve, isNative⟩ := Option.isSome_iff_exists.mp (wraps.mpr wrapped)
  have most := reserved reserve (backed.reserve ▸ isNative)
  have sound := (trace.tokenSound _ _ attempts.token).backed reserve isNative
  omega

end Unrescued

/-- For every live order of every run on which no rescue ran since its creation, at
every clock and with every limit: the cancellation by a resolver panics in neither
of its computations exactly if, for a call that passes its checks, the product of
the premium fits and, should the order be one of wrapped lamports that is not
native, the reward is covered by lamports that are not its tokens. If the order's
terms keep the product small, and its account had a reserve of the largest premium
when it was created, this holds in every state of the run. -/
theorem Trace.cancellation_computes_iff (free : env.CollisionFree) (trace : Trace env h s)
    (live : s.ledger.programAt a = some (.order order)) (whole : orderUnrescued a h = true) :
    (∀ (clock : Clock) (ix : Src.CancelOrderbyResolver K), ix.order = a →
      (¬ Panics (Src.cancelOrderByResolver env clock ix s.ledger) ↔
        ∀ orderToken, ix.Attempts env clock order orderToken s.ledger →
          order.PremiumFits clock.unixTimestamp ∧
          (order.assetIsNative = false → order.token = env.nativeMint ix.tokenProgram →
            min (order.premiumAt clock.unixTimestamp) ix.rewardLimit.toNat + orderToken.amount ≤
              s.ledger.lamports ix.orderAta))) ∧
    (order.largestProduct < 2 ^ 64 →
      (order.assetIsNative = false → ∀ reserve ∈ reserveOf a h,
        order.maxCancellationPremium.toNat ≤ reserve) →
      ∀ (clock : Clock) (ix : Src.CancelOrderbyResolver K), ix.order = a →
        ¬ Panics (Src.cancelOrderByResolver env clock ix s.ledger)) := by
  constructor
  · rintro clock ix rfl
    rw [trace.cancellation_panics_iff free live whole]
    constructor
    · intro computes orderToken attempts
      by_contra fails
      exact computes ⟨orderToken, attempts, fails⟩
    · rintro fits ⟨orderToken, attempts, fails⟩
      exact fails (fits orderToken attempts)
  · rintro small reserved clock ix rfl panics
    rw [trace.cancellation_panics_iff free live whole] at panics
    obtain ⟨orderToken, attempts, fails⟩ := panics
    apply fails
    refine ⟨Order.premiumFits_always.mpr small _, fun plain wrapped => ?_⟩
    exact trace.reward_reserved free live whole attempts (order.reward_le _ _) (reserved plain)
      wrapped

/-- The sample order of tokens, half a minute after its expiry. -/
def Sample.cancellableOrder : Sample.Scenario
    (fun r => ((r.state.ledger.programAt (Sample.orderAt Sample.single)).bind Data.toOrder).any
        (fun o => decide (o.cancellationAuctionDuration = 100 ∧ o.maxCancellationPremium = 7 ∧
          o.expirationTime = 5000)) = true ∧
      orderUnrescued (Sample.orderAt Sample.single) r.history = true ∧
      reserveOf (Sample.orderAt Sample.single) r.history = none) where
  commands := Sample.whitelisting ++ [.wait 100, .call (.src (.create (Sample.create Sample.single))),
      .wait 5030]

/-- No cancellation of it by a resolver panics. -/
theorem Trace.cancellation_computes_sample : ∃ (h : History Term) (s : State Term),
    Trace Sample.env h s ∧ ∀ clock ix, ix.order = Sample.orderAt Sample.single →
      ¬ Panics (Src.cancelOrderByResolver Sample.env clock ix s.ledger) := by
  obtain ⟨r, trace, stored, whole, unwrapped⟩ := Sample.cancellableOrder.reached
  obtain ⟨order, live, duration, most, expiration⟩ := Sample.live_order stored
  have small : order.largestProduct < 2 ^ 64 := by
    rw [Order.largestProduct, duration, most, expiration]
    decide
  refine ⟨r.history, r.state, trace, ?_⟩
  refine (trace.cancellation_computes_iff Sample.collisionFree live whole).2 small ?_
  intro _ reserve member
  rw [unwrapped] at member
  cases member

/-! ## An order for which they do panic -/

/-- The maker holds wrapped lamports, and 2 ^ 33 lamports lie where the order's
token account will be. -/
def Sample.prefunded : Chain Term :=
  ((Sample.ledger.setLamports (Sample.wrapped (Sample.orderAt Sample.generous))
      0x200000000).setLamports (Sample.wrapped Sample.maker) 2040280).setData
    (Sample.wrapped Sample.maker)
    (.token ⟨Sample.nativeMint .token, Sample.maker, 1000, .token, some 2039280⟩)

theorem Sample.genesis_prefunded : Genesis Sample.env Sample.prefunded := by
  have first : Genesis Sample.env (Sample.ledger.setLamports
      (Sample.wrapped (Sample.orderAt Sample.generous)) 0x200000000) := by
    apply Sample.genesis_lamports Sample.genesis
    decide +kernel
  refine Sample.genesis_token (Sample.genesis_lamports first ?_) rfl ⟨rfl, ?_, ?_⟩
  · decide +kernel
  · exact ⟨fun _ => rfl, fun _ => rfl⟩
  · intro reserve isNative
    obtain rfl := Option.some.inj isNative
    rw [Ledger.setLamports_lamports_self]
    exact Nat.le_refl _

/-- The taker cancels the order of wrapped lamports. -/
def Sample.generousCancel (rewardLimit : U64) : Src.CancelOrderbyResolver Term :=
  { Sample.resolverCancel with
    mint := Sample.nativeMint .token
    order := Sample.orderAt Sample.generous
    orderAta := Sample.wrapped (Sample.orderAt Sample.generous)
    creatorAta := some (Sample.wrapped Sample.maker)
    rewardLimit := rewardLimit }

/-- 2 ^ 21 seconds after its expiry, and 2 ^ 31 seconds after it. -/
def Sample.generousOrder : Sample.Scenario
    (fun r => ((r.state.ledger.programAt (Sample.orderAt Sample.generous)).bind Data.toOrder).any
        (fun o => decide (o.expirationTime ≤ r.state.clock.unixTimestamp)) = true ∧
      orderUnrescued (Sample.orderAt Sample.generous) r.history = true ∧
      (Src.cancelOrderByResolver Sample.env r.state.clock (Sample.generousCancel 0)
        r.state.ledger).toOption.isSome = true ∧
      Panics (Src.cancelOrderByResolver Sample.env r.state.clock
        (Sample.generousCancel 0xffffffff) r.state.ledger) ∧
      r.state.clock.unixTimestamp ≤ 2147488648 ∧
      Panics (Src.cancelOrderByResolver Sample.env ⟨2147488648⟩ (Sample.generousCancel 0)
        r.state.ledger)) where
  ledger := Sample.prefunded
  genesis := Sample.genesis_prefunded
  commands := Sample.whitelisting ++
    [.wait 100, .call (.src (.create { Sample.create Sample.generous with
      creatorAta := some (Sample.wrapped Sample.maker)
      orderAta := Sample.wrapped (Sample.orderAt Sample.generous) })), .wait 2102152]

/-- After 24 days the premium exceeds the reserve of the account, and a resolver who
asks for it fails where one who asks for nothing succeeds; after 68 years the
product leaves the word for both. -/
theorem Trace.cancellation_panics : ∃ (h : History Term) (s : State Term) (order : Order Term)
    (later : Clock), Trace Sample.env h s ∧
      s.ledger.programAt (Sample.orderAt Sample.generous) = some (.order order) ∧
      orderUnrescued (Sample.orderAt Sample.generous) h = true ∧
      order.expirationTime ≤ s.clock.unixTimestamp ∧
      (∃ l', Src.cancelOrderByResolver Sample.env s.clock (Sample.generousCancel 0) s.ledger
        = .ok l') ∧
      Panics (Src.cancelOrderByResolver Sample.env s.clock (Sample.generousCancel 0xffffffff)
        s.ledger) ∧
      s.clock.unixTimestamp ≤ later.unixTimestamp ∧
      Panics (Src.cancelOrderByResolver Sample.env later (Sample.generousCancel 0) s.ledger) := by
  obtain ⟨r, trace, stored, whole, succeeds, short, later, overflows⟩ := Sample.generousOrder.reached
  obtain ⟨order, live, expired⟩ := Sample.live_order stored
  exact ⟨r.history, r.state, order, ⟨2147488648⟩, trace, live, whole, expired,
    isSome_toOption succeeds, short, later, overflows⟩

end CrossChainEscrow.Source
