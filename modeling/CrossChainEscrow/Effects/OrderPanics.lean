import CrossChainEscrow.Effects.OrderPayouts
import CrossChainEscrow.Library.Panics

/-!
# Where a cancellation by a resolver panics

Only its two computations do: the product of the premium, and the lamports of the
order's token account without the reward. Both come after all checks and after
the tokens were returned.
-/

namespace CrossChainEscrow.Source
open Library.Words Library.Bytes Library.Accounts Library.Polyline

variable {K : Type} [DecidableEq K] {env : Environment K} {clock : Clock} {ctx : Context K}
  {l l' : Chain K}

/-! ## The premium -/

theorem panics_overflowFault {w : Nat} {found : Option (BitVec w)} :
    Panics (orFault found overflowFault : Result _) ↔ found = none := by
  simp [overflowFault]

theorem times_panics {w : Nat} {a b : BitVec w} :
    Panics (times a b) ↔ 2 ^ w ≤ a.toNat * b.toNat := by
  rw [times, panics_overflowFault, checkedMul, ofNat?]
  simp

theorem calculatePremium_some {now start duration : U32} {most : U64}
    (fits : PremiumFits now start duration most) :
    ∃ premium, calculatePremium now start duration most = .ok premium ∧
      premium.toNat = ramp start.toNat duration.toNat most.toNat now.toNat := by
  have small : ramp start.toNat duration.toNat most.toNat now.toNat < 2 ^ 64 :=
    Nat.lt_of_le_of_lt (ramp_le _ _ _ _) most.isLt
  have value : (BitVec.ofNat 64 (ramp start.toNat duration.toNat most.toNat now.toNat)).toNat =
      ramp start.toNat duration.toNat most.toNat now.toNat := by
    rw [BitVec.toNat_ofNat, Nat.mod_eq_of_lt small]
  exact ⟨_, calculatePremium_ok.mpr ⟨fits, value⟩, value⟩

theorem calculatePremium_panics {now start duration : U32} {most : U64} :
    Panics (calculatePremium now start duration most) ↔ ¬ PremiumFits now start duration most := by
  by_cases fits : PremiumFits now start duration most
  · obtain ⟨premium, computed, _⟩ := calculatePremium_some fits
    simp [computed, fits]
  · simp only [fits, not_false_eq_true, iff_true]
    unfold PremiumFits at fits
    simp only [not_forall, Nat.not_lt] at fits
    obtain ⟨running, large⟩ := fits
    have late : ¬ now ≤ start := by
      intro early
      have nothing : now.toNat - start.toNat = 0 := Nat.sub_eq_zero_of_le early
      rw [nothing, Nat.zero_mul] at large
      omega
    have lateValue : start.toNat < now.toNat := Nat.lt_of_not_le late
    obtain ⟨elapsed, timed, value⟩ := minus_some (a := now) (b := start) (by omega)
    have slope : ¬ elapsed ≥ duration := by
      intro ended
      have endedValue : duration.toNat ≤ elapsed.toNat := ended
      omega
    have wide := toNat_setWidth_64 elapsed (by decide)
    unfold calculatePremium
    rw [if_neg late, panics_bind]
    refine Or.inr ⟨elapsed, timed, ?_⟩
    rw [if_neg slope, panics_bind]
    exact Or.inl (times_panics.mpr (by rw [wide, value]; exact large))

/-- What the premium comes to at a time, as a number. -/
def Order.premiumAt (order : Order K) (now : U32) : Nat :=
  ramp order.expirationTime.toNat order.cancellationAuctionDuration.toNat
    order.maxCancellationPremium.toNat now.toNat

/-- The product of the premium stays inside a word. -/
abbrev Order.PremiumFits (order : Order K) (now : U32) : Prop :=
  Source.PremiumFits now order.expirationTime order.cancellationAuctionDuration
    order.maxCancellationPremium

/-! ## The steps that do not -/

omit [DecidableEq K] in
@[simp] theorem not_panics_loadOrder {address : K} : ¬ Panics (loadOrder l address) := by
  simp [loadOrder, loadAs, panics_bind]

@[simp] theorem not_panics_requireResolverAccess {client user resolverAccess : K} :
    ¬ Panics (Whitelist.requireResolverAccess env client user resolverAccess l) := by
  simp [Whitelist.requireResolverAccess, loadResolverAccess, loadAs, panics_bind]

@[simp] theorem not_panics_uniTransfer {params : UniTransferParams K}
    {seeds : Option (SignerSeeds K)} : ¬ Panics (uniTransfer env ctx params seeds l) := by
  cases params with
  | nativeTransfer src dst amount =>
    unfold uniTransfer
    simp only
    split <;> simp
  | tokenTransfer src authority dst mint amount program =>
    unfold uniTransfer
    simp only
    split <;> simp

namespace Src

@[simp] theorem not_panics_returnTokens {order : Order K} {address mint : K}
    {orderAta : InterfaceAccount K} {creatorAta : Option K} {program : TokenProgram} :
    ¬ Panics (returnTokens env ctx order address orderAta creatorAta mint program l) := by
  unfold returnTokens
  split <;> simp [panics_bind]

/-- The call passes its checks and returns the tokens. -/
structure CancelOrderbyResolver.Reaches (env : Environment K) (clock : Clock)
    (ix : CancelOrderbyResolver K) (order : Order K) (orderToken : TokenAccount K)
    (l returned : Chain K) : Prop where
  resolverAccess : Whitelist.requireResolverAccess env env.srcId ix.resolver ix.resolverAccess l
    = .ok ()
  checked : OrderCancelCall.Checked env clock ix.call order orderToken l returned
  expired : clock.unixTimestamp ≥ order.expirationTime
  allowed : order.maxCancellationPremium > 0

/-- The same on the ledger before the call: a token account that it names for the
creator is one of the mint. -/
structure CancelOrderbyResolver.Attempts (env : Environment K) (clock : Clock)
    (ix : CancelOrderbyResolver K) (order : Order K) (orderToken : TokenAccount K)
    (l : Chain K) : Prop where
  resolverAccess : Whitelist.requireResolverAccess env env.srcId ix.resolver ix.resolverAccess l
    = .ok ()
  loaded : l.data ix.order = .program (.order order)
  creator : ix.creator = order.creator
  mintKnown : (env.mintProgram ix.mint).isSome = true
  mint : ix.mint = order.token
  seeds : env.createProgramAddress env.srcId (orderSeeds order.orderHash) order.bump
    = some ix.order
  token : l.data ix.orderAta = .token orderToken
  tokenProgram : orderToken.program = ix.tokenProgram
  tokenOwner : orderToken.owner = ix.order
  ataDerived : ix.orderAta = env.associatedTokenAddress ix.order ix.tokenProgram ix.mint
  creatorToken : ∀ key ∈ ix.creatorAta, ∃ account, l.data key = .token account ∧
    account.program = ix.tokenProgram ∧ account.owner = ix.creator ∧
    key = env.associatedTokenAddress ix.creator ix.tokenProgram ix.mint ∧ account.mint = ix.mint
  nativeTrait : order.assetIsNative = ix.creatorAta.isNone
  expired : clock.unixTimestamp ≥ order.expirationTime
  allowed : order.maxCancellationPremium > 0

section Attempts
variable {ix : CancelOrderbyResolver K} {order : Order K} {orderToken : TokenAccount K}

/-- A call that returned tokens, unless its order is native, was such an attempt. -/
theorem CancelOrderbyResolver.Reaches.attempts {returned : Chain K}
    (reaches : ix.Reaches env clock order orderToken l returned)
    (holds : order.assetIsNative = false → orderToken.amount ≠ 0) :
    ix.Attempts env clock order orderToken l := by
  have checked := reaches.checked
  refine ⟨reaches.resolverAccess, checked.loaded, checked.creator, checked.mintKnown, checked.mint,
    checked.seeds, checked.token, checked.tokenProgram, checked.tokenOwner, checked.ataDerived, ?_,
    checked.nativeTrait, reaches.expired, reaches.allowed⟩
  intro key given
  obtain ⟨account, held, program, owner, derived⟩ := checked.creatorToken key given
  have nativeTrait : order.assetIsNative = ix.creatorAta.isNone := checked.nativeTrait
  have plain : order.assetIsNative = false := by
    rw [nativeTrait, Option.mem_def.mp given]
    rfl
  have returns := checked.returnTokens
  unfold Src.returnTokens at returns
  rw [if_pos plain] at returns
  obtain ⟨ata, named, transfer⟩ := bind_ok.mp returns
  rw [orFault_ok] at named
  obtain rfl : ata = key := Option.some.inj (named.symm.trans given)
  exact ⟨account, held, program, owner, derived, uniTransfer_mint (holds plain) held transfer⟩

/-- An attempt on a sound account returns its tokens. -/
theorem CancelOrderbyResolver.Attempts.reaches
    (attempts : ix.Attempts env clock order orderToken l) (mint : orderToken.mint = ix.mint)
    (covered : orderToken.wrapped orderToken.amount ≤ l.lamports ix.orderAta) :
    ∃ returned, ix.Reaches env clock order orderToken l returned := by
  have returns : ∃ returned, returnTokens env (ix.call.context env clock) order ix.order
      ⟨ix.orderAta, orderToken⟩ ix.creatorAta ix.mint ix.tokenProgram l = .ok returned := by
    have nativeTrait := attempts.nativeTrait
    unfold Src.returnTokens
    cases given : ix.creatorAta with
    | none =>
      rw [given] at nativeTrait
      rw [if_neg (by simp [nativeTrait])]
      exact ⟨l, rfl⟩
    | some ata =>
      rw [given, Option.isNone_some] at nativeTrait
      obtain ⟨account, held, program, _, _, mintTo⟩ := attempts.creatorToken ata given
      have signs : ix.order ∈ (ix.call.context env clock).callSigners env
          (some (Order.signerSeeds order)) := by
        rw [callSigners_derived attempts.seeds]
        exact List.mem_append_right _ (List.mem_singleton.mpr rfl)
      rw [if_pos nativeTrait]
      exact uniTransfer_succeeds attempts.token held ⟨attempts.tokenProgram, program⟩
        ⟨mint, mintTo⟩ attempts.tokenOwner signs (Nat.le_refl _) covered
  obtain ⟨returned, returns⟩ := returns
  refine ⟨returned, attempts.resolverAccess, ⟨attempts.loaded, attempts.creator,
    attempts.mintKnown, attempts.mint, attempts.seeds, attempts.token, attempts.tokenProgram,
    attempts.tokenOwner, attempts.ataDerived, fun key given => ?_, attempts.nativeTrait, returns⟩,
    attempts.expired, attempts.allowed⟩
  obtain ⟨account, held, program, owner, derived, _⟩ := attempts.creatorToken key given
  exact ⟨account, held, program, owner, derived⟩

end Attempts

/-- A call panics where the product of the premium overflows or the lamports left
with the order are fewer than the reward. -/
theorem cancelOrderByResolver_panics {ix : CancelOrderbyResolver K} :
    Panics (cancelOrderByResolver env clock ix l) ↔ ∃ order orderToken returned,
      ix.Reaches env clock order orderToken l returned ∧
      ¬ (order.PremiumFits clock.unixTimestamp ∧
        min (order.premiumAt clock.unixTimestamp) ix.rewardLimit.toNat ≤
          returned.lamports ix.orderAta) := by
  have isPanic : ∃ message, overflowFault = .panic message := ⟨_, rfl⟩
  simp only [cancelOrderByResolver, panics_bind, requireMint_ok, requireSeeds_ok, requireThat_ok,
    checkOptionalToken_ok, loadOrder_ok, loadAssociatedToken_ok, exists_const,
    not_panics_requireResolverAccess, not_panics_loadOrder, not_panics_requireMint,
    not_panics_requireSeeds, not_panics_loadAssociatedToken, not_panics_checkOptionalToken,
    not_panics_returnTokens, not_panics_closeAccount, not_panics_uniTransfer,
    not_panics_closeProgram, panics_requireThat, calculatePremium_panics, EscrowError.fault,
    reduceCtorEq, and_false, false_or, or_false, exists_false, isPanic, and_true]
  constructor
  · rintro ⟨_, access, order, loaded, creator, mintKnown, mint, seeds, orderToken,
      ⟨token, tokenProgram, tokenOwner, ataDerived⟩, creatorToken, expired, allowed, nativeTrait,
      returned, returns, panics⟩
    refine ⟨order, orderToken, returned, ⟨access, ⟨loaded, creator, mintKnown, mint, seeds, token,
      tokenProgram, tokenOwner, ataDerived, creatorToken, nativeTrait, returns⟩, expired,
      allowed⟩, ?_⟩
    rintro ⟨fits, covered⟩
    rcases panics with overflows | ⟨premium, calculated, short⟩
    · exact overflows fits
    · rw [(calculatePremium_ok.mp calculated).2] at short
      exact short covered
  · rintro ⟨order, orderToken, returned, reaches, panics⟩
    have checked := reaches.checked
    refine ⟨(), reaches.resolverAccess, order, checked.loaded, checked.creator, checked.mintKnown,
      checked.mint, checked.seeds, orderToken, ⟨checked.token, checked.tokenProgram,
      checked.tokenOwner, checked.ataDerived⟩, checked.creatorToken, reaches.expired,
      reaches.allowed, checked.nativeTrait, returned, checked.returnTokens, ?_⟩
    by_cases fits : order.PremiumFits clock.unixTimestamp
    · obtain ⟨premium, calculated, value⟩ := calculatePremium_some fits
      refine Or.inr ⟨premium, calculated, fun covered => panics ⟨fits, ?_⟩⟩
      rw [value] at covered
      exact covered
    · exact Or.inl fits

end Src

end CrossChainEscrow.Source
