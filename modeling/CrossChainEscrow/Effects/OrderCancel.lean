import CrossChainEscrow.Effects.Auction
import CrossChainEscrow.Effects.Common
import CrossChainEscrow.Source.SrcExits

/-!
# What the cancellations of an order do

The creator cancels for nothing, a resolver for a premium out of the lamports of
the order's token account. Tokens go back to the creator's account either way;
a native order goes back as lamports.
-/

namespace CrossChainEscrow.Source.Src
open Library.Words Library.Bytes Library.Accounts Whitelist

variable {K : Type} [DecidableEq K] {env : Environment K} {clock : Clock} {A : K → Prop}
  {l l' : Chain K}

/-- What both cancellations take from their caller and check. -/
structure OrderCancelCall (K : Type) where
  signer : K
  creator : K
  mint : K
  order : K
  orderAta : K
  creatorAta : Option K
  tokenProgram : TokenProgram

def CancelOrder.call (ix : CancelOrder K) : OrderCancelCall K :=
  ⟨ix.creator, ix.creator, ix.mint, ix.order, ix.orderAta, ix.creatorAta, ix.tokenProgram⟩

def CancelOrderbyResolver.call (ix : CancelOrderbyResolver K) : OrderCancelCall K :=
  ⟨ix.resolver, ix.creator, ix.mint, ix.order, ix.orderAta, ix.creatorAta, ix.tokenProgram⟩

def OrderCancelCall.context (env : Environment K) (clock : Clock) (c : OrderCancelCall K) :
    Context K :=
  ⟨env.srcId, [c.signer], clock⟩

structure OrderCancelCall.Checked (env : Environment K) (clock : Clock) (c : OrderCancelCall K)
    (order : Order K) (orderToken : TokenAccount K) (l returned : Chain K) : Prop where
  loaded : l.data c.order = .program (.order order)
  creator : c.creator = order.creator
  mintKnown : (env.mintProgram c.mint).isSome = true
  mint : c.mint = order.token
  seeds : env.createProgramAddress env.srcId (orderSeeds order.orderHash) order.bump
    = some c.order
  token : l.data c.orderAta = .token orderToken
  tokenProgram : orderToken.program = c.tokenProgram
  tokenOwner : orderToken.owner = c.order
  ataDerived : c.orderAta = env.associatedTokenAddress c.order c.tokenProgram c.mint
  creatorToken : ∀ key ∈ c.creatorAta, ∃ account, l.data key = .token account ∧
    account.program = c.tokenProgram ∧ account.owner = c.creator ∧
    key = env.associatedTokenAddress c.creator c.tokenProgram c.mint
  nativeTrait : order.assetIsNative = c.creatorAta.isNone
  returnTokens : returnTokens env (c.context env clock) order c.order ⟨c.orderAta, orderToken⟩
    c.creatorAta c.mint c.tokenProgram l = .ok returned

/-- The creator closes the order's account to itself. -/
theorem cancelOrder_steps {ix : CancelOrder K} (h : cancelOrder env clock ix l = .ok l') :
    ∃ order orderToken returned closed,
      OrderCancelCall.Checked env clock ix.call order orderToken l returned ∧
      (closeAccount ((ix.call.context env clock).callSigners env
        (some (Order.signerSeeds order))) ix.tokenProgram ix.orderAta ix.creator ix.order returned :
        Result _) = .ok closed ∧
      (closeProgram ix.order ix.creator closed : Result _) = .ok l' := by
  simp only [cancelOrder, bind_ok, requireMint_ok, requireSeeds_ok, requireThat_ok,
    checkOptionalToken_ok, loadOrder_ok, loadAssociatedToken_ok, exists_const] at h
  obtain ⟨order, loaded, creator, mintKnown, mint, seeds, orderToken,
    ⟨token, tokenProgram, tokenOwner, ataDerived⟩, creatorToken, nativeTrait, returned, returns,
    closed, close, finish⟩ := h
  exact ⟨order, orderToken, returned, closed, ⟨loaded, creator, mintKnown, mint, seeds, token,
    tokenProgram, tokenOwner, ataDerived, creatorToken, nativeTrait, returns⟩, close, finish⟩

/-- A resolver closes the order's account to itself and passes the lamports on
without its reward. -/
structure CancelOrderbyResolver.Steps (env : Environment K) (clock : Clock)
    (ix : CancelOrderbyResolver K) (order : Order K) (orderToken : TokenAccount K) (premium : U64)
    (l returned closed paid l' : Chain K) : Prop where
  resolverAccess : requireResolverAccess env env.srcId ix.resolver ix.resolverAccess l = .ok ()
  checked : OrderCancelCall.Checked env clock ix.call order orderToken l returned
  expired : clock.unixTimestamp ≥ order.expirationTime
  allowed : order.maxCancellationPremium > 0
  calculated : calculatePremium clock.unixTimestamp order.expirationTime
    order.cancellationAuctionDuration order.maxCancellationPremium = .ok premium
  enough : min premium.toNat ix.rewardLimit.toNat ≤ returned.lamports ix.orderAta
  close : (closeAccount ((ix.call.context env clock).callSigners env
    (some (Order.signerSeeds order))) ix.tokenProgram ix.orderAta ix.resolver ix.order returned :
    Result _) = .ok closed
  pay : uniTransfer env (ix.call.context env clock) (.nativeTransfer ix.resolver ix.creator
    (returned.lamports ix.orderAta - min premium.toNat ix.rewardLimit.toNat)) none closed
    = .ok paid
  finish : (closeProgram ix.order ix.creator paid : Result _) = .ok l'

theorem cancelOrderByResolver_steps {ix : CancelOrderbyResolver K}
    (h : cancelOrderByResolver env clock ix l = .ok l') :
    ∃ order orderToken premium returned closed paid,
      CancelOrderbyResolver.Steps env clock ix order orderToken premium l returned closed paid
        l' := by
  simp only [cancelOrderByResolver, bind_ok, requireMint_ok, requireSeeds_ok, requireThat_ok,
    checkOptionalToken_ok, loadOrder_ok, loadAssociatedToken_ok, exists_const] at h
  obtain ⟨_, resolver, order, loaded, creator, mintKnown, mint, seeds, orderToken,
    ⟨token, tokenProgram, tokenOwner, ataDerived⟩, creatorToken, expired, allowed, nativeTrait,
    returned, returns, premium, calculated, enough, closed, close, paid, pay, finish⟩ := h
  exact ⟨order, orderToken, premium, returned, closed, paid, resolver, ⟨loaded, creator, mintKnown,
    mint, seeds, token, tokenProgram, tokenOwner, ataDerived, creatorToken, nativeTrait, returns⟩,
    expired, allowed, calculated, enough, close, pay, finish⟩

/-! ## Returning the tokens -/

theorem returnTokens_programAt {ctx : Context K} {order : Order K} {address mint : K}
    {orderAta : InterfaceAccount K} {creatorAta : Option K} {program : TokenProgram}
    (h : returnTokens env ctx order address orderAta creatorAta mint program l = .ok l') :
    l'.programAt = l.programAt := by
  unfold returnTokens at h
  split at h
  · obtain ⟨_, _, transfer⟩ := bind_ok.mp h
    exact uniTransfer_programAt transfer
  · rw [pure_ok.mp h]

theorem returnTokens_actions {ctx : Context K} {order : Order K} {address mint : K}
    {orderAta : InterfaceAccount K} {creatorAta : Option K} {program : TokenProgram}
    (signed : ∀ k ∈ ctx.callSigners env (some (Order.signerSeeds order)), A k)
    (h : returnTokens env ctx order address orderAta creatorAta mint program l = .ok l') :
    Actions env.toHost A l l' := by
  unfold returnTokens at h
  split at h
  · obtain ⟨_, _, transfer⟩ := bind_ok.mp h
    exact uniTransfer_actions signed transfer
  · rw [pure_ok.mp h]

namespace OrderCancelCall.Checked
variable {c : OrderCancelCall K} {order : Order K} {orderToken : TokenAccount K}
  {returned : Chain K}

theorem signed (s : OrderCancelCall.Checked env clock c order orderToken l returned)
    (signer : A c.signer) (named : A c.order) :
    ∀ k ∈ (c.context env clock).callSigners env (some (Order.signerSeeds order)), A k := by
  refine callSigners_authorised s.seeds ?_ named
  simpa [OrderCancelCall.context] using signer

/-- The creator's account is another than the order's. -/
theorem creatorAta_ne (s : OrderCancelCall.Checked env clock c order orderToken l returned)
    (distinct : c.creator ≠ c.order) : ∀ key ∈ c.creatorAta, c.orderAta ≠ key := by
  rintro ata given same
  obtain ⟨creatorToken, held, _, owner, _⟩ := s.creatorToken ata given
  have token := s.token
  rw [same, held] at token
  apply distinct
  rw [← owner, AccountData.token.inj token, s.tokenOwner]

/-- Returning the tokens of a native order is left to the closing. -/
theorem returned_native (s : OrderCancelCall.Checked env clock c order orderToken l returned)
    (native : order.assetIsNative = true) : returned = l := by
  have returns := s.returnTokens
  unfold Src.returnTokens at returns
  rw [if_neg (by simp [native])] at returns
  exact pure_ok.mp returns

end OrderCancelCall.Checked

/-! ## The whole cancellation -/

theorem cancelOrder_actions {ix : CancelOrder K} (creator : A ix.creator) (named : A ix.order)
    (h : cancelOrder env clock ix l = .ok l') : Actions env.toHost A l l' := by
  obtain ⟨order, orderToken, returned, closed, checked, close, finish⟩ := cancelOrder_steps h
  have signed := checked.signed creator named
  exact ((returnTokens_actions signed checked.returnTokens).trans
    (closeAccount_actions signed close)).trans (closeProgram_actions named finish)

theorem cancelOrder_programAt {ix : CancelOrder K} (h : cancelOrder env clock ix l = .ok l') :
    l'.programAt = Function.update l.programAt ix.order none := by
  obtain ⟨order, orderToken, returned, closed, checked, close, finish⟩ := cancelOrder_steps h
  rw [closeProgram_programAt finish, closeAccount_programAt close,
    returnTokens_programAt checked.returnTokens]

theorem cancelOrderByResolver_actions {ix : CancelOrderbyResolver K} (resolver : A ix.resolver)
    (named : A ix.order) (h : cancelOrderByResolver env clock ix l = .ok l') :
    Actions env.toHost A l l' := by
  obtain ⟨order, orderToken, premium, returned, closed, paid, s⟩ := cancelOrderByResolver_steps h
  have signed := s.checked.signed resolver named
  have unseeded : ∀ k ∈ (ix.call.context env clock).callSigners env none, A k := by
    simpa [Context.callSigners, OrderCancelCall.context, CancelOrderbyResolver.call] using resolver
  exact (((returnTokens_actions signed s.checked.returnTokens).trans
    (closeAccount_actions signed s.close)).trans (uniTransfer_actions unseeded s.pay)).trans
    (closeProgram_actions named s.finish)

theorem cancelOrderByResolver_programAt {ix : CancelOrderbyResolver K}
    (h : cancelOrderByResolver env clock ix l = .ok l') :
    l'.programAt = Function.update l.programAt ix.order none := by
  obtain ⟨order, orderToken, premium, returned, closed, paid, s⟩ := cancelOrderByResolver_steps h
  rw [closeProgram_programAt s.finish, uniTransfer_programAt s.pay, closeAccount_programAt s.close,
    returnTokens_programAt s.checked.returnTokens]

/-! ## Who receives what -/

end CrossChainEscrow.Source.Src
