import CrossChainEscrow.Effects.Common
import CrossChainEscrow.Source.SrcExits

/-!
# What withdrawals and cancellations on the source chain do

The public and the private form of an exit differ in the stage that opens it, in
who signs and receives the safety deposit, and in the whitelist check. A call
record holds what they share, so each kind of exit is analysed once.
-/

namespace CrossChainEscrow.Source.Src
open Library.Words Library.Bytes Library.Accounts Whitelist

variable {K : Type} [DecidableEq K] {env : Environment K} {clock : Clock} {A : K → Prop}
  {l l' : Chain K}

/-! ## Withdrawals -/

structure WithdrawCall (K : Type) where
  opens : Stage
  payer : K
  taker : K
  mint : K
  escrow : K
  escrowAta : K
  takerAta : K
  tokenProgram : TokenProgram
  secret : Bytes32

def Withdraw.call (ix : Withdraw K) : WithdrawCall K :=
  ⟨.srcWithdrawal, ix.taker, ix.taker, ix.mint, ix.escrow, ix.escrowAta, ix.takerAta,
    ix.tokenProgram, ix.secret⟩

def PublicWithdraw.call (ix : PublicWithdraw K) : WithdrawCall K :=
  ⟨.srcPublicWithdrawal, ix.payer, ix.taker, ix.mint, ix.escrow, ix.escrowAta, ix.takerAta,
    ix.tokenProgram, ix.secret⟩

structure WithdrawCall.Steps (env : Environment K) (clock : Clock) (c : WithdrawCall K)
    (escrow : EscrowSrc K) (escrowToken takerToken : TokenAccount K)
    (l paid settled l' : Chain K) : Prop where
  loaded : l.data c.escrow = .program (.escrowSrc escrow)
  taker : c.taker = escrow.taker
  mintKnown : (env.mintProgram c.mint).isSome = true
  mint : c.mint = escrow.token
  seeds : env.createProgramAddress env.srcId escrow.seeds escrow.bump = some c.escrow
  token : l.data c.escrowAta = .token escrowToken
  tokenProgram : escrowToken.program = c.tokenProgram
  tokenOwner : escrowToken.owner = c.escrow
  ataDerived : c.escrowAta = env.associatedTokenAddress c.escrow c.tokenProgram c.mint
  takerAccount : l.data c.takerAta = .token takerToken
  takerOwner : takerToken.owner = c.taker
  window : requireWindow clock.unixTimestamp escrow.timelocks.timelocks c.opens .srcCancellation
    = .ok ()
  secret : hashv env [c.secret.1] = escrow.hashlock
  payout : withdrawAndCloseTokenAta env ⟨env.srcId, [c.payer], clock⟩ ⟨c.escrowAta, escrowToken⟩
    c.escrow c.takerAta c.mint c.tokenProgram c.taker ⟨escrow.seeds, escrow.bump⟩ l = .ok paid
  deposit : distributeSafetyDeposit c.escrow c.taker c.payer escrow.safetyDeposit paid
    = .ok settled
  close : (closeProgram c.escrow c.taker settled : Result _) = .ok l'

theorem withdraw_steps {ix : Withdraw K} (h : withdraw env clock ix l = .ok l') :
    ∃ escrow escrowToken takerToken paid settled,
      WithdrawCall.Steps env clock ix.call escrow escrowToken takerToken l paid settled l' := by
  simp only [withdraw, utilsWithdraw, bind_ok, requireMint_ok, requireSeeds_ok, requireThat_ok,
    loadEscrowSrc_ok, loadAssociatedToken_ok, exists_const] at h
  obtain ⟨escrow, loaded, taker, mintKnown, mint, seeds, escrowToken,
    ⟨token, tokenProgram, tokenOwner, ataDerived⟩, takerToken, ⟨takerAccount, _, takerOwner, _⟩,
    _, window, settled, ⟨secret, paid, payout, deposit⟩, close⟩ := h
  exact ⟨escrow, escrowToken, takerToken, paid, settled, loaded, taker, mintKnown, mint, seeds,
    token, tokenProgram, tokenOwner, ataDerived, takerAccount, takerOwner, window, secret, payout,
    deposit, close⟩

theorem publicWithdraw_steps {ix : PublicWithdraw K}
    (h : publicWithdraw env clock ix l = .ok l') :
    requireResolverAccess env env.srcId ix.payer ix.resolverAccess l = .ok () ∧
    ∃ escrow escrowToken takerToken paid settled,
      WithdrawCall.Steps env clock ix.call escrow escrowToken takerToken l paid settled l' := by
  simp only [publicWithdraw, utilsWithdraw, bind_ok, requireMint_ok, requireSeeds_ok,
    requireThat_ok, loadEscrowSrc_ok, loadAssociatedToken_ok, exists_const] at h
  obtain ⟨escrow, loaded, taker, _, resolver, mintKnown, mint, seeds, escrowToken,
    ⟨token, tokenProgram, tokenOwner, ataDerived⟩, takerToken, ⟨takerAccount, _, takerOwner, _⟩,
    _, window, settled, ⟨secret, paid, payout, deposit⟩, close⟩ := h
  exact ⟨resolver, escrow, escrowToken, takerToken, paid, settled, loaded, taker, mintKnown, mint,
    seeds, token, tokenProgram, tokenOwner, ataDerived, takerAccount, takerOwner, window, secret,
    payout, deposit, close⟩

namespace WithdrawCall.Steps
variable {c : WithdrawCall K} {escrow : EscrowSrc K} {escrowToken takerToken : TokenAccount K}
  {paid settled : Chain K}

theorem actions (s : WithdrawCall.Steps env clock c escrow escrowToken takerToken l paid settled l')
    (payer : A c.payer) (named : A c.escrow) : Actions env.toHost A l l' := by
  have signed : ∀ k ∈ (⟨env.srcId, [c.payer], clock⟩ : Context K).callSigners env
      (some ⟨escrow.seeds, escrow.bump⟩), A k :=
    callSigners_authorised s.seeds (by simpa using payer) named
  exact ((withdrawAndCloseTokenAta_actions signed s.payout).trans
    (distributeSafetyDeposit_actions named s.deposit)).trans (closeProgram_actions named s.close)

theorem programAt
    (s : WithdrawCall.Steps env clock c escrow escrowToken takerToken l paid settled l') :
    l'.programAt = Function.update l.programAt c.escrow none := by
  obtain ⟨_, _, programs, _⟩ := finish_effect s.deposit s.close
  rw [programs, withdrawAndCloseTokenAta_programAt s.payout]

/-- The taker's account receives everything the escrow's account held. -/
theorem received
    (s : WithdrawCall.Steps env clock c escrow escrowToken takerToken l paid settled l')
    (distinct : c.taker ≠ c.escrow) :
    l'.tokens c.takerAta = l.tokens c.takerAta + l.tokens c.escrowAta ∧
      l'.data c.escrowAta = .empty := by
  obtain ⟨_, kept, _, _⟩ := finish_effect s.deposit s.close
  have accounts : c.escrowAta ≠ c.takerAta := by
    intro same
    have held := s.token
    rw [same, s.takerAccount] at held
    apply distinct
    rw [← s.takerOwner, AccountData.token.inj held, s.tokenOwner]
  have moved := withdrawAndCloseTokenAta_paid accounts s.token s.payout
  have notTaker := ne_of_program s.loaded s.takerAccount
  have notAta := ne_of_program s.loaded s.token
  refine ⟨?_, ?_⟩
  · rw [Ledger.tokens_congr (kept _ notTaker), moved.received, Ledger.tokens_of_token s.token]
  · rw [kept _ notAta]
    exact moved.closed

end WithdrawCall.Steps

/-! ## Cancellations of an escrow -/

structure CancelCall (K : Type) where
  opens : Stage
  payer : K
  taker : K
  maker : K
  mint : K
  escrow : K
  escrowAta : K
  makerAta : Option K
  tokenProgram : TokenProgram

def CancelEscrow.call (ix : CancelEscrow K) : CancelCall K :=
  ⟨.srcCancellation, ix.taker, ix.taker, ix.maker, ix.mint, ix.escrow, ix.escrowAta, ix.makerAta,
    ix.tokenProgram⟩

def PublicCancelEscrow.call (ix : PublicCancelEscrow K) : CancelCall K :=
  ⟨.srcPublicCancellation, ix.payer, ix.taker, ix.maker, ix.mint, ix.escrow, ix.escrowAta,
    ix.makerAta, ix.tokenProgram⟩

structure CancelCall.Steps (env : Environment K) (clock : Clock) (c : CancelCall K)
    (escrow : EscrowSrc K) (escrowToken : TokenAccount K) (l paid settled l' : Chain K) :
    Prop where
  loaded : l.data c.escrow = .program (.escrowSrc escrow)
  taker : c.taker = escrow.taker
  maker : c.maker = escrow.maker
  mintKnown : (env.mintProgram c.mint).isSome = true
  mint : c.mint = escrow.token
  seeds : env.createProgramAddress env.srcId escrow.seeds escrow.bump = some c.escrow
  token : l.data c.escrowAta = .token escrowToken
  tokenProgram : escrowToken.program = c.tokenProgram
  tokenOwner : escrowToken.owner = c.escrow
  ataDerived : c.escrowAta = env.associatedTokenAddress c.escrow c.tokenProgram c.mint
  makerToken : ∀ key ∈ c.makerAta, ∃ account, l.data key = .token account ∧
    account.program = c.tokenProgram ∧ account.owner = c.maker ∧
    key = env.associatedTokenAddress c.maker c.tokenProgram c.mint
  reached : requireReached clock.unixTimestamp escrow.timelocks.timelocks c.opens = .ok ()
  payout : processPayout env ⟨env.srcId, [c.payer], clock⟩ c.mint escrow.assetIsNative
    escrow.amount c.escrow ⟨c.escrowAta, escrowToken⟩ c.maker c.makerAta c.taker
    ⟨escrow.seeds, escrow.bump⟩ c.tokenProgram l = .ok paid
  deposit : distributeSafetyDeposit c.escrow c.taker c.payer escrow.safetyDeposit paid
    = .ok settled
  close : (closeProgram c.escrow c.taker settled : Result _) = .ok l'

theorem cancelEscrow_steps {ix : CancelEscrow K} (h : cancelEscrow env clock ix l = .ok l') :
    ∃ escrow escrowToken paid settled,
      CancelCall.Steps env clock ix.call escrow escrowToken l paid settled l' := by
  simp only [cancelEscrow, utilsCancel, bind_ok, requireMint_ok, requireSeeds_ok, requireThat_ok,
    checkOptionalToken_ok, loadEscrowSrc_ok, loadAssociatedToken_ok, exists_const] at h
  obtain ⟨escrow, loaded, taker, maker, mintKnown, mint, seeds, escrowToken,
    ⟨token, tokenProgram, tokenOwner, ataDerived⟩, makerToken, _, reached, settled,
    ⟨paid, payout, deposit⟩, close⟩ := h
  rw [taker] at seeds
  exact ⟨escrow, escrowToken, paid, settled, loaded, taker, maker, mintKnown, mint, seeds, token,
    tokenProgram, tokenOwner, ataDerived, makerToken, reached, payout, deposit, close⟩

theorem publicCancelEscrow_steps {ix : PublicCancelEscrow K}
    (h : publicCancelEscrow env clock ix l = .ok l') :
    requireResolverAccess env env.srcId ix.payer ix.resolverAccess l = .ok () ∧
    ∃ escrow escrowToken paid settled,
      CancelCall.Steps env clock ix.call escrow escrowToken l paid settled l' := by
  simp only [publicCancelEscrow, utilsCancel, bind_ok, requireMint_ok, requireSeeds_ok,
    requireThat_ok, checkOptionalToken_ok, loadEscrowSrc_ok, loadAssociatedToken_ok,
    exists_const] at h
  obtain ⟨escrow, loaded, taker, maker, mintKnown, mint, _, resolver, seeds, escrowToken,
    ⟨token, tokenProgram, tokenOwner, ataDerived⟩, makerToken, _, reached, settled,
    ⟨paid, payout, deposit⟩, close⟩ := h
  rw [taker] at seeds
  rw [← maker] at makerToken
  exact ⟨resolver, escrow, escrowToken, paid, settled, loaded, taker, maker, mintKnown, mint,
    seeds, token, tokenProgram, tokenOwner, ataDerived, makerToken, reached, payout, deposit,
    close⟩

namespace CancelCall.Steps
variable {c : CancelCall K} {escrow : EscrowSrc K} {escrowToken : TokenAccount K}
  {paid settled : Chain K}

theorem actions (s : CancelCall.Steps env clock c escrow escrowToken l paid settled l')
    (payer : A c.payer) (named : A c.escrow) : Actions env.toHost A l l' := by
  have signed : ∀ k ∈ (⟨env.srcId, [c.payer], clock⟩ : Context K).callSigners env
      (some ⟨escrow.seeds, escrow.bump⟩), A k :=
    callSigners_authorised s.seeds (by simpa using payer) named
  exact ((processPayout_actions signed named s.payout).trans
    (distributeSafetyDeposit_actions named s.deposit)).trans (closeProgram_actions named s.close)

theorem programAt (s : CancelCall.Steps env clock c escrow escrowToken l paid settled l') :
    l'.programAt = Function.update l.programAt c.escrow none := by
  obtain ⟨_, _, programs, _⟩ := finish_effect s.deposit s.close
  rw [programs, processPayout_programAt s.payout]

/-- The maker receives the tokens of an escrow that is not native. -/
theorem received (s : CancelCall.Steps env clock c escrow escrowToken l paid settled l')
    (distinct : c.maker ≠ c.escrow) (plain : escrow.assetIsNative = false) :
    l'.tokens (env.associatedTokenAddress c.maker c.tokenProgram c.mint) =
      l.tokens (env.associatedTokenAddress c.maker c.tokenProgram c.mint) +
        l.tokens c.escrowAta := by
  obtain ⟨_, kept, _, _⟩ := finish_effect s.deposit s.close
  have payout := s.payout
  rw [plain] at payout
  have makerToken : ∀ key ∈ c.makerAta, ∃ account, l.data key = .token account ∧
      account.owner = c.maker ∧ key = env.associatedTokenAddress c.maker c.tokenProgram c.mint := by
    intro key given
    obtain ⟨account, held, _, owner, derived⟩ := s.makerToken key given
    exact ⟨account, held, owner, derived⟩
  obtain ⟨other, delivered⟩ := processPayout_delivered distinct s.loaded s.token s.tokenOwner
    makerToken payout
  rw [Ledger.tokens_congr (kept _ other), delivered]

/-- The maker receives the amount of a native escrow in lamports. -/
theorem receivedLamports (s : CancelCall.Steps env clock c escrow escrowToken l paid settled l')
    (distinct : c.maker ≠ c.escrow) (other : c.maker ≠ c.escrowAta)
    (native : escrow.assetIsNative = true) :
    l.lamports c.maker + escrow.amount.toNat ≤ l'.lamports c.maker := by
  obtain ⟨_, _, _, more⟩ := finish_effect s.deposit s.close
  have payout := s.payout
  rw [native] at payout
  have moved := (processPayout_native payout).received distinct
  rw [if_neg other] at moved
  exact Nat.le_trans moved (more _ distinct)

end CancelCall.Steps

end CrossChainEscrow.Source.Src
