import CrossChainEscrow.Guarantees.CancellationPanics
import CrossChainEscrow.Guarantees.OrderProgress

/-!
# Expired orders can be cleared

A whitelisted resolver can cancel an order that has expired, if the maker allowed it
a premium, as long as the two computations of `cancel_order_by_resolver` do not
overflow: that of the premium, and, for wrapped lamports that are not native, that of
what is left of the account's lamports.
-/

namespace CrossChainEscrow.Source
open Library.Words Library.Bytes Library.Accounts Library.Bookkeeping Library.Registries Whitelist

variable {K : Type} [DecidableEq K] {env : Environment K} {h : History K} {s : State K} {a : K}
  {l l' : Chain K} {clock : Clock} {order : Order K} {program : TokenProgram}

/-! ## After the tokens are returned -/

section Returned
variable {c : Src.OrderCancelCall K} {orderToken : TokenAccount K} {returned : Chain K}

variable {ix : Src.CancelOrderbyResolver K}

/-- A call that passes its checks ends, if the premium can be computed and is left in
the account. -/
theorem Src.CancelOrderbyResolver.Reaches.runs
    (reaches : ix.Reaches env clock order orderToken l returned)
    (fits : order.PremiumFits clock.unixTimestamp)
    (enough : min (order.premiumAt clock.unixTimestamp) ix.rewardLimit.toNat ≤
      returned.lamports ix.orderAta)
    (wraps : order.assetIsNative = true → orderToken.isNative.isSome = true)
    (creator : ix.creator ≠ ix.order) (plain : l.data ix.resolver = .empty) :
    ∃ l', Src.cancelOrderByResolver env clock ix l = .ok l' := by
  have checked := reaches.checked
  have token : l.data ix.orderAta = .token orderToken := checked.token
  have stored : l.data ix.order = .program (.order order) := checked.loaded
  have used {k : K} (held : l.data k ≠ .empty) : ix.resolver ≠ k := fun same => held (same ▸ plain)
  have notAta : ix.resolver ≠ ix.orderAta := used (by rw [token]; simp)
  have notOrder : ix.resolver ≠ ix.order := used (by rw [stored]; simp)
  obtain ⟨left, others⟩ := checked.returned_data creator
  have unsent {k : K} (other : k ≠ ix.orderAta) (notToken : ∀ account, l.data k ≠ .token account) :
      returned.data k = l.data k := by
    refine others k other fun given => ?_
    obtain ⟨account, held, _⟩ := checked.creatorToken k given
    exact notToken account held
  have orderNotAta := ne_of_program stored token
  have resolverLeft := (unsent notAta (by simp [plain])).trans plain
  have orderLeft := (unsent (Ne.symm orderNotAta) (by simp [stored])).trans stored
  let ctx : Context K := ⟨env.srcId, [ix.resolver], clock⟩
  have signs : ix.order ∈ ctx.callSigners env (some (Src.Order.signerSeeds order)) := by
    have seeds : env.createProgramAddress ctx.programId (Src.Order.signerSeeds order).seeds
        (Src.Order.signerSeeds order).bump = some ix.order := checked.seeds
    rw [callSigners_derived seeds]
    exact List.mem_append_right _ (List.mem_singleton.mpr rfl)
  obtain ⟨premium, computed, value⟩ := calculatePremium_some fits
  have reward : min premium.toNat ix.rewardLimit.toNat ≤ returned.lamports ix.orderAta := by
    rw [value]
    exact enough
  obtain ⟨closed, close⟩ : ∃ closed, closeAccount (ctx.callSigners env
      (some (Src.Order.signerSeeds order))) ix.tokenProgram ix.orderAta ix.resolver ix.order returned =
        (.ok closed : Result _) := by
    refine ⟨_, closeAccount_ok.mpr ⟨_, left, checked.tokenProgram, Ne.symm notAta, ?_,
      checked.tokenOwner, signs, rfl⟩⟩
    cases native : order.assetIsNative with
    | true => exact Or.inl (wraps native)
    | false =>
      refine Or.inr ?_
      simp [Src.sentTokens, native]
  obtain ⟨_, kept, _, received, _⟩ := closeAccount_effect close
  obtain ⟨paid, pay⟩ : ∃ paid, uniTransfer env ctx (.nativeTransfer ix.resolver ix.creator
      (returned.lamports ix.orderAta - min premium.toNat ix.rewardLimit.toNat)) none closed =
        .ok paid := by
    unfold uniTransfer
    simp only
    split
    · exact ⟨closed, rfl⟩
    · refine ⟨_, systemTransfer_ok.mpr ⟨List.mem_singleton_self _, ?_, ?_, rfl⟩⟩
      · exact (kept _ notAta).trans resolverLeft
      · omega
  obtain ⟨l', finish⟩ : ∃ l', closeProgram ix.order ix.creator paid = (.ok l' : Result _) := by
    refine ⟨_, closeProgram_ok.mpr ⟨.order order, ?_, Ne.symm creator, rfl⟩⟩
    obtain ⟨_, rfl⟩ := uniTransfer_native pay
    exact (kept _ (Ne.symm orderNotAta)).trans orderLeft
  refine ⟨l', ?_⟩
  simp only [Src.cancelOrderByResolver, bind_ok, requireMint_ok, requireSeeds_ok, requireThat_ok,
    checkOptionalToken_ok, loadOrder_ok, loadAssociatedToken_ok, exists_const]
  exact ⟨(), reaches.resolverAccess, order, stored, checked.creator, checked.mintKnown, checked.mint,
    checked.seeds, orderToken, ⟨token, checked.tokenProgram, checked.tokenOwner, checked.ataDerived⟩,
    checked.creatorToken, reaches.expired, reaches.allowed, checked.nativeTrait, returned,
    checked.returnTokens, premium, computed, reward, closed, close, paid, pay, finish⟩

end Returned

/-! ## Clearing an order -/

/-- `cancel_order_by_resolver` with the accounts that the order at `a` stores. -/
def Order.clearCall (env : Environment K) (order : Order K) (a : K) (program : TokenProgram)
    (resolver : K) (limit : U64) : Src.CancelOrderbyResolver K where
  resolver := resolver
  resolverAccess := env.accessAddress env.srcId resolver
  creator := order.creator
  mint := order.token
  order := a
  orderAta := env.associatedTokenAddress a program order.token
  creatorAta := payeeAccount env order.assetIsNative order.creator program order.token
  tokenProgram := program
  rewardLimit := limit

/-- What a resolver gets for it at a time. -/
def Order.rewardAt (order : Order K) (limit : U64) (now : U32) : Nat :=
  min (order.premiumAt now) limit.toNat

/-- What the order asks of a cancellation by a resolver: that it has expired and pays a
premium, and that neither computation overflows. -/
structure Order.Clears (env : Environment K) (order : Order K) (a : K) (program : TokenProgram)
    (limit : U64) (clock : Clock) (l : Chain K) : Prop where
  expired : order.expirationTime ≤ clock.unixTimestamp
  allowed : order.maxCancellationPremium > 0
  fits : order.PremiumFits clock.unixTimestamp
  covered : order.assetIsNative = false → order.token = env.nativeMint program →
    order.rewardAt limit clock.unixTimestamp +
        l.tokens (env.associatedTokenAddress a program order.token) ≤
      l.lamports (env.associatedTokenAddress a program order.token)

/-- Both accounts of the order are closed, the resolver has its reward, and the maker
all else: its own token account the tokens with the lamports that they wrap, unless the
order is native, and its wallet the other lamports. -/
structure Cleared (env : Environment K) (a : K) (order : Order K) (program : TokenProgram)
    (resolver : K) (reward : Nat) (l l' : Chain K) : Prop where
  closed : l'.data a = .empty
  ataClosed : l'.data (env.associatedTokenAddress a program order.token) = .empty
  rewarded : l'.lamports resolver = l.lamports resolver + reward
  tokens : order.assetIsNative = false →
    l'.tokens (env.associatedTokenAddress order.creator program order.token) =
      l.tokens (env.associatedTokenAddress order.creator program order.token) +
        l.tokens (env.associatedTokenAddress a program order.token)
  wrapped : order.assetIsNative = false →
    l'.lamports (env.associatedTokenAddress order.creator program order.token) =
      l.lamports (env.associatedTokenAddress order.creator program order.token) +
        order.wrappedLamports env a program l
  lamports : l'.lamports order.creator + order.wrappedLamports env a program l + reward =
    l.lamports order.creator + l.lamports a +
      l.lamports (env.associatedTokenAddress a program order.token)

section Clear
variable {resolver : K} {limit : U64} (free : env.CollisionFree) (trace : Trace env h s)
  (live : s.ledger.programAt a = some (.order order)) (whole : orderUnrescued a h = true)
include free trace live whole

/-- What a call that succeeded had. -/
theorem Trace.clear_needs (ran : Src.cancelOrderByResolver env s.clock
      (order.clearCall env a program resolver limit) s.ledger = .ok l') :
    requireResolverAccess env env.srcId resolver (env.accessAddress env.srcId resolver) s.ledger =
        .ok () ∧
      order.Clears env a program limit s.clock s.ledger := by
  obtain ⟨found, account, premium, returned, closed, paid, steps⟩ :=
    Src.cancelOrderByResolver_steps ran
  have checked := steps.checked
  obtain rfl : found = order :=
    Data.order.inj (Option.some.inj ((Ledger.programAt_eq_some.mpr checked.loaded).symm.trans live))
  obtain ⟨fits, value⟩ := calculatePremium_ok.mp steps.calculated
  have reward : min premium.toNat limit.toNat = found.rewardAt limit s.clock.unixTimestamp :=
    congrArg (min · limit.toNat) value
  have held := Ledger.tokens_of_token checked.token
  have enough : found.rewardAt limit s.clock.unixTimestamp ≤ returned.lamports
      (env.associatedTokenAddress a program found.token) := reward ▸ steps.enough
  have covered := (trace.reward_covered free live whole
    ⟨steps.resolverAccess, checked, steps.expired, steps.allowed⟩
    (found.reward_le s.clock.unixTimestamp limit)).mp enough
  exact ⟨steps.resolverAccess, steps.expired, steps.allowed, fits,
    fun plain wrapped => held ▸ covered plain wrapped⟩

section Settled
variable (wallet : env.Wallet resolver) (other : resolver ≠ order.creator)
  (ran : Src.cancelOrderByResolver env s.clock (order.clearCall env a program resolver limit)
    s.ledger = .ok l')
include wallet other ran

/-- What it posted. -/
theorem Trace.clear_settled : ∃ account,
    s.ledger.data (env.associatedTokenAddress a program order.token) = .token account ∧
      (account.isNative.isSome = true ↔ order.token = env.nativeMint program) ∧
      (order.clearCall env a program resolver limit).Apart ∧
      (order.clearCall env a program resolver limit).Settled order account
        (order.rewardAt limit s.clock.unixTimestamp) s.ledger l' := by
  obtain ⟨found, account, premium, returned, closed, paid, steps⟩ :=
    Src.cancelOrderByResolver_steps ran
  have checked := steps.checked
  obtain rfl : found = order :=
    Data.order.inj (Option.some.inj ((Ledger.programAt_eq_some.mpr checked.loaded).symm.trans live))
  have loaded : s.ledger.data (env.associatedTokenAddress a program found.token) = .token account :=
    checked.token
  obtain ⟨apart, _⟩ := trace.cancellation_apart wallet other steps
  have settled := steps.settled apart.creator.1 apart.resolver.1 apart.receiver.1
  have reward : min premium.toNat limit.toNat = found.rewardAt limit s.clock.unixTimestamp :=
    congrArg (min · limit.toNat) (calculatePremium_ok.mp steps.calculated).2
  have mint : (found.clearCall env a program resolver limit).mint = found.token := rfl
  obtain ⟨_, _, _, wraps⟩ := trace.premium_account free live whole checked.token mint rfl
  exact ⟨account, loaded, wraps, apart, reward ▸ settled⟩

theorem Trace.clear_pays : Cleared env a order program resolver
    (order.rewardAt limit s.clock.unixTimestamp) s.ledger l' := by
  obtain ⟨account, loaded, wraps, apart, settled⟩ :=
    trace.clear_settled free live whole wallet other ran
  have creator : env.Wallet order.creator := trace.parties live
  have sent := Src.sentLamports_eq loaded wraps
  have ends : ∀ native : order.assetIsNative = false,
      l'.tokens (env.associatedTokenAddress order.creator program order.token) =
          s.ledger.tokens (env.associatedTokenAddress order.creator program order.token) +
            account.amount ∧
        l'.lamports (env.associatedTokenAddress order.creator program order.token) =
          s.ledger.lamports (env.associatedTokenAddress order.creator program order.token) +
            order.wrappedLamports env a program s.ledger ∧
        l'.lamports order.creator + order.wrappedLamports env a program s.ledger +
            order.rewardAt limit s.clock.unixTimestamp =
          s.ledger.lamports order.creator + s.ledger.lamports a +
            s.ledger.lamports (env.associatedTokenAddress a program order.token) := by
    intro native
    have given : (order.clearCall env a program resolver limit).creatorAta =
        some (env.associatedTokenAddress order.creator program order.token) := if_neg (by simp [native])
    have everything : Src.sentTokens order account = account.amount := if_neg (by simp [native])
    rw [Src.sentLamports, everything] at sent
    have apartToken : order.creator ≠ env.associatedTokenAddress order.creator program order.token :=
      fun same => env.associated_notWallet _ _ _ (same ▸ creator)
    rw [← sent]
    exact settled.paid_tokens apart native given apartToken
  refine ⟨settled.orderClosed, settled.ataClosed, settled.resolver_rises apart, fun native => ?_,
    fun native => (ends native).2.1, ?_⟩
  · rw [Ledger.tokens_of_token loaded]
    exact (ends native).1
  · cases native : order.assetIsNative with
    | true =>
      have nothing : order.wrappedLamports env a program s.ledger = 0 := if_neg (by simp [native])
      rw [nothing, Nat.add_zero]
      exact (settled.paid_native apart native (trace.tokenSound _ _ loaded).wrapped_le).2.2
    | false => exact (ends native).2.2

/-- The runtime accepts it from a rent-exempt resolver for a rent-exempt maker: both
only gain, and the other accounts are closed, or hold tokens. -/
theorem Trace.clear_processes (rent : RentSound env.toHost s.ledger)
    (receivable : Receivable env order.assetIsNative order.creator program order.token s.ledger)
    (resolverExempt : env.RentExempt s.ledger resolver)
    (creatorExempt : env.RentExempt s.ledger order.creator) :
    (Instruction.src (.cancelOrderByResolver (order.clearCall env a program resolver limit))).process
      env s.clock s.ledger = .ok l' := by
  obtain ⟨account, _, _, apart, settled⟩ := trace.clear_settled free live whole wallet other ran
  have creator : env.Wallet order.creator := trace.parties live
  have signed : ∀ key ∈ (Instruction.src (.cancelOrderByResolver
      (order.clearCall env a program resolver limit))).signers, env.Wallet key :=
    wallet_of_signers wallet
  have running : (Instruction.src (.cancelOrderByResolver (order.clearCall env a program resolver
      limit))).run env s.clock s.ledger = .ok l' := ran
  have token : ∀ k ∈ payeeAccount env order.assetIsNative order.creator program order.token,
      l'.data k ≠ .empty := by
    intro k given empty
    obtain ⟨account, held, _⟩ :=
      (receivable.stands creator (Instruction.standing running)).checked k given
    rw [held] at empty
    cases empty
  have drained := settled.emptied apart
  refine (trace.processes_iff free rent signed running).mpr fun k writable empty => ?_
  have unpaid : k ∉ (order.clearCall env a program resolver limit).creatorAta :=
    fun given => token k given empty
  simp only [Instruction.writable, Src.Instruction.writable, List.cons_append, List.nil_append,
    List.mem_cons, Option.mem_toList] at writable
  rcases writable with rfl | rfl | rfl | rfl | given
  · have data := settled.others _ apart.resolver.1 apart.resolver.2.1 unpaid
    exact (resolverExempt.grow data (settled.grows apart.resolver.1 apart.resolver.2.1)).allowed
  · have data := settled.others _ apart.creator.1 apart.creator.2 unpaid
    exact (creatorExempt.grow data (settled.grows apart.creator.1 apart.creator.2)).allowed
  · exact rentAllowed_of_drained drained.1
  · exact rentAllowed_of_drained drained.2
  · exact absurd empty (token k given)

end Settled

/-- A resolver that may, can. -/
theorem Trace.clear_runs (wrapped : env.mintProgram env.NATIVE_MINT = some .token)
    {account : TokenAccount K} (ready : OrderReady env s a order program account)
    (plain : s.ledger.data resolver = .empty)
    (receivable : Receivable env order.assetIsNative order.creator program order.token s.ledger)
    (passes : requireResolverAccess env env.srcId resolver (env.accessAddress env.srcId resolver)
      s.ledger = .ok ())
    (clears : order.Clears env a program limit s.clock s.ledger) :
    ∃ l', Src.cancelOrderByResolver env s.clock (order.clearCall env a program resolver limit)
      s.ledger = .ok l' := by
  have attempts : (order.clearCall env a program resolver limit).Attempts env s.clock order account
      s.ledger := {
    resolverAccess := passes
    loaded := Ledger.programAt_eq_some.mp live
    creator := rfl
    mintKnown := by rw [Order.clearCall, ready.owned]; rfl
    mint := rfl
    seeds := ready.seeds
    token := ready.loaded
    tokenProgram := ready.programEq
    tokenOwner := ready.owner
    ataDerived := rfl
    creatorToken := fun key given => by
      obtain ⟨found, held, programs, owner, derived⟩ := receivable.checked key given
      exact ⟨found, held, programs, owner, derived, receivable.ofMint key given found held⟩
    nativeTrait := payeeAccount_isNone order.assetIsNative order.creator order.token program
    expired := clears.expired
    allowed := clears.allowed }
  obtain ⟨returned, reaches⟩ := attempts.reaches ready.mint ready.covered
  have covered := (trace.reward_covered free live whole reaches
    (order.reward_le s.clock.unixTimestamp limit)).mpr fun notNative isWrapped => by
      have enough := clears.covered notNative isWrapped
      rwa [Ledger.tokens_of_token ready.loaded] at enough
  refine reaches.runs clears.fits covered (fun native => ?_)
    (trace.wallet_ne live (trace.parties live)) plain
  have mint : order.token = env.NATIVE_MINT := (trace.termsFit live).2 native
  have owned := ready.owned
  rw [mint, wrapped] at owned
  rw [ready.wraps, mint, ← Option.some.inj owned]
  rfl

end Clear

/-- In every reachable state whose token accounts are rent-exempt, for every live order
that no rescue ran on and whose maker is rent-exempt and can be paid, and every
rent-exempt wallet without data that is not the maker: the transaction of its
`cancel_order_by_resolver` call, with any limit, succeeds exactly when it is on the
whitelist, the order has expired and pays a premium, and the computations of the
reward do not overflow; then both accounts are closed, the resolver has the reward and
the maker all else. -/
theorem Trace.order_clearable (free : env.CollisionFree) (trace : Trace env h s)
    (wrapped : env.mintProgram env.NATIVE_MINT = some .token)
    (live : s.ledger.programAt a = some (.order order)) (whole : orderUnrescued a h = true)
    (rent : RentSound env.toHost s.ledger) (exempt : env.RentExempt s.ledger order.creator) :
    ∃ program, env.mintProgram order.token = some program ∧
      (Receivable env order.assetIsNative order.creator program order.token s.ledger →
        ∀ (resolver : K) (limit : U64), env.Wallet resolver → resolver ≠ order.creator →
          s.ledger.data resolver = .empty → env.RentExempt s.ledger resolver →
          s.ProcessesIff env
            (.src (.cancelOrderByResolver (order.clearCall env a program resolver limit)))
            (Enrolled (env.srcId, resolver) (whitelistLog h) ∧
              order.Clears env a program limit s.clock s.ledger)
            (Cleared env a order program resolver (order.rewardAt limit s.clock.unixTimestamp)
              s.ledger)) := by
  obtain ⟨program, account, ready⟩ := trace.order_ready free live whole
  refine ⟨program, ready.owned, fun receivable resolver limit wallet other plain resolverExempt =>
    State.processesIff (fun l' ran => ?_) fun ⟨listed, clears⟩ => ?_⟩
  · obtain ⟨passes, clears⟩ := trace.clear_needs free live whole ran
    exact ⟨(trace.resolver_iff free _ _).mp passes, clears⟩
  · have passes := (trace.resolver_iff free env.srcId resolver).mpr listed
    obtain ⟨l', ran⟩ := trace.clear_runs free live whole wrapped ready plain receivable passes clears
    exact ⟨l', trace.clear_processes free live whole wallet other ran rent receivable resolverExempt
      exempt, trace.clear_pays free live whole wallet other ran⟩

def Sample.clearable : Sample.Scenario (fun r =>
    (((r.state.ledger.programAt (Sample.orderAt Sample.single)).bind Data.toOrder).any (fun o =>
        decide (o.token = Sample.usdc ∧ o.creator = Sample.maker ∧
          orderUnrescued (Sample.orderAt Sample.single) r.history = true ∧
          Sample.env.RentExempt r.state.ledger o.creator ∧
          r.state.ledger.data Sample.taker = .empty ∧
          Sample.env.RentExempt r.state.ledger Sample.taker ∧
          ((Instruction.src (.cancelOrderByResolver (o.clearCall Sample.env
            (Sample.orderAt Sample.single) .token Sample.taker 10))).process Sample.env r.state.clock
              r.state.ledger).toOption.isSome = true)) &&
      Sample.holds Sample.maker r.state.ledger) = true) where
  commands := Sample.whitelisting ++ [.wait 100, .call (.src (.create (Sample.create Sample.single))),
      .wait 5050]

/-- The taker clears the expired sample order. -/
theorem Trace.order_clearable_sample : ∃ (s : State Term) (order : Order Term) (l' : Chain Term),
    order.Clears Sample.env (Sample.orderAt Sample.single) .token 10 s.clock s.ledger ∧
      Cleared Sample.env (Sample.orderAt Sample.single) order .token Sample.taker
        (order.rewardAt 10 s.clock.unixTimestamp) s.ledger l' := by
  obtain ⟨r, trace, rent, stands⟩ := Sample.clearable.reached_sound Sample.rentSound
  obtain ⟨held, maker⟩ := Bool.and_eq_true_iff.mp stands
  obtain ⟨order, live, token, creator, whole, exempt, plain, resolverExempt, runs⟩ :=
    Sample.live_order held
  have holds := Sample.holdsAccount maker
  rw [← creator, ← token] at holds
  obtain ⟨program, owned, clears⟩ :=
    trace.order_clearable Sample.collisionFree rfl live whole rent exempt
  rw [token] at owned
  obtain rfl : TokenProgram.token = program := Option.some.inj owned
  obtain ⟨l', processed⟩ := isSome_toOption runs
  have other : Sample.taker ≠ order.creator := by
    rw [creator]
    decide
  obtain ⟨iff, cleared⟩ :=
    clears (fun _ => holds) Sample.taker 10 (Sample.wallet_atom 12) other plain resolverExempt
  exact ⟨r.state, order, l', (iff.mp ⟨l', processed⟩).2, cleared l' processed⟩

end CrossChainEscrow.Source
