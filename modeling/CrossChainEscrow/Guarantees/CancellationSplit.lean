import CrossChainEscrow.Effects.OrderPayouts
import CrossChainEscrow.Invariants.Placement
import CrossChainEscrow.Source.Execution

/-!
# A resolver's cancellation splits what the order holds

The resolver ends with its reward on top, the creator with every token and all
other lamports, both accounts are closed, and nothing else changes.
-/

namespace CrossChainEscrow.Source
open Library.Words Library.Bytes Library.Accounts Library.Bookkeeping

variable {K : Type} [DecidableEq K] {env : Environment K} {h : History K} {s : State K}
  {clock : Clock} {l l' : Chain K}

namespace Src.CancelOrderbyResolver

/-- The accounts that the cancellation may change. -/
def accounts (ix : CancelOrderbyResolver K) : List K :=
  [ix.resolver, ix.creator, ix.order, ix.orderAta] ++ ix.creatorAta.toList

/-- The parties are two, and none of the accounts. -/
structure Apart (ix : CancelOrderbyResolver K) : Prop where
  parties : ix.resolver ≠ ix.creator
  resolver : ix.resolver ≠ ix.order ∧ ix.resolver ≠ ix.orderAta ∧ ix.resolver ≠ ix.call.receiver
  creator : ix.creator ≠ ix.order ∧ ix.creator ≠ ix.orderAta
  receiver : ix.call.receiver ≠ ix.order ∧ ix.call.receiver ≠ ix.orderAta
  orderAta : ix.orderAta ≠ ix.order

variable {ix : CancelOrderbyResolver K} {order : Order K} {orderToken : TokenAccount K}
  {reward : Nat}

omit [DecidableEq K] in
theorem receiver_mem (ix : CancelOrderbyResolver K) : ix.call.receiver ∈ ix.accounts := by
  unfold OrderCancelCall.receiver accounts call
  cases ix.creatorAta with
  | none => simp
  | some key => simp

namespace Settled

theorem unchanged (settled : ix.Settled order orderToken reward l l') {k : K}
    (outside : k ∉ ix.accounts) : l'.lamports k = l.lamports k ∧ l'.tokens k = l.tokens k := by
  have notReceiver : k ≠ ix.call.receiver := fun same => outside (same ▸ ix.receiver_mem)
  simp only [accounts, List.mem_append, List.mem_cons, not_or] at outside
  obtain ⟨⟨notResolver, notCreator, notOrder, notAta, _⟩, _⟩ := outside
  obtain ⟨rest, _, lamports⟩ := settled.lamports
  constructor
  · simpa [notResolver, notCreator, notOrder, notAta, notReceiver] using lamports.account k
  · simpa [notAta, notReceiver] using settled.tokens.account k

theorem resolver_rises (settled : ix.Settled order orderToken reward l l') (apart : ix.Apart) :
    l'.lamports ix.resolver = l.lamports ix.resolver + reward := by
  obtain ⟨rest, split, lamports⟩ := settled.lamports
  have covered := settled.covered
  have booked := lamports.account ix.resolver
  simp [apart.resolver, apart.parties] at booked
  omega

/-- Only the two accounts of the order lose lamports. -/
theorem grows (settled : ix.Settled order orderToken reward l l') {k : K} (notOrder : k ≠ ix.order)
    (notAta : k ≠ ix.orderAta) : l.lamports k ≤ l'.lamports k := by
  obtain ⟨rest, _, lamports⟩ := settled.lamports
  have booked := lamports.account k
  simp only [posted_cons, posted_nil, if_neg notOrder, if_neg notAta] at booked
  split_ifs at booked <;> omega

theorem emptied (settled : ix.Settled order orderToken reward l l') (apart : ix.Apart) :
    l'.lamports ix.order = 0 ∧ l'.lamports ix.orderAta = 0 := by
  obtain ⟨rest, split, lamports⟩ := settled.lamports
  have orderBooked := lamports.account ix.order
  have ataBooked := lamports.account ix.orderAta
  simp [Ne.symm apart.resolver.1, Ne.symm apart.creator.1, Ne.symm apart.receiver.1,
    Ne.symm apart.orderAta] at orderBooked
  simp [Ne.symm apart.resolver.2.1, Ne.symm apart.creator.2, Ne.symm apart.receiver.2,
    apart.orderAta] at ataBooked
  omega

theorem conserves (settled : ix.Settled order orderToken reward l l') {accounts : Finset K}
    (inside : ∀ k ∈ ix.accounts, k ∈ accounts) :
    ∑ k ∈ accounts, l'.lamports k = ∑ k ∈ accounts, l.lamports k ∧
      ∑ k ∈ accounts, l'.tokens k + orderToken.amount =
        ∑ k ∈ accounts, l.tokens k + sentTokens order orderToken := by
  have receiver := inside _ ix.receiver_mem
  have named : ∀ k ∈ [ix.resolver, ix.creator, ix.order, ix.orderAta], k ∈ accounts :=
    fun k member => inside k (List.mem_append_left _ member)
  simp only [List.forall_mem_cons] at named
  obtain ⟨rest, split, lamports⟩ := settled.lamports
  constructor
  · apply lamports.conserves
    · simp only [volume_cons, volume_nil]
    · simp [named, receiver]
  · have inPlace : ∀ entry ∈ [(ix.orderAta, orderToken.amount)] ++
        [(ix.call.receiver, sentTokens order orderToken)], entry.1 ∈ accounts := by
      simp [named, receiver]
    simpa using settled.tokens.total inPlace

/-- Tokens go to the creator's token account, the lamports that are left to the
creator. -/
theorem paid_tokens (settled : ix.Settled order orderToken reward l l') (apart : ix.Apart)
    (plain : order.assetIsNative = false) {ata : K} (given : ix.creatorAta = some ata)
    (distinct : ix.creator ≠ ata) :
    l'.tokens ata = l.tokens ata + orderToken.amount ∧
      l'.lamports ata = l.lamports ata + orderToken.wrapped orderToken.amount ∧
      l'.lamports ix.creator + orderToken.wrapped orderToken.amount + reward =
        l.lamports ix.creator + l.lamports ix.order + l.lamports ix.orderAta := by
  have receiver : ix.call.receiver = ata := by
    rw [OrderCancelCall.receiver, show ix.call.creatorAta = some ata from given, Option.getD_some]
  obtain ⟨notResolver, notOrder, notAta⟩ : ix.resolver ≠ ata ∧ ata ≠ ix.order ∧ ata ≠ ix.orderAta :=
    receiver ▸ ⟨apart.resolver.2.2, apart.receiver⟩
  have sent : sentTokens order orderToken = orderToken.amount := if_neg (by simp [plain])
  obtain ⟨rest, split, lamports⟩ := settled.lamports
  have covered := settled.covered
  have tokens := settled.tokens.account ata
  have atAta := lamports.account ata
  have atCreator := lamports.account ix.creator
  rw [sentLamports, sent] at split covered atAta atCreator
  rw [receiver] at tokens atAta atCreator
  simp [notAta, sent] at tokens
  simp [notAta, notOrder, Ne.symm notResolver, Ne.symm distinct] at atAta
  simp [apart.creator, Ne.symm apart.parties, distinct] at atCreator
  refine ⟨tokens, atAta, ?_⟩
  omega

/-- The tokens of a native order are lamports of its account. -/
theorem paid_native (settled : ix.Settled order orderToken reward l l') (apart : ix.Apart)
    (native : order.assetIsNative = true)
    (backed : orderToken.wrapped orderToken.amount ≤ l.lamports ix.orderAta) :
    orderToken.wrapped orderToken.amount = orderToken.amount ∧
      orderToken.amount ≤ l.lamports ix.orderAta ∧
      l'.lamports ix.creator + reward =
        l.lamports ix.creator + l.lamports ix.order + l.lamports ix.orderAta := by
  have nothing : sentLamports order orderToken = 0 := by
    rw [sentLamports, sentTokens, if_pos native]
    exact ite_self 0
  obtain ⟨rest, split, lamports⟩ := settled.lamports
  have covered := settled.covered
  have atCreator := lamports.account ix.creator
  rw [nothing] at split covered atCreator
  simp [apart.creator, Ne.symm apart.parties] at atCreator
  have all : orderToken.wrapped orderToken.amount = orderToken.amount := by
    rcases settled.unwrapped native with isWrapped | empty
    · exact if_pos isWrapped
    · rw [empty]
      exact ite_self 0
  rw [all] at backed
  refine ⟨all, backed, ?_⟩
  omega

end Settled
end Src.CancelOrderbyResolver

/-- The creator of a live order and whoever cancels it are wallets. -/
theorem Trace.cancellation_apart (trace : Trace env h s) {ix : Src.CancelOrderbyResolver K}
    (signed : env.Wallet ix.resolver) (other : ix.resolver ≠ ix.creator) {order : Order K}
    {orderToken : TokenAccount K} {premium : U64} {returned closed paid : Chain K}
    (steps : Src.CancelOrderbyResolver.Steps env clock ix order orderToken premium s.ledger returned
      closed paid l') : ix.Apart ∧ ∀ key ∈ ix.creatorAta, ix.creator ≠ key := by
  have checked := steps.checked
  have live : s.ledger.programAt ix.order = some (.order order) :=
    Ledger.programAt_eq_some.mpr checked.loaded
  have creator : env.Wallet ix.creator := by
    have same : ix.creator = order.creator := checked.creator
    rw [same]
    exact trace.parties live
  have creatorOrder : ix.creator ≠ ix.order := trace.wallet_ne live creator
  have noWallet {k wallet mint : K} {program : TokenProgram} (isWallet : env.Wallet k) :
      k ≠ env.associatedTokenAddress wallet program mint := by
    rintro rfl
    exact env.associated_notWallet _ _ _ isWallet
  have ataDerived : ix.orderAta = env.associatedTokenAddress ix.order ix.tokenProgram ix.mint :=
    checked.ataDerived
  have creatorAta : ix.creator ≠ ix.orderAta := ataDerived ▸ noWallet creator
  have derivedAta : ∀ key ∈ ix.creatorAta, ∀ k, env.Wallet k → k ≠ key := by
    intro key given k isWallet
    obtain ⟨_, _, _, _, derived⟩ := checked.creatorToken key given
    rw [derived]
    exact noWallet isWallet
  have receiver : ix.call.receiver = ix.creator ∨ ix.call.receiver ∈ ix.creatorAta := by
    unfold Src.OrderCancelCall.receiver Src.CancelOrderbyResolver.call
    cases ix.creatorAta with
    | none => exact Or.inl rfl
    | some key => exact Or.inr rfl
  refine ⟨⟨other, ⟨trace.wallet_ne live signed, ataDerived ▸ noWallet signed, ?_⟩,
    ⟨creatorOrder, creatorAta⟩, ?_, ne_of_program checked.loaded checked.token⟩,
    fun key given => derivedAta key given _ creator⟩
  · rcases receiver with same | given
    · exact same ▸ other
    · exact derivedAta _ given _ signed
  · rcases receiver with same | given
    · exact same ▸ ⟨creatorOrder, creatorAta⟩
    · obtain ⟨_, held, _⟩ := checked.creatorToken _ given
      exact ⟨ne_of_program checked.loaded held, Ne.symm (checked.creatorAta_ne creatorOrder _ given)⟩

/-- For every live order of every run and every successful cancellation by a
resolver other than its creator, at any clock and with any limit: the resolver
gains the premium up to its limit, never more than the order allows; the creator
gets every token, in its token account with the lamports they wrap or, for a native
order, as lamports, and all other lamports of the two accounts without that reward;
both accounts are closed; all totals are kept and no other account changes. The
premium never falls over time where it is computed. -/
theorem Trace.cancellation_split (trace : Trace env h s) {ix : Src.CancelOrderbyResolver K}
    (signed : env.Wallet ix.resolver) (other : ix.resolver ≠ ix.creator)
    (ran : Src.cancelOrderByResolver env clock ix s.ledger = .ok l') :
    ∃ (order : Order K) (orderToken : TokenAccount K) (premium : U64) (reward : Nat),
      s.ledger.programAt ix.order = some (.order order) ∧ ix.creator = order.creator ∧
      s.ledger.data ix.orderAta = .token orderToken ∧
      calculatePremium clock.unixTimestamp order.expirationTime order.cancellationAuctionDuration
        order.maxCancellationPremium = .ok premium ∧
      reward = min premium.toNat ix.rewardLimit.toNat ∧
      reward ≤ order.maxCancellationPremium.toNat ∧
      l'.lamports ix.resolver = s.ledger.lamports ix.resolver + reward ∧
      (order.assetIsNative = false → ∃ creatorAta, ix.creatorAta = some creatorAta ∧
        l'.tokens creatorAta = s.ledger.tokens creatorAta + orderToken.amount ∧
        l'.lamports creatorAta =
          s.ledger.lamports creatorAta + orderToken.wrapped orderToken.amount ∧
        l'.lamports ix.creator + orderToken.wrapped orderToken.amount + reward =
          s.ledger.lamports ix.creator + s.ledger.lamports ix.order +
            s.ledger.lamports ix.orderAta) ∧
      (order.assetIsNative = true → orderToken.wrapped orderToken.amount = orderToken.amount ∧
        orderToken.amount ≤ s.ledger.lamports ix.orderAta ∧
        l'.lamports ix.creator + reward =
          s.ledger.lamports ix.creator + s.ledger.lamports ix.order +
            s.ledger.lamports ix.orderAta) ∧
      l'.data ix.order = .empty ∧ l'.data ix.orderAta = .empty ∧
      l'.lamports ix.order = 0 ∧ l'.lamports ix.orderAta = 0 ∧
      (∀ accounts : Finset K, (∀ k ∈ ix.accounts, k ∈ accounts) →
        ∑ k ∈ accounts, l'.lamports k = ∑ k ∈ accounts, s.ledger.lamports k ∧
        ∑ k ∈ accounts, l'.tokens k + (if order.assetIsNative = true then orderToken.amount else 0) =
          ∑ k ∈ accounts, s.ledger.tokens k) ∧
      (∀ k, k ∉ ix.accounts →
        l'.lamports k = s.ledger.lamports k ∧ l'.tokens k = s.ledger.tokens k) ∧
      ∀ (now later : U32) (first second : U64), now ≤ later →
        calculatePremium now order.expirationTime order.cancellationAuctionDuration
          order.maxCancellationPremium = .ok first →
        calculatePremium later order.expirationTime order.cancellationAuctionDuration
          order.maxCancellationPremium = .ok second → first ≤ second := by
  obtain ⟨order, orderToken, premium, returned, closed, paid, steps⟩ :=
    Src.cancelOrderByResolver_steps ran
  obtain ⟨apart, creatorApart⟩ := trace.cancellation_apart signed other steps
  have settled := steps.settled apart.creator.1 apart.resolver.1 apart.receiver.1
  obtain ⟨orderEmpty, ataEmpty⟩ := settled.emptied apart
  have token : s.ledger.data ix.orderAta = .token orderToken := steps.checked.token
  have nativeTrait : order.assetIsNative = ix.creatorAta.isNone := steps.checked.nativeTrait
  have limited : min premium.toNat ix.rewardLimit.toNat ≤ order.maxCancellationPremium.toNat :=
    Nat.le_trans (Nat.min_le_left _ _) (calculatePremium_le steps.calculated)
  refine ⟨order, orderToken, premium, _, Ledger.programAt_eq_some.mpr steps.checked.loaded,
    steps.checked.creator, steps.checked.token, steps.calculated, rfl, limited,
    settled.resolver_rises apart, fun plain => ?_, fun native => ?_, settled.orderClosed,
    settled.ataClosed, orderEmpty, ataEmpty, fun accounts inside => ?_,
    fun k outside => settled.unchanged outside,
    fun now later first second ordered => calculatePremium_mono ordered⟩
  · rw [plain, eq_comm, Option.isNone_eq_false_iff] at nativeTrait
    obtain ⟨creatorAta, given⟩ := Option.isSome_iff_exists.mp nativeTrait
    exact ⟨creatorAta, given, settled.paid_tokens apart plain given (creatorApart _ given)⟩
  · exact settled.paid_native apart native (trace.tokenSound _ _ token).wrapped_le
  · obtain ⟨sameLamports, sameTokens⟩ := settled.conserves inside
    refine ⟨sameLamports, ?_⟩
    unfold Src.sentTokens at sameTokens
    split at sameTokens
    · next native =>
      rw [if_pos native]
      exact sameTokens
    · next plain =>
      rw [if_neg plain]
      omega

/-- The taker, a resolver, cancels the sample order for at most ten lamports. -/
def Sample.resolverCancel : Src.CancelOrderbyResolver Term where
  resolver := Sample.taker
  resolverAccess := Sample.takerAccess
  creator := Sample.maker
  mint := Sample.usdc
  order := Sample.orderAt Sample.single
  orderAta := Sample.associated (Sample.orderAt Sample.single)
  creatorAta := some (Sample.associated Sample.maker)
  tokenProgram := .token
  rewardLimit := 10

def Sample.expiredOrder : Sample.Scenario
    (fun r => r.state.clock = ⟨5050⟩ ∧
      ((r.state.ledger.programAt (Sample.orderAt Sample.single)).bind Data.toOrder).any
        (fun o => decide (o.expirationTime = 5000 ∧ o.cancellationAuctionDuration = 100 ∧
          o.maxCancellationPremium = 7 ∧ o.assetIsNative = false)) = true ∧
      (r.state.ledger.tokenAt (Sample.associated (Sample.orderAt Sample.single))).any
        (fun t => decide (t.amount = 1000)) = true ∧
      (Src.cancelOrderByResolver Sample.env r.state.clock Sample.resolverCancel
        r.state.ledger).toOption.isSome = true) where
  commands := Sample.whitelisting ++ [.wait 100, .call (.src (.create (Sample.create Sample.single))),
      .wait 5050]

/-- Half way up to a premium of 7 the resolver gets 3 lamports, the maker its 1000
tokens. -/
theorem Trace.cancellation_split_sample : ∃ (s : State Term) (l' : Chain Term),
    Src.cancelOrderByResolver Sample.env s.clock Sample.resolverCancel s.ledger = .ok l' ∧
      l'.lamports Sample.taker = s.ledger.lamports Sample.taker + 3 ∧
      l'.tokens (Sample.associated Sample.maker) =
        s.ledger.tokens (Sample.associated Sample.maker) + 1000 := by
  obtain ⟨r, trace, time, stored, held, succeeds⟩ := Sample.expiredOrder.reached
  obtain ⟨l', ran⟩ := isSome_toOption succeeds
  obtain ⟨order', live', expiration, duration, most, plain⟩ := Sample.live_order stored
  obtain ⟨token', held', amount⟩ := Sample.live_token held
  obtain ⟨order, token, premium, reward, live, _, loaded, calculated, least, _, paid, tokens, _⟩ :=
    trace.cancellation_split (Sample.wallet_atom 12) (by decide) ran
  obtain rfl : order' = order := Data.order.inj (Option.some.inj (live'.symm.trans live))
  obtain rfl : token' = token := AccountData.token.inj (held'.symm.trans loaded)
  obtain ⟨creatorAta, given, received, _⟩ := tokens plain
  obtain rfl : Sample.associated Sample.maker = creatorAta := Option.some.inj given
  rw [time, expiration, duration, most] at calculated
  have three : calculatePremium 5050 5000 100 7 = .ok 3 := rfl
  obtain rfl : 3 = premium := Except.ok.inj (three.symm.trans calculated)
  refine ⟨r.state, l', ran, ?_, ?_⟩
  · rw [least] at paid
    exact paid
  · rw [amount] at received
    exact received

end CrossChainEscrow.Source
