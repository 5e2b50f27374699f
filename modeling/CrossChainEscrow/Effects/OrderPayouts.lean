import CrossChainEscrow.Effects.OrderCancel

/-!
# What a cancellation of an order pays

Entry by entry: the tokens go to the creator's account with the lamports they
wrap, and the rest of the lamports and the order's own go to the creator. In a
cancellation by a resolver the rest passes through the resolver, who keeps the
reward.
-/

namespace CrossChainEscrow.Source
open Library.Words Library.Bytes Library.Accounts Library.Bookkeeping

variable {K : Type} [DecidableEq K] {env : Environment K} {clock : Clock} {ctx : Context K}
  {l l' : Chain K}

namespace Src

/-- Where the tokens of an order go. -/
def OrderCancelCall.receiver (c : OrderCancelCall K) : K := c.creatorAta.getD c.creator

/-- The tokens that are sent before the account is closed. -/
def sentTokens (order : Order K) (orderToken : TokenAccount K) : Nat :=
  if order.assetIsNative = true then 0 else orderToken.amount

/-- The lamports that the sent tokens wrap. -/
def sentLamports (order : Order K) (orderToken : TokenAccount K) : Nat :=
  orderToken.wrapped (sentTokens order orderToken)

/-- After the tokens are returned. -/
structure OrderCancelCall.Returned (c : OrderCancelCall K) (order : Order K)
    (orderToken : TokenAccount K) (l returned : Chain K) : Prop where
  tokens : Booked [(c.orderAta, sentTokens order orderToken)]
    [(c.receiver, sentTokens order orderToken)] l.tokens returned.tokens
  lamports : Booked [(c.orderAta, sentLamports order orderToken)]
    [(c.receiver, sentLamports order orderToken)] l.lamports returned.lamports
  left : returned.tokens c.orderAta + sentTokens order orderToken = orderToken.amount
  funded : returned.lamports c.orderAta + sentLamports order orderToken = l.lamports c.orderAta

theorem OrderCancelCall.Checked.returned_booked {c : OrderCancelCall K} {order : Order K}
    {orderToken : TokenAccount K} {returned : Chain K}
    (s : OrderCancelCall.Checked env clock c order orderToken l returned)
    (distinct : c.creator ≠ c.order) : c.Returned order orderToken l returned := by
  cases native : order.assetIsNative with
  | true =>
    obtain rfl := s.returned_native native
    have nothing : sentTokens order orderToken = 0 := if_pos native
    have noLamports : sentLamports order orderToken = 0 := by
      rw [sentLamports, nothing]
      exact ite_self 0
    refine ⟨?_, ?_, ?_, ?_⟩
    · rw [nothing]
      exact ⟨fun k => by simp⟩
    · rw [noLamports]
      exact ⟨fun k => by simp⟩
    · rw [nothing, Ledger.tokens_of_token s.token, Nat.add_zero]
    · rw [noLamports, Nat.add_zero]
  | false =>
    have all : sentTokens order orderToken = orderToken.amount := if_neg (by simp [native])
    have returns := s.returnTokens
    unfold Src.returnTokens at returns
    rw [if_pos native] at returns
    obtain ⟨ata, given, transfer⟩ := bind_ok.mp returns
    rw [orFault_ok] at given
    have receiver : c.receiver = ata := by rw [OrderCancelCall.receiver, given, Option.getD_some]
    have accounts := s.creatorAta_ne distinct ata given
    obtain ⟨tokens, lamports⟩ := uniTransfer_booked accounts s.token transfer
    have moved := uniTransfer_moved accounts s.token transfer
    refine ⟨?_, ?_, ?_, ?_⟩
    · rw [receiver, all]
      exact tokens
    · rw [receiver, sentLamports, all]
      exact lamports
    · rw [all, moved.debit s.token, Ledger.tokens_of_token s.token]
    · rw [sentLamports, all]
      exact moved.paid

/-- The order's account is left with what is not sent, and only the creator's changes
besides. -/
theorem OrderCancelCall.Checked.returned_data {c : OrderCancelCall K} {order : Order K}
    {orderToken : TokenAccount K} {returned : Chain K}
    (s : OrderCancelCall.Checked env clock c order orderToken l returned)
    (distinct : c.creator ≠ c.order) :
    returned.data c.orderAta = .token
        { orderToken with amount := orderToken.amount - sentTokens order orderToken } ∧
      ∀ k, k ≠ c.orderAta → k ∉ c.creatorAta → returned.data k = l.data k := by
  unfold sentTokens
  cases native : order.assetIsNative with
  | true =>
    obtain rfl := s.returned_native native
    exact ⟨s.token, fun _ _ _ => rfl⟩
  | false =>
    have returns := s.returnTokens
    rw [Src.returnTokens, if_pos native] at returns
    obtain ⟨ata, given, transfer⟩ := bind_ok.mp returns
    rw [orFault_ok] at given
    have moved := uniTransfer_moved (s.creatorAta_ne distinct ata given) s.token transfer
    refine ⟨moved.debited, fun k notAta notCreatorAta => moved.others k notAta ?_⟩
    rintro rfl
    exact notCreatorAta given

/-! ## A cancellation by the creator -/

/-- Both accounts are closed, the tokens are sent with the lamports they wrap, and all
other lamports go to the creator. -/
structure CancelOrder.Settled (c : CancelOrder K) (order : Order K) (orderToken : TokenAccount K)
    (l l' : Chain K) : Prop where
  orderClosed : l'.data c.order = .empty
  ataClosed : l'.data c.orderAta = .empty
  others : ∀ k, k ≠ c.order → k ≠ c.orderAta → k ∉ c.creatorAta → l'.data k = l.data k
  tokens : Booked [(c.orderAta, orderToken.amount)] [(c.call.receiver, sentTokens order orderToken)]
    l.tokens l'.tokens
  lamports : ∃ rest, rest + sentLamports order orderToken = l.lamports c.orderAta ∧
    Booked [(c.orderAta, sentLamports order orderToken), (c.orderAta, rest),
        (c.order, l.lamports c.order)]
      [(c.call.receiver, sentLamports order orderToken), (c.creator, rest),
        (c.creator, l.lamports c.order)] l.lamports l'.lamports

theorem cancelOrder_settled {c : CancelOrder K} {order : Order K} {orderToken : TokenAccount K}
    {returned closed : Chain K} (creator : c.creator ≠ c.order) (receiver : c.call.receiver ≠ c.order)
    (checked : OrderCancelCall.Checked env clock c.call order orderToken l returned)
    (close : (closeAccount ((c.call.context env clock).callSigners env
      (some (Order.signerSeeds order))) c.tokenProgram c.orderAta c.creator c.order returned :
      Result _) = .ok closed)
    (finish : (closeProgram c.order c.creator closed : Result _) = .ok l') :
    c.Settled order orderToken l l' := by
  have back : c.call.Returned order orderToken l returned := checked.returned_booked creator
  have notAta : c.orderAta ≠ c.order := ne_of_program checked.loaded checked.token
  obtain ⟨gone, untouchedData, _⟩ := closeAccount_effect close
  obtain ⟨orderGone, kept, _⟩ := closeProgram_effect finish
  have sent : Booked [(c.orderAta, sentLamports order orderToken)]
      [(c.call.receiver, sentLamports order orderToken)] l.lamports returned.lamports := back.lamports
  have passed := sent.trans (closeAccount_booked close)
  have untouched : closed.lamports c.order = l.lamports c.order := by
    have booked := passed.account c.order
    simpa [Ne.symm notAta, Ne.symm creator, Ne.symm receiver] using booked
  have final := passed.trans (closeProgram_booked finish)
  rw [untouched] at final
  refine ⟨orderGone, (kept _ notAta).trans gone, fun k notOrder other notToken => ?_, ?_,
    returned.lamports c.orderAta, back.funded, final⟩
  · rw [kept k notOrder, untouchedData k other]
    exact (checked.returned_data creator).2 k other notToken
  have tokens : Booked [(c.orderAta, sentTokens order orderToken)]
      [(c.call.receiver, sentTokens order orderToken)] l.tokens returned.tokens := back.tokens
  have left : returned.tokens c.orderAta + sentTokens order orderToken = orderToken.amount := back.left
  rw [closeProgram_tokens finish]
  apply (tokens.trans (closeAccount_tokens_booked close)).congr
  · intro k
    rw [List.singleton_append, posted_merge, Nat.add_comm, left]
  · intro k
    rw [List.append_nil]

/-- Neither account of the order keeps lamports. -/
theorem CancelOrder.Settled.drained {c : CancelOrder K} {order : Order K} {orderToken : TokenAccount K}
    (settled : c.Settled order orderToken l l')
    (creator : c.creator ≠ c.order ∧ c.creator ≠ c.orderAta)
    (receiver : c.call.receiver ≠ c.order ∧ c.call.receiver ≠ c.orderAta)
    (distinct : c.orderAta ≠ c.order) : l'.lamports c.order = 0 ∧ l'.lamports c.orderAta = 0 := by
  obtain ⟨rest, all, lamports⟩ := settled.lamports
  have atOrder := lamports.account c.order
  have atAta := lamports.account c.orderAta
  simp only [posted_cons, posted_nil, if_neg (Ne.symm creator.1), if_neg (Ne.symm receiver.1),
    if_neg (Ne.symm distinct), if_pos] at atOrder
  simp only [posted_cons, posted_nil, if_neg (Ne.symm creator.2), if_neg (Ne.symm receiver.2),
    if_neg distinct, if_pos] at atAta
  omega

/-! ## A cancellation by a resolver -/

/-- Both accounts are closed, and every lamport and token is posted. -/
structure CancelOrderbyResolver.Settled (ix : CancelOrderbyResolver K) (order : Order K)
    (orderToken : TokenAccount K) (reward : Nat) (l l' : Chain K) : Prop where
  orderClosed : l'.data ix.order = .empty
  ataClosed : l'.data ix.orderAta = .empty
  others : ∀ k, k ≠ ix.order → k ≠ ix.orderAta → k ∉ ix.creatorAta → l'.data k = l.data k
  covered : reward + sentLamports order orderToken ≤ l.lamports ix.orderAta
  unwrapped : order.assetIsNative = true →
    orderToken.isNative.isSome = true ∨ orderToken.amount = 0
  tokens : Booked [(ix.orderAta, orderToken.amount)]
    [(ix.call.receiver, sentTokens order orderToken)] l.tokens l'.tokens
  lamports : ∃ rest, rest + sentLamports order orderToken = l.lamports ix.orderAta ∧
    Booked [(ix.orderAta, sentLamports order orderToken), (ix.orderAta, rest),
        (ix.resolver, rest - reward), (ix.order, l.lamports ix.order)]
      [(ix.call.receiver, sentLamports order orderToken), (ix.resolver, rest),
        (ix.creator, rest - reward), (ix.creator, l.lamports ix.order)] l.lamports l'.lamports

namespace CancelOrderbyResolver.Steps
variable {ix : CancelOrderbyResolver K} {order : Order K} {orderToken : TokenAccount K}
  {premium : U64} {returned closed paid : Chain K}
  (s : CancelOrderbyResolver.Steps env clock ix order orderToken premium l returned closed paid l')
include s

/-- The payment to the creator touches no data. -/
theorem paid_data : paid.data = closed.data := by
  rw [(uniTransfer_native s.pay).2]
  rfl

/-- What the account held after the tokens were sent goes to the resolver, less
the reward to the creator. -/
theorem passed_booked : Booked
    [(ix.orderAta, returned.lamports ix.orderAta),
      (ix.resolver, returned.lamports ix.orderAta - min premium.toNat ix.rewardLimit.toNat)]
    [(ix.resolver, returned.lamports ix.orderAta),
      (ix.creator, returned.lamports ix.orderAta - min premium.toNat ix.rewardLimit.toNat)]
    returned.lamports paid.lamports := by
  obtain ⟨enough, moved⟩ := uniTransfer_native s.pay
  rw [moved]
  exact (closeAccount_booked s.close).trans (moveLamports_booked enough)

/-- All tokens leave the account, those that are sent for the receiver. -/
theorem tokens_booked (creator : ix.creator ≠ ix.order) :
    Booked [(ix.orderAta, orderToken.amount)] [(ix.call.receiver, sentTokens order orderToken)]
      l.tokens l'.tokens := by
  have back : ix.call.Returned order orderToken l returned := s.checked.returned_booked creator
  have sent : Booked [(ix.orderAta, sentTokens order orderToken)]
      [(ix.call.receiver, sentTokens order orderToken)] l.tokens returned.tokens := back.tokens
  have left : returned.tokens ix.orderAta + sentTokens order orderToken = orderToken.amount :=
    back.left
  have unposted : paid.tokens = closed.tokens := by
    funext k
    exact Ledger.tokens_congr (congrFun s.paid_data k)
  rw [closeProgram_tokens s.finish, unposted]
  apply (sent.trans (closeAccount_tokens_booked s.close)).congr
  · intro k
    rw [List.singleton_append, posted_merge, Nat.add_comm, left]
  · intro k
    rw [List.append_nil]

/-- A native order's account is closed with its tokens inside. -/
theorem unwrapped (native : order.assetIsNative = true) :
    orderToken.isNative.isSome = true ∨ orderToken.amount = 0 := by
  obtain rfl := s.checked.returned_native native
  obtain ⟨source, loaded, _, _, unwraps, _⟩ := closeAccount_ok.mp s.close
  have token : returned.data ix.orderAta = .token orderToken := s.checked.token
  obtain rfl : source = orderToken := AccountData.token.inj (loaded.symm.trans token)
  exact unwraps

theorem settled (creator : ix.creator ≠ ix.order) (resolver : ix.resolver ≠ ix.order)
    (receiver : ix.call.receiver ≠ ix.order) :
    ix.Settled order orderToken (min premium.toNat ix.rewardLimit.toNat) l l' := by
  have back : ix.call.Returned order orderToken l returned := s.checked.returned_booked creator
  have notAta : ix.orderAta ≠ ix.order := ne_of_program s.checked.loaded s.checked.token
  obtain ⟨gone, ataKept, _⟩ := closeAccount_effect s.close
  obtain ⟨orderGone, orderKept, _⟩ := closeProgram_effect s.finish
  have sent : Booked [(ix.orderAta, sentLamports order orderToken)]
      [(ix.call.receiver, sentLamports order orderToken)] l.lamports returned.lamports :=
    back.lamports
  have through := sent.trans s.passed_booked
  have untouched : paid.lamports ix.order = l.lamports ix.order := by
    have booked := through.account ix.order
    simpa [Ne.symm notAta, Ne.symm creator, Ne.symm resolver, Ne.symm receiver] using booked
  have final := through.trans (closeProgram_booked s.finish)
  rw [untouched] at final
  have left : returned.lamports ix.orderAta + sentLamports order orderToken =
      l.lamports ix.orderAta := back.funded
  refine ⟨orderGone, ?_, fun k notOrder other notToken => ?_, ?_, s.unwrapped, s.tokens_booked creator,
    _, left, final⟩
  · rw [orderKept _ notAta, s.paid_data]
    exact gone
  · rw [orderKept k notOrder, s.paid_data, ataKept k other]
    exact (s.checked.returned_data creator).2 k other notToken
  · have affordable := s.enough
    omega

end CancelOrderbyResolver.Steps

end Src

end CrossChainEscrow.Source
