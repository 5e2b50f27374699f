import CrossChainEscrow.Effects.Common
import CrossChainEscrow.Source.SrcProgram

/-!
# What `create_escrow` does

`CreateEscrow.Steps` unfolds a successful fill. The order is either closed or
counts the fill; the escrow's token account receives what leaves the order's.
-/

namespace CrossChainEscrow.Source.Src
open Library.Words Library.Bytes Library.Accounts Library.Bookkeeping Whitelist

variable {K : Type} [DecidableEq K] {env : Environment K} {clock : Clock} {A : K → Prop}

def CreateEscrow.context (env : Environment K) (clock : Clock) (ix : CreateEscrow K) : Context K :=
  ⟨env.srcId, [ix.taker], clock⟩

/-- The values and intermediate ledgers of a fill. -/
structure CreateEscrow.Values (K : Type) where
  order : Order K
  orderToken : TokenAccount K
  hashlock : Bytes32
  share : Limbs
  dstAmount : Limbs
  auctionBytes : List Byte
  allocated : Chain K
  initialized : Chain K
  moved : Chain K
  written : Chain K

structure CreateEscrow.Steps (env : Environment K) (clock : Clock) (ix : CreateEscrow K)
    (l : Chain K) (v : CreateEscrow.Values K) (l' : Chain K) : Prop where
  resolver : requireResolverAccess env env.srcId ix.taker ix.resolverAccess l = .ok ()
  loaded : l.data ix.order = .program (.order v.order)
  maker : ix.maker = v.order.creator
  mintKnown : (env.mintProgram ix.mint).isSome = true
  mint : ix.mint = v.order.token
  seeds : env.createProgramAddress env.srcId (orderSeeds v.order.orderHash) v.order.bump
    = some ix.order
  token : l.data ix.orderAta = .token v.orderToken
  tokenProgram : v.orderToken.program = ix.tokenProgram
  tokenOwner : v.orderToken.owner = ix.order
  ataDerived : ix.orderAta = env.associatedTokenAddress ix.order ix.tokenProgram ix.mint
  derived : ix.escrow = (env.findProgramAddress env.srcId (escrowSeeds v.order.orderHash
    (getEscrowHashlock v.order.hashlock ix.merkleProof) ix.taker ix.amount)).1
  allocate : (createAccount env.toHost [ix.taker] ix.taker ix.escrow
    (discriminatorBytes + EscrowSrc.initSpace) l : Result _) = .ok v.allocated
  init : (initIfNeeded env.toHost [ix.taker] ix.taker ix.escrowAta ix.escrow ix.tokenProgram
    ix.mint v.allocated : Result _) = .ok v.initialized
  amount : requireFillAmount v.order ix.amount = .ok ()
  notExpired : clock.unixTimestamp < v.order.expirationTime
  auction : ix.dutchAuctionData.tryToVec = .ok v.auctionBytes
  committed : hashv env [v.auctionBytes] = v.order.dutchAuctionDataHash
  proofGiven : v.order.allowMultipleFills = ix.merkleProof.isSome
  accepted : acceptedHashlock env v.order ix.amount ix.merkleProof = .ok v.hashlock
  transfer : uniTransfer env (ix.context env clock) (.tokenTransfer ix.orderAta ix.order
    ix.escrowAta ix.mint (amountToTransfer v.order ⟨ix.orderAta, v.orderToken⟩ ix.amount)
    ix.tokenProgram) (some (Order.signerSeeds v.order)) v.initialized = .ok v.moved
  share : shareOfDstAmount v.order.dstAmount ix.amount v.order.amount = .ok v.share
  dstAmount : getDstAmount clock v.share ix.dutchAuctionData = .ok v.dstAmount
  write : (writeProgram ix.escrow (.escrowSrc
    (ix.newEscrow env v.order v.hashlock v.dstAmount clock.unixTimestamp)) v.moved : Result _)
    = .ok v.written
  settle : settleOrder env (ix.context env clock) ix v.order v.written = .ok l'

variable {ix : CreateEscrow K} {l l' : Chain K} {v : CreateEscrow.Values K}

theorem createEscrow_steps (h : createEscrow env clock ix l = .ok l') :
    ∃ v, CreateEscrow.Steps env clock ix l v l' := by
  simp only [createEscrow, bind_ok, requireMint_ok, requireSeeds_ok, requireFound_ok,
    requireThat_ok, loadOrder_ok, loadAssociatedToken_ok, exists_const] at h
  obtain ⟨_, resolver, order, loaded, maker, mintKnown, mint, seeds, orderToken,
    ⟨token, tokenProgram, tokenOwner, ataDerived⟩, derived, allocated, allocate, initialized, init,
    _, amount, notExpired, auctionBytes, auction, committed, proofGiven, hashlock, accepted, moved,
    transfer, share, shared, dstAmount, scaled, written, write, settle⟩ := h
  exact ⟨⟨order, orderToken, hashlock, share, dstAmount, auctionBytes, allocated, initialized,
    moved, written⟩, resolver, loaded, maker, mintKnown, mint, seeds, token, tokenProgram,
    tokenOwner, ataDerived, derived, allocate, init, amount, notExpired, auction, committed,
    proofGiven, accepted, transfer, shared, scaled, write, settle⟩

omit [DecidableEq K] in
/-- The hashlock in the seeds of the escrow is the one the escrow stores. -/
theorem acceptedHashlock_eq {order : Order K} {amount : U64} {proof : Option MerkleProof}
    {hashlock : Bytes32} (h : acceptedHashlock env order amount proof = .ok hashlock) :
    hashlock = getEscrowHashlock order.hashlock proof := by
  cases proof with
  | none => exact pure_ok.mp h
  | some proof =>
    simp only [acceptedHashlock, bind_ok, requireThat_ok, pure_ok, exists_const] at h
    obtain ⟨_, _, _, _, same⟩ := h
    exact same

/-- Whether the fill ends the order. -/
def CreateEscrow.Ends (ix : CreateEscrow K) (order : Order K) : Prop :=
  order.allowMultipleFills = false ∨ order.remainingAmount = ix.amount

/-- The order's data after the fill. -/
def CreateEscrow.Leaves (ix : CreateEscrow K) (order : Order K) (left : Option (Data K)) : Prop :=
  (ix.Ends order ∧ left = none) ∨
    (¬ ix.Ends order ∧ ∃ remainingAmount : U64,
      remainingAmount.toNat + ix.amount.toNat = order.remainingAmount.toNat ∧
      left = some (.order { order with remainingAmount }))

namespace CreateEscrow.Steps

theorem distinct (s : CreateEscrow.Steps env clock ix l v l') : ix.order ≠ ix.escrow := by
  intro same
  have unused := (createAccount_ok.mp s.allocate).1
  rw [← same, s.loaded] at unused
  cases unused

theorem order_signs (s : CreateEscrow.Steps env clock ix l v l') (taker : A ix.taker)
    (order : A ix.order) : ∀ k ∈ (ix.context env clock).callSigners env
      (some (Order.signerSeeds v.order)), A k := by
  refine callSigners_authorised s.seeds ?_ order
  simpa [CreateEscrow.context] using taker

/-- `create_escrow` acts with the authority of the taker, the order and the new
escrow. -/
theorem actions (s : CreateEscrow.Steps env clock ix l v l') (taker : A ix.taker)
    (order : A ix.order) (escrow : A ix.escrow) : Actions env.toHost A l l' := by
  have signed : ∀ k ∈ [ix.taker], A k := by simpa using taker
  have settled : Actions env.toHost A v.written l' := by
    have settle := s.settle
    unfold settleOrder at settle
    split at settle
    · obtain ⟨closed, close, finish⟩ := bind_ok.mp settle
      exact (closeAccount_actions (s.order_signs taker order) close).trans
        (closeProgram_actions order finish)
    · obtain ⟨_, _, write⟩ := bind_ok.mp settle
      exact writeProgram_actions order write
  exact ((((createAccount_actions signed s.allocate).trans
    (initIfNeeded_actions signed s.init)).trans
    (uniTransfer_actions (s.order_signs taker order) s.transfer)).trans
    (writeProgram_actions escrow s.write)).trans settled

theorem written_programAt (s : CreateEscrow.Steps env clock ix l v l') :
    v.written.programAt = Function.update l.programAt ix.escrow (some (.escrowSrc
      (ix.newEscrow env v.order v.hashlock v.dstAmount clock.unixTimestamp))) := by
  obtain ⟨account, init⟩ := initIfNeeded_ok s.init
  rw [writeProgram_programAt s.write, uniTransfer_programAt s.transfer, init.programAt,
    topUp_programAt (createAccount_ok.mp s.allocate).2]

/-- The program data after a fill: the new escrow, and the order closed or with
less remaining. -/
theorem programAt (s : CreateEscrow.Steps env clock ix l v l') :
    ∃ left, ix.Leaves v.order left ∧ l'.programAt =
      Function.update (Function.update l.programAt ix.escrow (some (.escrowSrc
        (ix.newEscrow env v.order v.hashlock v.dstAmount clock.unixTimestamp)))) ix.order left := by
  have settle := s.settle
  unfold settleOrder at settle
  split at settle
  · next ends =>
    obtain ⟨closed, close, finish⟩ := bind_ok.mp settle
    refine ⟨none, Or.inl ⟨ends, rfl⟩, ?_⟩
    rw [closeProgram_programAt finish, closeAccount_programAt close, s.written_programAt]
  · next continues =>
    obtain ⟨remaining, counted, write⟩ := bind_ok.mp settle
    refine ⟨_, Or.inr ⟨continues, remaining, minus_ok.mp counted, rfl⟩, ?_⟩
    rw [writeProgram_programAt write, s.written_programAt]

/-- The new escrow is stored at its address. -/
theorem escrow_programAt (s : CreateEscrow.Steps env clock ix l v l') :
    l'.programAt ix.escrow = some (.escrowSrc
      (ix.newEscrow env v.order v.hashlock v.dstAmount clock.unixTimestamp)) := by
  obtain ⟨left, _, programs⟩ := s.programAt
  rw [programs, Function.update_of_ne (Ne.symm s.distinct), Function.update_self]

/-- The order of the steps is the one stored at the address. -/
theorem order_eq {order : Order K} (s : CreateEscrow.Steps env clock ix l v l')
    (live : l.programAt ix.order = some (.order order)) : v.order = order := by
  have loaded := Ledger.programAt_eq_some.mpr s.loaded
  rw [live] at loaded
  exact (Data.order.inj (Option.some.inj loaded)).symm

/-- The order's token account is the one for its own mint. -/
theorem orderAta_eq (s : CreateEscrow.Steps env clock ix l v l') :
    ix.orderAta = env.associatedTokenAddress ix.order ix.tokenProgram v.order.token := by
  rw [← s.mint]
  exact s.ataDerived

/-- The two token accounts differ: the order owns one, the new escrow the other. -/
theorem ata_distinct (s : CreateEscrow.Steps env clock ix l v l') : ix.orderAta ≠ ix.escrowAta := by
  obtain ⟨account, init⟩ := initIfNeeded_ok s.init
  have data : v.allocated.data = l.data := topUp_data (createAccount_ok.mp s.allocate).2
  intro same
  have held : v.allocated.data ix.escrowAta = .token v.orderToken := by
    rw [data, ← same]
    exact s.token
  rcases init.existing with ⟨existing, _⟩ | ⟨unused, _⟩
  · rw [held] at existing
    have equal := AccountData.token.inj existing
    apply s.distinct
    rw [← s.tokenOwner, equal, init.ownerEq]
  · rw [held] at unused
    cases unused

end CreateEscrow.Steps

/-- What the fill takes out of the order's account. -/
def CreateEscrow.Values.taken (v : CreateEscrow.Values K) (ix : CreateEscrow K) : Nat :=
  amountToTransfer v.order ⟨ix.orderAta, v.orderToken⟩ ix.amount

/-- The token accounts after a fill that took `n` tokens. -/
structure CreateEscrow.Filled (env : Environment K) (ix : CreateEscrow K) (order : Order K)
    (orderToken : TokenAccount K) (n : Nat) (l l' : Chain K) : Prop where
  enough : n ≤ orderToken.amount
  derived : ix.escrowAta = env.associatedTokenAddress ix.escrow ix.tokenProgram ix.mint
  account : ∃ after, l'.data ix.escrowAta = .token after ∧ after.owner = ix.escrow ∧
    after.mint = ix.mint ∧ after.program = ix.tokenProgram ∧ n ≤ after.amount
  gained : l.tokens ix.escrowAta + n ≤ l'.tokens ix.escrowAta
  ended : ix.Ends order → l'.data ix.orderAta = .empty
  continued : ¬ ix.Ends order →
    l'.data ix.orderAta = .token { orderToken with amount := orderToken.amount - n } ∧
      l.lamports ix.orderAta ≤ l'.lamports ix.orderAta + n

/-- The escrow's token account before the transfer, possibly just created. -/
theorem CreateEscrow.Steps.moved_effect (s : CreateEscrow.Steps env clock ix l v l') :
    ∃ account, account.owner = ix.escrow ∧ account.mint = ix.mint ∧
      account.program = ix.tokenProgram ∧ l.tokens ix.escrowAta ≤ account.amount ∧
      v.initialized.data ix.escrowAta = .token account ∧
      ix.escrowAta = env.associatedTokenAddress ix.escrow ix.tokenProgram ix.mint ∧
      TokensMoved v.initialized v.moved ix.orderAta ix.escrowAta v.orderToken (v.taken ix) := by
  obtain ⟨account, init⟩ := initIfNeeded_ok s.init
  have data : v.allocated.data = l.data := topUp_data (createAccount_ok.mp s.allocate).2
  refine ⟨account, init.ownerEq, init.mintEq, init.programEq, ?_, init.loaded, init.derived, ?_⟩
  · rw [Ledger.tokens, ← data]
    rcases init.existing with ⟨existing, _⟩ | ⟨unused, _⟩
    · simp [existing, AccountData.tokens]
    · simp [unused, AccountData.tokens]
  · have loaded : v.initialized.data ix.orderAta = .token v.orderToken := by
      rw [init.others _ s.ata_distinct, data]
      exact s.token
    exact uniTransfer_moved s.ata_distinct loaded s.transfer

/-- Writing the escrow misses every token account, and the order holds none. -/
theorem CreateEscrow.Steps.written_token (s : CreateEscrow.Steps env clock ix l v l') {a : K}
    {token : TokenAccount K} (held : v.moved.data a = .token token) :
    v.written.data a = .token token ∧ a ≠ ix.order := by
  obtain ⟨free, written⟩ := writeProgram_ok.mp s.write
  have miss : a ≠ ix.escrow := by
    rintro rfl
    simp [Ledger.tokenAt, held] at free
  have kept : v.written.data a = .token token := by
    rw [written, Ledger.setData_data_other _ _ _ miss, held]
  have orderData : v.written.data ix.order = .program (.order v.order) := by
    rw [← Ledger.programAt_eq_some, s.written_programAt, Function.update_of_ne s.distinct,
      Ledger.programAt_eq_some]
    exact s.loaded
  exact ⟨kept, ne_of_program orderData kept⟩

/-- Settling the order touches no token account but the order's. -/
theorem CreateEscrow.Steps.settled_token (s : CreateEscrow.Steps env clock ix l v l') {a : K}
    {token : TokenAccount K} (held : v.moved.data a = .token token) (other : a ≠ ix.orderAta) :
    l'.data a = .token token := by
  obtain ⟨kept, missOrder⟩ := s.written_token held
  have settle := s.settle
  unfold settleOrder at settle
  split at settle
  · obtain ⟨closed, close, finish⟩ := bind_ok.mp settle
    obtain ⟨_, others, _⟩ := closeAccount_effect close
    obtain ⟨_, othersToo, _⟩ := closeProgram_effect finish
    rw [othersToo _ missOrder, others _ other, kept]
  · obtain ⟨remaining, _, write⟩ := bind_ok.mp settle
    obtain ⟨_, rfl⟩ := writeProgram_ok.mp write
    rw [Ledger.setData_data_other _ _ _ missOrder, kept]

/-- What the order's account pays before the order is settled are the lamports
that the tokens taken wrap. -/
theorem CreateEscrow.Steps.written_lamports (s : CreateEscrow.Steps env clock ix l v l') :
    l.lamports ix.orderAta ≤
      v.written.lamports ix.orderAta + v.orderToken.wrapped (v.taken ix) := by
  obtain ⟨account, _, _, _, _, _, _, moved⟩ := s.moved_effect
  have held : l.data ix.orderAta ≠ .empty := by simp [s.token]
  have data : v.allocated.data = l.data := topUp_data (createAccount_ok.mp s.allocate).2
  have kept := Nat.le_trans (topUp_kept (createAccount_ok.mp s.allocate).2 held)
    (initIfNeeded_kept s.init (by rw [data]; exact held))
  rw [(writeProgram_ok.mp s.write).2, Ledger.setData_lamports, moved.paid]
  exact kept

/-- Nor does it pay anything else in a fill that leaves the order. -/
theorem CreateEscrow.Steps.continued_lamports (s : CreateEscrow.Steps env clock ix l v l')
    (continues : ¬ ix.Ends v.order) :
    l.lamports ix.orderAta ≤ l'.lamports ix.orderAta + v.orderToken.wrapped (v.taken ix) := by
  have settle := s.settle
  unfold settleOrder at settle
  split at settle
  · next ends => exact absurd ends continues
  · obtain ⟨remaining, _, write⟩ := bind_ok.mp settle
    rw [(writeProgram_ok.mp write).2, Ledger.setData_lamports]
    exact s.written_lamports

theorem CreateEscrow.Steps.filled (s : CreateEscrow.Steps env clock ix l v l') :
    CreateEscrow.Filled env ix v.order v.orderToken (v.taken ix) l l' := by
  obtain ⟨account, owner, mint, program, before, loaded, derived, moved⟩ := s.moved_effect
  have escrowToken := s.settled_token (moved.credited account loaded) (Ne.symm s.ata_distinct)
  obtain ⟨orderToken, missOrder⟩ := s.written_token moved.debited
  have paid : l.lamports ix.orderAta ≤ v.written.lamports ix.orderAta + v.taken ix :=
    Nat.le_trans s.written_lamports (Nat.add_le_add_left (v.orderToken.wrapped_le _) _)
  have settle := s.settle
  unfold settleOrder at settle
  have final : (ix.Ends v.order → l'.data ix.orderAta = .empty) ∧ (¬ ix.Ends v.order →
      l'.data ix.orderAta = .token { v.orderToken with amount := v.orderToken.amount - v.taken ix } ∧
      l.lamports ix.orderAta ≤ l'.lamports ix.orderAta + v.taken ix) := by
    split at settle
    · next ends =>
      obtain ⟨closed, close, finish⟩ := bind_ok.mp settle
      obtain ⟨gone, _, _⟩ := closeAccount_effect close
      obtain ⟨_, kept, _⟩ := closeProgram_effect finish
      refine ⟨fun _ => ?_, fun continues => absurd ends continues⟩
      rw [kept _ missOrder, gone]
    · next continues =>
      obtain ⟨remaining, _, write⟩ := bind_ok.mp settle
      obtain ⟨_, rfl⟩ := writeProgram_ok.mp write
      refine ⟨fun ends => absurd ends continues, fun _ => ⟨?_, paid⟩⟩
      rw [Ledger.setData_data_other _ _ _ missOrder, orderToken]
  refine ⟨moved.enough, derived, ⟨_, escrowToken, owner, mint, program, Nat.le_add_left _ _⟩, ?_,
    final.1, final.2⟩
  rw [Ledger.tokens_of_token escrowToken]
  exact Nat.add_le_add_right before _

/-- The escrow's account ends with what it held, or started with, and what the
fill took. -/
theorem CreateEscrow.Steps.collateral (s : CreateEscrow.Steps env clock ix l v l')
    (notTaker : ix.escrowAta ≠ ix.taker) (notEscrow : ix.escrowAta ≠ ix.escrow) :
    ∃ after, l'.data ix.escrowAta = .token after ∧
      after.amount = env.opening l ix.escrow ix.tokenProgram ix.mint + v.taken ix := by
  obtain ⟨account, _, _, _, _, loaded, derived, moved⟩ := s.moved_effect
  have final := s.settled_token (moved.credited account loaded) (Ne.symm s.ata_distinct)
  have paid := (createAccount_ok.mp s.allocate).2
  have lamports := topUp_other paid notTaker notEscrow
  rw [derived] at lamports
  have opened := initIfNeeded_opening s.init loaded
  rw [Host.opening_congr (topUp_data paid) lamports] at opened
  exact ⟨_, final, congrArg (· + v.taken ix) opened⟩

/-- Until the order is settled only the taker pays, besides the order's account, and
no more than the rent of the new accounts. -/
theorem CreateEscrow.Steps.written_spent (s : CreateEscrow.Steps env clock ix l v l') {k : K}
    (notOrderAta : k ≠ ix.orderAta) :
    ∃ cost, cost ≤ env.minimumBalance (discriminatorBytes + EscrowSrc.initSpace) +
        env.minimumBalance (env.tokenAccountLen ix.mint) ∧
      (k ≠ ix.taker → cost = 0) ∧ l.lamports k ≤ v.written.lamports k + cost := by
  obtain ⟨_, _, _, _, _, _, _, moved⟩ := s.moved_effect
  have paid := (createAccount_ok.mp s.allocate).2
  obtain ⟨rent, bound, free, second⟩ := initIfNeeded_paid s.init k
  have third := moved.more k notOrderAta
  have written : v.written.lamports = v.moved.lamports := by
    rw [(writeProgram_ok.mp s.write).2, Ledger.setData_lamports]
  rw [written]
  by_cases taker : k = ix.taker
  · have first := topUp_spent paid k
    exact ⟨_, Nat.le_refl _, fun other => absurd taker other, by omega⟩
  · have first := topUp_more paid taker
    have none := free taker
    exact ⟨0, Nat.zero_le _, fun _ => rfl, by omega⟩

/-- Settling the order takes lamports from the order and its account only. -/
theorem CreateEscrow.Steps.settled_more (s : CreateEscrow.Steps env clock ix l v l') {k : K}
    (notOrder : k ≠ ix.order) (notOrderAta : k ≠ ix.orderAta) :
    v.written.lamports k ≤ l'.lamports k := by
  have settle := s.settle
  unfold settleOrder at settle
  split at settle
  · obtain ⟨closed, close, finish⟩ := bind_ok.mp settle
    exact Nat.le_trans (closeAccount_more close notOrderAta)
      ((closeProgram_effect finish).2.2 k notOrder)
  · obtain ⟨_, _, write⟩ := bind_ok.mp settle
    rw [(writeProgram_ok.mp write).2, Ledger.setData_lamports]

/-- Accounts of the order that are gone went with it. -/
theorem CreateEscrow.Steps.ends_of_empty (s : CreateEscrow.Steps env clock ix l v l')
    (gone : l'.data ix.order = .empty ∨ l'.data ix.orderAta = .empty) : ix.Ends v.order := by
  by_contra continues
  rcases gone with gone | gone
  · obtain ⟨left, ⟨ends, _⟩ | ⟨_, remaining, _, rfl⟩, programs⟩ := s.programAt
    · exact continues ends
    · have kept := congrFun programs ix.order
      rw [Function.update_self, Ledger.programAt_eq_some, gone] at kept
      cases kept
  · rw [(s.filled.continued continues).1] at gone
    cases gone

/-- An order that ends leaves no lamports behind, nor does its account. -/
theorem CreateEscrow.Steps.drained (s : CreateEscrow.Steps env clock ix l v l') (ends : ix.Ends v.order)
    (notOrder : ix.maker ≠ ix.order) (notAta : ix.maker ≠ ix.orderAta) :
    l'.lamports ix.order = 0 ∧ l'.lamports ix.orderAta = 0 := by
  have apart : ix.orderAta ≠ ix.order := ne_of_program s.loaded s.token
  have settle := s.settle
  unfold settleOrder at settle
  split at settle
  · obtain ⟨closed, close, finish⟩ := bind_ok.mp settle
    obtain ⟨_, _, emptied, _⟩ := closeAccount_effect close
    have posted := closeProgram_booked finish
    have atOrder := posted.account ix.order
    have atAta := posted.account ix.orderAta
    simp only [posted_cons, posted_nil, if_neg (Ne.symm notOrder), if_pos] at atOrder
    simp only [posted_cons, posted_nil, if_neg apart, if_neg (Ne.symm notAta)] at atAta
    omega
  · next continues => exact absurd ends continues

/-- The new escrow keeps the rent it was allocated with. -/
theorem CreateEscrow.Steps.escrow_rent (s : CreateEscrow.Steps env clock ix l v l')
    (notTaker : ix.escrow ≠ ix.taker) :
    env.minimumBalance (discriminatorBytes + EscrowSrc.initSpace) ≤ l'.lamports ix.escrow := by
  obtain ⟨unused, paid⟩ := createAccount_ok.mp s.allocate
  have funded := topUp_funded paid
  obtain ⟨rent, _, free, initialized⟩ := initIfNeeded_paid s.init ix.escrow
  obtain ⟨account, _, _, _, _, _, _, moved⟩ := s.moved_effect
  have notOrderAta : ix.escrow ≠ ix.orderAta := by
    intro same
    rw [same, s.token] at unused
    cases unused
  have transferred := moved.more ix.escrow notOrderAta
  have written : v.written.lamports = v.moved.lamports := by
    rw [(writeProgram_ok.mp s.write).2, Ledger.setData_lamports]
  have none := free notTaker
  have settled := s.settled_more (Ne.symm s.distinct) notOrderAta
  rw [written] at settled
  omega

/-- A fill changes the data of its escrow, its order and their token accounts only. -/
theorem CreateEscrow.Steps.others (s : CreateEscrow.Steps env clock ix l v l') {k : K}
    (notEscrow : k ≠ ix.escrow) (notEscrowAta : k ≠ ix.escrowAta) (notOrder : k ≠ ix.order)
    (notOrderAta : k ≠ ix.orderAta) : l'.data k = l.data k := by
  obtain ⟨_, _, _, _, _, _, _, moved⟩ := s.moved_effect
  obtain ⟨_, init⟩ := initIfNeeded_ok s.init
  have data : v.allocated.data = l.data := topUp_data (createAccount_ok.mp s.allocate).2
  have written : v.written.data k = l.data k := by
    rw [(writeProgram_ok.mp s.write).2, Ledger.setData_data_other _ _ _ notEscrow,
      moved.others k notOrderAta notEscrowAta, init.others k notEscrowAta, data]
  have settle := s.settle
  unfold settleOrder at settle
  split at settle
  · obtain ⟨closed, close, finish⟩ := bind_ok.mp settle
    rw [(closeProgram_effect finish).2.1 k notOrder, (closeAccount_effect close).2.1 k notOrderAta,
      written]
  · obtain ⟨_, _, write⟩ := bind_ok.mp settle
    rw [(writeProgram_ok.mp write).2, Ledger.setData_data_other _ _ _ notOrder, written]

/-- A fill that leaves the order empties no account. -/
theorem CreateEscrow.Steps.empty_before (s : CreateEscrow.Steps env clock ix l v l')
    (continues : ¬ ix.Ends v.order) {k : K} (empty : l'.data k = .empty) : l.data k = .empty := by
  by_cases isEscrow : k = ix.escrow
  · rw [isEscrow]
    exact (createAccount_ok.mp s.allocate).1
  have notEscrowAta : k ≠ ix.escrowAta := by
    rintro rfl
    obtain ⟨after, held, _⟩ := s.filled.account
    rw [held] at empty
    cases empty
  have notOrder : k ≠ ix.order := fun same => continues (s.ends_of_empty (Or.inl (same ▸ empty)))
  have notOrderAta : k ≠ ix.orderAta := fun same => continues (s.ends_of_empty (Or.inr (same ▸ empty)))
  exact (s.others isEscrow notEscrowAta notOrder notOrderAta).symm.trans empty

/-- Apart from the order and its token account only the taker pays, and no more than
the rent of the new accounts. -/
theorem CreateEscrow.Steps.spent (s : CreateEscrow.Steps env clock ix l v l') {k : K}
    (notOrder : k ≠ ix.order) (notOrderAta : k ≠ ix.orderAta) :
    ∃ cost, cost ≤ env.minimumBalance (discriminatorBytes + EscrowSrc.initSpace) +
        env.minimumBalance (env.tokenAccountLen ix.mint) ∧
      (k ≠ ix.taker → cost = 0) ∧ l.lamports k ≤ l'.lamports k + cost := by
  obtain ⟨cost, bound, free, written⟩ := s.written_spent notOrderAta
  have settled := s.settled_more notOrder notOrderAta
  exact ⟨cost, bound, free, by omega⟩

/-- An order that a fill leaves keeps its lamports. -/
theorem CreateEscrow.Steps.order_kept (s : CreateEscrow.Steps env clock ix l v l')
    (continues : ¬ ix.Ends v.order) (notTaker : ix.order ≠ ix.taker) :
    l.lamports ix.order ≤ l'.lamports ix.order := by
  have notOrderAta : ix.order ≠ ix.orderAta := ne_of_program s.loaded s.token |>.symm
  obtain ⟨cost, _, free, written⟩ := s.written_spent notOrderAta
  have none := free notTaker
  have settle := s.settle
  unfold settleOrder at settle
  split at settle
  · next ends => exact absurd ends continues
  · obtain ⟨_, _, write⟩ := bind_ok.mp settle
    rw [(writeProgram_ok.mp write).2, Ledger.setData_lamports]
    omega

end CrossChainEscrow.Source.Src
