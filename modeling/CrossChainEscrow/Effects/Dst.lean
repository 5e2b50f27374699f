import CrossChainEscrow.Effects.Common
import CrossChainEscrow.Source.DstProgram

/-!
# What the destination-chain instructions do

Creation, the two withdrawals, which share a call record, and the cancellation.
-/

namespace CrossChainEscrow.Source.Dst
open Library.Words Library.Bytes Library.Accounts Whitelist

variable {K : Type} [DecidableEq K] {env : Environment K} {clock : Clock} {A : K → Prop}
  {l l' : Chain K}

/-! ## Creation -/

structure Create.Steps (env : Environment K) (clock : Clock) (ix : Create K)
    (l allocated initialized funded l' : Chain K) : Prop where
  mintKnown : (env.mintProgram ix.mint).isSome = true
  creatorToken : ∀ key ∈ ix.creatorAta, ∃ account, l.data key = .token account ∧
    account.program = ix.tokenProgram ∧ account.owner = ix.creator ∧
    key = env.associatedTokenAddress ix.creator ix.tokenProgram ix.mint
  derived : ix.escrow = (env.findProgramAddress env.dstId ix.seeds).1
  allocate : (createAccount env.toHost [ix.creator] ix.creator ix.escrow
    (discriminatorBytes + EscrowDst.initSpace) l : Result _) = .ok allocated
  init : (initIfNeeded env.toHost [ix.creator] ix.creator ix.escrowAta ix.escrow ix.tokenProgram
    ix.mint allocated : Result _) = .ok initialized
  cancellation : ∃ start, (ix.updatedTimelocks clock.unixTimestamp).get .dstCancellation = .ok start ∧
    start ≤ ix.srcCancellationTimestamp
  positive : ix.amount ≠ 0 ∧ ix.safetyDeposit ≠ 0
  deposit : ix.safetyDeposit.toNat ≤
    env.minimumBalance (EscrowDst.initSpace + discriminatorBytes)
  native : ix.mint = env.NATIVE_MINT ∨ ix.assetIsNative = false
  fund : fundEscrow env ⟨env.dstId, [ix.creator], clock⟩ ix initialized = .ok funded
  write : (writeProgram ix.escrow (.escrowDst (ix.newEscrow env clock.unixTimestamp)) funded :
    Result _) = .ok l'

theorem create_steps {ix : Create K} (h : create env clock ix l = .ok l') :
    ∃ allocated initialized funded, Create.Steps env clock ix l allocated initialized funded l' := by
  simp only [create, bind_ok, requireMint_ok, checkOptionalToken_ok, requireFound_ok,
    requireThat_ok, exists_const] at h
  obtain ⟨mintKnown, creatorToken, derived, allocated, allocate, initialized, init, start, reached,
    before, positive, deposit, native, funded, fund, write⟩ := h
  exact ⟨allocated, initialized, funded, mintKnown, creatorToken, derived, allocate, init,
    ⟨start, reached, before⟩, positive, deposit, native, fund, write⟩

/-- The creator's account is another one than the escrow's, and stays until the
transfer. -/
theorem Create.Steps.source {ix : Create K} {allocated initialized funded : Chain K}
    (steps : Create.Steps env clock ix l allocated initialized funded l')
    (other : ix.creator ≠ ix.escrow) : ∀ key ∈ ix.creatorAta, key ≠ ix.escrowAta ∧
      ∃ source, l.data key = .token source ∧ initialized.data key = .token source := by
  intro key given
  obtain ⟨source, held, _, owner, _⟩ := steps.creatorToken key given
  obtain ⟨distinct, kept⟩ := opening_kept steps.allocate steps.init held (owner ▸ other)
  exact ⟨distinct, source, held, kept⟩

theorem fundEscrow_actions {ctx : Context K} {ix : Create K} (signed : ∀ k ∈ ctx.signers, A k)
    (h : fundEscrow env ctx ix l = .ok l') : Actions env.toHost A l l' := by
  have unseeded : ∀ k ∈ ctx.callSigners env none, A k := signed
  unfold fundEscrow at h
  split at h
  · exact uniTransfer_actions unseeded h
  · obtain ⟨_, _, transfer⟩ := bind_ok.mp h
    exact uniTransfer_actions unseeded transfer

theorem fundEscrow_programAt {ctx : Context K} {ix : Create K}
    (h : fundEscrow env ctx ix l = .ok l') : l'.programAt = l.programAt := by
  unfold fundEscrow at h
  split at h
  · exact uniTransfer_programAt h
  · obtain ⟨_, _, transfer⟩ := bind_ok.mp h
    exact uniTransfer_programAt transfer

theorem create_actions {ix : Create K} (creator : A ix.creator) (escrow : A ix.escrow)
    (h : create env clock ix l = .ok l') : Actions env.toHost A l l' := by
  obtain ⟨allocated, initialized, funded, steps⟩ := create_steps h
  have signed : ∀ k ∈ [ix.creator], A k := by simpa using creator
  exact (((createAccount_actions signed steps.allocate).trans
    (initIfNeeded_actions signed steps.init)).trans (fundEscrow_actions signed steps.fund)).trans
    (writeProgram_actions escrow steps.write)

theorem create_programAt {ix : Create K} (h : create env clock ix l = .ok l') :
    l.data ix.escrow = .empty ∧ l'.programAt = Function.update l.programAt ix.escrow
      (some (.escrowDst (ix.newEscrow env clock.unixTimestamp))) := by
  obtain ⟨allocated, initialized, funded, steps⟩ := create_steps h
  obtain ⟨unused, paid⟩ := createAccount_ok.mp steps.allocate
  obtain ⟨account, init⟩ := initIfNeeded_ok steps.init
  refine ⟨unused, ?_⟩
  rw [writeProgram_programAt steps.write, fundEscrow_programAt steps.fund, init.programAt,
    topUp_programAt paid]

/-- The escrow and its token account after `create`. -/
structure Create.Funded (env : Environment K) (ix : Create K) (l' : Chain K) : Prop where
  derived : ix.escrowAta = env.associatedTokenAddress ix.escrow ix.tokenProgram ix.mint
  account : ∃ after, l'.data ix.escrowAta = .token after ∧ after.mint = ix.mint ∧
    after.program = ix.tokenProgram
  rent : env.minimumBalance (discriminatorBytes + EscrowDst.initSpace) ≤ l'.lamports ix.escrow
  asset : ix.amount.toNat ≤
    if ix.assetIsNative = true then l'.lamports ix.escrowAta else l'.tokens ix.escrowAta

theorem fundEscrow_funded {ctx : Context K} {ix : Create K} {before : TokenAccount K}
    (loaded : l.data ix.escrowAta = .token before) (unused : l.data ix.escrow = .empty)
    (notCreator : ix.escrow ≠ ix.creator ∧ ix.escrowAta ≠ ix.creator)
    (creatorToken : ∀ key ∈ ix.creatorAta, key ≠ ix.escrowAta ∧ ∃ source, l.data key = .token source)
    (h : fundEscrow env ctx ix l = .ok l') :
    (∃ amount, l'.data ix.escrowAta = .token { before with amount }) ∧
      l.lamports ix.escrow ≤ l'.lamports ix.escrow ∧
      ix.amount.toNat ≤
        if ix.assetIsNative = true then l'.lamports ix.escrowAta else l'.tokens ix.escrowAta := by
  unfold fundEscrow at h
  split at h
  · next native =>
    obtain ⟨_, rfl⟩ := uniTransfer_native h
    refine ⟨⟨before.amount, loaded⟩, le_moveLamports _ _ notCreator.1, ?_⟩
    rw [if_pos native, Ledger.move_lamports, moveLamports_dst _ _ (Ne.symm notCreator.2)]
    exact Nat.le_add_left _ _
  · next plain =>
    obtain ⟨creatorAta, given, transfer⟩ := bind_ok.mp h
    rw [orFault_ok] at given
    obtain ⟨distinct, source, held⟩ := creatorToken creatorAta given
    have moved := uniTransfer_moved distinct held transfer
    have notSource : ix.escrow ≠ creatorAta := by
      rintro same
      rw [same, held] at unused
      cases unused
    refine ⟨⟨_, moved.credited before loaded⟩, moved.more _ notSource, ?_⟩
    rw [if_neg plain, moved.received]
    exact Nat.le_add_left _ _

theorem create_funded {ix : Create K} (notCreator : ix.escrow ≠ ix.creator)
    (ataNotCreator : ix.escrowAta ≠ ix.creator) (distinct : ix.escrow ≠ ix.escrowAta)
    (h : create env clock ix l = .ok l') : Create.Funded env ix l' := by
  obtain ⟨allocated, initialized, funded, steps⟩ := create_steps h
  obtain ⟨unused, paid⟩ := createAccount_ok.mp steps.allocate
  obtain ⟨before, init⟩ := initIfNeeded_ok steps.init
  have data : allocated.data = l.data := topUp_data paid
  have rent := topUp_funded paid
  obtain ⟨cost, _, free, kept⟩ := initIfNeeded_paid steps.init ix.escrow
  have creatorToken : ∀ key ∈ ix.creatorAta,
      key ≠ ix.escrowAta ∧ ∃ source, initialized.data key = .token source := by
    intro key given
    obtain ⟨other, source, _, kept⟩ := steps.source (Ne.symm notCreator) key given
    exact ⟨other, source, kept⟩
  have empty : initialized.data ix.escrow = .empty := by
    rw [init.others _ distinct, data, unused]
  obtain ⟨⟨amount, loaded⟩, more, asset⟩ := fundEscrow_funded init.loaded empty
    ⟨notCreator, ataNotCreator⟩ creatorToken steps.fund
  obtain ⟨_, rfl⟩ := writeProgram_ok.mp steps.write
  have token := Ledger.setData_data_other funded ix.escrow
    (.program (.escrowDst (ix.newEscrow env clock.unixTimestamp))) (Ne.symm distinct)
  have none := free notCreator
  refine ⟨init.derived, ⟨_, token.trans loaded, init.mintEq, init.programEq⟩, ?_, ?_⟩
  · rw [Ledger.setData_lamports]
    omega
  · rw [Ledger.setData_lamports, Ledger.tokens_congr token]
    exact asset

/-- The most lamports that opening an escrow costs: the rents of both accounts, and the
amount of a native one. -/
def Create.cost (env : Environment K) (ix : Create K) : Nat :=
  env.minimumBalance (discriminatorBytes + EscrowDst.initSpace) +
    env.minimumBalance (env.tokenAccountLen ix.mint) + nativeCost ix.assetIsNative ix.amount

theorem Create.Steps.spent {ix : Create K} {allocated initialized funded : Chain K}
    (steps : Create.Steps env clock ix l allocated initialized funded l')
    (other : ix.creator ≠ ix.escrow) (plain : l.data ix.creator = .empty) :
    l.lamports ix.creator ≤ l'.lamports ix.creator + ix.cost env := by
  have opening := opening_spent steps.allocate steps.init ix.creator
  have funding : initialized.lamports ix.creator ≤
      funded.lamports ix.creator + nativeCost ix.assetIsNative ix.amount := by
    have fund := steps.fund
    unfold fundEscrow at fund
    split at fund
    · next native =>
      rw [nativeCost, if_pos native]
      exact uniTransfer_native_spent fund ix.creator
    · obtain ⟨key, given, transfer⟩ := bind_ok.mp fund
      rw [orFault_ok] at given
      obtain ⟨distinct, source, held, kept⟩ := steps.source other key given
      have notKey : ix.creator ≠ key := by
        rintro rfl
        rw [plain] at held
        cases held
      exact Nat.le_add_right_of_le ((uniTransfer_moved distinct kept transfer).more _ notKey)
  rw [(writeProgram_ok.mp steps.write).2, Ledger.setData_lamports]
  unfold Create.cost
  omega

/-! ## Withdrawals -/

structure WithdrawCall (K : Type) where
  opens : Stage
  payer : K
  creator : K
  recipient : K
  mint : K
  escrow : K
  escrowAta : K
  recipientAta : Option K
  tokenProgram : TokenProgram
  secret : Bytes32

def Withdraw.call (ix : Withdraw K) : WithdrawCall K :=
  ⟨.dstWithdrawal, ix.creator, ix.creator, ix.recipient, ix.mint, ix.escrow, ix.escrowAta,
    ix.recipientAta, ix.tokenProgram, ix.secret⟩

def PublicWithdraw.call (ix : PublicWithdraw K) : WithdrawCall K :=
  ⟨.dstPublicWithdrawal, ix.payer, ix.creator, ix.recipient, ix.mint, ix.escrow, ix.escrowAta,
    ix.recipientAta, ix.tokenProgram, ix.secret⟩

structure WithdrawCall.Steps (env : Environment K) (clock : Clock) (c : WithdrawCall K)
    (escrow : EscrowDst K) (escrowToken : TokenAccount K) (l initialized paid settled l' : Chain K) :
    Prop where
  loaded : l.data c.escrow = .program (.escrowDst escrow)
  creator : c.creator = escrow.creator
  recipient : c.recipient = escrow.recipient
  mintKnown : (env.mintProgram c.mint).isSome = true
  mint : c.mint = escrow.token
  seeds : env.createProgramAddress env.dstId escrow.seeds escrow.bump = some c.escrow
  token : l.data c.escrowAta = .token escrowToken
  tokenProgram : escrowToken.program = c.tokenProgram
  tokenOwner : escrowToken.owner = c.escrow
  ataDerived : c.escrowAta = env.associatedTokenAddress c.escrow c.tokenProgram c.mint
  init : initRecipientAta env [c.payer] c.payer c.recipientAta c.recipient c.tokenProgram c.mint l
    = .ok initialized
  window : requireWindow clock.unixTimestamp escrow.timelocks.timelocks c.opens .dstCancellation
    = .ok ()
  secret : hashv env [c.secret.1] = escrow.hashlock
  payout : processPayout env ⟨env.dstId, [c.payer], clock⟩ c.mint escrow.assetIsNative
    escrow.amount c.escrow ⟨c.escrowAta, escrowToken⟩ c.recipient c.recipientAta c.creator
    ⟨escrow.seeds, escrow.bump⟩ c.tokenProgram initialized = .ok paid
  deposit : distributeSafetyDeposit c.escrow c.creator c.payer escrow.safetyDeposit paid
    = .ok settled
  close : (closeProgram c.escrow c.creator settled : Result _) = .ok l'

theorem withdraw_steps {ix : Withdraw K} (h : withdraw env clock ix l = .ok l') :
    ∃ escrow escrowToken initialized paid settled,
      WithdrawCall.Steps env clock ix.call escrow escrowToken l initialized paid settled l' := by
  simp only [withdraw, utilsWithdraw, bind_ok, requireMint_ok, requireSeeds_ok, requireThat_ok,
    loadEscrowDst_ok, loadAssociatedToken_ok, exists_const] at h
  obtain ⟨escrow, loaded, creator, recipient, mintKnown, mint, seeds, escrowToken,
    ⟨token, tokenProgram, tokenOwner, ataDerived⟩, initialized, init, _, window, settled,
    ⟨secret, paid, payout, deposit⟩, close⟩ := h
  exact ⟨escrow, escrowToken, initialized, paid, settled, loaded, creator, recipient, mintKnown,
    mint, seeds, token, tokenProgram, tokenOwner, ataDerived, init, window, secret, payout, deposit,
    close⟩

theorem publicWithdraw_steps {ix : PublicWithdraw K}
    (h : publicWithdraw env clock ix l = .ok l') :
    requireResolverAccess env env.dstId ix.payer ix.resolverAccess l = .ok () ∧
    ∃ escrow escrowToken initialized paid settled,
      WithdrawCall.Steps env clock ix.call escrow escrowToken l initialized paid settled l' := by
  simp only [publicWithdraw, utilsWithdraw, bind_ok, requireMint_ok, requireSeeds_ok,
    requireThat_ok, loadEscrowDst_ok, loadAssociatedToken_ok, exists_const] at h
  obtain ⟨escrow, loaded, creator, recipient, _, resolver, mintKnown, mint, seeds, escrowToken,
    ⟨token, tokenProgram, tokenOwner, ataDerived⟩, initialized, init, _, window, settled,
    ⟨secret, paid, payout, deposit⟩, close⟩ := h
  exact ⟨resolver, escrow, escrowToken, initialized, paid, settled, loaded, creator, recipient,
    mintKnown, mint, seeds, token, tokenProgram, tokenOwner, ataDerived, init, window, secret,
    payout, deposit, close⟩

/-- Creating the recipient's account leaves every other account's data, takes no
tokens from anyone, and costs the payer at most the rent of the account. -/
theorem initRecipientAta_effect {signers : List K} {payer recipient mint : K}
    {recipientAta : Option K} {program : TokenProgram}
    (h : initRecipientAta env signers payer recipientAta recipient program mint l = .ok l') :
    l'.programAt = l.programAt ∧ (∀ a, l.data a ≠ .empty → l'.data a = l.data a) ∧
      (∀ ata ∈ recipientAta, ∃ account, l'.data ata = .token account ∧ account.owner = recipient ∧
        ata = env.associatedTokenAddress recipient program mint) ∧
      (∀ a, l.tokens a ≤ l'.tokens a) ∧
      ∀ a, ∃ rent, rent ≤ env.minimumBalance (env.tokenAccountLen mint) ∧ (a ≠ payer → rent = 0) ∧
        l.lamports a ≤ l'.lamports a + rent := by
  cases recipientAta with
  | none =>
    obtain rfl : l' = l := pure_ok.mp h
    exact ⟨rfl, fun _ _ => rfl, by simp, fun _ => Nat.le_refl _,
      fun _ => ⟨0, Nat.zero_le _, fun _ => rfl, Nat.le_refl _⟩⟩
  | some ata =>
    unfold initRecipientAta at h
    obtain ⟨account, init⟩ := initIfNeeded_ok h
    have keptData : ∀ a, l.data a ≠ .empty → l'.data a = l.data a := by
      intro a held
      rcases init.existing with ⟨_, same⟩ | ⟨unused, _⟩
      · rw [same]
      · exact init.others a (fun equal => held (equal ▸ unused))
    refine ⟨init.programAt, keptData, ?_, fun a => ?_, fun a => ?_⟩
    · intro key given
      obtain rfl := Option.mem_some.mp given
      exact ⟨account, init.loaded, init.ownerEq, init.derived⟩
    · by_cases held : l.data a = .empty
      · simp [Ledger.tokens, held, AccountData.tokens]
      · rw [Ledger.tokens_congr (keptData a held)]
    · exact initIfNeeded_paid h a

theorem initRecipientAta_actions {signers : List K} {payer recipient mint : K}
    {recipientAta : Option K} {program : TokenProgram} (signed : ∀ k ∈ signers, A k)
    (h : initRecipientAta env signers payer recipientAta recipient program mint l = .ok l') :
    Actions env.toHost A l l' := by
  cases recipientAta with
  | none =>
    obtain rfl : l' = l := pure_ok.mp h
    exact .refl
  | some ata => exact initIfNeeded_actions signed h

namespace WithdrawCall.Steps
variable {c : WithdrawCall K} {escrow : EscrowDst K} {escrowToken : TokenAccount K}
  {initialized paid settled : Chain K}

theorem actions (s : WithdrawCall.Steps env clock c escrow escrowToken l initialized paid settled l')
    (payer : A c.payer) (named : A c.escrow) : Actions env.toHost A l l' := by
  have payers : ∀ k ∈ [c.payer], A k := by simpa using payer
  have signed : ∀ k ∈ (⟨env.dstId, [c.payer], clock⟩ : Context K).callSigners env
      (some ⟨escrow.seeds, escrow.bump⟩), A k :=
    callSigners_authorised s.seeds payers named
  exact (((initRecipientAta_actions payers s.init).trans
    (processPayout_actions signed named s.payout)).trans
    (distributeSafetyDeposit_actions named s.deposit)).trans (closeProgram_actions named s.close)

theorem programAt
    (s : WithdrawCall.Steps env clock c escrow escrowToken l initialized paid settled l') :
    l'.programAt = Function.update l.programAt c.escrow none := by
  obtain ⟨_, _, programs, _⟩ := finish_effect s.deposit s.close
  rw [programs, processPayout_programAt s.payout, (initRecipientAta_effect s.init).1]

/-- The token account is closed, and nothing is left of the escrow. -/
theorem closed
    (s : WithdrawCall.Steps env clock c escrow escrowToken l initialized paid settled l') :
    l'.data c.escrowAta = .empty ∧ l'.lamports c.escrow = 0 := by
  obtain ⟨_, kept, _⟩ := finish_effect s.deposit s.close
  have ataOther : c.escrowAta ≠ c.escrow := by
    intro same
    have token := s.token
    rw [same, s.loaded] at token
    cases token
  obtain ⟨_, _, distinct, rfl⟩ := closeProgram_ok.mp s.close
  refine ⟨(kept _ ataOther).trans (processPayout_closed s.payout), ?_⟩
  rw [Ledger.setData_lamports, Ledger.move_lamports, moveLamports_src _ _ distinct, Nat.sub_self]

/-- The recipient's account receives all tokens of an escrow that is not native. -/
theorem received
    (s : WithdrawCall.Steps env clock c escrow escrowToken l initialized paid settled l')
    (distinct : c.recipient ≠ c.escrow) (plain : escrow.assetIsNative = false) :
    l.tokens (env.associatedTokenAddress c.recipient c.tokenProgram c.mint) +
        l.tokens c.escrowAta ≤
      l'.tokens (env.associatedTokenAddress c.recipient c.tokenProgram c.mint) := by
  obtain ⟨_, kept, _, _⟩ := finish_effect s.deposit s.close
  obtain ⟨programs, keptData, created, more, _⟩ := initRecipientAta_effect s.init
  have payout := s.payout
  rw [plain] at payout
  have token : initialized.data c.escrowAta = .token escrowToken := by
    rw [keptData _ (by simp [s.token]), s.token]
  have program : initialized.data c.escrow = .program (.escrowDst escrow) := by
    rw [keptData _ (by simp [s.loaded]), s.loaded]
  obtain ⟨other, delivered⟩ := processPayout_delivered distinct program token s.tokenOwner
    created payout
  have grown := more (env.associatedTokenAddress c.recipient c.tokenProgram c.mint)
  rw [Ledger.tokens_congr (kept _ other), delivered, Ledger.tokens_of_token s.token]
  dsimp only
  rw [Ledger.tokens_of_token token]
  omega

/-- The recipient of a native escrow receives its amount in lamports, and the
deposit with it if it signs for another creator; whoever signs may have paid for a
token account first. -/
theorem receivedLamports
    (s : WithdrawCall.Steps env clock c escrow escrowToken l initialized paid settled l')
    (distinct : c.recipient ≠ c.escrow) (native : escrow.assetIsNative = true) :
    ∃ rent, rent ≤ env.minimumBalance (env.tokenAccountLen c.mint) ∧
      (c.recipient ≠ c.payer → rent = 0) ∧
      (if c.recipient = c.escrowAta then 0 else l.lamports c.recipient) + escrow.amount.toNat +
        (if c.recipient = c.payer ∧ c.creator ≠ c.payer then escrow.safetyDeposit.toNat else 0) ≤
        l'.lamports c.recipient + rent := by
  obtain ⟨_, _, _, more⟩ := finish_effect s.deposit s.close
  obtain ⟨_, _, closed⟩ := closeProgram_effect s.close
  obtain ⟨_, _, _, _, lamports⟩ := initRecipientAta_effect s.init
  obtain ⟨rent, bound, free, kept⟩ := lamports c.recipient
  have payout := s.payout
  rw [native] at payout
  have received := (processPayout_native payout).received distinct
  have start : (if c.recipient = c.escrowAta then 0 else l.lamports c.recipient) +
      escrow.amount.toNat ≤ paid.lamports c.recipient + rent := by
    split at received
    · next same =>
      rw [if_pos same]
      omega
    · next other =>
      rw [if_neg other]
      omega
  refine ⟨rent, bound, free, ?_⟩
  by_cases deposited : c.recipient = c.payer ∧ c.creator ≠ c.payer
  · have given := distributeSafetyDeposit_received s.deposit (deposited.1 ▸ distinct)
    rw [if_neg deposited.2, ← deposited.1] at given
    have final := closed _ distinct
    rw [if_pos deposited]
    omega
  · have final := more _ distinct
    rw [if_neg deposited]
    omega

end WithdrawCall.Steps

/-! ## Cancellation -/

structure Cancel.Steps (env : Environment K) (clock : Clock) (ix : Cancel K)
    (escrow : EscrowDst K) (escrowToken : TokenAccount K) (l paid l' : Chain K) : Prop where
  loaded : l.data ix.escrow = .program (.escrowDst escrow)
  creator : ix.creator = escrow.creator
  mintKnown : (env.mintProgram ix.mint).isSome = true
  mint : ix.mint = escrow.token
  seeds : env.createProgramAddress env.dstId escrow.seeds escrow.bump = some ix.escrow
  token : l.data ix.escrowAta = .token escrowToken
  tokenProgram : escrowToken.program = ix.tokenProgram
  tokenOwner : escrowToken.owner = ix.escrow
  ataDerived : ix.escrowAta = env.associatedTokenAddress ix.escrow ix.tokenProgram ix.mint
  creatorToken : ∀ key ∈ ix.creatorAta, ∃ account, l.data key = .token account ∧
    account.program = ix.tokenProgram ∧ account.owner = ix.creator ∧
    key = env.associatedTokenAddress ix.creator ix.tokenProgram ix.mint
  reached : requireReached clock.unixTimestamp escrow.timelocks.timelocks .dstCancellation = .ok ()
  payout : processPayout env ⟨env.dstId, [ix.creator], clock⟩ ix.mint escrow.assetIsNative
    escrow.amount ix.escrow ⟨ix.escrowAta, escrowToken⟩ ix.creator ix.creatorAta ix.creator
    ⟨escrow.seeds, escrow.bump⟩ ix.tokenProgram l = .ok paid
  close : (closeProgram ix.escrow ix.creator paid : Result _) = .ok l'

theorem cancel_steps {ix : Cancel K} (h : cancel env clock ix l = .ok l') :
    ∃ escrow escrowToken paid, Cancel.Steps env clock ix escrow escrowToken l paid l' := by
  simp only [cancel, bind_ok, requireMint_ok, requireSeeds_ok, requireThat_ok,
    checkOptionalToken_ok, loadEscrowDst_ok, loadAssociatedToken_ok, exists_const] at h
  obtain ⟨escrow, loaded, creator, mintKnown, mint, seeds, escrowToken,
    ⟨token, tokenProgram, tokenOwner, ataDerived⟩, creatorToken, _, reached, paid, payout,
    close⟩ := h
  exact ⟨escrow, escrowToken, paid, loaded, creator, mintKnown, mint, seeds, token, tokenProgram,
    tokenOwner, ataDerived, creatorToken, reached, payout, close⟩

namespace Cancel.Steps
variable {ix : Cancel K} {escrow : EscrowDst K} {escrowToken : TokenAccount K} {paid : Chain K}

theorem actions (s : Cancel.Steps env clock ix escrow escrowToken l paid l')
    (creator : A ix.creator) (named : A ix.escrow) : Actions env.toHost A l l' := by
  have signed : ∀ k ∈ (⟨env.dstId, [ix.creator], clock⟩ : Context K).callSigners env
      (some ⟨escrow.seeds, escrow.bump⟩), A k :=
    callSigners_authorised s.seeds (by simpa using creator) named
  exact (processPayout_actions signed named s.payout).trans (closeProgram_actions named s.close)

theorem programAt (s : Cancel.Steps env clock ix escrow escrowToken l paid l') :
    l'.programAt = Function.update l.programAt ix.escrow none := by
  rw [closeProgram_programAt s.close, processPayout_programAt s.payout]

/-- The creator gets the tokens back. -/
theorem received (s : Cancel.Steps env clock ix escrow escrowToken l paid l')
    (distinct : ix.creator ≠ ix.escrow) (plain : escrow.assetIsNative = false) :
    l'.tokens (env.associatedTokenAddress ix.creator ix.tokenProgram ix.mint) =
      l.tokens (env.associatedTokenAddress ix.creator ix.tokenProgram ix.mint) +
        l.tokens ix.escrowAta := by
  obtain ⟨_, kept, _⟩ := closeProgram_effect s.close
  have payout := s.payout
  rw [plain] at payout
  have creatorToken : ∀ key ∈ ix.creatorAta, ∃ account, l.data key = .token account ∧
      account.owner = ix.creator ∧
      key = env.associatedTokenAddress ix.creator ix.tokenProgram ix.mint := by
    intro key given
    obtain ⟨account, held, _, owner, derived⟩ := s.creatorToken key given
    exact ⟨account, held, owner, derived⟩
  obtain ⟨other, delivered⟩ := processPayout_delivered distinct s.loaded s.token s.tokenOwner
    creatorToken payout
  rw [Ledger.tokens_congr (kept _ other), delivered]

/-- The creator gets the amount of a native escrow back in lamports. -/
theorem receivedLamports (s : Cancel.Steps env clock ix escrow escrowToken l paid l')
    (distinct : ix.creator ≠ ix.escrow) (other : ix.creator ≠ ix.escrowAta)
    (native : escrow.assetIsNative = true) :
    l.lamports ix.creator + escrow.amount.toNat ≤ l'.lamports ix.creator := by
  obtain ⟨_, _, more⟩ := closeProgram_effect s.close
  have payout := s.payout
  rw [native] at payout
  have received := (processPayout_native payout).received distinct
  rw [if_neg other] at received
  exact Nat.le_trans received (more _ distinct)

end Cancel.Steps

end CrossChainEscrow.Source.Dst
