import CrossChainEscrow.Effects.Common
import CrossChainEscrow.Source.SrcProgram

/-!
# What `create` does

`Create.Steps` unfolds a successful call into its checks and its intermediate
ledgers; the lemmas below it say what the call does to program data and to the
order's token account.
-/

namespace CrossChainEscrow.Source.Src
open Library.Words Library.Bytes Library.Accounts Whitelist

variable {K : Type} [DecidableEq K] {env : Environment K} {clock : Clock} {A : K → Prop}

def Create.context (env : Environment K) (clock : Clock) (ix : Create K) : Context K :=
  ⟨env.srcId, [ix.creator], clock⟩

structure Create.Steps (env : Environment K) (clock : Clock) (ix : Create K)
    (l allocated initialized funded l' : Chain K) : Prop where
  mintKnown : (env.mintProgram ix.mint).isSome = true
  creatorToken : ∀ key ∈ ix.creatorAta, ∃ account, l.data key = .token account ∧
    account.program = ix.tokenProgram ∧ account.owner = ix.creator ∧
    key = env.associatedTokenAddress ix.creator ix.tokenProgram ix.mint
  derived : ix.order =
    (env.findProgramAddress env.srcId (orderSeeds (getOrderHash env ix.params))).1
  allocate : (createAccount env.toHost [ix.creator] ix.creator ix.order
    (discriminatorBytes + Order.initSpace) l : Result _) = .ok allocated
  init : (initIfNeeded env.toHost [ix.creator] ix.creator ix.orderAta ix.order ix.tokenProgram
    ix.mint allocated : Result _) = .ok initialized
  premium : ix.maxCancellationPremium.toNat ≤ initialized.lamports ix.orderAta
  parts : ix.allowMultipleFills = true → u16FromBeBytes ix.hashlock > 1
  notExpired : clock.unixTimestamp < ix.expirationTime
  positive : ix.amount ≠ 0 ∧ ix.safetyDeposit ≠ 0
  deposit : ix.safetyDeposit.toNat ≤
    env.minimumBalance (EscrowSrc.initSpace + discriminatorBytes)
  native : ix.mint = env.NATIVE_MINT ∨ ix.assetIsNative = false
  fund : fundOrder env (ix.context env clock) ix initialized = .ok funded
  write : (writeProgram ix.order (.order (ix.newOrder env clock.unixTimestamp)) funded : Result _)
    = .ok l'

variable {ix : Create K} {l allocated initialized funded l' : Chain K}

theorem create_steps (h : create env clock ix l = .ok l') :
    ∃ allocated initialized funded, Create.Steps env clock ix l allocated initialized funded l' := by
  simp only [create, bind_ok, requireMint_ok, checkOptionalToken_ok, requireFound_ok,
    requireThat_ok, exists_const] at h
  obtain ⟨mintKnown, creatorToken, derived, allocated, allocate, initialized, init, premium, parts,
    notExpired, positive, deposit, native, funded, fund, write⟩ := h
  exact ⟨allocated, initialized, funded, mintKnown, creatorToken, derived, allocate, init, premium,
    parts, notExpired, positive, deposit, native, fund, write⟩

/-- The maker's account is another one than the order's, and stays until the transfer. -/
theorem Create.Steps.source (steps : Create.Steps env clock ix l allocated initialized funded l')
    (other : ix.creator ≠ ix.order) : ∀ key ∈ ix.creatorAta, key ≠ ix.orderAta ∧
      ∃ source, l.data key = .token source ∧ initialized.data key = .token source := by
  intro key given
  obtain ⟨source, held, _, owner, _⟩ := steps.creatorToken key given
  obtain ⟨distinct, kept⟩ := opening_kept steps.allocate steps.init held (owner ▸ other)
  exact ⟨distinct, source, held, kept⟩

theorem fundOrder_actions {ctx : Context K} (signed : ∀ k ∈ ctx.signers, A k)
    (h : fundOrder env ctx ix l = .ok l') : Actions env.toHost A l l' := by
  have unseeded : ∀ k ∈ ctx.callSigners env none, A k := signed
  unfold fundOrder at h
  split at h
  · obtain ⟨paid, transfer, sync⟩ := bind_ok.mp h
    exact (uniTransfer_actions unseeded transfer).trans (syncNative_actions sync)
  · obtain ⟨_, _, transfer⟩ := bind_ok.mp h
    exact uniTransfer_actions unseeded transfer

/-- `create` acts with the authority of the creator and of the new order. -/
theorem create_actions (creator : A ix.creator) (order : A ix.order)
    (h : create env clock ix l = .ok l') : Actions env.toHost A l l' := by
  obtain ⟨allocated, initialized, funded, steps⟩ := create_steps h
  have signed : ∀ k ∈ [ix.creator], A k := by simpa using creator
  exact (((createAccount_actions signed steps.allocate).trans
    (initIfNeeded_actions signed steps.init)).trans (fundOrder_actions signed steps.fund)).trans
    (writeProgram_actions order steps.write)

/-! ## Funding -/

/-- The order's account after funding: it belongs to the order, holds at least
the principal more than before, and kept what lamports it had besides. -/
structure Funded (l l' : Chain K) (ata : K) (before : TokenAccount K) (amount : Nat) (native : Bool) :
    Prop where
  account : ∃ after, l'.data ata = .token after ∧ after.owner = before.owner ∧
    after.mint = before.mint ∧ after.program = before.program ∧ amount ≤ after.amount
  lamports : l.lamports ata + (if native then amount else 0) ≤ l'.lamports ata
  programs : l'.programAt = l.programAt

theorem fundOrder_funded {ctx : Context K} {before : TokenAccount K}
    (sound : TokenSound env.toHost l) (loaded : l.data ix.orderAta = .token before)
    (creatorToken : ∀ key ∈ ix.creatorAta, key ≠ ix.orderAta ∧ ∃ source, l.data key = .token source)
    (h : fundOrder env ctx ix l = .ok l') :
    Funded l l' ix.orderAta before ix.amount.toNat ix.assetIsNative := by
  unfold fundOrder at h
  split at h
  · next native =>
    obtain ⟨paid, transfer, sync⟩ := bind_ok.mp h
    obtain ⟨data, received⟩ := uniTransfer_received loaded transfer
    have programs := syncNative_programAt sync
    rw [Ledger.programAt_congr data] at programs
    obtain ⟨wrapped, stored, _, reserve, isNative, grows, rfl⟩ := syncNative_ok.mp sync
    have same : wrapped = before := by
      rw [data, loaded] at stored
      exact (AccountData.token.inj stored).symm
    subst same
    have backed := (sound _ _ loaded).backed reserve isNative
    refine ⟨⟨_, Ledger.setData_data_self _ _ _, rfl, rfl, rfl, ?_⟩, ?_, programs⟩
    · simp only
      omega
    · rw [Ledger.setData_lamports, native, if_pos rfl, received]
  · next plain =>
    obtain ⟨creatorAta, given, transfer⟩ := bind_ok.mp h
    rw [orFault_ok] at given
    obtain ⟨distinct, source, held⟩ := creatorToken creatorAta given
    have moved := uniTransfer_moved distinct held transfer
    refine ⟨⟨_, moved.credited before loaded, rfl, rfl, rfl, Nat.le_add_left _ _⟩, ?_,
      moved.programs⟩
    rw [if_neg plain, Nat.add_zero]
    exact moved.more _ (Ne.symm distinct)

theorem fundOrder_programAt {ctx : Context K} (h : fundOrder env ctx ix l = .ok l') :
    l'.programAt = l.programAt := by
  unfold fundOrder at h
  split at h
  · obtain ⟨paid, transfer, sync⟩ := bind_ok.mp h
    rw [syncNative_programAt sync, uniTransfer_programAt transfer]
  · obtain ⟨_, _, transfer⟩ := bind_ok.mp h
    exact uniTransfer_programAt transfer

/-- The only program data `create` touches is the new order, at an address that
held nothing. -/
theorem create_programAt (h : create env clock ix l = .ok l') :
    l.data ix.order = .empty ∧ l'.programAt =
      Function.update l.programAt ix.order (some (.order (ix.newOrder env clock.unixTimestamp))) := by
  obtain ⟨allocated, initialized, funded, steps⟩ := create_steps h
  obtain ⟨unused, paid⟩ := createAccount_ok.mp steps.allocate
  obtain ⟨account, init⟩ := initIfNeeded_ok steps.init
  refine ⟨unused, ?_⟩
  rw [writeProgram_programAt steps.write, fundOrder_programAt steps.fund, init.programAt,
    topUp_programAt paid]

/-- The order's token account after `create`. -/
structure Create.Backed (env : Environment K) (ix : Create K) (l' : Chain K) : Prop where
  derived : ix.orderAta = env.associatedTokenAddress ix.order ix.tokenProgram ix.mint
  account : ∃ after, l'.data ix.orderAta = .token after ∧ after.owner = ix.order ∧
    after.mint = ix.mint ∧ after.program = ix.tokenProgram ∧ ix.amount.toNat ≤ after.amount
  lamports : ix.maxCancellationPremium.toNat + (if ix.assetIsNative then ix.amount.toNat else 0)
    ≤ l'.lamports ix.orderAta

theorem create_backed (sound : TokenSound env.toHost l) (other : ix.creator ≠ ix.order)
    (h : create env clock ix l = .ok l') : Create.Backed env ix l' := by
  obtain ⟨allocated, initialized, funded, steps⟩ := create_steps h
  obtain ⟨before, init⟩ := initIfNeeded_ok steps.init
  have signed : ∀ k ∈ [ix.creator], k = ix.creator := by simp
  have reached : TokenSound env.toHost initialized :=
    Actions.tokenSound ((createAccount_actions signed steps.allocate).trans
      (initIfNeeded_actions signed steps.init)) sound
  have creatorToken : ∀ key ∈ ix.creatorAta,
      key ≠ ix.orderAta ∧ ∃ source, initialized.data key = .token source := by
    intro key given
    obtain ⟨distinct, source, _, kept⟩ := steps.source other key given
    exact ⟨distinct, source, kept⟩
  have paid := fundOrder_funded reached init.loaded creatorToken steps.fund
  obtain ⟨after, loaded, owner, mint, program, enough⟩ := paid.account
  obtain ⟨free, rfl⟩ := writeProgram_ok.mp steps.write
  have distinct : ix.orderAta ≠ ix.order := by
    rintro same
    simp [← same, Ledger.tokenAt, loaded] at free
  refine ⟨init.derived, ⟨after, ?_, owner.trans init.ownerEq, mint.trans init.mintEq,
    program.trans init.programEq, enough⟩, ?_⟩
  · rw [Ledger.setData_data_other _ _ _ distinct, loaded]
  · have premium := steps.premium
    have kept := paid.lamports
    rw [Ledger.setData_lamports]
    omega

/-! ## What the maker pays -/

/-- The most lamports that placing an order costs: the rents of both accounts, and the
amount of a native order. -/
def Create.cost (env : Environment K) (ix : Create K) : Nat :=
  env.minimumBalance (discriminatorBytes + Order.initSpace) +
    env.minimumBalance (env.tokenAccountLen ix.mint) + nativeCost ix.assetIsNative ix.amount

theorem Create.Steps.spent (steps : Create.Steps env clock ix l allocated initialized funded l')
    (other : ix.creator ≠ ix.order) (plain : l.data ix.creator = .empty) :
    l.lamports ix.creator ≤ l'.lamports ix.creator + ix.cost env := by
  have opening := opening_spent steps.allocate steps.init ix.creator
  have funding : initialized.lamports ix.creator ≤
      funded.lamports ix.creator + nativeCost ix.assetIsNative ix.amount := by
    have fund := steps.fund
    unfold fundOrder at fund
    split at fund
    · next native =>
      obtain ⟨paid, transfer, sync⟩ := bind_ok.mp fund
      obtain ⟨_, _, _, _, _, _, rfl⟩ := syncNative_ok.mp sync
      rw [Ledger.setData_lamports, nativeCost, if_pos native]
      exact uniTransfer_native_spent transfer ix.creator
    · obtain ⟨key, given, transfer⟩ := bind_ok.mp fund
      rw [orFault_ok] at given
      obtain ⟨distinct, source, held, kept⟩ := steps.source other key given
      have notKey : ix.creator ≠ key := by
        rintro rfl
        rw [plain] at held
        cases held
      exact Nat.le_add_right_of_le ((uniTransfer_moved distinct kept transfer).more _ notKey)
  rw [(writeProgram_ok.mp steps.write).2, Ledger.setData_lamports]
  unfold Create.cost
  omega

end CrossChainEscrow.Source.Src
