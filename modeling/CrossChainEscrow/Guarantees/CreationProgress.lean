import CrossChainEscrow.Effects.Operations
import CrossChainEscrow.Guarantees.Progress

/-!
# Orders and escrows can be made

A wallet that can spare the rent and the funds can place every order, and open every
escrow on the destination chain, whose terms the program admits. In every run this depends on
others only in that the address must be vacant, and an order's also in the lamports
that already lie where its token account stands.
-/

namespace CrossChainEscrow.Source
open Library.Words Library.Bytes Library.Accounts Library.Bookkeeping

variable {K : Type} [DecidableEq K] {env : Environment K} {h : History K} {s : State K}
  {l l' : Chain K} {clock : Clock} {ctx : Context K} {payer mint : K} {program : TokenProgram}
  {native : Bool} {amount : U64}

/-! ## Paying in -/

/-- A payment in tokens finds the payer's own account with the amount in it. -/
def Affords (env : Environment K) (payer mint : K) (program : TokenProgram) (native : Bool)
    (amount : U64) (l : Chain K) : Prop :=
  native = false → ∃ account, l.data (env.associatedTokenAddress payer program mint) = .token account ∧
    account.program = program ∧ account.owner = payer ∧ account.mint = mint ∧
    amount.toNat ≤ account.amount

omit [DecidableEq K] in
theorem Affords.checked (affords : Affords env payer mint program native amount l) :
    ∀ key ∈ payeeAccount env native payer program mint, ∃ account, l.data key = .token account ∧
      account.program = program ∧ account.owner = payer ∧
      key = env.associatedTokenAddress payer program mint := by
  intro key given
  cases native with
  | true => cases given
  | false =>
    obtain rfl := Option.some.inj given
    obtain ⟨account, loaded, programs, owner, _⟩ := affords rfl
    exact ⟨account, loaded, programs, owner, rfl⟩

omit [DecidableEq K] in
/-- The account paid from is not the one paid into. -/
theorem Affords.apart {key : K} (affords : Affords env payer mint program native amount l)
    (free : env.CollisionFree) (other : payer ≠ key) :
    ∀ k ∈ payeeAccount env native payer program mint,
      k ≠ env.associatedTokenAddress key program mint ∧ ∃ account, l.data k = .token account := by
  intro k given
  obtain ⟨account, loaded, _, _, derived⟩ := affords.checked k given
  refine ⟨fun same => other ?_, account, loaded⟩
  exact (free.associated_inj (derived.symm.trans same)).1

omit [DecidableEq K] in
/-- What the payer has is still there once the other accounts are opened. -/
theorem Affords.opened {key : K} {len : Nat} (affords : Affords env payer mint program native amount l)
    (free : env.CollisionFree) (other : payer ≠ key) (opened : Opened env key mint program len l l') :
    Affords env payer mint program native amount l' := by
  intro plain
  obtain ⟨account, loaded, rest⟩ := affords plain
  refine ⟨account, (opened.others _ fun same => other ?_).trans loaded, rest⟩
  exact (free.associated_inj same).1

theorem uniTransfer_native_succeeds {src dst : K} {n : Nat} (signs : src ∈ ctx.signers)
    (plain : l.data src = .empty) (enough : n ≤ l.lamports src) :
    ∃ l', uniTransfer env ctx (.nativeTransfer src dst n) none l = .ok l' := by
  unfold uniTransfer
  simp only
  split
  · exact ⟨l, rfl⟩
  · exact ⟨_, systemTransfer_ok.mpr ⟨signs, plain, enough, rfl⟩⟩

/-- The payer's tokens move to the account of a derived key. -/
theorem Affords.pays {key : K} (affords : Affords env payer mint program false amount l)
    (sound : TokenSound env.toHost l) (holds : HoldsAccount env key program mint l)
    (signs : payer ∈ ctx.signers) :
    ∃ l', uniTransfer env ctx (.tokenTransfer (env.associatedTokenAddress payer program mint) payer
      (env.associatedTokenAddress key program mint) mint amount.toNat program) none l = .ok l' := by
  obtain ⟨source, loaded, programs, owner, mints, enough⟩ := affords rfl
  obtain ⟨destination, loadedTo, programsTo, _, mintsTo⟩ := holds
  refine uniTransfer_succeeds loaded loadedTo ⟨programs, programsTo⟩ ⟨mints, mintsTo⟩ owner signs
    enough ?_
  exact Nat.le_trans (source.wrapped_mono enough) (sound _ _ loaded).wrapped_le

/-- What is paid in before the new account is written leaves the payer's account. -/
theorem payment_debits {m funded : Chain K} {key authority dst a : K} {source : TokenAccount K}
    {n : Nat} {value : Data K} (distinct : key ≠ dst) (held : l.data key = .token source)
    (kept : m.data key = .token source)
    (transfer : uniTransfer env ctx (.tokenTransfer key authority dst mint n program) none m =
      .ok funded)
    (write : (writeProgram a value funded : Result _) = .ok l') :
    l'.tokens key + n = l.tokens key := by
  have moved := uniTransfer_moved distinct kept transfer
  obtain ⟨untaken, rfl⟩ := writeProgram_ok.mp write
  have apart : key ≠ a := by
    rintro rfl
    rw [Ledger.tokenAt, moved.debited] at untaken
    cases untaken
  rw [Ledger.tokens_congr (Ledger.setData_data_other _ _ _ apart), moved.debit kept,
    Ledger.tokens_of_token kept, Ledger.tokens_of_token held]

/-- The runtime accepts a creation that its payer can spare the cost of: the new account,
its token account and the payer's own one hold data. -/
theorem Trace.creation_processes (free : env.CollisionFree) (trace : Trace env h s)
    (rent : RentSound env.toHost s.ledger) {ix : Instruction K}
    (signed : ∀ key ∈ ix.signers, env.Wallet key) (ran : ix.run env s.clock s.ledger = .ok l')
    {a ata : K} {source : Option K} {cost : Nat} {value : Data K} {token : TokenAccount K}
    (writes : ix.writable = [payer, a, ata] ++ source.toList) (wallet : env.Wallet payer)
    (plain : s.ledger.data payer = .empty) (spare : env.CanSpare s.ledger payer cost)
    (spent : s.ledger.lamports payer ≤ l'.lamports payer + cost)
    (made : l'.programAt a = some value) (opened : l'.data ata = .token token)
    (own : ∀ key ∈ source, ∃ account, s.ledger.data key = .token account ∧ account.owner = payer) :
    ix.process env s.clock s.ledger = .ok l' := by
  refine trace.payer_processes free rent signed ran plain spare spent fun k writable notPayer empty => ?_
  simp only [writes, List.cons_append, List.nil_append, List.mem_cons, Option.mem_toList] at writable
  rcases writable with rfl | rfl | rfl | given
  · exact notPayer rfl
  · rw [Ledger.programAt_eq_some.mp made] at empty
    cases empty
  · rw [opened] at empty
    cases empty
  · obtain ⟨account, held, owner⟩ := own k given
    obtain ⟨amount, kept⟩ := (Instruction.standing ran).accounts k account held (owner ▸ wallet)
    rw [kept] at empty
    cases empty

/-! ## Placing an order -/

/-- The accounts are those that follow from the terms. -/
structure Src.Create.Standard (env : Environment K) (c : Src.Create K) : Prop where
  mint : env.mintProgram c.mint = some c.tokenProgram
  order : c.order = (env.findProgramAddress env.srcId (orderSeeds (getOrderHash env c.params))).1
  orderAta : c.orderAta = env.associatedTokenAddress c.order c.tokenProgram c.mint
  creatorAta : c.creatorAta = payeeAccount env c.assetIsNative c.creator c.tokenProgram c.mint

/-- The terms that `create` accepts, apart from the premium. -/
structure Src.Create.Admissible (env : Environment K) (clock : Clock) (c : Src.Create K) : Prop where
  parts : c.allowMultipleFills = true → u16FromBeBytes c.hashlock > 1
  notExpired : clock.unixTimestamp < c.expirationTime
  positive : c.amount ≠ 0 ∧ c.safetyDeposit ≠ 0
  deposit : c.safetyDeposit.toNat ≤ env.minimumBalance (EscrowSrc.initSpace + discriminatorBytes)
  native : c.mint = env.NATIVE_MINT ∨ c.assetIsNative = false

/-- The order stands with its terms and holds its amount and its premium; a maker who
paid in tokens paid exactly the amount. -/
structure Src.Create.Made (env : Environment K) (clock : Clock) (c : Src.Create K)
    (l l' : Chain K) : Prop where
  order : l'.programAt c.order = some (.order (c.newOrder env clock.unixTimestamp))
  backed : Src.Create.Backed env c l'
  paid : ∀ key ∈ c.creatorAta, c.assetIsNative = false →
    l'.tokens key + c.amount.toNat = l.tokens key

section Order
variable {c : Src.Create K}

/-- Funding succeeds from what the maker has left after the rent. -/
theorem Src.Create.Standard.funds (standard : c.Standard env)
    (wrapped : env.mintProgram env.NATIVE_MINT = some .token) (signs : c.creator ∈ ctx.signers)
    (sound : TokenSound env.toHost l) (wallet : env.Wallet c.creator)
    (plain : l.data c.creator = .empty)
    (holds : HoldsAccount env c.order c.tokenProgram c.mint l)
    (isNative : c.mint = env.NATIVE_MINT ∨ c.assetIsNative = false)
    (enough : nativeCost c.assetIsNative c.amount ≤ l.lamports c.creator)
    (affords : Affords env c.creator c.mint c.tokenProgram c.assetIsNative c.amount l) :
    ∃ l', Src.fundOrder env ctx c l = .ok l' := by
  unfold Src.fundOrder
  rw [standard.orderAta]
  cases native : c.assetIsNative with
  | true =>
    obtain ⟨account, loaded, programs, _, mints⟩ := holds
    have isMint : c.mint = env.NATIVE_MINT := isNative.resolve_right (by simp [native])
    have isToken : c.tokenProgram = .token := by
      have owned := standard.mint
      rw [isMint, wrapped] at owned
      exact (Option.some.inj owned).symm
    have ofToken : account.program = .token := programs.trans isToken
    rw [nativeCost, if_pos native] at enough
    obtain ⟨paid, transfer⟩ : ∃ paid, uniTransfer env ctx (.nativeTransfer c.creator
        (env.associatedTokenAddress c.order c.tokenProgram c.mint) c.amount.toNat) none l = .ok paid :=
      uniTransfer_native_succeeds signs plain enough
    obtain ⟨_, moved⟩ := uniTransfer_native transfer
    have wraps := (sound _ _ loaded).native.mpr (by rw [mints, ofToken, isMint]; rfl)
    obtain ⟨reserve, isReserve⟩ := Option.isSome_iff_exists.mp wraps
    have backed := (sound _ _ loaded).backed reserve isReserve
    have grown : l.lamports (env.associatedTokenAddress c.order c.tokenProgram c.mint) ≤
        paid.lamports (env.associatedTokenAddress c.order c.tokenProgram c.mint) := by
      rw [moved]
      exact le_moveLamports _ _ fun same => env.associated_notWallet _ _ _ (same ▸ wallet)
    have sync := (syncNative_ok (ε := ProgramError)).mpr ⟨account, moved ▸ loaded,
      ⟨isToken, ofToken⟩, reserve, isReserve, Nat.le_trans backed grown, rfl⟩
    exact ⟨_, bind_ok.mpr ⟨paid, transfer, sync⟩⟩
  | false =>
    rw [native] at affords
    obtain ⟨l', transfer⟩ := affords.pays sound holds signs
    have given : c.creatorAta = some (env.associatedTokenAddress c.creator c.tokenProgram c.mint) := by
      rw [standard.creatorAta, native]
      rfl
    exact ⟨l', bind_ok.mpr ⟨_, orFault_ok.mpr given, transfer⟩⟩

/-- Funding changes the data of the two token accounts only. -/
theorem Src.fundOrder_others {key : K}
    (given : ∀ k ∈ c.creatorAta, k ≠ c.orderAta ∧ ∃ account, l.data k = .token account)
    (notAta : key ≠ c.orderAta) (notCreatorAta : ∀ k ∈ c.creatorAta, key ≠ k)
    (fund : Src.fundOrder env ctx c l = .ok l') : l'.data key = l.data key := by
  unfold Src.fundOrder at fund
  split at fund
  · obtain ⟨paid, transfer, sync⟩ := bind_ok.mp fund
    obtain ⟨_, moved⟩ := uniTransfer_native transfer
    obtain ⟨_, _, _, _, _, _, rfl⟩ := syncNative_ok.mp sync
    rw [Ledger.setData_data_other _ _ _ notAta, moved]
    rfl
  · obtain ⟨creatorAta, found, transfer⟩ := bind_ok.mp fund
    rw [orFault_ok] at found
    obtain ⟨distinct, source, held⟩ := given creatorAta found
    exact (uniTransfer_moved distinct held transfer).others key (notCreatorAta _ found) notAta

/-- A maker with the rent and the funds can place every order with admissible terms. -/
theorem Trace.create_runs (free : env.CollisionFree) (trace : Trace env h s)
    (wrapped : env.mintProgram env.NATIVE_MINT = some .token) (standard : c.Standard env)
    (wallet : env.Wallet c.creator) (plain : s.ledger.data c.creator = .empty)
    (rent : c.cost env ≤ s.ledger.lamports c.creator)
    (affords : Affords env c.creator c.mint c.tokenProgram c.assetIsNative c.amount s.ledger)
    (vacant : s.ledger.data c.order = .empty) (admissible : c.Admissible env s.clock)
    (premium : c.maxCancellationPremium.toNat ≤ env.openingLamports s.ledger c.orderAta c.mint) :
    ∃ l', Src.create env s.clock c s.ledger = .ok l' := by
  have derived : env.Derived c.order := env.derived_src (env.find_created standard.order)
  have other : c.creator ≠ c.order := fun same => derived.notWallet (same ▸ wallet)
  obtain ⟨allocated, ready, allocate, init, opened⟩ :=
    trace.opens free derived vacant standard.mint wallet plain
      (Nat.le_trans (Nat.le_add_right _ _) rent)
  have spent := opening_spent allocate init c.creator
  have stillPlain : ready.data c.creator = .empty :=
    (opened.others _ fun same => env.associated_notWallet _ _ _ (same ▸ wallet)).trans plain
  have reserve := opened.reserve
  rw [← standard.orderAta] at init reserve
  let ctx : Context K := ⟨env.srcId, [c.creator], s.clock⟩
  have signs : c.creator ∈ ctx.signers := List.mem_singleton_self _
  obtain ⟨funded, fund⟩ := standard.funds wrapped signs opened.sound wallet stillPlain opened.holds
    admissible.native (by unfold Src.Create.cost at rent; omega) (affords.opened free other opened)
  have notAta : c.order ≠ c.orderAta := by
    rw [standard.orderAta]
    exact derived.ne_associated free _ _ _
  have empty : funded.data c.order = .empty := by
    have given := (affords.opened free other opened).apart free other
    rw [← standard.creatorAta, ← standard.orderAta] at given
    have kept := Src.fundOrder_others given notAta (fun k found same => ?_) fund
    · exact kept.trans ((opened.others _ (standard.orderAta ▸ notAta)).trans vacant)
    · rw [standard.creatorAta] at found
      obtain ⟨_, _, _, _, isAta⟩ := affords.checked k found
      exact derived.ne_associated free _ _ _ (same.trans isAta)
  simp only [Src.create, bind_ok, requireMint_ok, checkOptionalToken_ok, requireFound_ok,
    requireThat_ok, exists_const]
  refine ⟨_, by rw [standard.mint]; rfl, ?_, standard.order, allocated, allocate, ready, init,
    reserve ▸ premium, admissible.parts, admissible.notExpired, admissible.positive,
    admissible.deposit, admissible.native, funded, fund, writeProgram_ok.mpr ⟨?_, rfl⟩⟩
  · rw [standard.creatorAta]
    exact affords.checked
  · rw [Ledger.tokenAt, empty]
    rfl

/-- What a call that succeeded found and made. -/
theorem Trace.create_made (trace : Trace env h s) (standard : c.Standard env)
    (free : env.CollisionFree) (wallet : env.Wallet c.creator)
    (ran : Src.create env s.clock c s.ledger = .ok l') :
    s.ledger.data c.order = .empty ∧ c.Admissible env s.clock ∧
      c.maxCancellationPremium.toNat ≤ env.openingLamports s.ledger c.orderAta c.mint ∧
      c.Made env s.clock s.ledger l' := by
  have derived : env.Derived c.order := env.derived_src (env.find_created standard.order)
  have other : c.creator ≠ c.order := fun same => derived.notWallet (same ▸ wallet)
  have backed := Src.create_backed trace.tokenSound other ran
  obtain ⟨vacant, written⟩ := Src.create_programAt ran
  obtain ⟨allocated, ready, funded, steps⟩ := Src.create_steps ran
  have paid := (createAccount_ok.mp steps.allocate).2
  have data := topUp_data paid
  have notOrder : c.orderAta ≠ c.order := by
    rw [standard.orderAta]
    exact (derived.ne_associated free _ _ _).symm
  have notCreator : c.orderAta ≠ c.creator := by
    rw [standard.orderAta]
    exact fun same => env.associated_notWallet _ _ _ (same ▸ wallet)
  have reserve : ready.lamports c.orderAta = env.openingLamports s.ledger c.orderAta c.mint := by
    rw [initIfNeeded_openingLamports steps.init, Host.openingLamports, Host.openingLamports, data,
      topUp_other paid notCreator notOrder]
  refine ⟨vacant, ⟨steps.parts, steps.notExpired, steps.positive, steps.deposit, steps.native⟩,
    reserve ▸ steps.premium, by rw [written, Function.update_self], backed, fun key given plain => ?_⟩
  -- the account paid from is untouched until the transfer
  obtain ⟨distinct, source, held, kept⟩ := steps.source other key given
  have fund := steps.fund
  rw [Src.fundOrder, if_neg (by simp [plain])] at fund
  obtain ⟨from', found, transfer⟩ := bind_ok.mp fund
  obtain rfl : key = from' := Option.some.inj (given.symm.trans (orFault_ok.mp found))
  exact payment_debits distinct held kept transfer steps.write

/-- The runtime accepts a placement by a maker that can spare its cost. -/
theorem Trace.create_processes (free : env.CollisionFree) (trace : Trace env h s)
    (rent : RentSound env.toHost s.ledger) (standard : c.Standard env) (wallet : env.Wallet c.creator)
    (plain : s.ledger.data c.creator = .empty) (spare : env.CanSpare s.ledger c.creator (c.cost env))
    (ran : Src.create env s.clock c s.ledger = .ok l') :
    (Instruction.src (.create c)).process env s.clock s.ledger = .ok l' := by
  have derived : env.Derived c.order := env.derived_src (env.find_created standard.order)
  have other : c.creator ≠ c.order := fun same => derived.notWallet (same ▸ wallet)
  have running : (Instruction.src (.create c)).run env s.clock s.ledger = .ok l' := ran
  have signed : ∀ key ∈ (Instruction.src (.create c)).signers, env.Wallet key :=
    wallet_of_signers wallet
  obtain ⟨_, _, _, made⟩ := trace.create_made standard free wallet ran
  obtain ⟨_, _, _, steps⟩ := Src.create_steps ran
  obtain ⟨_, opened, _⟩ := made.backed.account
  refine trace.creation_processes free rent signed running rfl wallet plain spare
    (steps.spent other plain) made.order opened fun key given => ?_
  obtain ⟨account, held, _, owner, _⟩ := steps.creatorToken key given
  exact ⟨account, held, owner⟩

end Order

/-- In every reachable state whose token accounts are rent-exempt, for every maker that
has no data, the amount and can spare what it costs: the transaction that places an
order with the accounts that follow from its terms succeeds exactly when its address is
vacant, the program admits the terms, and the premium is within what its token account
starts with; then the order stands as asked, backed by its amount, and the maker paid
no more tokens than that. -/
theorem Trace.order_placeable (free : env.CollisionFree) (trace : Trace env h s)
    (wrapped : env.mintProgram env.NATIVE_MINT = some .token) {c : Src.Create K}
    (standard : c.Standard env) (wallet : env.Wallet c.creator)
    (plain : s.ledger.data c.creator = .empty) (rent : RentSound env.toHost s.ledger)
    (spare : env.CanSpare s.ledger c.creator (c.cost env))
    (affords : Affords env c.creator c.mint c.tokenProgram c.assetIsNative c.amount s.ledger) :
    s.ProcessesIff env (.src (.create c))
      (s.ledger.data c.order = .empty ∧ c.Admissible env s.clock ∧
        c.maxCancellationPremium.toNat ≤ env.openingLamports s.ledger c.orderAta c.mint)
      (c.Made env s.clock s.ledger) := by
  refine State.processesIff (fun l' ran => ?_) fun ⟨vacant, admissible, premium⟩ => ?_
  · obtain ⟨vacant, admissible, premium, _⟩ := trace.create_made standard free wallet ran
    exact ⟨vacant, admissible, premium⟩
  · have enough : c.cost env ≤ s.ledger.lamports c.creator :=
      Nat.le_trans (Nat.le_add_left _ _) spare
    obtain ⟨l', ran⟩ := trace.create_runs free wrapped standard wallet plain enough affords vacant
      admissible premium
    exact ⟨l', trace.create_processes free rent standard wallet plain spare ran,
      (trace.create_made standard free wallet ran).2.2.2⟩

/-- The wallet has tokens and no data, and can spare the lamports. -/
def Sample.affords (wallet : Term) (amount : U64) (lamports : Nat) (l : Chain Term) : Bool :=
  (l.tokenAt (Sample.associated wallet)).any (fun t => decide (t.program = .token ∧ t.owner = wallet ∧
    t.mint = Sample.usdc ∧ amount.toNat ≤ t.amount)) &&
  decide (l.data wallet = .empty ∧ Sample.env.CanSpare l wallet lamports)

theorem Sample.affords_iff {wallet : Term} {amount : U64} {lamports : Nat} {l : Chain Term}
    (can : Sample.affords wallet amount lamports l = true) :
    Affords Sample.env wallet Sample.usdc .token false amount l ∧ l.data wallet = .empty ∧
      Sample.env.CanSpare l wallet lamports := by
  obtain ⟨account, rest⟩ := Bool.and_eq_true_iff.mp can
  obtain ⟨plain, enough⟩ := of_decide_eq_true rest
  exact ⟨fun _ => Sample.live_token account, plain, enough⟩

def Sample.placeable : Sample.Scenario (fun r =>
    (Sample.affords Sample.maker 1000 ((Sample.create Sample.single).cost Sample.env) r.state.ledger &&
      ((Instruction.src (.create (Sample.create Sample.single))).process Sample.env r.state.clock
        r.state.ledger).toOption.isSome) = true) where
  commands := [.wait 100]

theorem Sample.create_standard : (Sample.create Sample.single).Standard Sample.env :=
  ⟨rfl, rfl, rfl, rfl⟩

/-- The maker places the sample order. -/
theorem Trace.order_placeable_sample : ∃ (s : State Term) (l' : Chain Term),
    (Sample.create Sample.single).Made Sample.env s.clock s.ledger l' := by
  obtain ⟨r, trace, rent, stands⟩ := Sample.placeable.reached_sound Sample.rentSound
  obtain ⟨can, runs⟩ := Bool.and_eq_true_iff.mp stands
  obtain ⟨affords, plain, spare⟩ := Sample.affords_iff can
  obtain ⟨l', processed⟩ := isSome_toOption runs
  obtain ⟨_, made⟩ := trace.order_placeable Sample.collisionFree rfl Sample.create_standard
    (Sample.wallet_atom 11) plain rent spare affords
  exact ⟨r.state, l', made l' processed⟩

/-! ## Opening a destination escrow -/

/-- The accounts are those that follow from the terms. -/
structure Dst.Create.Standard (env : Environment K) (c : Dst.Create K) : Prop where
  mint : env.mintProgram c.mint = some c.tokenProgram
  escrow : c.escrow = (env.findProgramAddress env.dstId c.seeds).1
  escrowAta : c.escrowAta = env.associatedTokenAddress c.escrow c.tokenProgram c.mint
  creatorAta : c.creatorAta = payeeAccount env c.assetIsNative c.creator c.tokenProgram c.mint

/-- The terms that the destination program's `create` accepts. -/
structure Dst.Create.Admissible (env : Environment K) (clock : Clock) (c : Dst.Create K) : Prop where
  cancellation : ∃ start, (c.updatedTimelocks clock.unixTimestamp).get .dstCancellation = .ok start ∧
    start ≤ c.srcCancellationTimestamp
  positive : c.amount ≠ 0 ∧ c.safetyDeposit ≠ 0
  deposit : c.safetyDeposit.toNat ≤ env.minimumBalance (EscrowDst.initSpace + discriminatorBytes)
  native : c.mint = env.NATIVE_MINT ∨ c.assetIsNative = false

/-- The escrow stands with its terms, funded; a creator who paid in tokens paid
exactly the amount. -/
structure Dst.Create.Made (env : Environment K) (clock : Clock) (c : Dst.Create K)
    (l l' : Chain K) : Prop where
  escrow : l'.programAt c.escrow = some (.escrowDst (c.newEscrow env clock.unixTimestamp))
  funded : Dst.Create.Funded env c l'
  paid : ∀ key ∈ c.creatorAta, c.assetIsNative = false →
    l'.tokens key + c.amount.toNat = l.tokens key

section Escrow
variable {c : Dst.Create K}

theorem Dst.Create.Standard.funds (standard : c.Standard env) (signs : c.creator ∈ ctx.signers)
    (sound : TokenSound env.toHost l) (plain : l.data c.creator = .empty)
    (holds : HoldsAccount env c.escrow c.tokenProgram c.mint l)
    (enough : nativeCost c.assetIsNative c.amount ≤ l.lamports c.creator)
    (affords : Affords env c.creator c.mint c.tokenProgram c.assetIsNative c.amount l) :
    ∃ l', Dst.fundEscrow env ctx c l = .ok l' := by
  unfold Dst.fundEscrow
  rw [standard.escrowAta]
  cases native : c.assetIsNative with
  | true =>
    rw [nativeCost, if_pos native] at enough
    exact uniTransfer_native_succeeds signs plain enough
  | false =>
    rw [native] at affords
    obtain ⟨l', transfer⟩ := affords.pays sound holds signs
    have given : c.creatorAta = some (env.associatedTokenAddress c.creator c.tokenProgram c.mint) := by
      rw [standard.creatorAta, native]
      rfl
    exact ⟨l', bind_ok.mpr ⟨_, orFault_ok.mpr given, transfer⟩⟩

theorem Dst.fundEscrow_others {key : K}
    (given : ∀ k ∈ c.creatorAta, k ≠ c.escrowAta ∧ ∃ account, l.data k = .token account)
    (notAta : key ≠ c.escrowAta) (notCreatorAta : ∀ k ∈ c.creatorAta, key ≠ k)
    (fund : Dst.fundEscrow env ctx c l = .ok l') : l'.data key = l.data key := by
  unfold Dst.fundEscrow at fund
  split at fund
  · obtain ⟨_, rfl⟩ := uniTransfer_native fund
    rfl
  · obtain ⟨creatorAta, found, transfer⟩ := bind_ok.mp fund
    rw [orFault_ok] at found
    obtain ⟨distinct, source, held⟩ := given creatorAta found
    exact (uniTransfer_moved distinct held transfer).others key (notCreatorAta _ found) notAta

/-- A creator with the rent and the funds can open every escrow with admissible
terms. -/
theorem Trace.dstCreate_runs (free : env.CollisionFree) (trace : Trace env h s)
    (standard : c.Standard env) (wallet : env.Wallet c.creator)
    (plain : s.ledger.data c.creator = .empty)
    (rent : c.cost env ≤ s.ledger.lamports c.creator)
    (affords : Affords env c.creator c.mint c.tokenProgram c.assetIsNative c.amount s.ledger)
    (vacant : s.ledger.data c.escrow = .empty) (admissible : c.Admissible env s.clock) :
    ∃ l', Dst.create env s.clock c s.ledger = .ok l' := by
  have derived : env.Derived c.escrow := env.derived_dst (env.find_created standard.escrow)
  have other : c.creator ≠ c.escrow := fun same => derived.notWallet (same ▸ wallet)
  obtain ⟨allocated, ready, allocate, init, opened⟩ :=
    trace.opens free derived vacant standard.mint wallet plain
      (Nat.le_trans (Nat.le_add_right _ _) rent)
  have spent := opening_spent allocate init c.creator
  have stillPlain : ready.data c.creator = .empty :=
    (opened.others _ fun same => env.associated_notWallet _ _ _ (same ▸ wallet)).trans plain
  rw [← standard.escrowAta] at init
  let ctx : Context K := ⟨env.dstId, [c.creator], s.clock⟩
  obtain ⟨funded, fund⟩ : ∃ funded, Dst.fundEscrow env ctx c ready = .ok funded :=
    standard.funds (List.mem_singleton_self _) opened.sound stillPlain opened.holds
      (by unfold Dst.Create.cost at rent; omega) (affords.opened free other opened)
  have notAta : c.escrow ≠ c.escrowAta := by
    rw [standard.escrowAta]
    exact derived.ne_associated free _ _ _
  have empty : funded.data c.escrow = .empty := by
    have given := (affords.opened free other opened).apart free other
    rw [← standard.creatorAta, ← standard.escrowAta] at given
    have kept := Dst.fundEscrow_others given notAta (fun k found same => ?_) fund
    · exact kept.trans ((opened.others _ (standard.escrowAta ▸ notAta)).trans vacant)
    · rw [standard.creatorAta] at found
      obtain ⟨_, _, _, _, isAta⟩ := affords.checked k found
      exact derived.ne_associated free _ _ _ (same.trans isAta)
  obtain ⟨start, reached, before⟩ := admissible.cancellation
  simp only [Dst.create, bind_ok, requireMint_ok, checkOptionalToken_ok, requireFound_ok,
    requireThat_ok, exists_const]
  refine ⟨_, by rw [standard.mint]; rfl, ?_, standard.escrow, allocated, allocate, ready, init, start,
    reached, before, admissible.positive, admissible.deposit, admissible.native, funded, fund,
    writeProgram_ok.mpr ⟨?_, rfl⟩⟩
  · rw [standard.creatorAta]
    exact affords.checked
  · rw [Ledger.tokenAt, empty]
    rfl

/-- What a call that succeeded found and made. -/
theorem Dst.Create.Standard.made (standard : c.Standard env)
    (free : env.CollisionFree) (wallet : env.Wallet c.creator)
    (ran : Dst.create env clock c l = .ok l') :
    l.data c.escrow = .empty ∧ c.Admissible env clock ∧ c.Made env clock l l' := by
  have derived : env.Derived c.escrow := env.derived_dst (env.find_created standard.escrow)
  have other : c.creator ≠ c.escrow := fun same => derived.notWallet (same ▸ wallet)
  have distinct : c.escrow ≠ c.escrowAta := by
    rw [standard.escrowAta]
    exact derived.ne_associated free _ _ _
  have ataNotCreator : c.escrowAta ≠ c.creator := by
    rw [standard.escrowAta]
    exact fun same => env.associated_notWallet _ _ _ (same ▸ wallet)
  have funds := Dst.create_funded (Ne.symm other) ataNotCreator distinct ran
  obtain ⟨vacant, written⟩ := Dst.create_programAt ran
  obtain ⟨allocated, ready, funded, steps⟩ := Dst.create_steps ran
  refine ⟨vacant, ⟨steps.cancellation, steps.positive, steps.deposit, steps.native⟩,
    by rw [written, Function.update_self], funds, fun key given plain => ?_⟩
  obtain ⟨apart, source, held, kept⟩ := steps.source other key given
  have fund := steps.fund
  rw [Dst.fundEscrow, if_neg (by simp [plain])] at fund
  obtain ⟨from', found, transfer⟩ := bind_ok.mp fund
  obtain rfl : key = from' := Option.some.inj (given.symm.trans (orFault_ok.mp found))
  exact payment_debits apart held kept transfer steps.write

/-- The runtime accepts an opening by a creator that can spare its cost. -/
theorem Trace.dstCreate_processes (free : env.CollisionFree) (trace : Trace env h s)
    (rent : RentSound env.toHost s.ledger) (standard : c.Standard env) (wallet : env.Wallet c.creator)
    (plain : s.ledger.data c.creator = .empty) (spare : env.CanSpare s.ledger c.creator (c.cost env))
    (ran : Dst.create env s.clock c s.ledger = .ok l') :
    (Instruction.dst (.create c)).process env s.clock s.ledger = .ok l' := by
  have derived : env.Derived c.escrow := env.derived_dst (env.find_created standard.escrow)
  have other : c.creator ≠ c.escrow := fun same => derived.notWallet (same ▸ wallet)
  have running : (Instruction.dst (.create c)).run env s.clock s.ledger = .ok l' := ran
  have signed : ∀ key ∈ (Instruction.dst (.create c)).signers, env.Wallet key :=
    wallet_of_signers wallet
  obtain ⟨_, _, made⟩ := standard.made free wallet ran
  obtain ⟨_, _, _, steps⟩ := Dst.create_steps ran
  obtain ⟨_, opened, _⟩ := made.funded.account
  refine trace.creation_processes free rent signed running rfl wallet plain spare
    (steps.spent other plain) made.escrow opened fun key given => ?_
  obtain ⟨account, held, _, owner, _⟩ := steps.creatorToken key given
  exact ⟨account, held, owner⟩

/-- A rent-exempt wallet stays so when an escrow is opened, the creator if it can spare
the cost. -/
theorem Dst.Create.Standard.exempt (standard : c.Standard env) (wallet : env.Wallet c.creator)
    (plain : l.data c.creator = .empty) (spare : env.CanSpare l c.creator (c.cost env))
    (ran : Dst.create env clock c l = .ok l') {k : K} (isWallet : env.Wallet k)
    (exempt : env.RentExempt l k) : env.RentExempt l' k := by
  have derived : env.Derived c.escrow := env.derived_dst (env.find_created standard.escrow)
  have running : (Instruction.dst (.create c)).run env clock l = .ok l' := ran
  by_cases same : k = c.creator
  · subst k
    obtain ⟨_, _, _, steps⟩ := Dst.create_steps ran
    have spent := steps.spent (fun same => derived.notWallet (same ▸ wallet)) plain
    have data := (Instruction.standing running).plain _ wallet plain
    exact spare.exempt (data.trans plain.symm) spent
  · have off : k ∉ (Instruction.dst (.create c)).writable := by
      have notAta : ∀ {owner mint : K} {program : TokenProgram},
          k ≠ env.associatedTokenAddress owner program mint :=
        fun same => env.associated_notWallet _ _ _ (same ▸ isWallet)
      have notEscrow : k ≠ c.escrow := fun same => derived.notWallet (same ▸ isWallet)
      simp only [Source.Instruction.writable, Instruction.writable, List.cons_append, List.nil_append,
        List.mem_cons, Option.mem_toList, not_or]
      refine ⟨same, notEscrow, standard.escrowAta ▸ notAta, fun given => ?_⟩
      rw [standard.creatorAta, payeeAccount] at given
      split at given
      · cases given
      · exact notAta (Option.some.inj given).symm
    have changed := Instruction.footprint running
    exact exempt.grow (changed.data k off) (changed.lamports k off).ge

end Escrow

/-- In every reachable state whose token accounts are rent-exempt, for every creator
that has no data, the amount and can spare what it costs: the transaction that opens a
destination escrow with the accounts that follow from its terms succeeds exactly when
its address is vacant and the program admits the terms, above all that its cancellation
opens no later than the time stated for the source chain; then the escrow stands as
asked and funded, and the creator paid no more tokens than the amount. -/
theorem Trace.escrow_openable (free : env.CollisionFree) (trace : Trace env h s) {c : Dst.Create K}
    (standard : c.Standard env) (wallet : env.Wallet c.creator)
    (plain : s.ledger.data c.creator = .empty) (rent : RentSound env.toHost s.ledger)
    (spare : env.CanSpare s.ledger c.creator (c.cost env))
    (affords : Affords env c.creator c.mint c.tokenProgram c.assetIsNative c.amount s.ledger) :
    s.ProcessesIff env (.dst (.create c))
      (s.ledger.data c.escrow = .empty ∧ c.Admissible env s.clock) (c.Made env s.clock s.ledger) := by
  refine State.processesIff (fun l' ran => ?_) fun ⟨vacant, admissible⟩ => ?_
  · obtain ⟨vacant, admissible, _⟩ := standard.made free wallet ran
    exact ⟨vacant, admissible⟩
  · have enough : c.cost env ≤ s.ledger.lamports c.creator :=
      Nat.le_trans (Nat.le_add_left _ _) spare
    obtain ⟨l', ran⟩ := trace.dstCreate_runs free standard wallet plain enough affords vacant admissible
    exact ⟨l', trace.dstCreate_processes free rent standard wallet plain spare ran,
      (standard.made free wallet ran).2.2⟩

def Sample.openable : Sample.Scenario (fun r =>
    (Sample.affords Sample.taker 2000
        ((Sample.createDst Sample.single Sample.single.timelocks 10000).cost Sample.env) r.state.ledger &&
      ((Instruction.dst (.create (Sample.createDst Sample.single Sample.single.timelocks 10000))).process
        Sample.env r.state.clock r.state.ledger).toOption.isSome) = true) where
  commands := [.wait 100]

theorem Sample.createDst_standard :
    (Sample.createDst Sample.single Sample.single.timelocks 10000).Standard Sample.env :=
  ⟨rfl, rfl, rfl, rfl⟩

/-- The taker opens the sample escrow on the destination chain. -/
theorem Trace.escrow_openable_sample : ∃ (s : State Term) (l' : Chain Term),
    (Sample.createDst Sample.single Sample.single.timelocks 10000).Made Sample.env s.clock s.ledger
      l' := by
  obtain ⟨r, trace, rent, stands⟩ := Sample.openable.reached_sound Sample.rentSound
  obtain ⟨can, runs⟩ := Bool.and_eq_true_iff.mp stands
  obtain ⟨affords, plain, spare⟩ := Sample.affords_iff can
  obtain ⟨l', processed⟩ := isSome_toOption runs
  obtain ⟨_, made⟩ := trace.escrow_openable Sample.collisionFree Sample.createDst_standard
    (Sample.wallet_atom 12) plain rent spare affords
  exact ⟨r.state, l', made l' processed⟩

end CrossChainEscrow.Source
