import CrossChainEscrow.Effects.Operations
import CrossChainEscrow.Effects.OrderPayouts
import CrossChainEscrow.Guarantees.Progress
import CrossChainEscrow.Invariants.Premiums

/-!
# Orders can be called off and filled

An order that no rescue ran on keeps what it needs: its creator can call it off at
any time, and a whitelisted taker who can spare the rent of the accounts can fill it
exactly when the order's own terms allow the fill.
-/

namespace CrossChainEscrow.Source
open Library.Words Library.Bytes Library.Accounts Library.Bookkeeping Library.Registries Whitelist

variable {K : Type} [DecidableEq K] {env : Environment K} {h : History K} {s : State K} {a : K}
  {l l' : Chain K} {clock : Clock} {order : Order K}

/-! ## What a live order has -/

/-- The token account of a live order, in its place and with what remains. -/
structure OrderReady (env : Environment K) (s : State K) (a : K) (order : Order K)
    (program : TokenProgram) (account : TokenAccount K) : Prop where
  owned : env.mintProgram order.token = some program
  seeds : env.createProgramAddress env.srcId (orderSeeds order.orderHash) order.bump = some a
  loaded : s.ledger.data (env.associatedTokenAddress a program order.token) = .token account
  programEq : account.program = program
  owner : account.owner = a
  mint : account.mint = order.token
  remaining : order.remainingAmount.toNat ≤ account.amount
  wraps : account.isNative.isSome = true ↔ order.token = env.nativeMint program
  covered : account.wrapped account.amount ≤
    s.ledger.lamports (env.associatedTokenAddress a program order.token)
  lamports : order.assetIsNative = true → order.remainingAmount.toNat ≤
    s.ledger.lamports (env.associatedTokenAddress a program order.token)

theorem Trace.order_ready (free : env.CollisionFree) (trace : Trace env h s)
    (live : s.ledger.programAt a = some (.order order)) (whole : orderUnrescued a h = true) :
    ∃ program account, OrderReady env s a order program account := by
  have derived := (trace.placed live).derived.notWallet
  obtain ⟨program, account, paid⟩ := trace.premiumBacked free live whole
  obtain ⟨program', backed⟩ := trace.backed free live
  obtain rfl : program = program' := Option.some.inj (paid.owned.symm.trans backed.owned)
  obtain ⟨owner, programs, mints⟩ := trace.associatedSound free derived _ _ _ paid.loaded
  have sound := trace.tokenSound _ _ paid.loaded
  have tokens := backed.tokens
  have wraps := sound.native
  have unfinished := (trace.tracked live).unfinished
  rw [rescuedFrom_eq_zero whole, Ledger.tokens_of_token paid.loaded] at tokens
  rw [mints, programs] at wraps
  refine ⟨program, account, paid.owned, env.create_of_find (trace.placed live), paid.loaded, programs,
    owner, mints, tokens, wraps, sound.wrapped_le, fun native => ?_⟩
  have lamports := backed.lamports native
  rw [rescuedFrom_eq_zero whole] at lamports
  omega

/-! ## Calling off -/

/-- `cancel_order` with the accounts that the order at `a` stores. -/
def Order.cancelCall (env : Environment K) (order : Order K) (a : K) (program : TokenProgram) :
    Src.CancelOrder K where
  creator := order.creator
  mint := order.token
  order := a
  orderAta := env.associatedTokenAddress a program order.token
  creatorAta := payeeAccount env order.assetIsNative order.creator program order.token
  tokenProgram := program

/-- The lamports that leave with the tokens of the order at `a`: those that the tokens
wrap, unless the order is native. -/
def Order.wrappedLamports (env : Environment K) (order : Order K) (a : K) (program : TokenProgram)
    (l : Chain K) : Nat :=
  if order.assetIsNative = false ∧ order.token = env.nativeMint program then
    l.tokens (env.associatedTokenAddress a program order.token)
  else 0

/-- The order and its token account are closed, and the creator has all that they
held: its own token account the tokens with the lamports that they wrap, unless the
order is native, and its wallet all other lamports. -/
structure CalledOff (env : Environment K) (a : K) (order : Order K) (program : TokenProgram)
    (l l' : Chain K) : Prop where
  closed : l'.data a = .empty
  ataClosed : l'.data (env.associatedTokenAddress a program order.token) = .empty
  tokens : order.assetIsNative = false →
    l'.tokens (env.associatedTokenAddress order.creator program order.token) =
      l.tokens (env.associatedTokenAddress order.creator program order.token) +
        l.tokens (env.associatedTokenAddress a program order.token)
  wrapped : order.assetIsNative = false →
    l'.lamports (env.associatedTokenAddress order.creator program order.token) =
      l.lamports (env.associatedTokenAddress order.creator program order.token) +
        order.wrappedLamports env a program l
  lamports : l'.lamports order.creator + order.wrappedLamports env a program l =
    l.lamports order.creator + l.lamports (env.associatedTokenAddress a program order.token) +
      l.lamports a

theorem Src.sentLamports_eq {program : TokenProgram} {account : TokenAccount K}
    (loaded : l.data (env.associatedTokenAddress a program order.token) = .token account)
    (wraps : account.isNative.isSome = true ↔ order.token = env.nativeMint program) :
    Src.sentLamports order account = order.wrappedLamports env a program l := by
  unfold Src.sentLamports Src.sentTokens Order.wrappedLamports TokenAccount.wrapped
  rw [Ledger.tokens_of_token loaded]
  cases native : order.assetIsNative with
  | true => simp
  | false => simp [wraps]

omit [DecidableEq K] in
theorem payeeAccount_isNone (native : Bool) (payee mint : K) (program : TokenProgram) :
    native = (payeeAccount env native payee program mint).isNone := by
  cases native <;> rfl

section Ready
variable {program : TokenProgram} {account : TokenAccount K}
  (ready : OrderReady env s a order program account)
include ready

omit [DecidableEq K] in
theorem OrderReady.signs (ctx : Context K) (inside : ctx.programId = env.srcId) :
    a ∈ ctx.callSigners env (some (Src.Order.signerSeeds order)) := by
  rw [callSigners_derived (inside ▸ ready.seeds)]
  exact List.mem_append_right _ (List.mem_singleton.mpr rfl)

theorem OrderReady.sentLamports_eq :
    Src.sentLamports order account = order.wrappedLamports env a program s.ledger :=
  Src.sentLamports_eq ready.loaded ready.wraps

/-- The end of a cancellation runs through: the tokens of a plain order are sent to its
creator's account, and the two accounts are closed. -/
theorem OrderReady.closes (ctx : Context K) (live : s.ledger.data a = .program (.order order))
    (creator : order.creator ≠ a)
    (notAta : env.associatedTokenAddress a program order.token ≠ order.creator)
    (free : env.CollisionFree) (inside : ctx.programId = env.srcId)
    (wraps : order.assetIsNative = true → account.isNative.isSome = true)
    (receivable : Receivable env order.assetIsNative order.creator program order.token s.ledger) :
    ∃ l', (do
      let l ← Src.returnTokens env ctx order a
        ⟨env.associatedTokenAddress a program order.token, account⟩
        (payeeAccount env order.assetIsNative order.creator program order.token) order.token program
        s.ledger
      let l ← closeAccount (ctx.callSigners env (some (Src.Order.signerSeeds order))) program
        (env.associatedTokenAddress a program order.token) order.creator a l
      closeProgram a order.creator l : Result (Chain K)) = .ok l' := by
  have signs := ready.signs ctx inside
  have notOrder := ne_of_program live ready.loaded
  cases native : order.assetIsNative with
  | true =>
    obtain ⟨emptied, close⟩ : ∃ emptied, closeAccount (ctx.callSigners env
        (some (Src.Order.signerSeeds order))) program (env.associatedTokenAddress a program order.token)
          order.creator a s.ledger = (.ok emptied : Result _) :=
      ⟨_, closeAccount_ok.mpr ⟨account, ready.loaded, ready.programEq, notAta,
        Or.inl (wraps native), ready.owner, signs, rfl⟩⟩
    have held := ((closeAccount_effect close).2.1 a (Ne.symm notOrder)).trans live
    refine ⟨_, bind_ok.mpr ⟨s.ledger, ?_, bind_ok.mpr ⟨emptied, close,
      closeProgram_ok.mpr ⟨_, held, Ne.symm creator, rfl⟩⟩⟩⟩
    rw [Src.returnTokens, if_neg (by simp [native])]
    rfl
  | false =>
    obtain ⟨destination, loadedTo, programs, _, mints⟩ := receivable native
    have distinct : env.associatedTokenAddress a program order.token ≠
        env.associatedTokenAddress order.creator program order.token :=
      fun same => creator (free.associated_inj same).1.symm
    obtain ⟨paid, _, withdraw, _⟩ := withdrawAndCloseTokenAta_succeeds distinct notAta
      ready.loaded loadedTo ⟨ready.programEq, programs⟩ ⟨ready.mint, mints⟩ ready.owner signs
      ready.covered
    have programAt := withdrawAndCloseTokenAta_programAt withdraw
    obtain ⟨returned, transfer, close⟩ := bind_ok.mp withdraw
    have held : paid.data a = .program (.order order) := by
      rw [← Ledger.programAt_eq_some, programAt, Ledger.programAt_eq_some, live]
    refine ⟨_, bind_ok.mpr ⟨returned, ?_, bind_ok.mpr ⟨paid, close,
      closeProgram_ok.mpr ⟨_, held, Ne.symm creator, rfl⟩⟩⟩⟩
    rw [Src.returnTokens, if_pos native]
    exact transfer

end Ready

section Cancel
variable {program : TokenProgram} {account : TokenAccount K} (free : env.CollisionFree)
  (trace : Trace env h s) (live : s.ledger.programAt a = some (.order order))
  (ready : OrderReady env s a order program account)
include free trace live ready

omit ready in
/-- The tokens go to neither account of the order. -/
theorem Trace.cancel_apart : (order.cancelCall env a program).call.receiver ≠ a ∧
    (order.cancelCall env a program).call.receiver ≠
      env.associatedTokenAddress a program order.token := by
  have creator : env.Wallet order.creator := trace.parties live
  have notOrder : order.creator ≠ a := trace.wallet_ne live creator
  change (payeeAccount env order.assetIsNative order.creator program order.token).getD order.creator ≠ a ∧
    (payeeAccount env order.assetIsNative order.creator program order.token).getD order.creator ≠ _
  cases order.assetIsNative with
  | true =>
    have notAta : order.creator ≠ env.associatedTokenAddress a program order.token :=
      fun same => env.associated_notWallet _ _ _ (same ▸ creator)
    exact ⟨notOrder, notAta⟩
  | false =>
    exact ⟨((trace.placed live).derived.ne_associated free _ _ _).symm,
      fun same => notOrder (free.associated_inj same).1⟩

/-- What a cancellation of a ready order by its creator posts. -/
theorem Trace.cancel_settles
    (ran : Src.cancelOrder env clock (order.cancelCall env a program) s.ledger = .ok l') :
    (order.cancelCall env a program).Settled order account s.ledger l' := by
  have creator : env.Wallet order.creator := trace.parties live
  have notOrder : order.creator ≠ a := trace.wallet_ne live creator
  obtain ⟨found, orderToken, returned, closed, checked, close, finish⟩ := Src.cancelOrder_steps ran
  obtain rfl : found = order :=
    Data.order.inj (Option.some.inj ((Ledger.programAt_eq_some.mpr checked.loaded).symm.trans live))
  obtain rfl : orderToken = account := AccountData.token.inj (checked.token.symm.trans ready.loaded)
  exact Src.cancelOrder_settled notOrder (trace.cancel_apart free live).1 checked close finish

/-- Nothing of it is lost. -/
theorem Trace.cancel_pays
    (ran : Src.cancelOrder env clock (order.cancelCall env a program) s.ledger = .ok l') :
    CalledOff env a order program s.ledger l' := by
  have creator : env.Wallet order.creator := trace.parties live
  have settled := trace.cancel_settles free live ready ran
  have notOrder : order.creator ≠ a := trace.wallet_ne live creator
  have notAta : order.creator ≠ env.associatedTokenAddress a program order.token :=
    fun same => env.associated_notWallet _ _ _ (same ▸ creator)
  obtain ⟨rest, all, lamports⟩ := settled.lamports
  have tokens : Booked [(env.associatedTokenAddress a program order.token, account.amount)]
      [((order.cancelCall env a program).call.receiver, Src.sentTokens order account)] s.ledger.tokens
      l'.tokens := settled.tokens
  have sum : rest + order.wrappedLamports env a program s.ledger =
      s.ledger.lamports (env.associatedTokenAddress a program order.token) :=
    ready.sentLamports_eq ▸ all
  have posted : Booked [(env.associatedTokenAddress a program order.token,
        order.wrappedLamports env a program s.ledger),
      (env.associatedTokenAddress a program order.token, rest), (a, s.ledger.lamports a)]
      [((order.cancelCall env a program).call.receiver,
        order.wrappedLamports env a program s.ledger), (order.creator, rest),
        (order.creator, s.ledger.lamports a)] s.ledger.lamports l'.lamports :=
    ready.sentLamports_eq ▸ lamports
  have atCreator := posted.account order.creator
  simp only [posted_cons, posted_nil, if_neg notOrder, if_neg notAta, if_pos] at atCreator
  cases native : order.assetIsNative with
  | true =>
    have receiver : (order.cancelCall env a program).call.receiver = order.creator := by
      change (payeeAccount env order.assetIsNative order.creator program order.token).getD _ = _
      rw [native]
      rfl
    have nothing : order.wrappedLamports env a program s.ledger = 0 := if_neg (by simp [native])
    rw [receiver, nothing, if_pos rfl] at atCreator
    exact ⟨settled.orderClosed, settled.ataClosed, by simp [native], by simp [native], by omega⟩
  | false =>
    have receiver : (order.cancelCall env a program).call.receiver =
        env.associatedTokenAddress order.creator program order.token := by
      change (payeeAccount env order.assetIsNative order.creator program order.token).getD _ = _
      rw [native]
      rfl
    have notReceiver : order.creator ≠ env.associatedTokenAddress order.creator program order.token :=
      fun same => env.associated_notWallet _ _ _ (same ▸ creator)
    have distinct : env.associatedTokenAddress order.creator program order.token ≠
        env.associatedTokenAddress a program order.token :=
      fun same => notOrder (free.associated_inj same).1
    have notReceiverToo : env.associatedTokenAddress order.creator program order.token ≠ a :=
      ((trace.placed live).derived.ne_associated free _ _ _).symm
    have everything : Src.sentTokens order account = account.amount := if_neg (by simp [native])
    have atReceiver := posted.account (env.associatedTokenAddress order.creator program order.token)
    have received := tokens.account (env.associatedTokenAddress order.creator program order.token)
    rw [receiver] at atCreator atReceiver received
    rw [if_neg notReceiver] at atCreator
    simp only [posted_cons, posted_nil, if_neg distinct, if_neg notReceiverToo,
      if_neg (Ne.symm notReceiver), if_pos] at atReceiver received
    refine ⟨settled.orderClosed, settled.ataClosed, fun _ => ?_, fun _ => by omega, by omega⟩
    rw [Ledger.tokens_of_token ready.loaded, ← everything]
    omega

/-- A ready order is called off by its creator. -/
theorem Trace.cancel_runs (wrapped : env.mintProgram env.NATIVE_MINT = some .token)
    (receivable : Receivable env order.assetIsNative order.creator program order.token s.ledger) :
    ∃ l', Src.cancelOrder env s.clock (order.cancelCall env a program) s.ledger = .ok l' := by
  have stored := Ledger.programAt_eq_some.mp live
  have creator : env.Wallet order.creator := trace.parties live
  have notAta : env.associatedTokenAddress a program order.token ≠ order.creator :=
    fun same => env.associated_notWallet _ _ _ (same ▸ creator)
  have wraps : order.assetIsNative = true → account.isNative.isSome = true := by
    intro native
    have mint : order.token = env.NATIVE_MINT := (trace.termsFit live).2 native
    have owned := ready.owned
    rw [mint, wrapped] at owned
    rw [ready.wraps, mint, ← Option.some.inj owned]
    rfl
  obtain ⟨l', ends⟩ := ready.closes ⟨env.srcId, [order.creator], s.clock⟩ stored
    (trace.wallet_ne live creator) notAta free rfl wraps receivable
  obtain ⟨returned, returns, rest⟩ := bind_ok.mp ends
  obtain ⟨closed, close, finish⟩ := bind_ok.mp rest
  refine ⟨l', ?_⟩
  simp only [Src.cancelOrder, bind_ok, requireMint_ok, requireSeeds_ok, requireThat_ok,
    checkOptionalToken_ok, loadOrder_ok, loadAssociatedToken_ok, exists_const]
  exact ⟨order, stored, rfl, by rw [Order.cancelCall, ready.owned]; rfl, rfl, ready.seeds, account,
    ⟨ready.loaded, ready.programEq, ready.owner, rfl⟩, receivable.checked,
    payeeAccount_isNone order.assetIsNative order.creator order.token program,
    returned, returns, closed, close, finish⟩

/-- The runtime accepts the cancellation if the order's own lamports make its creator
rent-exempt: the other accounts are closed, or hold tokens. -/
theorem Trace.cancel_processes (rent : RentSound env.toHost s.ledger)
    (receivable : Receivable env order.assetIsNative order.creator program order.token s.ledger)
    (exempt : env.ExemptWith s.ledger order.creator (s.ledger.lamports a))
    (ran : Src.cancelOrder env s.clock (order.cancelCall env a program) s.ledger = .ok l') :
    (Instruction.src (.cancelOrder (order.cancelCall env a program))).process env s.clock s.ledger =
      .ok l' := by
  have creator : env.Wallet order.creator := trace.parties live
  have notOrder : order.creator ≠ a := trace.wallet_ne live creator
  have notAta : order.creator ≠ env.associatedTokenAddress a program order.token :=
    fun same => env.associated_notWallet _ _ _ (same ▸ creator)
  have settled := trace.cancel_settles free live ready ran
  have signed : ∀ key ∈ (Instruction.src (.cancelOrder (order.cancelCall env a program))).signers,
      env.Wallet key := wallet_of_signers creator
  have running : (Instruction.src (.cancelOrder (order.cancelCall env a program))).run env s.clock
      s.ledger = .ok l' := ran
  have token : ∀ k ∈ payeeAccount env order.assetIsNative order.creator program order.token,
      l'.data k ≠ .empty := by
    intro k given empty
    obtain ⟨account, held, _⟩ :=
      (receivable.stands creator (Instruction.standing running)).checked k given
    rw [held] at empty
    cases empty
  have drained := settled.drained ⟨notOrder, notAta⟩ (trace.cancel_apart free live)
    (ne_of_program (Ledger.programAt_eq_some.mp live) ready.loaded)
  obtain ⟨rest, all, _⟩ := settled.lamports
  refine (trace.processes_iff free rent signed running).mpr fun k writable empty => ?_
  simp only [Instruction.writable, Src.Instruction.writable, List.cons_append, List.nil_append,
    List.mem_cons, Option.mem_toList] at writable
  rcases writable with rfl | rfl | rfl | given
  · have unpaid : order.creator ∉ (order.cancelCall env a program).creatorAta := fun given =>
      token _ given empty
    have data := settled.others _ notOrder notAta unpaid
    have paid := (trace.cancel_pays free live ready ran).lamports
    have sum : rest + order.wrappedLamports env a program s.ledger =
      s.ledger.lamports (env.associatedTokenAddress a program order.token) := ready.sentLamports_eq ▸ all
    refine Ledger.RentExempt.allowed ?_
    change env.minimumBalance (env.dataLen Data.space (l'.data order.creator)) ≤
      l'.lamports order.creator
    unfold Environment.ExemptWith at exempt
    rw [data]
    omega
  · exact rentAllowed_of_drained drained.1
  · exact rentAllowed_of_drained drained.2
  · exact absurd empty (token k given)

end Cancel

/-- In every reachable state, for every live order that no rescue ran on: its
creator can call it off at once, whatever the time and the fills so far, with its
token account if the order is not native; both accounts of the order are closed
and the creator has all that they held, no less than what remained. The runtime
accepts the call if the lamports of the order make its creator rent-exempt. -/
theorem Trace.order_cancellable (free : env.CollisionFree) (trace : Trace env h s)
    (wrapped : env.mintProgram env.NATIVE_MINT = some .token)
    (live : s.ledger.programAt a = some (.order order)) (whole : orderUnrescued a h = true) :
    ∃ program, env.mintProgram order.token = some program ∧
      order.remainingAmount.toNat ≤
        s.ledger.tokens (env.associatedTokenAddress a program order.token) ∧
      (order.assetIsNative = true → order.remainingAmount.toNat ≤
        s.ledger.lamports (env.associatedTokenAddress a program order.token)) ∧
      (Receivable env order.assetIsNative order.creator program order.token s.ledger →
        ∃ l', Src.cancelOrder env s.clock (order.cancelCall env a program) s.ledger = .ok l' ∧
          CalledOff env a order program s.ledger l' ∧
          (RentSound env.toHost s.ledger →
            env.ExemptWith s.ledger order.creator (s.ledger.lamports a) →
            (Instruction.src (.cancelOrder (order.cancelCall env a program))).process env s.clock
              s.ledger = .ok l')) := by
  obtain ⟨program, account, ready⟩ := trace.order_ready free live whole
  refine ⟨program, ready.owned, ?_, ready.lamports, fun receivable => ?_⟩
  · rw [Ledger.tokens_of_token ready.loaded]
    exact ready.remaining
  · obtain ⟨l', ran⟩ := trace.cancel_runs free live ready wrapped receivable
    exact ⟨l', ran, trace.cancel_pays free live ready ran, fun rent exempt =>
      trace.cancel_processes free live ready rent receivable exempt ran⟩

def Sample.callable : Sample.Scenario (fun r =>
    (((r.state.ledger.programAt (Sample.orderAt Sample.single)).bind Data.toOrder).any (fun o =>
        decide (o.token = Sample.usdc ∧ o.creator = Sample.maker ∧
          orderUnrescued (Sample.orderAt Sample.single) r.history = true ∧
          Sample.env.ExemptWith r.state.ledger o.creator
            (r.state.ledger.lamports (Sample.orderAt Sample.single)))) &&
      Sample.holds Sample.maker r.state.ledger) = true) where
  commands := [.wait 100, .call (.src (.create (Sample.create Sample.single)))]

/-- The maker of the sample order calls it off. -/
theorem Trace.order_cancellable_sample : ∃ (s : State Term) (order : Order Term) (l' : Chain Term),
    s.ledger.programAt (Sample.orderAt Sample.single) = some (.order order) ∧
      (Instruction.src (.cancelOrder (order.cancelCall Sample.env (Sample.orderAt Sample.single)
        .token))).process Sample.env s.clock s.ledger = .ok l' ∧
      l'.data (Sample.orderAt Sample.single) = .empty := by
  obtain ⟨r, trace, rent, stands⟩ := Sample.callable.reached_sound Sample.rentSound
  obtain ⟨held, maker⟩ := Bool.and_eq_true_iff.mp stands
  obtain ⟨order, live, token, creator, whole, exempt⟩ := Sample.live_order held
  have holds := Sample.holdsAccount maker
  rw [← creator, ← token] at holds
  obtain ⟨program, owned, _, _, succeeds⟩ :=
    trace.order_cancellable Sample.collisionFree rfl live whole
  rw [token] at owned
  obtain rfl : TokenProgram.token = program := Option.some.inj owned
  obtain ⟨l', _, called, accepted⟩ := succeeds (fun _ => holds)
  exact ⟨r.state, order, l', live, accepted rent exempt, called.closed⟩

/-! ## Filling -/

/-- What the order itself asks of a fill: that it fits and comes in time, with the
auction data that the maker committed to, with a proof exactly for an order in
parts, and that the proof and the price of the fill go through. -/
structure Order.Allows (env : Environment K) (clock : Clock) (order : Order K) (amount : U64)
    (proof : Option MerkleProof) (auction : AuctionData) : Prop where
  fits : requireFillAmount order amount = .ok ()
  notExpired : clock.unixTimestamp < order.expirationTime
  committed : ∃ bytes, auction.tryToVec = .ok bytes ∧
    hashv env [bytes] = order.dutchAuctionDataHash
  proofGiven : order.allowMultipleFills = proof.isSome
  accepted : ∃ hashlock, acceptedHashlock env order amount proof = .ok hashlock
  priced : ∃ share, shareOfDstAmount order.dstAmount amount order.amount = .ok share ∧
    ∃ dstAmount, getDstAmount clock share auction = .ok dstAmount

def Order.escrowAddress (env : Environment K) (order : Order K) (taker : K) (amount : U64)
    (proof : Option MerkleProof) : K :=
  (env.findProgramAddress env.srcId (escrowSeeds order.orderHash
    (getEscrowHashlock order.hashlock proof) taker amount)).1

/-- What a taker pays for the accounts of one escrow. -/
def Environment.escrowRent (env : Environment K) (mint : K) : Nat :=
  env.minimumBalance (discriminatorBytes + EscrowSrc.initSpace) +
    env.minimumBalance (env.tokenAccountLen mint)

/-- `create_escrow` with the accounts that follow from the order and the taker. -/
def Order.fillCall (env : Environment K) (order : Order K) (a : K) (program : TokenProgram) (taker : K)
    (amount : U64) (proof : Option MerkleProof) (auction : AuctionData) : Src.CreateEscrow K where
  taker := taker
  resolverAccess := env.accessAddress env.srcId taker
  maker := order.creator
  mint := order.token
  order := a
  orderAta := env.associatedTokenAddress a program order.token
  escrow := order.escrowAddress env taker amount proof
  escrowAta := env.associatedTokenAddress (order.escrowAddress env taker amount proof) program
    order.token
  tokenProgram := program
  amount := amount
  merkleProof := proof
  dutchAuctionData := auction

section Fill
variable {program : TokenProgram} {account : TokenAccount K} {fill : Src.CreateEscrow K}
  {moved : Chain K}

omit [DecidableEq K] in
/-- A fill that ends the order takes everything its account holds. -/
theorem Order.Allows.taken {amount : U64} {proof : Option MerkleProof} {auction : AuctionData}
    (allows : order.Allows env clock amount proof auction)
    (whole : order.allowMultipleFills = false → order.remainingAmount = order.amount) :
    amount.toNat ≤ order.remainingAmount.toNat ∧
      (order.allowMultipleFills = false ∨ order.remainingAmount = amount →
        order.remainingAmount = amount) := by
  rcases requireThat_ok.mp allows.fits with ⟨_, within⟩ | ⟨single, all⟩
  · have multi : order.allowMultipleFills = true := by assumption
    refine ⟨within, fun ends => ends.resolve_left ?_⟩
    rw [multi]
    simp
  · rw [all, whole single]
    exact ⟨Nat.le_refl _, fun _ => rfl⟩

/-- The order settles after the transfer: its emptied account closes with it, or
it counts the fill. -/
theorem OrderReady.settles (ready : OrderReady env s a order program account)
    (ctx : Context K) (inside : ctx.programId = env.srcId)
    (creator : order.creator ≠ a)
    (notAta : env.associatedTokenAddress a program order.token ≠ order.creator)
    (named : fill.order = a ∧ fill.maker = order.creator ∧ fill.tokenProgram = program ∧
      fill.orderAta = env.associatedTokenAddress a program order.token)
    (within : fill.amount.toNat ≤ order.remainingAmount.toNat)
    (ends : order.allowMultipleFills = false ∨ order.remainingAmount = fill.amount →
      order.remainingAmount = fill.amount)
    (stored : moved.data a = .program (.order order))
    (debited : moved.data (env.associatedTokenAddress a program order.token) =
      .token { account with amount := account.amount -
        (Src.amountToTransfer order ⟨fill.orderAta, account⟩ fill.amount) }) :
    ∃ l', Src.settleOrder env ctx fill order moved = .ok l' := by
  obtain ⟨rfl, maker, tokenProgram, orderAta⟩ := named
  unfold Src.settleOrder
  split
  · next last =>
    have signs := ready.signs ctx inside
    rw [Src.amountToTransfer, if_pos (ends last), Nat.sub_self] at debited
    have close := (closeAccount_ok (ε := ProgramError)).mpr ⟨_, debited, ready.programEq, notAta,
      Or.inr rfl, ready.owner, signs, rfl⟩
    have notOrder := ne_of_program stored debited
    have kept := (closeAccount_effect close).2.1 fill.order (Ne.symm notOrder)
    rw [maker, tokenProgram, orderAta]
    exact ⟨_, bind_ok.mpr ⟨_, close, closeProgram_ok.mpr ⟨_, kept.trans stored, Ne.symm creator, rfl⟩⟩⟩
  · obtain ⟨left, counted, _⟩ := minus_some within
    refine ⟨_, bind_ok.mpr ⟨left, counted, writeProgram_ok.mpr ⟨?_, rfl⟩⟩⟩
    rw [Ledger.tokenAt, stored]
    rfl

/-- A taker who is on the whitelist and has the rent of both accounts can make
every fill that the order allows. -/
theorem Trace.fill_runs (free : env.CollisionFree) (trace : Trace env h s)
    (live : s.ledger.programAt a = some (.order order))
    (ready : OrderReady env s a order program account) {taker : K} {amount : U64}
    {proof : Option MerkleProof} {auction : AuctionData}
    (wallet : env.Wallet taker) (plain : s.ledger.data taker = .empty)
    (rent : env.escrowRent order.token ≤ s.ledger.lamports taker)
    (listed : Enrolled (env.srcId, taker) (whitelistLog h))
    (vacant : s.ledger.data (order.escrowAddress env taker amount proof) = .empty)
    (allows : order.Allows env s.clock amount proof auction) :
    ∃ l', Src.createEscrow env s.clock
      (order.fillCall env a program taker amount proof auction) s.ledger = .ok l' := by
  have stored := Ledger.programAt_eq_some.mp live
  have creator : env.Wallet order.creator := trace.parties live
  have notAta : env.associatedTokenAddress a program order.token ≠ order.creator :=
    fun same => env.associated_notWallet _ _ _ (same ▸ creator)
  have notCreator : order.creator ≠ a := trace.wallet_ne live creator
  obtain ⟨within, last⟩ := allows.taken (trace.tracked live).whole
  -- the addresses of the escrow, kept opaque
  obtain ⟨escrow, found⟩ : ∃ escrow, order.escrowAddress env taker amount proof = escrow := ⟨_, rfl⟩
  obtain ⟨escrowAta, isAta⟩ :
      ∃ k, env.associatedTokenAddress escrow program order.token = k := ⟨_, rfl⟩
  have derived : env.Derived escrow := env.derived_src (env.find_created found.symm)
  rw [Order.fillCall, found, isAta]
  rw [found] at vacant
  have notOrder : a ≠ escrow := by
    intro same
    rw [← same, stored] at vacant
    cases vacant
  have distinct : env.associatedTokenAddress a program order.token ≠ escrowAta := by
    rw [← isAta]
    exact fun same => notOrder (free.associated_inj same).1
  obtain ⟨allocated, opened, allocate, init, effect⟩ :=
    trace.opens free derived vacant ready.owned wallet plain rent
  obtain ⟨token, loadedTo, programs, owner, mints⟩ := effect.holds
  have others := effect.others
  rw [isAta] at init loadedTo others
  -- the order's account pays the escrow's
  have loaded := (others _ distinct).trans ready.loaded
  obtain ⟨n, taken⟩ : ∃ n, Src.amountToTransfer order
    ⟨env.associatedTokenAddress a program order.token, account⟩ amount = n := ⟨_, rfl⟩
  have enough : n ≤ account.amount := by
    rw [← taken, Src.amountToTransfer]
    split
    · exact Nat.le_refl _
    · exact Nat.le_trans within ready.remaining
  have covered := Nat.le_trans (Nat.le_trans (account.wrapped_mono enough) ready.covered)
    (effect.kept _ (by rw [ready.loaded]; simp))
  let ctx : Context K := ⟨env.srcId, [taker], s.clock⟩
  have signs : a ∈ ctx.callSigners env (some (Src.Order.signerSeeds order)) :=
    ready.signs ctx rfl
  obtain ⟨moved, transfer⟩ := uniTransfer_succeeds loaded loadedTo ⟨ready.programEq, programs⟩
    ⟨ready.mint, mints⟩ ready.owner signs enough covered
  have effects := uniTransfer_moved distinct loaded transfer
  -- the escrow is written and the order settled
  have escrowMissed : escrow ≠ escrowAta := isAta ▸ derived.ne_associated free _ _ _
  have escrowMissedToo : escrow ≠ env.associatedTokenAddress a program order.token :=
    derived.ne_associated free _ _ _
  have orderMissed := ne_of_program stored ready.loaded
  have orderMissedToo : a ≠ escrowAta :=
    isAta ▸ (trace.placed live).derived.ne_associated free _ _ _
  have empty : moved.data escrow = .empty := by
    rw [effects.others _ escrowMissedToo escrowMissed, others _ escrowMissed, vacant]
  have held : moved.data a = .program (.order order) := by
    rw [effects.others _ (Ne.symm orderMissed) orderMissedToo, others _ orderMissedToo, stored]
  obtain ⟨share, shared, dstAmount, scaled⟩ := allows.priced
  obtain ⟨hashlock, accepted⟩ := allows.accepted
  obtain ⟨bytes, serialized, committed⟩ := allows.committed
  have write (value : Data K) : (writeProgram escrow value moved : Result (Chain K)) =
      .ok (moved.setData escrow (.program value)) :=
    writeProgram_ok.mpr ⟨by rw [Ledger.tokenAt, empty]; rfl, rfl⟩
  let fill : Src.CreateEscrow K := ⟨taker, env.accessAddress env.srcId taker, order.creator,
    order.token, a, env.associatedTokenAddress a program order.token, escrow, escrowAta, program,
    amount, proof, auction⟩
  obtain ⟨l', settle⟩ := ready.settles ctx rfl notCreator notAta
    (show fill.order = a ∧ _ from ⟨rfl, rfl, rfl, rfl⟩) within last
    ((Ledger.setData_data_other _ _ _ notOrder).trans held)
    ((Ledger.setData_data_other _ _ _ (Ne.symm escrowMissedToo)).trans
      (by rw [effects.debited, taken]))
  refine ⟨l', ?_⟩
  simp only [Src.createEscrow, bind_ok, requireMint_ok, requireSeeds_ok, requireFound_ok,
    requireThat_ok, loadOrder_ok, loadAssociatedToken_ok, exists_const]
  exact ⟨(), (trace.resolver_iff free _ _).mpr listed, order, stored, rfl, by rw [ready.owned]; rfl, rfl,
    ready.seeds, account, ⟨ready.loaded, ready.programEq, ready.owner, trivial⟩, found.symm, allocated,
    allocate, opened, init, (), allows.fits, allows.notExpired, bytes, serialized, committed,
    allows.proofGiven, hashlock, accepted, moved, taken ▸ transfer, share, shared, dstAmount, scaled, _,
    write _, settle⟩

/-- A wallet keeps its data in a fill, and only the taker pays, at most the rent of both
accounts. -/
theorem Trace.fill_wallet (trace : Trace env h s)
    (ran : Src.createEscrow env s.clock fill s.ledger = .ok l') {k : K} (wallet : env.Wallet k) :
    l'.data k = s.ledger.data k ∧ ∃ cost, cost ≤ env.escrowRent fill.mint ∧
      (k ≠ fill.taker → cost = 0) ∧ s.ledger.lamports k ≤ l'.lamports k + cost := by
  obtain ⟨v, steps⟩ := Src.createEscrow_steps ran
  have live := Ledger.programAt_eq_some.mpr steps.loaded
  have derived : env.Derived fill.escrow := env.derived_src (env.find_created steps.derived)
  have notEscrow : k ≠ fill.escrow := fun same => derived.notWallet (same ▸ wallet)
  have notOrder : k ≠ fill.order := trace.wallet_ne live wallet
  have notEscrowAta : k ≠ fill.escrowAta := by
    rw [steps.filled.derived]
    exact fun same => env.associated_notWallet _ _ _ (same ▸ wallet)
  have notOrderAta : k ≠ fill.orderAta := by
    rw [steps.ataDerived]
    exact fun same => env.associated_notWallet _ _ _ (same ▸ wallet)
  exact ⟨steps.others notEscrow notEscrowAta notOrder notOrderAta, steps.spent notOrder notOrderAta⟩

/-- A rent-exempt wallet stays so in a fill, the taker if it can spare the rent. -/
theorem Trace.fill_exempt (trace : Trace env h s)
    (ran : Src.createEscrow env s.clock fill s.ledger = .ok l')
    (spare : env.CanSpare s.ledger fill.taker (env.escrowRent fill.mint)) {k : K}
    (wallet : env.Wallet k) (exempt : env.RentExempt s.ledger k) : env.RentExempt l' k := by
  obtain ⟨data, cost, bound, others, paid⟩ := trace.fill_wallet ran wallet
  by_cases same : k = fill.taker
  · subst k
    exact spare.exempt data (Nat.le_trans paid (Nat.add_le_add_left bound _))
  · rw [others same] at paid
    exact exempt.grow data paid

/-- The runtime accepts a fill of a rent-exempt maker's order by a taker that can spare
the rent of both accounts: the maker only gains, and the other accounts hold data or
are closed. -/
theorem Trace.fill_processes (free : env.CollisionFree) (trace : Trace env h s)
    (rent : RentSound env.toHost s.ledger) (wallet : env.Wallet fill.taker)
    (spare : env.CanSpare s.ledger fill.taker (env.escrowRent fill.mint))
    (exempt : env.RentExempt s.ledger fill.maker)
    (ran : Src.createEscrow env s.clock fill s.ledger = .ok l') :
    (Instruction.src (.createEscrow fill)).process env s.clock s.ledger = .ok l' := by
  obtain ⟨v, steps⟩ := Src.createEscrow_steps ran
  have live := Ledger.programAt_eq_some.mpr steps.loaded
  have maker : env.Wallet fill.maker := steps.maker ▸ trace.parties live
  have notOrder : fill.maker ≠ fill.order := trace.wallet_ne live maker
  have notAta : fill.maker ≠ fill.orderAta := by
    rw [steps.ataDerived]
    exact fun same => env.associated_notWallet _ _ _ (same ▸ maker)
  have takerExempt : env.RentExempt s.ledger fill.taker := Nat.le_trans (Nat.le_add_right _ _) spare
  have running : (Instruction.src (.createEscrow fill)).run env s.clock s.ledger = .ok l' := ran
  have signed : ∀ key ∈ (Instruction.src (.createEscrow fill)).signers, env.Wallet key :=
    wallet_of_signers wallet
  refine (trace.processes_iff free rent signed running).mpr fun k writable empty => ?_
  simp only [Instruction.writable, Src.Instruction.writable, List.mem_cons, List.not_mem_nil,
    or_false] at writable
  rcases writable with rfl | rfl | rfl | rfl | rfl | rfl
  · exact (trace.fill_exempt ran spare wallet takerExempt).allowed
  · exact (trace.fill_exempt ran spare maker exempt).allowed
  · exact rentAllowed_of_drained (steps.drained (steps.ends_of_empty (Or.inl empty)) notOrder notAta).1
  · exact rentAllowed_of_drained (steps.drained (steps.ends_of_empty (Or.inr empty)) notOrder notAta).2
  · rw [Ledger.programAt_eq_some.mp steps.escrow_programAt] at empty
    cases empty
  · obtain ⟨after, held, _⟩ := steps.filled.account
    rw [held] at empty
    cases empty

/-- The fill is made: its escrow stands with the hashlock accepted and the price
asked, its token account holds the amount, and the order is closed or counts the
fill. -/
structure Src.CreateEscrow.Made (env : Environment K) (clock : Clock) (order : Order K)
    (fill : Src.CreateEscrow K) (l' : Chain K) : Prop where
  escrow : ∃ hashlock share dstAmount,
    acceptedHashlock env order fill.amount fill.merkleProof = .ok hashlock ∧
    shareOfDstAmount order.dstAmount fill.amount order.amount = .ok share ∧
    getDstAmount clock share fill.dutchAuctionData = .ok dstAmount ∧
    l'.programAt fill.escrow =
      some (.escrowSrc (fill.newEscrow env order hashlock dstAmount clock.unixTimestamp))
  collateral : fill.amount.toNat ≤ l'.tokens fill.escrowAta
  left : fill.Leaves order (l'.programAt fill.order)

/-- What a fill that succeeded had and did. -/
theorem OrderReady.made (ready : OrderReady env s a order program account)
    (live : s.ledger.programAt a = some (.order order)) (same : fill.order = a)
    (isAta : fill.orderAta = env.associatedTokenAddress a program order.token)
    (whole : order.allowMultipleFills = false → order.remainingAmount = order.amount)
    (ran : Src.createEscrow env s.clock fill s.ledger = .ok l') :
    requireResolverAccess env env.srcId fill.taker fill.resolverAccess s.ledger = .ok () ∧
      s.ledger.data fill.escrow = .empty ∧
      order.Allows env s.clock fill.amount fill.merkleProof fill.dutchAuctionData ∧
      fill.Made env s.clock order l' := by
  obtain ⟨v, steps⟩ := Src.createEscrow_steps ran
  obtain rfl : v.order = order := steps.order_eq (same ▸ live)
  have allows : v.order.Allows env s.clock fill.amount fill.merkleProof fill.dutchAuctionData := {
    fits := steps.amount
    notExpired := steps.notExpired
    committed := ⟨v.auctionBytes, steps.auction, steps.committed⟩
    proofGiven := steps.proofGiven
    accepted := ⟨v.hashlock, steps.accepted⟩
    priced := ⟨v.share, steps.share, v.dstAmount, steps.dstAmount⟩ }
  refine ⟨steps.resolver, (createAccount_ok.mp steps.allocate).1, allows, ⟨v.hashlock, v.share,
    v.dstAmount, steps.accepted, steps.share, steps.dstAmount, steps.escrow_programAt⟩, ?_, ?_⟩
  · have token := steps.token
    rw [isAta, ready.loaded] at token
    have taken : fill.amount.toNat ≤ v.taken fill := by
      apply taken_enough
      rw [← AccountData.token.inj token]
      exact ready.remaining
    exact Nat.le_trans taken (Nat.le_trans (Nat.le_add_left _ _) steps.filled.gained)
  · obtain ⟨left, leaves, programs⟩ := steps.programAt
    rw [programs, Function.update_self]
    exact leaves

/-- The transaction of a fill that the order allows succeeds, and no other does. -/
theorem Trace.fill_processesIff (free : env.CollisionFree) (trace : Trace env h s)
    (live : s.ledger.programAt a = some (.order order))
    (ready : OrderReady env s a order program account) (rent : RentSound env.toHost s.ledger)
    (exempt : env.RentExempt s.ledger order.creator) {taker : K} {amount : U64}
    {proof : Option MerkleProof} {auction : AuctionData} (wallet : env.Wallet taker)
    (plain : s.ledger.data taker = .empty)
    (spare : env.CanSpare s.ledger taker (env.escrowRent order.token)) :
    s.ProcessesIff env
      (.src (.createEscrow (order.fillCall env a program taker amount proof auction)))
      (Enrolled (env.srcId, taker) (whitelistLog h) ∧
        s.ledger.data (order.escrowAddress env taker amount proof) = .empty ∧
        order.Allows env s.clock amount proof auction)
      ((order.fillCall env a program taker amount proof auction).Made env s.clock order) := by
  refine State.processesIff (fun l' ran => ?_) fun ⟨listed, vacant, allows⟩ => ?_
  · obtain ⟨resolver, vacant, allows, _⟩ := ready.made live rfl rfl (trace.tracked live).whole ran
    exact ⟨(trace.resolver_iff free _ _).mp resolver, vacant, allows⟩
  · have enough : env.escrowRent order.token ≤ s.ledger.lamports taker :=
      Nat.le_trans (Nat.le_add_left _ _) spare
    obtain ⟨l', ran⟩ := trace.fill_runs free live ready wallet plain enough listed vacant allows
    exact ⟨l', trace.fill_processes free rent wallet spare exempt ran,
      (ready.made live rfl rfl (trace.tracked live).whole ran).2.2.2⟩

end Fill

/-- In every reachable state whose token accounts are rent-exempt, for every live order
of a rent-exempt maker that no rescue ran on, and every wallet without data that can
spare the rent of both accounts of an escrow: the transaction of its fill succeeds
exactly when the wallet is on the whitelist, the address of the escrow is vacant and
the order allows the fill; then the escrow stands with at least the amount, and the
order is closed or counts the fill. -/
theorem Trace.order_fillable (free : env.CollisionFree) (trace : Trace env h s)
    (live : s.ledger.programAt a = some (.order order)) (whole : orderUnrescued a h = true)
    (rent : RentSound env.toHost s.ledger) (exempt : env.RentExempt s.ledger order.creator) :
    ∃ program, env.mintProgram order.token = some program ∧
      ∀ (taker : K) (amount : U64) (proof : Option MerkleProof) (auction : AuctionData),
        env.Wallet taker → s.ledger.data taker = .empty →
        env.CanSpare s.ledger taker (env.escrowRent order.token) →
        s.ProcessesIff env
          (.src (.createEscrow (order.fillCall env a program taker amount proof auction)))
          (Enrolled (env.srcId, taker) (whitelistLog h) ∧
            s.ledger.data (order.escrowAddress env taker amount proof) = .empty ∧
            order.Allows env s.clock amount proof auction)
          ((order.fillCall env a program taker amount proof auction).Made env s.clock order) := by
  obtain ⟨program, account, ready⟩ := trace.order_ready free live whole
  exact ⟨program, ready.owned, fun taker amount proof auction wallet plain spare =>
    trace.fill_processesIff free live ready rent exempt wallet plain spare⟩

def Sample.fillable : Sample.Scenario (fun r =>
    ((r.state.ledger.programAt (Sample.orderAt Sample.single)).bind Data.toOrder).any (fun o =>
      decide (o.token = Sample.usdc ∧ orderUnrescued (Sample.orderAt Sample.single) r.history = true ∧
        Sample.env.RentExempt r.state.ledger o.creator ∧
        r.state.ledger.data Sample.taker = .empty ∧
        Sample.env.CanSpare r.state.ledger Sample.taker (Sample.env.escrowRent o.token) ∧
        ((Instruction.src (.createEscrow (o.fillCall Sample.env (Sample.orderAt Sample.single) .token
          Sample.taker 1000 none Sample.auction))).process Sample.env r.state.clock
            r.state.ledger).toOption.isSome = true)) = true) where
  commands := Sample.whitelisting ++ [.wait 100, .call (.src (.create (Sample.create Sample.single))),
    .wait 150]

/-- The taker fills the sample order, which allows it. -/
theorem Trace.order_fillable_sample : ∃ (s : State Term) (order : Order Term) (l' : Chain Term),
    order.Allows Sample.env s.clock 1000 none Sample.auction ∧
      (order.fillCall Sample.env (Sample.orderAt Sample.single) .token Sample.taker 1000 none
        Sample.auction).Made Sample.env s.clock order l' := by
  obtain ⟨r, trace, rent, stands⟩ := Sample.fillable.reached_sound Sample.rentSound
  obtain ⟨order, live, token, whole, exempt, plain, spare, runs⟩ := Sample.live_order stands
  obtain ⟨program, owned, fillable⟩ :=
    trace.order_fillable Sample.collisionFree live whole rent exempt
  rw [token] at owned
  obtain rfl : TokenProgram.token = program := Option.some.inj owned
  obtain ⟨iff, made⟩ := fillable Sample.taker 1000 none Sample.auction (Sample.wallet_atom 12) plain spare
  obtain ⟨l', processed⟩ := isSome_toOption runs
  exact ⟨r.state, order, l', (iff.mp ⟨l', processed⟩).2.2, made l' processed⟩

end CrossChainEscrow.Source
