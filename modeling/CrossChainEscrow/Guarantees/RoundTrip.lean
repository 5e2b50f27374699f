import CrossChainEscrow.Effects.OrderPayouts
import CrossChainEscrow.Guarantees.HonestSwap
import CrossChainEscrow.Guarantees.Independence

/-!
# Calling an order off undoes placing it

A maker who places an order at fresh addresses and calls it off before anything else
happens to its accounts has the ledger back as it was: the rent of both accounts, the
tokens with the lamports they wrap, or the lamports of a native order.
-/

namespace CrossChainEscrow.Source
open Library.Words Library.Bytes Library.Accounts Library.Bookkeeping

variable {K : Type} [DecidableEq K] {env : Environment K} {h : History K} {s : State K}
  {l l' : Chain K} {clock : Clock}

namespace Src

/-! ## What placing an order posts -/

section Create
variable {c : Create K} {allocated initialized funded : Chain K}
  (steps : Create.Steps env clock c l allocated initialized funded l')
include steps

/-- A native order is funded with the maker's own lamports. -/
theorem Create.Steps.native_booked (native : c.assetIsNative = true) :
    Booked [(c.creator, c.amount.toNat)] [(c.orderAta, c.amount.toNat)] initialized.lamports
      funded.lamports := by
  have fund := steps.fund
  rw [fundOrder, if_pos native] at fund
  obtain ⟨paid, transfer, sync⟩ := bind_ok.mp fund
  obtain ⟨enough, moved⟩ := uniTransfer_native transfer
  obtain ⟨_, _, _, _, _, _, rfl⟩ := syncNative_ok.mp sync
  rw [Ledger.setData_lamports, moved]
  exact moveLamports_booked enough

/-- Any other order is funded from the maker's token account of its mint, which pays the
amount with the lamports that it wraps. -/
theorem Create.Steps.tokens_moved (plain : c.assetIsNative = false) (other : c.creator ≠ c.order) :
    ∃ key source, c.creatorAta = some key ∧ key ≠ c.orderAta ∧ l.data key = .token source ∧
      source.mint = c.mint ∧ source.program = c.tokenProgram ∧
      TokensMoved initialized funded key c.orderAta source c.amount.toNat ∧
      Booked [(key, source.wrapped c.amount.toNat)] [(c.orderAta, source.wrapped c.amount.toNat)]
        initialized.lamports funded.lamports := by
  have fund := steps.fund
  rw [fundOrder, if_neg (by simp [plain])] at fund
  obtain ⟨key, found, transfer⟩ := bind_ok.mp fund
  rw [orFault_ok] at found
  obtain ⟨source, held, program, owner, _⟩ := steps.creatorToken key found
  obtain ⟨account, init⟩ := initIfNeeded_ok steps.init
  have data := topUp_data (createAccount_ok.mp steps.allocate).2
  obtain ⟨distinct, kept⟩ := init.other_owner (data ▸ held) (owner ▸ other)
  have mint : source.mint = c.mint := by
    have positive : c.amount.toNat ≠ 0 := fun zero => steps.positive.1 (BitVec.eq_of_toNat_eq zero)
    unfold uniTransfer at transfer
    simp only [if_neg positive] at transfer
    obtain ⟨loaded, found, _, _, _, mints, _⟩ := transferChecked_ok.mp transfer
    obtain rfl : loaded = source := AccountData.token.inj (found.symm.trans kept)
    exact mints.1
  exact ⟨key, source, found, distinct, held, mint, program, uniTransfer_moved distinct kept transfer,
    (uniTransfer_booked distinct kept transfer).2⟩

end Create

end Src

/-! ## The round trip -/

/-- Entries that cancel each other: what a payer put into an account comes back to the
payer, or to the creator if that was the payer, and so do both rents. -/
theorem rents_return {before between after : K → Nat} {creator payer receiver ata order : K}
    {rent ataRent paid sent rest : Nat}
    (opened : Booked [(creator, rent), (creator, ataRent), (payer, paid)]
      [(order, rent), (ata, ataRent), (ata, paid)] before between)
    (closed : Booked [(ata, sent), (ata, rest), (order, rent)]
      [(receiver, sent), (creator, rest), (creator, rent)] between after)
    (all : rest + sent = ataRent + paid)
    (back : payer = receiver ∧ sent = paid ∨ payer = creator ∧ sent = 0) : after = before := by
  funext k
  have first := opened.account k
  have second := closed.account k
  simp only [posted_cons, posted_nil] at first second
  rcases back with ⟨rfl, rfl⟩ | ⟨rfl, rfl⟩
  · split_ifs at first second <;> omega
  · split_ifs at first second <;> omega

omit [DecidableEq K] in
/-- Sound accounts of one mint wrap lamports alike. -/
theorem wrapped_alike {host : Host K} {account other : TokenAccount K} {n m : Nat}
    (sound : SoundToken host account n) (soundToo : SoundToken host other m)
    (mint : account.mint = other.mint) (program : account.program = other.program) (amount : Nat) :
    account.wrapped amount = other.wrapped amount := by
  have same : account.isNative.isSome = true ↔ other.isNative.isSome = true := by
    rw [sound.native, soundToo.native, mint, program]
  simp only [TokenAccount.wrapped, same]

/-- The addresses of the order and of its token account are unused. -/
structure Src.Create.Fresh (c : Src.Create K) (l : Chain K) : Prop where
  order : l.lamports c.order = 0
  ata : l.data c.orderAta = .empty
  ataLamports : l.lamports c.orderAta = 0

section Placed
variable {c : Src.Create K}

/-- What a placed order has at fresh addresses: both rents, and the amount in tokens or,
for a native order, in lamports. -/
theorem Src.Create.Fresh.placed (fresh : c.Fresh s.ledger) (standard : c.Standard env)
    (free : env.CollisionFree) (wallet : env.Wallet c.creator)
    (ran : Src.create env s.clock c s.ledger = .ok l') :
    ∃ rent ataRent paid payer,
      Booked [(c.creator, rent), (c.creator, ataRent), (payer, paid)]
        [(c.order, rent), (c.orderAta, ataRent), (c.orderAta, paid)] s.ledger.lamports l'.lamports ∧
      l'.lamports c.order = rent ∧ l'.lamports c.orderAta = ataRent + paid ∧
      (c.assetIsNative = true → payer = c.creator) ∧
      (c.assetIsNative = false → c.creatorAta = some payer ∧ l'.tokens c.orderAta = c.amount.toNat ∧
        ∃ source, s.ledger.data payer = .token source ∧ source.mint = c.mint ∧
          source.program = c.tokenProgram ∧ paid = source.wrapped c.amount.toNat) := by
  have derived : env.Derived c.order := env.derived_src (env.find_created standard.order)
  have other : c.creator ≠ c.order := fun same => derived.notWallet (same ▸ wallet)
  obtain ⟨allocated, initialized, funded, steps⟩ := Src.create_steps ran
  have topUp := (createAccount_ok.mp steps.allocate).2
  obtain ⟨rent, allocate⟩ := topUp_booked topUp
  obtain ⟨ataRent, init⟩ := initIfNeeded_booked steps.init
  have notOrder : c.orderAta ≠ c.order := by
    rw [standard.orderAta]
    exact (derived.ne_associated free _ _ _).symm
  have notCreator : c.orderAta ≠ c.creator := by
    rw [standard.orderAta]
    exact fun same => env.associated_notWallet _ _ _ (same ▸ wallet)
  obtain ⟨untaken, written⟩ := writeProgram_ok.mp steps.write
  -- the rents of both accounts, then the amount
  have total : ∀ payer paid, payer ≠ c.order → payer ≠ c.orderAta →
      Booked [(payer, paid)] [(c.orderAta, paid)] initialized.lamports funded.lamports →
      Booked [(c.creator, rent), (c.creator, ataRent), (payer, paid)]
        [(c.order, rent), (c.orderAta, ataRent), (c.orderAta, paid)] s.ledger.lamports l'.lamports ∧
      l'.lamports c.order = rent ∧ l'.lamports c.orderAta = ataRent + paid := by
    intro payer paid apart apartAta funding
    have booked : Booked [(c.creator, rent), (c.creator, ataRent), (payer, paid)]
        [(c.order, rent), (c.orderAta, ataRent), (c.orderAta, paid)] s.ledger.lamports l'.lamports := by
      rw [written, Ledger.setData_lamports]
      exact (allocate.trans init).trans funding
    have atOrder := booked.account c.order
    have atAta := booked.account c.orderAta
    rw [fresh.order] at atOrder
    rw [fresh.ataLamports] at atAta
    refine ⟨booked, ?_, ?_⟩
    · simpa [Ne.symm other, Ne.symm notOrder, Ne.symm apart] using atOrder
    · simpa [notCreator, notOrder, Ne.symm apartAta, Nat.add_assoc] using atAta
  cases native : c.assetIsNative with
  | true =>
    obtain ⟨booked, order, ata⟩ := total c.creator c.amount.toNat other (Ne.symm notCreator)
      (steps.native_booked native)
    exact ⟨rent, ataRent, _, c.creator, booked, order, ata, fun _ => rfl, by simp⟩
  | false =>
    obtain ⟨key, source, given, apartAta, held, mint, program, moved, funding⟩ :=
      steps.tokens_moved native other
    have apart : key ≠ c.order := by
      rintro rfl
      rw [Ledger.tokenAt, moved.debited] at untaken
      cases untaken
    obtain ⟨booked, order, ata⟩ := total key _ apart apartAta funding
    refine ⟨rent, ataRent, _, key, booked, order, ata, by simp, fun _ => ⟨given, ?_, source, held, mint,
      program, rfl⟩⟩
    -- the account opens without tokens
    obtain ⟨account, init⟩ := initIfNeeded_ok steps.init
    have opening := initIfNeeded_opening steps.init init.loaded
    have data := topUp_data topUp
    have lamports : allocated.lamports c.orderAta = 0 := by
      rw [topUp_other topUp notCreator notOrder, fresh.ataLamports]
    rw [Host.opening_fresh (init.derived ▸ data ▸ fresh.ata) (init.derived ▸ lamports)] at opening
    have empty : initialized.tokens c.orderAta = 0 := by
      rw [Ledger.tokens_of_token init.loaded, opening]
    rw [written, Ledger.tokens_congr (Ledger.setData_data_other _ _ _ notOrder), moved.received, empty,
      Nat.zero_add]

/-- The maker's account is still there once the order is placed. -/
theorem Src.Create.Fresh.receivable (fresh : c.Fresh s.ledger) (standard : c.Standard env)
    (free : env.CollisionFree) (wallet : env.Wallet c.creator)
    (ran : Src.create env s.clock c s.ledger = .ok l') :
    Receivable env c.assetIsNative c.creator c.tokenProgram c.mint l' := by
  intro native
  obtain ⟨_, _, _, key, _, _, _, _, tokens⟩ := fresh.placed standard free wallet ran
  obtain ⟨given, _, source, held, mint, program, _⟩ := tokens native
  obtain ⟨_, _, _, steps⟩ := Src.create_steps ran
  obtain ⟨account, loaded, _, owner, derived⟩ := steps.creatorToken key given
  obtain rfl : account = source := AccountData.token.inj (loaded.symm.trans held)
  have calling : (Instruction.src (.create c)).run env s.clock s.ledger = .ok l' := ran
  have holds : HoldsAccount env c.creator c.tokenProgram c.mint s.ledger :=
    ⟨account, derived ▸ loaded, program, owner, mint⟩
  exact holds.stands wallet (Instruction.standing calling)

/-- `cancel_order` with the accounts that the order was placed with. -/
def Src.Create.callOff (c : Src.Create K) : Src.CancelOrder K where
  creator := c.creator
  mint := c.mint
  order := c.order
  orderAta := c.orderAta
  creatorAta := c.creatorAta
  tokenProgram := c.tokenProgram

omit [DecidableEq K] in
theorem Src.Create.Standard.callOff (standard : c.Standard env) (now : U32) :
    (c.newOrder env now).cancelCall env c.order c.tokenProgram = c.callOff := by
  rw [Order.cancelCall, Src.Create.callOff, standard.orderAta, standard.creatorAta]
  rfl

/-- What was posted when the order was placed is posted back. -/
theorem Src.Create.Fresh.lamports_return {m : Chain K} {orderToken : TokenAccount K}
    (fresh : c.Fresh s.ledger) (standard : c.Standard env) (free : env.CollisionFree)
    (wallet : env.Wallet c.creator) (sound : TokenSound env.toHost s.ledger)
    (ran : Src.create env s.clock c s.ledger = .ok l')
    (loaded : l'.data c.orderAta = .token orderToken) (mint : orderToken.mint = c.mint)
    (program : orderToken.program = c.tokenProgram)
    (soundToken : SoundToken env.toHost orderToken (l'.lamports c.orderAta))
    (settled : c.callOff.Settled (c.newOrder env s.clock.unixTimestamp) orderToken l' m) :
    m.lamports = s.ledger.lamports := by
  obtain ⟨rent, ataRent, paid, payer, opened, atOrder, atAta, ofCreator, ofAccount⟩ :=
    fresh.placed standard free wallet ran
  obtain ⟨rest, all, booked⟩ := settled.lamports
  have onOrder : l'.lamports c.callOff.order = rent := atOrder
  have onAta : l'.lamports c.callOff.orderAta = ataRent + paid := atAta
  rw [onOrder] at booked
  rw [onAta] at all
  refine rents_return opened booked all ?_
  cases native : c.assetIsNative with
  | true =>
    refine Or.inr ⟨ofCreator native, ?_⟩
    have nothing : Src.sentTokens (c.newOrder env s.clock.unixTimestamp) orderToken = 0 := if_pos native
    rw [Src.sentLamports, nothing]
    exact ite_self 0
  | false =>
    obtain ⟨given, tokens, source, held, sourceMint, sourceProgram, isPaid⟩ := ofAccount native
    refine Or.inl ⟨?_, ?_⟩
    · change payer = c.creatorAta.getD c.creator
      rw [given, Option.getD_some]
    · have everything : Src.sentTokens (c.newOrder env s.clock.unixTimestamp) orderToken =
          orderToken.amount := if_neg (by simp [Src.Create.newOrder, native])
      rw [Ledger.tokens_of_token loaded] at tokens
      rw [Src.sentLamports, everything, tokens, isPaid]
      exact wrapped_alike soundToken (sound _ _ held) (mint.trans sourceMint.symm)
        (program.trans sourceProgram.symm) _

/-- The account that paid has its tokens back. -/
theorem Src.Create.Fresh.tokens_return {m : Chain K} {orderToken : TokenAccount K} {key : K}
    (fresh : c.Fresh s.ledger) (standard : c.Standard env) (free : env.CollisionFree)
    (wallet : env.Wallet c.creator) (ran : Src.create env s.clock c s.ledger = .ok l')
    (loaded : l'.data c.orderAta = .token orderToken) (made : c.Made env s.clock s.ledger l')
    (native : c.assetIsNative = false) (given : c.creatorAta = some key) (notAta : key ≠ c.orderAta)
    (settled : c.callOff.Settled (c.newOrder env s.clock.unixTimestamp) orderToken l' m) :
    m.tokens key = s.ledger.tokens key := by
  obtain ⟨_, _, _, _, _, _, _, _, ofAccount⟩ := fresh.placed standard free wallet ran
  obtain ⟨_, tokens, _⟩ := ofAccount native
  have paid := made.paid key given native
  have everything : Src.sentTokens (c.newOrder env s.clock.unixTimestamp) orderToken =
      orderToken.amount := if_neg (by simp [Src.Create.newOrder, native])
  have receiver : c.callOff.call.receiver = key := by
    change c.creatorAta.getD c.creator = key
    rw [given, Option.getD_some]
  have ata : key ≠ c.callOff.orderAta := notAta
  have booked := settled.tokens.account key
  rw [Ledger.tokens_of_token loaded] at tokens
  rw [everything, receiver, tokens] at booked
  simp only [posted_cons, posted_nil, if_neg ata, if_pos] at booked
  omega

end Placed

/-- What the cancellation leaves is the ledger from before the order. -/
theorem Trace.placed_cancels (free : env.CollisionFree) (trace : Trace env h s)
    (wrapped : env.mintProgram env.NATIVE_MINT = some .token) {c : Src.Create K}
    (standard : c.Standard env) (wallet : env.Wallet c.creator)
    (plain : s.ledger.data c.creator = .empty) (fresh : c.Fresh s.ledger)
    (ran : Src.create env s.clock c s.ledger = .ok l')
    (later : s.clock.unixTimestamp ≤ clock.unixTimestamp) :
    Src.cancelOrder env clock c.callOff l' = .ok s.ledger := by
  have derived : env.Derived c.order := env.derived_src (env.find_created standard.order)
  have other : c.creator ≠ c.order := fun same => derived.notWallet (same ▸ wallet)
  have placing : (Instruction.src (.create c)).run env s.clock s.ledger = .ok l' := ran
  have signed : ∀ key ∈ (Instruction.src (.create c)).signers, env.Wallet key :=
    wallet_of_signers wallet
  obtain ⟨vacant, _, _, made⟩ := trace.create_made standard free wallet ran
  have receivable := fresh.receivable standard free wallet ran
  have placed : Trace env (⟨s, .src (.create c), l'⟩ :: h) ⟨l', clock⟩ :=
    .tick (trace.step signed placing) later
  -- the cancellation runs
  have whole : orderUnrescued c.order (⟨s, .src (.create c), l'⟩ :: h) = true := by
    simp [orderUnrescued]
  obtain ⟨program, account, ready⟩ := placed.order_ready free made.order whole
  obtain rfl : c.tokenProgram = program := Option.some.inj (standard.mint.symm.trans ready.owned)
  obtain ⟨m, cancels⟩ := placed.cancel_runs free made.order ready wrapped receivable
  rw [standard.callOff] at cancels
  have cancelling : (Instruction.src (.cancelOrder c.callOff)).run env clock l' = .ok m := cancels
  rw [cancels]
  -- what it settles
  have settled : c.callOff.Settled (c.newOrder env s.clock.unixTimestamp) account l' m := by
    have settles := placed.cancel_settles free made.order ready (standard.callOff _ ▸ cancels)
    rwa [standard.callOff] at settles
  have atAta : l'.data c.orderAta = .token account := standard.orderAta ▸ ready.loaded
  have lamports := fresh.lamports_return standard free wallet trace.tokenSound ran atAta ready.mint
    ready.programEq (placed.tokenSound _ _ atAta) settled
  refine congrArg Except.ok (Ledger.eq_of (fun k => ?_) fun k => congrFun lamports k)
  have stands := (Instruction.standing placing).trans (Instruction.standing cancelling)
  by_cases isOrder : k = c.order
  · rw [isOrder, vacant]
    exact settled.orderClosed
  by_cases isAta : k = c.orderAta
  · rw [isAta, fresh.ata]
    exact settled.ataClosed
  by_cases isCreator : k = c.creator
  · rw [isCreator, plain]
    exact stands.plain _ wallet plain
  by_cases given : c.creatorAta = some k
  · have native : c.assetIsNative = false := by
      rw [standard.creatorAta] at given
      cases isNative : c.assetIsNative with
      | true => simp [isNative, payeeAccount] at given
      | false => rfl
    obtain ⟨_, _, _, steps⟩ := Src.create_steps ran
    obtain ⟨account, loaded, _, owner, _⟩ := steps.creatorToken k given
    obtain ⟨amount, kept⟩ := stands.accounts k account loaded (owner ▸ wallet)
    have tokens := fresh.tokens_return standard free wallet ran atAta made native given isAta settled
    rw [Ledger.tokens_of_token kept, Ledger.tokens_of_token loaded] at tokens
    obtain rfl : amount = account.amount := tokens
    exact kept.trans loaded.symm
  · have off : k ∉ (Instruction.src (.create c)).writable := by
      simp [Instruction.writable, Src.Instruction.writable, isOrder, isAta, isCreator, given]
    have offToo : k ∉ (Instruction.src (.cancelOrder c.callOff)).writable := off
    rw [(Instruction.footprint cancelling).data k offToo, (Instruction.footprint placing).data k off]

/-- In every reachable state with rent-exempt token accounts: a rent-exempt wallet without
data that placed an order at fresh addresses can call it off next, at any later time, and
that leaves the ledger as it was. -/
theorem Trace.order_round_trip (free : env.CollisionFree) (trace : Trace env h s)
    (wrapped : env.mintProgram env.NATIVE_MINT = some .token) (rent : RentSound env.toHost s.ledger)
    {c : Src.Create K} (standard : c.Standard env) (wallet : env.Wallet c.creator)
    (plain : s.ledger.data c.creator = .empty) (exempt : env.RentExempt s.ledger c.creator)
    (fresh : c.Fresh s.ledger) (ran : Src.create env s.clock c s.ledger = .ok l')
    (later : s.clock.unixTimestamp ≤ clock.unixTimestamp) :
    (Instruction.src (.cancelOrder c.callOff)).process env clock l' = .ok s.ledger := by
  have placing : (Instruction.src (.create c)).run env s.clock s.ledger = .ok l' := ran
  have cancelling : (Instruction.src (.cancelOrder c.callOff)).run env clock l' = .ok s.ledger :=
    trace.placed_cancels free wrapped standard wallet plain fresh ran later
  have signed : ∀ key ∈ (Instruction.src (.create c)).signers, env.Wallet key :=
    wallet_of_signers wallet
  have signedToo : ∀ key ∈ (Instruction.src (.cancelOrder c.callOff)).signers, env.Wallet key :=
    wallet_of_signers wallet
  have placed : Trace env (⟨s, .src (.create c), l'⟩ :: h) ⟨l', clock⟩ :=
    .tick (trace.step signed placing) later
  refine (placed.processes_iff free (trace.call_rentSound placing rent) signedToo cancelling).mpr
    fun k writable empty => ?_
  simp only [Instruction.writable, Src.Instruction.writable, Src.Create.callOff, List.cons_append,
    List.nil_append, List.mem_cons, Option.mem_toList] at writable
  rcases writable with rfl | rfl | rfl | given
  · exact exempt.allowed
  · exact rentAllowed_of_drained fresh.order
  · exact rentAllowed_of_drained fresh.ataLamports
  · -- the maker's token account is there
    obtain ⟨_, _, _, steps⟩ := Src.create_steps ran
    obtain ⟨account, loaded, _⟩ := steps.creatorToken k given
    rw [loaded] at empty
    cases empty

def Sample.undoable : Sample.Scenario (fun r =>
    (decide (r.state.ledger.data Sample.maker = .empty ∧
        Sample.env.RentExempt r.state.ledger Sample.maker ∧
        r.state.ledger.lamports (Sample.create Sample.single).order = 0 ∧
        r.state.ledger.data (Sample.create Sample.single).orderAta = .empty ∧
        r.state.ledger.lamports (Sample.create Sample.single).orderAta = 0) &&
      (Src.create Sample.env r.state.clock (Sample.create Sample.single)
        r.state.ledger).toOption.isSome) = true) where
  commands := [.wait 100]

/-- The maker places the sample order and calls it off. -/
theorem Trace.order_round_trip_sample : ∃ (s : State Term) (l' : Chain Term),
    Src.create Sample.env s.clock (Sample.create Sample.single) s.ledger = .ok l' ∧
      (Instruction.src (.cancelOrder (Sample.create Sample.single).callOff)).process Sample.env s.clock
        l' = .ok s.ledger := by
  obtain ⟨r, trace, rent, stands⟩ := Sample.undoable.reached_sound Sample.rentSound
  obtain ⟨unused, runs⟩ := Bool.and_eq_true_iff.mp stands
  obtain ⟨plain, exempt, order, ata, ataLamports⟩ := of_decide_eq_true unused
  obtain ⟨l', ran⟩ := isSome_toOption runs
  exact ⟨r.state, l', ran, trace.order_round_trip Sample.collisionFree rfl rent Sample.create_standard
    (Sample.wallet_atom 11) plain exempt ⟨order, ata, ataLamports⟩ ran (BitVec.le_refl _)⟩

end CrossChainEscrow.Source
