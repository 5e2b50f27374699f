import CrossChainEscrow.Guarantees.Progress
import CrossChainEscrow.Guarantees.RescueAmounts

/-!
# When a rescue succeeds

A rescue takes tokens of any mint from an address that its arguments derive. In
every run it succeeds exactly when the address is unlocked and its token account
has the amount; a rescue of an order also asks for a resolver. An address that
stores nothing is never locked, so tokens that reach the address of an order or an
escrow before it is made or after it has ended are not lost.
-/

namespace CrossChainEscrow.Source
open Library.Words Library.Bytes Library.Accounts Library.Bookkeeping Library.Registries Whitelist

variable {K : Type} [DecidableEq K] {env : Environment K} {h : History K} {s : State K} {a : K}
  {l l' : Chain K} {clock : Clock} {ctx : Context K}

/-- Nothing is stored at the address, or what is stored there was deployed eight
days ago. -/
def Unlocked (l : Chain K) (clock : Clock) (a : K) : Prop :=
  l.data a = .empty ∨ ∃ data time, l.data a = .program data ∧ data.deployedAt = some time ∧
    time + rescueDelay.toNat ≤ clock.unixTimestamp.toNat

/-- The address is unlocked, and its token account has the amount. -/
structure Rescuable (env : Environment K) (clock : Clock) (l : Chain K) (a mint : K)
    (program : TokenProgram) (amount : U64) : Prop where
  unlocked : Unlocked l clock a
  enough : ∃ account, l.data (env.associatedTokenAddress a program mint) = .token account ∧
    amount.toNat ≤ account.amount

/-- The amount has moved to the party's token account and nothing else has; the
account of the address is closed if nothing is left in it. -/
structure RescuePaid (env : Environment K) (a party mint : K) (program : TokenProgram)
    (amount : U64) (l l' : Chain K) : Prop where
  taken : l'.tokens (env.associatedTokenAddress a program mint) + amount.toNat =
    l.tokens (env.associatedTokenAddress a program mint)
  received : l'.tokens (env.associatedTokenAddress party program mint) =
    l.tokens (env.associatedTokenAddress party program mint) + amount.toNat
  closed : l.tokens (env.associatedTokenAddress a program mint) = amount.toNat →
    l'.data (env.associatedTokenAddress a program mint) = .empty
  programs : l'.programAt = l.programAt
  others : ∀ k, k ≠ env.associatedTokenAddress a program mint →
    k ≠ env.associatedTokenAddress party program mint → l'.data k = l.data k

/-! ## The start of the rescue period -/

section Start
variable {T : Type} {read : Data K → Option T} {timelocks : T → Limbs} {make : T → Data K}
  (inverse : ∀ data v, read data = some v ↔ data = make v)
  (deployed : ∀ v, (make v).deployedAt = some (timelocks v).timelocks.deployedAt)
  {start : Option U32}
include inverse deployed

omit [DecidableEq K] in
/-- The time check that a rescue makes passes only where the address is unlocked. -/
theorem unlocked_of_started (found : rescueStartOf read timelocks l a = .ok start)
    (started : requireRescueStarted (getCurrentTimestamp clock) start = .ok ()) :
    Unlocked l clock a := by
  rcases rescueStartOf_ok inverse found with ⟨unused, _⟩ | ⟨value, time, stored, rfl, sum⟩
  · exact Or.inl unused
  · rw [requireRescueStarted, requireThat_ok] at started
    have reached : time.toNat ≤ clock.unixTimestamp.toNat := started
    exact Or.inr ⟨_, _, stored, deployed value, by omega⟩

omit [DecidableEq K] in
/-- And it passes there, if what is stored is of the kind that the handler reads. -/
theorem started_of_unlocked (unlocked : Unlocked l clock a)
    (kind : ∀ data, l.data a = .program data → data.deployedAt.isSome = true → ∃ v, data = make v) :
    ∃ start, rescueStartOf read timelocks l a = .ok start ∧
      requireRescueStarted (getCurrentTimestamp clock) start = .ok () := by
  rcases unlocked with unused | ⟨data, time, stored, at_time, reached⟩
  · refine ⟨none, ?_, rfl⟩
    rw [rescueStartOf, unused]
    rfl
  · obtain ⟨value, rfl⟩ := kind data stored (by rw [at_time]; rfl)
    obtain rfl := Option.some.inj ((deployed value).symm.trans at_time)
    have bound := clock.unixTimestamp.isLt
    obtain ⟨start, word⟩ := ofNat?_isSome (w := 32)
      (n := (timelocks value).timelocks.deployedAt + rescueDelay.toNat) (by omega)
    rw [ofNat?_eq_some] at word
    refine ⟨some start, ?_, ?_⟩
    · rw [rescueStartOf, if_neg (by rw [stored]; exact Bool.false_ne_true)]
      exact bind_ok.mpr ⟨value, (loadAs_ok inverse).mpr stored,
        bind_ok.mpr ⟨start, Timelocks.rescueStart_ok.mpr word, rfl⟩⟩
    · rw [requireRescueStarted, requireThat_ok]
      change start.toNat ≤ clock.unixTimestamp.toNat
      omega

end Start

/-! ## What is stored where a rescue looks -/

section Kinds
variable (free : env.CollisionFree) (trace : Trace env h s) {data : Data K}
  (stored : s.ledger.data a = .program data) (timed : data.deployedAt.isSome = true)
include free trace stored timed

/-- Only escrows are stored at addresses with an escrow's seeds. -/
theorem Trace.escrowSrc_kind {orderHash hashlock : Bytes32} {party : K} {amount : U64}
    (found : a = (env.findProgramAddress env.srcId (escrowSeeds orderHash hashlock party amount)).1) :
    ∃ escrow, data = .escrowSrc escrow := by
  have placed := trace.placed (Ledger.programAt_eq_some.mpr stored)
  cases data with
  | escrowSrc escrow => exact ⟨escrow, rfl⟩
  | order order =>
    have same := (congrArg Prod.fst placed).trans found
    exact absurd (free.find_inj same).2 (orderSeeds_ne_escrowSeeds _ _ _ _ _)
  | escrowDst escrow =>
    have same := (congrArg Prod.fst placed).trans found
    exact absurd (free.find_inj same).1.symm env.srcId_ne_dstId
  | _ => cases timed

theorem Trace.order_kind {orderHash : Bytes32}
    (found : a = (env.findProgramAddress env.srcId (orderSeeds orderHash)).1) :
    ∃ order, data = .order order := by
  have placed := trace.placed (Ledger.programAt_eq_some.mpr stored)
  cases data with
  | order order => exact ⟨order, rfl⟩
  | escrowSrc escrow =>
    have same := (congrArg Prod.fst placed).trans found
    exact absurd (free.find_inj same).2.symm (orderSeeds_ne_escrowSeeds _ _ _ _ _)
  | escrowDst escrow =>
    have same := (congrArg Prod.fst placed).trans found
    exact absurd (free.find_inj same).1.symm env.srcId_ne_dstId
  | _ => cases timed

theorem Trace.escrowDst_kind {seeds : Seeds K}
    (found : a = (env.findProgramAddress env.dstId seeds).1) : ∃ escrow, data = .escrowDst escrow := by
  have placed := trace.placed (Ledger.programAt_eq_some.mpr stored)
  cases data with
  | escrowDst escrow => exact ⟨escrow, rfl⟩
  | order order =>
    have same := (congrArg Prod.fst placed).trans found
    exact absurd (free.find_inj same).1 env.srcId_ne_dstId
  | escrowSrc escrow =>
    have same := (congrArg Prod.fst placed).trans found
    exact absurd (free.find_inj same).1 env.srcId_ne_dstId
  | _ => cases timed

end Kinds

/-! ## The transfer -/

/-- With the tokens there and the time check passed, nothing stops a rescue. -/
theorem rescueFunds_succeeds {address recipient dst mint : K} {start : Option U32}
    {ata : InterfaceAccount K} {destination : TokenAccount K} {program : TokenProgram} {amount : U64}
    {seeds : SignerSeeds K}
    (started : requireRescueStarted (getCurrentTimestamp ctx.clock) start = .ok ())
    (distinct : ata.key ≠ dst) (notRecipient : ata.key ≠ recipient)
    (loaded : l.data ata.key = .token ata.account) (loadedTo : l.data dst = .token destination)
    (programs : ata.account.program = program ∧ destination.program = program)
    (mints : ata.account.mint = mint ∧ destination.mint = mint)
    (owner : ata.account.owner = address) (signs : address ∈ ctx.callSigners env (some seeds))
    (enough : amount.toNat ≤ ata.account.amount)
    (covered : ata.account.wrapped amount.toNat ≤ l.lamports ata.key) :
    ∃ l', rescueFunds env ctx address start ata recipient dst mint program amount seeds l = .ok l' := by
  obtain ⟨moved, transfer⟩ :=
    uniTransfer_succeeds loaded loadedTo programs mints owner signs enough covered
  have left := (uniTransfer_moved distinct loaded transfer).debited
  obtain ⟨l', close⟩ : ∃ l', closeRescued env ctx address ata recipient program amount seeds moved =
      .ok l' := by
    unfold closeRescued
    split
    · next all =>
      exact ⟨_, closeAccount_ok.mpr ⟨_, left, programs.1, notRecipient,
        Or.inr (by rw [all, Nat.sub_self]), owner, signs, rfl⟩⟩
    · exact ⟨moved, rfl⟩
  exact ⟨l', bind_ok.mpr ⟨(), started, bind_ok.mpr ⟨moved, transfer, close⟩⟩⟩

section Party
variable {party mint : K} {program : TokenProgram} {amount : U64} {programId : K} {seeds : Seeds K}

/-- The checks of a rescue from a derived address pass once its token account is
there, and the rescue goes through once the time check has passed too. -/
theorem Trace.rescue_runs (free : env.CollisionFree) (trace : Trace env h s)
    (wallet : env.Wallet party) (holds : HoldsAccount env party program mint s.ledger)
    (derived : ¬ env.Wallet a) (found : a = (env.findProgramAddress programId seeds).1)
    (enough : ∃ account, s.ledger.data (env.associatedTokenAddress a program mint) = .token account ∧
      amount.toNat ≤ account.amount) :
    ∃ token partyToken,
      (env.mintProgram mint).isSome = true ∧
      loadAssociatedToken env.toHost (env.associatedTokenAddress a program mint) a program mint
        s.ledger = (.ok token : Result _) ∧
      loadAssociatedToken env.toHost (env.associatedTokenAddress party program mint) party program
        mint s.ledger = (.ok partyToken : Result _) ∧
      ∀ start, requireRescueStarted (getCurrentTimestamp s.clock) start = .ok () →
        ∃ l', rescueFunds env ⟨programId, [party], s.clock⟩ a start
          ⟨env.associatedTokenAddress a program mint, token⟩ party
          (env.associatedTokenAddress party program mint) mint program amount
          ⟨seeds, (env.findProgramAddress programId seeds).2⟩ s.ledger = .ok l' := by
  obtain ⟨token, loaded, enough⟩ := enough
  obtain ⟨partyToken, loadedTo, partyProgram, partyOwner, partyMint⟩ := holds
  obtain ⟨owner, programs, mints⟩ := trace.associatedSound free derived _ _ _ loaded
  have owned := trace.ata_program free derived loaded
  have signs : a ∈ (⟨programId, [party], s.clock⟩ : Context K).callSigners env
      (some ⟨seeds, (env.findProgramAddress programId seeds).2⟩) := by
    rw [callSigners_derived (env.find_create programId seeds), ← found]
    exact List.mem_append_right _ (List.mem_singleton.mpr rfl)
  have distinct : env.associatedTokenAddress a program mint ≠
      env.associatedTokenAddress party program mint :=
    fun same => derived ((free.associated_inj same).1 ▸ wallet)
  have notParty : env.associatedTokenAddress a program mint ≠ party :=
    fun same => env.associated_notWallet _ _ _ (same ▸ wallet)
  have covered : token.wrapped amount.toNat ≤
      s.ledger.lamports (env.associatedTokenAddress a program mint) :=
    Nat.le_trans (token.wrapped_mono enough) (trace.tokenSound _ _ loaded).wrapped_le
  refine ⟨token, partyToken, by rw [owned]; rfl, ?_, ?_, fun start started => ?_⟩
  · exact loadAssociatedToken_ok.mpr ⟨loaded, programs, owner, rfl⟩
  · exact loadAssociatedToken_ok.mpr ⟨loadedTo, partyProgram, partyOwner, rfl⟩
  · exact rescueFunds_succeeds started distinct notParty loaded loadedTo ⟨programs, partyProgram⟩
      ⟨mints, partyMint⟩ owner signs enough covered

/-- What a rescue that went through has done. -/
theorem RescueCall.Steps.paid {c : RescueCall K} {token partyToken : TokenAccount K}
    {start : Option U32} (steps : RescueCall.Steps env clock c token partyToken start l l')
    (partyAta : c.partyAta = env.associatedTokenAddress c.party c.tokenProgram c.mint)
    (distinct : c.party ≠ c.address) :
    RescuePaid env c.address c.party c.mint c.tokenProgram c.rescueAmount l l' := by
  have rescued := steps.rescued distinct
  obtain ⟨all, _⟩ := steps.accountAfter distinct
  have held := Ledger.tokens_of_token steps.account
  rw [steps.ataDerived] at rescued all held
  rw [partyAta] at rescued
  refine ⟨rescued.drained, rescued.received, fun everything => ?_, rescued.programs, rescued.others⟩
  exact (all (everything.symm.trans held)).1

/-- A rescue that ran where the address is unlocked could take the amount, and has. -/
theorem RescueCall.Steps.settles {c : RescueCall K} {token partyToken : TokenAccount K}
    {start : Option U32} (steps : RescueCall.Steps env clock c token partyToken start l l')
    (unlocked : Unlocked l clock c.address)
    (partyAta : c.partyAta = env.associatedTokenAddress c.party c.tokenProgram c.mint)
    (distinct : c.party ≠ c.address) :
    Rescuable env clock l c.address c.mint c.tokenProgram c.rescueAmount ∧
      RescuePaid env c.address c.party c.mint c.tokenProgram c.rescueAmount l l' :=
  ⟨⟨unlocked, token, steps.ataDerived ▸ steps.account, (steps.rescued distinct).enough⟩,
    steps.paid partyAta distinct⟩

end Party

/-! ## The calls -/

section Calls
variable (env : Environment K) (party mint : K) (program : TokenProgram) (amount : U64)

/-- `rescue_funds_for_escrow` with the accounts that follow from its arguments. -/
def Src.rescueEscrowCall (orderHash hashlock : Bytes32) (escrowAmount : U64) :
    Src.RescueFundsForEscrow K :=
  let escrow := (env.findProgramAddress env.srcId
    (escrowSeeds orderHash hashlock party escrowAmount)).1
  { taker := party
    mint := mint
    escrow := escrow
    escrowAta := env.associatedTokenAddress escrow program mint
    takerAta := env.associatedTokenAddress party program mint
    tokenProgram := program
    orderHash := orderHash
    hashlock := hashlock
    amount := escrowAmount
    rescueAmount := amount }

/-- `rescue_funds_for_order` with the accounts that follow from its arguments. -/
def Src.rescueOrderCall (params : OrderParams K) : Src.RescueFundsForOrder K :=
  let order := (env.findProgramAddress env.srcId (orderSeeds (getOrderHash env params))).1
  { resolver := party
    resolverAccess := env.accessAddress env.srcId party
    mint := mint
    order := order
    orderAta := env.associatedTokenAddress order program mint
    resolverAta := env.associatedTokenAddress party program mint
    tokenProgram := program
    params := params
    rescueAmount := amount }

/-- The destination program's `rescue_funds` with the accounts that follow from its
arguments. -/
def Dst.rescueCall (orderHash hashlock : Bytes32) (escrowAmount : U64) : Dst.RescueFunds K :=
  let escrow := (env.findProgramAddress env.dstId
    (escrowSeeds orderHash hashlock party escrowAmount)).1
  { creator := party
    mint := mint
    escrow := escrow
    escrowAta := env.associatedTokenAddress escrow program mint
    creatorAta := env.associatedTokenAddress party program mint
    tokenProgram := program
    orderHash := orderHash
    hashlock := hashlock
    escrowAmount := escrowAmount
    rescueAmount := amount }

end Calls

/-! ## The time check of each handler -/

theorem Src.rescueFundsForEscrow_unlocked {ix : Src.RescueFundsForEscrow K}
    (ran : Src.rescueFundsForEscrow env clock ix l = .ok l') : Unlocked l clock ix.escrow := by
  simp only [Src.rescueFundsForEscrow, bind_ok, requireMint_ok, requireFound_ok, exists_const] at ran
  obtain ⟨_, _, _, _, _, _, start, found, rescue⟩ := ran
  obtain ⟨_, started, _⟩ := bind_ok.mp rescue
  exact unlocked_of_started Data.toEscrowSrc_eq_some (fun _ => rfl) found started

theorem Src.rescueFundsForOrder_unlocked {ix : Src.RescueFundsForOrder K}
    (ran : Src.rescueFundsForOrder env clock ix l = .ok l') : Unlocked l clock ix.order := by
  simp only [Src.rescueFundsForOrder, bind_ok, requireMint_ok, requireFound_ok, exists_const] at ran
  obtain ⟨_, _, _, _, _, _, _, _, start, found, rescue⟩ := ran
  obtain ⟨_, started, _⟩ := bind_ok.mp rescue
  exact unlocked_of_started Data.toOrder_eq_some (fun _ => rfl) found started

theorem Dst.rescueFunds_unlocked {ix : Dst.RescueFunds K}
    (ran : Dst.rescueFunds env clock ix l = .ok l') : Unlocked l clock ix.escrow := by
  simp only [Dst.rescueFunds, bind_ok, requireMint_ok, requireFound_ok, exists_const] at ran
  obtain ⟨_, _, _, _, _, _, start, found, rescue⟩ := ran
  obtain ⟨_, started, _⟩ := bind_ok.mp rescue
  exact unlocked_of_started Data.toEscrowDst_eq_some (fun _ => rfl) found started

section Rescues
variable {party mint : K} {program : TokenProgram} (free : env.CollisionFree)
  (trace : Trace env h s) (wallet : env.Wallet party)
  (holds : HoldsAccount env party program mint s.ledger)
include free trace wallet holds

theorem Trace.rescue_escrow (amount : U64) (orderHash hashlock : Bytes32) (escrowAmount : U64) :
    let c := Src.rescueEscrowCall env party mint program amount orderHash hashlock escrowAmount
    s.SucceedsIff env (.src (.rescueFundsForEscrow c))
      (Rescuable env s.clock s.ledger c.escrow mint program amount)
      (RescuePaid env c.escrow party mint program amount s.ledger) := by
  intro c
  have derived : ¬ env.Wallet c.escrow :=
    (Environment.derived_src (env.find_create env.srcId _)).notWallet
  have distinct : party ≠ c.escrow := fun same => derived (same ▸ wallet)
  refine ⟨⟨fun ⟨l', ran⟩ => ?_, fun able => ?_⟩, fun l' ran => ?_⟩
  · obtain ⟨token, partyToken, start, steps⟩ := rescueFundsForEscrow_steps ran
    exact (steps.settles (Src.rescueFundsForEscrow_unlocked ran) rfl distinct).1
  · obtain ⟨start, found, started⟩ := started_of_unlocked Data.toEscrowSrc_eq_some (fun _ => rfl)
      able.unlocked (fun data stored timed => trace.escrowSrc_kind free stored timed rfl)
    obtain ⟨token, partyToken, known, account, partyAccount, rescue⟩ :=
      trace.rescue_runs free wallet holds derived rfl able.enough
    obtain ⟨l', ran⟩ := rescue start started
    refine ⟨l', ?_⟩
    change Src.rescueFundsForEscrow env s.clock c s.ledger = .ok l'
    simp only [Src.rescueFundsForEscrow, bind_ok, requireMint_ok, requireFound_ok, exists_const]
    exact ⟨known, rfl, token, account, partyToken, partyAccount, start, found, ran⟩
  · obtain ⟨token, partyToken, start, steps⟩ := rescueFundsForEscrow_steps ran
    exact steps.paid rfl distinct

theorem Trace.rescue_order (amount : U64) (params : OrderParams K) :
    let c := Src.rescueOrderCall env party mint program amount params
    s.SucceedsIff env (.src (.rescueFundsForOrder c))
      (Enrolled (env.srcId, party) (whitelistLog h) ∧
        Rescuable env s.clock s.ledger c.order mint program amount)
      (RescuePaid env c.order party mint program amount s.ledger) := by
  intro c
  have derived : ¬ env.Wallet c.order :=
    (Environment.derived_src (env.find_create env.srcId _)).notWallet
  have distinct : party ≠ c.order := fun same => derived (same ▸ wallet)
  refine ⟨⟨fun ⟨l', ran⟩ => ?_, fun ⟨listed, able⟩ => ?_⟩, fun l' ran => ?_⟩
  · obtain ⟨resolver, token, partyToken, start, steps⟩ := rescueFundsForOrder_steps ran
    exact ⟨(trace.resolver_iff free _ _).mp resolver,
      (steps.settles (Src.rescueFundsForOrder_unlocked ran) rfl distinct).1⟩
  · obtain ⟨start, found, started⟩ := started_of_unlocked Data.toOrder_eq_some (fun _ => rfl)
      able.unlocked (fun data stored timed => trace.order_kind free stored timed rfl)
    obtain ⟨token, partyToken, known, account, partyAccount, rescue⟩ :=
      trace.rescue_runs free wallet holds derived rfl able.enough
    obtain ⟨l', ran⟩ := rescue start started
    have resolver := (trace.resolver_iff free env.srcId party).mpr listed
    refine ⟨l', ?_⟩
    change Src.rescueFundsForOrder env s.clock c s.ledger = .ok l'
    simp only [Src.rescueFundsForOrder, bind_ok, requireMint_ok, requireFound_ok, exists_const]
    exact ⟨(), resolver, known, rfl, token, account, partyToken, partyAccount, start, found, ran⟩
  · obtain ⟨_, token, partyToken, start, steps⟩ := rescueFundsForOrder_steps ran
    exact steps.paid rfl distinct

theorem Trace.rescue_dst (amount : U64) (orderHash hashlock : Bytes32) (escrowAmount : U64) :
    let c := Dst.rescueCall env party mint program amount orderHash hashlock escrowAmount
    s.SucceedsIff env (.dst (.rescueFunds c))
      (Rescuable env s.clock s.ledger c.escrow mint program amount)
      (RescuePaid env c.escrow party mint program amount s.ledger) := by
  intro c
  have derived : ¬ env.Wallet c.escrow :=
    (Environment.derived_dst (env.find_create env.dstId _)).notWallet
  have distinct : party ≠ c.escrow := fun same => derived (same ▸ wallet)
  refine ⟨⟨fun ⟨l', ran⟩ => ?_, fun able => ?_⟩, fun l' ran => ?_⟩
  · obtain ⟨token, partyToken, start, steps⟩ := rescueFundsDst_steps ran
    exact (steps.settles (Dst.rescueFunds_unlocked ran) rfl distinct).1
  · obtain ⟨start, found, started⟩ := started_of_unlocked Data.toEscrowDst_eq_some (fun _ => rfl)
      able.unlocked (fun data stored timed => trace.escrowDst_kind free stored timed rfl)
    obtain ⟨token, partyToken, known, account, partyAccount, rescue⟩ :=
      trace.rescue_runs free wallet holds derived rfl able.enough
    obtain ⟨l', ran⟩ := rescue start started
    refine ⟨l', ?_⟩
    change Dst.rescueFunds env s.clock c s.ledger = .ok l'
    simp only [Dst.rescueFunds, bind_ok, requireMint_ok, requireFound_ok, exists_const]
    exact ⟨known, rfl, token, account, partyToken, partyAccount, start, found, ran⟩
  · obtain ⟨token, partyToken, start, steps⟩ := rescueFundsDst_steps ran
    exact steps.paid rfl distinct

/-- In every reachable state, for every wallet with its token account, every mint
and every amount: each of the three rescues succeeds exactly when the address that
its arguments derive is unlocked and its token account has the amount, the rescue
of an order moreover only for a whitelisted resolver; it pays the wallet and
changes nothing that a program stores. -/
theorem Trace.rescues_succeed (amount : U64) :
    (∀ orderHash hashlock escrowAmount,
      let c := Src.rescueEscrowCall env party mint program amount orderHash hashlock escrowAmount
      s.SucceedsIff env (.src (.rescueFundsForEscrow c))
        (Rescuable env s.clock s.ledger c.escrow mint program amount)
        (RescuePaid env c.escrow party mint program amount s.ledger)) ∧
    (∀ params,
      let c := Src.rescueOrderCall env party mint program amount params
      s.SucceedsIff env (.src (.rescueFundsForOrder c))
        (Enrolled (env.srcId, party) (whitelistLog h) ∧
          Rescuable env s.clock s.ledger c.order mint program amount)
        (RescuePaid env c.order party mint program amount s.ledger)) ∧
    ∀ orderHash hashlock escrowAmount,
      let c := Dst.rescueCall env party mint program amount orderHash hashlock escrowAmount
      s.SucceedsIff env (.dst (.rescueFunds c))
        (Rescuable env s.clock s.ledger c.escrow mint program amount)
        (RescuePaid env c.escrow party mint program amount s.ledger) :=
  ⟨trace.rescue_escrow free wallet holds amount, trace.rescue_order free wallet holds amount,
    trace.rescue_dst free wallet holds amount⟩

end Rescues

def Sample.overdue : Sample.Scenario (fun r => (Sample.holds Sample.taker r.state.ledger &&
    (Src.rescueFundsForOrder Sample.env r.state.clock (Src.rescueOrderCall Sample.env Sample.taker
      Sample.usdc .token 400 Sample.single) r.state.ledger).toOption.isSome) = true) where
  commands := Sample.whitelisting ++ [.wait 100, .call (.src (.create (Sample.create Sample.single))),
    .wait 691400]

/-- A resolver rescues part of the sample order, eight days after its creation. -/
theorem Trace.rescues_succeed_sample : ∃ (h : History Term) (s : State Term) (l' : Chain Term),
    Enrolled (Sample.env.srcId, Sample.taker) (whitelistLog h) ∧
      Unlocked s.ledger s.clock (Sample.orderAt Sample.single) ∧
      RescuePaid Sample.env (Sample.orderAt Sample.single) Sample.taker Sample.usdc .token 400
        s.ledger l' := by
  obtain ⟨r, trace, stands⟩ := Sample.overdue.reached
  obtain ⟨holds, runs⟩ := Bool.and_eq_true_iff.mp stands
  obtain ⟨l', ran⟩ := isSome_toOption runs
  obtain ⟨_, ofOrder, _⟩ := trace.rescues_succeed Sample.collisionFree (Sample.wallet_atom 12)
    (Sample.holdsAccount holds) 400
  obtain ⟨iff, paid⟩ := ofOrder Sample.single
  obtain ⟨listed, able⟩ := iff.mp ⟨l', ran⟩
  exact ⟨r.history, r.state, l', listed, able.unlocked, paid l' ran⟩

end CrossChainEscrow.Source
