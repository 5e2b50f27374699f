import CrossChainEscrow.Library.Derivations
import CrossChainEscrow.Source.Protocol

/-!
# The addresses that an instruction derives

What an instruction does depends on the derivation of addresses only through the few
that it makes: those of its accounts, from its arguments and from what the order, the
escrow or the resolver's access it names has stored.
-/

namespace CrossChainEscrow.Source
open Library.Words Library.Bytes Library.Accounts

variable {K : Type}

/-! ## The derivations -/

/-- What is stored at the address, if it is of that type. -/
def storedAt {T : Type} (read : Data K → Option T) (l : Chain K) (address : K) : List T :=
  ((l.programAt address).bind read).toList

section Made
variable (env : Environment K)

/-- The derivation of the account of a whitelisted resolver. -/
def Environment.accessDerivation (client user : K) : Derivation K :=
  (env.whitelistId, resolverAccessSeeds client user)

/-- An account that the caller leaves out is not derived. -/
def Environment.optionalDerivation (ata : Option K) (wallet : K) (program : TokenProgram)
    (mint : K) : List (Derivation K) :=
  ata.toList.map fun _ => env.associatedDerivation wallet program mint

def Whitelist.Instruction.derivations : Whitelist.Instruction K → List (Derivation K)
  | .initializeWhitelist _ => [(env.whitelistId, whitelistStateSeeds)]
  | .register ix =>
    [(env.whitelistId, whitelistStateSeeds), env.accessDerivation ix.client ix.user]
  | .deregister ix =>
    [(env.whitelistId, whitelistStateSeeds), env.accessDerivation ix.client ix.user]
  | .setAuthority _ => [(env.whitelistId, whitelistStateSeeds)]

variable (l : Chain K)

def Src.Instruction.derivations : Src.Instruction K → List (Derivation K)
  | .create ix =>
    (env.srcId, orderSeeds (getOrderHash env ix.params)) ::
    env.associatedDerivation ix.order ix.tokenProgram ix.mint ::
    env.optionalDerivation ix.creatorAta ix.creator ix.tokenProgram ix.mint
  | .createEscrow ix =>
    env.accessDerivation env.srcId ix.taker ::
    env.associatedDerivation ix.order ix.tokenProgram ix.mint ::
    env.associatedDerivation ix.escrow ix.tokenProgram ix.mint ::
    (storedAt Data.toOrder l ix.order).flatMap fun order =>
      [(env.srcId, orderSeeds order.orderHash),
        (env.srcId, escrowSeeds order.orderHash
          (getEscrowHashlock order.hashlock ix.merkleProof) ix.taker ix.amount)]
  | .withdraw ix =>
    env.associatedDerivation ix.escrow ix.tokenProgram ix.mint ::
    env.associatedDerivation ix.taker ix.tokenProgram ix.mint ::
    (storedAt Data.toEscrowSrc l ix.escrow).map fun escrow => (env.srcId, escrow.seeds)
  | .publicWithdraw ix =>
    env.accessDerivation env.srcId ix.payer ::
    env.associatedDerivation ix.escrow ix.tokenProgram ix.mint ::
    env.associatedDerivation ix.taker ix.tokenProgram ix.mint ::
    (storedAt Data.toEscrowSrc l ix.escrow).map fun escrow => (env.srcId, escrow.seeds)
  | .cancelEscrow ix =>
    env.associatedDerivation ix.escrow ix.tokenProgram ix.mint ::
    env.optionalDerivation ix.makerAta ix.maker ix.tokenProgram ix.mint ++
    (storedAt Data.toEscrowSrc l ix.escrow).flatMap fun escrow =>
      [(env.srcId, escrow.seeds),
        (env.srcId, escrowSeeds escrow.orderHash escrow.hashlock ix.taker escrow.amount)]
  | .publicCancelEscrow ix =>
    env.accessDerivation env.srcId ix.payer ::
    env.associatedDerivation ix.escrow ix.tokenProgram ix.mint ::
    (storedAt Data.toEscrowSrc l ix.escrow).flatMap fun escrow =>
      (env.srcId, escrow.seeds) ::
      (env.srcId, escrowSeeds escrow.orderHash escrow.hashlock ix.taker escrow.amount) ::
      env.optionalDerivation ix.makerAta escrow.maker ix.tokenProgram ix.mint
  | .cancelOrder ix =>
    env.associatedDerivation ix.order ix.tokenProgram ix.mint ::
    env.optionalDerivation ix.creatorAta ix.creator ix.tokenProgram ix.mint ++
    (storedAt Data.toOrder l ix.order).map fun order => (env.srcId, orderSeeds order.orderHash)
  | .cancelOrderByResolver ix =>
    env.accessDerivation env.srcId ix.resolver ::
    env.associatedDerivation ix.order ix.tokenProgram ix.mint ::
    env.optionalDerivation ix.creatorAta ix.creator ix.tokenProgram ix.mint ++
    (storedAt Data.toOrder l ix.order).map fun order => (env.srcId, orderSeeds order.orderHash)
  | .rescueFundsForEscrow ix =>
    [(env.srcId, escrowSeeds ix.orderHash ix.hashlock ix.taker ix.amount),
      env.associatedDerivation ix.escrow ix.tokenProgram ix.mint,
      env.associatedDerivation ix.taker ix.tokenProgram ix.mint]
  | .rescueFundsForOrder ix =>
    [env.accessDerivation env.srcId ix.resolver,
      (env.srcId, orderSeeds (getOrderHash env ix.params)),
      env.associatedDerivation ix.order ix.tokenProgram ix.mint,
      env.associatedDerivation ix.resolver ix.tokenProgram ix.mint]

def Dst.Instruction.derivations : Dst.Instruction K → List (Derivation K)
  | .create ix =>
    (env.dstId, ix.seeds) :: env.associatedDerivation ix.escrow ix.tokenProgram ix.mint ::
    env.optionalDerivation ix.creatorAta ix.creator ix.tokenProgram ix.mint
  | .withdraw ix =>
    env.associatedDerivation ix.escrow ix.tokenProgram ix.mint ::
    env.optionalDerivation ix.recipientAta ix.recipient ix.tokenProgram ix.mint ++
    (storedAt Data.toEscrowDst l ix.escrow).map fun escrow => (env.dstId, escrow.seeds)
  | .publicWithdraw ix =>
    env.accessDerivation env.dstId ix.payer ::
    env.associatedDerivation ix.escrow ix.tokenProgram ix.mint ::
    env.optionalDerivation ix.recipientAta ix.recipient ix.tokenProgram ix.mint ++
    (storedAt Data.toEscrowDst l ix.escrow).map fun escrow => (env.dstId, escrow.seeds)
  | .cancel ix =>
    env.associatedDerivation ix.escrow ix.tokenProgram ix.mint ::
    env.optionalDerivation ix.creatorAta ix.creator ix.tokenProgram ix.mint ++
    (storedAt Data.toEscrowDst l ix.escrow).map fun escrow => (env.dstId, escrow.seeds)
  | .rescueFunds ix =>
    [(env.dstId, escrowSeeds ix.orderHash ix.hashlock ix.creator ix.escrowAmount),
      env.associatedDerivation ix.escrow ix.tokenProgram ix.mint,
      env.associatedDerivation ix.creator ix.tokenProgram ix.mint]

/-- The derivations of the addresses that an instruction checks, creates or signs for. -/
def Instruction.derivations : Instruction K → List (Derivation K)
  | .whitelist ix => ix.derivations env
  | .src ix => ix.derivations env l
  | .dst ix => ix.derivations env l

/-- The environment whose host answers only the derivations that are made as before. -/
noncomputable def Environment.idealise {chain : Set K} (made : Set (Derivation K))
    (spare : OffChain chain) : Environment K :=
  { env with
    toHost := env.toHost.idealise made spare
    programs_nodup := env.programs_nodup }

end Made

section Fields
variable {env : Environment K} {chain : Set K} {made : Set (Derivation K)} {spare : OffChain chain}

@[simp] theorem Environment.idealise_toHost :
    (env.idealise made spare).toHost = env.toHost.idealise made spare := rfl

@[simp] theorem Environment.idealise_srcId : (env.idealise made spare).srcId = env.srcId := rfl

@[simp] theorem Environment.idealise_dstId : (env.idealise made spare).dstId = env.dstId := rfl

@[simp] theorem Environment.idealise_whitelistId :
    (env.idealise made spare).whitelistId = env.whitelistId := rfl

@[simp] theorem getOrderHash_idealise {p : OrderParams K} :
    getOrderHash (env.idealise made spare) p = getOrderHash env p := rfl

end Fields

/-! ## Functions that the handlers share -/

theorem bind_congr_ok {α β : Type} {step : Result α} {next next' : α → Result β}
    (same : ∀ x, step = .ok x → next x = next' x) : (step >>= next) = (step >>= next') := by
  cases step with
  | error fault => rfl
  | ok x => exact same x rfl

theorem mem_storedAt {T : Type} {read : Data K → Option T} {l : Chain K} {address : K} {value : T}
    (loaded : loadAs read l address = .ok value) : value ∈ storedAt read l address := by
  simp only [loadAs, loadProgram, bind_ok, orFault_ok] at loaded
  obtain ⟨data, held, is⟩ := loaded
  simp [storedAt, held, is]

section Shared
variable [DecidableEq K] {env : Environment K} {chain : Set K} {made : Set (Derivation K)}
  {spare : OffChain chain} {ctx : Context K} {l : Chain K} {seeds : SignerSeeds K}
  {ata : InterfaceAccount K} {program : TokenProgram} {programId : K}

omit [DecidableEq K] in
theorem callSigners_idealise (member : (programId, seeds.seeds) ∈ made)
    (own : ctx.programId = programId) :
    ctx.callSigners (env.idealise made spare) (some seeds) = ctx.callSigners env (some seeds) := by
  subst own
  exact congrArg (ctx.signers ++ ·) (Host.idealise_seedSigner member)

theorem uniTransfer_idealise {params : UniTransferParams K}
    (member : (programId, seeds.seeds) ∈ made) (own : ctx.programId = programId) :
    uniTransfer (env.idealise made spare) ctx params (some seeds) l =
      uniTransfer env ctx params (some seeds) l := by
  simp only [uniTransfer, callSigners_idealise member own]

theorem withdrawAndCloseTokenAta_idealise {authority toAccount mint recipient : K}
    (member : (programId, seeds.seeds) ∈ made) (own : ctx.programId = programId) :
    withdrawAndCloseTokenAta (env.idealise made spare) ctx ata authority toAccount mint program
        recipient seeds l =
      withdrawAndCloseTokenAta env ctx ata authority toAccount mint program recipient seeds l := by
  simp only [withdrawAndCloseTokenAta, uniTransfer_idealise member own,
    callSigners_idealise member own]

variable {bump : Byte} {signing : Seeds K}

theorem processPayout_idealise {mint escrow recipient rent : K} {native : Bool} {amount : U64}
    {recipientAta : Option K} (member : (programId, signing) ∈ made)
    (own : ctx.programId = programId) :
    processPayout (env.idealise made spare) ctx mint native amount escrow ata recipient recipientAta
        rent ⟨signing, bump⟩ program l =
      processPayout env ctx mint native amount escrow ata recipient recipientAta rent
        ⟨signing, bump⟩ program l := by
  have signer : (programId, (⟨signing, bump⟩ : SignerSeeds K).seeds) ∈ made := member
  simp only [processPayout, callSigners_idealise signer own,
    withdrawAndCloseTokenAta_idealise signer own]

theorem rescueFunds_idealise {escrow recipient recipientAta mint : K} {start : Option U32}
    {amount : U64} (member : (programId, signing) ∈ made) (own : ctx.programId = programId) :
    rescueFunds (env.idealise made spare) ctx escrow start ata recipient recipientAta mint program
        amount ⟨signing, bump⟩ l =
      rescueFunds env ctx escrow start ata recipient recipientAta mint program amount
        ⟨signing, bump⟩ l := by
  have signer : (programId, (⟨signing, bump⟩ : SignerSeeds K).seeds) ∈ made := member
  simp only [rescueFunds, closeRescued, uniTransfer_idealise signer own,
    callSigners_idealise signer own]

theorem requireResolverAccess_idealise {client user address : K}
    (member : env.accessDerivation client user ∈ made) :
    Whitelist.requireResolverAccess (env.idealise made spare) client user address l =
      Whitelist.requireResolverAccess env client user address l :=
  bind_congr_ok fun _ _ => requireSeeds_idealise member

omit [DecidableEq K] in
theorem optional_made {optional : Option K} {wallet mint : K}
    (all : ∀ d ∈ env.optionalDerivation optional wallet program mint, d ∈ made) :
    optional.isSome = true → env.associatedDerivation wallet program mint ∈ made := by
  intro given
  obtain ⟨key, rfl⟩ := Option.isSome_iff_exists.mp given
  exact all _ (by simp [Environment.optionalDerivation])

end Shared

/-! ## Handlers -/

section Handlers
variable [DecidableEq K] {env : Environment K} {chain : Set K} {made : Set (Derivation K)}
  {spare : OffChain chain} {clock : Clock} {l : Chain K}

namespace Whitelist

theorem requireAuthority_idealise {whitelistState authority : K}
    (member : (env.whitelistId, whitelistStateSeeds) ∈ made) :
    requireAuthority (env.idealise made spare) whitelistState authority l =
      requireAuthority env whitelistState authority l :=
  bind_congr_ok fun _ _ => congrArg (· >>= _) (requireFound_idealise member)

theorem initializeWhitelist_idealise {ix : Initialize K}
    (all : ∀ d ∈ (Instruction.initializeWhitelist ix).derivations env, d ∈ made) :
    initializeWhitelist (env.idealise made spare) ix l = initializeWhitelist env ix l := by
  have state := all _ (List.mem_singleton_self _)
  exact congrArg (· >>= _) (requireFound_idealise state)

theorem register_idealise {ix : Register K}
    (all : ∀ d ∈ (Instruction.register ix).derivations env, d ∈ made) :
    register (env.idealise made spare) ix l = register env ix l := by
  simp only [Instruction.derivations, List.forall_mem_cons] at all
  obtain ⟨state, access, _⟩ := all
  simp only [register, requireAuthority_idealise state, Environment.idealise_toHost,
    Environment.idealise_whitelistId, requireFound_idealise access, Host.idealise_find access]
  rfl

theorem deregister_idealise {ix : Deregister K}
    (all : ∀ d ∈ (Instruction.deregister ix).derivations env, d ∈ made) :
    deregister (env.idealise made spare) ix l = deregister env ix l := by
  simp only [Instruction.derivations, List.forall_mem_cons] at all
  obtain ⟨state, access, _⟩ := all
  simp only [deregister, requireAuthority_idealise state, Environment.idealise_toHost,
    Environment.idealise_whitelistId, requireSeeds_idealise access]

theorem setAuthority_idealise {ix : SetAuthority K}
    (all : ∀ d ∈ (Instruction.setAuthority ix).derivations env, d ∈ made) :
    setAuthority (env.idealise made spare) ix l = setAuthority env ix l := by
  have state := all _ (List.mem_singleton_self _)
  simp only [setAuthority, requireAuthority_idealise state]

theorem Instruction.run_idealise {ix : Instruction K}
    (all : ∀ d ∈ ix.derivations env, d ∈ made) :
    ix.run (env.idealise made spare) l = ix.run env l := by
  cases ix with
  | initializeWhitelist ix => exact initializeWhitelist_idealise all
  | register ix => exact register_idealise all
  | deregister ix => exact deregister_idealise all
  | setAuthority ix => exact setAuthority_idealise all

end Whitelist

namespace Src

omit [DecidableEq K] in
theorem newOrder_idealise {ix : Create K} {now : U32}
    (member : (env.srcId, orderSeeds (getOrderHash env ix.params)) ∈ made) :
    ix.newOrder (env.idealise made spare) now = ix.newOrder env now :=
  congrArg (fun found => { ix.newOrder env now with bump := found.2 })
    (Host.idealise_find member)

theorem create_idealise {ix : Create K}
    (all : ∀ d ∈ (Instruction.create ix).derivations env l, d ∈ made) :
    create (env.idealise made spare) clock ix l = create env clock ix l := by
  simp only [Instruction.derivations, List.forall_mem_cons] at all
  obtain ⟨order, orderAta, creatorAta⟩ := all
  simp only [create, Environment.idealise_toHost, Environment.idealise_srcId, getOrderHash_idealise,
    checkOptionalToken_idealise (optional_made creatorAta), requireFound_idealise order,
    initIfNeeded_idealise orderAta, newOrder_idealise order]
  rfl

omit [DecidableEq K] in
theorem newEscrow_idealise {ix : CreateEscrow K} {order : Order K} {hashlock : Bytes32}
    {dstAmount : Limbs} {now : U32}
    (member : (env.srcId, escrowSeeds order.orderHash
      (getEscrowHashlock order.hashlock ix.merkleProof) ix.taker ix.amount) ∈ made) :
    ix.newEscrow (env.idealise made spare) order hashlock dstAmount now =
      ix.newEscrow env order hashlock dstAmount now :=
  congrArg (fun found => { ix.newEscrow env order hashlock dstAmount now with bump := found.2 })
    (Host.idealise_find member)

theorem createEscrow_idealise {ix : CreateEscrow K}
    (all : ∀ d ∈ (Instruction.createEscrow ix).derivations env l, d ∈ made) :
    createEscrow (env.idealise made spare) clock ix l = createEscrow env clock ix l := by
  simp only [Instruction.derivations, List.forall_mem_cons, List.forall_mem_flatMap] at all
  obtain ⟨access, orderAta, escrowAta, stored⟩ := all
  simp only [createEscrow, Environment.idealise_toHost, Environment.idealise_srcId,
    requireResolverAccess_idealise access]
  refine bind_congr_ok fun _ _ => bind_congr_ok fun order loaded => ?_
  obtain ⟨orders, escrows, _⟩ := stored order (mem_storedAt loaded)
  have signer : (env.srcId, (Order.signerSeeds order).seeds) ∈ made := orders
  simp only [requireSeeds_idealise orders, loadAssociatedToken_idealise orderAta,
    requireFound_idealise escrows, initIfNeeded_idealise escrowAta, uniTransfer_idealise signer,
    newEscrow_idealise escrows, settleOrder, callSigners_idealise signer]
  rfl

theorem utilsWithdraw_idealise {ctx : Context K} {escrow : EscrowSrc K}
    {address takerAta mint rent recipient : K} {ata : InterfaceAccount K} {program : TokenProgram}
    {secret : Bytes32} (member : (env.srcId, escrow.seeds) ∈ made)
    (own : ctx.programId = env.srcId) :
    utilsWithdraw (env.idealise made spare) ctx escrow address ata takerAta mint program rent
        recipient secret l =
      utilsWithdraw env ctx escrow address ata takerAta mint program rent recipient secret l := by
  have signer : (env.srcId, (⟨escrow.seeds, escrow.bump⟩ : SignerSeeds K).seeds) ∈ made := member
  simp only [utilsWithdraw, withdrawAndCloseTokenAta_idealise signer own]
  rfl

theorem utilsCancel_idealise {ctx : Context K} {escrow : EscrowSrc K}
    {address mint rent creator recipient : K} {ata : InterfaceAccount K} {creatorAta : Option K}
    {program : TokenProgram} (member : (env.srcId, escrow.seeds) ∈ made)
    (own : ctx.programId = env.srcId) :
    utilsCancel (env.idealise made spare) ctx escrow address ata creatorAta mint program rent
        creator recipient l =
      utilsCancel env ctx escrow address ata creatorAta mint program rent creator recipient l := by
  simp only [utilsCancel, processPayout_idealise member own]

theorem withdraw_idealise {ix : Withdraw K}
    (all : ∀ d ∈ (Instruction.withdraw ix).derivations env l, d ∈ made) :
    withdraw (env.idealise made spare) clock ix l = withdraw env clock ix l := by
  simp only [Instruction.derivations, List.forall_mem_cons, List.forall_mem_map] at all
  obtain ⟨escrowAta, takerAta, stored⟩ := all
  refine bind_congr_ok fun escrow loaded => ?_
  have seeds := stored escrow (mem_storedAt loaded)
  simp only [Environment.idealise_toHost, Environment.idealise_srcId, requireSeeds_idealise seeds,
    loadAssociatedToken_idealise escrowAta, loadAssociatedToken_idealise takerAta,
    utilsWithdraw_idealise seeds]
  rfl

theorem publicWithdraw_idealise {ix : PublicWithdraw K}
    (all : ∀ d ∈ (Instruction.publicWithdraw ix).derivations env l, d ∈ made) :
    publicWithdraw (env.idealise made spare) clock ix l = publicWithdraw env clock ix l := by
  simp only [Instruction.derivations, List.forall_mem_cons, List.forall_mem_map] at all
  obtain ⟨access, escrowAta, takerAta, stored⟩ := all
  refine bind_congr_ok fun escrow loaded => ?_
  have seeds := stored escrow (mem_storedAt loaded)
  simp only [Environment.idealise_toHost, Environment.idealise_srcId, requireSeeds_idealise seeds,
    requireResolverAccess_idealise access, loadAssociatedToken_idealise escrowAta,
    loadAssociatedToken_idealise takerAta, utilsWithdraw_idealise seeds]
  rfl

theorem cancelEscrow_idealise {ix : CancelEscrow K}
    (all : ∀ d ∈ (Instruction.cancelEscrow ix).derivations env l, d ∈ made) :
    cancelEscrow (env.idealise made spare) clock ix l = cancelEscrow env clock ix l := by
  simp only [Instruction.derivations, List.cons_append, List.forall_mem_cons,
    List.forall_mem_append, List.forall_mem_flatMap] at all
  obtain ⟨escrowAta, makerAta, stored⟩ := all
  refine bind_congr_ok fun escrow loaded => ?_
  obtain ⟨seeds, checked, _⟩ := stored escrow (mem_storedAt loaded)
  simp only [Environment.idealise_toHost, Environment.idealise_srcId,
    requireSeeds_idealise checked, loadAssociatedToken_idealise escrowAta,
    checkOptionalToken_idealise (optional_made makerAta), utilsCancel_idealise seeds]
  rfl

theorem publicCancelEscrow_idealise {ix : PublicCancelEscrow K}
    (all : ∀ d ∈ (Instruction.publicCancelEscrow ix).derivations env l, d ∈ made) :
    publicCancelEscrow (env.idealise made spare) clock ix l =
      publicCancelEscrow env clock ix l := by
  simp only [Instruction.derivations, List.forall_mem_cons, List.forall_mem_flatMap] at all
  obtain ⟨access, escrowAta, stored⟩ := all
  refine bind_congr_ok fun escrow loaded => ?_
  obtain ⟨seeds, checked, makerAta⟩ := stored escrow (mem_storedAt loaded)
  simp only [Environment.idealise_toHost, Environment.idealise_srcId,
    requireResolverAccess_idealise access, requireSeeds_idealise checked,
    loadAssociatedToken_idealise escrowAta, checkOptionalToken_idealise (optional_made makerAta),
    utilsCancel_idealise seeds]
  rfl

theorem returnTokens_idealise {ctx : Context K} {order : Order K} {address mint : K}
    {ata : InterfaceAccount K} {creatorAta : Option K} {program : TokenProgram}
    (member : (env.srcId, (Order.signerSeeds order).seeds) ∈ made)
    (own : ctx.programId = env.srcId) :
    returnTokens (env.idealise made spare) ctx order address ata creatorAta mint program l =
      returnTokens env ctx order address ata creatorAta mint program l := by
  simp only [returnTokens, uniTransfer_idealise member own]

theorem cancelOrder_idealise {ix : CancelOrder K}
    (all : ∀ d ∈ (Instruction.cancelOrder ix).derivations env l, d ∈ made) :
    cancelOrder (env.idealise made spare) clock ix l = cancelOrder env clock ix l := by
  simp only [Instruction.derivations, List.cons_append, List.forall_mem_cons,
    List.forall_mem_append, List.forall_mem_map] at all
  obtain ⟨orderAta, creatorAta, stored⟩ := all
  refine bind_congr_ok fun order loaded => ?_
  have orders := stored order (mem_storedAt loaded)
  have signer : (env.srcId, (Order.signerSeeds order).seeds) ∈ made := orders
  simp only [Environment.idealise_toHost, Environment.idealise_srcId,
    requireSeeds_idealise orders, loadAssociatedToken_idealise orderAta,
    checkOptionalToken_idealise (optional_made creatorAta), returnTokens_idealise signer,
    callSigners_idealise signer]
  rfl

theorem cancelOrderByResolver_idealise {ix : CancelOrderbyResolver K}
    (all : ∀ d ∈ (Instruction.cancelOrderByResolver ix).derivations env l, d ∈ made) :
    cancelOrderByResolver (env.idealise made spare) clock ix l =
      cancelOrderByResolver env clock ix l := by
  simp only [Instruction.derivations, List.cons_append, List.forall_mem_cons,
    List.forall_mem_append, List.forall_mem_map] at all
  obtain ⟨access, orderAta, creatorAta, stored⟩ := all
  simp only [cancelOrderByResolver, Environment.idealise_toHost, Environment.idealise_srcId,
    requireResolverAccess_idealise access]
  refine bind_congr_ok fun _ _ => bind_congr_ok fun order loaded => ?_
  have orders := stored order (mem_storedAt loaded)
  have signer : (env.srcId, (Order.signerSeeds order).seeds) ∈ made := orders
  simp only [requireSeeds_idealise orders, loadAssociatedToken_idealise orderAta,
    checkOptionalToken_idealise (optional_made creatorAta), returnTokens_idealise signer,
    callSigners_idealise signer]
  rfl

theorem rescueFundsForEscrow_idealise {ix : RescueFundsForEscrow K}
    (all : ∀ d ∈ (Instruction.rescueFundsForEscrow ix).derivations env l, d ∈ made) :
    rescueFundsForEscrow (env.idealise made spare) clock ix l =
      rescueFundsForEscrow env clock ix l := by
  simp only [Instruction.derivations, List.forall_mem_cons] at all
  obtain ⟨escrows, escrowAta, takerAta, _⟩ := all
  simp only [rescueFundsForEscrow, Environment.idealise_toHost, Environment.idealise_srcId,
    Host.idealise_find escrows, requireFound_idealise escrows,
    loadAssociatedToken_idealise escrowAta, loadAssociatedToken_idealise takerAta,
    Source.rescueFunds_idealise escrows]
  rfl

theorem rescueFundsForOrder_idealise {ix : RescueFundsForOrder K}
    (all : ∀ d ∈ (Instruction.rescueFundsForOrder ix).derivations env l, d ∈ made) :
    rescueFundsForOrder (env.idealise made spare) clock ix l =
      rescueFundsForOrder env clock ix l := by
  simp only [Instruction.derivations, List.forall_mem_cons] at all
  obtain ⟨access, orders, orderAta, resolverAta, _⟩ := all
  simp only [rescueFundsForOrder, Environment.idealise_toHost, Environment.idealise_srcId,
    getOrderHash_idealise, requireResolverAccess_idealise access, Host.idealise_find orders,
    requireFound_idealise orders, loadAssociatedToken_idealise orderAta,
    loadAssociatedToken_idealise resolverAta, Source.rescueFunds_idealise orders]
  rfl

theorem Instruction.run_idealise {ix : Instruction K}
    (all : ∀ d ∈ ix.derivations env l, d ∈ made) :
    ix.run (env.idealise made spare) clock l = ix.run env clock l := by
  cases ix with
  | create ix => exact create_idealise all
  | createEscrow ix => exact createEscrow_idealise all
  | withdraw ix => exact withdraw_idealise all
  | publicWithdraw ix => exact publicWithdraw_idealise all
  | cancelEscrow ix => exact cancelEscrow_idealise all
  | publicCancelEscrow ix => exact publicCancelEscrow_idealise all
  | cancelOrder ix => exact cancelOrder_idealise all
  | cancelOrderByResolver ix => exact cancelOrderByResolver_idealise all
  | rescueFundsForEscrow ix => exact rescueFundsForEscrow_idealise all
  | rescueFundsForOrder ix => exact rescueFundsForOrder_idealise all

end Src

namespace Dst

omit [DecidableEq K] in
theorem newEscrow_idealise {ix : Create K} {now : U32} (member : (env.dstId, ix.seeds) ∈ made) :
    ix.newEscrow (env.idealise made spare) now = ix.newEscrow env now :=
  congrArg (fun found => { ix.newEscrow env now with bump := found.2 })
    (Host.idealise_find member)

theorem create_idealise {ix : Create K}
    (all : ∀ d ∈ (Instruction.create ix).derivations env l, d ∈ made) :
    create (env.idealise made spare) clock ix l = create env clock ix l := by
  simp only [Instruction.derivations, List.forall_mem_cons] at all
  obtain ⟨escrows, escrowAta, creatorAta⟩ := all
  simp only [create, Environment.idealise_toHost, Environment.idealise_dstId,
    checkOptionalToken_idealise (optional_made creatorAta), requireFound_idealise escrows,
    initIfNeeded_idealise escrowAta, newEscrow_idealise escrows]
  rfl

theorem initRecipientAta_idealise {signers : List K} {payer recipient mint : K}
    {recipientAta : Option K} {program : TokenProgram}
    (member : recipientAta.isSome = true →
      env.associatedDerivation recipient program mint ∈ made) :
    initRecipientAta (env.idealise made spare) signers payer recipientAta recipient program mint l =
      initRecipientAta env signers payer recipientAta recipient program mint l := by
  cases recipientAta with
  | none => rfl
  | some key => exact initIfNeeded_idealise (member rfl)

theorem utilsWithdraw_idealise {ctx : Context K} {escrow : EscrowDst K}
    {address recipient mint rent collector : K} {ata : InterfaceAccount K}
    {recipientAta : Option K} {program : TokenProgram} {secret : Bytes32}
    (member : (env.dstId, escrow.seeds) ∈ made) (own : ctx.programId = env.dstId) :
    utilsWithdraw (env.idealise made spare) ctx escrow address ata recipient recipientAta mint
        program rent collector secret l =
      utilsWithdraw env ctx escrow address ata recipient recipientAta mint program rent collector
        secret l := by
  simp only [utilsWithdraw, processPayout_idealise member own]
  rfl

theorem withdraw_idealise {ix : Withdraw K}
    (all : ∀ d ∈ (Instruction.withdraw ix).derivations env l, d ∈ made) :
    withdraw (env.idealise made spare) clock ix l = withdraw env clock ix l := by
  simp only [Instruction.derivations, List.cons_append, List.forall_mem_cons,
    List.forall_mem_append, List.forall_mem_map] at all
  obtain ⟨escrowAta, recipientAta, stored⟩ := all
  refine bind_congr_ok fun escrow loaded => ?_
  have seeds := stored escrow (mem_storedAt loaded)
  simp only [Environment.idealise_toHost, Environment.idealise_dstId, requireSeeds_idealise seeds,
    loadAssociatedToken_idealise escrowAta,
    initRecipientAta_idealise (optional_made recipientAta), utilsWithdraw_idealise seeds]
  rfl

theorem publicWithdraw_idealise {ix : PublicWithdraw K}
    (all : ∀ d ∈ (Instruction.publicWithdraw ix).derivations env l, d ∈ made) :
    publicWithdraw (env.idealise made spare) clock ix l = publicWithdraw env clock ix l := by
  simp only [Instruction.derivations, List.cons_append, List.forall_mem_cons,
    List.forall_mem_append, List.forall_mem_map] at all
  obtain ⟨access, escrowAta, recipientAta, stored⟩ := all
  refine bind_congr_ok fun escrow loaded => ?_
  have seeds := stored escrow (mem_storedAt loaded)
  simp only [Environment.idealise_toHost, Environment.idealise_dstId, requireSeeds_idealise seeds,
    requireResolverAccess_idealise access, loadAssociatedToken_idealise escrowAta,
    initRecipientAta_idealise (optional_made recipientAta), utilsWithdraw_idealise seeds]
  rfl

theorem cancel_idealise {ix : Cancel K}
    (all : ∀ d ∈ (Instruction.cancel ix).derivations env l, d ∈ made) :
    cancel (env.idealise made spare) clock ix l = cancel env clock ix l := by
  simp only [Instruction.derivations, List.cons_append, List.forall_mem_cons,
    List.forall_mem_append, List.forall_mem_map] at all
  obtain ⟨escrowAta, creatorAta, stored⟩ := all
  refine bind_congr_ok fun escrow loaded => ?_
  have seeds := stored escrow (mem_storedAt loaded)
  simp only [Environment.idealise_toHost, Environment.idealise_dstId, requireSeeds_idealise seeds,
    loadAssociatedToken_idealise escrowAta,
    checkOptionalToken_idealise (optional_made creatorAta), processPayout_idealise seeds]
  rfl

theorem rescueFunds_idealise {ix : RescueFunds K}
    (all : ∀ d ∈ (Instruction.rescueFunds ix).derivations env l, d ∈ made) :
    rescueFunds (env.idealise made spare) clock ix l = rescueFunds env clock ix l := by
  simp only [Instruction.derivations, List.forall_mem_cons] at all
  obtain ⟨escrows, escrowAta, creatorAta, _⟩ := all
  simp only [rescueFunds, Environment.idealise_toHost, Environment.idealise_dstId,
    Host.idealise_find escrows, requireFound_idealise escrows,
    loadAssociatedToken_idealise escrowAta, loadAssociatedToken_idealise creatorAta,
    Source.rescueFunds_idealise escrows]
  rfl

theorem Instruction.run_idealise {ix : Instruction K}
    (all : ∀ d ∈ ix.derivations env l, d ∈ made) :
    ix.run (env.idealise made spare) clock l = ix.run env clock l := by
  cases ix with
  | create ix => exact create_idealise all
  | withdraw ix => exact withdraw_idealise all
  | publicWithdraw ix => exact publicWithdraw_idealise all
  | cancel ix => exact cancel_idealise all
  | rescueFunds ix => exact rescueFunds_idealise all

end Dst

/-- An instruction that makes only these derivations runs alike. -/
theorem Instruction.run_idealise {ix : Instruction K}
    (all : ∀ d ∈ ix.derivations env l, d ∈ made) :
    ix.run (env.idealise made spare) clock l = ix.run env clock l := by
  cases ix with
  | whitelist ix => exact ix.run_idealise all
  | src ix => exact ix.run_idealise all
  | dst ix => exact ix.run_idealise all

/-- And so does its transaction, the rent rule deriving nothing. -/
theorem Instruction.process_idealise {ix : Instruction K}
    (all : ∀ d ∈ ix.derivations env l, d ∈ made) :
    ix.process (env.idealise made spare) clock l = ix.process env clock l := by
  simp only [Instruction.process, Instruction.run_idealise all]
  rfl

end Handlers
end CrossChainEscrow.Source
