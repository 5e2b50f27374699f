import CrossChainEscrow.Invariants.Isolation
import CrossChainEscrow.Invariants.Orders

/-!
# Orders and escrows are backed by their token accounts

A live order's account holds what remains to be filled, less what rescues took
from it since its creation; a live source escrow's account holds its amount until
its rescue period begins, provided its order was itself not yet open to rescues
when the escrow was created. Rescues only start eight days after the stored
deployment time, so before that both hold without any reservation.
-/

namespace CrossChainEscrow.Source
open Library.Words Library.Bytes Library.Accounts

variable {K : Type} [DecidableEq K]

/-- What rescues took of `mint` from the order at `address` since its creation. -/
def rescuedFrom (address mint : K) : History K → Nat
  | [] => 0
  | e :: h =>
    match e.ix with
    | .src (.create ix) => if ix.order = address then 0 else rescuedFrom address mint h
    | .src (.rescueFundsForOrder ix) =>
      if ix.order = address ∧ ix.mint = mint then ix.rescueAmount.toNat + rescuedFrom address mint h
      else rescuedFrom address mint h
    | _ => rescuedFrom address mint h

/-- The fill that last created the escrow at `address`. -/
def fillOf (address : K) : History K → Option (Fill K)
  | [] => none
  | e :: h =>
    match e.ix with
    | .src (.createEscrow ix) => if ix.escrow = address then e.fill ix else fillOf address h
    | _ => fillOf address h

theorem unnamed_history {address : K} {e : Event K} (h : History K) (other : address ∉ e.ix.named) :
    (∀ mint, rescuedFrom address mint (e :: h) = rescuedFrom address mint h) ∧
      fillOf address (e :: h) = fillOf address h := by
  obtain ⟨pre, ix, post⟩ := e
  cases ix with
  | whitelist ix => exact ⟨fun _ => rfl, rfl⟩
  | dst ix => exact ⟨fun _ => rfl, rfl⟩
  | src ix =>
    cases ix with
    | create ix =>
      have distinct : ix.order ≠ address := fun same => other (by simp [Instruction.named,
        Src.Instruction.named, same])
      exact ⟨fun mint => if_neg distinct, rfl⟩
    | createEscrow ix =>
      have distinct : ix.escrow ≠ address := fun same => other (by simp [Instruction.named,
        Src.Instruction.named, same])
      exact ⟨fun _ => rfl, if_neg distinct⟩
    | rescueFundsForOrder ix =>
      have distinct : ix.order ≠ address := fun same => other (by simp [Instruction.named,
        Src.Instruction.named, same])
      exact ⟨fun mint => if_neg (fun both => distinct both.1), rfl⟩
    | _ => exact ⟨fun _ => rfl, rfl⟩

/-- The end of the time in which the account is out of reach of rescues. -/
def rescueTime (timelocks : Limbs) : Nat := timelocks.timelocks.deployedAt + rescueDelay.toNat

structure OrderBacked (env : Environment K) (h : History K) (s : State K) (a : K)
    (order : Order K) (program : TokenProgram) : Prop where
  owned : env.mintProgram order.token = some program
  tokens : order.remainingAmount.toNat ≤
    s.ledger.tokens (env.associatedTokenAddress a program order.token) +
      rescuedFrom a order.token h
  lamports : order.assetIsNative = true →
    order.maxCancellationPremium.toNat + order.remainingAmount.toNat ≤
        s.ledger.lamports (env.associatedTokenAddress a program order.token) +
          rescuedFrom a order.token h ∨
      order.remainingAmount.toNat ≤ rescuedFrom a order.token h
  early : s.clock.unixTimestamp.toNat < rescueTime order.timelocks →
    rescuedFrom a order.token h = 0

structure EscrowBacked (env : Environment K) (h : History K) (s : State K) (a : K)
    (escrow : EscrowSrc K) (program : TokenProgram) : Prop where
  owned : env.mintProgram escrow.token = some program
  filled : ∃ f, fillOf a h = some f ∧ f.escrow = escrow ∧
    (f.clock.unixTimestamp.toNat < rescueTime f.order.timelocks →
      s.clock.unixTimestamp.toNat < rescueTime escrow.timelocks →
      escrow.amount.toNat ≤ s.ledger.tokens (env.associatedTokenAddress a program escrow.token))

def Backed (env : Environment K) (h : History K) (s : State K) (a : K) : Data K → Prop
  | .order order => ∃ program, OrderBacked env h s a order program
  | .escrowSrc escrow => ∃ program, EscrowBacked env h s a escrow program
  | _ => True

variable {env : Environment K} {h : History K} {s : State K} {l : Chain K} {a : K}

/-! ## What does not touch an account keeps it backed -/

theorem Backed.of_untouched {h' : History K} {s' : State K} {data : Data K}
    (backed : Backed env h s a data) (untouched : Untouched env a s.ledger s'.ledger)
    (rescued : ∀ mint, rescuedFrom a mint h' = rescuedFrom a mint h)
    (fill : fillOf a h' = fillOf a h)
    (later : s.clock.unixTimestamp.toNat ≤ s'.clock.unixTimestamp.toNat) :
    Backed env h' s' a data := by
  cases data with
  | order order =>
    obtain ⟨program, backed⟩ := backed
    have tokens := untouched.tokens program order.token
    have lamports := untouched.ataLamports program order.token
    have before := backed.tokens
    refine ⟨program, backed.owned, ?_, fun native => ?_, fun early => ?_⟩
    · rw [rescued]
      omega
    · rw [rescued]
      have either := backed.lamports native
      omega
    · rw [rescued]
      exact backed.early (by omega)
  | escrowSrc escrow =>
    obtain ⟨program, backed⟩ := backed
    obtain ⟨f, found, same, amount⟩ := backed.filled
    have tokens := untouched.tokens program escrow.token
    refine ⟨program, backed.owned, f, fill.trans found, same, fun fillEarly early => ?_⟩
    have before := amount fillEarly (by omega)
    omega
  | _ => exact True.intro

omit [DecidableEq K] in
theorem Untouched.refl (env : Environment K) (a : K) (l : Chain K) : Untouched env a l l :=
  ⟨rfl, Nat.le_refl _, fun _ _ => Nat.le_refl _, fun _ _ => Nat.le_refl _,
    fun _ _ _ _ => ⟨Nat.le_refl _, Nat.le_refl _⟩⟩

/-! ## Creation, fills and rescues -/

theorem Trace.create_backed {ix : Src.Create K} (trace : Trace env h s)
    (signed : env.Wallet ix.creator) (ran : Src.create env s.clock ix s.ledger = .ok l) :
    OrderBacked env (⟨s, .src (.create ix), l⟩ :: h) ⟨l, s.clock⟩ ix.order
      (ix.newOrder env s.clock.unixTimestamp) ix.tokenProgram := by
  have call : (Instruction.src (.create ix)).run env s.clock s.ledger = .ok l := ran
  have derived : env.Derived ix.order :=
    Instruction.named_derived call _ (by simp [Instruction.named, Src.Instruction.named])
  have other : ix.creator ≠ ix.order := by
    intro same
    exact derived.notWallet (same ▸ signed)
  have backed := Src.create_backed trace.tokenSound other ran
  obtain ⟨after, held, owner, mint, program, enough⟩ := backed.account
  have soundAfter : TokenSound env.toHost l :=
    Actions.tokenSound (Instruction.actions call) trace.tokenSound
  have owned : env.mintProgram ix.mint = some ix.tokenProgram :=
    soundAfter.mintProgram_eq held program mint
  have none : rescuedFrom ix.order ix.mint (⟨s, .src (.create ix), l⟩ :: h) = 0 := if_pos rfl
  have lamports := backed.lamports
  refine ⟨owned, ?_, fun native => Or.inl ?_, fun _ => none⟩
  · change ix.amount.toNat ≤ l.tokens (env.associatedTokenAddress ix.order ix.tokenProgram ix.mint) + _
    rw [← backed.derived, Ledger.tokens_of_token held]
    omega
  · have isNative : ix.assetIsNative = true := native
    rw [isNative, if_pos rfl] at lamports
    change ix.maxCancellationPremium.toNat + ix.amount.toNat ≤
      l.lamports (env.associatedTokenAddress ix.order ix.tokenProgram ix.mint) + _
    rw [← backed.derived]
    omega

section Fill
variable {ix : Src.CreateEscrow K} {v : Src.CreateEscrow.Values K} {program : TokenProgram}

/-- A fill that leaves an order takes its amount and no more. -/
theorem OrderBacked.filled (free : env.CollisionFree) (trace : Trace env h s)
    (derived : ¬ env.Wallet ix.order) (backed : OrderBacked env h s ix.order v.order program)
    (steps : Src.CreateEscrow.Steps env s.clock ix s.ledger v l) (continues : ¬ ix.Ends v.order)
    {remainingAmount : U64}
    (sum : remainingAmount.toNat + ix.amount.toNat = v.order.remainingAmount.toNat) :
    OrderBacked env (⟨s, .src (.createEscrow ix), l⟩ :: h) ⟨l, s.clock⟩ ix.order
      { v.order with remainingAmount } program := by
  have filled := steps.filled
  obtain ⟨held, lamports⟩ := filled.continued continues
  have token := steps.token
  obtain ⟨_, same⟩ := trace.checked_ata free derived backed.owned token steps.orderAta_eq
  have taken : v.taken ix = ix.amount.toNat := by
    unfold Src.CreateEscrow.Ends at continues
    rw [not_or] at continues
    exact if_neg continues.2
  have enough := filled.enough
  have tokens := backed.tokens
  rw [taken] at held lamports enough
  rw [same] at held lamports token
  rw [Ledger.tokens_of_token token] at tokens
  refine ⟨backed.owned, ?_, fun native => ?_, backed.early⟩
  · change remainingAmount.toNat ≤
      l.tokens (env.associatedTokenAddress ix.order program v.order.token) +
        rescuedFrom ix.order v.order.token h
    rw [Ledger.tokens_of_token held]
    change _ ≤ v.orderToken.amount - ix.amount.toNat + _
    omega
  · have before := backed.lamports native
    change v.order.maxCancellationPremium.toNat + remainingAmount.toNat ≤
        l.lamports (env.associatedTokenAddress ix.order program v.order.token) +
          rescuedFrom ix.order v.order.token h ∨
      remainingAmount.toNat ≤ rescuedFrom ix.order v.order.token h
    omega

/-- The token program that a fill names is that of the order's token. -/
theorem OrderBacked.program_eq (free : env.CollisionFree) (trace : Trace env h s)
    (derived : ¬ env.Wallet ix.order) (backed : OrderBacked env h s ix.order v.order program)
    (steps : Src.CreateEscrow.Steps env s.clock ix s.ledger v l) : ix.tokenProgram = program :=
  (trace.checked_ata free derived backed.owned steps.token steps.orderAta_eq).1

/-- While no rescue took anything, the order's account covers what remains. -/
theorem OrderBacked.unrescued (free : env.CollisionFree) (trace : Trace env h s)
    (derived : ¬ env.Wallet ix.order) (backed : OrderBacked env h s ix.order v.order program)
    (steps : Src.CreateEscrow.Steps env s.clock ix s.ledger v l)
    (whole : rescuedFrom ix.order v.order.token h = 0) :
    v.order.remainingAmount.toNat ≤ v.orderToken.amount := by
  have programs := backed.program_eq free trace derived steps
  have tokens := backed.tokens
  rw [whole, ← steps.mint, ← programs, ← steps.ataDerived,
    Ledger.tokens_of_token steps.token] at tokens
  exact tokens

omit [DecidableEq K] in
/-- A fill takes its amount from an account that covers what remains. -/
theorem taken_enough (covers : v.order.remainingAmount.toNat ≤ v.orderToken.amount) :
    ix.amount.toNat ≤ v.taken ix := by
  unfold Src.CreateEscrow.Values.taken Src.amountToTransfer
  split
  · next last =>
    rw [← last]
    exact covers
  · exact Nat.le_refl _

/-- The escrow of a fill holds its amount if its order was still whole. -/
theorem OrderBacked.created (free : env.CollisionFree) (trace : Trace env h s)
    (derived : ¬ env.Wallet ix.order) (backed : OrderBacked env h s ix.order v.order program)
    (steps : Src.CreateEscrow.Steps env s.clock ix s.ledger v l) :
    EscrowBacked env (⟨s, .src (.createEscrow ix), l⟩ :: h) ⟨l, s.clock⟩ ix.escrow
      (ix.newEscrow env v.order v.hashlock v.dstAmount s.clock.unixTimestamp) program := by
  have filled := steps.filled
  have programs := backed.program_eq free trace derived steps
  have fill : fillOf ix.escrow (⟨s, .src (.createEscrow ix), l⟩ :: h) = _ :=
    (if_pos rfl).trans steps.fill_eq
  refine ⟨backed.owned, _, fill, rfl, fun early _ => ?_⟩
  have enough : ix.amount.toNat ≤ v.taken ix :=
    taken_enough (backed.unrescued free trace derived steps (backed.early early))
  have gained := filled.gained
  change ix.amount.toNat ≤ l.tokens (env.associatedTokenAddress ix.escrow program v.order.token)
  rw [← steps.mint, ← programs, ← filled.derived]
  omega

end Fill

/-- A rescue takes from one account: another associated account of a derived
address keeps its tokens and its lamports. -/
theorem RescueCall.Steps.spares {c : RescueCall K} {token partyToken : TokenAccount K}
    {start : Option U32} (free : env.CollisionFree) (trace : Trace env h s)
    (steps : RescueCall.Steps env s.clock c token partyToken start s.ledger l)
    (wallet : env.Wallet c.party) (distinct : c.party ≠ c.address) {address mint : K}
    {program : TokenProgram} (derived : ¬ env.Wallet address)
    (other : env.associatedTokenAddress address program mint ≠ c.ata) :
    l.data (env.associatedTokenAddress address program mint) =
        s.ledger.data (env.associatedTokenAddress address program mint) ∧
      s.ledger.lamports (env.associatedTokenAddress address program mint) ≤
        l.lamports (env.associatedTokenAddress address program mint) := by
  have rescued := steps.rescued distinct
  have notParty : env.associatedTokenAddress address program mint ≠ c.partyAta := by
    intro same
    have held := steps.partyAccount
    rw [← same] at held
    have owner := (trace.associatedSound free derived _ _ _ held).1
    exact derived (owner ▸ steps.partyOwner.symm ▸ wallet)
  exact ⟨rescued.others _ other notParty, rescued.more _ other⟩

section Rescues
variable {ix : Src.RescueFundsForOrder K} {order : Order K} {program : TokenProgram}
  {token partyToken : TokenAccount K} {start : Option U32} (free : env.CollisionFree)
  (trace : Trace env h s) (live : s.ledger.programAt ix.order = some (.order order))
  (signed : env.Wallet ix.resolver) (backed : OrderBacked env h s ix.order order program)
  (steps : RescueCall.Steps env s.clock (ix.call env) token partyToken start s.ledger l)
include free trace live signed backed steps

/-- A rescue of the order's token is counted. -/
theorem OrderBacked.rescued_token (mint : ix.mint = order.token)
    (late : rescueTime order.timelocks ≤ s.clock.unixTimestamp.toNat) :
    OrderBacked env (⟨s, .src (.rescueFundsForOrder ix), l⟩ :: h) ⟨l, s.clock⟩ ix.order order
      program := by
  have derived := (trace.placed live).derived.notWallet
  have rescued : Rescued s.ledger l ix.orderAta ix.resolverAta token ix.rescueAmount.toNat :=
    steps.rescued (trace.wallet_ne live signed)
  have account : s.ledger.data ix.orderAta = .token token := steps.account
  have ataDerived : ix.orderAta = env.associatedTokenAddress ix.order ix.tokenProgram ix.mint :=
    steps.ataDerived
  rw [mint] at ataDerived
  obtain ⟨_, same⟩ := trace.checked_ata free derived backed.owned account ataDerived
  have counted : rescuedFrom ix.order order.token (⟨s, .src (.rescueFundsForOrder ix), l⟩ :: h) =
      ix.rescueAmount.toNat + rescuedFrom ix.order order.token h := if_pos ⟨rfl, mint⟩
  have before := backed.tokens
  have premium := backed.lamports
  rw [← same] at before premium
  have drained := rescued.drained
  have enough := rescued.enough
  have paid := rescued.lamports
  have held := Ledger.tokens_of_token account
  refine ⟨backed.owned, ?_, fun native => ?_, fun early => by dsimp only at early; omega⟩
  · rw [← same, counted]
    dsimp only
    omega
  · rw [← same, counted]
    have either := premium native
    dsimp only
    rcases Nat.lt_or_ge ix.rescueAmount.toNat token.amount with less | all
    · have left := paid less
      omega
    · exact Or.inr (by omega)

/-- A rescue of another token leaves what backs the order alone. -/
theorem OrderBacked.rescued_other (mint : ix.mint ≠ order.token)
    (late : rescueTime order.timelocks ≤ s.clock.unixTimestamp.toNat) :
    OrderBacked env (⟨s, .src (.rescueFundsForOrder ix), l⟩ :: h) ⟨l, s.clock⟩ ix.order order
      program := by
  have derived := (trace.placed live).derived.notWallet
  have other : env.associatedTokenAddress ix.order program order.token ≠ (ix.call env).ata := by
    intro same
    rw [steps.ataDerived] at same
    exact mint (free.associated_inj same).2.2.symm
  obtain ⟨kept, more⟩ :=
    steps.spares free trace signed (trace.wallet_ne live signed) derived other
  have counted : rescuedFrom ix.order order.token (⟨s, .src (.rescueFundsForOrder ix), l⟩ :: h) =
      rescuedFrom ix.order order.token h := if_neg (fun both => mint both.2)
  have premium := backed.lamports
  refine ⟨backed.owned, ?_, fun native => ?_, fun early => by dsimp only at early; omega⟩
  · rw [counted, Ledger.tokens_congr kept]
    exact backed.tokens
  · rw [counted]
    have either := premium native
    dsimp only
    omega

end Rescues

/-- What a rescue takes is accounted for, and the rescue period has begun. -/
theorem OrderBacked.rescued {ix : Src.RescueFundsForOrder K} {order : Order K}
    {program : TokenProgram} (free : env.CollisionFree) (trace : Trace env h s)
    (live : s.ledger.programAt ix.order = some (.order order))
    (signed : env.Wallet ix.resolver)
    (backed : OrderBacked env h s ix.order order program)
    (ran : Src.rescueFundsForOrder env s.clock ix s.ledger = .ok l) :
    OrderBacked env (⟨s, .src (.rescueFundsForOrder ix), l⟩ :: h) ⟨l, s.clock⟩ ix.order order
      program := by
  obtain ⟨_, token, partyToken, start, steps⟩ := rescueFundsForOrder_steps ran
  obtain ⟨time, deployed, reached⟩ := steps.started _ (Ledger.programAt_eq_some.mp live)
  have late : rescueTime order.timelocks ≤ s.clock.unixTimestamp.toNat := by
    rw [rescueTime, Option.some.inj deployed]
    exact reached
  by_cases mint : ix.mint = order.token
  · exact backed.rescued_token free trace live signed steps mint late
  · exact backed.rescued_other free trace live signed steps mint late

/-! ## Every run -/

theorem removed_not_held {l l' : Chain K} {data : Data K}
    (removed : l'.programAt = Function.update l.programAt a none)
    (held : l'.programAt a = some data) : False := by
  rw [removed, Function.update_self] at held
  cases held

/-- A live order that a call names afterwards is still backed. -/
theorem Trace.backed_orderCall {ix : Instruction K} {order : Order K} (free : env.CollisionFree)
    (trace : Trace env h s) (signed : ∀ key ∈ ix.signers, env.Wallet key)
    (ran : ix.run env s.clock s.ledger = .ok l)
    (before : ∀ data, s.ledger.programAt a = some data → Backed env h s a data)
    (live : s.ledger.programAt a = some (.order order)) (held : l.programAt a = some (.order order))
    (call : OrderCall a ix) : Backed env (⟨s, ix, l⟩ :: h) ⟨l, s.clock⟩ a (.order order) := by
  have derived := (trace.placed live).derived.notWallet
  cases call with
  | @createEscrow c named =>
    subst named
    obtain ⟨v, steps⟩ := Src.createEscrow_steps ran
    obtain ⟨left, leaves, programs⟩ := steps.programAt
    obtain ⟨program, backed⟩ := before _ (Ledger.programAt_eq_some.mpr steps.loaded)
    rw [programs, Function.update_self] at held
    rcases leaves with ⟨_, rfl⟩ | ⟨continues, remaining, sum, rfl⟩
    · cases held
    · obtain rfl : { v.order with remainingAmount := remaining } = order := by simpa using held
      exact ⟨program, backed.filled free trace derived steps continues sum⟩
  | @cancelOrder c named =>
    subst named
    exact (removed_not_held (Src.cancelOrder_programAt ran) held).elim
  | @cancelOrderByResolver c named =>
    subst named
    exact (removed_not_held (Src.cancelOrderByResolver_programAt ran) held).elim
  | @rescue c named =>
    subst named
    obtain ⟨program, backed⟩ := before _ live
    have resolver : env.Wallet c.resolver := signed _ (by simp [Instruction.signers,
      Src.Instruction.signers])
    exact ⟨program, backed.rescued free trace live resolver ran⟩

/-- A call for a source escrow that is still there afterwards is a rescue. -/
theorem EscrowSrcCall.rescue_of_held {ix : Instruction K} {data : Data K} (call : EscrowSrcCall a ix)
    (ran : ix.run env s.clock s.ledger = .ok l) (held : l.programAt a = some data) :
    ∃ c : Src.RescueFundsForEscrow K, ix = .src (.rescueFundsForEscrow c) ∧ c.escrow = a := by
  cases call with
  | @withdraw c named =>
    subst named
    obtain ⟨_, _, _, _, _, steps⟩ := Src.withdraw_steps ran
    exact (removed_not_held steps.programAt held).elim
  | @publicWithdraw c named =>
    subst named
    obtain ⟨_, _, _, _, _, _, steps⟩ := Src.publicWithdraw_steps ran
    exact (removed_not_held steps.programAt held).elim
  | @cancelEscrow c named =>
    subst named
    obtain ⟨_, _, _, _, steps⟩ := Src.cancelEscrow_steps ran
    exact (removed_not_held steps.programAt held).elim
  | @publicCancelEscrow c named =>
    subst named
    obtain ⟨_, _, _, _, _, steps⟩ := Src.publicCancelEscrow_steps ran
    exact (removed_not_held steps.programAt held).elim
  | rescue named => exact ⟨_, rfl, named⟩

/-- A live source escrow that a call names and leaves is open to rescues. -/
theorem Trace.backed_escrowCall {ix : Instruction K} {escrow : EscrowSrc K}
    (ran : ix.run env s.clock s.ledger = .ok l)
    (before : Backed env h s a (.escrowSrc escrow))
    (live : s.ledger.programAt a = some (.escrowSrc escrow))
    (held : l.programAt a = some (.escrowSrc escrow)) (call : EscrowSrcCall a ix) :
    Backed env (⟨s, ix, l⟩ :: h) ⟨l, s.clock⟩ a (.escrowSrc escrow) := by
  obtain ⟨program, backed⟩ := before
  obtain ⟨c, rfl, rfl⟩ := call.rescue_of_held ran held
  obtain ⟨_, _, _, steps⟩ := rescueFundsForEscrow_steps ran
  obtain ⟨time, deployed, reached⟩ := steps.started _ (Ledger.programAt_eq_some.mp live)
  obtain ⟨f, found, same, _⟩ := backed.filled
  refine ⟨program, backed.owned, f, found, same, fun _ early => ?_⟩
  have times : rescueTime escrow.timelocks = time + rescueDelay.toNat := by
    rw [rescueTime, Option.some.inj deployed]
  dsimp only at early
  omega

/-- In every run, live orders and source escrows are backed. -/
theorem Trace.backed (free : env.CollisionFree) (trace : Trace env h s) {data : Data K}
    (held : s.ledger.programAt a = some data) : Backed env h s a data := by
  induction trace generalizing a data with
  | start genesis =>
    rw [genesis.noPrograms] at held
    cases held
  | tick trace later ih =>
    exact (ih held).of_untouched (Untouched.refl env a _) (fun _ => rfl) rfl later
  | external trace confined sound owned ih =>
    rw [owned] at held
    exact (ih held).of_untouched (trace.untouched_external free held confined) (fun _ => rfl) rfl
      (Nat.le_refl _)
  | @step h s ix l trace signed ran ih =>
    rcases Instruction.origin ran held with live | new
    · by_cases named : a ∈ ix.named
      · have placed := trace.placed live
        cases data with
        | order order =>
          exact trace.backed_orderCall free signed ran (fun _ => ih) live held
            (placed.orderCall free live ran named)
        | escrowSrc escrow =>
          exact Trace.backed_escrowCall ran (ih live) live held
            (placed.escrowSrcCall free live ran named)
        | _ => exact True.intro
      · have same := unnamed_history (e := ⟨s, ix, l⟩) h named
        exact (ih live).of_untouched (trace.untouched_call free live signed ran named)
          same.1 same.2 (Nat.le_refl _)
    · cases new with
      | @order c ran =>
        exact ⟨_, trace.create_backed (signed _ (by simp [Instruction.signers,
          Src.Instruction.signers])) ran⟩
      | @escrowSrc c v steps =>
        have live := Ledger.programAt_eq_some.mpr steps.loaded
        obtain ⟨program, backed⟩ := ih live
        exact ⟨program, backed.created free trace (trace.placed live).derived.notWallet steps⟩
      | @counted c v _ steps continues sum =>
        have live := Ledger.programAt_eq_some.mpr steps.loaded
        obtain ⟨program, backed⟩ := ih live
        exact ⟨program, backed.filled free trace (trace.placed live).derived.notWallet steps
          continues sum⟩
      | _ => exact True.intro

end CrossChainEscrow.Source
