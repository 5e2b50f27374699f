import CrossChainEscrow.Effects.OrderPanics
import CrossChainEscrow.Invariants.Backing

/-!
# What pays for the premium of a cancellation

The creation of an order checks that its token account holds the lamports of the
largest premium. As long as no rescue ran on the order they stay there, unless the
account is a wrapped native one: then its tokens are lamports that leave with them,
and only the reserve stays.
-/

namespace CrossChainEscrow.Source
open Library.Words Library.Bytes Library.Accounts Library.Polyline

variable {K : Type} [DecidableEq K] {env : Environment K} {h : History K} {s : State K}
  {l : Chain K} {a : K}

/-- No rescue ran on the order at `address` since it was last created. -/
def orderUnrescued (address : K) : History K → Bool
  | [] => true
  | e :: h =>
    match e.ix with
    | .src (.create ix) => if ix.order = address then true else orderUnrescued address h
    | .src (.rescueFundsForOrder ix) =>
      if ix.order = address then false else orderUnrescued address h
    | _ => orderUnrescued address h

/-- The reserve of the order's token account when it was last created, if that
account was a wrapped native one. -/
def reserveOf (address : K) : History K → Option Nat
  | [] => none
  | e :: h =>
    match e.ix with
    | .src (.create ix) =>
      if ix.order = address then (e.post.tokenAt ix.orderAta).bind TokenAccount.isNative
      else reserveOf address h
    | _ => reserveOf address h

theorem unnamed_order {e : Event K} (h : History K) (other : a ∉ e.ix.named) :
    orderUnrescued a (e :: h) = orderUnrescued a h ∧ reserveOf a (e :: h) = reserveOf a h := by
  obtain ⟨pre, ix, post⟩ := e
  cases ix with
  | whitelist ix => exact ⟨rfl, rfl⟩
  | dst ix => exact ⟨rfl, rfl⟩
  | src ix =>
    cases ix with
    | create ix =>
      have distinct : ix.order ≠ a := fun same => other (by simp [Instruction.named,
        Src.Instruction.named, same])
      exact ⟨if_neg distinct, if_neg distinct⟩
    | rescueFundsForOrder ix =>
      have distinct : ix.order ≠ a := fun same => other (by simp [Instruction.named,
        Src.Instruction.named, same])
      exact ⟨if_neg distinct, rfl⟩
    | _ => exact ⟨rfl, rfl⟩

/-- Without rescues, nothing was rescued. -/
theorem rescuedFrom_eq_zero (whole : orderUnrescued a h = true) (mint : K) :
    rescuedFrom a mint h = 0 := by
  induction h with
  | nil => rfl
  | cons e h ih =>
    obtain ⟨pre, ix, post⟩ := e
    cases ix with
    | whitelist ix => exact ih whole
    | dst ix => exact ih whole
    | src ix =>
      cases ix with
      | create ix =>
        simp only [orderUnrescued, rescuedFrom] at whole ⊢
        split at whole
        · next same => exact if_pos same
        · next other => exact (if_neg other).trans (ih whole)
      | rescueFundsForOrder ix =>
        simp only [orderUnrescued, rescuedFrom] at whole ⊢
        split at whole
        · cases whole
        · next other => exact (if_neg fun both => other both.1).trans (ih whole)
      | _ => exact ih whole

/-! ## The order's token account -/

/-- The token account of a live order: it is as wrapped as it was at the creation,
and covers the largest premium if it is not wrapped. -/
structure PremiumBacked (env : Environment K) (h : History K) (s : State K) (a : K)
    (order : Order K) (program : TokenProgram) (account : TokenAccount K) : Prop where
  owned : env.mintProgram order.token = some program
  loaded : s.ledger.data (env.associatedTokenAddress a program order.token) = .token account
  reserve : account.isNative = reserveOf a h
  covered : account.isNative = none → order.maxCancellationPremium.toNat ≤
    s.ledger.lamports (env.associatedTokenAddress a program order.token)

/-- It may hold another amount later, and more lamports. -/
theorem PremiumBacked.later {h' : History K} {s' : State K} {order order' : Order K}
    {program : TokenProgram} {account : TokenAccount K} {amount : Nat}
    (backed : PremiumBacked env h s a order program account) (token : order'.token = order.token)
    (most : order'.maxCancellationPremium = order.maxCancellationPremium)
    (kept : s'.ledger.data (env.associatedTokenAddress a program order.token) =
      .token { account with amount })
    (more : account.isNative = none →
      s.ledger.lamports (env.associatedTokenAddress a program order.token) ≤
        s'.ledger.lamports (env.associatedTokenAddress a program order.token))
    (reserve : reserveOf a h' = reserveOf a h) :
    PremiumBacked env h' s' a order' program { account with amount } := by
  refine ⟨?_, ?_, backed.reserve.trans reserve.symm, fun plain => ?_⟩
  · rw [token]
    exact backed.owned
  · rw [token]
    exact kept
  · rw [token, most]
    exact Nat.le_trans (backed.covered plain) (more plain)

/-- The token account of a live order keeps its record under authorities that are
not the order. -/
theorem Trace.token_kept (free : env.CollisionFree) (trace : Trace env h s) {A : K → Prop}
    {data : Data K} (live : s.ledger.programAt a = some data)
    (confined : Confined env.toHost A s.ledger l) (outside : ¬ A a) {program : TokenProgram}
    {mint : K} {account : TokenAccount K}
    (loaded : s.ledger.data (env.associatedTokenAddress a program mint) = .token account) :
    ∃ amount, l.data (env.associatedTokenAddress a program mint) =
      .token { account with amount } := by
  have derived := (trace.placed live).derived.notWallet
  obtain ⟨owner, _⟩ := trace.associatedSound free derived program mint account loaded
  obtain ⟨amount, _, kept⟩ := confined.token _ account loaded (owner.symm ▸ outside)
  exact ⟨amount, kept⟩

/-- The checks of the creation, on the account it leaves. -/
theorem Trace.create_premiumBacked {ix : Src.Create K} (trace : Trace env h s)
    (signed : env.Wallet ix.creator) (ran : Src.create env s.clock ix s.ledger = .ok l) :
    ∃ account, PremiumBacked env (⟨s, .src (.create ix), l⟩ :: h) ⟨l, s.clock⟩ ix.order
      (ix.newOrder env s.clock.unixTimestamp) ix.tokenProgram account := by
  have owned : env.mintProgram ix.mint = some ix.tokenProgram :=
    (trace.create_backed signed ran).owned
  have call : (Instruction.src (.create ix)).run env s.clock s.ledger = .ok l := ran
  have derived : env.Derived ix.order :=
    Instruction.named_derived call _ (by simp [Instruction.named, Src.Instruction.named])
  have other : ix.creator ≠ ix.order := fun same => derived.notWallet (same ▸ signed)
  have backed := Src.create_backed trace.tokenSound other ran
  obtain ⟨account, loaded, _⟩ := backed.account
  have reserve : reserveOf ix.order (⟨s, .src (.create ix), l⟩ :: h) = account.isNative := by
    refine (if_pos rfl).trans ?_
    rw [Ledger.tokenAt_eq_some.mpr loaded]
    rfl
  have enough := Nat.le_of_add_right_le backed.lamports
  rw [backed.derived] at loaded enough
  exact ⟨account, owned, loaded, reserve.symm, fun _ => enough⟩

/-- A fill that leaves the order takes lamports only where they are tokens. -/
theorem PremiumBacked.filled {ix : Src.CreateEscrow K} {v : Src.CreateEscrow.Values K}
    {program : TokenProgram} {account : TokenAccount K} {remainingAmount : U64}
    (free : env.CollisionFree) (trace : Trace env h s)
    (backed : PremiumBacked env h s ix.order v.order program account)
    (steps : Src.CreateEscrow.Steps env s.clock ix s.ledger v l) (continues : ¬ ix.Ends v.order) :
    ∃ after, PremiumBacked env (⟨s, .src (.createEscrow ix), l⟩ :: h) ⟨l, s.clock⟩ ix.order
      { v.order with remainingAmount } program after := by
  have live := Ledger.programAt_eq_some.mpr steps.loaded
  have derived := (trace.placed live).derived.notWallet
  have token := steps.token
  obtain ⟨_, same⟩ := trace.checked_ata free derived backed.owned token steps.orderAta_eq
  have kept := (steps.filled.continued continues).1
  have paid := steps.continued_lamports continues
  rw [same] at token kept paid
  obtain rfl : account = v.orderToken := AccountData.token.inj (backed.loaded.symm.trans token)
  refine ⟨_, backed.later rfl rfl kept (fun plain => ?_) rfl⟩
  have nothing : v.orderToken.wrapped (v.taken ix) = 0 := if_neg (by simp [plain])
  rw [nothing] at paid
  exact paid

section Calls
variable {ix : Instruction K} {order : Order K} (free : env.CollisionFree) (trace : Trace env h s)
  (signed : ∀ key ∈ ix.signers, env.Wallet key) (ran : ix.run env s.clock s.ledger = .ok l)
include free trace ran

/-- Of the calls for an order only fills leave it, and rescues. -/
theorem Trace.premiumBacked_orderCall
    (before : ∀ order, s.ledger.programAt a = some (.order order) → orderUnrescued a h = true →
      ∃ program account, PremiumBacked env h s a order program account)
    (held : l.programAt a = some (.order order))
    (whole : orderUnrescued a (⟨s, ix, l⟩ :: h) = true) (call : OrderCall a ix) :
    ∃ program account,
      PremiumBacked env (⟨s, ix, l⟩ :: h) ⟨l, s.clock⟩ a order program account := by
  cases call with
  | @createEscrow c named =>
    subst named
    obtain ⟨v, steps⟩ := Src.createEscrow_steps ran
    obtain ⟨left, leaves, programs⟩ := steps.programAt
    rw [programs, Function.update_self] at held
    rcases leaves with ⟨_, rfl⟩ | ⟨continues, remaining, _, rfl⟩
    · cases held
    · obtain rfl : { v.order with remainingAmount := remaining } = order := by simpa using held
      obtain ⟨program, account, backed⟩ :=
        before _ (Ledger.programAt_eq_some.mpr steps.loaded) whole
      obtain ⟨after, backed⟩ := backed.filled free trace steps continues
      exact ⟨program, after, backed⟩
  | @cancelOrder c named =>
    subst named
    exact (removed_not_held (Src.cancelOrder_programAt ran) held).elim
  | @cancelOrderByResolver c named =>
    subst named
    exact (removed_not_held (Src.cancelOrderByResolver_programAt ran) held).elim
  | rescue named => simp [orderUnrescued, named] at whole

include signed in
/-- Calls that do not name the order leave its token account as wrapped as it was. -/
theorem Trace.premiumBacked_unnamed {program : TokenProgram} {account : TokenAccount K}
    (live : s.ledger.programAt a = some (.order order)) (other : a ∉ ix.named)
    (backed : PremiumBacked env h s a order program account) :
    ∃ after, PremiumBacked env (⟨s, ix, l⟩ :: h) ⟨l, s.clock⟩ a order program after := by
  obtain ⟨amount, kept⟩ := trace.token_kept free live (Instruction.confined ran)
    (trace.unnamed_outside live signed other) backed.loaded
  have more := (trace.untouched_call free live signed ran other).ataLamports program order.token
  exact ⟨_, backed.later rfl rfl kept (fun _ => more) (unnamed_order h other).2⟩

end Calls

/-- In every run, an order on which no rescue ran can pay what its account does
not wrap. -/
theorem Trace.premiumBacked (free : env.CollisionFree) (trace : Trace env h s) {order : Order K}
    (held : s.ledger.programAt a = some (.order order)) (whole : orderUnrescued a h = true) :
    ∃ program account, PremiumBacked env h s a order program account := by
  induction trace generalizing order with
  | start genesis =>
    rw [genesis.noPrograms] at held
    cases held
  | tick trace later ih =>
    obtain ⟨program, account, backed⟩ := ih held whole
    exact ⟨program, account, backed.owned, backed.loaded, backed.reserve, backed.covered⟩
  | external trace confined sound owned ih =>
    rw [owned] at held
    obtain ⟨program, account, backed⟩ := ih held whole
    obtain ⟨amount, kept⟩ := trace.token_kept free held confined
      (trace.placed held).derived.notWallet backed.loaded
    have more := (trace.untouched_external free held confined).ataLamports program order.token
    exact ⟨program, _, backed.later rfl rfl kept (fun _ => more) rfl⟩
  | @step h s ix l trace signed ran ih =>
    rcases Instruction.origin ran held with live | new
    · by_cases named : a ∈ ix.named
      · exact trace.premiumBacked_orderCall free ran (fun _ => ih) held whole
          ((trace.placed live).orderCall free live ran named)
      · rw [(unnamed_order (e := ⟨s, ix, l⟩) h named).1] at whole
        obtain ⟨program, account, backed⟩ := ih live whole
        exact ⟨program, trace.premiumBacked_unnamed free signed ran live named backed⟩
    · cases new with
      | @order c ran =>
        exact ⟨_, trace.create_premiumBacked (signed _ (by simp [Instruction.signers,
          Src.Instruction.signers])) ran⟩
      | @counted c v _ steps continues _ =>
        obtain ⟨program, account, backed⟩ := ih (Ledger.programAt_eq_some.mpr steps.loaded) whole
        exact ⟨program, backed.filled free trace steps continues⟩

end CrossChainEscrow.Source
