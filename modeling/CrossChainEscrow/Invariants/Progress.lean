import CrossChainEscrow.Invariants.Rent
import CrossChainEscrow.Invariants.Whitelist

/-!
# Exits that are open run

The token account of a live escrow is there as long as no rescue ran on it, and
everything else that an exit needs is in its place in every run. What is left to
its caller are the time, the secret and an account of the payee; with these the
guards pass, and an exit whose guards have passed ends.
-/

namespace CrossChainEscrow.Source
open Library.Words Library.Bytes Library.Accounts Library.Bookkeeping Whitelist

variable {K : Type} [DecidableEq K] {env : Environment K} {h : History K} {s : State K}
  {l : Chain K} {a : K}

/-! ## The token account of an escrow -/

/-- A token account of a live account is only gone after a call that names the
live account. -/
theorem Trace.account_kept (free : env.CollisionFree) (trace : Trace env h s) {data : Data K}
    (live : s.ledger.programAt a = some data) {A : K → Prop} (outside : ¬ A a)
    (confined : Confined env.toHost A s.ledger l) {program : TokenProgram} {mint : K}
    (held : ∃ account, s.ledger.data (env.associatedTokenAddress a program mint) = .token account) :
    ∃ account, l.data (env.associatedTokenAddress a program mint) = .token account := by
  obtain ⟨account, loaded⟩ := held
  have derived := (trace.placed live).derived.notWallet
  have owner := (trace.associatedSound free derived _ _ _ loaded).1
  obtain ⟨amount, _, kept⟩ := confined.token _ account loaded (owner ▸ outside)
  exact ⟨_, kept⟩

/-- The account that a creation of an escrow leaves is the one under the token
program of the mint. -/
theorem Trace.created_account {ix : Instruction K} (trace : Trace env h s)
    (ran : ix.run env s.clock s.ledger = .ok l) {key mint : K} {named program : TokenProgram}
    {account : TokenAccount K} (loaded : l.data key = .token account) (mints : account.mint = mint)
    (programs : account.program = named) (derived : key = env.associatedTokenAddress a named mint)
    (owned : env.mintProgram mint = some program) :
    ∃ account, l.data (env.associatedTokenAddress a program mint) = .token account := by
  have sound : TokenSound env.toHost l :=
    Actions.tokenSound (Instruction.actions ran) trace.tokenSound
  have owns := sound.mintProgram_eq loaded programs mints
  obtain rfl : named = program := Option.some.inj (owns.symm.trans owned)
  exact ⟨account, derived ▸ loaded⟩

/-- In every run, the token account of a live escrow that no rescue ran on is
there. -/
theorem Trace.escrow_account (free : env.CollisionFree) (trace : Trace env h s) {data : Data K}
    {debt : Debt K} (held : s.ledger.programAt a = some data) (owes : data.debt = some debt)
    {program : TokenProgram} (owned : env.mintProgram debt.token = some program)
    (whole : unrescued env a (env.associatedTokenAddress a program debt.token) h = true) :
    ∃ account, s.ledger.data (env.associatedTokenAddress a program debt.token) = .token account := by
  induction trace generalizing a data debt with
  | start genesis =>
    rw [genesis.noPrograms] at held
    cases held
  | tick _ _ ih => exact ih held owes owned whole
  | external trace confined _ same ih =>
    rw [same] at held
    have derived := (trace.placed held).derived.notWallet
    exact trace.account_kept free held derived confined (ih held owes owned whole)
  | @step h s ix l trace signed ran ih =>
    rcases Instruction.origin ran held with live | new
    · by_cases named : a ∈ ix.named
      · have placed := trace.placed live
        have rescue : ∃ c, ix.rescueCall env = some c ∧ c.address = a := by
          cases data with
          | escrowSrc escrow => exact (placed.escrowSrcCall free live ran named).rescues ran held
          | escrowDst escrow => exact (placed.escrowDstCall free live ran named).rescues ran held
          | _ => cases owes
        obtain ⟨c, rescue, address⟩ := rescue
        obtain ⟨missed, before⟩ := unrescued_cons (escrowOpened_rescue rescue) whole
        obtain ⟨party, _, token, partyToken, start, steps⟩ := Instruction.rescue_steps ran rescue
        have wallet : env.Wallet c.party := signed _ party
        obtain ⟨kept, _⟩ := steps.spares free trace wallet
          (address ▸ trace.wallet_ne live wallet) placed.derived.notWallet
          (Ne.symm (missed c rescue))
        obtain ⟨account, loaded⟩ := ih live owes owned before
        exact ⟨account, kept.trans loaded⟩
      · have before := (unrescued_cons (escrowOpened_unnamed named) whole).2
        exact trace.account_kept free live (trace.unnamed_outside live signed named)
          (Instruction.confined ran) (ih live owes owned before)
    · cases new with
      | @escrowSrc c v steps =>
        obtain rfl := Option.some.inj owes
        obtain ⟨after, loaded, _, mints, programs, _⟩ := steps.filled.account
        have derived := steps.filled.derived
        rw [steps.mint] at mints derived
        exact trace.created_account ran loaded mints programs derived owned
      | @escrowDst c create =>
        obtain rfl := Option.some.inj owes
        obtain ⟨_, _, _, steps⟩ := Dst.create_steps create
        obtain ⟨account, init⟩ := initIfNeeded_ok steps.init
        have derived : env.Derived c.escrow :=
          Environment.derived_dst (Environment.find_created steps.derived)
        have wallet : env.Wallet c.creator := signed _ (by simp [Instruction.signers,
          Dst.Instruction.signers])
        have notCreator : c.escrow ≠ c.creator := fun same => derived.notWallet (same ▸ wallet)
        have ataNotCreator : c.escrowAta ≠ c.creator := by
          intro same
          rw [init.derived] at same
          exact env.associated_notWallet _ _ _ (same ▸ wallet)
        have distinct : c.escrow ≠ c.escrowAta := by
          rw [init.derived]
          exact derived.ne_associated free _ _ _
        have funded := Dst.create_funded notCreator ataNotCreator distinct create
        obtain ⟨after, loaded, mints, programs⟩ := funded.account
        exact trace.created_account ran loaded mints programs funded.derived owned
      | _ => cases owes

/-! ## What a caller finds or brings -/

/-- The associated token account of a wallet, which is still its own. -/
def HoldsAccount (env : Environment K) (wallet : K) (program : TokenProgram) (mint : K)
    (l : Chain K) : Prop :=
  ∃ account, l.data (env.associatedTokenAddress wallet program mint) = .token account ∧
    account.program = program ∧ account.owner = wallet ∧ account.mint = mint

/-- The account checks of an exit: the mint, the seeds of the escrow and its token
account. -/
structure Presentable (env : Environment K) (l : Chain K) (programId : K) (seeds : Seeds K)
    (bump : Byte) (a : K) (program : TokenProgram) (mint : K) : Prop where
  known : (env.mintProgram mint).isSome = true
  seeds : env.createProgramAddress programId seeds bump = some a
  account : HoldsAccount env a program mint l

theorem Trace.presentable (free : env.CollisionFree) (trace : Trace env h s) {data : Data K}
    {debt : Debt K} (held : s.ledger.programAt a = some data) (owes : data.debt = some debt)
    {program : TokenProgram} (owned : env.mintProgram debt.token = some program)
    (whole : unrescued env a (env.associatedTokenAddress a program debt.token) h = true)
    {programId : K} {seeds : Seeds K} {bump : Byte}
    (found : env.findProgramAddress programId seeds = (a, bump)) :
    Presentable env s.ledger programId seeds bump a program debt.token where
  known := by rw [owned]; rfl
  seeds := env.create_of_find found
  account := by
    obtain ⟨account, loaded⟩ := trace.escrow_account free held owes owned whole
    have derived := (trace.placed held).derived.notWallet
    obtain ⟨owner, programs, mints⟩ := trace.associatedSound free derived _ _ _ loaded
    exact ⟨account, loaded, programs, owner, mints⟩

/-- An access account that is stored passes the check of its pair. -/
theorem Trace.resolver_passes (free : env.CollisionFree) (trace : Trace env h s) {client user : K}
    {access : ResolverAccess}
    (held : s.ledger.programAt (env.accessAddress client user) = some (.resolverAccess access)) :
    requireResolverAccess env client user (env.accessAddress client user) s.ledger = .ok () := by
  obtain ⟨client', user', found⟩ := trace.placed held
  have address : env.accessAddress client' user' = env.accessAddress client user := by
    rw [Environment.accessAddress, found]
  obtain ⟨rfl, rfl⟩ := Environment.accessAddress_inj free address
  exact requireResolverAccess_ok.mpr
    ⟨access, Ledger.programAt_eq_some.mp held, env.create_of_find found⟩

/-! ## Accounts that a payer opens -/

/-- The account of a derived address is there or can be created, for a wallet that
has the rent. -/
theorem Trace.initIfNeeded_runs (free : env.CollisionFree) (trace : Trace env h s)
    {wallet payer mint : K} {program : TokenProgram} (derived : ¬ env.Wallet wallet)
    (owned : env.mintProgram mint = some program) (data : l.data = s.ledger.data)
    (payerWallet : env.Wallet payer) (plain : l.data payer = .empty)
    (enough : env.minimumBalance (env.tokenAccountLen mint) ≤ l.lamports payer) :
    ∃ l', (initIfNeeded env.toHost [payer] payer (env.associatedTokenAddress wallet program mint) wallet
      program mint l : Result (Chain K)) = .ok l' := by
  cases held : s.ledger.data (env.associatedTokenAddress wallet program mint) with
  | program stored =>
    have placed := trace.placed (Ledger.programAt_eq_some.mpr held)
    exact absurd rfl (placed.derived.ne_associated free wallet mint program)
  | token account =>
    obtain ⟨owner, programs, mints⟩ := trace.associatedSound free derived _ _ _ held
    exact ⟨l, initIfNeeded_existing (data ▸ held) programs owner mints rfl⟩
  | empty =>
    refine initIfNeeded_creates (data ▸ held) ?_ (List.mem_singleton_self _) plain owned rfl
      (Nat.le_trans enough (Nat.le_add_left _ _))
    intro same
    exact env.associated_notWallet wallet mint program (same ▸ payerWallet)

/-- The ledger after a program account of some length and its token account were
created: the latter is there, nothing else changed, nothing that was in use paid, and
nobody paid more than the rent. -/
structure Opened (env : Environment K) (key mint : K) (program : TokenProgram) (len : Nat)
    (l l' : Chain K) : Prop where
  holds : HoldsAccount env key program mint l'
  others : ∀ k, k ≠ env.associatedTokenAddress key program mint → l'.data k = l.data k
  kept : ∀ k, l.data k ≠ .empty → l.lamports k ≤ l'.lamports k
  spent : ∀ k, l.lamports k ≤
    l'.lamports k + (env.minimumBalance len + env.minimumBalance (env.tokenAccountLen mint))
  reserve : l'.lamports (env.associatedTokenAddress key program mint) =
    env.openingLamports l (env.associatedTokenAddress key program mint) mint
  sound : TokenSound env.toHost l'

/-- A wallet that has the rent of both can have them created at a vacant derived
address. -/
theorem Trace.opens (free : env.CollisionFree) (trace : Trace env h s) {key payer mint : K}
    {program : TokenProgram} {len : Nat} (derived : env.Derived key)
    (vacant : s.ledger.data key = .empty) (owned : env.mintProgram mint = some program)
    (wallet : env.Wallet payer) (plain : s.ledger.data payer = .empty)
    (rent : env.minimumBalance len + env.minimumBalance (env.tokenAccountLen mint) ≤
      s.ledger.lamports payer) :
    ∃ allocated ready, (createAccount env.toHost [payer] payer key len s.ledger : Result (Chain K)) =
        .ok allocated ∧
      (initIfNeeded env.toHost [payer] payer (env.associatedTokenAddress key program mint) key program
        mint allocated : Result (Chain K)) = .ok ready ∧
      Opened env key mint program len s.ledger ready := by
  have other : payer ≠ key := fun same => derived.notWallet (same ▸ wallet)
  obtain ⟨allocated, paid⟩ : ∃ allocated, (topUp env.toHost [payer] payer key len s.ledger :
      Result (Chain K)) = .ok allocated :=
    topUp_succeeds other (List.mem_singleton_self payer) plain (by omega)
  have data := topUp_data paid
  have spent := topUp_spent paid
  have payerSpent := spent payer
  obtain ⟨ready, init⟩ := trace.initIfNeeded_runs free derived.notWallet owned data wallet (data ▸ plain)
    (by omega)
  have allocate : (createAccount env.toHost [payer] payer key len s.ledger : Result (Chain K)) =
      .ok allocated := createAccount_ok.mpr ⟨vacant, paid⟩
  obtain ⟨account, opened⟩ := initIfNeeded_ok init
  refine ⟨allocated, ready, allocate, init, {
    holds := ⟨account, opened.loaded, opened.programEq, opened.ownerEq, opened.mintEq⟩
    others := fun k off => (opened.others k off).trans (congrFun data k)
    kept := fun k used => Nat.le_trans (topUp_kept paid used) (initIfNeeded_kept init (by rwa [data]))
    spent := fun k => ?_
    reserve := ?_
    sound := Actions.tokenSound ((createAccount_actions (fun _ _ => trivial) allocate).trans
      (initIfNeeded_actions (fun _ _ => trivial) init)) trace.tokenSound }⟩
  · obtain ⟨cost, bound, _, later⟩ := initIfNeeded_paid init k
    have first := spent k
    omega
  · rw [initIfNeeded_openingLamports init, Host.openingLamports, Host.openingLamports, data,
      topUp_other paid (fun same => env.associated_notWallet _ _ _ (same ▸ wallet))
        (derived.ne_associated free _ _ _).symm]


/-! ## Exits end -/

/-- The escrow and its token account are closed, and the payee got the amount, in
lamports or in tokens. -/
structure Exit.Paid (x : Exit K) (l l' : Chain K) : Prop where
  escrow : l'.data x.escrow = .empty
  account : l'.data x.ata.key = .empty
  lamports : x.native = true → x.payee ≠ x.ata.key →
    l.lamports x.payee + x.amount.toNat ≤ l'.lamports x.payee
  tokens : x.native = false → l.tokens x.receiver + x.amount.toNat ≤ l'.tokens x.receiver

/-- An exit whose guards pass, of an escrow that no rescue ran on, ends and pays; the
runtime accepts it where its wallets are rent-exempt, and all wallets stay so. -/
theorem Trace.exit_pays (free : env.CollisionFree) (trace : Trace env h s)
    (wrapped : env.mintProgram env.NATIVE_MINT = some .token) {ix : Instruction K}
    (signed : ∀ key ∈ ix.signers, env.Wallet key) {x : Exit K} {ready : Chain K}
    (passed : ix.exit env s.clock s.ledger = some (x, ready))
    (ofMint : ∀ key ∈ x.payeeAta, ∀ account, ready.data key = .token account →
      account.mint = x.mint)
    (whole : unrescued env x.escrow x.ata.key h = true) (other : x.payee ≠ x.escrow) :
    ∃ l', ix.run env s.clock s.ledger = .ok l' ∧ x.Paid ready l' ∧
      (RentSound env.toHost s.ledger → x.Exempt env ready →
        ix.process env s.clock s.ledger = .ok l') ∧
      (RentSound env.toHost s.ledger → ∀ k, env.Wallet k → env.RentExempt ready k →
        env.RentExempt l' k) := by
  have checked := Instruction.exit_checked passed
  obtain ⟨sound, escrowLamports, ataLamports⟩ := trace.exit_sound free checked signed wrapped
  obtain ⟨lamports, tokens⟩ := trace.exit_covered free checked whole sound.wrapped
  have payable : x.Payable env s.clock ready := {
    toSound := sound
    payee := other
    receives := checked.receives free other ofMint
    principal := fun native => ataLamports ▸ lamports native
    deposit := escrowLamports ▸ trace.exit_deposit checked free }
  obtain ⟨l', rest, paid, settled⟩ := payable.run
  have ran := (Instruction.exit_run passed).trans paid
  refine ⟨l', ran, ⟨settled.escrow, settled.ata, ?_, ?_⟩, fun rent exempt =>
    settled.processes payable checked ran (trace.call_rentSound ran rent) exempt,
    fun rent k wallet exempt => ?_⟩
  · intro native notAta
    have receiver : x.receiver = x.payee := if_pos native
    have principal : x.principal = x.amount.toNat := if_pos native
    have booked := settled.lamports.account x.payee
    rw [receiver, principal] at booked
    simp only [posted_cons, posted_nil, if_neg other, if_neg notAta, if_pos] at booked
    omega
  · intro plain
    obtain ⟨key, _, given, _, _, _, distinct⟩ := payable.receives plain
    have receiver : x.receiver = key := by
      rw [Exit.receiver, if_neg (by simp [plain]), given, Option.getD_some]
    have booked := (settled.tokens plain).account x.receiver
    have covered := tokens plain
    rw [receiver] at booked ⊢
    simp only [posted_cons, posted_nil, if_neg (Ne.symm distinct), if_pos] at booked
    omega
  · obtain ⟨notEscrow, notAta⟩ := trace.exit_wallet checked wallet
    exact settled.keeps_exempt (trace.call_rentSound ran rent) notEscrow notAta exempt

end CrossChainEscrow.Source
