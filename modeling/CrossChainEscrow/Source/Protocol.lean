import CrossChainEscrow.Library.RentState
import CrossChainEscrow.Source.DstProgram
import CrossChainEscrow.Source.SrcExits

/-!
# The three programs as one state machine

An instruction of any of the programs, run against the ledger at a clock. Both
escrow programs run on one cluster here: the two chains differ in which program's
accounts they hold, and share the clock. So a run holds a swap as a whole, which
`Trace.reveal_before_refund` and `Trace.swap_completes` speak about.
-/
namespace CrossChainEscrow.Source
open Library.Words Library.Bytes Library.Accounts

inductive Whitelist.Instruction (K : Type) where
  | initializeWhitelist (ix : Whitelist.Initialize K)
  | register (ix : Whitelist.Register K)
  | deregister (ix : Whitelist.Deregister K)
  | setAuthority (ix : Whitelist.SetAuthority K)

inductive Src.Instruction (K : Type) where
  | create (ix : Src.Create K)
  | createEscrow (ix : Src.CreateEscrow K)
  | withdraw (ix : Src.Withdraw K)
  | publicWithdraw (ix : Src.PublicWithdraw K)
  | cancelEscrow (ix : Src.CancelEscrow K)
  | publicCancelEscrow (ix : Src.PublicCancelEscrow K)
  | cancelOrder (ix : Src.CancelOrder K)
  | cancelOrderByResolver (ix : Src.CancelOrderbyResolver K)
  | rescueFundsForEscrow (ix : Src.RescueFundsForEscrow K)
  | rescueFundsForOrder (ix : Src.RescueFundsForOrder K)

inductive Dst.Instruction (K : Type) where
  | create (ix : Dst.Create K)
  | withdraw (ix : Dst.Withdraw K)
  | publicWithdraw (ix : Dst.PublicWithdraw K)
  | cancel (ix : Dst.Cancel K)
  | rescueFunds (ix : Dst.RescueFunds K)

inductive Instruction (K : Type) where
  | whitelist (ix : Whitelist.Instruction K)
  | src (ix : Src.Instruction K)
  | dst (ix : Dst.Instruction K)

variable {K : Type}

section Execution
variable [DecidableEq K] (env : Environment K) (clock : Clock)

def Whitelist.Instruction.run (ix : Whitelist.Instruction K) (l : Chain K) : Result (Chain K) :=
  match ix with
  | .initializeWhitelist ix => Whitelist.initializeWhitelist env ix l
  | .register ix => Whitelist.register env ix l
  | .deregister ix => Whitelist.deregister env ix l
  | .setAuthority ix => Whitelist.setAuthority env ix l

def Src.Instruction.run (ix : Src.Instruction K) (l : Chain K) : Result (Chain K) :=
  match ix with
  | .create ix => Src.create env clock ix l
  | .createEscrow ix => Src.createEscrow env clock ix l
  | .withdraw ix => Src.withdraw env clock ix l
  | .publicWithdraw ix => Src.publicWithdraw env clock ix l
  | .cancelEscrow ix => Src.cancelEscrow env clock ix l
  | .publicCancelEscrow ix => Src.publicCancelEscrow env clock ix l
  | .cancelOrder ix => Src.cancelOrder env clock ix l
  | .cancelOrderByResolver ix => Src.cancelOrderByResolver env clock ix l
  | .rescueFundsForEscrow ix => Src.rescueFundsForEscrow env clock ix l
  | .rescueFundsForOrder ix => Src.rescueFundsForOrder env clock ix l

def Dst.Instruction.run (ix : Dst.Instruction K) (l : Chain K) : Result (Chain K) :=
  match ix with
  | .create ix => Dst.create env clock ix l
  | .withdraw ix => Dst.withdraw env clock ix l
  | .publicWithdraw ix => Dst.publicWithdraw env clock ix l
  | .cancel ix => Dst.cancel env clock ix l
  | .rescueFunds ix => Dst.rescueFunds env clock ix l

def Instruction.run (ix : Instruction K) (l : Chain K) : Result (Chain K) :=
  match ix with
  | .whitelist ix => ix.run env l
  | .src ix => ix.run env clock l
  | .dst ix => ix.run env clock l

end Execution

/-! ## Signers and named accounts -/

/-- The `Signer` accounts of an instruction. -/
def Whitelist.Instruction.signers : Whitelist.Instruction K → List K
  | .initializeWhitelist ix => [ix.authority]
  | .register ix => [ix.authority]
  | .deregister ix => [ix.authority]
  | .setAuthority ix => [ix.currentAuthority]

def Src.Instruction.signers : Src.Instruction K → List K
  | .create ix => [ix.creator]
  | .createEscrow ix => [ix.taker]
  | .withdraw ix => [ix.taker]
  | .publicWithdraw ix => [ix.payer]
  | .cancelEscrow ix => [ix.taker]
  | .publicCancelEscrow ix => [ix.payer]
  | .cancelOrder ix => [ix.creator]
  | .cancelOrderByResolver ix => [ix.resolver]
  | .rescueFundsForEscrow ix => [ix.taker]
  | .rescueFundsForOrder ix => [ix.resolver]

def Dst.Instruction.signers : Dst.Instruction K → List K
  | .create ix => [ix.creator]
  | .withdraw ix => [ix.creator]
  | .publicWithdraw ix => [ix.payer]
  | .cancel ix => [ix.creator]
  | .rescueFunds ix => [ix.creator]

def Instruction.signers : Instruction K → List K
  | .whitelist ix => ix.signers
  | .src ix => ix.signers
  | .dst ix => ix.signers

/-- The derived accounts of the program that an instruction names: it writes
them, closes them or signs with their seeds. -/
def Whitelist.Instruction.named : Whitelist.Instruction K → List K
  | .initializeWhitelist ix => [ix.whitelistState]
  | .register ix => [ix.resolverAccess]
  | .deregister ix => [ix.resolverAccess]
  | .setAuthority ix => [ix.whitelistState]

def Src.Instruction.named : Src.Instruction K → List K
  | .create ix => [ix.order]
  | .createEscrow ix => [ix.order, ix.escrow]
  | .withdraw ix => [ix.escrow]
  | .publicWithdraw ix => [ix.escrow]
  | .cancelEscrow ix => [ix.escrow]
  | .publicCancelEscrow ix => [ix.escrow]
  | .cancelOrder ix => [ix.order]
  | .cancelOrderByResolver ix => [ix.order]
  | .rescueFundsForEscrow ix => [ix.escrow]
  | .rescueFundsForOrder ix => [ix.order]

def Dst.Instruction.named : Dst.Instruction K → List K
  | .create ix => [ix.escrow]
  | .withdraw ix => [ix.escrow]
  | .publicWithdraw ix => [ix.escrow]
  | .cancel ix => [ix.escrow]
  | .rescueFunds ix => [ix.escrow]

def Instruction.named : Instruction K → List K
  | .whitelist ix => ix.named
  | .src ix => ix.named
  | .dst ix => ix.named

/-- The accounts that an instruction may write: its accounts struct declares them
`mut`, `init` or `init_if_needed`. An optional account that is left out is not one. -/
def Whitelist.Instruction.writable : Whitelist.Instruction K → List K
  | .initializeWhitelist ix => [ix.authority, ix.whitelistState]
  | .register ix => [ix.authority, ix.resolverAccess]
  | .deregister ix => [ix.authority, ix.resolverAccess]
  | .setAuthority ix => [ix.currentAuthority, ix.whitelistState]

def Src.Instruction.writable : Src.Instruction K → List K
  | .create ix => [ix.creator, ix.order, ix.orderAta] ++ ix.creatorAta.toList
  | .createEscrow ix => [ix.taker, ix.maker, ix.order, ix.orderAta, ix.escrow, ix.escrowAta]
  | .withdraw ix => [ix.taker, ix.escrow, ix.escrowAta, ix.takerAta]
  | .publicWithdraw ix => [ix.taker, ix.payer, ix.escrow, ix.escrowAta, ix.takerAta]
  | .cancelEscrow ix => [ix.taker, ix.maker, ix.escrow, ix.escrowAta] ++ ix.makerAta.toList
  | .publicCancelEscrow ix =>
    [ix.taker, ix.maker, ix.payer, ix.escrow, ix.escrowAta] ++ ix.makerAta.toList
  | .cancelOrder ix => [ix.creator, ix.order, ix.orderAta] ++ ix.creatorAta.toList
  | .cancelOrderByResolver ix =>
    [ix.resolver, ix.creator, ix.order, ix.orderAta] ++ ix.creatorAta.toList
  | .rescueFundsForEscrow ix => [ix.taker, ix.escrowAta, ix.takerAta]
  | .rescueFundsForOrder ix => [ix.resolver, ix.orderAta, ix.resolverAta]

def Dst.Instruction.writable : Dst.Instruction K → List K
  | .create ix => [ix.creator, ix.escrow, ix.escrowAta] ++ ix.creatorAta.toList
  | .withdraw ix => [ix.creator, ix.recipient, ix.escrow, ix.escrowAta] ++ ix.recipientAta.toList
  | .publicWithdraw ix =>
    [ix.creator, ix.recipient, ix.payer, ix.escrow, ix.escrowAta] ++ ix.recipientAta.toList
  | .cancel ix => [ix.creator, ix.escrow, ix.escrowAta] ++ ix.creatorAta.toList
  | .rescueFunds ix => [ix.creator, ix.escrowAta, ix.creatorAta]

def Instruction.writable : Instruction K → List K
  | .whitelist ix => ix.writable
  | .src ix => ix.writable
  | .dst ix => ix.writable

/-- The accounts that an instruction only reads. -/
def Whitelist.Instruction.readonly : Whitelist.Instruction K → List K
  | .initializeWhitelist _ => []
  | .register ix => [ix.whitelistState]
  | .deregister ix => [ix.whitelistState]
  | .setAuthority _ => []

def Src.Instruction.readonly : Src.Instruction K → List K
  | .create ix => [ix.mint]
  | .createEscrow ix => [ix.resolverAccess, ix.mint]
  | .withdraw ix => [ix.mint]
  | .publicWithdraw ix => [ix.resolverAccess, ix.mint]
  | .cancelEscrow ix => [ix.mint]
  | .publicCancelEscrow ix => [ix.mint, ix.resolverAccess]
  | .cancelOrder ix => [ix.mint]
  | .cancelOrderByResolver ix => [ix.resolverAccess, ix.mint]
  | .rescueFundsForEscrow ix => [ix.mint, ix.escrow]
  | .rescueFundsForOrder ix => [ix.resolverAccess, ix.mint, ix.order]

def Dst.Instruction.readonly : Dst.Instruction K → List K
  | .create ix => [ix.mint]
  | .withdraw ix => [ix.mint]
  | .publicWithdraw ix => [ix.resolverAccess, ix.mint]
  | .cancel ix => [ix.mint]
  | .rescueFunds ix => [ix.mint, ix.escrow]

def Instruction.readonly : Instruction K → List K
  | .whitelist ix => ix.readonly
  | .src ix => ix.readonly
  | .dst ix => ix.readonly

/-- The accounts that the caller supplies. -/
def Instruction.accounts (ix : Instruction K) : List K :=
  ix.writable ++ ix.readonly

/-! ## The transaction around an instruction -/

section Rent
variable (env : Environment K)

/-- The lamports of the account cover the rent of its data. -/
abbrev Environment.RentExempt (l : Chain K) (k : K) : Prop := l.RentExempt env.toHost Data.space k

/-- They do once `paid` more lamports have come. -/
def Environment.ExemptWith (l : Chain K) (k : K) (paid : Nat) : Prop :=
  env.minimumBalance (env.dataLen Data.space (l.data k)) ≤ l.lamports k + paid

/-- They do without `cost` of them. -/
def Environment.CanSpare (l : Chain K) (k : K) (cost : Nat) : Prop :=
  env.minimumBalance (env.dataLen Data.space (l.data k)) + cost ≤ l.lamports k

instance (l : Chain K) (k : K) (paid : Nat) : Decidable (env.ExemptWith l k paid) :=
  inferInstanceAs (Decidable (_ ≤ _))

instance (l : Chain K) (k : K) (cost : Nat) : Decidable (env.CanSpare l k cost) :=
  inferInstanceAs (Decidable (_ ≤ _))

/-- The runtime accepts what a transaction did to the account. -/
abbrev Environment.RentAllowed (l l' : Chain K) (k : K) : Prop :=
  l.RentAllowed env.toHost Data.space l' k

/-- A transaction of one instruction: it succeeds if the instruction does and the
runtime accepts what that left of the accounts it could write. -/
def Instruction.process [DecidableEq K] (clock : Clock) (ix : Instruction K) (l : Chain K) :
    Result (Chain K) := do
  let l' ← ix.run env clock l
  requireThat (∀ k ∈ ix.writable, env.RentAllowed l l' k) .insufficientFundsForRent
  pure l'

theorem Instruction.process_ok [DecidableEq K] {env : Environment K} {clock : Clock}
    {ix : Instruction K} {l l' : Chain K} :
    ix.process env clock l = .ok l' ↔
      ix.run env clock l = .ok l' ∧ ∀ k ∈ ix.writable, env.RentAllowed l l' k := by
  simp only [Instruction.process, bind_ok, requireThat_ok, pure_ok, exists_const]
  constructor
  · rintro ⟨l'', ran, allowed, rfl⟩
    exact ⟨ran, allowed⟩
  · rintro ⟨ran, allowed⟩
    exact ⟨l', ran, allowed, rfl⟩

end Rent

/-- The keys that authorise what an instruction does. -/
def Instruction.authority (ix : Instruction K) (key : K) : Prop :=
  key ∈ ix.signers ∨ key ∈ ix.named

/-! ## Runs -/

structure State (K : Type) where
  ledger : Chain K
  clock : Clock

/-- A successful instruction: the state it ran in and the ledger it left. -/
structure Event (K : Type) where
  pre : State K
  ix : Instruction K
  post : Chain K

/-- The successful instructions so far, the newest first. -/
abbrev History (K : Type) := List (Event K)

/-- A key that no program under study can sign for: it is not an address derived
under one of them or under the associated token program. -/
def Environment.Wallet (env : Environment K) (key : K) : Prop :=
  ∀ program ∈ [env.srcId, env.dstId, env.whitelistId, env.associatedTokenProgram],
    ∀ seeds bump, env.createProgramAddress program seeds bump ≠ some key

/-- An address derived under one of the three programs. -/
def Environment.Derived (env : Environment K) (key : K) : Prop :=
  ∃ program ∈ [env.srcId, env.dstId, env.whitelistId],
    ∃ seeds bump, env.createProgramAddress program seeds bump = some key

section Addresses
variable {env : Environment K}

theorem Environment.Derived.notWallet {key : K} (derived : env.Derived key) : ¬ env.Wallet key := by
  obtain ⟨program, member, seeds, bump, created⟩ := derived
  intro wallet
  refine wallet program ?_ seeds bump created
  simp only [List.mem_cons, List.not_mem_nil, or_false] at member ⊢
  tauto

theorem Environment.derived_src {seeds : Seeds K} {bump : Byte} {key : K}
    (created : env.createProgramAddress env.srcId seeds bump = some key) : env.Derived key :=
  ⟨env.srcId, by simp, seeds, bump, created⟩

theorem Environment.derived_dst {seeds : Seeds K} {bump : Byte} {key : K}
    (created : env.createProgramAddress env.dstId seeds bump = some key) : env.Derived key :=
  ⟨env.dstId, by simp, seeds, bump, created⟩

theorem Environment.derived_whitelist {seeds : Seeds K} {bump : Byte} {key : K}
    (created : env.createProgramAddress env.whitelistId seeds bump = some key) :
    env.Derived key :=
  ⟨env.whitelistId, by simp, seeds, bump, created⟩

/-- The searched address is derived with the bump the search returns. -/
theorem Environment.find_created {program : K} {seeds : Seeds K} {key : K}
    (found : key = (env.findProgramAddress program seeds).1) :
    env.createProgramAddress program seeds (env.findProgramAddress program seeds).2 = some key := by
  rw [found]
  exact env.find_create program seeds

/-- No derived address is an associated token address. -/
theorem Environment.Derived.ne_associated (free : env.CollisionFree) {key : K}
    (derived : env.Derived key) (wallet mint : K) (program : TokenProgram) :
    key ≠ env.associatedTokenAddress wallet program mint := by
  obtain ⟨owner, member, seeds, bump, created⟩ := derived
  intro same
  have searched := env.find_created same
  have owners := (free.create_inj created searched).1
  have distinct := env.programs_nodup
  simp only [List.mem_cons, List.not_mem_nil, or_false] at member
  simp only [List.nodup_cons, List.mem_cons, List.not_mem_nil, or_false, not_or] at distinct
  rcases member with rfl | rfl | rfl
  · exact distinct.1.2.2 owners
  · exact distinct.2.1.2 owners
  · exact distinct.2.2.1 owners

/-- An associated token address is no wallet. -/
theorem Environment.associated_notWallet (env : Environment K) (wallet mint : K)
    (program : TokenProgram) : ¬ env.Wallet (env.associatedTokenAddress wallet program mint) := by
  intro isWallet
  exact isWallet env.associatedTokenProgram (by simp) _ _ (env.find_created rfl)

end Addresses

/-- A ledger before any of the programs ran: none of their accounts exists,
token accounts are sound, and those at the associated addresses of derived keys
are these keys' own. -/
structure Genesis [DecidableEq K] (env : Environment K) (l : Chain K) : Prop where
  noPrograms : ∀ address, l.programAt address = none
  tokens : TokenSound env.toHost l
  derived : ∀ wallet, ¬ env.Wallet wallet → AssociatedSound env.toHost wallet l

/-- The runs of the system: instructions in any order by any signers that are
wallets, anything else wallets may do to the ledger without writing the accounts
of the programs, and the passing of time. A transaction that passes the rent check
is such a step, so what holds in these runs holds in the runs of the runtime. -/
inductive Trace [DecidableEq K] (env : Environment K) : History K → State K → Prop
  | start {s : State K} (genesis : Genesis env s.ledger) : Trace env [] s
  | step {h : History K} {s : State K} {ix : Instruction K} {l : Chain K} (trace : Trace env h s)
      (signed : ∀ key ∈ ix.signers, env.Wallet key) (ran : ix.run env s.clock s.ledger = .ok l) :
      Trace env (⟨s, ix, l⟩ :: h) ⟨l, s.clock⟩
  | external {h : History K} {s : State K} {l : Chain K} (trace : Trace env h s)
      (confined : Confined env.toHost env.Wallet s.ledger l) (sound : TokenSound env.toHost l)
      (owned : l.programAt = s.ledger.programAt) : Trace env h ⟨l, s.clock⟩
  | tick {h : History K} {s : State K} {clock : Clock} (trace : Trace env h s)
      (later : s.clock.unixTimestamp ≤ clock.unixTimestamp) : Trace env h ⟨s.ledger, clock⟩

end CrossChainEscrow.Source
