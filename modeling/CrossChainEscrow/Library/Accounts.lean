import Mathlib.Logic.Function.Basic
import CrossChainEscrow.Library.Bytes

/-!
# Accounts, lamports and token accounts of a Solana-style runtime

A ledger gives every address its lamports and its data: nothing, a token
account, or data a program of interest owns. The operations are the system
transfer, the token program's instructions, the creation of associated token
accounts and the direct lamport edits a program may do on accounts it owns.
Every operation checks what the runtime checks (signatures, owners, mints,
balances) and is otherwise deterministic.

Addresses are an arbitrary type. A program derived address is a function of the
program and of the concatenated seeds, in which a key stands for its own bytes.
Token amounts and lamports are natural numbers: both are bounded by a supply
that fits in 64 bits, so credits do not overflow.
-/
namespace CrossChainEscrow.Library.Accounts
open Bytes Words

/-- The two programs a token interface account may name. -/
inductive TokenProgram where
  | token | token2022
  deriving DecidableEq, Repr

/-- Why an instruction aborts: an error of the program itself, or a refusal of
the runtime, of a called program or of the account validation layer. -/
inductive Fault (ε : Type) where
  | custom (error : ε)
  | panic (message : String)
  | arithmeticOverflow | insufficientFunds | missingRequiredSignature
  | invalidAccountData | invalidSeeds | incorrectProgramId | invalidState
  | accountAlreadyInUse | fromMustNotCarryData | externalAccountLamportSpend
  | mintMismatch | ownerMismatch | nonNativeHasBalance | nonNativeNotSupported
  | accountNotInitialized | accountDiscriminatorMismatch
  | constraintSeeds | constraintClose | constraintAssociated
  | constraintTokenMint | constraintTokenOwner | constraintTokenProgram
  | serialization
  | insufficientFundsForRent
  deriving DecidableEq, Repr

structure TokenAccount (K : Type) where
  mint : K
  owner : K
  amount : Nat
  program : TokenProgram
  /-- The rent-exempt reserve of a wrapped native account. -/
  isNative : Option Nat
  deriving DecidableEq, Repr

inductive AccountData (K D : Type) where
  | empty
  | token (account : TokenAccount K)
  | program (data : D)
  deriving DecidableEq, Repr

structure Ledger (K D : Type) where
  lamports : K → Nat
  data : K → AccountData K D

/-- Concatenated seeds of a program derived address. -/
abbrev Seeds (K : Type) := List (Byte ⊕ K)

def Seeds.bytes {K : Type} (bytes : List Byte) : Seeds K := bytes.map Sum.inl

def Seeds.key {K : Type} (key : K) : Seeds K := [Sum.inr key]

/-- What the runtime fixes: the derivation of addresses, the token programs,
the owner program of each mint and the rent schedule. -/
structure Host (K : Type) where
  findProgramAddress : K → Seeds K → K × Byte
  createProgramAddress : K → Seeds K → Byte → Option K
  /-- The bump that the search returns reproduces the address it returns. -/
  find_create : ∀ program seeds, createProgramAddress program seeds
    (findProgramAddress program seeds).2 = some (findProgramAddress program seeds).1
  associatedTokenProgram : K
  tokenProgramKey : TokenProgram → K
  tokenProgramKey_injective : Function.Injective tokenProgramKey
  mintProgram : K → Option TokenProgram
  nativeMint : TokenProgram → K
  tokenAccountLen : K → Nat
  minimumBalance : Nat → Nat

variable {K D ε : Type}

/-- No two derivations (program, seeds and bump) give one address. This idealises a host:
one of finitely many keys keeps apart only those that are made, which is all that
`Host.idealise` needs to turn it into a host like this. -/
def Host.CollisionFree (host : Host K) : Prop :=
  ∀ program seeds bump program' seeds' bump' address,
    host.createProgramAddress program seeds bump = some address →
    host.createProgramAddress program' seeds' bump' = some address →
    program = program' ∧ seeds ++ [Sum.inl bump] = seeds' ++ [Sum.inl bump']

theorem Host.CollisionFree.create_inj {host : Host K} (free : host.CollisionFree)
    {program program' address : K} {seeds seeds' : Seeds K} {bump bump' : Byte}
    (first : host.createProgramAddress program seeds bump = some address)
    (second : host.createProgramAddress program' seeds' bump' = some address) :
    program = program' ∧ seeds = seeds' := by
  obtain ⟨programs, all⟩ := free _ _ _ _ _ _ _ first second
  exact ⟨programs, (List.append_inj' all rfl).1⟩

theorem Host.CollisionFree.find_inj {host : Host K} (free : host.CollisionFree)
    {program program' : K} {seeds seeds' : Seeds K}
    (same : (host.findProgramAddress program seeds).1 =
      (host.findProgramAddress program' seeds').1) :
    program = program' ∧ seeds = seeds' := by
  have second := host.find_create program' seeds'
  rw [← same] at second
  exact free.create_inj (host.find_create program seeds) second

/-- A searched address is derived with the bump found. -/
theorem Host.create_of_find (host : Host K) {program address : K} {seeds : Seeds K} {bump : Byte}
    (found : host.findProgramAddress program seeds = (address, bump)) :
    host.createProgramAddress program seeds bump = some address := by
  have search := host.find_create program seeds
  rw [found] at search
  exact search

/-- `get_associated_token_address_with_program_id`. -/
def Host.associatedTokenAddress (host : Host K) (wallet : K) (program : TokenProgram)
    (mint : K) : K :=
  (host.findProgramAddress host.associatedTokenProgram
    (Seeds.key wallet ++ Seeds.key (host.tokenProgramKey program) ++ Seeds.key mint)).1

theorem Host.CollisionFree.associated_inj {host : Host K} (free : host.CollisionFree)
    {wallet wallet' mint mint' : K} {program program' : TokenProgram}
    (same : host.associatedTokenAddress wallet program mint =
      host.associatedTokenAddress wallet' program' mint') :
    wallet = wallet' ∧ program = program' ∧ mint = mint' := by
  have seeds := (free.find_inj same).2
  simp only [Seeds.key, List.cons_append, List.nil_append, List.cons.injEq, Sum.inr.injEq,
    and_true] at seeds
  exact ⟨seeds.1, host.tokenProgramKey_injective seeds.2.1, seeds.2.2⟩

/-- The signature that a call with signer seeds adds. -/
def Host.seedSigner (host : Host K) (program : K) (seeds : Seeds K) (bump : Byte) : List K :=
  (host.createProgramAddress program seeds bump).toList

/-! ## Aborting computations -/

def requireThat (condition : Prop) [Decidable condition] (fault : Fault ε) :
    Except (Fault ε) Unit :=
  if condition then .ok () else .error fault

def orFault {α : Type} (value : Option α) (fault : Fault ε) : Except (Fault ε) α :=
  match value with
  | some result => .ok result
  | none => .error fault

theorem bind_ok {α β : Type} {step : Except (Fault ε) α} {next : α → Except (Fault ε) β}
    {value : β} : (step >>= next) = .ok value ↔ ∃ x, step = .ok x ∧ next x = .ok value := by
  cases step with
  | error fault => simp [bind, Except.bind]
  | ok x => simp [bind, Except.bind]

@[simp] theorem requireThat_ok {condition : Prop} [Decidable condition] {fault : Fault ε}
    {done : Unit} : requireThat condition fault = .ok done ↔ condition := by
  unfold requireThat
  split <;> simp [*]

@[simp] theorem orFault_ok {α : Type} {value : Option α} {fault : Fault ε} {result : α} :
    orFault value fault = .ok result ↔ value = some result := by
  cases value <;> simp [orFault]

theorem ok_of_toOption {α : Type} {result : Except (Fault ε) α} {value : α}
    (some : result.toOption = .some value) : result = .ok value := by
  cases result with
  | error fault => cases some
  | ok other => rw [Option.some.inj some]

theorem isSome_toOption {α : Type} {result : Except (Fault ε) α}
    (some : result.toOption.isSome = true) : ∃ value, result = .ok value := by
  cases result with
  | error fault => cases some
  | ok value => exact ⟨value, rfl⟩

theorem pure_ok {α : Type} {value result : α} :
    (pure value : Except (Fault ε) α) = .ok result ↔ result = value := by
  simp [pure, Except.pure, eq_comm]

def AccountData.isEmpty : AccountData K D → Bool
  | .empty => true
  | _ => false

@[simp] theorem AccountData.isEmpty_iff {data : AccountData K D} :
    data.isEmpty = true ↔ data = .empty := by
  cases data <;> simp [AccountData.isEmpty]

/-! ## Reading accounts -/

def Ledger.tokenAt (l : Ledger K D) (address : K) : Option (TokenAccount K) :=
  match l.data address with
  | .token account => some account
  | _ => none

def Ledger.programAt (l : Ledger K D) (address : K) : Option D :=
  match l.data address with
  | .program data => some data
  | _ => none

@[simp] theorem Ledger.tokenAt_eq_some {l : Ledger K D} {address : K} {account : TokenAccount K} :
    l.tokenAt address = some account ↔ l.data address = .token account := by
  unfold Ledger.tokenAt
  split <;> simp_all

@[simp] theorem Ledger.programAt_eq_some {l : Ledger K D} {address : K} {data : D} :
    l.programAt address = some data ↔ l.data address = .program data := by
  unfold Ledger.programAt
  split <;> simp_all

def loadToken (l : Ledger K D) (address : K) : Except (Fault ε) (TokenAccount K) :=
  orFault (l.tokenAt address) .accountNotInitialized

def loadProgram (l : Ledger K D) (address : K) : Except (Fault ε) D :=
  orFault (l.programAt address) .accountNotInitialized

@[simp] theorem loadToken_ok {l : Ledger K D} {address : K} {account : TokenAccount K} :
    (loadToken l address : Except (Fault ε) _) = .ok account ↔ l.data address = .token account := by
  simp [loadToken]

@[simp] theorem loadProgram_ok {l : Ledger K D} {address : K} {data : D} :
    (loadProgram l address : Except (Fault ε) _) = .ok data ↔ l.data address = .program data := by
  simp [loadProgram]

variable [DecidableEq K]

/-! ## Moving lamports -/

def moveLamports (lamports : K → Nat) (src dst : K) (n : Nat) : K → Nat :=
  let debited := Function.update lamports src (lamports src - n)
  Function.update debited dst (debited dst + n)

theorem le_moveLamports (lamports : K → Nat) {src dst k : K} (n : Nat) (other : k ≠ src) :
    lamports k ≤ moveLamports lamports src dst n k := by
  unfold moveLamports
  by_cases h : k = dst
  · subst k
    simp [other]
  · simp [other, h]

theorem moveLamports_other (lamports : K → Nat) {src dst k : K} (n : Nat)
    (notSrc : k ≠ src) (notDst : k ≠ dst) : moveLamports lamports src dst n k = lamports k := by
  simp [moveLamports, notSrc, notDst]

theorem moveLamports_src (lamports : K → Nat) {src dst : K} (n : Nat) (distinct : src ≠ dst) :
    moveLamports lamports src dst n src = lamports src - n := by
  simp [moveLamports, distinct]

theorem moveLamports_dst (lamports : K → Nat) {src dst : K} (n : Nat) (distinct : src ≠ dst) :
    moveLamports lamports src dst n dst = lamports dst + n := by
  simp [moveLamports, Ne.symm distinct]

theorem moveLamports_self (lamports : K → Nat) {src : K} {n : Nat} (enough : n ≤ lamports src) :
    moveLamports lamports src src n = lamports := by
  funext k
  by_cases h : k = src
  · subst k
    simp [moveLamports, enough]
  · simp [moveLamports, h]

@[simp] theorem moveLamports_zero (lamports : K → Nat) (src dst : K) :
    moveLamports lamports src dst 0 = lamports := by
  simp [moveLamports]

/-! ## Updating a ledger -/

def Ledger.setData (l : Ledger K D) (address : K) (data : AccountData K D) : Ledger K D :=
  { l with data := Function.update l.data address data }

def Ledger.setLamports (l : Ledger K D) (address : K) (n : Nat) : Ledger K D :=
  { l with lamports := Function.update l.lamports address n }

def Ledger.move (l : Ledger K D) (src dst : K) (n : Nat) : Ledger K D :=
  { l with lamports := moveLamports l.lamports src dst n }

section Updates
variable (l : Ledger K D) (address : K) (src dst : K) (n : Nat) (data : AccountData K D)

@[simp] theorem Ledger.setData_lamports : (l.setData address data).lamports = l.lamports := rfl

@[simp] theorem Ledger.setData_data_self : (l.setData address data).data address = data := by
  simp [Ledger.setData]

@[simp] theorem Ledger.setData_data_other {k : K} (other : k ≠ address) :
    (l.setData address data).data k = l.data k := by
  simp [Ledger.setData, other]

@[simp] theorem Ledger.setLamports_data : (l.setLamports address n).data = l.data := rfl

@[simp] theorem Ledger.setLamports_lamports_self :
    (l.setLamports address n).lamports address = n := by
  simp [Ledger.setLamports]

@[simp] theorem Ledger.setLamports_lamports_other {k : K} (other : k ≠ address) :
    (l.setLamports address n).lamports k = l.lamports k := by
  simp [Ledger.setLamports, other]

@[simp] theorem Ledger.move_data : (l.move src dst n).data = l.data := rfl

@[simp] theorem Ledger.move_lamports :
    (l.move src dst n).lamports = moveLamports l.lamports src dst n := rfl

omit [DecidableEq K] in
theorem Ledger.tokenAt_congr {l l' : Ledger K D} (same : l.data = l'.data) :
    l.tokenAt = l'.tokenAt := by
  funext k
  simp [Ledger.tokenAt, same]

omit [DecidableEq K] in
theorem Ledger.programAt_congr {l l' : Ledger K D} (same : l.data = l'.data) :
    l.programAt = l'.programAt := by
  funext k
  simp [Ledger.programAt, same]

/-- What an account's data is as program data. -/
def AccountData.toProgram : AccountData K D → Option D
  | .program data => some data
  | _ => none

theorem Ledger.programAt_setData :
    (l.setData address data).programAt = Function.update l.programAt address data.toProgram := by
  funext k
  by_cases h : k = address
  · subst k
    cases data <;> simp [Ledger.programAt, AccountData.toProgram]
  · simp [Ledger.programAt, h]

end Updates

end CrossChainEscrow.Library.Accounts
