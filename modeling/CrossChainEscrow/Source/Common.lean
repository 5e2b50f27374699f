import CrossChainEscrow.Library.LedgerOps

/-!
# Constants, errors and identities shared by the three programs

`common/src/constants.rs`, `common/src/error.rs`, `common/src/utils.rs` and
`whitelist/src/error.rs`. An `Environment` adds to the runtime host what the
programs refer to by name: their own ids and the keccak digest, which stays an
uninterpreted function of the bytes throughout.
-/
namespace CrossChainEscrow.Source
open Library.Words Library.Bytes Library.Accounts

def discriminatorBytes : Nat := 8

/-- Eight days, from `deployed_at` to the start of the rescue period. -/
def rescueDelay : U32 := 691200

def base1e7 : U64 := 10000000

inductive EscrowError where
  | zeroAmountOrDeposit | safetyDepositTooLarge | invalidSecret | invalidAccount
  | invalidAmount | invalidPartsAmount | invalidCreationTime | invalidTime
  | invalidRescueStart | invalidMint | missingCreatorAta | missingRecipientAta
  | inconsistentNativeTrait | cancelOrderByResolverIsForbidden | orderNotExpired
  | orderHasExpired | dutchAuctionDataHashMismatch | invalidCancellationFee
  | invalidMerkleProof | invalidPartialFill | inconsistentMerkleProofTrait
  deriving DecidableEq, Repr

inductive WhitelistError where
  | unauthorized
  deriving DecidableEq, Repr

inductive ProgramError where
  | escrow (error : EscrowError)
  | whitelist (error : WhitelistError)
  deriving DecidableEq, Repr

abbrev Error := Fault ProgramError

abbrev Result (α : Type) := Except Error α

abbrev EscrowError.fault (error : EscrowError) : Error := .custom (.escrow error)

/-- The panic of an arithmetic operator under `overflow-checks`. -/
def overflowFault : Error := .panic "attempt to compute with overflow"

/-! The operators `+`, `-`, `*` and `/` of the source. -/

section Operators
variable {w : Nat} {a b c : BitVec w}

def plus (a b : BitVec w) : Result (BitVec w) := orFault (checkedAdd a b) overflowFault

def minus (a b : BitVec w) : Result (BitVec w) := orFault (checkedSub a b) overflowFault

def times (a b : BitVec w) : Result (BitVec w) := orFault (checkedMul a b) overflowFault

def dividedBy (a b : BitVec w) : Result (BitVec w) := orFault (checkedDiv a b) overflowFault

theorem plus_ok : plus a b = .ok c ↔ c.toNat = a.toNat + b.toNat :=
  orFault_ok.trans checkedAdd_eq_some

theorem minus_ok : minus a b = .ok c ↔ c.toNat + b.toNat = a.toNat :=
  orFault_ok.trans checkedSub_eq_some

theorem times_ok : times a b = .ok c ↔ c.toNat = a.toNat * b.toNat :=
  orFault_ok.trans checkedMul_eq_some

theorem dividedBy_ok : dividedBy a b = .ok c ↔ 0 < b.toNat ∧ c.toNat = a.toNat / b.toNat :=
  orFault_ok.trans checkedDiv_eq_some

/-! Where the mathematical result fits, the operators return it. -/

theorem plus_some (fits : a.toNat + b.toNat < 2 ^ w) :
    ∃ c, plus a b = .ok c ∧ c.toNat = a.toNat + b.toNat := by
  obtain ⟨c, added⟩ := ofNat?_isSome fits
  exact ⟨c, orFault_ok.mpr added, ofNat?_eq_some.mp added⟩

theorem minus_some (fits : b.toNat ≤ a.toNat) :
    ∃ c, minus a b = .ok c ∧ c.toNat = a.toNat - b.toNat := by
  have small := a.isLt
  obtain ⟨c, difference⟩ := ofNat?_isSome (w := w) (n := a.toNat - b.toNat) (by omega)
  have value := ofNat?_eq_some.mp difference
  exact ⟨c, minus_ok.mpr (by omega), value⟩

theorem times_some (fits : a.toNat * b.toNat < 2 ^ w) :
    ∃ c, times a b = .ok c ∧ c.toNat = a.toNat * b.toNat := by
  obtain ⟨c, product⟩ := ofNat?_isSome fits
  exact ⟨c, orFault_ok.mpr product, ofNat?_eq_some.mp product⟩

theorem dividedBy_some (nonzero : 0 < b.toNat) :
    ∃ c, dividedBy a b = .ok c ∧ c.toNat = a.toNat / b.toNat := by
  obtain ⟨c, quotient⟩ := checkedDiv_isSome (a := a) nonzero
  exact ⟨c, orFault_ok.mpr quotient, (checkedDiv_eq_some.mp quotient).2⟩

end Operators

structure Environment (K : Type) extends Host K where
  keccak : List Byte → Bytes32
  /-- `Pubkey::as_ref`, where a key is hashed as data. -/
  keyBytes : K → Bytes32
  srcId : K
  dstId : K
  whitelistId : K
  programs_nodup : [srcId, dstId, whitelistId, toHost.associatedTokenProgram].Nodup

/-- `keccak::hashv`: the digest of the concatenated parts. -/
def hashv {K : Type} (env : Environment K) (parts : List (List Byte)) : Bytes32 :=
  env.keccak parts.flatten

/-- `NATIVE_MINT`, the wrapped SOL mint of the original token program. -/
def Environment.NATIVE_MINT {K : Type} (env : Environment K) : K := env.nativeMint .token

/-- The cluster clock. The sysvar holds an `i64`; the programs narrow it to
`u32` and rely on it staying in that range until 2106, which is the range here. -/
structure Clock where
  unixTimestamp : U32
  deriving DecidableEq, Repr

def getCurrentTimestamp (clock : Clock) : U32 := clock.unixTimestamp

/-- `Clock::get()?.unix_timestamp as u64`. -/
def Clock.asU64 (clock : Clock) : U64 := clock.unixTimestamp.setWidth 64

/-- A token account that the account validation of an instruction has loaded;
the amount is the one at load time. -/
structure InterfaceAccount (K : Type) where
  key : K
  account : TokenAccount K

end CrossChainEscrow.Source
