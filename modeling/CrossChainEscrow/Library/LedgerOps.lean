import CrossChainEscrow.Library.Accounts

/-!
# Ledger operations of the system, token and associated token programs

Each operation is the successful effect of one runtime action behind the checks
that action makes. `signers` are the keys whose signature the call carries: the
transaction's signers among its accounts and, for a program, the address its
signer seeds derive.

Every operation has one inversion lemma (`…_ok`): it succeeds exactly when its
checks hold, with exactly that ledger. What an operation does to the program
data, to the token accounts and to the lamports is read off those lemmas once,
and the users of this file only cite the three projections.
-/
namespace CrossChainEscrow.Library.Accounts
open Words

variable {K D ε : Type} [DecidableEq K]

/-- System program transfer. The source must be a plain system account. -/
def systemTransfer (signers : List K) (src dst : K) (n : Nat) (l : Ledger K D) :
    Except (Fault ε) (Ledger K D) := do
  requireThat (src ∈ signers) .missingRequiredSignature
  requireThat ((l.data src).isEmpty = true) .fromMustNotCarryData
  requireThat (n ≤ l.lamports src) .insufficientFunds
  pure (l.move src dst n)

/-- Move `n` tokens between two loaded accounts; a self transfer changes
nothing, and wrapped native tokens carry their lamports with them. -/
def Ledger.moveTokens (l : Ledger K D) (src dst : K) (source destination : TokenAccount K)
    (n : Nat) : Ledger K D :=
  if src = dst then l
  else
    let settled := (l.setData src (.token { source with amount := source.amount - n })).setData dst
      (.token { destination with amount := destination.amount + n })
    if source.isNative.isSome then settled.move src dst n else settled

/-- Token program `TransferChecked`. -/
def transferChecked (signers : List K) (program : TokenProgram) (src mint dst authority : K)
    (n : Nat) (l : Ledger K D) : Except (Fault ε) (Ledger K D) := do
  let source ← loadToken l src
  let destination ← loadToken l dst
  requireThat (source.program = program ∧ destination.program = program) .incorrectProgramId
  requireThat (source.mint = mint ∧ destination.mint = mint) .mintMismatch
  requireThat (source.owner = authority) .ownerMismatch
  requireThat (authority ∈ signers) .missingRequiredSignature
  requireThat (n ≤ source.amount) .insufficientFunds
  requireThat (source.isNative.isSome = true → n ≤ l.lamports src) .arithmeticOverflow
  pure (l.moveTokens src dst source destination n)

/-- Token program `CloseAccount`: a wrapped native account pays out whatever
it holds, any other account must be empty of tokens. -/
def closeAccount (signers : List K) (program : TokenProgram) (account destination authority : K)
    (l : Ledger K D) : Except (Fault ε) (Ledger K D) := do
  let source ← loadToken l account
  requireThat (source.program = program) .incorrectProgramId
  requireThat (account ≠ destination) .invalidAccountData
  requireThat (source.isNative.isSome = true ∨ source.amount = 0) .nonNativeHasBalance
  requireThat (source.owner = authority) .ownerMismatch
  requireThat (authority ∈ signers) .missingRequiredSignature
  pure ((l.move account destination (l.lamports account)).setData account .empty)

/-- Token program `SyncNative`, which only the original token program has here:
the token amount becomes the lamports above the reserve, and may not fall. -/
def syncNative (program : TokenProgram) (account : K) (l : Ledger K D) :
    Except (Fault ε) (Ledger K D) := do
  let wrapped ← loadToken l account
  requireThat (program = .token ∧ wrapped.program = .token) .incorrectProgramId
  let reserve ← orFault wrapped.isNative .nonNativeNotSupported
  requireThat (reserve + wrapped.amount ≤ l.lamports account) .invalidState
  pure (l.setData account (.token { wrapped with amount := l.lamports account - reserve }))

/-- Fund an address up to the rent-exempt minimum of `len` bytes. An address
that is being allocated cannot pay for itself. -/
def topUp (host : Host K) (signers : List K) (payer account : K) (len : Nat) (l : Ledger K D) :
    Except (Fault ε) (Ledger K D) :=
  if host.minimumBalance len ≤ l.lamports account then pure l
  else if payer = account then .error .fromMustNotCarryData
  else systemTransfer signers payer account (host.minimumBalance len - l.lamports account) l

/-- Allocate a fresh program account: the address carries no data yet. -/
def createAccount (host : Host K) (signers : List K) (payer account : K) (len : Nat)
    (l : Ledger K D) : Except (Fault ε) (Ledger K D) := do
  requireThat ((l.data account).isEmpty = true) .accountAlreadyInUse
  topUp host signers payer account len l

/-- A token account as `InitializeAccount` leaves it: a wrapped native account
counts the lamports it already holds above its reserve. -/
def Host.newTokenAccount (host : Host K) (wallet : K) (program : TokenProgram) (mint : K)
    (lamports : Nat) : TokenAccount K :=
  if mint = host.nativeMint program then
    { mint, owner := wallet, program
      amount := lamports - host.minimumBalance (host.tokenAccountLen mint)
      isNative := some (host.minimumBalance (host.tokenAccountLen mint)) }
  else { mint, owner := wallet, program, amount := 0, isNative := none }

/-- Associated token program `Create`. -/
def createAssociatedTokenAccount (host : Host K) (signers : List K) (payer account wallet : K)
    (program : TokenProgram) (mint : K) (l : Ledger K D) : Except (Fault ε) (Ledger K D) := do
  requireThat ((l.data account).isEmpty = true) .accountAlreadyInUse
  requireThat (account = host.associatedTokenAddress wallet program mint) .invalidSeeds
  requireThat (host.mintProgram mint = some program) .incorrectProgramId
  let funded ← topUp host signers payer account (host.tokenAccountLen mint) l
  pure (funded.setData account
    (.token (host.newTokenAccount wallet program mint (funded.lamports account))))

/-- Serialize program data into an account the program owns or has allocated. -/
def writeProgram (account : K) (value : D) (l : Ledger K D) : Except (Fault ε) (Ledger K D) := do
  requireThat ((l.tokenAt account).isNone = true) .externalAccountLamportSpend
  pure (l.setData account (.program value))

/-- `sub_lamports` on an account the program owns. -/
def subLamports (account : K) (n : Nat) (l : Ledger K D) : Except (Fault ε) (Ledger K D) := do
  let _ ← loadProgram l account
  requireThat (n ≤ l.lamports account) .arithmeticOverflow
  pure (l.setLamports account (l.lamports account - n))

/-- `add_lamports`. -/
def addLamports (account : K) (n : Nat) (l : Ledger K D) : Except (Fault ε) (Ledger K D) :=
  pure (l.setLamports account (l.lamports account + n))

/-- Close a program account: all its lamports go to the destination. -/
def closeProgram (account destination : K) (l : Ledger K D) :
    Except (Fault ε) (Ledger K D) := do
  let _ ← loadProgram l account
  requireThat (account ≠ destination) .constraintClose
  pure ((l.move account destination (l.lamports account)).setData account .empty)

/-! ## Inversion -/

variable {host : Host K} {signers : List K} {program : TokenProgram}
  {src dst mint authority account destination payer wallet : K} {n len : Nat} {l l' : Ledger K D}

theorem systemTransfer_ok :
    (systemTransfer signers src dst n l : Except (Fault ε) _) = .ok l' ↔
      src ∈ signers ∧ l.data src = .empty ∧ n ≤ l.lamports src ∧ l' = l.move src dst n := by
  simp only [systemTransfer, bind_ok, requireThat_ok, AccountData.isEmpty_iff, pure_ok,
    exists_const]

theorem transferChecked_ok :
    (transferChecked signers program src mint dst authority n l : Except (Fault ε) _) = .ok l' ↔
      ∃ source, l.data src = .token source ∧ ∃ destination, l.data dst = .token destination ∧
        (source.program = program ∧ destination.program = program) ∧
        (source.mint = mint ∧ destination.mint = mint) ∧ source.owner = authority ∧
        authority ∈ signers ∧ n ≤ source.amount ∧
        (source.isNative.isSome = true → n ≤ l.lamports src) ∧
        l' = l.moveTokens src dst source destination n := by
  simp only [transferChecked, bind_ok, loadToken_ok, requireThat_ok, pure_ok, exists_const]

theorem closeAccount_ok :
    (closeAccount signers program account destination authority l : Except (Fault ε) _) = .ok l' ↔
      ∃ source, l.data account = .token source ∧ source.program = program ∧
        account ≠ destination ∧ (source.isNative.isSome = true ∨ source.amount = 0) ∧
        source.owner = authority ∧ authority ∈ signers ∧
        l' = (l.move account destination (l.lamports account)).setData account .empty := by
  simp only [closeAccount, bind_ok, loadToken_ok, requireThat_ok, pure_ok, exists_const]

theorem syncNative_ok :
    (syncNative program account l : Except (Fault ε) _) = .ok l' ↔
      ∃ wrapped, l.data account = .token wrapped ∧
        (program = .token ∧ wrapped.program = .token) ∧ ∃ reserve,
        wrapped.isNative = some reserve ∧ reserve + wrapped.amount ≤ l.lamports account ∧
        l' = l.setData account
          (.token { wrapped with amount := l.lamports account - reserve }) := by
  simp only [syncNative, bind_ok, loadToken_ok, requireThat_ok, orFault_ok, pure_ok,
    exists_const]

theorem topUp_ok :
    (topUp host signers payer account len l : Except (Fault ε) _) = .ok l' ↔
      (host.minimumBalance len ≤ l.lamports account ∧ l' = l) ∨
      (l.lamports account < host.minimumBalance len ∧ payer ≠ account ∧ payer ∈ signers ∧
        l.data payer = .empty ∧
        host.minimumBalance len - l.lamports account ≤ l.lamports payer ∧
        l' = l.move payer account (host.minimumBalance len - l.lamports account)) := by
  unfold topUp
  split
  · next enough =>
    simp [pure_ok, enough, Nat.not_lt.mpr enough]
  · next short =>
    split
    · next self => simp [short, self]
    · next other => simp [systemTransfer_ok, short, other, Nat.lt_of_not_le short]

theorem createAccount_ok :
    (createAccount host signers payer account len l : Except (Fault ε) _) = .ok l' ↔
      l.data account = .empty ∧
        (topUp host signers payer account len l : Except (Fault ε) _) = .ok l' := by
  simp only [createAccount, bind_ok, requireThat_ok, AccountData.isEmpty_iff, exists_const]

theorem createAssociatedTokenAccount_ok :
    (createAssociatedTokenAccount host signers payer account wallet program mint l :
        Except (Fault ε) _) = .ok l' ↔
      l.data account = .empty ∧ account = host.associatedTokenAddress wallet program mint ∧
        host.mintProgram mint = some program ∧ ∃ funded,
        (topUp host signers payer account (host.tokenAccountLen mint) l : Except (Fault ε) _)
          = .ok funded ∧
        l' = funded.setData account
          (.token (host.newTokenAccount wallet program mint (funded.lamports account))) := by
  simp only [createAssociatedTokenAccount, bind_ok, requireThat_ok, AccountData.isEmpty_iff,
    pure_ok, exists_const]

theorem writeProgram_ok {value : D} :
    (writeProgram account value l : Except (Fault ε) _) = .ok l' ↔
      (l.tokenAt account).isNone = true ∧ l' = l.setData account (.program value) := by
  simp only [writeProgram, bind_ok, requireThat_ok, pure_ok, exists_const]

theorem subLamports_ok :
    (subLamports account n l : Except (Fault ε) _) = .ok l' ↔
      ∃ value, l.data account = .program value ∧ n ≤ l.lamports account ∧
        l' = l.setLamports account (l.lamports account - n) := by
  simp only [subLamports, bind_ok, loadProgram_ok, requireThat_ok, pure_ok, exists_const]

theorem addLamports_ok :
    (addLamports account n l : Except (Fault ε) _) = .ok l' ↔
      l' = l.setLamports account (l.lamports account + n) := by
  simp only [addLamports, pure_ok]

theorem closeProgram_ok :
    (closeProgram account destination l : Except (Fault ε) _) = .ok l' ↔
      ∃ value, l.data account = .program value ∧ account ≠ destination ∧
        l' = (l.move account destination (l.lamports account)).setData account .empty := by
  simp only [closeProgram, bind_ok, loadProgram_ok, requireThat_ok, pure_ok, exists_const]

end CrossChainEscrow.Library.Accounts
