import CrossChainEscrow.Library.Authority

/-!
# Account constraints of the validation layer

The checks an instruction declares on the accounts its caller supplies: derived
addresses with a stored or a searched bump, associated token accounts that must
exist or are created when missing, and mints. Each check has its inversion
lemma, and the creating ones the frame of what they may change.
-/

namespace CrossChainEscrow.Library.Accounts
open Bytes

variable {K D ε : Type} [DecidableEq K]

/-- `seeds = [..], bump = stored`. -/
def requireSeeds (host : Host K) (program : K) (seeds : Seeds K) (bump : Byte) (address : K) :
    Except (Fault ε) Unit :=
  requireThat (host.createProgramAddress program seeds bump = some address) .constraintSeeds

/-- `seeds = [..], bump`: the searched address. -/
def requireFound (host : Host K) (program : K) (seeds : Seeds K) (address : K) :
    Except (Fault ε) Unit :=
  requireThat (address = (host.findProgramAddress program seeds).1) .constraintSeeds

/-- `InterfaceAccount<Mint>`. -/
def requireMint (host : Host K) (mint : K) : Except (Fault ε) Unit :=
  requireThat ((host.mintProgram mint).isSome = true) .accountNotInitialized

/-- `associated_token::{mint, authority, token_program}` on an account that exists. -/
def loadAssociatedToken (host : Host K) (ata authority : K) (program : TokenProgram) (mint : K)
    (l : Ledger K D) : Except (Fault ε) (TokenAccount K) := do
  let account ← loadToken l ata
  requireThat (account.program = program) .constraintTokenProgram
  requireThat (account.owner = authority) .constraintTokenOwner
  requireThat (ata = host.associatedTokenAddress authority program mint) .constraintAssociated
  pure account

/-- The same on an optional account; an absent one is not checked. -/
def checkOptionalToken (host : Host K) (ata : Option K) (authority : K) (program : TokenProgram)
    (mint : K) (l : Ledger K D) : Except (Fault ε) Unit :=
  match ata with
  | none => pure ()
  | some address => do
    let _ ← loadAssociatedToken host address authority program mint l
    pure ()

def createIfMissing (host : Host K) (signers : List K) (payer ata authority : K)
    (program : TokenProgram) (mint : K) (l : Ledger K D) : Except (Fault ε) (Ledger K D) :=
  if (l.data ata).isEmpty = true then
    createAssociatedTokenAccount host signers payer ata authority program mint l
  else pure l

/-- `init_if_needed` with the associated token constraints. -/
def initIfNeeded (host : Host K) (signers : List K) (payer ata authority : K)
    (program : TokenProgram) (mint : K) (l : Ledger K D) : Except (Fault ε) (Ledger K D) := do
  let created ← createIfMissing host signers payer ata authority program mint l
  let account ← loadAssociatedToken host ata authority program mint created
  requireThat (account.mint = mint) .constraintTokenMint
  pure created

section Inversion
variable {host : Host K} {A : K → Prop} {signers : List K} {program : TokenProgram}
  {programId ata authority mint payer address : K} {seeds : Seeds K} {bump : Byte}
  {l l' : Ledger K D} {account : TokenAccount K} {done : Unit}

@[simp] theorem requireSeeds_ok :
    (requireSeeds host programId seeds bump address : Except (Fault ε) Unit) = .ok done ↔
      host.createProgramAddress programId seeds bump = some address := requireThat_ok

@[simp] theorem requireFound_ok :
    (requireFound host programId seeds address : Except (Fault ε) Unit) = .ok done ↔
      address = (host.findProgramAddress programId seeds).1 := requireThat_ok

omit [DecidableEq K] in
@[simp] theorem requireMint_ok :
    (requireMint host mint : Except (Fault ε) Unit) = .ok done ↔
      (host.mintProgram mint).isSome = true := requireThat_ok

theorem loadAssociatedToken_ok :
    (loadAssociatedToken host ata authority program mint l : Except (Fault ε) _) = .ok account ↔
      l.data ata = .token account ∧ account.program = program ∧ account.owner = authority ∧
        ata = host.associatedTokenAddress authority program mint := by
  simp only [loadAssociatedToken, bind_ok, loadToken_ok, requireThat_ok, pure_ok, exists_const]
  constructor
  · rintro ⟨loaded, data, hp, ho, ha, rfl⟩
    exact ⟨data, hp, ho, ha⟩
  · rintro ⟨data, hp, ho, ha⟩
    exact ⟨account, data, hp, ho, ha, rfl⟩

theorem checkOptionalToken_ok {optional : Option K} :
    (checkOptionalToken host optional authority program mint l : Except (Fault ε) Unit) = .ok done ↔
      ∀ key ∈ optional, ∃ account, l.data key = .token account ∧ account.program = program ∧
        account.owner = authority ∧ key = host.associatedTokenAddress authority program mint := by
  cases optional with
  | none => simp [checkOptionalToken, pure_ok]
  | some key =>
    simp only [checkOptionalToken, bind_ok, loadAssociatedToken_ok, pure_ok,
      and_true, Option.mem_def, Option.some.injEq, forall_eq']

/-- After `init_if_needed` the account exists, is well formed, and either was
there before or has just been created on a funded address. -/
structure Initialized (host : Host K) (ata authority : K) (program : TokenProgram) (mint : K)
    (l l' : Ledger K D) (account : TokenAccount K) : Prop where
  loaded : l'.data ata = .token account
  ownerEq : account.owner = authority
  mintEq : account.mint = mint
  programEq : account.program = program
  derived : ata = host.associatedTokenAddress authority program mint
  programAt : l'.programAt = l.programAt
  others : ∀ a, a ≠ ata → l'.data a = l.data a
  existing : (l.data ata = .token account ∧ l' = l) ∨
    (l.data ata = .empty ∧ host.mintProgram mint = some program ∧
      account = host.newTokenAccount authority program mint (l'.lamports ata) ∧
      host.minimumBalance (host.tokenAccountLen mint) ≤ l'.lamports ata)

theorem initIfNeeded_ok
    (h : (initIfNeeded host signers payer ata authority program mint l : Except (Fault ε) _)
      = .ok l') : ∃ account, Initialized host ata authority program mint l l' account := by
  simp only [initIfNeeded, bind_ok, loadAssociatedToken_ok, requireThat_ok, pure_ok,
    exists_const] at h
  obtain ⟨created, missing, account, ⟨loaded, hp, ho, derived⟩, hm, rfl⟩ := h
  refine ⟨account, ?_⟩
  unfold createIfMissing at missing
  split at missing
  · next unused =>
    obtain ⟨empty, _, mintProgram, funded, paid, rfl⟩ :=
      createAssociatedTokenAccount_ok.mp missing
    have data := topUp_data paid
    refine ⟨loaded, ho, hm, hp, derived, ?_, ?_, Or.inr ⟨empty, mintProgram, ?_, ?_⟩⟩
    · rw [Ledger.programAt_setData, Ledger.programAt_congr data]
      funext k
      by_cases same : k = ata
      · subst k
        simp [AccountData.toProgram, Ledger.programAt, empty]
      · simp [same]
    · intro a other
      rw [Ledger.setData_data_other _ _ _ other, data]
    · simpa [eq_comm] using loaded
    · rw [Ledger.setData_lamports]
      exact topUp_funded paid
  · obtain rfl := pure_ok.mp missing
    exact ⟨loaded, ho, hm, hp, derived, rfl, fun _ _ => rfl, Or.inl ⟨loaded, rfl⟩⟩

/-- An account of another owner is not the one initialized, and it is kept. -/
theorem Initialized.other_owner (init : Initialized host ata authority program mint l l' account)
    {key : K} {source : TokenAccount K} (held : l.data key = .token source)
    (other : source.owner ≠ authority) : key ≠ ata ∧ l'.data key = .token source := by
  have distinct : key ≠ ata := by
    rintro rfl
    rcases init.existing with ⟨same, _⟩ | ⟨unused, _⟩
    · rw [held] at same
      apply other
      rw [AccountData.token.inj same, init.ownerEq]
    · rw [held] at unused
      cases unused
  exact ⟨distinct, by rw [init.others key distinct, held]⟩

theorem initIfNeeded_actions (signed : ∀ k ∈ signers, A k)
    (h : (initIfNeeded host signers payer ata authority program mint l : Except (Fault ε) _)
      = .ok l') : Actions host A l l' := by
  simp only [initIfNeeded, bind_ok, loadAssociatedToken_ok, requireThat_ok, pure_ok,
    exists_const] at h
  obtain ⟨created, missing, account, _, _, rfl⟩ := h
  unfold createIfMissing at missing
  split at missing
  · exact createAssociatedTokenAccount_actions signed missing
  · rw [pure_ok.mp missing]

end Inversion

end CrossChainEscrow.Library.Accounts
