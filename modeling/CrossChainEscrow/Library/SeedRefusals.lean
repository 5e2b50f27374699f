import CrossChainEscrow.Library.Validation

/-!
# Which computations refuse seeds

Of the account constraints only those on derived addresses end in
`constraintSeeds`; reading accounts, token constraints and the operations on
ledgers end in errors of their own.
-/
namespace CrossChainEscrow.Library.Accounts
open Bytes

variable {K D ε α β : Type}

/-- The computation ends because an address is not the derived one. -/
def RefusesSeeds (result : Except (Fault ε) α) : Prop := result = .error .constraintSeeds

section Steps
variable {step : Except (Fault ε) α} {next : α → Except (Fault ε) β} {value : α}
  {condition : Prop} [Decidable condition] {fault : Fault ε} {found : Option α}

theorem refusesSeeds_bind :
    RefusesSeeds (step >>= next) ↔
      RefusesSeeds step ∨ ∃ x, step = .ok x ∧ RefusesSeeds (next x) := by
  cases step with
  | error fault => simp [RefusesSeeds, bind, Except.bind]
  | ok x => simp [RefusesSeeds, bind, Except.bind]

@[simp] theorem refusesSeeds_map {f : α → β} : RefusesSeeds (f <$> step) ↔ RefusesSeeds step := by
  cases step with
  | error fault => simp [RefusesSeeds, Functor.map, Except.map]
  | ok x => simp [RefusesSeeds, Functor.map, Except.map]

@[simp] theorem not_refusesSeeds_pure : ¬ RefusesSeeds (pure value : Except (Fault ε) α) := by
  simp [RefusesSeeds, pure, Except.pure]

@[simp] theorem not_refusesSeeds_ok : ¬ RefusesSeeds (.ok value : Except (Fault ε) α) := by
  simp [RefusesSeeds]

@[simp] theorem refusesSeeds_requireThat :
    RefusesSeeds (requireThat condition fault) ↔ ¬ condition ∧ fault = .constraintSeeds := by
  unfold requireThat
  by_cases holds : condition
  · simp [RefusesSeeds, holds]
  · simp [RefusesSeeds, holds]

@[simp] theorem refusesSeeds_orFault :
    RefusesSeeds (orFault found fault) ↔ found = none ∧ fault = .constraintSeeds := by
  cases found with
  | none => simp [RefusesSeeds, orFault]
  | some x => simp [RefusesSeeds, orFault]

end Steps

/-! ## Derived addresses -/

section Constraints
variable [DecidableEq K] {host : Host K} {id address : K} {seeds : Seeds K} {bump : Byte}

@[simp] theorem refusesSeeds_requireSeeds :
    RefusesSeeds (requireSeeds host id seeds bump address : Except (Fault ε) Unit) ↔
      host.createProgramAddress id seeds bump ≠ some address := by
  simp [requireSeeds]

@[simp] theorem refusesSeeds_requireFound :
    RefusesSeeds (requireFound host id seeds address : Except (Fault ε) Unit) ↔
      address ≠ (host.findProgramAddress id seeds).1 := by
  simp [requireFound]

end Constraints

/-! ## Everything else -/

section Operations
variable [DecidableEq K] {host : Host K} {signers : List K} {program : TokenProgram} {l : Ledger K D}
  {src dst mint authority account destination payer : K} {n len : Nat} {data : D}

omit [DecidableEq K] in
@[simp] theorem not_refusesSeeds_loadToken :
    ¬ RefusesSeeds (loadToken l account : Except (Fault ε) _) := by
  simp [loadToken]

omit [DecidableEq K] in
@[simp] theorem not_refusesSeeds_loadProgram :
    ¬ RefusesSeeds (loadProgram l account : Except (Fault ε) _) := by
  simp [loadProgram]

omit [DecidableEq K] in
@[simp] theorem not_refusesSeeds_requireMint :
    ¬ RefusesSeeds (requireMint host mint : Except (Fault ε) Unit) := by
  simp [requireMint]

@[simp] theorem not_refusesSeeds_loadAssociatedToken :
    ¬ RefusesSeeds (loadAssociatedToken host account authority program mint l :
      Except (Fault ε) _) := by
  simp [loadAssociatedToken, refusesSeeds_bind]

@[simp] theorem not_refusesSeeds_checkOptionalToken {optional : Option K} :
    ¬ RefusesSeeds (checkOptionalToken host optional authority program mint l :
      Except (Fault ε) Unit) := by
  cases optional with
  | none => simp [checkOptionalToken]
  | some key => simp [checkOptionalToken]

@[simp] theorem not_refusesSeeds_systemTransfer :
    ¬ RefusesSeeds (systemTransfer signers src dst n l : Except (Fault ε) _) := by
  simp [systemTransfer, refusesSeeds_bind]

@[simp] theorem not_refusesSeeds_transferChecked :
    ¬ RefusesSeeds (transferChecked signers program src mint dst authority n l :
      Except (Fault ε) _) := by
  simp [transferChecked, refusesSeeds_bind]

@[simp] theorem not_refusesSeeds_closeAccount :
    ¬ RefusesSeeds (closeAccount signers program account destination authority l :
      Except (Fault ε) _) := by
  simp [closeAccount, refusesSeeds_bind]

@[simp] theorem not_refusesSeeds_closeProgram :
    ¬ RefusesSeeds (closeProgram account destination l : Except (Fault ε) _) := by
  simp [closeProgram, refusesSeeds_bind]

@[simp] theorem not_refusesSeeds_writeProgram :
    ¬ RefusesSeeds (writeProgram account data l : Except (Fault ε) _) := by
  simp [writeProgram]

@[simp] theorem not_refusesSeeds_subLamports :
    ¬ RefusesSeeds (subLamports account n l : Except (Fault ε) _) := by
  simp [subLamports, refusesSeeds_bind]

@[simp] theorem not_refusesSeeds_addLamports :
    ¬ RefusesSeeds (addLamports account n l : Except (Fault ε) _) := by
  simp [addLamports]

@[simp] theorem not_refusesSeeds_topUp :
    ¬ RefusesSeeds (topUp host signers payer account len l : Except (Fault ε) _) := by
  unfold topUp
  split
  · simp
  · split
    · simp [RefusesSeeds]
    · simp

@[simp] theorem not_refusesSeeds_createAccount :
    ¬ RefusesSeeds (createAccount host signers payer account len l : Except (Fault ε) _) := by
  simp [createAccount, refusesSeeds_bind]

@[simp] theorem not_refusesSeeds_initIfNeeded :
    ¬ RefusesSeeds (initIfNeeded host signers payer account authority program mint l :
      Except (Fault ε) _) := by
  have missing : ¬ RefusesSeeds (createIfMissing host signers payer account authority program
      mint l : Except (Fault ε) _) := by
    unfold createIfMissing
    split
    · simp [createAssociatedTokenAccount, refusesSeeds_bind]
    · simp
  simp [initIfNeeded, refusesSeeds_bind, missing]

end Operations

end CrossChainEscrow.Library.Accounts
