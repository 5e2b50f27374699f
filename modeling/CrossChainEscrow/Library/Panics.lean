import CrossChainEscrow.Library.Validation

/-!
# Which computations panic

A computation in steps panics where one of its steps does, after those before it
succeeded. The operations on ledgers and the account constraints end in errors of
their own; only arithmetic panics.
-/
namespace CrossChainEscrow.Library.Accounts
open Bytes

variable {K D ε α β : Type}

def Panics (result : Except (Fault ε) α) : Prop := ∃ message, result = .error (.panic message)

def Fault.isPanic : Fault ε → Bool
  | .panic _ => true
  | _ => false

theorem panics_error {fault : Fault ε} :
    Panics (.error fault : Except (Fault ε) α) ↔ fault.isPanic = true := by
  cases fault <;> simp [Panics, Fault.isPanic]

instance (result : Except (Fault ε) α) : Decidable (Panics result) :=
  match result with
  | .ok _ => .isFalse fun ⟨_, same⟩ => nomatch same
  | .error fault => decidable_of_iff (fault.isPanic = true) panics_error.symm

section Steps
variable {step : Except (Fault ε) α} {next : α → Except (Fault ε) β} {value : α}
  {condition : Prop} [Decidable condition] {fault : Fault ε} {found : Option α}

theorem panics_bind :
    Panics (step >>= next) ↔ Panics step ∨ ∃ x, step = .ok x ∧ Panics (next x) := by
  cases step with
  | error fault => simp [Panics, bind, Except.bind]
  | ok x => simp [Panics, bind, Except.bind]

@[simp] theorem panics_map {f : α → β} : Panics (f <$> step) ↔ Panics step := by
  cases step with
  | error fault => simp [Panics, Functor.map, Except.map]
  | ok x => simp [Panics, Functor.map, Except.map]

@[simp] theorem not_panics_pure : ¬ Panics (pure value : Except (Fault ε) α) := by
  simp [Panics, pure, Except.pure]

@[simp] theorem not_panics_ok : ¬ Panics (.ok value : Except (Fault ε) α) := by
  simp [Panics]

@[simp] theorem panics_requireThat :
    Panics (requireThat condition fault) ↔ ¬ condition ∧ ∃ message, fault = .panic message := by
  unfold requireThat
  by_cases holds : condition
  · simp [Panics, holds]
  · simp [Panics, holds]

@[simp] theorem panics_orFault :
    Panics (orFault found fault) ↔ found = none ∧ ∃ message, fault = .panic message := by
  cases found with
  | none => simp [Panics, orFault]
  | some x => simp [Panics, orFault]

end Steps

/-! ## Ledger operations and account constraints do not -/

section Operations
variable [DecidableEq K] {host : Host K} {signers : List K} {program : TokenProgram} {l : Ledger K D}
  {src dst mint authority account destination : K} {n : Nat}

omit [DecidableEq K] in
@[simp] theorem not_panics_loadToken :
    ¬ Panics (loadToken l account : Except (Fault ε) _) := by
  simp [loadToken]

omit [DecidableEq K] in
@[simp] theorem not_panics_loadProgram :
    ¬ Panics (loadProgram l account : Except (Fault ε) _) := by
  simp [loadProgram]

@[simp] theorem not_panics_systemTransfer :
    ¬ Panics (systemTransfer signers src dst n l : Except (Fault ε) _) := by
  simp [systemTransfer, panics_bind]

@[simp] theorem not_panics_transferChecked :
    ¬ Panics (transferChecked signers program src mint dst authority n l : Except (Fault ε) _) := by
  simp [transferChecked, panics_bind]

@[simp] theorem not_panics_closeAccount :
    ¬ Panics (closeAccount signers program account destination authority l :
      Except (Fault ε) _) := by
  simp [closeAccount, panics_bind]

@[simp] theorem not_panics_closeProgram :
    ¬ Panics (closeProgram account destination l : Except (Fault ε) _) := by
  simp [closeProgram, panics_bind]

@[simp] theorem not_panics_requireSeeds {id address : K} {seeds : Seeds K} {bump : Byte} :
    ¬ Panics (requireSeeds host id seeds bump address : Except (Fault ε) Unit) := by
  simp [requireSeeds]

omit [DecidableEq K] in
@[simp] theorem not_panics_requireMint :
    ¬ Panics (requireMint host mint : Except (Fault ε) Unit) := by
  simp [requireMint]

@[simp] theorem not_panics_loadAssociatedToken :
    ¬ Panics (loadAssociatedToken host account authority program mint l : Except (Fault ε) _) := by
  simp [loadAssociatedToken, panics_bind]

@[simp] theorem not_panics_checkOptionalToken {optional : Option K} :
    ¬ Panics (checkOptionalToken host optional authority program mint l :
      Except (Fault ε) Unit) := by
  cases optional with
  | none => simp [checkOptionalToken]
  | some key => simp [checkOptionalToken]

end Operations

end CrossChainEscrow.Library.Accounts
