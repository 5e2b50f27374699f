import CrossChainEscrow.Library.Validation

/-!
# Balances and how the operations move them

`Ledger.tokens` is the token balance at an address and `Host.balance` the one of
a wallet's associated account for a mint. The spec lemmas below say what a token
transfer and the closing of an account do to every address at once, so that an
instruction's effect on the accounts it names is a rewriting of two or three of
them, and its effect elsewhere the frame.
-/

namespace CrossChainEscrow.Library.Accounts

variable {K D ε : Type}

/-- Tokens held by an account; nothing and program data hold none. -/
def AccountData.tokens : AccountData K D → Nat
  | .token account => account.amount
  | _ => 0

def Ledger.tokens (l : Ledger K D) (address : K) : Nat := (l.data address).tokens

theorem Ledger.tokens_of_token {l : Ledger K D} {address : K} {account : TokenAccount K}
    (loaded : l.data address = .token account) : l.tokens address = account.amount := by
  rw [Ledger.tokens, loaded, AccountData.tokens]

theorem Ledger.tokens_congr {l l' : Ledger K D} {address : K}
    (same : l'.data address = l.data address) : l'.tokens address = l.tokens address := by
  rw [Ledger.tokens, Ledger.tokens, same]

/-- The tokens of a wallet in a mint, under the program that owns the mint. -/
def Host.balance (host : Host K) (l : Ledger K D) (wallet mint : K) : Nat :=
  match host.mintProgram mint with
  | some program => l.tokens (host.associatedTokenAddress wallet program mint)
  | none => 0

/-- The address at which a wallet holds a mint. -/
def Host.ataOf (host : Host K) (wallet mint : K) : Option K :=
  (host.mintProgram mint).map (host.associatedTokenAddress wallet · mint)

/-- An account that holds program data is no token account. -/
theorem ne_of_program {l : Ledger K D} {a b : K} {data : D} {account : TokenAccount K}
    (program : l.data a = .program data) (token : l.data b = .token account) : b ≠ a := by
  rintro rfl
  rw [token] at program
  cases program

section Soundness
variable {host : Host K} {l : Ledger K D} {wallet mint address : K} {account : TokenAccount K}
  {program : TokenProgram}

/-- In a sound ledger, an associated account that an instruction has checked is
the one `balance` speaks about. -/
theorem TokenSound.mintProgram_eq (sound : TokenSound host l)
    (loaded : l.data address = .token account) (programs : account.program = program)
    (mints : account.mint = mint) : host.mintProgram mint = some program := by
  rw [← programs, ← mints]
  exact (sound address account loaded).program

theorem Host.balance_eq (owned : host.mintProgram mint = some program) :
    host.balance l wallet mint = l.tokens (host.associatedTokenAddress wallet program mint) := by
  rw [Host.balance, owned]

theorem Host.ataOf_eq (owned : host.mintProgram mint = some program) :
    host.ataOf wallet mint = some (host.associatedTokenAddress wallet program mint) := by
  rw [Host.ataOf, owned, Option.map_some]

/-- A token account whose owner authorises nothing loses nothing. -/
theorem Confined.token_grows {A : K → Prop} {l' : Ledger K D}
    (confined : Confined host A l l') {key : K}
    {account : TokenAccount K} (loaded : l.data key = .token account) (outside : ¬ A account.owner) :
    l.tokens key ≤ l'.tokens key ∧ l.lamports key ≤ l'.lamports key := by
  obtain ⟨amount, grown, kept⟩ := confined.token key account loaded outside
  refine ⟨?_, ?_⟩
  · rw [Ledger.tokens_of_token loaded, Ledger.tokens_of_token kept]
    exact grown
  · apply confined.lamports
    simpa [Ledger.ControlledBy, loaded] using outside

end Soundness

/-- The lamports of a token account that stand for no tokens. -/
def Host.reserve (host : Host K) (account : TokenAccount K) : Nat :=
  account.isNative.getD (host.minimumBalance (host.tokenAccountLen account.mint))

/-- The lamports that `n` tokens of an account are. -/
def TokenAccount.wrapped (account : TokenAccount K) (n : Nat) : Nat :=
  if account.isNative.isSome = true then n else 0

theorem TokenAccount.wrapped_le (account : TokenAccount K) (n : Nat) : account.wrapped n ≤ n := by
  unfold TokenAccount.wrapped
  split
  · exact Nat.le_refl n
  · exact Nat.zero_le n

theorem TokenAccount.wrapped_mono (account : TokenAccount K) {n m : Nat} (le : n ≤ m) :
    account.wrapped n ≤ account.wrapped m := by
  unfold TokenAccount.wrapped
  split
  · exact le
  · exact Nat.le_refl 0

/-- The lamports of a sound account cover what its tokens wrap. -/
theorem SoundToken.wrapped_le {host : Host K} {account : TokenAccount K} {lamports : Nat}
    (sound : SoundToken host account lamports) : account.wrapped account.amount ≤ lamports := by
  unfold TokenAccount.wrapped
  split
  · next isSome =>
    obtain ⟨reserve, isNative⟩ := Option.isSome_iff_exists.mp isSome
    have backed := sound.backed reserve isNative
    omega
  · exact Nat.zero_le _

/-! ## Token transfers -/

/-- `n` tokens have moved between two different accounts, and lamports with
them when the mint is the native one. -/
structure TokensMoved (l l' : Ledger K D) (src dst : K) (source : TokenAccount K) (n : Nat) :
    Prop where
  enough : n ≤ source.amount
  debited : l'.data src = .token { source with amount := source.amount - n }
  credited : ∀ destination, l.data dst = .token destination →
    l'.data dst = .token { destination with amount := destination.amount + n }
  received : l'.tokens dst = l.tokens dst + n
  others : ∀ a, a ≠ src → a ≠ dst → l'.data a = l.data a
  programs : l'.programAt = l.programAt
  payer : source.isNative.isSome = true → l'.lamports src + n = l.lamports src
  plainPayer : source.isNative.isSome = false → l'.lamports src = l.lamports src
  more : ∀ a, a ≠ src → l.lamports a ≤ l'.lamports a

theorem TokensMoved.refl {l : Ledger K D} {src dst : K} {source : TokenAccount K}
    (loaded : l.data src = .token source) : TokensMoved l l src dst source 0 where
  enough := Nat.zero_le _
  debited := by rw [loaded, Nat.sub_zero]
  credited destination held := by rw [held, Nat.add_zero]
  received := by rw [Nat.add_zero]
  others _ _ _ := rfl
  programs := rfl
  payer _ := Nat.add_zero _
  plainPayer _ := rfl
  more _ _ := Nat.le_refl _

/-- The lamports of the tokens leave with them. -/
theorem TokensMoved.paid {l l' : Ledger K D} {src dst : K} {source : TokenAccount K} {n : Nat}
    (h : TokensMoved l l' src dst source n) :
    l'.lamports src + source.wrapped n = l.lamports src := by
  unfold TokenAccount.wrapped
  cases native : source.isNative.isSome with
  | true => exact h.payer native
  | false => exact h.plainPayer native

theorem TokensMoved.debit {l l' : Ledger K D} {src dst : K} {source : TokenAccount K} {n : Nat}
    (h : TokensMoved l l' src dst source n) (loaded : l.data src = .token source) :
    l'.tokens src + n = l.tokens src := by
  rw [Ledger.tokens_of_token h.debited, Ledger.tokens_of_token loaded]
  exact Nat.sub_add_cancel h.enough

variable [DecidableEq K]

/-- Neither account of a token transfer holds program data. -/
theorem Ledger.moveTokens_programAt {l : Ledger K D} {src dst : K}
    {source destination : TokenAccount K} {n : Nat} (loaded : l.data src = .token source)
    (loadedTo : l.data dst = .token destination) :
    (l.moveTokens src dst source destination n).programAt = l.programAt := by
  by_cases self : src = dst
  · rw [Ledger.moveTokens, if_pos self]
  funext a
  by_cases hs : a = src
  · subst a
    rw [Ledger.programAt, Ledger.programAt, Ledger.moveTokens_data_src self, loaded]
  · by_cases hd : a = dst
    · subst a
      rw [Ledger.programAt, Ledger.programAt, Ledger.moveTokens_data_dst self, loadedTo]
    · rw [Ledger.programAt, Ledger.programAt, Ledger.moveTokens_data_other hs hd]

theorem transferChecked_moved {signers : List K} {program : TokenProgram}
    {src mint dst authority : K} {n : Nat} {l l' : Ledger K D} {source : TokenAccount K}
    (distinct : src ≠ dst) (loaded : l.data src = .token source)
    (h : (transferChecked signers program src mint dst authority n l : Except (Fault ε) _)
      = .ok l') : TokensMoved l l' src dst source n := by
  obtain ⟨source', loaded', destination, loadedTo, _, _, _, _, enough, lamports, rfl⟩ :=
    transferChecked_ok.mp h
  have same : source' = source := by
    rw [loaded] at loaded'
    exact (AccountData.token.inj loaded').symm
  subst same
  refine ⟨enough, Ledger.moveTokens_data_src distinct, fun held data => ?_, ?_,
    fun a notSrc notDst => Ledger.moveTokens_data_other notSrc notDst,
    Ledger.moveTokens_programAt loaded loadedTo, fun native => ?_, fun plain => ?_,
    fun a other => Ledger.le_moveTokens_lamports other⟩
  · rw [loadedTo] at data
    cases data
    exact Ledger.moveTokens_data_dst distinct
  · rw [Ledger.tokens_of_token loadedTo,
      Ledger.tokens_of_token (Ledger.moveTokens_data_dst distinct)]
  · have fits := lamports native
    rw [Ledger.moveTokens_lamports_src distinct, if_pos native]
    omega
  · rw [Ledger.moveTokens_lamports_src distinct, plain]
    rfl

/-! ## Program data under the operations -/

section Programs
variable {host : Host K} {signers : List K} {program : TokenProgram}
  {src dst mint account destination authority payer wallet : K} {n len : Nat} {l l' : Ledger K D}

theorem topUp_programAt
    (h : (topUp host signers payer account len l : Except (Fault ε) _) = .ok l') :
    l'.programAt = l.programAt :=
  Ledger.programAt_congr (topUp_data h)

theorem topUp_more
    (h : (topUp host signers payer account len l : Except (Fault ε) _) = .ok l') {a : K}
    (other : a ≠ payer) : l.lamports a ≤ l'.lamports a := by
  rcases topUp_ok.mp h with ⟨_, rfl⟩ | ⟨_, _, _, _, _, rfl⟩
  · exact Nat.le_refl _
  · exact le_moveLamports _ _ other

/-- Only an address without data pays for an allocation. -/
theorem topUp_kept
    (h : (topUp host signers payer account len l : Except (Fault ε) _) = .ok l') {a : K}
    (held : l.data a ≠ .empty) : l.lamports a ≤ l'.lamports a := by
  rcases topUp_ok.mp h with ⟨_, rfl⟩ | ⟨_, _, _, plain, _, rfl⟩
  · exact Nat.le_refl _
  · exact le_moveLamports _ _ (fun same => held (same ▸ plain))

theorem topUp_other
    (h : (topUp host signers payer account len l : Except (Fault ε) _) = .ok l') {a : K}
    (notPayer : a ≠ payer) (notAccount : a ≠ account) : l'.lamports a = l.lamports a := by
  rcases topUp_ok.mp h with ⟨_, rfl⟩ | ⟨_, _, _, _, _, rfl⟩
  · rfl
  · exact moveLamports_other _ _ notPayer notAccount

theorem topUp_lamports
    (h : (topUp host signers payer account len l : Except (Fault ε) _) = .ok l') :
    l'.lamports account = max (l.lamports account) (host.minimumBalance len) := by
  rcases topUp_ok.mp h with ⟨enough, rfl⟩ | ⟨short, distinct, _, _, _, rfl⟩
  · exact (Nat.max_eq_left enough).symm
  · rw [Ledger.move_lamports, moveLamports_dst _ _ distinct]
    omega

/-- What an associated account holds, or what it starts with when it is created:
a wrapped native account counts the lamports that already lie there. -/
def Host.opening (host : Host K) (l : Ledger K D) (wallet : K) (program : TokenProgram)
    (mint : K) : Nat :=
  match l.tokenAt (host.associatedTokenAddress wallet program mint) with
  | some account => account.amount
  | none => (host.newTokenAccount wallet program mint
      (l.lamports (host.associatedTokenAddress wallet program mint))).amount

theorem Host.opening_congr (data : l'.data = l.data)
    (lamports : l'.lamports (host.associatedTokenAddress wallet program mint) =
      l.lamports (host.associatedTokenAddress wallet program mint)) :
    host.opening l' wallet program mint = host.opening l wallet program mint := by
  rw [Host.opening, Host.opening, Ledger.tokenAt_congr data, lamports]

/-- An account starts without tokens where no lamports lie. -/
theorem Host.opening_fresh (unused : l.data (host.associatedTokenAddress wallet program mint) = .empty)
    (lamports : l.lamports (host.associatedTokenAddress wallet program mint) = 0) :
    host.opening l wallet program mint = 0 := by
  have none : l.tokenAt (host.associatedTokenAddress wallet program mint) = none := by
    rw [Ledger.tokenAt, unused]
  simp only [Host.opening, none, lamports, Host.newTokenAccount]
  split
  · exact Nat.zero_sub _
  · rfl

/-- The lamports that fill up the reserve are not counted. -/
theorem Host.newTokenAccount_reserved (host : Host K) (wallet : K) (program : TokenProgram)
    (mint : K) (n : Nat) :
    (host.newTokenAccount wallet program mint
      (max n (host.minimumBalance (host.tokenAccountLen mint)))).amount =
      (host.newTokenAccount wallet program mint n).amount := by
  unfold Host.newTokenAccount
  split
  · dsimp only
    omega
  · rfl

theorem initIfNeeded_opening {ata authority : K} {account : TokenAccount K}
    (h : (initIfNeeded host signers payer ata authority program mint l : Except (Fault ε) _)
      = .ok l') (loaded : l'.data ata = .token account) :
    account.amount = host.opening l authority program mint := by
  obtain ⟨opened, init⟩ := initIfNeeded_ok h
  obtain rfl : opened = account := AccountData.token.inj (init.loaded.symm.trans loaded)
  unfold Host.opening
  rw [← init.derived]
  rcases init.existing with ⟨existing, _⟩ | ⟨unused, _, created, _⟩
  · rw [Ledger.tokenAt_eq_some.mpr existing]
  · have none : l.tokenAt ata = none := by
      rw [Ledger.tokenAt, unused]
    have lamports : l'.lamports ata =
        max (l.lamports ata) (host.minimumBalance (host.tokenAccountLen mint)) := by
      simp only [initIfNeeded, bind_ok, requireThat_ok, pure_ok, exists_const] at h
      obtain ⟨_, missing, _, _, _, rfl⟩ := h
      rw [createIfMissing, if_pos (AccountData.isEmpty_iff.mpr unused)] at missing
      obtain ⟨_, _, _, funded, paid, rfl⟩ := createAssociatedTokenAccount_ok.mp missing
      rw [Ledger.setData_lamports]
      exact topUp_lamports paid
    rw [none, created, lamports]
    exact host.newTokenAccount_reserved authority program mint _

theorem initIfNeeded_kept {ata : K}
    (h : (initIfNeeded host signers payer ata authority program mint l : Except (Fault ε) _)
      = .ok l') {a : K} (held : l.data a ≠ .empty) : l.lamports a ≤ l'.lamports a := by
  simp only [initIfNeeded, bind_ok, requireThat_ok, pure_ok, exists_const] at h
  obtain ⟨created, missing, account, _, _, rfl⟩ := h
  unfold createIfMissing at missing
  split at missing
  · obtain ⟨_, _, _, funded, paid, rfl⟩ := createAssociatedTokenAccount_ok.mp missing
    exact topUp_kept paid held
  · obtain rfl := pure_ok.mp missing
    exact Nat.le_refl _

/-- Only the payer of a created account loses lamports, at most its rent. -/
theorem initIfNeeded_paid {ata : K}
    (h : (initIfNeeded host signers payer ata authority program mint l : Except (Fault ε) _)
      = .ok l') (a : K) :
    ∃ rent, rent ≤ host.minimumBalance (host.tokenAccountLen mint) ∧ (a ≠ payer → rent = 0) ∧
      l.lamports a ≤ l'.lamports a + rent := by
  simp only [initIfNeeded, bind_ok, requireThat_ok, pure_ok, exists_const] at h
  obtain ⟨created, missing, account, _, _, rfl⟩ := h
  have unpaid : ∀ m : Ledger K D, l.lamports a ≤ m.lamports a →
      ∃ rent, rent ≤ host.minimumBalance (host.tokenAccountLen mint) ∧ (a ≠ payer → rent = 0) ∧
        l.lamports a ≤ m.lamports a + rent :=
    fun m kept => ⟨0, Nat.zero_le _, fun _ => rfl, kept⟩
  unfold createIfMissing at missing
  split at missing
  · obtain ⟨_, _, _, funded, paid, rfl⟩ := createAssociatedTokenAccount_ok.mp missing
    by_cases same : a = payer
    · subst a
      rcases topUp_ok.mp paid with ⟨_, rfl⟩ | ⟨_, distinct, _, _, enough, rfl⟩
      · exact unpaid _ (Nat.le_refl _)
      · refine ⟨_, Nat.sub_le _ (l.lamports ata), fun other => absurd rfl other, ?_⟩
        rw [Ledger.setData_lamports, Ledger.move_lamports, moveLamports_src _ _ distinct]
        omega
    · exact unpaid _ (topUp_more paid same)
  · obtain rfl := pure_ok.mp missing
    exact unpaid _ (Nat.le_refl _)

theorem closeAccount_programAt
    (h : (closeAccount signers program account destination authority l : Except (Fault ε) _)
      = .ok l') : l'.programAt = l.programAt := by
  obtain ⟨source, loaded, _, _, _, _, _, rfl⟩ := closeAccount_ok.mp h
  rw [Ledger.programAt_setData]
  funext a
  by_cases same : a = account
  · subst a
    simp [AccountData.toProgram, Ledger.programAt, loaded]
  · simp [same, Ledger.programAt]

theorem syncNative_programAt
    (h : (syncNative program account l : Except (Fault ε) _) = .ok l') :
    l'.programAt = l.programAt := by
  obtain ⟨wrapped, loaded, _, reserve, _, _, rfl⟩ := syncNative_ok.mp h
  rw [Ledger.programAt_setData]
  funext a
  by_cases same : a = account
  · subst a
    simp [AccountData.toProgram, Ledger.programAt, loaded]
  · simp [same]

theorem writeProgram_programAt {value : D}
    (h : (writeProgram account value l : Except (Fault ε) _) = .ok l') :
    l'.programAt = Function.update l.programAt account (some value) := by
  obtain ⟨_, rfl⟩ := writeProgram_ok.mp h
  rw [Ledger.programAt_setData]
  rfl

theorem closeProgram_programAt
    (h : (closeProgram account destination l : Except (Fault ε) _) = .ok l') :
    l'.programAt = Function.update l.programAt account none := by
  obtain ⟨_, _, _, rfl⟩ := closeProgram_ok.mp h
  rw [Ledger.programAt_setData]
  rfl

/-- What the closing of a token account does: it is gone, its lamports are at
the destination and nothing else changed. -/
theorem closeAccount_effect
    (h : (closeAccount signers program account destination authority l : Except (Fault ε) _)
      = .ok l') :
    l'.data account = .empty ∧ (∀ a, a ≠ account → l'.data a = l.data a) ∧
      l'.lamports account = 0 ∧
      l'.lamports destination = l.lamports destination + l.lamports account ∧
      ∀ a, a ≠ account → a ≠ destination → l'.lamports a = l.lamports a := by
  obtain ⟨_, _, _, distinct, _, _, _, rfl⟩ := closeAccount_ok.mp h
  refine ⟨by simp, fun a other => by simp [other], ?_, ?_, fun a other other' => ?_⟩
  · rw [Ledger.setData_lamports, Ledger.move_lamports, moveLamports_src _ _ distinct, Nat.sub_self]
  · rw [Ledger.setData_lamports, Ledger.move_lamports, moveLamports_dst _ _ distinct]
  · rw [Ledger.setData_lamports, Ledger.move_lamports, moveLamports_other _ _ other other']

theorem closeAccount_more
    (h : (closeAccount signers program account destination authority l : Except (Fault ε) _)
      = .ok l') {a : K} (other : a ≠ account) : l.lamports a ≤ l'.lamports a := by
  obtain ⟨_, _, _, _, _, _, _, rfl⟩ := closeAccount_ok.mp h
  exact le_moveLamports _ _ other

theorem closeProgram_effect
    (h : (closeProgram account destination l : Except (Fault ε) _) = .ok l') :
    l'.data account = .empty ∧ (∀ a, a ≠ account → l'.data a = l.data a) ∧
      ∀ a, a ≠ account → l.lamports a ≤ l'.lamports a := by
  obtain ⟨_, _, _, rfl⟩ := closeProgram_ok.mp h
  exact ⟨by simp, fun a other => by simp [other], fun a other => le_moveLamports _ _ other⟩

end Programs

end CrossChainEscrow.Library.Accounts
