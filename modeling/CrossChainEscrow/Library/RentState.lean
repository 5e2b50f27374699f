import CrossChainEscrow.Library.Bookkeeping

/-!
# Rent states

After a transaction the runtime compares the rent state of every account that the
transaction could write with the one before: no account may become one that holds
lamports without being rent-exempt, and one that is may not grow. `RentState` is that
comparison. An account passes it when it ends rent-exempt, ends without lamports, or
ends as it was.

The token programs open no account that is not rent-exempt, and let wrapped lamports
leave an account only above its reserve. `RentSound` says so of a ledger, and every
operation keeps it.
-/
namespace CrossChainEscrow.Library.Accounts

variable {K D : Type}

/-- What an account is to the collection of rent. -/
inductive RentState where
  | uninitialized
  | rentPaying (lamports dataSize : Nat)
  | rentExempt
  deriving DecidableEq

/-- Rent states that may follow one another. -/
def RentState.transitionAllowed (pre : RentState) : RentState → Bool
  | .uninitialized => true
  | .rentExempt => true
  | .rentPaying lamports dataSize =>
    match pre with
    | .uninitialized => false
    | .rentExempt => false
    | .rentPaying before size => dataSize == size && decide (lamports ≤ before)

/-- The bytes that the data of an account takes; `space` is the size of program data. -/
def Host.dataLen (host : Host K) (space : D → Nat) : AccountData K D → Nat
  | .empty => 0
  | .token account => host.tokenAccountLen account.mint
  | .program data => space data

/-- `get_account_rent_state`. -/
def Host.rentState (host : Host K) (lamports dataLen : Nat) : RentState :=
  if lamports = 0 then .uninitialized
  else if host.minimumBalance dataLen ≤ lamports then .rentExempt
  else .rentPaying lamports dataLen

section States
variable (host : Host K) (space : D → Nat) (l l' : Ledger K D) (k : K)

/-- The lamports cover the rent of the data. -/
def Ledger.RentExempt : Prop := host.minimumBalance (host.dataLen space (l.data k)) ≤ l.lamports k

instance : Decidable (l.RentExempt host space k) := inferInstanceAs (Decidable (_ ≤ _))

def Ledger.rentState : RentState :=
  host.rentState (l.lamports k) (host.dataLen space (l.data k))

/-- The runtime accepts what happened to the account. -/
def Ledger.RentAllowed : Prop :=
  (l.rentState host space k).transitionAllowed (l'.rentState host space k) = true

instance : Decidable (l.RentAllowed host space l' k) := inferInstanceAs (Decidable (_ = true))

end States

@[simp] theorem RentState.transitionAllowed_self (state : RentState) :
    state.transitionAllowed state = true := by
  cases state <;> simp [RentState.transitionAllowed]

section Allowed
variable {host : Host K} {space : D → Nat} {l l' : Ledger K D} {k : K}

theorem Ledger.RentExempt.allowed (exempt : l'.RentExempt host space k) :
    l.RentAllowed host space l' k := by
  have state : l'.rentState host space k = .uninitialized ∨ l'.rentState host space k = .rentExempt := by
    unfold Ledger.rentState Host.rentState
    by_cases none : l'.lamports k = 0
    · exact Or.inl (if_pos none)
    · exact Or.inr ((if_neg none).trans (if_pos exempt))
  unfold Ledger.RentAllowed
  rcases state with state | state <;> rw [state] <;> rfl

/-- Nothing is left of an account that was closed. -/
theorem rentAllowed_of_drained (none : l'.lamports k = 0) : l.RentAllowed host space l' k := by
  have state : l'.rentState host space k = .uninitialized := if_pos none
  rw [Ledger.RentAllowed, state]
  rfl

/-- The rule only looks at the lamports and the data. -/
theorem Ledger.RentAllowed.congr {m : Ledger K D} (allowed : l.RentAllowed host space m k)
    (lamports : l'.lamports k = m.lamports k) (data : l'.data k = m.data k) :
    l.RentAllowed host space l' k := by
  have same : l'.rentState host space k = m.rentState host space k := by
    rw [Ledger.rentState, Ledger.rentState, lamports, data]
  rw [Ledger.RentAllowed, same]
  exact allowed

theorem rentAllowed_refl : l.RentAllowed host space l k := RentState.transitionAllowed_self _

/-- An account whose data stays and that gains lamports stays exempt. -/
theorem Ledger.RentExempt.grow (exempt : l.RentExempt host space k) (data : l'.data k = l.data k)
    (more : l.lamports k ≤ l'.lamports k) : l'.RentExempt host space k := by
  unfold Ledger.RentExempt at *
  rw [data]
  exact Nat.le_trans exempt more

end Allowed

/-! ## Token accounts -/

/-- The account is rent-exempt, and so is what a wrapped one may not spend. -/
structure RentToken (host : Host K) (account : TokenAccount K) (lamports : Nat) : Prop where
  exempt : host.minimumBalance (host.tokenAccountLen account.mint) ≤ lamports
  reserved : ∀ reserve, account.isNative = some reserve →
    host.minimumBalance (host.tokenAccountLen account.mint) ≤ reserve

/-- Every token account is rent-exempt. -/
def RentSound (host : Host K) (l : Ledger K D) : Prop :=
  ∀ a account, l.data a = .token account → RentToken host account (l.lamports a)

section Soundness
variable [DecidableEq K] {host : Host K} {A : K → Prop} {l l' : Ledger K D}

omit [DecidableEq K] in
theorem RentToken.grow {account : TokenAccount K} {n m : Nat} (rent : RentToken host account n)
    (more : n ≤ m) : RentToken host account m :=
  ⟨Nat.le_trans rent.exempt more, rent.reserved⟩

omit [DecidableEq K] in
theorem RentSound.exempt (rent : RentSound host l) {space : D → Nat} {k : K}
    {account : TokenAccount K} (held : l.data k = .token account) : l.RentExempt host space k := by
  unfold Ledger.RentExempt
  rw [held]
  exact (rent k account held).exempt

omit [DecidableEq K] in
theorem RentSound.of_same_data (rent : RentSound host l) (same : l'.data = l.data)
    (more : ∀ a account, l.data a = .token account → l.lamports a ≤ l'.lamports a) :
    RentSound host l' := by
  intro a account loaded
  rw [same] at loaded
  exact (rent a account loaded).grow (more a account loaded)

theorem RentSound.of_update (rent : RentSound host l) (address : K)
    (same : ∀ a, a ≠ address → l'.data a = l.data a)
    (more : ∀ a, a ≠ address → l.lamports a ≤ l'.lamports a)
    (here : ∀ account, l'.data address = .token account →
      RentToken host account (l'.lamports address)) :
    RentSound host l' := by
  intro a account loaded
  by_cases h : a = address
  · subst a
    exact here account loaded
  · rw [same a h] at loaded
    exact (rent a account loaded).grow (more a h)

/-- Wrapped lamports leave an account above its reserve only. -/
theorem RentSound.transferTokens (rent : RentSound host l) (sound : TokenSound host l) {src dst : K}
    {source destination : TokenAccount K} {n : Nat} (loaded : l.data src = .token source)
    (loadedTo : l.data dst = .token destination) (enough : n ≤ source.amount) :
    RentSound host (l.moveTokens src dst source destination n) := by
  by_cases self : src = dst
  · rw [Ledger.moveTokens, if_pos self]
    exact rent
  intro a account after
  by_cases hs : a = src
  · subst a
    rw [Ledger.moveTokens_data_src self] at after
    obtain rfl := AccountData.token.inj after
    have before := rent src source loaded
    refine ⟨?_, before.reserved⟩
    rw [Ledger.moveTokens_lamports_src self]
    cases native : source.isNative with
    | none => exact before.exempt
    | some reserve =>
      have covered := (sound src source loaded).backed reserve native
      have reserved := before.reserved reserve native
      simp only [Option.isSome_some, if_true]
      omega
  · by_cases hd : a = dst
    · subst a
      rw [Ledger.moveTokens_data_dst self] at after
      obtain rfl := AccountData.token.inj after
      have before := rent dst destination loadedTo
      exact ⟨Nat.le_trans before.exempt (Ledger.le_moveTokens_lamports hs), before.reserved⟩
    · rw [Ledger.moveTokens_data_other hs hd] at after
      exact (rent a account after).grow (Ledger.le_moveTokens_lamports hs)

theorem Action.rentSound (h : Action host A l l') (sound : TokenSound host l)
    (rent : RentSound host l) : RentSound host l' := by
  cases h with
  | @transferLamports src dst n plain _ =>
    refine rent.of_same_data rfl fun a account loaded => le_moveLamports _ n ?_
    rintro rfl
    rw [plain] at loaded
    cases loaded
  | transferTokens loaded loadedTo _ _ enough _ =>
    exact rent.transferTokens sound loaded loadedTo enough
  | @closeToken account destination source _ _ _ =>
    refine rent.of_update account (fun a other => by simp [other])
      (fun a other => le_moveLamports _ _ other) fun closed after => ?_
    simp at after
  | @syncNative account wrapped reserve loaded native grows =>
    refine rent.of_update account (fun a other => by simp [other]) (fun _ _ => Nat.le_refl _)
      fun synced after => ?_
    rw [Ledger.setData_data_self] at after
    obtain rfl := AccountData.token.inj after
    have before := rent account wrapped loaded
    exact ⟨before.exempt, before.reserved⟩
  | @createToken account wallet mint program _ _ _ rentExempt =>
    refine rent.of_update account (fun a other => by simp [other]) (fun _ _ => Nat.le_refl _)
      fun created after => ?_
    rw [Ledger.setData_data_self] at after
    obtain rfl := AccountData.token.inj after
    unfold Host.newTokenAccount
    split
    · refine ⟨rentExempt, fun reserve same => ?_⟩
      rw [Option.some.inj same]
    · exact ⟨rentExempt, fun reserve same => by cases same⟩
  | @writeProgram account value _ _ =>
    refine rent.of_update account (fun a other => by simp [other]) (fun _ _ => Nat.le_refl _)
      fun written after => ?_
    simp at after
  | @subLamports account value n owned _ =>
    refine rent.of_same_data rfl fun a token loaded => ?_
    have other : a ≠ account := by
      rintro rfl
      rw [owned] at loaded
      cases loaded
    simp [other]
  | @addLamports account n =>
    refine rent.of_same_data rfl fun a token _ => ?_
    by_cases h : a = account
    · subst a
      simp
    · simp [h]
  | @closeProgram account destination value _ _ =>
    refine rent.of_update account (fun a other => by simp [other])
      (fun a other => le_moveLamports _ _ other) fun closed after => ?_
    simp at after

theorem Actions.rentSound (h : Actions host A l l') (sound : TokenSound host l)
    (rent : RentSound host l) : RentSound host l' := by
  induction h with
  | refl => exact rent
  | tail before step ih => exact step.rentSound (Actions.tokenSound before sound) ih

/-- An account is created with its rent, and only its payer loses lamports. -/
theorem initIfNeeded_rentAllowed {ε : Type} {space : D → Nat} {signers : List K}
    {payer ata authority mint : K} {program : TokenProgram}
    (h : (initIfNeeded host signers payer ata authority program mint l : Except (Fault ε) _)
      = .ok l') {k : K} (other : k ≠ payer) : l.RentAllowed host space l' k := by
  obtain ⟨account, init⟩ := initIfNeeded_ok h
  rcases init.existing with ⟨_, rfl⟩ | ⟨_, _, _, rent⟩
  · exact rentAllowed_refl
  · by_cases here : k = ata
    · subst k
      refine Ledger.RentExempt.allowed ?_
      rw [Ledger.RentExempt, init.loaded, Host.dataLen, init.mintEq]
      exact rent
    · obtain ⟨n, booked⟩ := initIfNeeded_booked h
      refine rentAllowed_refl.congr ?_ (init.others k here)
      simpa [other, here] using booked.account k

end Soundness

end CrossChainEscrow.Library.Accounts
