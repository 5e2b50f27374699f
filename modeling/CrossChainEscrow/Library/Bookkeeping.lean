import Mathlib.Algebra.BigOperators.Group.Finset.Piecewise
import CrossChainEscrow.Library.Balances

/-!
# Double-entry bookkeeping

A change of balances is two lists of entries, what accounts are debited and what
they are credited. Changes compose by appending the lists, and one whose lists
have the same volume keeps the total of every set of accounts that contains those
it mentions. The operations on ledgers are such changes.
-/

namespace CrossChainEscrow.Library.Bookkeeping

variable {K : Type} [DecidableEq K]

/-- What the entries come to for one account. -/
def posted (entries : List (K × Nat)) (account : K) : Nat :=
  (entries.map (fun entry => if account = entry.1 then entry.2 else 0)).sum

def volume (entries : List (K × Nat)) : Nat := (entries.map Prod.snd).sum

@[simp] theorem posted_nil (account : K) : posted [] account = 0 := rfl

@[simp] theorem posted_cons (entry : K × Nat) (rest : List (K × Nat)) (account : K) :
    posted (entry :: rest) account =
      (if account = entry.1 then entry.2 else 0) + posted rest account := rfl

@[simp] theorem posted_append (first second : List (K × Nat)) (account : K) :
    posted (first ++ second) account = posted first account + posted second account := by
  simp [posted]

/-- Two entries for one account are one entry. -/
theorem posted_merge (account : K) (n m : Nat) (rest : List (K × Nat)) (k : K) :
    posted ((account, n) :: (account, m) :: rest) k = posted ((account, n + m) :: rest) k := by
  simp only [posted_cons]
  split
  · exact (Nat.add_assoc n m _).symm
  · rw [Nat.zero_add]

omit [DecidableEq K] in
@[simp] theorem volume_nil : volume ([] : List (K × Nat)) = 0 := rfl

omit [DecidableEq K] in
@[simp] theorem volume_cons (entry : K × Nat) (rest : List (K × Nat)) :
    volume (entry :: rest) = entry.2 + volume rest := rfl

/-- Over accounts that contain all the entries' own, the entries come to their
volume. -/
theorem sum_posted {accounts : Finset K} {entries : List (K × Nat)}
    (inside : ∀ entry ∈ entries, entry.1 ∈ accounts) :
    ∑ account ∈ accounts, posted entries account = volume entries := by
  induction entries with
  | nil => simp
  | cons entry rest ih =>
    have here : entry.1 ∈ accounts := inside entry (by simp)
    have later : ∀ e ∈ rest, e.1 ∈ accounts := fun e member => inside e (by simp [member])
    simp only [posted_cons, volume_cons, Finset.sum_add_distrib, Finset.sum_ite_eq', if_pos here]
    rw [ih later]

/-- The balances `after` are those `before` with the entries posted. -/
structure Booked (debits credits : List (K × Nat)) (before after : K → Nat) : Prop where
  account : ∀ k, after k + posted debits k = before k + posted credits k

namespace Booked
variable {debits credits debits' credits' : List (K × Nat)} {before between after : K → Nat}

theorem refl (balances : K → Nat) : Booked [] [] balances balances :=
  ⟨fun _ => rfl⟩

theorem trans (first : Booked debits credits before between)
    (second : Booked debits' credits' between after) :
    Booked (debits ++ debits') (credits ++ credits') before after := by
  refine ⟨fun k => ?_⟩
  have one := first.account k
  have two := second.account k
  rw [posted_append, posted_append]
  omega

theorem total (booked : Booked debits credits before after) {accounts : Finset K}
    (inside : ∀ entry ∈ debits ++ credits, entry.1 ∈ accounts) :
    ∑ k ∈ accounts, after k + volume debits = ∑ k ∈ accounts, before k + volume credits := by
  have debited : ∀ entry ∈ debits, entry.1 ∈ accounts :=
    fun entry member => inside entry (List.mem_append_left _ member)
  have credited : ∀ entry ∈ credits, entry.1 ∈ accounts :=
    fun entry member => inside entry (List.mem_append_right _ member)
  rw [← sum_posted debited, ← sum_posted credited, ← Finset.sum_add_distrib,
    ← Finset.sum_add_distrib]
  exact Finset.sum_congr rfl (fun k _ => booked.account k)

/-- Only what the entries come to for each account matters. -/
theorem congr (booked : Booked debits credits before after)
    (debited : ∀ k, posted debits k = posted debits' k)
    (credited : ∀ k, posted credits k = posted credits' k) :
    Booked debits' credits' before after := by
  refine ⟨fun k => ?_⟩
  rw [← debited, ← credited]
  exact booked.account k

/-- What is debited somewhere is credited somewhere. -/
theorem conserves (booked : Booked debits credits before after) (even : volume debits = volume credits)
    {accounts : Finset K} (inside : ∀ entry ∈ debits ++ credits, entry.1 ∈ accounts) :
    ∑ k ∈ accounts, after k = ∑ k ∈ accounts, before k := by
  have totals := booked.total inside
  omega

end Booked

end CrossChainEscrow.Library.Bookkeeping

namespace CrossChainEscrow.Library.Accounts
open Bookkeeping

variable {K D ε : Type} [DecidableEq K] {host : Host K} {signers : List K} {program : TokenProgram}
  {src dst mint account destination authority payer ata : K} {n len : Nat} {l l' : Ledger K D}

theorem moveLamports_booked {lamports : K → Nat} (enough : n ≤ lamports src) :
    Booked [(src, n)] [(dst, n)] lamports (moveLamports lamports src dst n) := by
  refine ⟨fun k => ?_⟩
  simp only [posted_cons, posted_nil, Nat.add_zero]
  by_cases self : src = dst
  · subst dst
    rw [moveLamports_self _ enough]
  · by_cases hs : k = src
    · subst k
      rw [moveLamports_src _ _ self, if_pos rfl, if_neg self]
      omega
    · by_cases hd : k = dst
      · subst k
        rw [moveLamports_dst _ _ self, if_neg hs, if_pos rfl]
        omega
      · rw [moveLamports_other _ _ hs hd, if_neg hs, if_neg hd]

theorem Ledger.debit_booked (enough : n ≤ l.lamports account) :
    Booked [(account, n)] [] l.lamports (l.setLamports account (l.lamports account - n)).lamports := by
  refine ⟨fun k => ?_⟩
  simp only [posted_cons, posted_nil, Nat.add_zero]
  by_cases same : k = account
  · subst k
    rw [Ledger.setLamports_lamports_self, if_pos rfl]
    omega
  · rw [Ledger.setLamports_lamports_other _ _ _ same, if_neg same, Nat.add_zero]

theorem Ledger.credit_booked :
    Booked [] [(account, n)] l.lamports (l.setLamports account (l.lamports account + n)).lamports := by
  refine ⟨fun k => ?_⟩
  simp only [posted_cons, posted_nil, Nat.add_zero]
  by_cases same : k = account
  · subst k
    rw [Ledger.setLamports_lamports_self, if_pos rfl]
  · rw [Ledger.setLamports_lamports_other _ _ _ same, if_neg same, Nat.add_zero]

/-- An account that is emptied takes its tokens with it. -/
theorem Ledger.empty_booked :
    Booked [(account, l.tokens account)] [] l.tokens (l.setData account .empty).tokens := by
  refine ⟨fun k => ?_⟩
  simp only [posted_cons, posted_nil, Nat.add_zero]
  by_cases same : k = account
  · subst k
    rw [if_pos rfl, Ledger.tokens, Ledger.setData_data_self]
    exact Nat.zero_add _
  · rw [if_neg same, Ledger.tokens_congr (Ledger.setData_data_other _ _ _ same), Nat.add_zero]

section Transfers
variable {source destination : TokenAccount K}

theorem Ledger.moveTokens_booked (distinct : src ≠ dst) (loaded : l.data src = .token source)
    (loadedTo : l.data dst = .token destination) (enough : n ≤ source.amount) :
    Booked [(src, n)] [(dst, n)] l.tokens (l.moveTokens src dst source destination n).tokens := by
  refine ⟨fun k => ?_⟩
  simp only [posted_cons, posted_nil, Nat.add_zero]
  by_cases hs : k = src
  · subst k
    rw [Ledger.tokens_of_token (Ledger.moveTokens_data_src distinct), Ledger.tokens_of_token loaded,
      if_pos rfl, if_neg distinct]
    exact Nat.sub_add_cancel enough
  · by_cases hd : k = dst
    · subst k
      rw [Ledger.tokens_of_token (Ledger.moveTokens_data_dst distinct),
        Ledger.tokens_of_token loadedTo, if_neg hs, if_pos rfl, Nat.add_zero]
    · rw [Ledger.tokens_congr (Ledger.moveTokens_data_other hs hd), if_neg hs, if_neg hd]

/-- Wrapped tokens take their lamports with them. -/
theorem Ledger.moveTokens_lamports_booked (distinct : src ≠ dst)
    (enough : source.wrapped n ≤ l.lamports src) :
    Booked [(src, source.wrapped n)] [(dst, source.wrapped n)] l.lamports
      (l.moveTokens src dst source destination n).lamports := by
  rw [Ledger.moveTokens, if_neg distinct]
  unfold TokenAccount.wrapped at *
  split
  · next native =>
    rw [if_pos native] at enough
    exact moveLamports_booked enough
  · exact ⟨fun k => by simp⟩

/-- A token transfer posts its amount, and the lamports it wraps. -/
theorem transferChecked_booked (distinct : src ≠ dst) (loaded : l.data src = .token source)
    (h : (transferChecked signers program src mint dst authority n l : Except (Fault ε) _)
      = .ok l') :
    Booked [(src, n)] [(dst, n)] l.tokens l'.tokens ∧
      Booked [(src, source.wrapped n)] [(dst, source.wrapped n)] l.lamports l'.lamports := by
  obtain ⟨source', loaded', destination, loadedTo, _, _, _, _, enough, lamports, rfl⟩ :=
    transferChecked_ok.mp h
  obtain rfl : source' = source := by
    rw [loaded] at loaded'
    exact (AccountData.token.inj loaded').symm
  have covered : source'.wrapped n ≤ l.lamports src := by
    unfold TokenAccount.wrapped
    split
    · next native => exact lamports native
    · exact Nat.zero_le _
  exact ⟨Ledger.moveTokens_booked distinct loaded loadedTo enough,
    Ledger.moveTokens_lamports_booked distinct covered⟩

end Transfers

/-- Closing an account posts all its lamports to the destination. -/
theorem closeAccount_booked
    (h : (closeAccount signers program account destination authority l : Except (Fault ε) _)
      = .ok l') :
    Booked [(account, l.lamports account)] [(destination, l.lamports account)] l.lamports
      l'.lamports := by
  obtain ⟨_, _, _, _, _, _, _, rfl⟩ := closeAccount_ok.mp h
  exact moveLamports_booked (Nat.le_refl _)

theorem closeProgram_booked
    (h : (closeProgram account destination l : Except (Fault ε) _) = .ok l') :
    Booked [(account, l.lamports account)] [(destination, l.lamports account)] l.lamports
      l'.lamports := by
  obtain ⟨_, _, _, rfl⟩ := closeProgram_ok.mp h
  exact moveLamports_booked (Nat.le_refl _)

theorem closeAccount_tokens_booked
    (h : (closeAccount signers program account destination authority l : Except (Fault ε) _)
      = .ok l') : Booked [(account, l.tokens account)] [] l.tokens l'.tokens := by
  obtain ⟨_, _, _, _, _, _, _, rfl⟩ := closeAccount_ok.mp h
  exact Ledger.empty_booked (l := l.move account destination (l.lamports account))

/-- Program data holds no tokens. -/
theorem closeProgram_tokens
    (h : (closeProgram account destination l : Except (Fault ε) _) = .ok l') :
    l'.tokens = l.tokens := by
  obtain ⟨_, loaded, _, rfl⟩ := closeProgram_ok.mp h
  funext k
  by_cases same : k = account
  · subst k
    rw [Ledger.tokens, Ledger.tokens, Ledger.setData_data_self, loaded]
    rfl
  · exact Ledger.tokens_congr (Ledger.setData_data_other _ _ _ same)

theorem topUp_booked
    (h : (topUp host signers payer account len l : Except (Fault ε) _) = .ok l') :
    ∃ n, Booked [(payer, n)] [(account, n)] l.lamports l'.lamports := by
  rcases topUp_ok.mp h with ⟨_, rfl⟩ | ⟨_, _, _, _, enough, rfl⟩
  · exact ⟨0, ⟨fun k => by simp⟩⟩
  · exact ⟨_, moveLamports_booked enough⟩

theorem initIfNeeded_booked
    (h : (initIfNeeded host signers payer ata authority program mint l : Except (Fault ε) _)
      = .ok l') : ∃ n, Booked [(payer, n)] [(ata, n)] l.lamports l'.lamports := by
  simp only [initIfNeeded, bind_ok, requireThat_ok, pure_ok, exists_const] at h
  obtain ⟨created, missing, _, _, _, rfl⟩ := h
  unfold createIfMissing at missing
  split at missing
  · obtain ⟨_, _, _, funded, paid, rfl⟩ := createAssociatedTokenAccount_ok.mp missing
    rw [Ledger.setData_lamports]
    exact topUp_booked paid
  · rw [pure_ok.mp missing]
    exact ⟨0, ⟨fun k => by simp⟩⟩

/-! ## Accounts that are there when needed -/

theorem Host.newTokenAccount_owned (host : Host K) (wallet mint : K) (program : TokenProgram)
    (lamports : Nat) :
    (host.newTokenAccount wallet program mint lamports).program = program ∧
      (host.newTokenAccount wallet program mint lamports).owner = wallet ∧
      (host.newTokenAccount wallet program mint lamports).mint = mint := by
  unfold Host.newTokenAccount
  split <;> exact ⟨rfl, rfl, rfl⟩

theorem topUp_succeeds (other : payer ≠ account) (member : payer ∈ signers)
    (plain : l.data payer = .empty)
    (enough : host.minimumBalance len ≤ l.lamports account + l.lamports payer) :
    ∃ l', (topUp host signers payer account len l : Except (Fault ε) _) = .ok l' := by
  by_cases funded : host.minimumBalance len ≤ l.lamports account
  · exact ⟨l, topUp_ok.mpr (Or.inl ⟨funded, rfl⟩)⟩
  · exact ⟨_, topUp_ok.mpr (Or.inr ⟨by omega, other, member, plain, by omega, rfl⟩)⟩

/-- A payer spends at most the rent. -/
theorem topUp_spent
    (h : (topUp host signers payer account len l : Except (Fault ε) _) = .ok l') (k : K) :
    l.lamports k ≤ l'.lamports k + host.minimumBalance len := by
  rcases topUp_ok.mp h with ⟨_, rfl⟩ | ⟨_, _, _, _, enough, rfl⟩
  · exact Nat.le_add_right _ _
  · have booked : Booked [(payer, host.minimumBalance len - l.lamports account)]
        [(account, host.minimumBalance len - l.lamports account)] l.lamports
        (l.move payer account (host.minimumBalance len - l.lamports account)).lamports :=
      moveLamports_booked enough
    have moved := booked.account k
    simp only [posted_cons, posted_nil] at moved
    split at moved
    all_goals omega

/-- The lamports of an associated account once it is there. -/
def Host.openingLamports (host : Host K) (l : Ledger K D) (ata mint : K) : Nat :=
  if (l.data ata).isEmpty = true then
    max (l.lamports ata) (host.minimumBalance (host.tokenAccountLen mint))
  else l.lamports ata

theorem initIfNeeded_openingLamports
    (h : (initIfNeeded host signers payer ata authority program mint l : Except (Fault ε) _)
      = .ok l') : l'.lamports ata = host.openingLamports l ata mint := by
  simp only [initIfNeeded, bind_ok, requireThat_ok, pure_ok, exists_const] at h
  obtain ⟨created, missing, _, _, _, rfl⟩ := h
  unfold createIfMissing at missing
  unfold Host.openingLamports
  split at missing
  · next unused =>
    obtain ⟨_, _, _, funded, paid, rfl⟩ := createAssociatedTokenAccount_ok.mp missing
    rw [if_pos unused, Ledger.setData_lamports, topUp_lamports paid]
  · next used =>
    rw [if_neg used, pure_ok.mp missing]

/-- The payer gives what the account lacks. -/
theorem initIfNeeded_cost
    (h : (initIfNeeded host signers payer ata authority program mint l : Except (Fault ε) _)
      = .ok l') (distinct : payer ≠ ata) :
    Booked [(payer, host.openingLamports l ata mint - l.lamports ata)]
      [(ata, host.openingLamports l ata mint - l.lamports ata)] l.lamports l'.lamports := by
  obtain ⟨n, booked⟩ := initIfNeeded_booked h
  have given := booked.account ata
  simp only [posted_cons, posted_nil, if_neg (Ne.symm distinct), if_pos] at given
  rw [initIfNeeded_openingLamports h] at given
  have amount : host.openingLamports l ata mint - l.lamports ata = n := by omega
  rw [amount]
  exact booked

/-- An account that is as it should be is left alone. -/
theorem initIfNeeded_existing {account : TokenAccount K} (loaded : l.data ata = .token account)
    (programs : account.program = program) (owner : account.owner = authority)
    (mints : account.mint = mint) (derived : ata = host.associatedTokenAddress authority program mint) :
    (initIfNeeded host signers payer ata authority program mint l : Except (Fault ε) _) = .ok l := by
  have used : ¬ (l.data ata).isEmpty = true := by
    rw [loaded]
    simp [AccountData.isEmpty]
  simp only [initIfNeeded, createIfMissing, if_neg used, bind_ok, pure_ok, loadAssociatedToken_ok,
    requireThat_ok, exists_const]
  exact ⟨l, rfl, account, ⟨loaded, programs, owner, derived⟩, mints, rfl⟩

/-- One that is missing is created for a payer who can fund it. -/
theorem initIfNeeded_creates (unused : l.data ata = .empty) (other : payer ≠ ata)
    (member : payer ∈ signers) (plain : l.data payer = .empty)
    (owned : host.mintProgram mint = some program)
    (derived : ata = host.associatedTokenAddress authority program mint)
    (enough : host.minimumBalance (host.tokenAccountLen mint) ≤
      l.lamports ata + l.lamports payer) :
    ∃ l', (initIfNeeded host signers payer ata authority program mint l : Except (Fault ε) _)
      = .ok l' := by
  obtain ⟨funded, paid⟩ := topUp_succeeds (ε := ε) other member plain enough
  have created := (createAssociatedTokenAccount_ok (ε := ε)).mpr
    ⟨unused, derived, owned, funded, paid, rfl⟩
  obtain ⟨programs, owner, mints⟩ :=
    host.newTokenAccount_owned authority mint program (funded.lamports ata)
  have isEmpty : (l.data ata).isEmpty = true := AccountData.isEmpty_iff.mpr unused
  simp only [initIfNeeded, createIfMissing, if_pos isEmpty, bind_ok, pure_ok,
    loadAssociatedToken_ok, requireThat_ok, exists_const]
  exact ⟨_, _, created, _, ⟨Ledger.setData_data_self _ _ _, programs, owner, derived⟩, mints, rfl⟩

/-! ## Opening an account with its token account -/

section Opening
variable {allocated ready : Ledger K D} {key : K}
  (allocate : (createAccount host signers payer key len l : Except (Fault ε) _) = .ok allocated)
  (init : (initIfNeeded host signers payer ata key program mint allocated : Except (Fault ε) _)
    = .ok ready)
include allocate init

/-- Nobody pays more than the rents. -/
theorem opening_spent (k : K) : l.lamports k ≤ ready.lamports k +
    (host.minimumBalance len + host.minimumBalance (host.tokenAccountLen mint)) := by
  obtain ⟨rent, bound, _, second⟩ := initIfNeeded_paid init k
  have first := topUp_spent (createAccount_ok.mp allocate).2 k
  omega

/-- A token account of another owner is not the one opened, and stays. -/
theorem opening_kept {k : K} {source : TokenAccount K} (held : l.data k = .token source)
    (other : source.owner ≠ key) : k ≠ ata ∧ ready.data k = .token source := by
  obtain ⟨_, opened⟩ := initIfNeeded_ok init
  have there := (congrFun (topUp_data (createAccount_ok.mp allocate).2) k).trans held
  exact opened.other_owner there other

end Opening

end CrossChainEscrow.Library.Accounts
