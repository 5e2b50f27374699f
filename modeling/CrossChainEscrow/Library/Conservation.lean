import Mathlib.Order.Filter.AtTopBot.Basic
import CrossChainEscrow.Library.Bookkeeping

/-!
# Conservation of lamports and tokens

Balances are conserved when every large enough set of accounts has the same total
before and after. The relation composes, and a change of balances that is booked
with even volumes is conserved. `Conserving` says it of a whole ledger: of the
lamports and, for each mint that wraps no lamports, of the tokens; these it may
only say of ledgers with sound token accounts, so it also keeps them sound.
-/

namespace CrossChainEscrow.Library.Bookkeeping
open Filter

variable {K : Type} [DecidableEq K]

/-- All large enough sets of accounts keep their total. -/
def Conserves (before after : K → Nat) : Prop :=
  ∀ᶠ accounts : Finset K in atTop, ∑ k ∈ accounts, after k = ∑ k ∈ accounts, before k

namespace Conserves
variable {before between after : K → Nat}

omit [DecidableEq K] in
theorem refl (balances : K → Nat) : Conserves balances balances :=
  Eventually.of_forall fun _ => rfl

omit [DecidableEq K] in
theorem trans (first : Conserves before between) (second : Conserves between after) :
    Conserves before after := by
  filter_upwards [first, second] with accounts one two
  exact two.trans one

theorem of_booked {debits credits : List (K × Nat)} (booked : Booked debits credits before after)
    (even : volume debits = volume credits) : Conserves before after := by
  apply eventually_atTop.mpr
  refine ⟨((debits ++ credits).map Prod.fst).toFinset, fun accounts larger => ?_⟩
  refine booked.conserves even fun entry member => larger ?_
  rw [List.mem_toFinset]
  exact List.mem_map_of_mem member

/-- A change at two accounts that keeps their sum. -/
theorem of_pair {first second : K} (distinct : first ≠ second)
    (others : ∀ k, k ≠ first → k ≠ second → after k = before k)
    (sum : after first + after second = before first + before second) : Conserves before after := by
  have booked : Booked [(first, before first), (second, before second)]
      [(first, after first), (second, after second)] before after := by
    refine ⟨fun k => ?_⟩
    simp only [posted_cons, posted_nil]
    by_cases one : k = first
    · subst k
      simp only [if_pos, if_neg distinct]
      omega
    · by_cases two : k = second
      · subst k
        simp only [if_pos, if_neg one]
        omega
      · simp only [if_neg one, if_neg two]
        rw [others k one two]
  apply of_booked booked
  simp only [volume_cons, volume_nil]
  omega

end Conserves
end CrossChainEscrow.Library.Bookkeeping

namespace CrossChainEscrow.Library.Accounts
open Bookkeeping

variable {K D ε : Type} [DecidableEq K] {host : Host K} {signers : List K} {program : TokenProgram}
  {src dst mint account destination authority payer ata : K} {n len : Nat} {l m l' : Ledger K D}

/-- The tokens of one mint in an account. -/
def AccountData.holding (mint : K) : AccountData K D → Nat
  | .token account => if account.mint = mint then account.amount else 0
  | _ => 0

@[simp] theorem AccountData.holding_empty (mint : K) :
    (AccountData.empty : AccountData K D).holding mint = 0 := rfl

@[simp] theorem AccountData.holding_token (mint : K) (account : TokenAccount K) :
    (AccountData.token account : AccountData K D).holding mint =
      if account.mint = mint then account.amount else 0 := rfl

def Ledger.holdings (l : Ledger K D) (mint : K) (k : K) : Nat := (l.data k).holding mint

/-- No token program wraps lamports as this mint. -/
def Host.Plain (host : Host K) (mint : K) : Prop := ∀ program, mint ≠ host.nativeMint program

/-- Nothing is created or lost. -/
structure Conserving (host : Host K) (l l' : Ledger K D) : Prop where
  lamports : Conserves l.lamports l'.lamports
  sound : TokenSound host l → TokenSound host l'
  holdings : TokenSound host l → ∀ mint, host.Plain mint →
    Conserves (l.holdings mint) (l'.holdings mint)

namespace Conserving

theorem refl (host : Host K) (l : Ledger K D) : Conserving host l l :=
  ⟨Conserves.refl _, id, fun _ _ _ => Conserves.refl _⟩

theorem trans (first : Conserving host l m) (second : Conserving host m l') : Conserving host l l' where
  lamports := first.lamports.trans second.lamports
  sound before := second.sound (first.sound before)
  holdings before mint plain :=
    (first.holdings before mint plain).trans (second.holdings (first.sound before) mint plain)

/-- An operation that leaves what every account holds of every plain mint. -/
theorem of_same (actions : Actions host (fun _ => True) l l')
    (lamports : Conserves l.lamports l'.lamports)
    (same : TokenSound host l → ∀ mint, host.Plain mint → ∀ k, l'.holdings mint k = l.holdings mint k) :
    Conserving host l l' where
  lamports := lamports
  sound before := Actions.tokenSound actions before
  holdings before mint plain := by
    rw [funext (same before mint plain)]
    exact Conserves.refl _

/-- An operation that moves lamports only. -/
theorem of_data (actions : Actions host (fun _ => True) l l')
    (lamports : Conserves l.lamports l'.lamports) (data : l'.data = l.data) : Conserving host l l' :=
  of_same actions lamports fun _ _ _ k => by rw [Ledger.holdings, Ledger.holdings, data]

end Conserving

/-! ## The operations -/

theorem Ledger.holdings_setData_other {k : K} {value : AccountData K D} (other : k ≠ account) :
    (l.setData account value).holdings mint k = l.holdings mint k := by
  rw [Ledger.holdings, Ledger.setData_data_other _ _ _ other, Ledger.holdings]

/-- A new value that holds as much of a mint as the old one. -/
theorem Ledger.holdings_setData {value : AccountData K D}
    (same : value.holding mint = (l.data account).holding mint) (k : K) :
    (l.setData account value).holdings mint k = l.holdings mint k := by
  by_cases here : k = account
  · rw [here, Ledger.holdings, Ledger.setData_data_self, same, Ledger.holdings]
  · exact Ledger.holdings_setData_other here

/-- A wrapped native account holds nothing of a plain mint. -/
theorem SoundToken.holding_wrapped {source : TokenAccount K} {lamports : Nat}
    (sound : SoundToken host source lamports) (wrapped : source.isNative.isSome = true)
    (plain : host.Plain mint) : (AccountData.token source : AccountData K D).holding mint = 0 := by
  have native := sound.native.mp wrapped
  rw [AccountData.holding_token, if_neg]
  intro same
  exact plain source.program (same.symm.trans native)

theorem Ledger.moveTokens_conserving {source destination : TokenAccount K}
    (loaded : l.data src = .token source) (loadedTo : l.data dst = .token destination)
    (programs : source.program = destination.program) (mints : source.mint = destination.mint)
    (enough : n ≤ source.amount) (covered : source.wrapped n ≤ l.lamports src) :
    Conserving host l (l.moveTokens src dst source destination n) := by
  by_cases self : src = dst
  · rw [Ledger.moveTokens, if_pos self]
    exact Conserving.refl host l
  have action : Action host (fun _ => True) l (l.moveTokens src dst source destination n) :=
    .transferTokens loaded loadedTo programs mints enough trivial
  refine ⟨Conserves.of_booked (Ledger.moveTokens_lamports_booked self covered) rfl,
    Actions.tokenSound (.single action), fun _ mint _ => Conserves.of_pair self (fun k hs hd => ?_) ?_⟩
  · rw [Ledger.holdings, Ledger.moveTokens_data_other hs hd, Ledger.holdings]
  · simp only [Ledger.holdings, Ledger.moveTokens_data_src self, Ledger.moveTokens_data_dst self,
      loaded, loadedTo, AccountData.holding_token, mints]
    split
    · omega
    · rfl

theorem transferChecked_conserving
    (h : (transferChecked signers program src mint dst authority n l : Except (Fault ε) _) = .ok l') :
    Conserving host l l' := by
  obtain ⟨source, loaded, destination, loadedTo, programs, mints, _, _, enough, lamports, rfl⟩ :=
    transferChecked_ok.mp h
  refine Ledger.moveTokens_conserving loaded loadedTo (programs.1.trans programs.2.symm)
    (mints.1.trans mints.2.symm) enough ?_
  unfold TokenAccount.wrapped
  split
  · next native => exact lamports native
  · exact Nat.zero_le _

theorem systemTransfer_conserving
    (h : (systemTransfer signers src dst n l : Except (Fault ε) _) = .ok l') : Conserving host l l' := by
  obtain ⟨_, _, enough, rfl⟩ := systemTransfer_ok.mp h
  exact .of_data (systemTransfer_actions (fun _ _ => trivial) h)
    (Conserves.of_booked (moveLamports_booked enough) rfl) rfl

/-- What an account that is closed holds of a plain mint is nothing. -/
theorem closeAccount_conserving
    (h : (closeAccount signers program account destination authority l : Except (Fault ε) _)
      = .ok l') : Conserving host l l' := by
  refine .of_same (closeAccount_actions (fun _ _ => trivial) h)
    (Conserves.of_booked (closeAccount_booked h) rfl) fun sound mint plain => ?_
  obtain ⟨source, loaded, _, _, drained, _, _, rfl⟩ := closeAccount_ok.mp h
  apply Ledger.holdings_setData
  rw [Ledger.move_data, loaded]
  rcases drained with wrapped | none
  · exact ((sound account source loaded).holding_wrapped wrapped plain).symm
  · simp [none]

theorem closeProgram_conserving
    (h : (closeProgram account destination l : Except (Fault ε) _) = .ok l') : Conserving host l l' := by
  refine .of_same (closeProgram_actions trivial h)
    (Conserves.of_booked (closeProgram_booked h) rfl) fun _ mint _ => ?_
  obtain ⟨value, loaded, _, rfl⟩ := closeProgram_ok.mp h
  apply Ledger.holdings_setData
  rw [Ledger.move_data, loaded]
  rfl

theorem writeProgram_conserving {value : D}
    (h : (writeProgram account value l : Except (Fault ε) _) = .ok l') : Conserving host l l' := by
  have actions : Actions host (fun _ => True) l l' := writeProgram_actions trivial h
  obtain ⟨untaken, rfl⟩ := writeProgram_ok.mp h
  refine .of_same actions (Conserves.refl _) fun _ mint _ => ?_
  apply Ledger.holdings_setData
  cases held : l.data account with
  | token token =>
    rw [Ledger.tokenAt, held] at untaken
    cases untaken
  | _ => rfl

theorem syncNative_conserving
    (h : (syncNative program account l : Except (Fault ε) _) = .ok l') : Conserving host l l' := by
  have actions : Actions host (fun _ => True) l l' := syncNative_actions h
  obtain ⟨wrapped, loaded, _, reserve, native, _, rfl⟩ := syncNative_ok.mp h
  refine .of_same actions (Conserves.refl _) fun sound mint plain => ?_
  have wraps := (sound account wrapped loaded).native.mp (by rw [native]; rfl)
  have other : wrapped.mint ≠ mint := fun same => plain wrapped.program (same.symm.trans wraps)
  apply Ledger.holdings_setData
  simp [loaded, other]

/-- Lamports that leave one account and arrive at another. -/
theorem payLamports_conserving (pay : (subLamports src n l : Except (Fault ε) _) = .ok m)
    (credit : (addLamports dst n m : Except (Fault ε) _) = .ok l') : Conserving host l l' := by
  have actions : Actions host (fun _ => True) l l' :=
    (subLamports_actions trivial pay).trans (addLamports_actions credit)
  obtain ⟨_, _, enough, rfl⟩ := subLamports_ok.mp pay
  obtain rfl := addLamports_ok.mp credit
  exact .of_data actions (Conserves.of_booked ((Ledger.debit_booked enough).trans
    Ledger.credit_booked) rfl) rfl

theorem topUp_conserving
    (h : (topUp host signers payer account len l : Except (Fault ε) _) = .ok l') :
    Conserving host l l' := by
  rcases topUp_ok.mp h with ⟨_, rfl⟩ | ⟨_, _, _, _, enough, rfl⟩
  · exact .refl host _
  · exact .of_data (topUp_actions (fun _ _ => trivial) h)
      (Conserves.of_booked (moveLamports_booked enough) rfl) rfl

theorem createAccount_conserving
    (h : (createAccount host signers payer account len l : Except (Fault ε) _) = .ok l') :
    Conserving host l l' :=
  topUp_conserving (createAccount_ok.mp h).2

/-- A new account holds nothing of a plain mint. -/
theorem createAssociatedTokenAccount_conserving {wallet : K}
    (h : (createAssociatedTokenAccount host signers payer account wallet program mint l :
      Except (Fault ε) _) = .ok l') : Conserving host l l' := by
  obtain ⟨unused, derived, owned, funded, paid, rfl⟩ := createAssociatedTokenAccount_ok.mp h
  have action : Action host (fun _ => True) funded _ := .createToken
    ((congrFun (topUp_data paid) account).trans unused) derived owned (topUp_funded paid)
  refine (topUp_conserving paid).trans (.of_same (.single action) (Conserves.refl _) ?_)
  intro _ other plain
  apply Ledger.holdings_setData
  rw [topUp_data paid, unused, AccountData.holding_token, AccountData.holding_empty,
    Host.newTokenAccount]
  split
  · next wraps => exact if_neg fun same => plain program (same.symm.trans wraps)
  · exact ite_self 0

theorem initIfNeeded_conserving
    (h : (initIfNeeded host signers payer ata authority program mint l : Except (Fault ε) _)
      = .ok l') : Conserving host l l' := by
  simp only [initIfNeeded, bind_ok, requireThat_ok, pure_ok, exists_const] at h
  obtain ⟨created, missing, _, _, _, rfl⟩ := h
  unfold createIfMissing at missing
  split at missing
  · exact createAssociatedTokenAccount_conserving missing
  · rw [pure_ok.mp missing]
    exact .refl host l

end CrossChainEscrow.Library.Accounts
