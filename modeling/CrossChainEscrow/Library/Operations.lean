import CrossChainEscrow.Library.Conservation

/-!
# Relations that every operation is in

A program acts on a ledger by a few operations. A relation between ledgers that
composes and that each of them is in holds between the ledgers before and after any
of its calls, so it need only be checked operation by operation: `Operational` lists
the operations, with the accounts that a program named when it used them and those
that it may write. Such relations are that nothing is created or lost, `Standing`,
that the token accounts of other keys stay theirs, and `Footprint`, that all other
accounts are as before.
-/

namespace CrossChainEscrow.Library.Accounts
open Bookkeeping

variable {K D ε : Type} [DecidableEq K]

/-- A relation that composes and that every operation is in whose accounts may be
written. Programs write, close and pay from accounts that they named, and close token
accounts of such. -/
structure Operational (ε : Type) (host : Host K) (Named Writable : K → Prop)
    (R : Ledger K D → Ledger K D → Prop) : Prop where
  refl : ∀ l, R l l
  trans : ∀ {l m l'}, R l m → R m l' → R l l'
  systemTransfer : ∀ {signers src dst n l l'}, Writable src → Writable dst →
    (systemTransfer signers src dst n l : Except (Fault ε) _) = .ok l' → R l l'
  transferChecked : ∀ {signers program src mint dst authority n l l'}, Writable src → Writable dst →
    (transferChecked signers program src mint dst authority n l : Except (Fault ε) _) = .ok l' →
      R l l'
  syncNative : ∀ {program account l l'}, Writable account →
    (syncNative program account l : Except (Fault ε) _) = .ok l' → R l l'
  createAccount : ∀ {signers payer account len l l'}, Writable payer → Writable account →
    (createAccount host signers payer account len l : Except (Fault ε) _) = .ok l' → R l l'
  initIfNeeded : ∀ {signers payer ata authority program mint l l'}, Writable payer → Writable ata →
    (initIfNeeded host signers payer ata authority program mint l : Except (Fault ε) _) = .ok l' →
      R l l'
  closeAccount : ∀ {signers program account destination authority l l'}, Named authority →
    Writable account → Writable destination →
    (closeAccount signers program account destination authority l : Except (Fault ε) _) = .ok l' →
      R l l'
  writeProgram : ∀ {account} {value : D} {l l'}, Named account → Writable account →
    (writeProgram account value l : Except (Fault ε) _) = .ok l' → R l l'
  closeProgram : ∀ {account destination l l'}, Named account → Writable account →
    Writable destination →
    (closeProgram account destination l : Except (Fault ε) _) = .ok l' → R l l'
  payLamports : ∀ {src dst n l m l'}, Writable src → Writable dst →
    (subLamports src n l : Except (Fault ε) _) = .ok m →
    (addLamports dst n m : Except (Fault ε) _) = .ok l' → R l l'

theorem Conserving.operational (host : Host K) (Named Writable : K → Prop) :
    Operational ε host Named Writable (Conserving (D := D) host) where
  refl := .refl host
  trans := .trans
  systemTransfer _ _ := systemTransfer_conserving
  transferChecked _ _ := transferChecked_conserving
  syncNative _ := syncNative_conserving
  createAccount _ _ := createAccount_conserving
  initIfNeeded _ _ := initIfNeeded_conserving
  closeAccount _ _ _ := closeAccount_conserving
  writeProgram _ _ := writeProgram_conserving
  closeProgram _ _ _ := closeProgram_conserving
  payLamports _ _ := payLamports_conserving

/-! ## What stays with its owner -/

/-- The token accounts of these owners stay theirs, with other amounts, and their
own addresses stay without data. -/
structure Standing (Own : K → Prop) (l l' : Ledger K D) : Prop where
  accounts : ∀ k account, l.data k = .token account → Own account.owner →
    ∃ amount, l'.data k = .token { account with amount }
  plain : ∀ k, Own k → l.data k = .empty → l'.data k = .empty

namespace Standing
variable {Own : K → Prop} {l m l' : Ledger K D} {key : K}

omit [DecidableEq K] in
theorem of_data (same : l'.data = l.data) : Standing Own l l' where
  accounts _ account held _ := ⟨account.amount, (congrFun same _).trans held⟩
  plain _ _ unused := (congrFun same _).trans unused

omit [DecidableEq K] in
theorem trans (first : Standing Own l m) (second : Standing Own m l') : Standing Own l l' where
  accounts k account held own := by
    obtain ⟨amount, kept⟩ := first.accounts k account held own
    exact second.accounts k { account with amount } kept own
  plain k own unused := second.plain k own (first.plain k own unused)

/-- One account changes that none of these owners has. -/
theorem of_update (others : ∀ k, k ≠ key → l'.data k = l.data k)
    (foreign : ∀ account, l.data key = .token account → ¬ Own account.owner)
    (unowned : l.data key = .empty → ¬ Own key) : Standing Own l l' where
  accounts k account held own := by
    by_cases same : k = key
    · subst k
      exact absurd own (foreign account held)
    · exact ⟨account.amount, (others k same).trans held⟩
  plain k own unused := by
    by_cases same : k = key
    · subst k
      exact absurd own (unowned unused)
    · exact (others k same).trans unused

/-- The amount of one token account changes. -/
theorem of_amount {account : TokenAccount K} {amount : Nat} (held : l.data key = .token account)
    (changed : l'.data key = .token { account with amount })
    (others : ∀ k, k ≠ key → l'.data k = l.data k) : Standing Own l l' where
  accounts k other loaded _ := by
    by_cases same : k = key
    · subst k
      obtain rfl := AccountData.token.inj (loaded.symm.trans held)
      exact ⟨amount, changed⟩
    · exact ⟨other.amount, (others k same).trans loaded⟩
  plain k _ unused := by
    by_cases same : k = key
    · subst k
      rw [held] at unused
      cases unused
    · exact (others k same).trans unused

theorem of_moveTokens {src dst : K} {source destination : TokenAccount K} {n : Nat}
    (loaded : l.data src = .token source) (loadedTo : l.data dst = .token destination) :
    Standing Own l (l.moveTokens src dst source destination n) := by
  by_cases self : src = dst
  · rw [Ledger.moveTokens, if_pos self]
    exact of_data rfl
  have debit : Standing Own l (l.setData src (.token { source with amount := source.amount - n })) :=
    of_amount loaded (Ledger.setData_data_self ..) fun k other => Ledger.setData_data_other _ _ _ other
  have credit : Standing Own (l.setData src (.token { source with amount := source.amount - n }))
      (l.moveTokens src dst source destination n) := by
    have held := (Ledger.setData_data_other l src
      (.token { source with amount := source.amount - n }) (Ne.symm self)).trans loadedTo
    refine of_amount held (Ledger.moveTokens_data_dst self) fun k other => ?_
    by_cases here : k = src
    · rw [here, Ledger.moveTokens_data_src self, Ledger.setData_data_self]
    · rw [Ledger.moveTokens_data_other here other, Ledger.setData_data_other _ _ _ here]
  exact debit.trans credit

/-- No operation touches them, for owners that are neither named by the program nor
associated token addresses. -/
theorem operational {host : Host K} {Named Writable : K → Prop} (unnamed : ∀ k, Named k → ¬ Own k)
    (notAssociated : ∀ wallet program mint, ¬ Own (host.associatedTokenAddress wallet program mint)) :
    Operational ε host Named Writable (Standing (D := D) Own) where
  refl _ := of_data rfl
  trans := trans
  systemTransfer _ _ h := by
    obtain ⟨_, _, _, rfl⟩ := systemTransfer_ok.mp h
    exact of_data rfl
  transferChecked _ _ h := by
    obtain ⟨_, loaded, _, loadedTo, _, _, _, _, _, _, rfl⟩ := transferChecked_ok.mp h
    exact of_moveTokens loaded loadedTo
  syncNative _ h := by
    obtain ⟨_, loaded, _, _, _, _, rfl⟩ := syncNative_ok.mp h
    exact of_amount loaded (Ledger.setData_data_self ..) fun k other =>
      Ledger.setData_data_other _ _ _ other
  createAccount _ _ h := of_data (topUp_data (createAccount_ok.mp h).2)
  initIfNeeded _ _ h := by
    obtain ⟨account, init⟩ := initIfNeeded_ok h
    rcases init.existing with ⟨_, rfl⟩ | ⟨unused, _⟩
    · exact of_data rfl
    · refine of_update init.others (fun token held => ?_) fun _ => init.derived ▸ notAssociated _ _ _
      rw [unused] at held
      cases held
  closeAccount named _ _ h := by
    obtain ⟨source, loaded, _, _, _, owner, _, rfl⟩ := closeAccount_ok.mp h
    refine of_update (fun k other => Ledger.setData_data_other _ _ _ other) (fun account held => ?_)
      fun unused => ?_
    · obtain rfl := AccountData.token.inj (held.symm.trans loaded)
      exact owner ▸ unnamed _ named
    · rw [loaded] at unused
      cases unused
  writeProgram named _ h := by
    obtain ⟨untaken, rfl⟩ := writeProgram_ok.mp h
    refine of_update (fun k other => Ledger.setData_data_other _ _ _ other) (fun account held => ?_)
      fun _ => unnamed _ named
    rw [Ledger.tokenAt, held] at untaken
    cases untaken
  closeProgram named _ _ h := by
    obtain ⟨_, loaded, _, rfl⟩ := closeProgram_ok.mp h
    refine of_update (fun k other => Ledger.setData_data_other _ _ _ other) (fun account held => ?_)
      fun _ => unnamed _ named
    rw [loaded] at held
    cases held
  payLamports _ _ pay credit := by
    obtain ⟨_, _, _, rfl⟩ := subLamports_ok.mp pay
    obtain rfl := addLamports_ok.mp credit
    exact of_data rfl

end Standing

/-! ## What is left alone -/

/-- Only accounts that may be written change. -/
structure Footprint (Writable : K → Prop) (l l' : Ledger K D) : Prop where
  data : ∀ k, ¬ Writable k → l'.data k = l.data k
  lamports : ∀ k, ¬ Writable k → l'.lamports k = l.lamports k

namespace Footprint
variable {Writable : K → Prop} {l m l' : Ledger K D} {key src dst : K}

omit [DecidableEq K] in
theorem refl (l : Ledger K D) : Footprint Writable l l := ⟨fun _ _ => rfl, fun _ _ => rfl⟩

omit [DecidableEq K] in
theorem trans (first : Footprint Writable l m) (second : Footprint Writable m l') :
    Footprint Writable l l' where
  data k off := (second.data k off).trans (first.data k off)
  lamports k off := (second.lamports k off).trans (first.lamports k off)

theorem setData (l : Ledger K D) (value : AccountData K D) (writable : Writable key) :
    Footprint Writable l (l.setData key value) where
  data _ off := Ledger.setData_data_other _ _ _ fun same => off (same ▸ writable)
  lamports _ _ := rfl

theorem move (l : Ledger K D) (n : Nat) (pays : Writable src) (receives : Writable dst) :
    Footprint Writable l (l.move src dst n) where
  data _ _ := rfl
  lamports _ off := moveLamports_other _ _ (fun same => off (same ▸ pays)) fun same =>
    off (same ▸ receives)

theorem moveTokens (l : Ledger K D) (source destination : TokenAccount K) (n : Nat)
    (pays : Writable src) (receives : Writable dst) :
    Footprint Writable l (l.moveTokens src dst source destination n) := by
  unfold Ledger.moveTokens
  split
  · exact refl l
  · have settled := (setData l (.token { source with amount := source.amount - n }) pays).trans
      (setData _ (.token { destination with amount := destination.amount + n }) receives)
    split
    · exact settled.trans (move _ n pays receives)
    · exact settled

theorem setLamports (l : Ledger K D) (n : Nat) (writable : Writable key) :
    Footprint Writable l (l.setLamports key n) where
  data _ _ := rfl
  lamports k off := by
    have other : k ≠ key := fun same => off (same ▸ writable)
    simp [other]

theorem topUp {host : Host K} {signers : List K} {len : Nat} (payer : Writable src)
    (account : Writable dst)
    (h : (topUp host signers src dst len l : Except (Fault ε) _) = .ok l') :
    Footprint Writable l l' where
  data k _ := congrFun (topUp_data h) k
  lamports _ off := topUp_other h (fun same => off (same ▸ payer)) fun same => off (same ▸ account)

/-- Operations change no other accounts than those they are given. -/
theorem operational {host : Host K} {Named : K → Prop} :
    Operational ε host Named Writable (Footprint (D := D) Writable) where
  refl := refl
  trans := trans
  systemTransfer pays receives h := by
    obtain ⟨_, _, _, rfl⟩ := systemTransfer_ok.mp h
    exact move _ _ pays receives
  transferChecked pays receives h := by
    obtain ⟨_, _, _, _, _, _, _, _, _, _, rfl⟩ := transferChecked_ok.mp h
    exact moveTokens _ _ _ _ pays receives
  syncNative account h := by
    obtain ⟨_, _, _, _, _, _, rfl⟩ := syncNative_ok.mp h
    exact setData _ _ account
  createAccount payer account h := topUp payer account (createAccount_ok.mp h).2
  initIfNeeded payer ata h := by
    simp only [Accounts.initIfNeeded, bind_ok, requireThat_ok, pure_ok, exists_const] at h
    obtain ⟨created, missing, _, _, _, rfl⟩ := h
    unfold createIfMissing at missing
    split at missing
    · obtain ⟨_, _, _, funded, paid, rfl⟩ := createAssociatedTokenAccount_ok.mp missing
      exact (topUp payer ata paid).trans (setData _ _ ata)
    · rw [pure_ok.mp missing]
      exact refl _
  closeAccount _ account destination h := by
    obtain ⟨_, _, _, _, _, _, _, rfl⟩ := closeAccount_ok.mp h
    exact (move _ _ account destination).trans (setData _ _ account)
  writeProgram _ account h := by
    obtain ⟨_, rfl⟩ := writeProgram_ok.mp h
    exact setData _ _ account
  closeProgram _ account destination h := by
    obtain ⟨_, _, _, rfl⟩ := closeProgram_ok.mp h
    exact (move _ _ account destination).trans (setData _ _ account)
  payLamports pays receives pay credit := by
    obtain ⟨_, _, _, rfl⟩ := subLamports_ok.mp pay
    obtain rfl := addLamports_ok.mp credit
    exact (setLamports _ _ pays).trans (setLamports _ _ receives)

end Footprint
end CrossChainEscrow.Library.Accounts
