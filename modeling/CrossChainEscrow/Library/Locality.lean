import CrossChainEscrow.Library.Operations

/-!
# Computations that see only some accounts

A computation is local to some accounts when ledgers that agree on these send it to
ledgers that agree on these: it reads no others, and it fails or not by them alone.
Checks and operations are local to the accounts they are given, and locality
composes, so a program is local to the accounts its caller supplies. With a footprint
this gives commutation: computations commute when neither writes what the other sees.
-/

namespace CrossChainEscrow.Library.Accounts
open Words

variable {K D ε : Type} {A B V W : K → Prop}

theorem Ledger.eq_of {l m : Ledger K D} (data : ∀ k, l.data k = m.data k)
    (lamports : ∀ k, l.lamports k = m.lamports k) : l = m := by
  cases l
  cases m
  simp only [Ledger.mk.injEq]
  exact ⟨funext lamports, funext data⟩

/-- Ledgers that have the same of these accounts. -/
structure Agree (A : K → Prop) (l m : Ledger K D) : Prop where
  data : ∀ k, A k → m.data k = l.data k
  lamports : ∀ k, A k → m.lamports k = l.lamports k

namespace Agree
variable {l m l' m' : Ledger K D}

theorem symm (h : Agree A l m) : Agree A m l where
  data k member := (h.data k member).symm
  lamports k member := (h.lamports k member).symm

theorem tokenAt (h : Agree A l m) {k : K} (member : A k) : m.tokenAt k = l.tokenAt k := by
  simp only [Ledger.tokenAt, h.data k member]

theorem programAt (h : Agree A l m) {k : K} (member : A k) : m.programAt k = l.programAt k := by
  simp only [Ledger.programAt, h.data k member]

variable [DecidableEq K]

theorem setData (h : Agree A l m) (address : K) (data : AccountData K D) :
    Agree A (l.setData address data) (m.setData address data) where
  data k member := by
    by_cases same : k = address
    · subst k
      simp
    · simpa [same] using h.data k member
  lamports := h.lamports

theorem setLamports (h : Agree A l m) (address : K) (n : Nat) :
    Agree A (l.setLamports address n) (m.setLamports address n) where
  data := h.data
  lamports k member := by
    by_cases same : k = address
    · subst k
      simp
    · simpa [same] using h.lamports k member

theorem move (h : Agree A l m) (src dst : K) (n : Nat) :
    Agree A (l.move src dst n) (m.move src dst n) where
  data := h.data
  lamports k member := by
    have own := h.lamports k member
    by_cases isDst : k = dst
    · subst k
      by_cases self : dst = src
      · subst dst
        simp [moveLamports, own]
      · simp [moveLamports, self, own]
    · by_cases isSrc : k = src
      · subst k
        simp [moveLamports, isDst, own]
      · simp [moveLamports, isDst, isSrc, own]

theorem moveTokens (h : Agree A l m) (src dst : K) (source destination : TokenAccount K) (n : Nat) :
    Agree A (l.moveTokens src dst source destination n)
      (m.moveTokens src dst source destination n) := by
  unfold Ledger.moveTokens
  split
  · exact h
  · have settled := (h.setData src (.token { source with amount := source.amount - n })).setData dst
      (.token { destination with amount := destination.amount + n })
    split
    · exact settled.move src dst n
    · exact settled

end Agree

/-- What is read off these accounts alone. -/
def Reads {α : Type} (A : K → Prop) (read : Ledger K D → Except (Fault ε) α) : Prop :=
  ∀ l m, Agree A l m → read m = read l

/-- A computation that sees only these accounts. -/
def Local (A : K → Prop) (f : Ledger K D → Except (Fault ε) (Ledger K D)) : Prop :=
  ∀ l m l', Agree A l m → f l = .ok l' → ∃ m', f m = .ok m' ∧ Agree A l' m'

section Composition
variable {α β : Type} {f g : Ledger K D → Except (Fault ε) (Ledger K D)}

theorem Reads.const (result : Except (Fault ε) α) : Reads (D := D) A fun _ => result :=
  fun _ _ _ => rfl

theorem Reads.bind {first : Ledger K D → Except (Fault ε) α}
    {second : α → Ledger K D → Except (Fault ε) β} (reads : Reads A first)
    (then_ : ∀ a, Reads A (second a)) : Reads A fun l => first l >>= fun a => second a l := by
  intro l m agree
  simp only [reads l m agree]
  congr 1
  funext a
  exact then_ a l m agree

theorem Local.pure {update : Ledger K D → Ledger K D}
    (keeps : ∀ l m, Agree A l m → Agree A (update l) (update m)) :
    Local A fun l => (Pure.pure (update l) : Except (Fault ε) _) := by
  intro l m l' agree ran
  rw [pure_ok.mp ran]
  exact ⟨update m, rfl, keeps l m agree⟩

/-- One local computation after another. -/
theorem Local.bind (first : Local A f) (second : Local A g) : Local A fun l => f l >>= g := by
  intro l m l' agree ran
  obtain ⟨mid, ran, rest⟩ := bind_ok.mp ran
  obtain ⟨mid', ran', agree⟩ := first l m mid agree ran
  obtain ⟨m', rest', agree⟩ := second mid mid' l' agree rest
  exact ⟨m', bind_ok.mpr ⟨mid', ran', rest'⟩, agree⟩

/-- A local computation that depends on what was read before. -/
theorem Local.after {read : Ledger K D → Except (Fault ε) α}
    {next : α → Ledger K D → Except (Fault ε) (Ledger K D)} (reads : Reads A read)
    (then_ : ∀ a, Local A (next a)) : Local A fun l => read l >>= fun a => next a l := by
  intro l m l' agree ran
  obtain ⟨a, ran, rest⟩ := bind_ok.mp ran
  obtain ⟨m', rest', agree'⟩ := then_ a l m l' agree rest
  exact ⟨m', bind_ok.mpr ⟨a, (reads l m agree).trans ran, rest'⟩, agree'⟩

/-- A local computation with an argument that may be missing. -/
theorem Local.given {value : Option α} {fault : Fault ε}
    {next : α → Ledger K D → Except (Fault ε) (Ledger K D)} (then_ : ∀ a ∈ value, Local A (next a)) :
    Local A fun l => orFault value fault >>= fun a => next a l := by
  cases value with
  | none =>
    intro l m l' _ ran
    cases ran
  | some a => exact then_ a rfl

theorem Local.ite {condition : Prop} [Decidable condition] (yes : Local A f) (no : Local A g) :
    Local A fun l => if condition then f l else g l := by
  split
  · exact yes
  · exact no

end Composition

/-! ## Reading accounts -/

section Reading
variable {host : Host K} {address ata authority mint : K} {program : TokenProgram}

theorem Reads.lamports {bound : Nat} (member : A address) {fault : Fault ε} :
    Reads (D := D) A fun l => requireThat (bound ≤ l.lamports address) fault := by
  intro l m agree
  simp only [agree.lamports address member]

theorem Reads.loadToken (member : A address) :
    Reads (D := D) A fun l => (loadToken l address : Except (Fault ε) _) := by
  intro l m agree
  simp only [Accounts.loadToken, agree.tokenAt member]

theorem Reads.loadProgram (member : A address) :
    Reads (D := D) A fun l => (loadProgram l address : Except (Fault ε) _) := by
  intro l m agree
  simp only [Accounts.loadProgram, agree.programAt member]

theorem Reads.isEmpty (member : A address) {fault : Fault ε} :
    Reads (D := D) A fun l => requireThat ((l.data address).isEmpty = true) fault := by
  intro l m agree
  simp only [agree.data address member]

variable [DecidableEq K]

theorem Reads.loadAssociatedToken (member : A ata) :
    Reads (D := D) A fun l =>
      (loadAssociatedToken host ata authority program mint l : Except (Fault ε) _) :=
  (Reads.loadToken member).bind fun _ => .const _

theorem Reads.checkOptionalToken {ata : Option K} (member : ∀ key ∈ ata, A key) :
    Reads (D := D) A fun l =>
      (checkOptionalToken host ata authority program mint l : Except (Fault ε) _) := by
  cases ata with
  | none => exact .const _
  | some key => exact (Reads.loadAssociatedToken (member key rfl)).bind fun _ => .const _

end Reading

/-! ## Operations -/

section Operations
variable [DecidableEq K] {host : Host K} {signers : List K} {program : TokenProgram}
  {src dst mint authority account destination payer ata : K} {n len : Nat}

theorem Local.systemTransfer (pays : A src) :
    Local (D := D) A fun l => (systemTransfer signers src dst n l : Except (Fault ε) _) := by
  refine .after (.const _) fun _ => .after (.isEmpty pays) fun _ => .after (.lamports pays) fun _ => ?_
  exact .pure fun l m agree => agree.move src dst n

theorem Local.transferChecked (pays : A src) (receives : A dst) :
    Local (D := D) A fun l =>
      (transferChecked signers program src mint dst authority n l : Except (Fault ε) _) := by
  refine .after (.loadToken pays) fun source => .after (.loadToken receives) fun target => ?_
  refine .after (.const _) fun _ => .after (.const _) fun _ => .after (.const _) fun _ => ?_
  refine .after (.const _) fun _ => .after (.const _) fun _ => .after (fun l m agree => ?_) fun _ => ?_
  · simp only [agree.lamports src pays]
  · exact .pure fun l m agree => agree.moveTokens src dst source target n

theorem Local.closeAccount (closes : A account) :
    Local (D := D) A fun l =>
      (closeAccount signers program account destination authority l : Except (Fault ε) _) := by
  refine .after (.loadToken closes) fun source => .after (.const _) fun _ => ?_
  refine .after (.const _) fun _ => .after (.const _) fun _ => .after (.const _) fun _ => ?_
  refine .after (.const _) fun _ => .pure fun l m agree => ?_
  rw [agree.lamports account closes]
  exact (agree.move account destination _).setData account .empty

theorem Local.syncNative (member : A account) :
    Local (D := D) A fun l => (syncNative program account l : Except (Fault ε) _) := by
  refine .after (.loadToken member) fun wrapped => .after (.const _) fun _ => ?_
  refine .after (.const _) fun reserve => .after (.lamports member) fun _ => .pure fun l m agree => ?_
  rw [agree.lamports account member]
  exact agree.setData account _

theorem Local.topUp (pays : A payer) (member : A account) :
    Local (D := D) A fun l => (topUp host signers payer account len l : Except (Fault ε) _) := by
  intro l m l' agree ran
  simp only [Accounts.topUp, agree.lamports account member] at ran ⊢
  revert ran
  split
  · exact Local.pure (fun _ _ same => same) l m l' agree
  · split
    · intro failed
      cases failed
    · exact Local.systemTransfer pays l m l' agree

theorem Local.createAccount (pays : A payer) (member : A account) :
    Local (D := D) A fun l =>
      (createAccount host signers payer account len l : Except (Fault ε) _) :=
  .after (.isEmpty member) fun _ => .topUp pays member

theorem Local.createAssociatedTokenAccount {wallet : K} (pays : A payer) (member : A account) :
    Local (D := D) A fun l =>
      (createAssociatedTokenAccount host signers payer account wallet program mint l :
        Except (Fault ε) _) := by
  refine .after (.isEmpty member) fun _ => .after (.const _) fun _ => .after (.const _) fun _ => ?_
  refine .bind (.topUp pays member) (.pure fun l m agree => ?_)
  rw [agree.lamports account member]
  exact agree.setData account _

theorem Local.initIfNeeded (pays : A payer) (member : A ata) :
    Local (D := D) A fun l =>
      (initIfNeeded host signers payer ata authority program mint l : Except (Fault ε) _) := by
  refine .bind ?_ (.after (.loadAssociatedToken member) fun _ => .after (.const _) fun _ => ?_)
  · intro l m l' agree ran
    simp only [createIfMissing, agree.data ata member] at ran ⊢
    revert ran
    split
    · exact Local.createAssociatedTokenAccount pays member l m l' agree
    · exact Local.pure (fun _ _ same => same) l m l' agree
  · exact .pure fun _ _ same => same

theorem Local.writeProgram {value : D} (member : A account) :
    Local A fun l => (writeProgram account value l : Except (Fault ε) _) := by
  refine .after (fun l m agree => ?_) fun _ => .pure fun l m agree => agree.setData account _
  simp only [agree.tokenAt member]

theorem Local.subLamports (member : A account) :
    Local (D := D) A fun l => (subLamports account n l : Except (Fault ε) _) := by
  refine .after (.loadProgram member) fun _ => .after (.lamports member) fun _ => ?_
  refine .pure fun l m agree => ?_
  rw [agree.lamports account member]
  exact agree.setLamports account _

theorem Local.addLamports (member : A account) :
    Local (D := D) A fun l => (addLamports account n l : Except (Fault ε) _) := by
  refine .pure fun l m agree => ?_
  rw [agree.lamports account member]
  exact agree.setLamports account _

theorem Local.closeProgram (closes : A account) :
    Local (D := D) A fun l => (closeProgram account destination l : Except (Fault ε) _) := by
  refine .after (.loadProgram closes) fun _ => .after (.const _) fun _ => .pure fun l m agree => ?_
  rw [agree.lamports account closes]
  exact (agree.move account destination _).setData account .empty

end Operations

/-! ## Commutation -/

section Commutation
variable {f g : Ledger K D → Except (Fault ε) (Ledger K D)} {l m l' : Ledger K D}

theorem Footprint.agree (changed : Footprint W l m) (apart : ∀ k, A k → ¬ W k) : Agree A l m where
  data k member := changed.data k (apart k member)
  lamports k member := changed.lamports k (apart k member)

/-- Two computations commute when neither writes an account that the other sees. -/
theorem Local.commute (seesA : Local A f) (seesB : Local B g)
    (writesV : ∀ l l', f l = .ok l' → Footprint V l l')
    (writesW : ∀ l l', g l = .ok l' → Footprint W l l')
    (ownV : ∀ k, V k → A k) (ownW : ∀ k, W k → B k)
    (apartB : ∀ k, B k → ¬ V k) (apartA : ∀ k, A k → ¬ W k)
    (first : f l = .ok m) (second : g m = .ok l') : ∃ m', g l = .ok m' ∧ f m' = .ok l' := by
  have afterF := writesV l m first
  have afterG := writesW m l' second
  -- `g` sees the same before `f` as after it, and then `f` sees the same after `g`
  obtain ⟨m', early, agreeB⟩ := seesB m l l' (afterF.agree apartB).symm second
  have beforeG := writesW l m' early
  obtain ⟨n, late, agreeA⟩ := seesA l m' m (beforeG.agree apartA) first
  have beforeF := writesV m' n late
  refine ⟨m', early, late.trans (congrArg Except.ok ?_)⟩
  refine Ledger.eq_of (fun k => ?_) fun k => ?_
  · by_cases wrote : V k
    · rw [agreeA.data k (ownV k wrote), afterG.data k (apartA k (ownV k wrote))]
    · rw [beforeF.data k wrote]
      by_cases wroteToo : W k
      · exact agreeB.data k (ownW k wroteToo)
      · rw [beforeG.data k wroteToo, afterG.data k wroteToo, afterF.data k wrote]
  · by_cases wrote : V k
    · rw [agreeA.lamports k (ownV k wrote), afterG.lamports k (apartA k (ownV k wrote))]
    · rw [beforeF.lamports k wrote]
      by_cases wroteToo : W k
      · exact agreeB.lamports k (ownW k wroteToo)
      · rw [beforeG.lamports k wroteToo, afterG.lamports k wroteToo, afterF.lamports k wrote]

end Commutation
end CrossChainEscrow.Library.Accounts
