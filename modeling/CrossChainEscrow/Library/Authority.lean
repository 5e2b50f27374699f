import Mathlib.Logic.Relation
import CrossChainEscrow.Library.LedgerOps

/-!
# What a set of authorities can do to a ledger

`Action` is one successful ledger operation authorised by a key of `A`, and
`Actions` a sequence of them. `Confined` is the frame such a sequence leaves
untouched: program accounts outside `A`, token accounts whose owner is outside
`A`, and unallocated addresses that no key of `A` controls keep what they have
and lose neither lamports nor tokens. It is a preorder that grows with `A`, so
the frame of a whole instruction, or of any activity outside the programs under
study, is one application of a rule below.
-/

namespace CrossChainEscrow.Library.Accounts

variable {K D ε : Type} [DecidableEq K]

/-- One ledger operation authorised by a key of `A`. -/
inductive Action (host : Host K) (A : K → Prop) : Ledger K D → Ledger K D → Prop
  | transferLamports {l : Ledger K D} {src dst : K} {n : Nat}
      (plain : l.data src = .empty) (authorised : A src) :
      Action host A l (l.move src dst n)
  | transferTokens {l : Ledger K D} {src dst : K} {source destination : TokenAccount K} {n : Nat}
      (loaded : l.data src = .token source) (loadedTo : l.data dst = .token destination)
      (programs : source.program = destination.program) (mints : source.mint = destination.mint)
      (enough : n ≤ source.amount) (authorised : A source.owner) :
      Action host A l (l.moveTokens src dst source destination n)
  | closeToken {l : Ledger K D} {account destination : K} {source : TokenAccount K}
      (loaded : l.data account = .token source) (distinct : account ≠ destination)
      (authorised : A source.owner) :
      Action host A l ((l.move account destination (l.lamports account)).setData account .empty)
  | syncNative {l : Ledger K D} {account : K} {wrapped : TokenAccount K} {reserve : Nat}
      (loaded : l.data account = .token wrapped) (native : wrapped.isNative = some reserve)
      (grows : reserve + wrapped.amount ≤ l.lamports account) :
      Action host A l (l.setData account
        (.token { wrapped with amount := l.lamports account - reserve }))
  | createToken {l : Ledger K D} {account wallet mint : K} {program : TokenProgram}
      (unused : l.data account = .empty)
      (derived : account = host.associatedTokenAddress wallet program mint)
      (owned : host.mintProgram mint = some program)
      (rentExempt : host.minimumBalance (host.tokenAccountLen mint) ≤ l.lamports account) :
      Action host A l (l.setData account
        (.token (host.newTokenAccount wallet program mint (l.lamports account))))
  | writeProgram {l : Ledger K D} {account : K} {value : D}
      (free : l.tokenAt account = none) (authorised : A account) :
      Action host A l (l.setData account (.program value))
  | subLamports {l : Ledger K D} {account : K} {value : D} {n : Nat}
      (owned : l.data account = .program value) (authorised : A account) :
      Action host A l (l.setLamports account (l.lamports account - n))
  | addLamports {l : Ledger K D} {account : K} {n : Nat} :
      Action host A l (l.setLamports account (l.lamports account + n))
  | closeProgram {l : Ledger K D} {account destination : K} {value : D}
      (owned : l.data account = .program value) (authorised : A account) :
      Action host A l ((l.move account destination (l.lamports account)).setData account .empty)

abbrev Actions (host : Host K) (A : K → Prop) : Ledger K D → Ledger K D → Prop :=
  Relation.ReflTransGen (Action host A)

/-! ## Token transfers at one address -/

section MoveTokens
variable {l : Ledger K D} {src dst k : K} {source destination : TokenAccount K} {n : Nat}

theorem Ledger.moveTokens_data_other (notSrc : k ≠ src) (notDst : k ≠ dst) :
    (l.moveTokens src dst source destination n).data k = l.data k := by
  unfold Ledger.moveTokens
  split
  · rfl
  · split <;> simp [notSrc, notDst]

theorem Ledger.moveTokens_data_dst (distinct : src ≠ dst) :
    (l.moveTokens src dst source destination n).data dst =
      .token { destination with amount := destination.amount + n } := by
  unfold Ledger.moveTokens
  rw [if_neg distinct]
  split <;> simp

theorem Ledger.moveTokens_data_src (distinct : src ≠ dst) :
    (l.moveTokens src dst source destination n).data src =
      .token { source with amount := source.amount - n } := by
  unfold Ledger.moveTokens
  rw [if_neg distinct]
  split <;> simp [distinct]

theorem Ledger.le_moveTokens_lamports (other : k ≠ src) :
    l.lamports k ≤ (l.moveTokens src dst source destination n).lamports k := by
  unfold Ledger.moveTokens
  split
  · exact Nat.le_refl _
  · split
    · exact le_moveLamports _ n other
    · exact Nat.le_refl _

theorem Ledger.moveTokens_lamports_src (distinct : src ≠ dst) :
    (l.moveTokens src dst source destination n).lamports src =
      if source.isNative.isSome then l.lamports src - n else l.lamports src := by
  unfold Ledger.moveTokens
  rw [if_neg distinct]
  split
  · exact moveLamports_src _ n distinct
  · rfl

theorem Ledger.moveTokens_lamports_dst (distinct : src ≠ dst) :
    (l.moveTokens src dst source destination n).lamports dst =
      if source.isNative.isSome then l.lamports dst + n else l.lamports dst := by
  unfold Ledger.moveTokens
  rw [if_neg distinct]
  split
  · exact moveLamports_dst _ n distinct
  · rfl

end MoveTokens

/-! ## The frame of a set of authorities -/

/-- The token account stands at the associated address of its own owner,
program and mint. -/
def Host.FormedAt (host : Host K) (address : K) (account : TokenAccount K) : Prop :=
  address = host.associatedTokenAddress account.owner account.program account.mint

/-- A key of `A` decides over the account at `address`: over program data the
address itself, over a token account its owner, over an unallocated address
the address or the wallet it is the associated token address of. -/
def Ledger.ControlledBy (host : Host K) (A : K → Prop) (l : Ledger K D) (address : K) : Prop :=
  match l.data address with
  | .program _ => A address
  | .token account => A account.owner
  | .empty => A address ∨ ∃ wallet program mint,
      address = host.associatedTokenAddress wallet program mint ∧ A wallet

/-- What stays when only the keys of `A` may authorise operations. -/
structure Confined (host : Host K) (A : K → Prop) (l l' : Ledger K D) : Prop where
  lamports : ∀ a, ¬ l.ControlledBy host A a → l.lamports a ≤ l'.lamports a
  program : ∀ a value, l.data a = .program value → ¬ A a → l'.data a = .program value
  token : ∀ a account, l.data a = .token account → ¬ A account.owner →
    ∃ amount, account.amount ≤ amount ∧ l'.data a = .token { account with amount }
  unallocated : ∀ a, l.data a = .empty → ¬ l.ControlledBy host A a →
    l'.data a = .empty ∨ ∃ account, l'.data a = .token account ∧ host.FormedAt a account
  origin : ∀ a value, ¬ A a → l'.data a = .program value → l.data a = .program value

omit [DecidableEq K] in
theorem Confined.refl (host : Host K) (A : K → Prop) (l : Ledger K D) : Confined host A l l where
  lamports _ _ := Nat.le_refl _
  program _ _ loaded _ := loaded
  token _ account loaded _ := ⟨account.amount, Nat.le_refl _, loaded⟩
  unallocated _ unused _ := Or.inl unused
  origin _ _ _ loaded := loaded

omit [DecidableEq K] in
/-- An address that no key of `A` controls stays uncontrolled. -/
theorem Confined.uncontrolled {host : Host K} {A : K → Prop} {l l' : Ledger K D}
    (h : Confined host A l l') {a : K} (outside : ¬ l.ControlledBy host A a) :
    ¬ l'.ControlledBy host A a := by
  intro controlled
  cases before : l.data a with
  | program value =>
    have outsideA : ¬ A a := by simpa [Ledger.ControlledBy, before] using outside
    have after := h.program a value before outsideA
    exact outsideA (by simpa [Ledger.ControlledBy, after] using controlled)
  | token account =>
    have outsideA : ¬ A account.owner := by simpa [Ledger.ControlledBy, before] using outside
    obtain ⟨amount, _, after⟩ := h.token a account before outsideA
    exact outsideA (by simpa [Ledger.ControlledBy, after] using controlled)
  | empty =>
    rcases h.unallocated a before outside with after | ⟨account, after, formed⟩
    · exact outside (by simpa [Ledger.ControlledBy, before, after] using controlled)
    · have owner : A account.owner := by simpa [Ledger.ControlledBy, after] using controlled
      refine outside ?_
      simp only [Ledger.ControlledBy, before]
      exact Or.inr ⟨_, _, _, formed, owner⟩

omit [DecidableEq K] in
theorem Confined.trans {host : Host K} {A : K → Prop} {l m r : Ledger K D}
    (first : Confined host A l m) (second : Confined host A m r) : Confined host A l r where
  lamports a outside :=
    Nat.le_trans (first.lamports a outside) (second.lamports a (first.uncontrolled outside))
  program a value loaded outside :=
    second.program a value (first.program a value loaded outside) outside
  token a account loaded outside := by
    obtain ⟨amount, grown, kept⟩ := first.token a account loaded outside
    obtain ⟨amount', grown', kept'⟩ := second.token a _ kept outside
    exact ⟨amount', Nat.le_trans grown grown', kept'⟩
  unallocated a unused outside := by
    have later := first.uncontrolled outside
    rcases first.unallocated a unused outside with unchanged | ⟨account, created, formed⟩
    · exact second.unallocated a unchanged later
    · have owner : ¬ A account.owner := by simpa [Ledger.ControlledBy, created] using later
      obtain ⟨amount, _, kept⟩ := second.token a account created owner
      exact Or.inr ⟨_, kept, formed⟩
  origin a value outside loaded :=
    first.origin a value outside (second.origin a value outside loaded)

omit [DecidableEq K] in
/-- Lamport movements alone are confined when only a controlled address pays. -/
theorem Confined.of_same_data {host : Host K} {A : K → Prop} {l l' : Ledger K D} (payer : K)
    (same : l'.data = l.data) (controlled : l.ControlledBy host A payer)
    (more : ∀ a, a ≠ payer → l.lamports a ≤ l'.lamports a) : Confined host A l l' where
  lamports a outside := more a (fun equal => outside (equal ▸ controlled))
  program a value loaded _ := by rw [same]; exact loaded
  token a account loaded _ := ⟨account.amount, Nat.le_refl _, by rw [same]; exact loaded⟩
  unallocated a unused _ := Or.inl (by rw [same]; exact unused)
  origin a value _ loaded := by rw [← same]; exact loaded

/-- An update at one controlled address, which pays all lamports that leave, is
confined unless it plants program data outside `A`. -/
theorem Confined.of_update {host : Host K} {A : K → Prop} {l l' : Ledger K D} (account : K)
    (controlled : l.ControlledBy host A account)
    (same : ∀ a, a ≠ account → l'.data a = l.data a)
    (more : ∀ a, a ≠ account → l.lamports a ≤ l'.lamports a)
    (planted : ∀ value, l'.data account = .program value → A account) :
    Confined host A l l' where
  lamports a outside := more a (fun equal => outside (equal ▸ controlled))
  program a value loaded outside := by
    have other : a ≠ account := by
      rintro rfl
      exact outside (by simpa [Ledger.ControlledBy, loaded] using controlled)
    rw [same a other]
    exact loaded
  token a token loaded outside := by
    have other : a ≠ account := by
      rintro rfl
      exact outside (by simpa [Ledger.ControlledBy, loaded] using controlled)
    exact ⟨token.amount, Nat.le_refl _, by rw [same a other]; exact loaded⟩
  unallocated a unused outside := by
    have other : a ≠ account := fun equal => outside (equal ▸ controlled)
    exact Or.inl (by rw [same a other]; exact unused)
  origin a value outside loaded := by
    by_cases h : a = account
    · subst a
      exact absurd (planted value loaded) outside
    · rw [← same a h]
      exact loaded

section Frame
variable {host : Host K} {A : K → Prop} {l l' : Ledger K D}

theorem confined_transferTokens {src dst : K} {source destination : TokenAccount K} {n : Nat}
    (loaded : l.data src = .token source) (loadedTo : l.data dst = .token destination)
    (authorised : A source.owner) :
    Confined host A l (l.moveTokens src dst source destination n) := by
  by_cases self : src = dst
  · rw [Ledger.moveTokens, if_pos self]
    exact Confined.refl host A l
  have controlled : l.ControlledBy host A src := by simpa [Ledger.ControlledBy, loaded] using authorised
  have data : ∀ a, a ≠ src → (l.moveTokens src dst source destination n).data a = l.data a ∨
      (a = dst ∧ (l.moveTokens src dst source destination n).data a =
        .token { destination with amount := destination.amount + n }) := by
    intro a other
    by_cases h : a = dst
    · subst a
      exact Or.inr ⟨rfl, Ledger.moveTokens_data_dst self⟩
    · exact Or.inl (Ledger.moveTokens_data_other other h)
  refine ⟨fun a outside => ?_, fun a value before _ => ?_, fun a account before outside => ?_,
    fun a unused outside => ?_, fun a value _ after => ?_⟩
  · exact Ledger.le_moveTokens_lamports (fun equal => outside (equal ▸ controlled))
  · have notSrc : a ≠ src := by
      rintro rfl
      rw [loaded] at before
      cases before
    rcases data a notSrc with kept | ⟨rfl, _⟩
    · exact kept.trans before
    · rw [loadedTo] at before
      cases before
  · have notSrc : a ≠ src := by
      rintro rfl
      rw [loaded] at before
      cases before
      exact outside authorised
    rcases data a notSrc with kept | ⟨rfl, kept⟩
    · exact ⟨account.amount, Nat.le_refl _, kept.trans before⟩
    · rw [loadedTo] at before
      cases before
      exact ⟨_, Nat.le_add_right _ n, kept⟩
  · have notSrc : a ≠ src := by
      rintro rfl
      rw [loaded] at unused
      cases unused
    rcases data a notSrc with kept | ⟨rfl, _⟩
    · exact Or.inl (kept.trans unused)
    · rw [loadedTo] at unused
      cases unused
  · by_cases h : a = src
    · subst a
      rw [Ledger.moveTokens_data_src self] at after
      cases after
    · rcases data a h with kept | ⟨rfl, kept⟩
      · exact kept.symm.trans after
      · rw [kept] at after
        cases after

theorem confined_syncNative {account : K} {wrapped : TokenAccount K} {n : Nat}
    (loaded : l.data account = .token wrapped) (grows : wrapped.amount ≤ n) :
    Confined host A l (l.setData account (.token { wrapped with amount := n })) := by
  refine ⟨fun _ _ => Nat.le_refl _, fun a value before _ => ?_, fun a token before _ => ?_,
    fun a unused _ => ?_, fun a value _ after => ?_⟩
  · have other : a ≠ account := by
      rintro rfl
      rw [loaded] at before
      cases before
    simpa [other] using before
  · by_cases h : a = account
    · subst a
      rw [loaded] at before
      cases before
      exact ⟨n, grows, by simp⟩
    · exact ⟨token.amount, Nat.le_refl _, by simpa [h] using before⟩
  · have other : a ≠ account := by
      rintro rfl
      rw [loaded] at unused
      cases unused
    exact Or.inl (by simpa [other] using unused)
  · by_cases h : a = account
    · subst a
      simp at after
    · simpa [h] using after

theorem Host.newTokenAccount_formed (host : Host K) (wallet mint : K) (program : TokenProgram)
    (lamports : Nat) : host.FormedAt (host.associatedTokenAddress wallet program mint)
      (host.newTokenAccount wallet program mint lamports) := by
  unfold Host.FormedAt Host.newTokenAccount
  split <;> rfl

theorem confined_createToken {account wallet mint : K} {program : TokenProgram}
    (unused : l.data account = .empty)
    (derived : account = host.associatedTokenAddress wallet program mint) :
    Confined host A l (l.setData account
      (.token (host.newTokenAccount wallet program mint (l.lamports account)))) := by
  have other : ∀ a, l.data a ≠ .empty → a ≠ account := by
    rintro a used rfl
    exact used unused
  refine ⟨fun _ _ => Nat.le_refl _, fun a value before _ => ?_, fun a token before _ => ?_,
    fun a before _ => ?_, fun a value _ after => ?_⟩
  · simpa [other a (by simp [before])] using before
  · exact ⟨token.amount, Nat.le_refl _, by simpa [other a (by simp [before])] using before⟩
  · by_cases h : a = account
    · subst a
      refine Or.inr ⟨_, Ledger.setData_data_self _ _ _, ?_⟩
      rw [derived]
      exact host.newTokenAccount_formed wallet mint program _
    · exact Or.inl (by simpa [h] using before)
  · by_cases h : a = account
    · subst a
      simp at after
    · simpa [h] using after

/-- Every authorised operation is confined to its authorities. -/
theorem Action.confined (h : Action host A l l') : Confined host A l l' := by
  cases h with
  | @transferLamports src dst n plain authorised =>
    refine Confined.of_same_data src rfl ?_ (fun a other => le_moveLamports _ n other)
    simp only [Ledger.ControlledBy, plain]
    exact Or.inl authorised
  | transferTokens loaded loadedTo _ _ _ authorised =>
    exact confined_transferTokens loaded loadedTo authorised
  | @closeToken account destination source loaded _ authorised =>
    refine Confined.of_update account ?_ ?_ ?_ ?_
    · simpa [Ledger.ControlledBy, loaded] using authorised
    · intro a other
      simp [other]
    · intro a other
      exact le_moveLamports _ _ other
    · intro value planted
      simp at planted
  | syncNative loaded native grows =>
    exact confined_syncNative loaded (by omega)
  | createToken unused derived _ _ => exact confined_createToken unused derived
  | @writeProgram account value free authorised =>
    have controlled : l.ControlledBy host A account := by
      cases before : l.data account with
      | token token => simp [Ledger.tokenAt, before] at free
      | program _ => simpa [Ledger.ControlledBy, before] using authorised
      | empty => simp only [Ledger.ControlledBy, before]; exact Or.inl authorised
    exact Confined.of_update account controlled (fun a other => by simp [other])
      (fun _ _ => Nat.le_refl _) (fun _ _ => authorised)
  | @subLamports account value n owned authorised =>
    refine Confined.of_same_data account rfl ?_ (fun a other => by simp [other])
    simpa [Ledger.ControlledBy, owned] using authorised
  | @addLamports account n =>
    refine ⟨fun a _ => ?_, fun _ _ loaded _ => loaded,
      fun _ account loaded _ => ⟨account.amount, Nat.le_refl _, loaded⟩,
      fun _ unused _ => Or.inl unused, fun _ _ _ loaded => loaded⟩
    by_cases h : a = account
    · subst a
      simp
    · simp [h]
  | @closeProgram account destination value owned authorised =>
    refine Confined.of_update account ?_ (fun a other => by simp [other])
      (fun a other => le_moveLamports _ _ other) ?_
    · simpa [Ledger.ControlledBy, owned] using authorised
    · intro value planted
      simp at planted

theorem Actions.confined (h : Actions host A l l') : Confined host A l l' := by
  induction h with
  | refl => exact Confined.refl host A l
  | tail _ step ih => exact ih.trans step.confined

end Frame

/-! ## Soundness of wrapped accounts and of associated addresses -/

/-- A token account belongs to the program of its mint, is wrapped exactly when
the mint is native, and then counts as tokens only lamports above its reserve. -/
structure SoundToken (host : Host K) (account : TokenAccount K) (lamports : Nat) : Prop where
  program : host.mintProgram account.mint = some account.program
  native : account.isNative.isSome = true ↔ account.mint = host.nativeMint account.program
  backed : ∀ reserve, account.isNative = some reserve → reserve + account.amount ≤ lamports

omit [DecidableEq K] in
theorem SoundToken.grow {host : Host K} {account : TokenAccount K} {n m : Nat}
    (sound : SoundToken host account n) (more : n ≤ m) : SoundToken host account m :=
  ⟨sound.program, sound.native, fun reserve wrapped =>
    Nat.le_trans (sound.backed reserve wrapped) more⟩

/-- Every token account is sound. -/
def TokenSound (host : Host K) (l : Ledger K D) : Prop :=
  ∀ a account, l.data a = .token account → SoundToken host account (l.lamports a)

/-- Token accounts at associated addresses of `wallet` are the wallet's own. -/
def AssociatedSound (host : Host K) (wallet : K) (l : Ledger K D) : Prop :=
  ∀ program mint account, l.data (host.associatedTokenAddress wallet program mint) = .token account →
    account.owner = wallet ∧ account.program = program ∧ account.mint = mint

section Soundness
variable {host : Host K} {A : K → Prop} {l l' : Ledger K D}

omit [DecidableEq K] in
theorem TokenSound.of_same_data (sound : TokenSound host l) (same : l'.data = l.data)
    (more : ∀ a account, l.data a = .token account → l.lamports a ≤ l'.lamports a) :
    TokenSound host l' := by
  intro a account loaded
  rw [same] at loaded
  exact (sound a account loaded).grow (more a account loaded)

/-- Replacing the data at one address keeps soundness when the new account is
sound there and no other token account pays. -/
theorem TokenSound.of_update (sound : TokenSound host l) (address : K)
    (same : ∀ a, a ≠ address → l'.data a = l.data a)
    (more : ∀ a account, a ≠ address → l.data a = .token account → l.lamports a ≤ l'.lamports a)
    (here : ∀ account, l'.data address = .token account →
      SoundToken host account (l'.lamports address)) :
    TokenSound host l' := by
  intro a account loaded
  by_cases h : a = address
  · subst a
    exact here account loaded
  · rw [same a h] at loaded
    exact (sound a account loaded).grow (more a account h loaded)

theorem TokenSound.transferTokens (sound : TokenSound host l) {src dst : K}
    {source destination : TokenAccount K} {n : Nat} (loaded : l.data src = .token source)
    (loadedTo : l.data dst = .token destination)
    (programs : source.program = destination.program) (mints : source.mint = destination.mint)
    (enough : n ≤ source.amount) :
    TokenSound host (l.moveTokens src dst source destination n) := by
  by_cases self : src = dst
  · rw [Ledger.moveTokens, if_pos self]
    exact sound
  obtain ⟨program, native, backed⟩ := sound src source loaded
  obtain ⟨programTo, nativeTo, backedTo⟩ := sound dst destination loadedTo
  have both : destination.isNative.isSome = true ↔ source.isNative.isSome = true := by
    rw [native, nativeTo, programs, mints]
  intro a account after
  by_cases hs : a = src
  · subst a
    rw [Ledger.moveTokens_data_src self] at after
    cases after
    refine ⟨program, native, fun reserve wrapped => ?_⟩
    have before := backed reserve wrapped
    have isSome : source.isNative.isSome = true := by simp_all
    rw [Ledger.moveTokens_lamports_src self, if_pos isSome]
    simp only
    omega
  · by_cases hd : a = dst
    · subst a
      rw [Ledger.moveTokens_data_dst self] at after
      cases after
      refine ⟨programTo, nativeTo, fun reserve wrapped => ?_⟩
      have before := backedTo reserve wrapped
      have isSome : source.isNative.isSome = true := both.mp (by simp_all)
      rw [Ledger.moveTokens_lamports_dst self, if_pos isSome]
      simp only
      omega
    · rw [Ledger.moveTokens_data_other hs hd] at after
      exact (sound a account after).grow (Ledger.le_moveTokens_lamports hs)

theorem Action.tokenSound (h : Action host A l l') (sound : TokenSound host l) :
    TokenSound host l' := by
  cases h with
  | @transferLamports src dst n plain _ =>
    refine sound.of_same_data rfl (fun a account loaded => le_moveLamports _ n ?_)
    rintro rfl
    rw [plain] at loaded
    cases loaded
  | transferTokens loaded loadedTo programs mints enough _ =>
    exact sound.transferTokens loaded loadedTo programs mints enough
  | @closeToken account destination source _ _ _ =>
    refine sound.of_update account (fun a other => by simp [other])
      (fun a _ other _ => le_moveLamports _ _ other) ?_
    intro closed after
    simp at after
  | @syncNative account wrapped reserve loaded native grows =>
    refine sound.of_update account (fun a other => by simp [other])
      (fun _ _ _ _ => Nat.le_refl _) ?_
    intro synced after
    simp only [Ledger.setData_data_self, AccountData.token.injEq] at after
    subst synced
    have before := sound account wrapped loaded
    refine ⟨before.program, before.native, fun other same => ?_⟩
    have equal : reserve = other := by simpa [native] using same
    simp only [Ledger.setData_lamports]
    omega
  | @createToken account wallet mint program _ _ owned rentExempt =>
    refine sound.of_update account (fun a other => by simp [other])
      (fun _ _ _ _ => Nat.le_refl _) ?_
    intro created after
    simp only [Ledger.setData_data_self, AccountData.token.injEq] at after
    subst created
    unfold Host.newTokenAccount
    split
    · next wrapped =>
      refine ⟨owned, by simp [wrapped], fun reserve same => ?_⟩
      simp only [Option.some.injEq] at same
      simp only [Ledger.setData_lamports]
      omega
    · next plain => exact ⟨owned, by simp [plain], fun reserve same => by cases same⟩
  | @writeProgram account value _ _ =>
    refine sound.of_update account (fun a other => by simp [other])
      (fun _ _ _ _ => Nat.le_refl _) ?_
    intro written after
    simp at after
  | @subLamports account value n owned _ =>
    refine sound.of_same_data rfl (fun a token loaded => ?_)
    have other : a ≠ account := by
      rintro rfl
      rw [owned] at loaded
      cases loaded
    simp [other]
  | @addLamports account n =>
    refine sound.of_same_data rfl (fun a token _ => ?_)
    by_cases h : a = account
    · subst a
      simp
    · simp [h]
  | @closeProgram account destination value _ _ =>
    refine sound.of_update account (fun a other => by simp [other])
      (fun a _ other _ => le_moveLamports _ _ other) ?_
    intro closed after
    simp at after

theorem Actions.tokenSound (h : Actions host A l l') (sound : TokenSound host l) :
    TokenSound host l' := by
  induction h with
  | refl => exact sound
  | tail _ step ih => exact step.tokenSound ih

/-- Operations never change the owner, mint or program of a token account, and
new ones are created where they belong. -/
theorem Action.associatedSound (free : host.CollisionFree) {wallet : K}
    (h : Action host A l l') (sound : AssociatedSound host wallet l) :
    AssociatedSound host wallet l' := by
  intro program mint account after
  cases h with
  | transferLamports => exact sound program mint account after
  | @transferTokens src dst source destination n loaded loadedTo _ _ _ _ =>
    by_cases self : src = dst
    · rw [Ledger.moveTokens, if_pos self] at after
      exact sound program mint account after
    · by_cases hs : host.associatedTokenAddress wallet program mint = src
      · rw [hs, Ledger.moveTokens_data_src self] at after
        cases after
        exact sound program mint source (by rw [hs]; exact loaded)
      · by_cases hd : host.associatedTokenAddress wallet program mint = dst
        · rw [hd, Ledger.moveTokens_data_dst self] at after
          cases after
          exact sound program mint destination (by rw [hd]; exact loadedTo)
        · rw [Ledger.moveTokens_data_other hs hd] at after
          exact sound program mint account after
  | @closeToken closed _ _ _ _ _ =>
    by_cases same : host.associatedTokenAddress wallet program mint = closed
    · rw [same] at after
      simp at after
    · rw [Ledger.setData_data_other _ _ _ same] at after
      exact sound program mint account after
  | @syncNative synced wrapped reserve loaded _ _ =>
    by_cases same : host.associatedTokenAddress wallet program mint = synced
    · rw [same, Ledger.setData_data_self] at after
      cases after
      exact sound program mint wrapped (by rw [same]; exact loaded)
    · rw [Ledger.setData_data_other _ _ _ same] at after
      exact sound program mint account after
  | @createToken created owner mint' program' _ derived _ _ =>
    by_cases same : host.associatedTokenAddress wallet program mint = created
    · rw [same, Ledger.setData_data_self] at after
      cases after
      obtain ⟨rfl, rfl, rfl⟩ := free.associated_inj (same.trans derived)
      unfold Host.newTokenAccount
      split <;> exact ⟨rfl, rfl, rfl⟩
    · rw [Ledger.setData_data_other _ _ _ same] at after
      exact sound program mint account after
  | @writeProgram written _ _ _ =>
    by_cases same : host.associatedTokenAddress wallet program mint = written
    · rw [same] at after
      simp at after
    · rw [Ledger.setData_data_other _ _ _ same] at after
      exact sound program mint account after
  | subLamports => exact sound program mint account after
  | addLamports => exact sound program mint account after
  | @closeProgram closed _ _ _ _ =>
    by_cases same : host.associatedTokenAddress wallet program mint = closed
    · rw [same] at after
      simp at after
    · rw [Ledger.setData_data_other _ _ _ same] at after
      exact sound program mint account after

theorem Actions.associatedSound (free : host.CollisionFree) {wallet : K}
    (h : Actions host A l l') (sound : AssociatedSound host wallet l) :
    AssociatedSound host wallet l' := by
  induction h with
  | refl => exact sound
  | tail _ step ih => exact step.associatedSound free ih

omit [DecidableEq K] in
/-- A confined ledger keeps the associated accounts of a wallet outside `A`
that only holds token accounts or nothing there. -/
theorem Confined.associatedSound (free : host.CollisionFree) {wallet : K}
    (h : Confined host A l l') (outside : ¬ A wallet)
    (underived : ∀ program mint, ¬ A (host.associatedTokenAddress wallet program mint))
    (sound : AssociatedSound host wallet l) : AssociatedSound host wallet l' := by
  intro program mint account after
  cases before : l.data (host.associatedTokenAddress wallet program mint) with
  | program value =>
    rw [h.program _ value before (underived program mint)] at after
    cases after
  | token held =>
    obtain ⟨owner, rest⟩ := sound program mint held before
    obtain ⟨amount, _, kept⟩ := h.token _ held before (by rw [owner]; exact outside)
    rw [kept] at after
    cases after
    exact ⟨owner, rest⟩
  | empty =>
    have uncontrolled : ¬ l.ControlledBy host A
        (host.associatedTokenAddress wallet program mint) := by
      simp only [Ledger.ControlledBy, before]
      rintro (direct | ⟨other, _, _, same, auth⟩)
      · exact underived program mint direct
      · exact outside ((free.associated_inj same).1 ▸ auth)
    rcases h.unallocated _ before uncontrolled with unused | ⟨created, kept, formed⟩
    · rw [unused] at after
      cases after
    · rw [kept] at after
      cases after
      obtain ⟨owner, programs, mints⟩ := free.associated_inj formed
      exact ⟨owner.symm, programs.symm, mints.symm⟩

end Soundness

/-! ## The operations are authorised by their signers -/

section Operations
variable {host : Host K} {A : K → Prop} {signers : List K} {program : TokenProgram}
  {src dst mint authority account destination payer wallet : K} {n len : Nat} {l l' : Ledger K D}

theorem systemTransfer_actions (signed : ∀ k ∈ signers, A k)
    (h : (systemTransfer signers src dst n l : Except (Fault ε) _) = .ok l') :
    Actions host A l l' := by
  obtain ⟨member, plain, _, rfl⟩ := systemTransfer_ok.mp h
  exact .single (.transferLamports plain (signed _ member))

theorem transferChecked_actions (signed : ∀ k ∈ signers, A k)
    (h : (transferChecked signers program src mint dst authority n l : Except (Fault ε) _)
      = .ok l') : Actions host A l l' := by
  obtain ⟨source, loaded, destination, loadedTo, ⟨hp, hp'⟩, ⟨hm, hm'⟩, owner, member, enough, _,
    rfl⟩ := transferChecked_ok.mp h
  exact .single (.transferTokens loaded loadedTo (hp.trans hp'.symm) (hm.trans hm'.symm) enough
    (by rw [owner]; exact signed _ member))

theorem closeAccount_actions (signed : ∀ k ∈ signers, A k)
    (h : (closeAccount signers program account destination authority l : Except (Fault ε) _)
      = .ok l') : Actions host A l l' := by
  obtain ⟨source, loaded, _, distinct, _, owner, member, rfl⟩ := closeAccount_ok.mp h
  exact .single (.closeToken loaded distinct (by rw [owner]; exact signed _ member))

theorem syncNative_actions
    (h : (syncNative program account l : Except (Fault ε) _) = .ok l') :
    Actions host A l l' := by
  obtain ⟨wrapped, loaded, _, reserve, native, grows, rfl⟩ := syncNative_ok.mp h
  exact .single (.syncNative loaded native grows)

theorem topUp_actions (signed : ∀ k ∈ signers, A k)
    (h : (topUp host signers payer account len l : Except (Fault ε) _) = .ok l') :
    Actions host A l l' := by
  rcases topUp_ok.mp h with ⟨_, rfl⟩ | ⟨_, _, member, plain, _, rfl⟩
  · exact .refl
  · exact .single (.transferLamports plain (signed _ member))

theorem createAccount_actions (signed : ∀ k ∈ signers, A k)
    (h : (createAccount host signers payer account len l : Except (Fault ε) _) = .ok l') :
    Actions host A l l' :=
  topUp_actions signed (createAccount_ok.mp h).2

/-- After topping up, the address holds the rent-exempt minimum. -/
theorem topUp_funded
    (h : (topUp host signers payer account len l : Except (Fault ε) _) = .ok l') :
    host.minimumBalance len ≤ l'.lamports account := by
  rcases topUp_ok.mp h with ⟨enough, rfl⟩ | ⟨short, other, _, _, _, rfl⟩
  · exact enough
  · rw [Ledger.move_lamports, moveLamports_dst _ _ other]
    omega

theorem topUp_data (h : (topUp host signers payer account len l : Except (Fault ε) _) = .ok l') :
    l'.data = l.data := by
  rcases topUp_ok.mp h with ⟨_, rfl⟩ | ⟨_, _, _, _, _, rfl⟩
  · rfl
  · rfl

theorem createAssociatedTokenAccount_actions (signed : ∀ k ∈ signers, A k)
    (h : (createAssociatedTokenAccount host signers payer account wallet program mint l :
      Except (Fault ε) _) = .ok l') : Actions host A l l' := by
  obtain ⟨unused, derived, owned, funded, paid, rfl⟩ := createAssociatedTokenAccount_ok.mp h
  refine (topUp_actions signed paid).tail (.createToken ?_ derived owned (topUp_funded paid))
  rw [topUp_data paid]
  exact unused

theorem writeProgram_actions {value : D} (authorised : A account)
    (h : (writeProgram account value l : Except (Fault ε) _) = .ok l') :
    Actions host A l l' := by
  obtain ⟨free, rfl⟩ := writeProgram_ok.mp h
  exact .single (.writeProgram (Option.isNone_iff_eq_none.mp free) authorised)

theorem subLamports_actions (authorised : A account)
    (h : (subLamports account n l : Except (Fault ε) _) = .ok l') : Actions host A l l' := by
  obtain ⟨value, owned, _, rfl⟩ := subLamports_ok.mp h
  exact .single (.subLamports owned authorised)

theorem addLamports_actions
    (h : (addLamports account n l : Except (Fault ε) _) = .ok l') : Actions host A l l' := by
  rw [addLamports_ok.mp h]
  exact .single .addLamports

theorem closeProgram_actions (authorised : A account)
    (h : (closeProgram account destination l : Except (Fault ε) _) = .ok l') :
    Actions host A l l' := by
  obtain ⟨value, owned, _, rfl⟩ := closeProgram_ok.mp h
  exact .single (.closeProgram owned authorised)

end Operations

end CrossChainEscrow.Library.Accounts
