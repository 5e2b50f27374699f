import Mathlib.Data.Set.Basic
import CrossChainEscrow.Library.Validation

/-!
# The derivations that are made

A host of finitely many keys cannot keep all derivations apart, and need not: few are
ever made. `Host.idealise` answers these as the host does, and every other one by an
address off the chain. It keeps all derivations apart when the host keeps those that are
made apart, and no check or operation that makes only these tells the two hosts apart.
-/

namespace CrossChainEscrow.Library.Accounts
open Bytes

variable {K D ε : Type}

/-- The program and the seeds of an address. -/
abbrev Derivation (K : Type) := K × Seeds K

/-- No two of these derivations, with their bumps, give one address. -/
def Host.CollisionFreeOn (host : Host K) (made : Set (Derivation K)) : Prop :=
  ∀ d ∈ made, ∀ d' ∈ made, ∀ bump bump' address,
    host.createProgramAddress d.1 d.2 bump = some address →
    host.createProgramAddress d'.1 d'.2 bump' = some address → d = d' ∧ bump = bump'

theorem Host.collisionFreeOn_univ {host : Host K} :
    host.CollisionFreeOn Set.univ ↔ host.CollisionFree := by
  constructor
  · intro apart program seeds bump program' seeds' bump' address first second
    obtain ⟨same, rfl⟩ := apart (program, seeds) trivial (program', seeds') trivial bump bump'
      address first second
    obtain ⟨rfl, rfl⟩ := Prod.mk.inj same
    exact ⟨rfl, rfl⟩
  · rintro free ⟨program, seeds⟩ _ ⟨program', seeds'⟩ _ bump bump' address first second
    obtain ⟨rfl, all⟩ := free _ _ _ _ _ _ address first second
    obtain ⟨rfl, bumps⟩ := List.append_inj' all rfl
    exact ⟨rfl, Sum.inl.inj (List.cons.inj bumps).1⟩

/-- The derivation of an associated token address. -/
def Host.associatedDerivation (host : Host K) (wallet : K) (program : TokenProgram) (mint : K) :
    Derivation K :=
  (host.associatedTokenProgram,
    Seeds.key wallet ++ Seeds.key (host.tokenProgramKey program) ++ Seeds.key mint)

/-- Addresses off the chain, one for each derivation with its bump. -/
structure OffChain (chain : Set K) where
  address : K → Seeds K → Byte → K
  off : ∀ program seeds bump, address program seeds bump ∉ chain
  injective : ∀ program seeds bump program' seeds' bump',
    address program seeds bump = address program' seeds' bump' →
      (program, seeds) = (program', seeds') ∧ bump = bump'

open Classical in
/-- The host that answers only the derivations that are made as before. -/
noncomputable def Host.idealise (host : Host K) {chain : Set K} (made : Set (Derivation K))
    (spare : OffChain chain) : Host K :=
  { host with
    findProgramAddress program seeds :=
      if (program, seeds) ∈ made then host.findProgramAddress program seeds
      else (spare.address program seeds 255, 255)
    createProgramAddress program seeds bump :=
      if (program, seeds) ∈ made then host.createProgramAddress program seeds bump
      else some (spare.address program seeds bump)
    find_create program seeds := by
      by_cases member : (program, seeds) ∈ made
      · simp only [member, if_true]
        exact host.find_create program seeds
      · simp only [member, if_false] }

section Idealise
variable {host : Host K} {chain : Set K} {made : Set (Derivation K)} {spare : OffChain chain}
  {programId address wallet mint : K} {seeds : Seeds K} {bump : Byte} {program : TokenProgram}

theorem Host.idealise_find (member : (programId, seeds) ∈ made) :
    (host.idealise made spare).findProgramAddress programId seeds =
      host.findProgramAddress programId seeds := if_pos member

theorem Host.idealise_create (member : (programId, seeds) ∈ made) :
    (host.idealise made spare).createProgramAddress programId seeds bump =
      host.createProgramAddress programId seeds bump := if_pos member

theorem Host.idealise_create_other (other : (programId, seeds) ∉ made) :
    (host.idealise made spare).createProgramAddress programId seeds bump =
      some (spare.address programId seeds bump) := if_neg other

theorem Host.idealise_associated (member : host.associatedDerivation wallet program mint ∈ made) :
    (host.idealise made spare).associatedTokenAddress wallet program mint =
      host.associatedTokenAddress wallet program mint :=
  congrArg Prod.fst (Host.idealise_find member)

/-- Where no account of the chain can be. -/
theorem Host.idealise_associated_other
    (other : host.associatedDerivation wallet program mint ∉ made) :
    (host.idealise made spare).associatedTokenAddress wallet program mint ∉ chain := by
  have answer : (host.idealise made spare).associatedTokenAddress wallet program mint =
      spare.address _ _ 255 := congrArg Prod.fst (if_neg other)
  rw [answer]
  apply spare.off

/-- An address of the chain is derived only by a derivation that is made. -/
theorem Host.idealise_created (onChain : address ∈ chain)
    (created : (host.idealise made spare).createProgramAddress programId seeds bump = some address) :
    (programId, seeds) ∈ made ∧ host.createProgramAddress programId seeds bump = some address := by
  by_cases member : (programId, seeds) ∈ made
  · rw [Host.idealise_create member] at created
    exact ⟨member, created⟩
  · rw [Host.idealise_create_other member] at created
    exact absurd (Option.some.inj created ▸ onChain) (spare.off programId seeds bump)

theorem Host.idealise_collisionFree (apart : host.CollisionFreeOn made)
    (onChain : ∀ d ∈ made, ∀ bump address,
      host.createProgramAddress d.1 d.2 bump = some address → address ∈ chain) :
    (host.idealise made spare).CollisionFree := by
  rw [← Host.collisionFreeOn_univ]
  rintro ⟨program, seeds⟩ _ ⟨program', seeds'⟩ _ bump bump' address first second
  by_cases on : address ∈ chain
  · obtain ⟨member, created⟩ := Host.idealise_created on first
    obtain ⟨member', created'⟩ := Host.idealise_created on second
    exact apart _ member _ member' bump bump' address created created'
  · have spared : ∀ {p s b}, (host.idealise made spare).createProgramAddress p s b = some address →
        spare.address p s b = address := by
      intro p s b created
      by_cases member : (p, s) ∈ made
      · rw [Host.idealise_create member] at created
        exact absurd (onChain _ member b address created) on
      · rw [Host.idealise_create_other member] at created
        exact Option.some.inj created
    exact spare.injective _ _ _ _ _ _ ((spared first).trans (spared second).symm)

theorem Host.idealise_seedSigner (member : (programId, seeds) ∈ made) :
    (host.idealise made spare).seedSigner programId seeds bump =
      host.seedSigner programId seeds bump := by
  simp only [Host.seedSigner, Host.idealise_create member]

end Idealise

/-! ## Checks and operations -/

section Checks
variable [DecidableEq K] {host : Host K} {chain : Set K} {made : Set (Derivation K)}
  {spare : OffChain chain} {programId address ata authority payer mint : K} {seeds : Seeds K}
  {bump : Byte} {program : TokenProgram} {signers : List K} {l : Ledger K D}

theorem requireSeeds_idealise (member : (programId, seeds) ∈ made) :
    (requireSeeds (host.idealise made spare) programId seeds bump address : Except (Fault ε) _) =
      requireSeeds host programId seeds bump address := by
  simp only [requireSeeds, Host.idealise_create member]

theorem requireFound_idealise (member : (programId, seeds) ∈ made) :
    (requireFound (host.idealise made spare) programId seeds address : Except (Fault ε) _) =
      requireFound host programId seeds address := by
  simp only [requireFound, Host.idealise_find member]

theorem loadAssociatedToken_idealise
    (member : host.associatedDerivation authority program mint ∈ made) :
    (loadAssociatedToken (host.idealise made spare) ata authority program mint l :
      Except (Fault ε) _) = loadAssociatedToken host ata authority program mint l := by
  simp only [loadAssociatedToken, Host.idealise_associated member]

theorem checkOptionalToken_idealise {optional : Option K}
    (member : optional.isSome = true → host.associatedDerivation authority program mint ∈ made) :
    (checkOptionalToken (host.idealise made spare) optional authority program mint l :
      Except (Fault ε) _) = checkOptionalToken host optional authority program mint l := by
  cases optional with
  | none => rfl
  | some key => simp only [checkOptionalToken, loadAssociatedToken_idealise (member rfl)]

theorem initIfNeeded_idealise
    (member : host.associatedDerivation authority program mint ∈ made) :
    (initIfNeeded (host.idealise made spare) signers payer ata authority program mint l :
      Except (Fault ε) _) = initIfNeeded host signers payer ata authority program mint l := by
  have creation : (createIfMissing (host.idealise made spare) signers payer ata authority program
      mint l : Except (Fault ε) _) =
      createIfMissing host signers payer ata authority program mint l := by
    simp only [createIfMissing, createAssociatedTokenAccount, Host.idealise_associated member]
    rfl
  simp only [initIfNeeded, creation, loadAssociatedToken_idealise member]

end Checks

/-! ## What is confined and what is sound, as far as derivations are made -/

section Frames
variable (host : Host K) (made : Set (Derivation K)) (A : K → Prop)

/-- The associated token address, its derivation being one of those made. -/
def Host.AssociatedOn (address wallet : K) (program : TokenProgram) (mint : K) : Prop :=
  host.associatedDerivation wallet program mint ∈ made ∧
    address = host.associatedTokenAddress wallet program mint

/-- `Ledger.ControlledBy`. -/
def Ledger.ControlledOn (l : Ledger K D) (address : K) : Prop :=
  match l.data address with
  | .program _ => A address
  | .token account => A account.owner
  | .empty => A address ∨ ∃ wallet program mint,
      host.AssociatedOn made address wallet program mint ∧ A wallet

/-- `Confined`. -/
structure ConfinedOn (l l' : Ledger K D) : Prop where
  lamports : ∀ a, ¬ l.ControlledOn host made A a → l.lamports a ≤ l'.lamports a
  program : ∀ a value, l.data a = .program value → ¬ A a → l'.data a = .program value
  token : ∀ a account, l.data a = .token account → ¬ A account.owner →
    ∃ amount, account.amount ≤ amount ∧ l'.data a = .token { account with amount }
  unallocated : ∀ a, l.data a = .empty → ¬ l.ControlledOn host made A a →
    l'.data a = .empty ∨ ∃ account, l'.data a = .token account ∧
      host.AssociatedOn made a account.owner account.program account.mint
  origin : ∀ a value, ¬ A a → l'.data a = .program value → l.data a = .program value

/-- `AssociatedSound`. -/
def AssociatedSoundOn (wallet : K) (l : Ledger K D) : Prop :=
  ∀ program mint account, host.associatedDerivation wallet program mint ∈ made →
    l.data (host.associatedTokenAddress wallet program mint) = .token account →
    account.owner = wallet ∧ account.program = program ∧ account.mint = mint

variable {host made A} {chain : Set K} {spare : OffChain chain} {l l' : Ledger K D}

/-! Where all derivations are made, these are the notions they are named after. -/

theorem Ledger.controlledOn_univ {address : K} :
    l.ControlledOn host Set.univ A address ↔ l.ControlledBy host A address := by
  cases held : l.data address <;>
    simp [Ledger.ControlledOn, Ledger.ControlledBy, Host.AssociatedOn, held]

theorem confinedOn_univ : ConfinedOn host Set.univ A l l' ↔ Confined host A l l' := by
  constructor
  · intro h
    refine ⟨fun a outside => h.lamports a (outside ∘ Ledger.controlledOn_univ.mp), h.program,
      h.token, fun a unused outside => ?_, h.origin⟩
    simpa [Host.AssociatedOn, Host.FormedAt] using
      h.unallocated a unused (outside ∘ Ledger.controlledOn_univ.mp)
  · intro h
    refine ⟨fun a outside => h.lamports a (outside ∘ Ledger.controlledOn_univ.mpr), h.program,
      h.token, fun a unused outside => ?_, h.origin⟩
    simpa [Host.AssociatedOn, Host.FormedAt] using
      h.unallocated a unused (outside ∘ Ledger.controlledOn_univ.mpr)

theorem associatedSoundOn_univ {wallet : K} :
    AssociatedSoundOn host Set.univ wallet l ↔ AssociatedSound host wallet l := by
  simp [AssociatedSoundOn, AssociatedSound]

theorem Host.AssociatedOn.idealise {address wallet mint : K} {program : TokenProgram}
    (h : host.AssociatedOn made address wallet program mint) :
    address = (host.idealise made spare).associatedTokenAddress wallet program mint :=
  h.2.trans (Host.idealise_associated h.1).symm

theorem Ledger.ControlledOn.idealise {B : K → Prop} (wider : ∀ k, A k → B k) {address : K}
    (h : l.ControlledOn host made A address) :
    l.ControlledBy (host.idealise made spare) B address := by
  cases held : l.data address with
  | program value =>
    simp only [Ledger.ControlledOn, Ledger.ControlledBy, held] at h ⊢
    exact wider address h
  | token account =>
    simp only [Ledger.ControlledOn, Ledger.ControlledBy, held] at h ⊢
    exact wider account.owner h
  | empty =>
    simp only [Ledger.ControlledOn, Ledger.ControlledBy, held] at h ⊢
    rcases h with own | ⟨wallet, program, mint, associated, own⟩
    · exact Or.inl (wider address own)
    · exact Or.inr ⟨wallet, program, mint, associated.idealise, wider wallet own⟩

theorem ConfinedOn.idealise {B : K → Prop} (wider : ∀ k, A k → B k)
    (h : ConfinedOn host made A l l') : Confined (host.idealise made spare) B l l' where
  lamports a outside := h.lamports a fun own => outside (own.idealise wider)
  program a value loaded outside := h.program a value loaded fun own => outside (wider a own)
  token a account loaded outside := h.token a account loaded fun own => outside (wider _ own)
  unallocated a unused outside := by
    rcases h.unallocated a unused fun own => outside (own.idealise wider) with
      kept | ⟨account, after, associated⟩
    · exact Or.inl kept
    · exact Or.inr ⟨account, after, associated.idealise⟩
  origin a value outside := h.origin a value fun own => outside (wider a own)

/-- The soundness of token accounts says nothing of addresses. -/
theorem TokenSound.idealise (sound : TokenSound host l) :
    TokenSound (host.idealise made spare) l := by
  intro a account loaded
  obtain ⟨program, native, backed⟩ := sound a account loaded
  exact ⟨program, native, backed⟩

/-- Off the chain there is nothing to be sound. -/
theorem AssociatedSoundOn.idealise {wallet : K} (sound : AssociatedSoundOn host made wallet l)
    (offChain : ∀ k ∉ chain, l.data k = .empty) :
    AssociatedSound (host.idealise made spare) wallet l := by
  intro program mint account loaded
  by_cases member : host.associatedDerivation wallet program mint ∈ made
  · rw [Host.idealise_associated member] at loaded
    exact sound program mint account member loaded
  · rw [offChain _ (Host.idealise_associated_other member)] at loaded
    cases loaded

end Frames
end CrossChainEscrow.Library.Accounts
