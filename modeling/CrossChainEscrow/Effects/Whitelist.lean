import CrossChainEscrow.Effects.Common
import CrossChainEscrow.Source.Whitelist

/-!
# What the whitelist instructions do
-/

namespace CrossChainEscrow.Source.Whitelist
open Library.Words Library.Bytes Library.Accounts

variable {K : Type} [DecidableEq K] {env : Environment K} {A : K → Prop} {l l' : Chain K}

theorem requireAuthority_ok {whitelistState authority : K} {done : Unit} :
    requireAuthority env whitelistState authority l = .ok done ↔
      ∃ state, l.data whitelistState = .program (.whitelistState state) ∧
        whitelistState = (env.findProgramAddress env.whitelistId whitelistStateSeeds).1 ∧
        state.authority = authority := by
  simp only [requireAuthority, bind_ok, loadWhitelistState_ok, requireFound_ok, requireThat_ok,
    exists_const]

theorem requireResolverAccess_ok {client user resolverAccess : K} {done : Unit} :
    requireResolverAccess env client user resolverAccess l = .ok done ↔
      ∃ access, l.data resolverAccess = .program (.resolverAccess access) ∧
        env.createProgramAddress env.whitelistId (resolverAccessSeeds client user) access.bump
          = some resolverAccess := by
  simp only [requireResolverAccess, bind_ok, loadResolverAccess_ok, requireSeeds_ok]

theorem initializeWhitelist_ok {ix : Initialize K} :
    initializeWhitelist env ix l = .ok l' ↔
      ix.whitelistState = (env.findProgramAddress env.whitelistId whitelistStateSeeds).1 ∧
      ∃ allocated, (createAccount env.toHost [ix.authority] ix.authority ix.whitelistState
          (discriminatorBytes + WhitelistState.initSpace) l : Result _) = .ok allocated ∧
        (writeProgram ix.whitelistState (.whitelistState { authority := ix.authority }) allocated :
          Result _) = .ok l' := by
  simp only [initializeWhitelist, bind_ok, requireFound_ok, exists_const]

theorem register_ok {ix : Register K} :
    register env ix l = .ok l' ↔
      requireAuthority env ix.whitelistState ix.authority l = .ok () ∧
      ix.resolverAccess =
        (env.findProgramAddress env.whitelistId (resolverAccessSeeds ix.client ix.user)).1 ∧
      ∃ allocated, (createAccount env.toHost [ix.authority] ix.authority ix.resolverAccess
          (discriminatorBytes + ResolverAccess.initSpace) l : Result _) = .ok allocated ∧
        (writeProgram ix.resolverAccess (.resolverAccess { bump := (env.findProgramAddress
          env.whitelistId (resolverAccessSeeds ix.client ix.user)).2 }) allocated : Result _)
          = .ok l' := by
  simp only [register, bind_ok, requireFound_ok, Unique.exists_iff, PUnit.default_eq_unit]

theorem deregister_ok {ix : Deregister K} :
    deregister env ix l = .ok l' ↔
      requireAuthority env ix.whitelistState ix.authority l = .ok () ∧
      (∃ access, l.data ix.resolverAccess = .program (.resolverAccess access) ∧
        env.createProgramAddress env.whitelistId (resolverAccessSeeds ix.client ix.user)
          access.bump = some ix.resolverAccess) ∧
      (closeProgram ix.resolverAccess ix.authority l : Result _) = .ok l' := by
  simp only [deregister, bind_ok, loadResolverAccess_ok, requireSeeds_ok, exists_const]
  constructor
  · rintro ⟨_, authority, access, loaded, seeds, close⟩
    exact ⟨authority, ⟨access, loaded, seeds⟩, close⟩
  · rintro ⟨authority, ⟨access, loaded, seeds⟩, close⟩
    exact ⟨(), authority, access, loaded, seeds, close⟩

theorem setAuthority_ok {ix : SetAuthority K} :
    setAuthority env ix l = .ok l' ↔
      requireAuthority env ix.whitelistState ix.currentAuthority l = .ok () ∧
      (writeProgram ix.whitelistState (.whitelistState { authority := ix.newAuthority }) l :
        Result _) = .ok l' := by
  simp only [setAuthority, bind_ok, Unique.exists_iff, PUnit.default_eq_unit]

theorem initializeWhitelist_actions {ix : Initialize K} (authority : A ix.authority)
    (named : A ix.whitelistState) (h : initializeWhitelist env ix l = .ok l') :
    Actions env.toHost A l l' := by
  obtain ⟨_, allocated, allocate, write⟩ := initializeWhitelist_ok.mp h
  exact (createAccount_actions (by simpa using authority) allocate).trans
    (writeProgram_actions named write)

theorem register_actions {ix : Register K} (authority : A ix.authority)
    (named : A ix.resolverAccess) (h : register env ix l = .ok l') :
    Actions env.toHost A l l' := by
  obtain ⟨_, _, allocated, allocate, write⟩ := register_ok.mp h
  exact (createAccount_actions (by simpa using authority) allocate).trans
    (writeProgram_actions named write)

theorem deregister_actions {ix : Deregister K} (named : A ix.resolverAccess)
    (h : deregister env ix l = .ok l') : Actions env.toHost A l l' := by
  obtain ⟨_, _, close⟩ := deregister_ok.mp h
  exact closeProgram_actions named close

theorem setAuthority_actions {ix : SetAuthority K} (named : A ix.whitelistState)
    (h : setAuthority env ix l = .ok l') : Actions env.toHost A l l' := by
  obtain ⟨_, write⟩ := setAuthority_ok.mp h
  exact writeProgram_actions named write

/-! ## Program data -/

theorem initializeWhitelist_programAt {ix : Initialize K}
    (h : initializeWhitelist env ix l = .ok l') :
    l.data ix.whitelistState = .empty ∧ l'.programAt = Function.update l.programAt
      ix.whitelistState (some (.whitelistState { authority := ix.authority })) := by
  obtain ⟨_, allocated, allocate, write⟩ := initializeWhitelist_ok.mp h
  obtain ⟨unused, paid⟩ := createAccount_ok.mp allocate
  refine ⟨unused, ?_⟩
  rw [writeProgram_programAt write, topUp_programAt paid]

theorem register_programAt {ix : Register K} (h : register env ix l = .ok l') :
    l.data ix.resolverAccess = .empty ∧ l'.programAt = Function.update l.programAt
      ix.resolverAccess (some (.resolverAccess { bump := (env.findProgramAddress env.whitelistId
        (resolverAccessSeeds ix.client ix.user)).2 })) := by
  obtain ⟨_, _, allocated, allocate, write⟩ := register_ok.mp h
  obtain ⟨unused, paid⟩ := createAccount_ok.mp allocate
  refine ⟨unused, ?_⟩
  rw [writeProgram_programAt write, topUp_programAt paid]

theorem deregister_programAt {ix : Deregister K} (h : deregister env ix l = .ok l') :
    l'.programAt = Function.update l.programAt ix.resolverAccess none := by
  obtain ⟨_, _, close⟩ := deregister_ok.mp h
  exact closeProgram_programAt close

theorem setAuthority_programAt {ix : SetAuthority K} (h : setAuthority env ix l = .ok l') :
    l'.programAt = Function.update l.programAt ix.whitelistState
      (some (.whitelistState { authority := ix.newAuthority })) := by
  obtain ⟨_, write⟩ := setAuthority_ok.mp h
  exact writeProgram_programAt write

end CrossChainEscrow.Source.Whitelist
