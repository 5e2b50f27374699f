import CrossChainEscrow.Source.Escrow

/-!
# The whitelist program

`whitelist/src/lib.rs`, and the account check by which the other two programs
recognise a whitelisted resolver.
-/
namespace CrossChainEscrow.Source.Whitelist
open Library.Words Library.Bytes Library.Accounts

variable {K : Type} [DecidableEq K]

structure Initialize (K : Type) where
  authority : K
  whitelistState : K

structure Register (K : Type) where
  authority : K
  whitelistState : K
  resolverAccess : K
  user : K
  client : K

structure Deregister (K : Type) where
  authority : K
  whitelistState : K
  resolverAccess : K
  user : K
  client : K

structure SetAuthority (K : Type) where
  currentAuthority : K
  whitelistState : K
  newAuthority : K

def initializeWhitelist (env : Environment K) (ix : Initialize K) (l : Chain K) : Result (Chain K) := do
  requireFound env.toHost env.whitelistId whitelistStateSeeds ix.whitelistState
  let l ← createAccount env.toHost [ix.authority] ix.authority ix.whitelistState
    (discriminatorBytes + WhitelistState.initSpace) l
  writeProgram ix.whitelistState (.whitelistState { authority := ix.authority }) l

/-- The whitelist state account and its authority constraint. -/
def requireAuthority (env : Environment K) (whitelistState authority : K) (l : Chain K) :
    Result Unit := do
  let state ← loadWhitelistState l whitelistState
  requireFound env.toHost env.whitelistId whitelistStateSeeds whitelistState
  requireThat (state.authority = authority) (.custom (.whitelist .unauthorized))

def register (env : Environment K) (ix : Register K) (l : Chain K) : Result (Chain K) := do
  requireAuthority env ix.whitelistState ix.authority l
  let seeds := resolverAccessSeeds ix.client ix.user
  requireFound env.toHost env.whitelistId seeds ix.resolverAccess
  let l ← createAccount env.toHost [ix.authority] ix.authority ix.resolverAccess
    (discriminatorBytes + ResolverAccess.initSpace) l
  writeProgram ix.resolverAccess
    (.resolverAccess { bump := (env.findProgramAddress env.whitelistId seeds).2 }) l

def deregister (env : Environment K) (ix : Deregister K) (l : Chain K) : Result (Chain K) := do
  requireAuthority env ix.whitelistState ix.authority l
  let access ← loadResolverAccess l ix.resolverAccess
  requireSeeds env.toHost env.whitelistId (resolverAccessSeeds ix.client ix.user) access.bump
    ix.resolverAccess
  closeProgram ix.resolverAccess ix.authority l

def setAuthority (env : Environment K) (ix : SetAuthority K) (l : Chain K) :
    Result (Chain K) := do
  requireAuthority env ix.whitelistState ix.currentAuthority l
  writeProgram ix.whitelistState (.whitelistState { authority := ix.newAuthority }) l

/-- `seeds = [ID, user], bump = resolver_access.bump, seeds::program = whitelist::ID`. -/
def requireResolverAccess (env : Environment K) (client user resolverAccess : K)
    (l : Chain K) : Result Unit := do
  let access ← loadResolverAccess l resolverAccess
  requireSeeds env.toHost env.whitelistId (resolverAccessSeeds client user) access.bump
    resolverAccess

end CrossChainEscrow.Source.Whitelist
