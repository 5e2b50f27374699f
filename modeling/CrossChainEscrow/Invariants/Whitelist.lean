import CrossChainEscrow.Invariants.Isolation
import CrossChainEscrow.Library.Registries

/-!
# The whitelist is a registry

The whitelist instructions of a run are operations on a registry of pairs of a
client program and a user. The whitelist state account stores its authority, and
the resolver access accounts are its members; no other instruction reaches either.
-/

namespace CrossChainEscrow.Source
open Library.Words Library.Bytes Library.Accounts Library.Registries

variable {K : Type}

/-- The operation on the registry that a whitelist instruction is. -/
def Whitelist.Instruction.op : Whitelist.Instruction K → Op K (K × K)
  | .initializeWhitelist ix => .establish ix.authority
  | .register ix => .enrol ix.authority (ix.client, ix.user)
  | .deregister ix => .dismiss ix.authority (ix.client, ix.user)
  | .setAuthority ix => .appoint ix.currentAuthority ix.newAuthority

def Event.op (e : Event K) : Option (Op K (K × K)) :=
  match e.ix with
  | .whitelist ix => some ix.op
  | _ => none

/-- The whitelist operations of a run, the newest first. -/
def whitelistLog (h : History K) : List (Op K (K × K)) := h.filterMap Event.op

variable [DecidableEq K] (env : Environment K)

def Environment.whitelistAddress : K :=
  (env.findProgramAddress env.whitelistId whitelistStateSeeds).1

def Environment.accessAddress (client user : K) : K :=
  (env.findProgramAddress env.whitelistId (resolverAccessSeeds client user)).1

/-- The accounts of the whitelist program hold the registry. -/
structure Represents (l : Chain K) (r : Registry K (K × K)) : Prop where
  authority : l.programAt env.whitelistAddress =
    r.authority.map (fun authority => .whitelistState { authority })
  members : ∀ client user, (l.programAt (env.accessAddress client user)).isSome = true ↔
    (client, user) ∈ r.members

variable {env} {h : History K} {s : State K} {l l' : Chain K} {ix : Instruction K}

omit [DecidableEq K] in
theorem Represents.congr {r : Registry K (K × K)} (represents : Represents env l r)
    (same : l'.programAt = l.programAt) : Represents env l' r where
  authority := by rw [same]; exact represents.authority
  members client user := by rw [same]; exact represents.members client user

section Addresses
variable (free : env.CollisionFree)
include free

omit [DecidableEq K] in
theorem Environment.accessAddress_inj {client client' user user' : K}
    (same : env.accessAddress client user = env.accessAddress client' user') :
    client = client' ∧ user = user' := by
  have seeds := (free.find_inj same).2
  simpa [resolverAccessSeeds, Seeds.key] using seeds

omit [DecidableEq K] in
theorem Environment.accessAddress_ne_state (client user : K) :
    env.accessAddress client user ≠ env.whitelistAddress := by
  intro same
  have seeds := (free.find_inj same).2
  simp [resolverAccessSeeds, whitelistStateSeeds, Seeds.key, Seeds.bytes] at seeds

omit [DecidableEq K] in
/-- At an address of the whitelist program no other account sits. -/
theorem Placed.whitelist {a : K} {data : Data K} {seeds : Seeds K} (placed : Placed env a data)
    (found : a = (env.findProgramAddress env.whitelistId seeds).1) :
    (∃ state, data = .whitelistState state) ∨ ∃ access, data = .resolverAccess access := by
  have distinct := env.programs_nodup
  simp only [List.nodup_cons, List.mem_cons, List.not_mem_nil, or_false, not_or] at distinct
  have program {owner : K} {seeds' : Seeds K} {bump : Byte}
      (search : env.findProgramAddress owner seeds' = (a, bump)) : owner = env.whitelistId :=
    (free.create_inj (env.create_of_find search) (env.find_created found)).1
  cases data with
  | order order => exact absurd (program placed) distinct.1.2.1
  | escrowSrc escrow => exact absurd (program placed) distinct.1.2.1
  | escrowDst escrow => exact absurd (program placed) distinct.2.1.1
  | whitelistState state => exact Or.inl ⟨state, rfl⟩
  | resolverAccess access => exact Or.inr ⟨access, rfl⟩

omit [DecidableEq K] in
/-- A resolver access account that passes the seeds check of a pair is the
pair's. -/
theorem Placed.access {a client user : K} {access : ResolverAccess}
    (placed : Placed env a (.resolverAccess access))
    (seeds : env.createProgramAddress env.whitelistId (resolverAccessSeeds client user) access.bump
      = some a) : a = env.accessAddress client user := by
  obtain ⟨client', user', search⟩ := placed
  have same := (free.create_inj (env.create_of_find search) seeds).2
  rw [same] at search
  exact (congrArg Prod.fst search).symm

end Addresses

/-! ## Instructions of the other programs -/

/-- Accounts of the whitelist program stay as they are in instructions of the
other two. -/
theorem Trace.whitelist_kept (free : env.CollisionFree) (trace : Trace env h s)
    (signed : ∀ key ∈ ix.signers, env.Wallet key) (ran : ix.run env s.clock s.ledger = .ok l)
    (other : ∀ w, ix ≠ .whitelist w) {a : K} {seeds : Seeds K}
    (found : a = (env.findProgramAddress env.whitelistId seeds).1) :
    l.programAt a = s.ledger.programAt a := by
  cases before : s.ledger.programAt a with
  | some data =>
    have kinds := (trace.placed before).whitelist free found
    have unnamed : a ∉ ix.named := by
      intro named
      have held := Ledger.programAt_eq_some.mp before
      have distinct := env.programs_nodup
      simp only [List.nodup_cons, List.mem_cons, List.not_mem_nil, or_false, not_or] at distinct
      cases Instruction.finds ran named with
      | unused empty =>
        rw [held] at empty
        cases empty
      | @whitelist w _ _ _ => exact other w rfl
      | order held' _ =>
        rw [held, AccountData.program.injEq] at held'
        simp [held'] at kinds
      | escrowSrc held' _ =>
        rw [held, AccountData.program.injEq] at held'
        simp [held'] at kinds
      | escrowDst held' _ =>
        rw [held, AccountData.program.injEq] at held'
        simp [held'] at kinds
      | rescueEscrow _ found' =>
        exact distinct.1.2.1 (free.find_inj (found'.symm.trans found)).1
      | rescueOrder _ found' =>
        exact distinct.1.2.1 (free.find_inj (found'.symm.trans found)).1
      | rescueDst _ found' =>
        exact distinct.2.1.1 (free.find_inj (found'.symm.trans found)).1
    rw [(trace.untouched_call free before signed ran unnamed).data, before]
  | none =>
    cases after : l.programAt a with
    | none => rfl
    | some data =>
      -- what the instruction wrote is an order or an escrow, which sits elsewhere
      have kinds := ((Trace.step trace signed ran).placed after).whitelist free found
      rcases Instruction.origin ran after with kept | new
      · rw [before] at kept
        cases kept
      · cases new with
        | order _ => simp at kinds
        | escrowSrc _ => simp at kinds
        | counted _ _ _ => simp at kinds
        | escrowDst _ => simp at kinds
        | @whitelistState w _ _ _ _ => exact absurd rfl (other w)
        | @resolverAccess c _ => exact absurd rfl (other (.register c))

theorem Trace.registry_kept (free : env.CollisionFree) (trace : Trace env h s)
    (signed : ∀ key ∈ ix.signers, env.Wallet key) (ran : ix.run env s.clock s.ledger = .ok l)
    (other : ∀ w, ix ≠ .whitelist w) {r : Registry K (K × K)}
    (represents : Represents env s.ledger r) : Represents env l r where
  authority := by
    have kept : l.programAt env.whitelistAddress = s.ledger.programAt env.whitelistAddress :=
      trace.whitelist_kept free signed ran other rfl
    rw [kept]
    exact represents.authority
  members client user := by
    have kept : l.programAt (env.accessAddress client user) =
        s.ledger.programAt (env.accessAddress client user) :=
      trace.whitelist_kept free signed ran other rfl
    rw [kept]
    exact represents.members client user

/-! ## Instructions of the whitelist program -/

section Steps
variable {r : Registry K (K × K)}

/-- The authority constraint of the whitelist instructions. -/
theorem Represents.authorised (represents : Represents env l r) {address signer : K} {done : Unit}
    (checked : Whitelist.requireAuthority env address signer l = .ok done) :
    address = env.whitelistAddress ∧ r.authority = some signer := by
  obtain ⟨state, loaded, found, same⟩ := Whitelist.requireAuthority_ok.mp checked
  refine ⟨found, ?_⟩
  have held := represents.authority
  rw [← show address = env.whitelistAddress from found, Ledger.programAt_eq_some.mpr loaded] at held
  cases known : r.authority with
  | none =>
    rw [known] at held
    cases held
  | some authority =>
    rw [known] at held
    obtain rfl := Data.whitelistState.inj (Option.some.inj held)
    rw [← same]

/-- An instruction that writes one resolver access account. -/
theorem Represents.update_access (free : env.CollisionFree) (represents : Represents env l r)
    {client user : K} {value : Option (Data K)} {members : Finset (K × K)}
    (written : l'.programAt = Function.update l.programAt (env.accessAddress client user) value)
    (here : value.isSome = true ↔ (client, user) ∈ members)
    (others : ∀ pair, pair ≠ (client, user) → (pair ∈ members ↔ pair ∈ r.members)) :
    Represents env l' ⟨r.authority, members⟩ where
  authority := by
    rw [written, Function.update_of_ne (Ne.symm (Environment.accessAddress_ne_state free client user))]
    exact represents.authority
  members c u := by
    rw [written]
    by_cases same : (c, u) = (client, user)
    · obtain ⟨rfl, rfl⟩ := Prod.mk.inj same
      rw [Function.update_self]
      exact here
    · have elsewhere : env.accessAddress c u ≠ env.accessAddress client user := by
        intro equal
        obtain ⟨clients, users⟩ := Environment.accessAddress_inj free equal
        exact same (Prod.ext clients users)
      rw [Function.update_of_ne elsewhere, others _ same]
      exact represents.members c u

/-- An instruction that writes the whitelist state account. -/
theorem Represents.update_state (free : env.CollisionFree) (represents : Represents env l r)
    {authority : K} (written : l'.programAt = Function.update l.programAt env.whitelistAddress
      (some (.whitelistState { authority }))) :
    Represents env l' ⟨some authority, r.members⟩ where
  authority := by
    rw [written, Function.update_self]
    rfl
  members c u := by
    rw [written, Function.update_of_ne (Environment.accessAddress_ne_state free c u)]
    exact represents.members c u

omit [DecidableEq K] in
theorem programAt_of_empty {a : K} (unused : l.data a = .empty) : l.programAt a = none := by
  rw [Ledger.programAt, unused]

/-- Each whitelist instruction is a step of the registry. -/
theorem Whitelist.Instruction.registry_step (free : env.CollisionFree)
    (trace : Trace env h s) {ix : Whitelist.Instruction K} (represents : Represents env s.ledger r)
    (ran : ix.run env s.ledger = .ok l) : ∃ r', Step r ix.op r' ∧ Represents env l r' := by
  obtain ⟨authority, members⟩ := r
  cases ix with
  | initializeWhitelist c =>
    obtain ⟨unused, written⟩ := Whitelist.initializeWhitelist_programAt ran
    have found : c.whitelistState = env.whitelistAddress :=
      (Whitelist.initializeWhitelist_ok.mp ran).1
    rw [found] at unused written
    have unclaimed := represents.authority
    rw [programAt_of_empty unused] at unclaimed
    obtain rfl : authority = none := Option.map_eq_none_iff.mp unclaimed.symm
    exact ⟨_, .establish, represents.update_state free written⟩
  | register c =>
    obtain ⟨unused, written⟩ := Whitelist.register_programAt ran
    obtain ⟨checked, found, _⟩ := Whitelist.register_ok.mp ran
    obtain rfl : authority = some c.authority := (represents.authorised checked).2
    have address : c.resolverAccess = env.accessAddress c.client c.user := found
    rw [address] at unused written
    have fresh : (c.client, c.user) ∉ members := by
      intro member
      have present := (represents.members _ _).mpr member
      rw [programAt_of_empty unused] at present
      cases present
    refine ⟨_, .enrol fresh, represents.update_access free written ?_ ?_⟩
    · simp
    · intro pair other
      simp [other]
  | deregister c =>
    have written := Whitelist.deregister_programAt ran
    obtain ⟨checked, ⟨access, loaded, seeds⟩, _⟩ := Whitelist.deregister_ok.mp ran
    obtain rfl : authority = some c.authority := (represents.authorised checked).2
    have held := Ledger.programAt_eq_some.mpr loaded
    have address := (trace.placed held).access free seeds
    rw [address] at held written
    have enrolled : (c.client, c.user) ∈ members := by
      apply (represents.members _ _).mp
      rw [held]
      rfl
    refine ⟨_, .dismiss enrolled, represents.update_access free written ?_ ?_⟩
    · simp
    · intro pair other
      simp [other]
  | setAuthority c =>
    have written := Whitelist.setAuthority_programAt ran
    obtain ⟨checked, _⟩ := Whitelist.setAuthority_ok.mp ran
    obtain ⟨found, known⟩ := represents.authorised checked
    obtain rfl : authority = some c.currentAuthority := known
    rw [found] at written
    exact ⟨_, .appoint, represents.update_state free written⟩

end Steps

/-- The whitelist accounts of every run hold the registry that its whitelist
instructions lead to. -/
theorem Trace.registry (free : env.CollisionFree) (trace : Trace env h s) :
    ∃ r, Reached (whitelistLog h) r ∧ Represents env s.ledger r := by
  induction trace with
  | start genesis =>
    refine ⟨⟨none, ∅⟩, .empty, genesis.noPrograms _, fun client user => ?_⟩
    simp [genesis.noPrograms]
  | external _ _ _ owned ih =>
    obtain ⟨r, reached, represents⟩ := ih
    exact ⟨r, reached, represents.congr owned⟩
  | tick _ _ ih => exact ih
  | @step h s ix l trace signed ran ih =>
    obtain ⟨r, reached, represents⟩ := ih
    cases ix with
    | whitelist w =>
      obtain ⟨r', taken, represents'⟩ := w.registry_step free trace represents ran
      exact ⟨r', .step reached taken, represents'⟩
    | src w =>
      exact ⟨r, reached, trace.registry_kept free signed ran (fun _ => by simp) represents⟩
    | dst w =>
      exact ⟨r, reached, trace.registry_kept free signed ran (fun _ => by simp) represents⟩

end CrossChainEscrow.Source
