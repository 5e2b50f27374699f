import CrossChainEscrow.Effects.Derivations
import CrossChainEscrow.Source.Execution

/-!
# Runs whose derivations do not collide

The results about runs ask that no two derivations at all give one address, which no
host of finitely many keys can promise. A run asks for few of them. When those that it
makes do not collide, it is, event for event, a run over an environment in which none
do: the keys of the chain are then some of the keys, and each derivation that nobody
makes has a spare key of its own.
-/

namespace CrossChainEscrow.Source
open Library.Words Library.Bytes Library.Accounts

variable {K : Type}

/-- `Environment.Wallet`, where only the derivations that are made count. -/
def Environment.WalletOn (env : Environment K) (made : Set (Derivation K)) (key : K) : Prop :=
  ∀ program ∈ [env.srcId, env.dstId, env.whitelistId, env.associatedTokenProgram],
    ∀ seeds bump, (program, seeds) ∈ made → env.createProgramAddress program seeds bump ≠ some key

/-- A key of the chain that some user has. -/
def Environment.UserOn (env : Environment K) (chain : Set K) (made : Set (Derivation K))
    (key : K) : Prop :=
  key ∈ chain ∧ env.WalletOn made key

variable [DecidableEq K]

/-- `Genesis`, on a chain whose accounts have the keys `chain`. -/
structure ChainGenesis (env : Environment K) (chain : Set K) (made : Set (Derivation K))
    (l : Chain K) : Prop where
  noPrograms : ∀ address, l.programAt address = none
  tokens : TokenSound env.toHost l
  derived : ∀ wallet, ¬ env.UserOn chain made wallet → AssociatedSoundOn env.toHost made wallet l
  offChain : ∀ key ∉ chain, l.data key = .empty

/-- `Trace`, on such a chain, for runs that make only the derivations `made`. -/
inductive ChainTrace (env : Environment K) (chain : Set K) (made : Set (Derivation K)) :
    History K → State K → Prop
  | start {s : State K} (genesis : ChainGenesis env chain made s.ledger) :
      ChainTrace env chain made [] s
  | step {h : History K} {s : State K} {ix : Instruction K} {l : Chain K}
      (trace : ChainTrace env chain made h s)
      (signed : ∀ key ∈ ix.signers, env.UserOn chain made key)
      (derives : ∀ d ∈ ix.derivations env s.ledger, d ∈ made)
      (ran : ix.run env s.clock s.ledger = .ok l) :
      ChainTrace env chain made (⟨s, ix, l⟩ :: h) ⟨l, s.clock⟩
  | external {h : History K} {s : State K} {l : Chain K} (trace : ChainTrace env chain made h s)
      (confined : ConfinedOn env.toHost made (env.UserOn chain made) s.ledger l)
      (sound : TokenSound env.toHost l) (owned : l.programAt = s.ledger.programAt) :
      ChainTrace env chain made h ⟨l, s.clock⟩
  | tick {h : History K} {s : State K} {clock : Clock} (trace : ChainTrace env chain made h s)
      (later : s.clock.unixTimestamp ≤ clock.unixTimestamp) :
      ChainTrace env chain made h ⟨s.ledger, clock⟩

/-! On all keys, with all derivations made, such a run is a run. -/

section All
variable {env : Environment K} {h : History K} {s : State K}

omit [DecidableEq K] in
theorem Environment.userOn_univ {key : K} :
    env.UserOn Set.univ Set.univ key ↔ env.Wallet key := by
  simp [Environment.UserOn, Environment.WalletOn, Environment.Wallet]

theorem chainGenesis_univ {l : Chain K} :
    ChainGenesis env Set.univ Set.univ l ↔ Genesis env l := by
  constructor
  · intro genesis
    refine ⟨genesis.noPrograms, genesis.tokens, fun wallet notWallet => ?_⟩
    exact associatedSoundOn_univ.mp
      (genesis.derived wallet (notWallet ∘ Environment.userOn_univ.mp))
  · intro genesis
    refine ⟨genesis.noPrograms, genesis.tokens, fun wallet notUser => ?_, fun key off => ?_⟩
    · exact associatedSoundOn_univ.mpr
        (genesis.derived wallet (notUser ∘ Environment.userOn_univ.mpr))
    · exact absurd trivial off

theorem chainTrace_univ : ChainTrace env Set.univ Set.univ h s ↔ Trace env h s := by
  have users : env.UserOn Set.univ Set.univ = env.Wallet :=
    funext fun _ => propext Environment.userOn_univ
  constructor
  · intro trace
    induction trace with
    | start genesis => exact .start (chainGenesis_univ.mp genesis)
    | step trace signed derives ran ih => exact .step ih (users ▸ signed) ran
    | external trace confined sound owned ih =>
      exact .external ih (confinedOn_univ.mp (users ▸ confined)) sound owned
    | tick trace later ih => exact .tick ih later
  · intro trace
    induction trace with
    | start genesis => exact .start (chainGenesis_univ.mpr genesis)
    | step trace signed ran ih => exact .step ih (users ▸ signed) (fun _ _ => trivial) ran
    | external trace confined sound owned ih =>
      exact .external ih (users ▸ confinedOn_univ.mpr confined) sound owned
    | tick trace later ih => exact .tick ih later

end All

section Idealise
variable {env : Environment K} {chain : Set K} {made : Set (Derivation K)} {h : History K}
  {s : State K} (spare : OffChain chain)

omit [DecidableEq K] in
/-- A spare key is off the chain, so users keep their keys. -/
theorem Environment.UserOn.wallet {key : K} (user : env.UserOn chain made key) :
    (env.idealise made spare).Wallet key := by
  intro program member seeds bump created
  obtain ⟨making, answered⟩ := Host.idealise_created user.1 created
  exact user.2 program member seeds bump making answered

theorem ChainGenesis.idealise {l : Chain K} (genesis : ChainGenesis env chain made l) :
    Genesis (env.idealise made spare) l where
  noPrograms := genesis.noPrograms
  tokens := genesis.tokens.idealise
  derived wallet notWallet :=
    (genesis.derived wallet fun user => notWallet (user.wallet spare)).idealise genesis.offChain

theorem ChainTrace.idealise (trace : ChainTrace env chain made h s) :
    Trace (env.idealise made spare) h s := by
  induction trace with
  | start genesis => exact .start (genesis.idealise spare)
  | step trace signed derives ran ih =>
    refine .step ih (fun key member => (signed key member).wallet spare) ?_
    exact (Instruction.run_idealise derives).trans ran
  | external trace confined sound owned ih =>
    exact .external ih (confined.idealise fun key user => user.wallet spare) sound.idealise owned
  | tick trace later ih => exact .tick ih later

/-- A run whose derivations do not collide is a run over an environment without
collisions, in which whatever makes no other derivations has the same outcome. -/
theorem ChainTrace.without_collisions (trace : ChainTrace env chain made h s)
    (apart : env.CollisionFreeOn made)
    (onChain : ∀ d ∈ made, ∀ bump address,
      env.createProgramAddress d.1 d.2 bump = some address → address ∈ chain) :
    (env.idealise made spare).CollisionFree ∧ Trace (env.idealise made spare) h s ∧
      ∀ (ix : Instruction K) (clock : Clock) (l : Chain K),
        (∀ d ∈ ix.derivations env l, d ∈ made) →
          ix.process (env.idealise made spare) clock l = ix.process env clock l :=
  ⟨Host.idealise_collisionFree apart onChain, trace.idealise spare,
    fun _ _ _ derives => Instruction.process_idealise derives⟩

end Idealise

/-! ### A chain with collisions -/

namespace Sample

/-- A chain on which all derivations but that of the whitelist state collide. -/
def crowdedHost : Host Term :=
  { host with
    findProgramAddress program seeds :=
      if (program, seeds) = (whitelistId, whitelistStateSeeds) then host.findProgramAddress program seeds
      else (.atom 600, 255)
    createProgramAddress program seeds bump :=
      if (program, seeds) = (whitelistId, whitelistStateSeeds) then
        host.createProgramAddress program seeds bump
      else some (.atom 600)
    find_create program seeds := by
      by_cases same : (program, seeds) = (whitelistId, whitelistStateSeeds)
      · simp only [same, if_true]
        exact host.find_create _ _
      · simp only [same, if_false] }

def crowded : Environment Term := { env with toHost := crowdedHost, programs_nodup := by decide }

theorem crowded_collides : ¬ crowded.CollisionFree := by
  intro free
  exact absurd (free srcId [] 0 dstId [] 0 (.atom 600) (by decide) (by decide)).1 (by decide)

/-- What the run below derives. -/
def stateDerivation : Derivation Term := (whitelistId, whitelistStateSeeds)

def ordinary : Set Term := {key | ∀ rest, key ≠ .node (.atom 601) rest}

def spareKeys : OffChain ordinary where
  address program seeds bump := .node (.atom 601) (Term.derive program seeds bump)
  off _ _ _ onChain := onChain _ rfl
  injective program seeds bump program' seeds' bump' same := by
    have derived : Term.derive program seeds bump = Term.derive program' seeds' bump' :=
      (Term.node.inj same).2
    obtain ⟨rfl, rest⟩ := Term.node.inj derived
    have all := List.append_inj' (Term.ofSeeds_injective rest) rfl
    exact ⟨by rw [all.1], Sum.inl.inj (List.cons.inj all.2).1⟩

/-- The state's address is found apart from its bump. -/
theorem crowded_create (bump : Byte) :
    crowded.createProgramAddress stateDerivation.1 stateDerivation.2 bump =
      some (Term.derive whitelistId whitelistStateSeeds bump) := by
  simp only [crowded, crowdedHost, stateDerivation, if_true]
  rfl

/-- The authority's lamports, and nothing else. -/
def fresh : Chain Term := ⟨fun key => if key = authority then 1000000000 else 0, fun _ => .empty⟩

theorem genesis_fresh : ChainGenesis crowded ordinary {stateDerivation} fresh where
  noPrograms _ := rfl
  tokens _ _ loaded := by cases loaded
  derived _ _ _ _ _ _ loaded := by cases loaded
  offChain _ _ := rfl

theorem crowded_apart : crowded.CollisionFreeOn {stateDerivation} := by
  intro d member d' member' bump bump' address created created'
  obtain rfl := Set.mem_singleton_iff.mp member
  obtain rfl := Set.mem_singleton_iff.mp member'
  have same : Term.derive whitelistId whitelistStateSeeds bump =
      Term.derive whitelistId whitelistStateSeeds bump' :=
    Option.some.inj (((crowded_create bump).symm.trans created).trans
      (created'.symm.trans (crowded_create bump')))
  have all := List.append_inj' (Term.ofSeeds_injective (Term.node.inj same).2) rfl
  exact ⟨rfl, Sum.inl.inj (List.cons.inj all.2).1⟩

theorem crowded_ordinary (d : Derivation Term) (member : d ∈ ({stateDerivation} : Set _))
    (bump : Byte) (address : Term)
    (created : crowded.createProgramAddress d.1 d.2 bump = some address) : address ∈ ordinary := by
  obtain rfl := Set.mem_singleton_iff.mp member
  obtain rfl := Option.some.inj ((crowded_create bump).symm.trans created)
  intro rest same
  cases same

theorem user_authority : crowded.UserOn ordinary {stateDerivation} authority := by
  constructor
  · intro rest same
    cases same
  · intro program _ seeds bump member created
    obtain ⟨rfl, rfl⟩ := Prod.mk.inj (Set.mem_singleton_iff.mp member)
    cases (crowded_create bump).symm.trans created

/-- The first transaction of the whitelist. -/
def initialization : Instruction Term :=
  .whitelist (.initializeWhitelist ⟨authority, whitelistState⟩)

end Sample

/-- The whitelist starts on a chain where all other derivations collide. -/
theorem ChainTrace.without_collisions_sample :
    ¬ Sample.crowded.CollisionFree ∧ ∃ h s, h ≠ [] ∧
      ChainTrace Sample.crowded Sample.ordinary {Sample.stateDerivation} h s ∧
      (Sample.crowded.idealise {Sample.stateDerivation} Sample.spareKeys).CollisionFree ∧
      Trace (Sample.crowded.idealise {Sample.stateDerivation} Sample.spareKeys) h s := by
  have ran : ∃ l, Sample.initialization.run Sample.crowded ⟨0⟩ Sample.fresh = .ok l :=
    isSome_toOption (by decide +kernel)
  obtain ⟨l, ran⟩ := ran
  have start : ChainTrace Sample.crowded Sample.ordinary {Sample.stateDerivation} []
      ⟨Sample.fresh, ⟨0⟩⟩ := .start Sample.genesis_fresh
  have trace : ChainTrace Sample.crowded Sample.ordinary {Sample.stateDerivation}
      [⟨⟨Sample.fresh, ⟨0⟩⟩, Sample.initialization, l⟩] ⟨l, ⟨0⟩⟩ :=
    .step start (fun key member => List.mem_singleton.mp member ▸ Sample.user_authority)
      (fun d member => Set.mem_singleton_iff.mpr (List.mem_singleton.mp member)) ran
  obtain ⟨free, run, _⟩ := trace.without_collisions Sample.spareKeys Sample.crowded_apart
    Sample.crowded_ordinary
  exact ⟨Sample.crowded_collides, _, _, List.cons_ne_nil _ _, trace, free, run⟩

end CrossChainEscrow.Source
