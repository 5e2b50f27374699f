import CrossChainEscrow.Library.TermKeys
import CrossChainEscrow.Source.Protocol

/-!
# Executing runs

`execute` sends a list of instructions, each in a transaction of its own, with waits
between them and returns the history they made. Whatever it returns is a run of the
system.

`Sample` is an environment in which runs can be computed: keys are terms, and
the digest is the table of the keccak values that its few messages have. Its
genesis gives a maker and a taker some lamports and tokens of one mint.
-/

namespace CrossChainEscrow.Source
open Library.Words Library.Bytes Library.Accounts

section Execution
variable {K : Type}

inductive Command (K : Type) where
  | call (ix : Instruction K)
  | wait (time : U32)

/-- The keys a command needs the signatures of. -/
def Command.signers : Command K → List K
  | .call ix => ix.signers
  | .wait _ => []

/-- The state after a run and the events that led there. -/
structure Run (K : Type) where
  history : History K
  state : State K

variable [DecidableEq K]

def Run.next (env : Environment K) (r : Run K) : Command K → Option (Run K)
  | .call ix =>
    match ix.process env r.state.clock r.state.ledger with
    | .ok l => some ⟨⟨r.state, ix, l⟩ :: r.history, ⟨l, r.state.clock⟩⟩
    | .error _ => none
  | .wait time =>
    if r.state.clock.unixTimestamp ≤ time then some ⟨r.history, ⟨r.state.ledger, ⟨time⟩⟩⟩ else none

def execute (env : Environment K) (r : Run K) : List (Command K) → Option (Run K)
  | [] => some r
  | command :: rest => (r.next env command).bind (execute env · rest)

variable {env : Environment K}

theorem execute_call {r : Run K} {ix : Instruction K} {l : Chain K} {rest : List (Command K)}
    (ran : ix.process env r.state.clock r.state.ledger = .ok l) :
    execute env r (.call ix :: rest) =
      execute env ⟨⟨r.state, ix, l⟩ :: r.history, ⟨l, r.state.clock⟩⟩ rest := by
  rw [execute, Run.next, ran]
  rfl

theorem execute_wait {r : Run K} {time : U32} {rest : List (Command K)}
    (later : r.state.clock.unixTimestamp ≤ time) :
    execute env r (.wait time :: rest) = execute env ⟨r.history, ⟨r.state.ledger, ⟨time⟩⟩⟩ rest := by
  rw [execute, Run.next, if_pos later]
  rfl

theorem Run.next_trace {r r' : Run K} {command : Command K} (trace : Trace env r.history r.state)
    (signed : ∀ key ∈ command.signers, env.Wallet key) (h : r.next env command = some r') :
    Trace env r'.history r'.state := by
  cases command with
  | call ix =>
    simp only [Run.next] at h
    split at h
    · next l processed =>
      obtain rfl := Option.some.inj h
      exact .step trace signed (Instruction.process_ok.mp processed).1
    · cases h
  | wait time =>
    simp only [Run.next] at h
    split at h
    · next later =>
      obtain rfl := Option.some.inj h
      exact .tick trace later
    · cases h

theorem execute_trace {r r' : Run K} {commands : List (Command K)}
    (trace : Trace env r.history r.state)
    (signed : ∀ command ∈ commands, ∀ key ∈ command.signers, env.Wallet key)
    (h : execute env r commands = some r') : Trace env r'.history r'.state := by
  induction commands generalizing r with
  | nil =>
    obtain rfl := Option.some.inj h
    exact trace
  | cons command rest ih =>
    obtain ⟨next, stepped, h⟩ := Option.bind_eq_some_iff.mp h
    have signedNow := signed command (by simp)
    have signedLater : ∀ c ∈ rest, ∀ key ∈ c.signers, env.Wallet key :=
      fun c member => signed c (by simp [member])
    exact ih (Run.next_trace trace signedNow stepped) signedLater h

end Execution

namespace Sample

/-- The digest with a given value. -/
def digest (n : Nat) : Bytes32 := ⟨beBytes 32 n, by simp⟩

def keyBytes : Term → Bytes32
  | .atom n => digest n
  | .node _ _ => zero32

def srcId : Term := .atom 1

def dstId : Term := .atom 2

def whitelistId : Term := .atom 3

def usdc : Term := .atom 9

def authority : Term := .atom 10

def maker : Term := .atom 11

def taker : Term := .atom 12

def tokenProgramKey : TokenProgram → Term
  | .token => .atom 5
  | .token2022 => .atom 6

def nativeMint : TokenProgram → Term
  | .token => .atom 7
  | .token2022 => .atom 8

def mintProgram (mint : Term) : Option TokenProgram :=
  if mint = .atom 7 ∨ mint = usdc then some .token else none

theorem tokenProgramKey_injective : Function.Injective tokenProgramKey := by
  intro first second same
  cases first <;> cases second <;> simp [tokenProgramKey] at same ⊢

def host : Host Term :=
  termHost (.atom 4) tokenProgramKey tokenProgramKey_injective mintProgram nativeMint
    (fun _ => 165) (fun len => (128 + len) * 6960)

def environment (table : List (List Byte × Nat)) : Environment Term where
  toHost := host
  keccak message := digest ((table.lookup message).getD 0)
  keyBytes := keyBytes
  srcId := srcId
  dstId := dstId
  whitelistId := whitelistId
  programs_nodup := by decide

/-! ### Orders and their digests -/

def secret : Bytes32 := digest 777

/-- Ten per cent at the start, falling to nothing in 1000 seconds. -/
def auction : AuctionData := ⟨100, 1000, ⟨15, 66, 64⟩, []⟩

def auctionHash : Bytes32 :=
  digest 0xb03edc86afdcb12c05dfa28a458853322824a9e629ee29d7cf89f423129211ac

/-- Offsets in the order of the stages. -/
def offsets (first second third fourth fifth sixth seventh : U32) : Limbs :=
  ⟨second ++ first, fourth ++ third, sixth ++ fifth, seventh.setWidth 64⟩

/-- An order that is filled at once, with its stages in the documented order. -/
def single : OrderParams Term where
  hashlock := digest 0x9c8f5614bb174c2ae47564e24b9d7eabd43fca7dc7703456c9f9316a14953b77
  maker := maker
  token := usdc
  orderAmount := 1000
  safetyDeposit := 5
  timelocks := offsets 10 20 30 40 5 8 12
  expirationTime := 5000
  assetIsNative := false
  dstAmount := ⟨2000, 0, 0, 0⟩
  dutchAuctionDataHash := auctionHash
  maxCancellationPremium := 7
  cancellationAuctionDuration := 100
  allowMultipleFills := false
  salt := 1

/-- The same with the public cancellation first and the withdrawal late. -/
def disordered : OrderParams Term :=
  { single with timelocks := offsets 25 20 30 10 5 8 12, salt := 2 }

/-- An order in two parts, over the three pairs below. -/
def multiple : OrderParams Term :=
  { single with
    hashlock := digest 0x0002f80e8888f7ac01a764a131343aee255cdd1a2d3490a6c459da6c1faa4b8e
    allowMultipleFills := true
    salt := 3 }

/-- An order whose cancellation offsets leave `u32` when anything is added. -/
def overflowing : OrderParams Term :=
  { single with
    timelocks := offsets 10 20 0xffffffff 0xffffffff 5 8 12
    salt := 4 }

/-- An order that may be filled for decades. -/
def lasting : OrderParams Term := { single with expirationTime := 0x80000000, salt := 5 }

/-- An order of a quadrillion units in as many parts as there can be. -/
def huge : OrderParams Term :=
  { multiple with
    hashlock := digest 0xfffff80e8888f7ac01a764a131343aee255cdd1a2d3490a6c459da6c1faa4b8e
    orderAmount := 0x4000000000000
    salt := 6 }

/-- An order of one unit in two parts. -/
def tiny : OrderParams Term := { multiple with orderAmount := 1, salt := 7 }

/-- An order of wrapped lamports with a premium of 2 ^ 33 lamports that grows for a
century. -/
def generous : OrderParams Term :=
  { single with
    token := nativeMint .token
    maxCancellationPremium := 0x200000000
    cancellationAuctionDuration := 0xffffffff
    salt := 8 }

/-- An order in two parts, over a tree that has two secrets for its first index. -/
def ambiguous : OrderParams Term :=
  { multiple with
    hashlock := digest 0x00021111a11acfea75b75c3a145bf71bb5976d4cc820dc062e6e06bf20754761
    salt := 9 }

def pairs : List IndexedSecret :=
  [⟨0, digest 0xef9d334ee3e15416314a60312ef616e881c3bfffe4b60b11befc2707c79b7d35⟩,
    ⟨1, digest 0xa71ca41918eda0f02f5b9d034207bc6da722ef3dbac84742f3e5c64d80fd55e5⟩,
    ⟨2, digest 0x8d6c98e59b99b453ad086d229fff0a76b26bd736d913256971f1f7e5df0efd77⟩]

def leaf0 : Bytes32 := digest 0x890b1ee563a29710f793a31bf0e29035230533d1267ff5f5404d003ac2a37269

def leaf1 : Bytes32 := digest 0x13434aa7e1d5e58dab3d9b43ac602262514487f1f651e40613ea15c641f7b631

def leaf2 : Bytes32 := digest 0xc900566743bf5e4b50efc26513789a84b801d2716f788adf3f301ea167d43e35

def left : Bytes32 := digest 0xfbff3b4b11ba5f4fd5d7095706b61d5a9b4b268911c6e443ef035b3ae214bc13

def right : Bytes32 := digest 0xa21831df3dc98bfd048f3816b87cb16ac7ced6afff5dbba7fb54e920ee86ec9b

def root : Bytes32 := digest 0x5a6ff80e8888f7ac01a764a131343aee255cdd1a2d3490a6c459da6c1faa4b8e

def proofs : List MerkleProof :=
  [⟨[leaf1, right], 0, digest 0xef9d334ee3e15416314a60312ef616e881c3bfffe4b60b11befc2707c79b7d35⟩,
    ⟨[leaf0, right], 1, digest 0xa71ca41918eda0f02f5b9d034207bc6da722ef3dbac84742f3e5c64d80fd55e5⟩,
    ⟨[zero32, left], 2, digest 0x8d6c98e59b99b453ad086d229fff0a76b26bd736d913256971f1f7e5df0efd77⟩]

/-- The other secret for the first index, and its leaf. -/
def rivalPair : IndexedSecret :=
  ⟨0, digest 0xa71ca41918eda0f02f5b9d034207bc6da722ef3dbac84742f3e5c64d80fd55e5⟩

def rivalLeaf : Bytes32 := digest 0x55a904280a68c3f3a3cedc5fdfdcfb68027e8c507761b6879744211b265067ca

/-- The proofs of the two secrets for the first index. -/
def firstProof : MerkleProof :=
  ⟨[rivalLeaf], 0, digest 0xef9d334ee3e15416314a60312ef616e881c3bfffe4b60b11befc2707c79b7d35⟩

def rivalProof : MerkleProof := ⟨[leaf0], rivalPair.index, rivalPair.hashedSecret⟩

def orderMessage (p : OrderParams Term) : List Byte := (orderHashParts (environment []) p).flatten

/-- The keccak values of the messages that the runs hash. -/
def digests : List (List Byte × Nat) :=
  [(secret.1, 0x9c8f5614bb174c2ae47564e24b9d7eabd43fca7dc7703456c9f9316a14953b77),
    (auction.tryToVec.toOption.getD [],
      0xb03edc86afdcb12c05dfa28a458853322824a9e629ee29d7cf89f423129211ac),
    (orderMessage single, 0x2e3001477b707d7f798f269b0e8315dea58f430a0f1878b26bb2ec709ceeb697),
    (orderMessage disordered, 0x490c34be0411ed3950b666c765fbbb9c8b7dbe4fdc4cbcfe7aea9b53858c66fa),
    (orderMessage multiple, 0x61145d8dd135ee9dad6d2824561e863c3e35c151bdb67e248be4522654ede2b0),
    (orderMessage overflowing, 0x2798690cd4e7e99e29e23d92e1957e4421c6a8a9fe45e824d1c8477d0bcff8a7),
    (orderMessage lasting, 0x7ac9575e71ffc065371b93e4f0eef4dd2f4c7ca07d4942fbaa3fd0c991fc52e3),
    (orderMessage huge, 0xa4841cf4aad030ae6ffff981caee55e1234108c1bec77418c222bec1438e50d2),
    (orderMessage tiny, 0xcaa4ccb2c9b7915d2cc9b023d3d933d083c5cef0af482663d30008572222805b),
    (orderMessage generous, 0x63e1d94e89e6e3fcaae75324b5b9cd5a01f7311f36b40d879bc388dc1c7c6aa2),
    (orderMessage ambiguous, 0x1fbbbf77e9781a83128f64f74ede730c38a4771ee10166cca6f502fa7999e192),
    (rivalPair.message, 0x55a904280a68c3f3a3cedc5fdfdcfb68027e8c507761b6879744211b265067ca),
    (rivalLeaf.1 ++ leaf0.1, 0x89601111a11acfea75b75c3a145bf71bb5976d4cc820dc062e6e06bf20754761)] ++
  (pairs.map IndexedSecret.message).zip
    [0x890b1ee563a29710f793a31bf0e29035230533d1267ff5f5404d003ac2a37269,
      0x13434aa7e1d5e58dab3d9b43ac602262514487f1f651e40613ea15c641f7b631,
      0xc900566743bf5e4b50efc26513789a84b801d2716f788adf3f301ea167d43e35] ++
  [(leaf1.1 ++ leaf0.1, 0xfbff3b4b11ba5f4fd5d7095706b61d5a9b4b268911c6e443ef035b3ae214bc13),
    (zero32.1 ++ leaf2.1, 0xa21831df3dc98bfd048f3816b87cb16ac7ced6afff5dbba7fb54e920ee86ec9b),
    (right.1 ++ left.1, 0x5a6ff80e8888f7ac01a764a131343aee255cdd1a2d3490a6c459da6c1faa4b8e)]

def env : Environment Term := environment digests

theorem collisionFree : env.CollisionFree := termHost_collisionFree

theorem wallet_atom (n : Nat) : env.Wallet (.atom n) := by
  intro program _ seeds bump same
  exact Term.derive_ne_atom program seeds bump n (Option.some.inj same)

/-! ### Genesis -/

def associated (wallet : Term) : Term := env.associatedTokenAddress wallet .token usdc

def ledger : Chain Term where
  lamports key :=
    if key = authority ∨ key = maker ∨ key = taker then 1000000000
    else if key = associated maker ∨ key = associated taker then 2039280 else 0
  data key :=
    if key = associated maker then .token ⟨usdc, maker, 5000, .token, none⟩
    else if key = associated taker then .token ⟨usdc, taker, 5000, .token, none⟩ else .empty

theorem ledger_token {key : Term} {account : TokenAccount Term}
    (loaded : ledger.data key = .token account) :
    ∃ wallet, key = associated wallet ∧ account = ⟨usdc, wallet, 5000, .token, none⟩ := by
  unfold ledger at loaded
  dsimp only at loaded
  split at loaded
  · next same => exact ⟨maker, same, (AccountData.token.inj loaded).symm⟩
  · split at loaded
    · next same => exact ⟨taker, same, (AccountData.token.inj loaded).symm⟩
    · cases loaded

theorem genesis : Genesis env ledger where
  noPrograms key := by
    unfold ledger Ledger.programAt
    dsimp only
    split
    · next held =>
      split at held
      · cases held
      · split at held <;> cases held
    · rfl
  tokens key account loaded := by
    obtain ⟨wallet, _, rfl⟩ := ledger_token loaded
    refine ⟨rfl, ?_, fun reserve wrapped => by cases wrapped⟩
    constructor
    · intro wrapped
      cases wrapped
    · intro native
      have distinct : usdc ≠ nativeMint .token := by decide
      exact absurd native distinct
  derived wallet _ program mint account loaded := by
    obtain ⟨other, same, rfl⟩ := ledger_token loaded
    obtain ⟨wallets, programs, mints⟩ := collisionFree.associated_inj same
    exact ⟨wallets.symm, programs.symm, mints.symm⟩

/-- Other lamports do not matter at addresses without token accounts. -/
theorem genesis_lamports {l : Chain Term} (start : Genesis env l) {address : Term} {n : Nat}
    (plain : l.tokenAt address = none) : Genesis env (l.setLamports address n) where
  noPrograms := start.noPrograms
  tokens key account loaded := by
    have other : key ≠ address := by
      intro same
      subst same
      have held : l.tokenAt key = some account := Ledger.tokenAt_eq_some.mpr loaded
      rw [plain] at held
      cases held
    rw [Ledger.setLamports_lamports_other _ _ _ other]
    exact start.tokens key account loaded
  derived := start.derived

/-- A wallet may hold a sound token account at its own associated address. -/
theorem genesis_token {l : Chain Term} (start : Genesis env l) {address : Term}
    {account : TokenAccount Term}
    (own : address = env.associatedTokenAddress account.owner account.program account.mint)
    (sound : SoundToken env.toHost account (l.lamports address)) :
    Genesis env (l.setData address (.token account)) where
  noPrograms key := by
    rw [Ledger.programAt_setData]
    by_cases same : key = address
    · rw [same, Function.update_self]
      rfl
    · rw [Function.update_of_ne same]
      exact start.noPrograms key
  tokens key held loaded := by
    by_cases same : key = address
    · subst same
      obtain rfl := AccountData.token.inj ((Ledger.setData_data_self _ _ _).symm.trans loaded)
      exact sound
    · rw [Ledger.setData_data_other _ _ _ same] at loaded
      exact start.tokens key held loaded
  derived wallet isDerived program mint held loaded := by
    by_cases same : env.associatedTokenAddress wallet program mint = address
    · rw [same] at loaded
      obtain rfl := AccountData.token.inj ((Ledger.setData_data_self _ _ _).symm.trans loaded)
      obtain ⟨wallets, programs, mints⟩ := collisionFree.associated_inj (same.trans own)
      exact ⟨wallets.symm, programs.symm, mints.symm⟩
    · rw [Ledger.setData_data_other _ _ _ same] at loaded
      exact start.derived wallet isDerived program mint held loaded

/-- The ledger with another balance of the maker. -/
def wealthy (amount : Nat) : Chain Term :=
  ledger.setData (associated maker) (.token ⟨usdc, maker, amount, .token, none⟩)

theorem genesis_wealthy (amount : Nat) : Genesis env (wealthy amount) := by
  have sound := genesis.tokens (associated maker) ⟨usdc, maker, 5000, .token, none⟩ rfl
  exact genesis_token genesis rfl
    ⟨sound.program, sound.native, fun reserve wrapped => by cases wrapped⟩

/-- Where a wallet holds wrapped lamports. -/
def wrapped (wallet : Term) : Term :=
  env.associatedTokenAddress wallet .token (nativeMint .token)

/-- The ledger in which the taker has an account for wrapped lamports. -/
def wrapping : Chain Term :=
  (ledger.setLamports (wrapped taker) 2039280).setData (wrapped taker)
    (.token ⟨nativeMint .token, taker, 0, .token, some 2039280⟩)

theorem genesis_wrapping : Genesis env wrapping := by
  refine genesis_token (genesis_lamports genesis ?_) rfl ⟨rfl, ?_, ?_⟩
  · decide +kernel
  · exact ⟨fun _ => rfl, fun _ => rfl⟩
  · intro reserve isNative
    obtain rfl := Option.some.inj isNative
    rw [Ledger.setLamports_lamports_self]
    exact Nat.le_refl _

/-! ### Calls -/

def derived (program : Term) (seeds : Seeds Term) : Term :=
  (env.findProgramAddress program seeds).1

def whitelistState : Term := derived whitelistId whitelistStateSeeds

def takerAccess : Term := derived whitelistId (resolverAccessSeeds srcId taker)

def orderAt (p : OrderParams Term) : Term := derived srcId (orderSeeds (getOrderHash env p))

def escrowAt (p : OrderParams Term) (amount : U64) (proof : Option MerkleProof) : Term :=
  derived srcId (escrowSeeds (getOrderHash env p) (getEscrowHashlock p.hashlock proof) taker amount)

def create (p : OrderParams Term) : Src.Create Term where
  creator := p.maker
  mint := p.token
  creatorAta := some (associated p.maker)
  order := orderAt p
  orderAta := associated (orderAt p)
  tokenProgram := .token
  hashlock := p.hashlock
  amount := p.orderAmount
  safetyDeposit := p.safetyDeposit
  timelocks := p.timelocks
  expirationTime := p.expirationTime
  assetIsNative := p.assetIsNative
  dstAmount := p.dstAmount
  dutchAuctionDataHash := p.dutchAuctionDataHash
  maxCancellationPremium := p.maxCancellationPremium
  cancellationAuctionDuration := p.cancellationAuctionDuration
  allowMultipleFills := p.allowMultipleFills
  salt := p.salt

def createEscrow (p : OrderParams Term) (amount : U64) (proof : Option MerkleProof) :
    Src.CreateEscrow Term where
  taker := taker
  resolverAccess := takerAccess
  maker := p.maker
  mint := p.token
  order := orderAt p
  orderAta := associated (orderAt p)
  escrow := escrowAt p amount proof
  escrowAta := associated (escrowAt p amount proof)
  tokenProgram := .token
  amount := amount
  merkleProof := proof
  dutchAuctionData := auction

/-- The escrow of the whole single order. -/
def escrow : Term := escrowAt single 1000 none

def rescueEscrow : Src.RescueFundsForEscrow Term where
  taker := taker
  mint := usdc
  escrow := escrow
  escrowAta := associated escrow
  takerAta := associated taker
  tokenProgram := .token
  orderHash := getOrderHash env single
  hashlock := single.hashlock
  amount := 1000
  rescueAmount := 1000

def rescueOrder : Src.RescueFundsForOrder Term where
  resolver := taker
  resolverAccess := takerAccess
  mint := usdc
  order := orderAt single
  orderAta := associated (orderAt single)
  resolverAta := associated taker
  tokenProgram := .token
  params := single
  rescueAmount := 1000

/-- The withdrawal from it. -/
def withdrawSrc : Src.Withdraw Term where
  taker := taker
  mint := usdc
  escrow := escrow
  escrowAta := associated escrow
  takerAta := associated taker
  tokenProgram := .token
  secret := secret

/-- A destination escrow for the order, by the taker for the maker. -/
def createDst (p : OrderParams Term) (timelocks : Limbs) (srcCancellation : U32) :
    Dst.Create Term :=
  let escrow := derived dstId (escrowSeeds (getOrderHash env p) p.hashlock taker 2000)
  { creator := taker, mint := usdc, creatorAta := some (associated taker), escrow := escrow
    escrowAta := associated escrow, tokenProgram := .token, orderHash := getOrderHash env p
    hashlock := p.hashlock, amount := 2000, safetyDeposit := 5, recipient := maker
    timelocks := timelocks, srcCancellationTimestamp := srcCancellation, assetIsNative := false }

/-- The same escrow of lamports. -/
def createNativeDst (p : OrderParams Term) (timelocks : Limbs) (srcCancellation : U32) :
    Dst.Create Term :=
  let plain := createDst p timelocks srcCancellation
  { plain with
    mint := nativeMint .token
    creatorAta := none
    escrowAta := wrapped plain.escrow
    assetIsNative := true }

/-- A destination escrow of 2000 lamports. -/
def nativeDst : Dst.Create Term :=
  createNativeDst single (offsets 10 20 30 40 5 8 12) 2000000

/-- The taker is whitelisted at the first second. -/
def whitelisting : List (Command Term) :=
  [.call (.whitelist (.initializeWhitelist ⟨authority, whitelistState⟩)),
    .call (.whitelist (.register ⟨authority, whitelistState, takerAccess, taker, srcId⟩))]

/-- One order, filled fifty seconds later. -/
def singleFill (p : OrderParams Term) : List (Command Term) :=
  whitelisting ++ [.wait 100, .call (.src (.create (create p))), .wait 150,
    .call (.src (.createEscrow (createEscrow p 1000 none)))]

/-- An order created and then filled by `fills`, amounts with their proofs. -/
def multipleFills (fills : List (U64 × MerkleProof)) : List (Command Term) :=
  whitelisting ++ [.wait 100, .call (.src (.create (create multiple))), .wait 150] ++
    fills.map (fun f => .call (.src (.createEscrow (createEscrow multiple f.1 (some f.2)))))

def isAtom : Term → Bool
  | .atom _ => true
  | .node _ _ => false

/-- An account that a computed check reads is one of that kind, with the checked property. -/
theorem live {T : Type} {read : Data Term → Option T} {make : T → Data Term}
    (inverse : ∀ data v, read data = some v ↔ data = make v) {found : Option (Data Term)}
    {P : T → Prop} [DecidablePred P]
    (held : (found.bind read).any (fun v => decide (P v)) = true) :
    ∃ v, found = some (make v) ∧ P v := by
  obtain ⟨v, stored, facts⟩ := (Option.any_eq_true _ _).mp held
  obtain ⟨data, here, isKind⟩ := Option.bind_eq_some_iff.mp stored
  have kind : data = make v := (inverse data v).mp isKind
  exact ⟨v, kind ▸ here, of_decide_eq_true facts⟩

theorem live_order {found : Option (Data Term)} {P : Order Term → Prop} [DecidablePred P] :
    (found.bind Data.toOrder).any (fun v => decide (P v)) = true →
      ∃ order, found = some (.order order) ∧ P order :=
  live Data.toOrder_eq_some

theorem live_escrowSrc {found : Option (Data Term)} {P : EscrowSrc Term → Prop} [DecidablePred P] :
    (found.bind Data.toEscrowSrc).any (fun v => decide (P v)) = true →
      ∃ escrow, found = some (.escrowSrc escrow) ∧ P escrow :=
  live Data.toEscrowSrc_eq_some

theorem live_escrowDst {found : Option (Data Term)} {P : EscrowDst Term → Prop} [DecidablePred P] :
    (found.bind Data.toEscrowDst).any (fun v => decide (P v)) = true →
      ∃ escrow, found = some (.escrowDst escrow) ∧ P escrow :=
  live Data.toEscrowDst_eq_some

/-- The same when only its kind was checked. -/
theorem present {T : Type} {read : Data Term → Option T} {make : T → Data Term}
    (inverse : ∀ data v, read data = some v ↔ data = make v) {found : Option (Data Term)}
    (held : (found.bind read).isSome = true) : ∃ v, found = some (make v) := by
  obtain ⟨v, stored⟩ := Option.isSome_iff_exists.mp held
  obtain ⟨data, here, isKind⟩ := Option.bind_eq_some_iff.mp stored
  exact ⟨v, (inverse data v).mp isKind ▸ here⟩

theorem live_token {l : Chain Term} {address : Term} {P : TokenAccount Term → Prop}
    [DecidablePred P] (held : (l.tokenAt address).any (fun t => decide (P t)) = true) :
    ∃ token, l.data address = .token token ∧ P token := by
  obtain ⟨token, stored, facts⟩ := (Option.any_eq_true _ _).mp held
  exact ⟨token, Ledger.tokenAt_eq_some.mp stored, of_decide_eq_true facts⟩

/-- A call whose computed result was checked. -/
theorem ran {result : Result (Chain Term)} {P : Chain Term → Prop} [DecidablePred P]
    (held : result.toOption.any (fun l => decide (P l)) = true) :
    ∃ l, result = .ok l ∧ P l := by
  obtain ⟨l, computed, facts⟩ := (Option.any_eq_true _ _).mp held
  exact ⟨l, ok_of_toOption computed, of_decide_eq_true facts⟩

theorem signed_atom (n : Nat) : ∀ key ∈ [Term.atom n], env.Wallet key := by
  intro key member
  rw [List.mem_singleton.mp member]
  exact wallet_atom n

/-- A run from a genesis by signers that are wallets, and what was computed to hold
at its end. -/
structure Scenario (P : Run Term → Prop) [DecidablePred P] where
  ledger : Chain Term := Sample.ledger
  genesis : Genesis env ledger := by exact Sample.genesis
  commands : List (Command Term)
  computed : (commands.all (fun command => command.signers.all isAtom) &&
    (execute env ⟨[], ⟨ledger, ⟨0⟩⟩⟩ commands).any (fun r => decide (P r))) = true := by
    decide +kernel

section Reached
variable {P : Run Term → Prop} [DecidablePred P] (scenario : Scenario P)

theorem Scenario.signed :
    ∀ command ∈ scenario.commands, ∀ key ∈ command.signers, env.Wallet key := by
  obtain ⟨signed, _⟩ := Bool.and_eq_true_iff.mp scenario.computed
  intro command member key signer
  have all := List.all_eq_true.mp (List.all_eq_true.mp signed command member) key signer
  cases key with
  | atom n => exact wallet_atom n
  | node left right => cases all

theorem Scenario.executes :
    ∃ r, execute env ⟨[], ⟨scenario.ledger, ⟨0⟩⟩⟩ scenario.commands = some r ∧ P r := by
  obtain ⟨_, ended⟩ := Bool.and_eq_true_iff.mp scenario.computed
  obtain ⟨r, ran, decided⟩ := (Option.any_eq_true _ _).mp ended
  exact ⟨r, ran, of_decide_eq_true decided⟩

include scenario in
theorem Scenario.reached : ∃ r : Run Term, Trace env r.history r.state ∧ P r := by
  obtain ⟨r, ran, holds⟩ := scenario.executes
  have trace : Trace env [] ⟨scenario.ledger, ⟨0⟩⟩ := .start scenario.genesis
  exact ⟨r, execute_trace (r := ⟨[], ⟨scenario.ledger, ⟨0⟩⟩⟩) trace scenario.signed ran, holds⟩

end Reached

end Sample

end CrossChainEscrow.Source
