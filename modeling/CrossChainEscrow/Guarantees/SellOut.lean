import CrossChainEscrow.Guarantees.Conservation
import CrossChainEscrow.Guarantees.HonestMaker

/-!
# An order in parts can be sold out

The fills that the index rule asks for can be made one after the other until nothing
is left. `SoldBy` lists what the takers buy and when; as long as each purchase keeps
to the parts and every taker can spare the rent, the whole list goes through, every
purchase gets an escrow of its own for the secret that the rule names, and the order
is closed at the end.
-/

namespace CrossChainEscrow.Source
open Library.Words Library.Bytes Library.Accounts Library.Parts Library.Registries Whitelist

variable {K : Type} [DecidableEq K] {env : Environment K} {h : History K} {s : State K} {a : K}
  {l l' : Chain K} {order : Order K} {pairs : List IndexedSecret} {root : Bytes32} {parts : U16}
  {auction : AuctionData}

/-! ## Sales -/

/-- What a taker buys of an order, and when. -/
structure Sale (K : Type) where
  taker : K
  amount : U64
  time : U32

/-- A fill and the time it is made. -/
structure Deal (K : Type) where
  time : U32
  fill : Src.CreateEscrow K

def Deal.sale (deal : Deal K) : Sale K := ⟨deal.fill.taker, deal.fill.amount, deal.time⟩

def Deal.commands (deal : Deal K) : List (Command K) :=
  [.wait deal.time, .call (.src (.createEscrow deal.fill))]

/-- The sales sell the whole order: each comes in time, keeps to the parts and to what
the sales before it left, and the last takes the rest. -/
inductive Order.SoldBy (env : Environment K) (auction : AuctionData) :
    U32 → Order K → List (Sale K) → Prop
  | last {now : U32} {order : Order K} {sale : Sale K} (later : now ≤ sale.time)
      (sells : order.Sells env ⟨sale.time⟩ sale.amount auction) (divides : order.Divides sale.amount)
      (rest : order.remainingAmount = sale.amount) : SoldBy env auction now order [sale]
  | more {now : U32} {order : Order K} {sale : Sale K} {sales : List (Sale K)} {remainingAmount : U64}
      (later : now ≤ sale.time) (sells : order.Sells env ⟨sale.time⟩ sale.amount auction)
      (divides : order.Divides sale.amount)
      (left : remainingAmount.toNat + sale.amount.toNat = order.remainingAmount.toNat)
      (some : 0 < remainingAmount.toNat)
      (next : SoldBy env auction sale.time { order with remainingAmount } sales) :
      SoldBy env auction now order (sale :: sales)

/-- Every taker is a wallet on the whitelist that has no data and can spare the rent of
an escrow for each of its purchases. -/
def Provided (env : Environment K) (h : History K) (s : State K) (mint : K)
    (sales : List (Sale K)) : Prop :=
  ∀ sale ∈ sales, env.Wallet sale.taker ∧ s.ledger.data sale.taker = .empty ∧
    Enrolled (env.srcId, sale.taker) (whitelistLog h) ∧
    env.CanSpare s.ledger sale.taker
      (sales.countP (fun other => decide (other.taker = sale.taker)) * env.escrowRent mint)

/-- The fill carries the secret of the index that the rule names, with the proof that
the builder gives out for it. -/
def Order.Indexes (env : Environment K) (order : Order K) (pairs : List IndexedSecret)
    (fill : Src.CreateEscrow K) : Prop :=
  ∃ k pair siblings,
    getIndexForEscrowAmount order.amount order.remainingAmount order.parts fill.amount = .ok k ∧
    pairs[k.toNat]? = some pair ∧ getProof env (hashPairs env pairs) k.toNat = .ok siblings ∧
    fill.merkleProof = some ⟨siblings, pair.index, pair.hashedSecret⟩

/-- So does every fill of the list, for what the fills before it left. -/
def Order.Follows (env : Environment K) (pairs : List IndexedSecret) : Order K → List (Deal K) → Prop
  | _, [] => True
  | order, deal :: deals => order.Indexes env pairs deal.fill ∧
      Follows env pairs { order with remainingAmount := order.remainingAmount - deal.fill.amount } deals

/-! ## Secrets that are still unused -/

/-- The first index that the rule can name for the next fill. -/
def Order.nextIndex (order : Order K) : Nat :=
  if order.remainingAmount = order.amount then 0
  else partOf order.amount.toNat order.parts.toNat
    (order.amount.toNat - order.remainingAmount.toNat) + 1

/-- The escrows that the sales could open for the secrets from that index on are not
there. -/
def Order.Unused (env : Environment K) (order : Order K) (pairs : List IndexedSecret)
    (sales : List (Sale K)) (l : Chain K) : Prop :=
  ∀ (i : Nat) (pair : IndexedSecret), pairs[i]? = some pair → order.nextIndex ≤ i →
    ∀ (siblings : List Bytes32), ∀ sale ∈ sales, l.data (order.escrowAddress env sale.taker sale.amount
      (some ⟨siblings, pair.index, pair.hashedSecret⟩)) = .empty

omit [DecidableEq K] in
/-- The index of the rule is not one of those used before, and the next one is behind
it. -/
theorem Order.Divides.next {m : U64} {k : U64} (divides : order.Divides m)
    (total : order.remainingAmount.toNat ≤ order.amount.toNat) (several : 0 < order.parts.toNat)
    (rule : getIndexForEscrowAmount order.amount order.remainingAmount order.parts m = .ok k) :
    order.nextIndex ≤ k.toNat ∧ ∀ remainingAmount : U64,
      remainingAmount.toNat + m.toNat = order.remainingAmount.toNat → 0 < remainingAmount.toNat →
      Order.nextIndex { order with remainingAmount } = k.toNat + 1 := by
  have positive := divides.positive
  have within := divides.within
  obtain ⟨filled, done⟩ : ∃ filled, filled = order.amount.toNat - order.remainingAmount.toNat :=
    ⟨_, rfl⟩
  have sum : filled + order.remainingAmount.toNat = order.amount.toNat := by omega
  have small := divides.small
  have later := divides.later
  rw [← done] at small later
  rw [getIndexForEscrowAmount_ok k sum within positive small] at rule
  constructor
  · unfold Order.nextIndex
    split
    · exact Nat.zero_le _
    · next started =>
      have began : order.remainingAmount.toNat < order.amount.toNat :=
        Nat.lt_of_le_of_ne total fun same => started (BitVec.eq_of_toNat_eq same)
      rw [rule, ← done]
      split
      · exact partOf_lt (by omega) (by omega) several
      · exact later (by omega) began
  · intro remainingAmount left some
    have continues : m.toNat ≠ order.remainingAmount.toNat := by omega
    have started : remainingAmount ≠ order.amount := by
      intro same
      have amounts := congrArg BitVec.toNat same
      omega
    have reached : order.amount.toNat - remainingAmount.toNat = filled + m.toNat := by omega
    rw [rule, if_neg continues, Order.nextIndex, if_neg started]
    change partOf order.amount.toNat order.parts.toNat
      (order.amount.toNat - remainingAmount.toNat) + 1 = _
    rw [reached]

omit [DecidableEq K] in
theorem escrowSeeds_hashlock {hash hashlock hashlock' : Bytes32} {party party' : K}
    {amount amount' : U64}
    (same : escrowSeeds hash hashlock party amount = escrowSeeds hash hashlock' party' amount') :
    hashlock = hashlock' := by
  simp only [escrowSeeds, List.append_assoc] at same
  have rest := List.append_cancel_left (List.append_cancel_left same)
  have bytes := (List.append_inj rest (by simp [Seeds.bytes, hashlock.2, hashlock'.2])).1
  exact Subtype.ext (List.map_injective_iff.mpr Sum.inl_injective bytes)

/-! ## One sale -/

/-- A live order in parts, of a rent-exempt maker and with its tree, the later secrets of
which are different and unused. -/
structure Sellable (env : Environment K) (h : History K) (l : Chain K) (a : K) (order : Order K)
    (pairs : List IndexedSecret) (root : Bytes32) (parts : U16) (sales : List (Sale K)) : Prop where
  live : l.programAt a = some (.order order)
  whole : orderUnrescued a h = true
  exempt : env.RentExempt l order.creator
  multi : order.allowMultipleFills = true
  tree : order.BuiltFrom env pairs root parts
  distinct : (pairs.map IndexedSecret.hashedSecret).Nodup
  unused : order.Unused env pairs sales l

/-- The escrow of a purchase stands for its secret, with the amount behind it. -/
def Bought (env : Environment K) (order : Order K) (program : TokenProgram) (fill : Src.CreateEscrow K)
    (l : Chain K) : Prop :=
  ∃ e, l.programAt fill.escrow = some (.escrowSrc e) ∧ e.taker = fill.taker ∧ e.amount = fill.amount ∧
    e.hashlock = getEscrowHashlock order.hashlock fill.merkleProof ∧
    fill.amount.toNat ≤ l.tokens (env.associatedTokenAddress fill.escrow program order.token)

/-- The source escrows stay, and none loses tokens. -/
def KeepsEscrows (env : Environment K) (l l' : Chain K) : Prop :=
  ∀ k e, l.programAt k = some (.escrowSrc e) → l'.programAt k = some (.escrowSrc e) ∧
    ∀ program mint, l.tokens (env.associatedTokenAddress k program mint) ≤
      l'.tokens (env.associatedTokenAddress k program mint)

omit [DecidableEq K] in
theorem KeepsEscrows.trans {m : Chain K} (first : KeepsEscrows env l m) (second : KeepsEscrows env m l') :
    KeepsEscrows env l l' := by
  intro k e held
  obtain ⟨here, more⟩ := first k e held
  obtain ⟨there, evenMore⟩ := second k e here
  exact ⟨there, fun program mint => Nat.le_trans (more program mint) (evenMore program mint)⟩

omit [DecidableEq K] in
theorem Bought.kept {program : TokenProgram} {fill : Src.CreateEscrow K}
    (bought : Bought env order program fill l) (keeps : KeepsEscrows env l l') :
    Bought env order program fill l' := by
  obtain ⟨e, held, taker, amount, hashlock, collateral⟩ := bought
  obtain ⟨there, more⟩ := keeps _ e held
  exact ⟨e, there, taker, amount, hashlock, Nat.le_trans collateral (more _ _)⟩

/-- The ledger after a sale: the purchase has its escrow, the other escrows are still
there, wallets keep what is theirs, and only the taker pays. -/
structure Sold (env : Environment K) (order : Order K) (program : TokenProgram) (sale : Sale K)
    (fill : Src.CreateEscrow K) (l l' : Chain K) : Prop where
  bought : Bought env order program fill l'
  kept : KeepsEscrows env l l'
  standing : Standing env.Wallet l l'
  paid : ∀ wallet, env.Wallet wallet → ∃ cost, cost ≤ env.escrowRent order.token ∧
    (wallet ≠ sale.taker → cost = 0) ∧ l.lamports wallet ≤ l'.lamports wallet + cost

section Step
variable {program : TokenProgram} {sale : Sale K} {fill : Src.CreateEscrow K}
  {v : Src.CreateEscrow.Values K}

/-- A fill leaves the escrows of the later secrets unused. -/
theorem Src.CreateEscrow.Steps.unused (steps : Src.CreateEscrow.Steps env s.clock fill s.ledger v l')
    (free : env.CollisionFree) (distinct : (pairs.map IndexedSecret.hashedSecret).Nodup)
    {sales : List (Sale K)} (unused : v.order.Unused env pairs sales s.ledger) {i : Nat} {pair : IndexedSecret}
    (here : pairs[i]? = some pair) (fresh : v.order.nextIndex ≤ i)
    (proof : ∃ siblings, fill.merkleProof = some ⟨siblings, pair.index, pair.hashedSecret⟩)
    {remainingAmount : U64} (next : Order.nextIndex { v.order with remainingAmount } = i + 1) :
    Order.Unused env { v.order with remainingAmount } pairs sales l' := by
  intro j later there behind siblings sale member
  change l'.data (v.order.escrowAddress env sale.taker sale.amount
    (some ⟨siblings, later.index, later.hashedSecret⟩)) = .empty
  rw [next] at behind
  obtain ⟨path, given⟩ := proof
  obtain ⟨_, _, _, _, _, _, isAta, _⟩ := steps.moved_effect
  have vacant := unused j later there (by omega) siblings sale member
  have derived : env.Derived (v.order.escrowAddress env sale.taker sale.amount
      (some ⟨siblings, later.index, later.hashedSecret⟩)) := env.derived_src (env.find_created rfl)
  refine (steps.others ?_ ?_ ?_ ?_).trans vacant
  · intro same
    have seeds := (free.find_inj (same.trans steps.derived)).2
    have hashlocks : later.hashedSecret = pair.hashedSecret := by
      have found := escrowSeeds_hashlock seeds
      rwa [given] at found
    have secret : (pairs.map IndexedSecret.hashedSecret)[j]? =
        (pairs.map IndexedSecret.hashedSecret)[i]? := by
      simp [here, there, hashlocks]
    have inside : j < (pairs.map IndexedSecret.hashedSecret).length := by
      obtain ⟨inside, _⟩ := List.getElem?_eq_some_iff.mp there
      simpa using inside
    have index := (List.getElem?_inj inside distinct).mp secret
    omega
  · rw [isAta]
    exact derived.ne_associated free _ _ _
  · intro same
    have order := steps.loaded
    rw [← same, vacant] at order
    cases order
  · rw [steps.ataDerived]
    exact derived.ne_associated free _ _ _

/-- What a fill for a sale leaves to everybody. -/
theorem Src.CreateEscrow.Steps.sold (steps : Src.CreateEscrow.Steps env s.clock fill s.ledger v l')
    (free : env.CollisionFree) (trace : Trace env h s) (wallet : env.Wallet fill.taker)
    (isTaker : fill.taker = sale.taker)
    (isAta : fill.escrowAta = env.associatedTokenAddress fill.escrow program v.order.token)
    (ran : (Instruction.src (.createEscrow fill)).run env s.clock s.ledger = .ok l')
    (collateral : fill.amount.toNat ≤ l'.tokens fill.escrowAta) :
    Sold env v.order program sale fill s.ledger l' := by
  have live := Ledger.programAt_eq_some.mpr steps.loaded
  have vacant := (createAccount_ok.mp steps.allocate).1
  have signed : ∀ key ∈ (Instruction.src (.createEscrow fill)).signers, env.Wallet key :=
    wallet_of_signers wallet
  refine ⟨⟨_, steps.escrow_programAt, rfl, rfl, Src.acceptedHashlock_eq steps.accepted,
    isAta ▸ collateral⟩, fun k e held => ?_, Instruction.standing ran, fun wallet isWallet => ?_⟩
  · have unnamed : k ∉ (Instruction.src (.createEscrow fill)).named := by
      intro named
      rcases List.mem_cons.mp named with rfl | named
      · rw [live] at held
        cases held
      · rw [List.mem_singleton.mp named, Ledger.programAt_eq_some, vacant] at held
        cases held
    have untouched := trace.untouched_call free held signed ran unnamed
    exact ⟨untouched.data.trans held, untouched.tokens⟩
  · obtain ⟨_, cost, bound, others, paid⟩ := trace.fill_wallet ran isWallet
    rw [steps.mint] at bound
    exact ⟨cost, bound, isTaker ▸ others, paid⟩

/-- A sale goes through and leaves the rest of the order to be sold. -/
theorem Trace.sale_runs (free : env.CollisionFree) (trace : Trace env h s) {sales : List (Sale K)}
    (rent : RentSound env.toHost s.ledger)
    (sellable : Sellable env h s.ledger a order pairs root parts (sale :: sales))
    (isNow : s.clock = ⟨sale.time⟩) (owned : env.mintProgram order.token = some program)
    (sells : order.Sells env ⟨sale.time⟩ sale.amount auction) (divides : order.Divides sale.amount)
    (wallet : env.Wallet sale.taker) (plain : s.ledger.data sale.taker = .empty)
    (spare : env.CanSpare s.ledger sale.taker (env.escrowRent order.token))
    (listed : Enrolled (env.srcId, sale.taker) (whitelistLog h)) :
    ∃ fill l', Deal.sale ⟨sale.time, fill⟩ = sale ∧ order.Indexes env pairs fill ∧
      s.ledger.data fill.escrow = .empty ∧
      (Instruction.src (.createEscrow fill)).process env s.clock s.ledger = .ok l' ∧
      Sold env order program sale fill s.ledger l' ∧
      (order.remainingAmount = sale.amount → l'.programAt a = none ∧
        l'.data (env.associatedTokenAddress a program order.token) = .empty) ∧
      ∀ remainingAmount : U64, remainingAmount.toNat + sale.amount.toNat =
          order.remainingAmount.toNat → 0 < remainingAmount.toNat →
        Sellable env (⟨s, .src (.createEscrow fill), l'⟩ :: h) l' a { order with remainingAmount } pairs
          root parts sales ∧
        ∀ k, l'.data k = .empty → s.ledger.data k = .empty := by
  obtain ⟨live, whole, exempt, multi, tree, distinct, unused⟩ := sellable
  obtain ⟨program', account, ready⟩ := trace.order_ready free live whole
  obtain rfl : program' = program := Option.some.inj (ready.owned.symm.trans owned)
  obtain ⟨k, pair, siblings, rule, here, given, accepted, allows⟩ :=
    trace.tree_allows live multi tree divides
  obtain ⟨several, _, total, _⟩ := trace.order_in_parts live multi
  obtain ⟨fresh, next⟩ := divides.next total (by omega) rule
  have vacant := unused k.toNat pair here fresh siblings sale List.mem_cons_self
  obtain ⟨l', ran⟩ := trace.fill_runs free live ready wallet plain
    (Nat.le_trans (Nat.le_add_left _ _) spare) listed vacant (isNow ▸ allows _ _ sells)
  have processed := trace.fill_processes free rent wallet spare exempt ran
  have stillExempt := trace.fill_exempt ran spare (trace.parties live) exempt
  obtain ⟨v, steps⟩ := Src.createEscrow_steps ran
  obtain rfl : v.order = order := steps.order_eq live
  obtain ⟨_, _, _, made⟩ := ready.made live rfl rfl (trace.tracked live).whole ran
  obtain ⟨left, leaves, programs⟩ := steps.programAt
  have leftAt : l'.programAt a = left := by
    rw [programs]
    exact Function.update_self ..
  refine ⟨_, l', rfl, ⟨k, pair, siblings, rule, here, given, rfl⟩, vacant, processed,
    steps.sold free trace wallet rfl rfl ran made.collateral, fun rest => ?_,
    fun remainingAmount sum some => ?_⟩
  · rcases leaves with ⟨ends, gone⟩ | ⟨continues, _⟩
    · exact ⟨leftAt.trans gone, steps.filled.ended ends⟩
    · exact absurd (Or.inr rest) continues
  · rcases leaves with ⟨ends | ends, _⟩ | ⟨continues, remaining, sum', counted⟩
    · rw [multi] at ends
      cases ends
    · have amounts := congrArg BitVec.toNat ends
      change v.order.remainingAmount.toNat = sale.amount.toNat at amounts
      omega
    · change remaining.toNat + sale.amount.toNat = v.order.remainingAmount.toNat at sum'
      obtain rfl : remaining = remainingAmount := BitVec.eq_of_toNat_eq (by omega)
      refine ⟨⟨leftAt.trans counted, whole, stillExempt, multi,
        ⟨tree.length, tree.numbered, tree.built, tree.hashlock⟩, distinct, ?_⟩,
        fun k => steps.empty_before continues⟩
      exact fun i pair' there behind siblings' other member => steps.unused free distinct unused here
        fresh ⟨siblings, rfl⟩ (next _ sum some) i pair' there behind siblings' other
        (List.mem_cons_of_mem _ member)

end Step

/-! ## The whole order -/

/-- The ledger once the whole order is sold: the fills follow the rule, the order is
closed with its account, every purchase has an escrow of its own at an address that was
vacant, and the escrows from before are still there. -/
structure SoldOut (env : Environment K) (a : K) (order : Order K) (program : TokenProgram)
    (pairs : List IndexedSecret) (deals : List (Deal K)) (l l' : Chain K) : Prop where
  follows : order.Follows env pairs deals
  closed : l'.programAt a = none
  emptied : l'.data (env.associatedTokenAddress a program order.token) = .empty
  kept : KeepsEscrows env l l'
  vacant : ∀ deal ∈ deals, l.data deal.fill.escrow = .empty
  apart : (deals.map fun deal => deal.fill.escrow).Nodup
  bought : ∀ deal ∈ deals, Bought env order program deal.fill l'

section Whole
variable {program : TokenProgram} {sale : Sale K} {sales : List (Sale K)} {fill : Src.CreateEscrow K}

theorem Provided.rest (provided : Provided env h s order.token (sale :: sales))
    (sold : Sold env order program sale fill s.ledger l') (clock : Clock) {pre : State K} :
    Provided env (⟨pre, .src (.createEscrow fill), l'⟩ :: h) ⟨l', clock⟩ order.token sales := by
  intro other member
  obtain ⟨wallet, plain, listed, spare⟩ := provided other (List.mem_cons_of_mem _ member)
  obtain ⟨cost, bound, others, paid⟩ := sold.paid other.taker wallet
  have stillPlain := sold.standing.plain _ wallet plain
  refine ⟨wallet, stillPlain, listed, ?_⟩
  unfold Environment.CanSpare at *
  rw [plain, List.countP_cons] at spare
  change env.minimumBalance (env.dataLen Data.space (l'.data other.taker)) + _ ≤ l'.lamports other.taker
  rw [stillPlain]
  by_cases same : sale.taker = other.taker
  · rw [if_pos (decide_eq_true same), Nat.succ_mul] at spare
    omega
  · rw [if_neg (by simpa using same), Nat.add_zero] at spare
    have none := others (Ne.symm same)
    omega

/-- The first taker can spare the rent of its next escrow. -/
theorem Provided.spare (provided : Provided env h s order.token (sale :: sales)) :
    env.CanSpare s.ledger sale.taker (env.escrowRent order.token) := by
  obtain ⟨_, _, _, spare⟩ := provided sale List.mem_cons_self
  unfold Environment.CanSpare at *
  rw [List.countP_cons, if_pos (decide_eq_true rfl), Nat.succ_mul] at spare
  omega

omit [DecidableEq K] in
/-- A first sale and the rest. -/
theorem SoldOut.cons {m : Chain K} {deals : List (Deal K)} {remainingAmount : U64} {time : U32}
    (indexes : order.Indexes env pairs fill)
    (left : remainingAmount.toNat + fill.amount.toNat = order.remainingAmount.toNat)
    (vacant : l.data fill.escrow = .empty) (sold : Sold env order program sale fill l m)
    (before : ∀ k, m.data k = .empty → l.data k = .empty)
    (rest : SoldOut env a { order with remainingAmount } program pairs deals m l') :
    SoldOut env a order program pairs (⟨time, fill⟩ :: deals) l l' := by
  have isLeft : order.remainingAmount - fill.amount = remainingAmount := by
    apply BitVec.eq_of_toNat_eq
    rw [BitVec.toNat_sub_of_le (BitVec.le_def.mpr (by omega))]
    omega
  refine ⟨⟨indexes, ?_⟩, rest.closed, rest.emptied, sold.kept.trans rest.kept, fun deal member => ?_,
    List.nodup_cons.mpr ⟨fun member => ?_, rest.apart⟩, fun deal member => ?_⟩
  · rw [isLeft]
    exact rest.follows
  · rcases List.mem_cons.mp member with rfl | member
    · exact vacant
    · exact before _ (rest.vacant deal member)
  · obtain ⟨deal, member, same⟩ := List.mem_map.mp member
    obtain ⟨e, held, _⟩ := sold.bought
    have empty := rest.vacant deal member
    rw [same, Ledger.programAt_eq_some.mp held] at empty
    cases empty
  · rcases List.mem_cons.mp member with rfl | member
    · exact sold.bought.kept rest.kept
    · exact rest.bought deal member

/-- The whole list goes through, sale by sale. -/
theorem Order.SoldBy.runs {now : U32} (sold : order.SoldBy env auction now sales)
    (free : env.CollisionFree) (trace : Trace env h s) (isNow : s.clock = ⟨now⟩)
    (rent : RentSound env.toHost s.ledger)
    (sellable : Sellable env h s.ledger a order pairs root parts sales)
    (owned : env.mintProgram order.token = some program)
    (provided : Provided env h s order.token sales) :
    ∃ (deals : List (Deal K)) (r : Run K), deals.map Deal.sale = sales ∧
      execute env ⟨h, s⟩ (deals.flatMap Deal.commands) = some r ∧
      SoldOut env a order program pairs deals s.ledger r.state.ledger := by
  induction sold generalizing h s with
  | @last now order sale later sells divides rest =>
    obtain ⟨wallet, plain, listed, _⟩ := provided sale (List.mem_singleton_self _)
    have waited : Trace env h ⟨s.ledger, ⟨sale.time⟩⟩ := .tick trace (isNow ▸ later)
    obtain ⟨fill, l', isSale, indexes, vacant, processed, sold, ended, _⟩ :=
      waited.sale_runs free rent sellable rfl owned sells divides wallet plain provided.spare listed
    refine ⟨[⟨sale.time, fill⟩],
      ⟨⟨⟨s.ledger, ⟨sale.time⟩⟩, .src (.createEscrow fill), l'⟩ :: h, ⟨l', ⟨sale.time⟩⟩⟩,
      by rw [List.map_singleton, isSale], ?_, ⟨indexes, trivial⟩, (ended rest).1, (ended rest).2,
      sold.kept, fun deal member => ?_, List.nodup_singleton _, fun deal member => ?_⟩
    · exact Eq.trans (execute_wait (isNow ▸ later)) (execute_call processed)
    · rw [List.mem_singleton.mp member]
      exact vacant
    · rw [List.mem_singleton.mp member]
      exact sold.bought
  | @more now order sale sales remainingAmount later sells divides left some _ ih =>
    obtain ⟨wallet, plain, listed, _⟩ := provided sale List.mem_cons_self
    have waited : Trace env h ⟨s.ledger, ⟨sale.time⟩⟩ := .tick trace (isNow ▸ later)
    obtain ⟨fill, l', isSale, indexes, vacant, processed, sold, _, continued⟩ :=
      waited.sale_runs free rent sellable rfl owned sells divides wallet plain provided.spare listed
    have ran := (Instruction.process_ok.mp processed).1
    have isTaker : fill.taker = sale.taker := congrArg Sale.taker isSale
    have isAmount : fill.amount = sale.amount := congrArg Sale.amount isSale
    have signed : ∀ key ∈ (Instruction.src (.createEscrow fill)).signers, env.Wallet key :=
      wallet_of_signers (isTaker ▸ wallet)
    obtain ⟨sellableRest, before⟩ := continued remainingAmount left some
    obtain ⟨deals, r, isSales, runs, rest⟩ := ih (waited.step signed ran) rfl
      (waited.call_rentSound ran rent) sellableRest owned (provided.rest sold ⟨sale.time⟩)
    refine ⟨⟨sale.time, fill⟩ :: deals, r, by rw [List.map_cons, isSale, isSales], ?_,
      .cons indexes (isAmount ▸ left) vacant sold before rest⟩
    exact Eq.trans (execute_wait (isNow ▸ later)) (Eq.trans (execute_call processed) runs)

end Whole

/-- In every reachable state whose token accounts are rent-exempt, for every live order in
parts, of a rent-exempt maker, that no rescue ran on and that carries the tree of its
maker, the later secrets of which are different and unused: every list of sales of the
whole order to takers that can spare the rents can be carried out in turn, with the
indices that the rule names. The order and its token account are closed at the end,
every purchase has an escrow of its own with its secret and its amount, and the escrows
from before are as they were. -/
theorem Trace.order_sells_out (free : env.CollisionFree) (trace : Trace env h s)
    {sales : List (Sale K)} (rent : RentSound env.toHost s.ledger)
    (sellable : Sellable env h s.ledger a order pairs root parts sales)
    (sold : order.SoldBy env auction s.clock.unixTimestamp sales)
    (provided : Provided env h s order.token sales) :
    ∃ program, env.mintProgram order.token = some program ∧
      ∃ (deals : List (Deal K)) (r : Run K), deals.map Deal.sale = sales ∧
        execute env ⟨h, s⟩ (deals.flatMap Deal.commands) = some r ∧
        SoldOut env a order program pairs deals s.ledger r.state.ledger := by
  obtain ⟨program, _, ready⟩ := trace.order_ready free sellable.live sellable.whole
  exact ⟨program, ready.owned, sold.runs free trace rfl rent sellable ready.owned provided⟩

/-! ## Equal parts -/

omit [DecidableEq K] in
/-- What an order sells does not depend on what is left of it. -/
theorem Order.Sells.left {clock : Clock} {m : U64} (sells : order.Sells env clock m auction)
    (remainingAmount : U64) : Order.Sells env clock { order with remainingAmount } m auction :=
  ⟨sells.notExpired, sells.committed, sells.priced⟩

theorem partOf_equal {parts q i : Nat} (some : 0 < parts) (positive : 0 < q) (started : 0 < i) :
    partOf (parts * q) parts (i * q) = i - 1 := by
  obtain ⟨j, rfl⟩ : ∃ j, i = j + 1 := ⟨i - 1, by omega⟩
  have below : (j + 1) * q - 1 = q * j + (q - 1) := by
    rw [Nat.succ_mul, Nat.mul_comm j q]
    omega
  rw [partOf, Nat.mul_comm _ parts, Nat.mul_div_mul_left _ _ some, below, Nat.mul_add_div positive,
    Nat.div_eq_of_lt (by omega), Nat.add_zero, Nat.add_sub_cancel]

omit [DecidableEq K] in
/-- One of several equal parts keeps to the parts. -/
theorem Order.divides_equal {q n : Nat} {m : U64} (several : 0 < order.parts.toNat) (positive : 0 < q)
    (total : order.amount.toNat = order.parts.toNat * q)
    (small : order.amount.toNat * order.parts.toNat < 2 ^ 64)
    (left : order.remainingAmount.toNat = (n + 1) * q) (inside : n + 1 ≤ order.parts.toNat)
    (isPart : m.toNat = q) : order.Divides m := by
  have within : (n + 1) * q ≤ order.parts.toNat * q := Nat.mul_le_mul_right q inside
  have succ : (n + 1) * q = n * q + q := Nat.succ_mul n q
  have done : order.amount.toNat - order.remainingAmount.toNat = (order.parts.toNat - (n + 1)) * q := by
    rw [total, left, Nat.sub_mul]
  have after : (order.parts.toNat - (n + 1)) * q + q = (order.parts.toNat - n) * q := by
    rw [← Nat.succ_mul]
    congr 1
    omega
  refine ⟨by omega, by omega, ?_, fun more began => ?_, fun _ => ?_⟩
  · refine Nat.lt_of_le_of_lt (Nat.mul_le_mul_right _ ?_) small
    omega
  · have again : n ≠ 0 := by
      rintro rfl
      omega
    have before : 0 < order.parts.toNat - (n + 1) := by
      rcases Nat.eq_zero_or_pos (order.parts.toNat - (n + 1)) with none | some
      · rw [none, Nat.zero_mul] at done
        omega
      · exact some
    rw [done, isPart, after, total, partOf_equal several positive before,
      partOf_equal several positive (by omega)]
    omega
  · rw [total]
    exact Nat.le_mul_of_pos_right _ positive

omit [DecidableEq K] in
/-- Equal parts, one for each sale, sell the order. -/
theorem Order.SoldBy.equal {q : Nat} {now : U32} {sale : Sale K} {sales : List (Sale K)}
    (several : 0 < order.parts.toNat) (positive : 0 < q)
    (total : order.amount.toNat = order.parts.toNat * q)
    (small : order.amount.toNat * order.parts.toNat < 2 ^ 64)
    (left : order.remainingAmount.toNat = (sales.length + 1) * q)
    (inside : sales.length + 1 ≤ order.parts.toNat)
    (amounts : ∀ other ∈ sale :: sales, other.amount.toNat = q)
    (inTurn : (now :: (sale :: sales).map Sale.time).Pairwise (· ≤ ·))
    (sells : ∀ other ∈ sale :: sales, order.Sells env ⟨other.time⟩ other.amount auction) :
    order.SoldBy env auction now (sale :: sales) := by
  induction sales generalizing order now sale with
  | nil =>
    have isPart := amounts sale (by simp)
    have later : now ≤ sale.time := (List.pairwise_cons.mp inTurn).1 _ (by simp)
    refine .last later (sells sale (by simp)) (order.divides_equal several positive total small left
      inside isPart) (BitVec.eq_of_toNat_eq ?_)
    simpa [isPart] using left
  | cons next rest ih =>
    have isPart := amounts sale (by simp)
    obtain ⟨laterAll, inTurn'⟩ := List.pairwise_cons.mp inTurn
    have divides := order.divides_equal several positive total small left inside isPart
    have counted : (rest.length + 1 + 1) * q = (rest.length + 1) * q + q := Nat.succ_mul _ q
    rw [List.length_cons] at left inside
    obtain ⟨remaining, value⟩ : ∃ remaining : U64, remaining.toNat = (rest.length + 1) * q := by
      have bound := order.remainingAmount.isLt
      exact ⟨BitVec.ofNat 64 _, Nat.mod_eq_of_lt (by omega)⟩
    have behind : Order.SoldBy env auction sale.time { order with remainingAmount := remaining }
        (next :: rest) :=
      ih several total small value (Nat.le_of_succ_le inside)
        (fun other member => amounts other (List.mem_cons_of_mem _ member)) inTurn'
        fun other member => (sells other (List.mem_cons_of_mem _ member)).left remaining
    refine .more (laterAll _ (by simp)) (sells sale (by simp)) divides (by omega) ?_ behind
    rw [value, Nat.succ_mul]
    omega

/-! ## Two sales of the sample order -/

def Sample.sales : List (Sale Term) := [⟨Sample.taker, 500, 150⟩, ⟨Sample.taker, 500, 160⟩]

def Sample.onSale : Sample.Scenario (fun r =>
    ((r.state.ledger.programAt (Sample.orderAt Sample.multiple)).bind Data.toOrder).any (fun o =>
      decide (o.token = Sample.usdc ∧ o.hashlock = Sample.multiple.hashlock ∧
        o.remainingAmount = 1000 ∧ o.amount = 1000 ∧ o.parts = 2 ∧ o.allowMultipleFills = true ∧
        orderUnrescued (Sample.orderAt Sample.multiple) r.history = true ∧
        r.state.clock.unixTimestamp = 100 ∧ r.state.ledger.data Sample.taker = .empty ∧
        Sample.env.CanSpare r.state.ledger Sample.taker (2 * Sample.env.escrowRent Sample.usdc) ∧
        Sample.env.RentExempt r.state.ledger o.creator ∧
        (requireResolverAccess Sample.env Sample.env.srcId Sample.taker
          (Sample.env.accessAddress Sample.env.srcId Sample.taker) r.state.ledger).toOption.isSome =
            true ∧
        (∀ pair ∈ Sample.pairs, ∀ sale ∈ Sample.sales,
          r.state.ledger.data (o.escrowAddress Sample.env sale.taker sale.amount
            (some ⟨[], pair.index, pair.hashedSecret⟩)) = .empty) ∧
        o.dutchAuctionDataHash = Sample.auctionHash ∧
        ∀ sale ∈ Sample.sales, sale.time < o.expirationTime ∧
          (shareOfDstAmount o.dstAmount sale.amount o.amount).toOption.any (fun share =>
            (getDstAmount ⟨sale.time⟩ share Sample.auction).toOption.isSome) = true)) = true) where
  commands := Sample.whitelisting ++ [.wait 100, .call (.src (.create (Sample.create Sample.multiple)))]

/-- The taker buys the sample order in two parts. -/
theorem Trace.order_sells_out_sample : ∃ (h : History Term) (s : State Term) (deals : List (Deal Term))
    (r : Run Term), deals.map Deal.sale = Sample.sales ∧
      execute Sample.env ⟨h, s⟩ (deals.flatMap Deal.commands) = some r ∧
      r.state.ledger.programAt (Sample.orderAt Sample.multiple) = none ∧
      (deals.map fun deal => deal.fill.escrow).Nodup := by
  obtain ⟨r, trace, rent, stands⟩ := Sample.onSale.reached_sound Sample.rentSound
  obtain ⟨order, live, token, hashlock, left, amount, parts, multi, whole, now, plain, spare, exempt,
    resolver, vacant, auction, sold⟩ := Sample.live_order stands
  obtain ⟨_, passes⟩ := isSome_toOption resolver
  have sells : ∀ sale ∈ Sample.sales, order.Sells Sample.env ⟨sale.time⟩ sale.amount Sample.auction := by
    intro sale member
    obtain ⟨early, priced⟩ := sold sale member
    obtain ⟨share, shared, scaled⟩ := (Option.any_eq_true _ _).mp priced
    obtain ⟨dstAmount, some⟩ := isSome_toOption scaled
    exact ⟨early, ⟨_, rfl, auction ▸ by decide +kernel⟩, share, ok_of_toOption shared, dstAmount, some⟩
  have all : order.SoldBy Sample.env Sample.auction r.state.clock.unixTimestamp Sample.sales :=
    .equal (by rw [parts]; decide) (by decide : 0 < 500) (by rw [parts, amount]; rfl)
      (by rw [parts, amount]; decide) (by rw [left]; rfl) (by rw [parts]; decide)
      (by simp) (by rw [now]; decide) sells
  have provided : Provided Sample.env r.history r.state order.token Sample.sales := by
    intro sale member
    have isTaker : sale.taker = Sample.taker := by
      simp only [Sample.sales, List.mem_cons, List.not_mem_nil, or_false] at member
      rcases member with rfl | rfl <;> rfl
    rw [isTaker, token]
    have twice : Sample.sales.countP (fun other => decide (other.taker = Sample.taker)) = 2 := by decide
    exact ⟨Sample.wallet_atom 12, plain, (trace.resolver_iff Sample.collisionFree _ _).mp passes,
      twice ▸ spare⟩
  have sellable : Sellable Sample.env r.history r.state.ledger (Sample.orderAt Sample.multiple) order
      Sample.pairs Sample.root 2 Sample.sales :=
    ⟨live, whole, exempt, multi, Sample.multiple_tree hashlock, by decide +kernel,
      fun i pair here _ _ sale member => vacant pair (List.mem_of_getElem? here) sale member⟩
  obtain ⟨_, _, deals, r', sales, runs, soldOut⟩ :=
    trace.order_sells_out Sample.collisionFree rent sellable all provided
  exact ⟨r.history, r.state, deals, r', sales, runs, soldOut.closed, soldOut.apart⟩

end CrossChainEscrow.Source
