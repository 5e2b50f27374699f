import CrossChainEscrow.Guarantees.IndexRule
import CrossChainEscrow.Guarantees.MerkleCompleteness
import CrossChainEscrow.Guarantees.OrderProgress

/-!
# Makers who follow the rules are served

A maker numbers one secret more than the order has parts, commits to the root of
the tree over them and hands out the proof for the index of the rule. The fills of
its order then go through: of the checks of `create_escrow` only those remain that
do not depend on the tree.
-/

namespace CrossChainEscrow.Source
open Library.Words Library.Bytes Library.Accounts Library.Parts Library.Registries
open Library.SortedMerkle Whitelist

variable {K : Type} [DecidableEq K] {env : Environment K} {h : History K} {s : State K} {a : K}
  {order : Order K} {pairs : List IndexedSecret} {root : Bytes32} {parts : U16}

/-! ## The tree of an order -/

/-- The order carries the root of a tree over the pairs numbered from zero to its
number of parts. -/
structure Order.BuiltFrom (env : Environment K) (order : Order K) (pairs : List IndexedSecret)
    (root : Bytes32) (parts : U16) : Prop where
  length : pairs.length = parts.toNat + 1
  numbered : ∀ (i : Nat) (pair : IndexedSecret), pairs[i]? = some pair → pair.index.toNat = i
  built : getRoot env (hashPairs env pairs) = .ok root
  hashlock : order.hashlock = prepareHashlockForRoot root parts

theorem u16FromBeBytes_prepare (root : Bytes32) (parts : U16) :
    u16FromBeBytes (prepareHashlockForRoot root parts) = parts := by
  have width := parts.isLt
  have high : ((prepareHashlockForRoot root parts).1.getD 0 0).val = parts.toNat / 256 % 256 := rfl
  have low : ((prepareHashlockForRoot root parts).1.getD 1 0).val = parts.toNat % 256 := rfl
  apply BitVec.eq_of_toNat_eq
  rw [u16FromBeBytes, high, low, BitVec.toNat_ofNat, Nat.mod_eq_of_lt (by omega : _ < 256)]
  omega

omit [DecidableEq K] in
theorem Order.BuiltFrom.parts_eq (tree : order.BuiltFrom env pairs root parts) :
    order.parts.toNat = parts.toNat := by
  have width := parts.isLt
  rw [Order.parts, tree.hashlock, u16FromBeBytes_prepare, BitVec.toNat_setWidth]
  exact Nat.mod_eq_of_lt (by omega)

omit [DecidableEq K] in
/-- The builder gives out a proof for every position, which leads to the root. -/
theorem Order.BuiltFrom.proves (tree : order.BuiltFrom env pairs root parts) {i : Nat}
    {pair : IndexedSecret} (here : pairs[i]? = some pair) :
    ∃ siblings, getProof env (hashPairs env pairs) i = .ok siblings ∧
      MerkleProof.processProof env ⟨siblings, pair.index, pair.hashedSecret⟩ = root := by
  have leaf : (hashPairs env pairs)[i]? = some (env.keccak pair.message) := by
    simp [hashPairs, here]
  obtain ⟨inside, _⟩ := List.getElem?_eq_some_iff.mp leaf
  have top : (pairScheme env).climb (hashPairs env pairs).length (hashPairs env pairs) = [root] := by
    have built := tree.built
    rw [getRoot, rootLoop_eq] at built
    simp only [bind_ok, requireThat_ok, orFault_ok, exists_const] at built
    obtain ⟨many, first⟩ := built
    have single := (pairScheme env).climb_length (hashPairs env pairs).length (hashPairs env pairs)
      (by omega) (by omega)
    obtain ⟨only, climbed⟩ := List.length_eq_one_iff.mp single
    rw [climbed] at first ⊢
    rw [Option.some.inj first]
  refine ⟨_, proofLoop_eq env _ inside, ?_⟩
  rw [processProof_eq]
  exact (pairScheme env).complete top leaf

/-! ## Fills by the rule -/

/-- What a fill of `m` units has to keep to, whatever its proof: a product of 64
bits, and either a later part than the fill before it or, for the last fill, an
order with a unit for each part. -/
structure Order.Divides (order : Order K) (m : U64) : Prop where
  positive : 0 < m.toNat
  within : m.toNat ≤ order.remainingAmount.toNat
  small : (order.amount.toNat - order.remainingAmount.toNat + m.toNat - 1) * order.parts.toNat <
    2 ^ 64
  later : m.toNat < order.remainingAmount.toNat → order.remainingAmount.toNat < order.amount.toNat →
    partOf order.amount.toNat order.parts.toNat
        (order.amount.toNat - order.remainingAmount.toNat) <
      partOf order.amount.toNat order.parts.toNat
        (order.amount.toNat - order.remainingAmount.toNat + m.toNat)
  enough : m.toNat = order.remainingAmount.toNat → order.parts.toNat ≤ order.amount.toNat

/-- The index of the rule is one of the maker's, and the check accepts it. -/
theorem Trace.rule_valid (trace : Trace env h s) (live : s.ledger.programAt a = some (.order order))
    (multi : order.allowMultipleFills = true) {m : U64} (divides : order.Divides m) :
    ∃ k, getIndexForEscrowAmount order.amount order.remainingAmount order.parts m = .ok k ∧
      k.toNat ≤ order.parts.toNat ∧
      isValidPartialFill m order.remainingAmount order.amount order.parts k = .ok true := by
  obtain ⟨several, unfinished, left, _⟩ := trace.order_in_parts live multi
  have positive := divides.positive
  have within := divides.within
  obtain ⟨filled, done⟩ : ∃ filled, filled = order.amount.toNat - order.remainingAmount.toNat :=
    ⟨_, rfl⟩
  have sum : filled + order.remainingAmount.toNat = order.amount.toNat := by omega
  have small := divides.small
  rw [← done] at small
  have rule (k : U64) := getIndexForEscrowAmount_ok k sum within positive small
  have accepts (k : U64)
      (numbered : Numbered order.amount.toNat order.parts.toNat filled m.toNat k.toNat) :
      isValidPartialFill m order.remainingAmount order.amount order.parts k = .ok true := by
    obtain ⟨valid, computed, holds⟩ := isValidPartialFill_some k sum within (by omega) small
    rw [computed, holds.mpr numbered]
  by_cases completes : m.toNat = order.remainingAmount.toNat
  · refine ⟨order.parts, (rule _).mpr (if_pos completes).symm, Nat.le_refl _, accepts _ ?_⟩
    rw [numbered_completing (by omega) (by omega)]
    exact ((partOf_total (by omega) (by omega)).mpr (divides.enough completes)).symm
  · have inside : filled + m.toNat < order.amount.toNat := by omega
    have below : partOf order.amount.toNat order.parts.toNat (filled + m.toNat) <
        order.parts.toNat := partOf_lt (by omega) (by omega) (by omega)
    obtain ⟨k, value⟩ : ∃ k : U64, k.toNat =
        partOf order.amount.toNat order.parts.toNat (filled + m.toNat) :=
      ⟨BitVec.ofNat 64 _, Nat.mod_eq_of_lt (Nat.lt_trans below order.parts.isLt)⟩
    refine ⟨k, (rule k).mpr (value.trans (if_neg completes).symm), by omega, accepts k ?_⟩
    rw [numbered_inside (by omega) inside]
    refine ⟨value, fun began => ?_⟩
    rw [done]
    exact divides.later (by omega) (by omega)

/-- The checks of a fill that do not look at the tree. -/
structure Order.Sells (env : Environment K) (clock : Clock) (order : Order K) (amount : U64)
    (auction : AuctionData) : Prop where
  notExpired : clock.unixTimestamp < order.expirationTime
  committed : ∃ bytes, auction.tryToVec = .ok bytes ∧
    hashv env [bytes] = order.dutchAuctionDataHash
  priced : ∃ share, shareOfDstAmount order.dstAmount amount order.amount = .ok share ∧
    ∃ dstAmount, getDstAmount clock share auction = .ok dstAmount

omit [DecidableEq K] in
theorem Order.Allows.sells {clock : Clock} {amount : U64} {proof : Option MerkleProof}
    {auction : AuctionData} (allows : order.Allows env clock amount proof auction) :
    order.Sells env clock amount auction :=
  ⟨allows.notExpired, allows.committed, allows.priced⟩

omit [DecidableEq K] in
/-- A proof that leads to the root with an index that the check accepts is
accepted with the hashed secret of its pair. -/
theorem Order.BuiltFrom.accepts (tree : order.BuiltFrom env pairs root parts) {m : U64}
    {proof : MerkleProof} (leads : proof.processProof env = root)
    (valid : isValidPartialFill m order.remainingAmount order.amount order.parts proof.index =
      .ok true) :
    acceptedHashlock env order m (some proof) = .ok proof.hashedSecret := by
  simp only [acceptedHashlock, bind_ok, requireThat_ok, pure_ok, exists_const]
  refine ⟨?_, true, valid, rfl, trivial⟩
  rw [leads, tree.hashlock, prepareHashlockForRoot_drop]

/-- The rule names an index, the builder gives out its proof, and with that proof the
order allows whatever it sells. -/
theorem Trace.tree_allows (trace : Trace env h s)
    (live : s.ledger.programAt a = some (.order order)) (multi : order.allowMultipleFills = true)
    (tree : order.BuiltFrom env pairs root parts) {m : U64} (divides : order.Divides m) :
    ∃ k pair siblings,
      getIndexForEscrowAmount order.amount order.remainingAmount order.parts m = .ok k ∧
      pairs[k.toNat]? = some pair ∧ getProof env (hashPairs env pairs) k.toNat = .ok siblings ∧
      acceptedHashlock env order m (some ⟨siblings, pair.index, pair.hashedSecret⟩) =
        .ok pair.hashedSecret ∧
      ∀ clock auction, order.Sells env clock m auction →
        order.Allows env clock m (some ⟨siblings, pair.index, pair.hashedSecret⟩) auction := by
  obtain ⟨k, rule, bounded, valid⟩ := trace.rule_valid live multi divides
  rw [tree.parts_eq] at bounded
  obtain ⟨pair, here⟩ : ∃ pair, pairs[k.toNat]? = some pair :=
    ⟨_, List.getElem?_eq_getElem (by rw [tree.length]; omega)⟩
  obtain ⟨siblings, given, leads⟩ := tree.proves here
  have index : pair.index = k := BitVec.eq_of_toNat_eq (tree.numbered _ _ here)
  have accepted := tree.accepts (m := m) leads (index ▸ valid)
  exact ⟨k, pair, siblings, rule, here, given, accepted, fun clock auction sells => {
    fits := requireThat_ok.mpr (Or.inl ⟨multi, divides.within⟩)
    notExpired := sells.notExpired
    committed := sells.committed
    proofGiven := multi
    accepted := ⟨_, accepted⟩
    priced := sells.priced }⟩

/-- In every reachable state whose token accounts are rent-exempt, for every live order
in parts, of a rent-exempt maker, that no rescue ran on and that carries the tree of
its maker, and every fill that keeps to the parts: the rule names an index, the
builder gives out a proof for it, and with that proof a wallet that can spare the rent
fills the order exactly when it is on the whitelist, the address of the escrow is
vacant and the order, which has not expired, sells the amount under the auction data.
The escrow then waits for the secret of that index. -/
theorem Trace.honest_fill (free : env.CollisionFree) (trace : Trace env h s)
    (live : s.ledger.programAt a = some (.order order)) (whole : orderUnrescued a h = true)
    (rent : RentSound env.toHost s.ledger) (exempt : env.RentExempt s.ledger order.creator)
    (multi : order.allowMultipleFills = true) (tree : order.BuiltFrom env pairs root parts)
    {m : U64} (divides : order.Divides m) :
    ∃ program k pair siblings, env.mintProgram order.token = some program ∧
      getIndexForEscrowAmount order.amount order.remainingAmount order.parts m = .ok k ∧
      pairs[k.toNat]? = some pair ∧ getProof env (hashPairs env pairs) k.toNat = .ok siblings ∧
      ∀ (taker : K) (auction : AuctionData), env.Wallet taker → s.ledger.data taker = .empty →
        env.CanSpare s.ledger taker (env.escrowRent order.token) →
        s.ProcessesIff env (.src (.createEscrow (order.fillCall env a program taker m
            (some ⟨siblings, pair.index, pair.hashedSecret⟩) auction)))
          (Enrolled (env.srcId, taker) (whitelistLog h) ∧
            s.ledger.data (order.escrowAddress env taker m
              (some ⟨siblings, pair.index, pair.hashedSecret⟩)) = .empty ∧
            order.Sells env s.clock m auction)
          (fun l' => ∃ dstAmount, l'.programAt (order.escrowAddress env taker m
              (some ⟨siblings, pair.index, pair.hashedSecret⟩)) =
            some (.escrowSrc ((order.fillCall env a program taker m
              (some ⟨siblings, pair.index, pair.hashedSecret⟩) auction).newEscrow env order
                pair.hashedSecret dstAmount s.clock.unixTimestamp))) := by
  obtain ⟨program, account, ready⟩ := trace.order_ready free live whole
  obtain ⟨k, pair, siblings, rule, here, given, accepted, allows⟩ :=
    trace.tree_allows live multi tree divides
  refine ⟨program, k, pair, siblings, ready.owned, rule, here, given,
    fun taker auction wallet plain spare => ?_⟩
  obtain ⟨iff, made⟩ := trace.fill_processesIff free live ready rent exempt wallet plain spare
  refine ⟨iff.trans ⟨?_, ?_⟩, fun l' processed => ?_⟩
  · rintro ⟨listed, vacant, allowed⟩
    exact ⟨listed, vacant, allowed.sells⟩
  · rintro ⟨listed, vacant, sells⟩
    exact ⟨listed, vacant, allows _ _ sells⟩
  · obtain ⟨hashlock, share, dstAmount, same, _, _, stands⟩ := (made l' processed).escrow
    cases accepted.symm.trans same
    exact ⟨dstAmount, stands⟩

/-- After one fill of the sample order in parts, its taker can make the next. -/
def Sample.nextFill : Sample.Scenario (fun r =>
    ((r.state.ledger.programAt (Sample.orderAt Sample.multiple)).bind Data.toOrder).any (fun o =>
      decide (o.token = Sample.usdc ∧ o.hashlock = Sample.multiple.hashlock ∧
        o.remainingAmount = 700 ∧ o.amount = 1000 ∧ o.parts = 2 ∧ o.allowMultipleFills = true ∧
        orderUnrescued (Sample.orderAt Sample.multiple) r.history = true ∧
        Sample.env.RentExempt r.state.ledger o.creator ∧
        r.state.ledger.data Sample.taker = .empty ∧
        Sample.env.CanSpare r.state.ledger Sample.taker (Sample.env.escrowRent o.token) ∧
        (requireResolverAccess Sample.env Sample.env.srcId Sample.taker
          (Sample.env.accessAddress Sample.env.srcId Sample.taker) r.state.ledger).toOption.isSome =
            true ∧
        r.state.ledger.data (o.escrowAddress Sample.env Sample.taker 400
          (some ⟨[], 1, Sample.proofs[1].hashedSecret⟩)) = .empty ∧
        r.state.clock.unixTimestamp < o.expirationTime ∧
        o.dutchAuctionDataHash = Sample.auctionHash ∧
        ((shareOfDstAmount o.dstAmount 400 o.amount).toOption.any (fun share =>
          (getDstAmount r.state.clock share Sample.auction).toOption.isSome)) = true)) = true) where
  commands := Sample.multipleFills (([300] : List U64).zip Sample.proofs)

theorem Sample.multiple_tree {order : Order Term}
    (hashlock : order.hashlock = Sample.multiple.hashlock) :
    order.BuiltFrom Sample.env Sample.pairs Sample.root 2 where
  length := rfl
  numbered := by
    intro i pair here
    obtain ⟨inside, rfl⟩ := List.getElem?_eq_some_iff.mp here
    have three : i = 0 ∨ i = 1 ∨ i = 2 := by
      have : Sample.pairs.length = 3 := rfl
      omega
    rcases three with rfl | rfl | rfl <;> rfl
  built := by decide +kernel
  hashlock := hashlock.trans (by decide +kernel)

/-- The second fill uses the secret of index 1. -/
theorem Trace.honest_fill_sample : ∃ (s : State Term) (order : Order Term) (siblings : List Bytes32)
    (l' : Chain Term), getProof Sample.env (hashPairs Sample.env Sample.pairs) 1 = .ok siblings ∧
      (Instruction.src (.createEscrow (order.fillCall Sample.env (Sample.orderAt Sample.multiple)
        .token Sample.taker 400 (some ⟨siblings, 1, Sample.proofs[1].hashedSecret⟩)
        Sample.auction))).process Sample.env s.clock s.ledger = .ok l' := by
  obtain ⟨r, trace, rent, stands⟩ := Sample.nextFill.reached_sound Sample.rentSound
  obtain ⟨order, live, token, hashlock, left, amount, parts, multi, whole, exempt, plain, spare, resolver,
    vacant, notExpired, auction, priced⟩ := Sample.live_order stands
  have tree := Sample.multiple_tree hashlock
  have divides : order.Divides 400 := {
    positive := by decide
    within := by rw [left]; decide
    small := by rw [left, amount, parts]; decide
    later := by rw [left, amount, parts]; decide
    enough := by rw [left, amount, parts]; decide }
  obtain ⟨program, k, pair, siblings, owned, rule, here, given, fills⟩ :=
    trace.honest_fill Sample.collisionFree live whole rent exempt multi tree divides
  rw [token] at owned
  obtain rfl : TokenProgram.token = program := Option.some.inj owned
  rw [left, amount, parts] at rule
  obtain rfl : (1 : U64) = k :=
    Except.ok.inj ((show getIndexForEscrowAmount 1000 700 2 400 = .ok 1 from rfl).symm.trans rule)
  obtain rfl : Sample.pairs[1] = pair := Option.some.inj here
  obtain ⟨share, shared, scaled⟩ := (Option.any_eq_true _ _).mp priced
  obtain ⟨dstAmount, some⟩ := isSome_toOption scaled
  obtain ⟨done, passes⟩ := isSome_toOption resolver
  have sells : order.Sells Sample.env r.state.clock 400 Sample.auction :=
    ⟨notExpired, ⟨_, rfl, auction ▸ by decide +kernel⟩, share, ok_of_toOption shared, dstAmount, some⟩
  obtain ⟨⟨_, succeeds⟩, _⟩ := fills Sample.taker Sample.auction (Sample.wallet_atom 12) plain spare
  obtain ⟨l', ran⟩ := succeeds
    ⟨(trace.resolver_iff Sample.collisionFree _ _).mp passes, vacant, sells⟩
  exact ⟨r.state, order, siblings, l', given, ran⟩

end CrossChainEscrow.Source
