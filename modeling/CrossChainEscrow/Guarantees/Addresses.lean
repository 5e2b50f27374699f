import CrossChainEscrow.Effects.SeedChecks
import CrossChainEscrow.Invariants.Orders
import CrossChainEscrow.Source.Execution

/-!
# Accounts sit where every instruction looks for them

The seeds that an instruction builds from arguments, from stored fields or from
the parameters of a creation name one account, and the parameters behind an
order's address are unique: the fourteen fields of the hash's preimage have fixed
widths, so it is injective without separators.
-/

namespace CrossChainEscrow.Source
open Library.Words Library.Bytes Library.Accounts

variable {K : Type}

/-! ## The preimage of an order hash -/

theorem Limbs.tryToVec_length (x : Limbs) : x.tryToVec.length = 32 := by
  simp [Limbs.tryToVec]

theorem Limbs.tryToVec_injective : Function.Injective Limbs.tryToVec := by
  rintro ⟨a, b, c, d⟩ ⟨a', b', c', d'⟩ same
  simp only [Limbs.tryToVec] at same
  obtain ⟨same, last⟩ := List.append_inj same (by simp)
  obtain ⟨same, third⟩ := List.append_inj same (by simp)
  obtain ⟨first, second⟩ := List.append_inj same (by simp)
  have width : 2 ^ 64 = 256 ^ 8 := by decide
  rw [leBytes_word_inj width first, leBytes_word_inj width second, leBytes_word_inj width third,
    leBytes_word_inj width last]

theorem boolByte_injective : Function.Injective boolByte := by
  intro a b same
  cases a <;> cases b <;> simp [boolByte] at same ⊢

/-- Different keys of the two parameter tuples have different bytes. -/
def KeysFaithful (env : Environment K) (p p' : OrderParams K) : Prop :=
  ∀ k ∈ [p.maker, p.token], ∀ k' ∈ [p'.maker, p'.token],
    env.keyBytes k = env.keyBytes k' → k = k'

/-- The bytes whose digest is the order hash. -/
def orderPreimage (env : Environment K) (p : OrderParams K) : List Byte :=
  (orderHashParts env p).flatten

/-- All fields have fixed widths. -/
theorem orderHashParts_lengths (env : Environment K) (p : OrderParams K) :
    (orderHashParts env p).map List.length = [32, 32, 32, 8, 8, 32, 4, 1, 32, 32, 8, 4, 1, 8] := by
  simp [orderHashParts, p.hashlock.2, (env.keyBytes p.maker).2, (env.keyBytes p.token).2,
    p.dutchAuctionDataHash.2, Limbs.tryToVec_length]

theorem orderPreimage_inj {env : Environment K} {p p' : OrderParams K}
    (keys : KeysFaithful env p p') (same : orderPreimage env p = orderPreimage env p') : p = p' := by
  have lengths : (orderHashParts env p).map List.length = (orderHashParts env p').map List.length := by
    rw [orderHashParts_lengths, orderHashParts_lengths]
  have parts := List.eq_iff_flatten_eq.mpr ⟨same, lengths⟩
  simp only [orderHashParts, List.cons.injEq, and_true] at parts
  obtain ⟨hashlock, maker, token, amount, deposit, timelocks, expiration, native, dstAmount,
    auction, premium, duration, multiple, salt⟩ := parts
  have makers := keys _ (by simp) _ (by simp) (Subtype.ext maker)
  have tokens := keys _ (by simp) _ (by simp) (Subtype.ext token)
  cases p
  cases p'
  simp only [OrderParams.mk.injEq]
  exact ⟨Subtype.ext hashlock, makers, tokens, u64ToBeBytes_injective amount,
    u64ToBeBytes_injective deposit, Limbs.tryToVec_injective timelocks,
    u32ToBeBytes_injective expiration, boolByte_injective native,
    Limbs.tryToVec_injective dstAmount, Subtype.ext auction, u64ToBeBytes_injective premium,
    u32ToBeBytes_injective duration, boolByte_injective multiple, u64ToBeBytes_injective salt⟩

theorem getOrderHash_inj {env : Environment K} {p p' : OrderParams K}
    (keys : KeysFaithful env p p') (same : getOrderHash env p = getOrderHash env p') :
    p = p' ∨ (orderPreimage env p ≠ orderPreimage env p' ∧
      env.keccak (orderPreimage env p) = env.keccak (orderPreimage env p')) := by
  by_cases equal : orderPreimage env p = orderPreimage env p'
  · exact Or.inl (orderPreimage_inj keys equal)
  · exact Or.inr ⟨equal, same⟩

/-- Seeds of orders agree only for one order hash. -/
theorem orderSeeds_injective : Function.Injective (orderSeeds : Bytes32 → Seeds K) := by
  intro hash hash' same
  have bytes := List.append_cancel_left same
  exact Subtype.ext (List.map_injective_iff.mpr Sum.inl_injective bytes)

/-! ## Addresses -/

variable [DecidableEq K] {env : Environment K}

/-- Where an instruction supplies parts of the seeds, they are those of the account
at `a`: the parameters of the order's creation, and what the escrow was created with. -/
def Instruction.Recalls (a : K) (h : History K) : Instruction K → Data K → Prop
  | .src (.rescueFundsForOrder ix), _ =>
    ∃ c clock, creationOf a h = some (c, clock) ∧ ix.params = c.params
  | .src (.cancelEscrow ix), .escrowSrc e => ix.taker = e.taker
  | .src (.publicCancelEscrow ix), .escrowSrc e => ix.taker = e.taker
  | .src (.rescueFundsForEscrow ix), .escrowSrc e =>
    ix.orderHash = e.orderHash ∧ ix.hashlock = e.hashlock ∧ ix.taker = e.taker ∧
      ix.amount = e.amount
  | .dst (.rescueFunds ix), .escrowDst e =>
    ix.orderHash = e.orderHash ∧ ix.hashlock = e.hashlock ∧ ix.creator = e.creator ∧
      ix.escrowAmount = e.amount
  | _, _ => True

/-- The constraint is one on the seeds of the account at `a`, which it searches or
derives with the stored bump. -/
def SeedConstraint.Names (env : Environment K) (c : SeedConstraint K) (a : K) : Prop :=
  ∃ bump, env.findProgramAddress c.program c.seeds = (a, bump) ∧
    (c.bump = none ∨ c.bump = some bump)

theorem SeedConstraint.Names.check_iff {c : SeedConstraint K} {a : K} (names : c.Names env a)
    (address : K) : SeedConstraint.check env { c with address } = .ok () ↔ address = a := by
  obtain ⟨bump, found, searched | stored⟩ := names
  · simp [check, searched, found]
  · rw [check]
    simp only [stored]
    rw [requireSeeds_ok, env.create_of_find found, Option.some.injEq, eq_comm]

theorem Trace.constraint_names {h : History K} {s : State K} (trace : Trace env h s) {a : K}
    {data : Data K} (live : s.ledger.programAt a = some data) {ix : Instruction K}
    {c : SeedConstraint K} (constraint : ix.seedConstraint env data = some c)
    (recalls : ix.Recalls a h data) : c.Names env a := by
  have placed := trace.placed live
  cases ix with
  | whitelist ix => cases constraint
  | src ix =>
    cases data with
    | order o =>
      cases ix with
      | createEscrow ix =>
        cases constraint
        exact ⟨o.bump, placed, Or.inr rfl⟩
      | cancelOrder ix =>
        cases constraint
        exact ⟨o.bump, placed, Or.inr rfl⟩
      | cancelOrderByResolver ix =>
        cases constraint
        exact ⟨o.bump, placed, Or.inr rfl⟩
      | rescueFundsForOrder ix =>
        cases constraint
        obtain ⟨creation, clock, created, params⟩ := recalls
        obtain ⟨creation', clock', created', same, _⟩ := (trace.tracked live).created
        rw [created] at created'
        cases created'
        have hash : o.orderHash = getOrderHash env creation.params := by
          rw [same]
          rfl
        refine ⟨o.bump, ?_, Or.inl rfl⟩
        rw [params, ← hash]
        exact placed
      | _ => cases constraint
    | escrowSrc e =>
      cases ix with
      | withdraw ix =>
        cases constraint
        exact ⟨e.bump, placed, Or.inr rfl⟩
      | publicWithdraw ix =>
        cases constraint
        exact ⟨e.bump, placed, Or.inr rfl⟩
      | cancelEscrow ix =>
        cases constraint
        refine ⟨e.bump, ?_, Or.inr rfl⟩
        rw [show ix.taker = e.taker from recalls]
        exact placed
      | publicCancelEscrow ix =>
        cases constraint
        refine ⟨e.bump, ?_, Or.inr rfl⟩
        rw [show ix.taker = e.taker from recalls]
        exact placed
      | rescueFundsForEscrow ix =>
        cases constraint
        obtain ⟨orderHash, hashlock, taker, amount⟩ := recalls
        refine ⟨e.bump, ?_, Or.inl rfl⟩
        rw [orderHash, hashlock, taker, amount]
        exact placed
      | _ => cases constraint
    | _ => cases ix <;> cases constraint
  | dst ix =>
    cases data with
    | escrowDst e =>
      cases ix with
      | withdraw ix =>
        cases constraint
        exact ⟨e.bump, placed, Or.inr rfl⟩
      | publicWithdraw ix =>
        cases constraint
        exact ⟨e.bump, placed, Or.inr rfl⟩
      | cancel ix =>
        cases constraint
        exact ⟨e.bump, placed, Or.inr rfl⟩
      | rescueFunds ix =>
        cases constraint
        obtain ⟨orderHash, hashlock, creator, amount⟩ := recalls
        refine ⟨e.bump, ?_, Or.inl rfl⟩
        rw [orderHash, hashlock, creator, amount]
        exact placed
      | _ => cases constraint
    | _ => cases ix <;> cases constraint

/-- In every reachable state, live orders and escrows of both programs sit at the
address that a search with the seeds of their own fields returns, with the bump
they store; an order's hash is that of the parameters of its creation. A fill
stores the hashlock it put into the seeds. And the parameters of an order are
determined by its hash, hence by its address, up to a collision of the digest.
The seeds that fills, exits, cancellations and rescues derive again pass at the
live account and nowhere else: none of these instructions is refused there for
its seeds, and one that runs names that account. -/
theorem Trace.addresses_agree {h : History K} {s : State K} (trace : Trace env h s) :
    (∀ a order, s.ledger.programAt a = some (.order order) →
      env.findProgramAddress env.srcId (orderSeeds order.orderHash) = (a, order.bump) ∧
      env.createProgramAddress env.srcId (orderSeeds order.orderHash) order.bump = some a ∧
      ∃ c clock, creationOf a h = some (c, clock) ∧ order.orderHash = getOrderHash env c.params) ∧
    (∀ a escrow, s.ledger.programAt a = some (.escrowSrc escrow) →
      env.findProgramAddress env.srcId (escrowSeeds escrow.orderHash escrow.hashlock escrow.taker
        escrow.amount) = (a, escrow.bump) ∧
      env.createProgramAddress env.srcId (escrowSeeds escrow.orderHash escrow.hashlock
        escrow.taker escrow.amount) escrow.bump = some a) ∧
    (∀ a escrow, s.ledger.programAt a = some (.escrowDst escrow) →
      env.findProgramAddress env.dstId (escrowSeeds escrow.orderHash escrow.hashlock escrow.creator
        escrow.amount) = (a, escrow.bump) ∧
      env.createProgramAddress env.dstId (escrowSeeds escrow.orderHash escrow.hashlock
        escrow.creator escrow.amount) escrow.bump = some a) ∧
    (∀ (ix : Src.CreateEscrow K) (l : Chain K), Src.createEscrow env s.clock ix s.ledger = .ok l →
      ∃ order escrow, s.ledger.programAt ix.order = some (.order order) ∧
        l.programAt ix.escrow = some (.escrowSrc escrow) ∧
        escrow.hashlock = getEscrowHashlock order.hashlock ix.merkleProof) ∧
    (∀ p p' : OrderParams K, KeysFaithful env p p' → p ≠ p' →
      getOrderHash env p ≠ getOrderHash env p' ∨
        (orderPreimage env p ≠ orderPreimage env p' ∧
          env.keccak (orderPreimage env p) = env.keccak (orderPreimage env p'))) ∧
    (env.CollisionFree → ∀ p p' : OrderParams K, KeysFaithful env p p' → p ≠ p' →
      (env.findProgramAddress env.srcId (orderSeeds (getOrderHash env p))).1 ≠
          (env.findProgramAddress env.srcId (orderSeeds (getOrderHash env p'))).1 ∨
        (orderPreimage env p ≠ orderPreimage env p' ∧
          env.keccak (orderPreimage env p) = env.keccak (orderPreimage env p'))) ∧
    (∀ (ix : Src.CreateEscrow K) (l : Chain K), Src.createEscrow env s.clock ix s.ledger = .ok l →
      ∃ order escrow, s.ledger.programAt ix.order = some (.order order) ∧
        l.programAt ix.escrow = some (.escrowSrc escrow) ∧
        escrow.seeds = escrowSeeds order.orderHash
          (getEscrowHashlock order.hashlock ix.merkleProof) ix.taker ix.amount) ∧
    (∀ (ix : Dst.Create K) (l : Chain K), Dst.create env s.clock ix s.ledger = .ok l →
      ∃ escrow, l.programAt ix.escrow = some (.escrowDst escrow) ∧ escrow.seeds = ix.seeds) ∧
    (∀ a data, s.ledger.programAt a = some data → ∀ (ix : Instruction K) (c : SeedConstraint K),
      ix.seedConstraint env data = some c → ix.Recalls a h data →
      (∀ address, SeedConstraint.check env { c with address } = .ok () ↔ address = a) ∧
      (c.address = a → ix.OthersDerived env s.ledger data →
        ¬ RefusesSeeds (ix.run env s.clock s.ledger)) ∧
      (∀ l, ix.run env s.clock s.ledger = .ok l →
        (c.bump.isSome = true → s.ledger.programAt c.address = some data) → c.address = a)) := by
  refine ⟨fun a order live => ?_, fun a escrow live => ?_, fun a escrow live => ?_,
    fun ix l ran => ?_, fun p p' keys differ => ?_, fun free p p' keys differ => ?_,
    fun ix l ran => ?_, fun ix l ran => ?_, fun a data live ix c constraint recalls => ?_⟩
  · have placed := trace.placed live
    obtain ⟨c, clock, found, same, _⟩ := (trace.tracked live).created
    refine ⟨placed, env.create_of_find placed, c, clock, found, ?_⟩
    rw [same]
    rfl
  · have placed := trace.placed live
    exact ⟨placed, env.create_of_find placed⟩
  · have placed := trace.placed live
    exact ⟨placed, env.create_of_find placed⟩
  · obtain ⟨v, steps⟩ := Src.createEscrow_steps ran
    exact ⟨v.order, ix.newEscrow env v.order v.hashlock v.dstAmount s.clock.unixTimestamp,
      Ledger.programAt_eq_some.mpr steps.loaded, steps.escrow_programAt,
      Src.acceptedHashlock_eq steps.accepted⟩
  · by_cases same : getOrderHash env p = getOrderHash env p'
    · exact Or.inr ((getOrderHash_inj keys same).resolve_left differ)
    · exact Or.inl same
  · by_cases same : (env.findProgramAddress env.srcId (orderSeeds (getOrderHash env p))).1 =
        (env.findProgramAddress env.srcId (orderSeeds (getOrderHash env p'))).1
    · have hashes := orderSeeds_injective (free.find_inj same).2
      exact Or.inr ((getOrderHash_inj keys hashes).resolve_left differ)
    · exact Or.inl same
  · obtain ⟨v, steps⟩ := Src.createEscrow_steps ran
    refine ⟨v.order, _, Ledger.programAt_eq_some.mpr steps.loaded, steps.escrow_programAt, ?_⟩
    rw [Src.acceptedHashlock_eq steps.accepted]
    rfl
  · refine ⟨ix.newEscrow env s.clock.unixTimestamp, ?_, rfl⟩
    rw [(Dst.create_programAt ran).2]
    simp
  · have names := trace.constraint_names live constraint recalls
    refine ⟨names.check_iff, fun same others refused => ?_, fun l ran held => ?_⟩
    · have stored : s.ledger.data c.address = .program data := by
        rw [same]
        exact Ledger.programAt_eq_some.mp live
      exact Instruction.refuses_seeds constraint stored others refused
        ((names.check_iff c.address).mpr same)
    · have passed := Instruction.passes_seeds constraint
        (fun stored => Ledger.programAt_eq_some.mp (held stored)) ran
      exact (names.check_iff c.address).mp passed

def Sample.filled : Sample.Scenario
    (fun r => ((r.state.ledger.programAt (Sample.escrowAt Sample.single 1000 none)).bind
      Data.toEscrowSrc).isSome = true) where
  commands := Sample.singleFill Sample.single

/-- The escrow of the sample fill, and two orders that differ in their salt. -/
theorem Trace.addresses_agree_sample : ∃ (h : History Term) (s : State Term)
    (escrow : EscrowSrc Term), Trace Sample.env h s ∧
      s.ledger.programAt (Sample.escrowAt Sample.single 1000 none) = some (.escrowSrc escrow) ∧
      Sample.env.findProgramAddress Sample.srcId (escrowSeeds escrow.orderHash escrow.hashlock
        escrow.taker escrow.amount) = (Sample.escrowAt Sample.single 1000 none, escrow.bump) ∧
      getOrderHash Sample.env Sample.single ≠ getOrderHash Sample.env Sample.disordered := by
  obtain ⟨r, trace, held⟩ := Sample.filled.reached
  obtain ⟨escrow, live⟩ := Sample.present Data.toEscrowSrc_eq_some held
  obtain ⟨_, escrows, _, _, hashes, _⟩ := trace.addresses_agree
  have keys : KeysFaithful Sample.env Sample.single Sample.disordered := by
    unfold KeysFaithful
    decide +kernel
  refine ⟨_, _, escrow, trace, live, (escrows _ escrow live).1, ?_⟩
  rcases hashes Sample.single Sample.disordered keys (by decide) with differ | collision
  · exact differ
  · have distinct : Sample.env.keccak (orderPreimage Sample.env Sample.single) ≠
        Sample.env.keccak (orderPreimage Sample.env Sample.disordered) := by decide +kernel
    exact absurd collision.2 distinct

end CrossChainEscrow.Source
