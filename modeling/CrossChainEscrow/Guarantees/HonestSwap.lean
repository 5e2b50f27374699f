import CrossChainEscrow.Guarantees.Conservation
import CrossChainEscrow.Guarantees.CreationProgress
import CrossChainEscrow.Guarantees.OrderProgress

/-!
# An honest swap goes through

A whitelisted taker that can spare the rents and the funds can carry a swap from the
order to both payouts: it fills the order, opens the escrow on the destination chain, waits
until both escrows can be withdrawn from, and withdraws from both with the maker's
secret. The plan runs from every reachable state in which the order stands and
allows the fill.
-/

namespace CrossChainEscrow.Source
open Library.Words Library.Bytes Library.Accounts Library.Bookkeeping Library.Registries Whitelist

variable {K : Type} [DecidableEq K] {env : Environment K} {h : History K} {s : State K} {a : K}
  {l l' : Chain K} {order : Order K} {program : TokenProgram}

/-! ## Claiming both sides -/

section Claims
variable {b : K} {e : EscrowSrc K} {d : EscrowDst K} {srcProgram dstProgram : TokenProgram}
  {secret : Bytes32}

/-- With both escrows live and in their windows, both withdrawals succeed one after
the other and pay, and the runtime accepts both where the wallets are rent-exempt. -/
theorem Trace.both_withdrawn (free : env.CollisionFree) (trace : Trace env h s)
    (wrapped : env.mintProgram env.NATIVE_MINT = some .token)
    (live : s.ledger.programAt a = some (.escrowSrc e))
    (owned : env.mintProgram e.token = some srcProgram)
    (whole : unrescued env a (env.associatedTokenAddress a srcProgram e.token) h = true)
    (holds : HoldsAccount env e.taker srcProgram e.token s.ledger)
    (liveDst : s.ledger.programAt b = some (.escrowDst d))
    (ownedDst : env.mintProgram d.token = some dstProgram)
    (wholeDst : unrescued env b (env.associatedTokenAddress b dstProgram d.token) h = true)
    (recipient : env.Wallet d.recipient)
    (receivable : Receivable env d.assetIsNative d.recipient dstProgram d.token s.ledger)
    (rent : RentSound env.toHost s.ledger) (creatorExempt : env.RentExempt s.ledger d.creator)
    (takerExempt : env.RentExempt s.ledger e.taker)
    (paidExempt : d.assetIsNative = true → env.ExemptWith s.ledger d.recipient d.amount.toNat)
    (preimage : hashv env [secret.1] = e.hashlock ∧ hashv env [secret.1] = d.hashlock)
    (opened : e.withdrawOpen s.clock.unixTimestamp ∧ d.withdrawOpen s.clock.unixTimestamp) :
    ∃ paid claimed,
      (Instruction.dst (.withdraw (d.withdrawCall env b dstProgram secret))).process env s.clock
          s.ledger = .ok paid ∧
      (Instruction.src (.withdraw (e.withdrawCall env a srcProgram secret))).process env s.clock
          paid = .ok claimed ∧
      EndsPaying env b d.recipient d.token dstProgram d.assetIsNative d.amount s.ledger paid ∧
      EndsPaying env a e.taker e.token srcProgram false e.amount paid claimed := by
  have creator : env.Wallet d.creator := trace.parties liveDst
  have taker : env.Wallet e.taker := (trace.parties live).2
  obtain ⟨paid, pay, pays, accepted⟩ := trace.dstWithdraw_succeeds free wrapped liveDst ownedDst
    wholeDst (trace.wallet_ne liveDst recipient) (fun plain => Or.inl (receivable plain)) preimage.2
    opened.2
  have spare : env.CanSpare s.ledger d.creator
      (openingCost env d.assetIsNative d.recipient dstProgram d.token s.ledger) := by
    rw [receivable.openingCost]
    exact creatorExempt
  obtain ⟨processed, stays⟩ := accepted rent spare fun native =>
    ⟨fun same => env.associated_notWallet _ _ _ (same ▸ recipient), paidExempt native⟩
  -- it leaves the other escrow as it was
  have distinct : a ≠ b := by
    intro same
    rw [same, liveDst] at live
    cases live
  have signed : ∀ key ∈ (Instruction.dst (.withdraw (d.withdrawCall env b dstProgram secret))).signers,
      env.Wallet key := wallet_of_signers creator
  have kept := trace.untouched_call free live signed pay fun named =>
    distinct (List.mem_singleton.mp named)
  have after := trace.step signed pay
  have stillWhole : unrescued env a (env.associatedTokenAddress a srcProgram e.token)
      (⟨s, .dst (.withdraw (d.withdrawCall env b dstProgram secret)), paid⟩ :: h) = true := whole
  obtain ⟨claimed, _, claims, claimAccepted⟩ := after.srcWithdraw_succeeds free wrapped
    (kept.data.trans live) owned stillWhole (holds.stands taker (Instruction.standing pay))
    preimage.1 opened.1
  exact ⟨paid, claimed, processed, claimAccepted (trace.call_rentSound pay rent)
    (stays _ taker takerExempt), pays, claims⟩

end Claims

/-! ## The plan -/

/-- A swap as its taker plans it: the fill, the escrow on the destination chain, when
it opens that one and when it withdraws, and the maker's secret. -/
structure Swap (K : Type) where
  taker : K
  amount : U64
  merkleProof : Option MerkleProof
  dutchAuctionData : AuctionData
  create : Dst.Create K
  opening : U32
  claiming : U32
  secret : Bytes32

namespace Swap
variable (env : Environment K) (order : Order K) (a : K) (program : TokenProgram) (now : U32)
  (w : Swap K)

def fill : Src.CreateEscrow K :=
  order.fillCall env a program w.taker w.amount w.merkleProof w.dutchAuctionData

/-- The escrow that the fill leaves. -/
def source (dstAmount : Limbs) : EscrowSrc K :=
  (w.fill env order a program).newEscrow env order
    (getEscrowHashlock order.hashlock w.merkleProof) dstAmount now

def destination : EscrowDst K := w.create.newEscrow env w.opening

def payment : Dst.Withdraw K :=
  (w.destination env).withdrawCall env w.create.escrow w.create.tokenProgram w.secret

def claim : Src.Withdraw K :=
  (w.source env order a program now order.dstAmount).withdrawCall env
    (w.fill env order a program).escrow program w.secret

def commands : List (Command K) :=
  [.call (.src (.createEscrow (w.fill env order a program))), .wait w.opening,
    .call (.dst (.create w.create)), .wait w.claiming, .call (.dst (.withdraw (w.payment env))),
    .call (.src (.withdraw (w.claim env order a program now)))]

end Swap

/-- What the parties have, and that the two sides fit: a taker that can spare the rents
and a native payment, a rent-exempt maker, one hashlock, whose preimage the secret is,
the maker as recipient, and a time at which both escrows are open. -/
structure Swap.Viable (env : Environment K) (h : History K) (s : State K) (order : Order K)
    (program : TokenProgram) (w : Swap K) : Prop where
  wallet : env.Wallet w.taker
  plain : s.ledger.data w.taker = .empty
  listed : Enrolled (env.srcId, w.taker) (whitelistLog h)
  spare : env.CanSpare s.ledger w.taker (env.escrowRent order.token + w.create.cost env)
  maker : env.RentExempt s.ledger order.creator
  affords : Affords env w.taker w.create.mint w.create.tokenProgram w.create.assetIsNative
    w.create.amount s.ledger
  receives : HoldsAccount env w.taker program order.token s.ledger
  paid : Receivable env w.create.assetIsNative order.creator w.create.tokenProgram w.create.mint
    s.ledger
  vacant : s.ledger.data (order.escrowAddress env w.taker w.amount w.merkleProof) = .empty
  vacantDst : s.ledger.data w.create.escrow = .empty
  allows : order.Allows env s.clock w.amount w.merkleProof w.dutchAuctionData
  standard : w.create.Standard env
  admissible : w.create.Admissible env ⟨w.opening⟩
  creator : w.create.creator = w.taker
  recipient : w.create.recipient = order.creator
  hashlock : w.create.hashlock = getEscrowHashlock order.hashlock w.merkleProof
  preimage : hashv env [w.secret.1] = w.create.hashlock
  inOrder : s.clock.unixTimestamp ≤ w.opening ∧ w.opening ≤ w.claiming
  openSrc : ((order.timelocks.timelocks.setDeployedAt s.clock.unixTimestamp).getTimelocks).inWindow
    .srcWithdrawal .srcCancellation w.claiming
  openDst : (w.destination env).withdrawOpen w.claiming

/-! ## The fill and the other escrow -/

section Openings
variable {account : TokenAccount K} {w : Swap K}

/-- The fill runs and leaves the taker what it needs for the other side. -/
theorem Swap.Viable.filled (viable : w.Viable env h s order program) (free : env.CollisionFree)
    (trace : Trace env h s) (live : s.ledger.programAt a = some (.order order))
    (rent : RentSound env.toHost s.ledger) (ready : OrderReady env s a order program account) :
    ∃ l' dstAmount, (Instruction.src (.createEscrow (w.fill env order a program))).process env s.clock
        s.ledger = .ok l' ∧
      l'.programAt (w.fill env order a program).escrow = some (.escrowSrc
        (w.source env order a program s.clock.unixTimestamp dstAmount)) ∧
      l'.data w.create.escrow = .empty ∧
      Affords env w.taker w.create.mint w.create.tokenProgram w.create.assetIsNative
        w.create.amount l' ∧
      env.CanSpare l' w.taker (w.create.cost env) ∧ env.RentExempt l' order.creator := by
  have spare := viable.spare
  have spareFill : env.CanSpare s.ledger w.taker (env.escrowRent order.token) := by
    unfold Environment.CanSpare at *
    omega
  obtain ⟨l', ran⟩ := trace.fill_runs free live ready viable.wallet viable.plain
    (Nat.le_trans (Nat.le_add_left _ _) spareFill) viable.listed viable.vacant viable.allows
  have processed := trace.fill_processes free rent viable.wallet spareFill viable.maker ran
  have makerExempt := trace.fill_exempt ran spareFill (trace.parties live) viable.maker
  obtain ⟨data, cost, bound, _, spent⟩ := trace.fill_wallet ran viable.wallet
  obtain ⟨v, steps⟩ := Src.createEscrow_steps ran
  obtain rfl : v.order = order := steps.order_eq live
  have stored := steps.escrow_programAt
  rw [Src.acceptedHashlock_eq steps.accepted] at stored
  obtain ⟨_, _, _, _, _, _, isAta, _⟩ := steps.moved_effect
  -- the accounts that the fill changes
  have placed := (trace.placed live).derived
  have derived : env.Derived (w.fill env v.order a program).escrow :=
    env.derived_src (env.find_created rfl)
  have derivedDst : env.Derived w.create.escrow :=
    env.derived_dst (env.find_created viable.standard.escrow)
  have taker : ∀ {key : K}, env.Derived key → w.taker ≠ key :=
    fun there same => there.notWallet (same ▸ viable.wallet)
  refine ⟨l', v.dstAmount, processed, stored, ?_, fun plain => ?_, ?_, makerExempt⟩
  · refine (steps.others ?_ ?_ ?_ ?_).trans viable.vacantDst
    · intro same
      exact absurd (free.find_inj (viable.standard.escrow.symm.trans same)).1
        (Ne.symm env.srcId_ne_dstId)
    · rw [isAta]
      exact derivedDst.ne_associated free _ _ _
    · intro same
      have vacant := viable.vacantDst
      rw [same, steps.loaded] at vacant
      cases vacant
    · exact derivedDst.ne_associated free _ _ _
  · obtain ⟨token, loaded, rest⟩ := viable.affords plain
    refine ⟨token, (steps.others ?_ ?_ ?_ ?_).trans loaded, rest⟩
    · exact (derived.ne_associated free _ _ _).symm
    · rw [isAta]
      exact fun same => taker derived (free.associated_inj same).1
    · exact (placed.ne_associated free _ _ _).symm
    · exact fun same => taker placed (free.associated_inj same).1
  · change cost ≤ env.escrowRent v.order.token at bound
    change s.ledger.lamports w.taker ≤ l'.lamports w.taker + cost at spent
    change l'.data w.taker = s.ledger.data w.taker at data
    unfold Environment.CanSpare at *
    rw [data]
    omega

end Openings

/-! ## The whole swap -/

/-- The run ends with both withdrawals, and each paid: the maker what the taker put
into the destination escrow, the taker what it filled. -/
def Swap.Settles (env : Environment K) (order : Order K) (a : K) (program : TokenProgram) (w : Swap K)
    (r : Run K) : Prop :=
  ∃ paid claimed before, r.history = claimed :: paid :: before ∧
    EndsPaying env w.create.escrow order.creator w.create.mint w.create.tokenProgram
      w.create.assetIsNative w.create.amount paid.pre.ledger paid.post ∧
    EndsPaying env (w.fill env order a program).escrow w.taker order.token program false w.amount
      claimed.pre.ledger claimed.post

theorem Swap.runs {w : Swap K} {filled opened paid claimed : Chain K}
    (filling : (Instruction.src (.createEscrow (w.fill env order a program))).process env s.clock
      s.ledger = .ok filled)
    (inOrder : s.clock.unixTimestamp ≤ w.opening ∧ w.opening ≤ w.claiming)
    (creating : (Instruction.dst (.create w.create)).process env ⟨w.opening⟩ filled = .ok opened)
    (paying : (Instruction.dst (.withdraw (w.payment env))).process env ⟨w.claiming⟩ opened = .ok paid)
    (claiming : (Instruction.src (.withdraw (w.claim env order a program
      s.clock.unixTimestamp))).process env ⟨w.claiming⟩ paid = .ok claimed) :
    ∃ before, execute env ⟨h, s⟩ (w.commands env order a program s.clock.unixTimestamp) =
      some ⟨⟨⟨paid, ⟨w.claiming⟩⟩, .src (.withdraw (w.claim env order a program s.clock.unixTimestamp)),
        claimed⟩ :: ⟨⟨opened, ⟨w.claiming⟩⟩, .dst (.withdraw (w.payment env)), paid⟩ :: before,
        ⟨claimed, ⟨w.claiming⟩⟩⟩ := by
  refine ⟨⟨⟨filled, ⟨w.opening⟩⟩, .dst (.create w.create), opened⟩ ::
    ⟨s, .src (.createEscrow (w.fill env order a program)), filled⟩ :: h, ?_⟩
  refine Eq.trans (execute_call filling) ?_
  refine Eq.trans (execute_wait inOrder.1) (Eq.trans (execute_call creating) ?_)
  refine Eq.trans (execute_wait inOrder.2) (Eq.trans (execute_call paying) ?_)
  exact execute_call claiming

/-- In every reachable state whose token accounts are rent-exempt, for every live order
that no rescue ran on: every viable plan of a swap runs to its end, transaction by
transaction, and both parties are paid. -/
theorem Trace.swap_completes (free : env.CollisionFree) (trace : Trace env h s)
    (wrapped : env.mintProgram env.NATIVE_MINT = some .token)
    (live : s.ledger.programAt a = some (.order order)) (whole : orderUnrescued a h = true)
    (rent : RentSound env.toHost s.ledger) :
    ∃ program, env.mintProgram order.token = some program ∧
      ∀ w : Swap K, w.Viable env h s order program →
        ∃ r, execute env ⟨h, s⟩ (w.commands env order a program s.clock.unixTimestamp) = some r ∧
          w.Settles env order a program r := by
  obtain ⟨program, account, ready⟩ := trace.order_ready free live whole
  refine ⟨program, ready.owned, fun w viable => ?_⟩
  have maker : env.Wallet order.creator := trace.parties live
  obtain ⟨dstWallet, isTaker⟩ : env.Wallet w.create.creator ∧ w.create.creator = w.taker :=
    ⟨viable.creator ▸ viable.wallet, viable.creator⟩
  -- the fill
  obtain ⟨filled, dstAmount, filling, source, vacant, affords, spare, makerExempt⟩ :=
    viable.filled free trace live rent ready
  have fill := (Instruction.process_ok.mp filling).1
  have signedFill : ∀ key ∈ (Instruction.src (.createEscrow (w.fill env order a program))).signers,
      env.Wallet key := wallet_of_signers viable.wallet
  have standing : Standing env.Wallet s.ledger filled := Instruction.standing fill
  have rentFilled := trace.call_rentSound fill rent
  have waited : Trace env (⟨s, .src (.createEscrow (w.fill env order a program)), filled⟩ :: h)
      ⟨filled, ⟨w.opening⟩⟩ := .tick (trace.step signedFill fill) viable.inOrder.1
  -- the escrow on the destination chain
  have plain := standing.plain _ viable.wallet viable.plain
  rw [← isTaker] at affords spare plain
  obtain ⟨opened, create⟩ := waited.dstCreate_runs free viable.standard dstWallet plain
    (Nat.le_trans (Nat.le_add_left _ _) spare) affords vacant viable.admissible
  have creating :=
    waited.dstCreate_processes free rentFilled viable.standard dstWallet plain spare create
  have opening : (Instruction.dst (.create w.create)).run env ⟨w.opening⟩ filled = .ok opened := create
  have exempt : ∀ {k : K}, env.Wallet k → env.RentExempt filled k → env.RentExempt opened k :=
    viable.standard.exempt dstWallet plain spare create
  have creatorExempt := exempt dstWallet (Nat.le_trans (Nat.le_add_right _ _) spare)
  have takerExempt : env.RentExempt opened w.taker := isTaker ▸ creatorExempt
  obtain ⟨_, _, made⟩ := viable.standard.made free dstWallet create
  have signedCreate : ∀ key ∈ (Instruction.dst (.create w.create)).signers, env.Wallet key :=
    wallet_of_signers dstWallet
  have distinct : (w.fill env order a program).escrow ≠ w.create.escrow := by
    intro same
    rw [← same, Ledger.programAt_eq_some.mp source] at vacant
    cases vacant
  have kept := waited.untouched_call free source signedCreate create fun named =>
    distinct (List.mem_singleton.mp named)
  have final : Trace env (⟨⟨filled, ⟨w.opening⟩⟩, .dst (.create w.create), opened⟩ ::
      ⟨s, .src (.createEscrow (w.fill env order a program)), filled⟩ :: h) ⟨opened, ⟨w.claiming⟩⟩ :=
    .tick (waited.step signedCreate create) viable.inOrder.2
  -- both escrows are live, and no rescue ran on either
  have wholeSrc : unrescued env (w.fill env order a program).escrow
      (env.associatedTokenAddress (w.fill env order a program).escrow program order.token)
      (⟨⟨filled, ⟨w.opening⟩⟩, .dst (.create w.create), opened⟩ ::
        ⟨s, .src (.createEscrow (w.fill env order a program)), filled⟩ :: h) = true := by
    have nothing : rescuedFrom a order.token h = 0 := rescuedFrom_eq_zero whole _
    simp only [unrescued, escrowOpened, if_neg (Ne.symm distinct), if_pos, Option.getD_none,
      Option.getD_some, Instruction.rescueCall, Option.all_none, Bool.true_and]
    exact decide_eq_true nothing
  have wholeDst : unrescued env w.create.escrow
      (env.associatedTokenAddress w.create.escrow w.create.tokenProgram w.create.mint)
      (⟨⟨filled, ⟨w.opening⟩⟩, .dst (.create w.create), opened⟩ ::
        ⟨s, .src (.createEscrow (w.fill env order a program)), filled⟩ :: h) = true := by
    simp only [unrescued, escrowOpened, if_pos, Option.getD_some]
  have stays := standing.trans (Instruction.standing opening)
  have isMaker : (w.destination env).recipient = order.creator := viable.recipient
  have paidExempt : (w.destination env).assetIsNative = true →
      env.ExemptWith opened (w.destination env).recipient (w.destination env).amount.toNat := by
    intro _
    rw [isMaker]
    exact Nat.le_add_right_of_le (exempt maker makerExempt)
  have preimage : hashv env [w.secret.1] = (w.source env order a program s.clock.unixTimestamp
      dstAmount).hashlock ∧ hashv env [w.secret.1] = (w.destination env).hashlock :=
    ⟨viable.preimage.trans viable.hashlock, viable.preimage⟩
  obtain ⟨paid, claimed, paying, claiming, pays, claims⟩ := final.both_withdrawn free wrapped
    (kept.data.trans source) ready.owned wholeSrc (viable.receives.stands viable.wallet stays)
    made.escrow viable.standard.mint wholeDst (isMaker ▸ maker)
    (isMaker ▸ viable.paid.stands maker stays) (waited.call_rentSound opening rentFilled) creatorExempt
    takerExempt paidExempt preimage ⟨viable.openSrc, viable.openDst⟩
  obtain ⟨before, runs⟩ := w.runs filling viable.inOrder creating paying claiming
  exact ⟨_, runs, _, _, before, rfl, isMaker ▸ pays, claims⟩

/-- The taker fills the sample order at second 150, opens the other escrow ten seconds
later and withdraws at second 166. -/
def Sample.plan : Swap Term where
  taker := Sample.taker
  amount := 1000
  merkleProof := none
  dutchAuctionData := Sample.auction
  create := Sample.createDst Sample.single Sample.single.timelocks 180
  opening := 160
  claiming := 166
  secret := Sample.secret

def Sample.swappable : Sample.Scenario (fun r =>
    (((r.state.ledger.programAt (Sample.orderAt Sample.single)).bind Data.toOrder).any (fun o =>
        decide (o.token = Sample.usdc ∧ o.creator = Sample.maker ∧
          o.hashlock = Sample.single.hashlock ∧ r.state.clock.unixTimestamp = 150 ∧
          orderUnrescued (Sample.orderAt Sample.single) r.history = true ∧
          ((o.timelocks.timelocks.setDeployedAt 150).getTimelocks).timelocks.deployedAt = 150 ∧
          ((o.timelocks.timelocks.setDeployedAt 150).getTimelocks).timelocks.offset .srcWithdrawal = 10 ∧
          ((o.timelocks.timelocks.setDeployedAt 150).getTimelocks).timelocks.offset .srcCancellation =
            30 ∧
          Sample.env.RentExempt r.state.ledger o.creator ∧
          (Src.createEscrow Sample.env r.state.clock (Sample.plan.fill Sample.env o
            (Sample.orderAt Sample.single) .token) r.state.ledger).toOption.isSome = true)) &&
      (Sample.holds Sample.maker r.state.ledger && Sample.affords Sample.taker 2000
        (Sample.env.escrowRent Sample.usdc + Sample.plan.create.cost Sample.env) r.state.ledger &&
        (Dst.create Sample.env ⟨160⟩ Sample.plan.create r.state.ledger).toOption.isSome)) = true) where
  commands := Sample.whitelisting ++ [.wait 100, .call (.src (.create (Sample.create Sample.single))),
    .wait 150]

/-- The maker's order and the taker's plan for it end with both payouts. -/
theorem Trace.swap_completes_sample : ∃ (h : History Term) (s : State Term) (order : Order Term)
    (r : Run Term), execute Sample.env ⟨h, s⟩ (Sample.plan.commands Sample.env order
        (Sample.orderAt Sample.single) .token s.clock.unixTimestamp) = some r ∧
      Sample.plan.Settles Sample.env order (Sample.orderAt Sample.single) .token r := by
  obtain ⟨r, trace, rent, stands⟩ := Sample.swappable.reached_sound Sample.rentSound
  obtain ⟨held, rest⟩ := Bool.and_eq_true_iff.mp stands
  obtain ⟨accounts, creates⟩ := Bool.and_eq_true_iff.mp rest
  obtain ⟨maker, taker⟩ := Bool.and_eq_true_iff.mp accounts
  obtain ⟨affords, plain, spare⟩ := Sample.affords_iff taker
  obtain ⟨order, live, token, creator, hashlock, now, whole, deployed, opens, closes,
    exempt, fills⟩ := Sample.live_order held
  obtain ⟨_, filled⟩ := isSome_toOption fills
  obtain ⟨_, opened⟩ := isSome_toOption creates
  have standard : Sample.plan.create.Standard Sample.env := ⟨rfl, rfl, rfl, rfl⟩
  obtain ⟨vacantDst, admissible, _⟩ :=
    standard.made Sample.collisionFree (Sample.wallet_atom 12) opened
  obtain ⟨program, account, ready⟩ := trace.order_ready Sample.collisionFree live whole
  have owned := ready.owned
  rw [token] at owned
  obtain rfl : TokenProgram.token = program := Option.some.inj owned
  obtain ⟨resolver, vacant, allows, _⟩ := ready.made live rfl rfl (trace.tracked live).whole filled
  obtain ⟨program, owned, completes⟩ := trace.swap_completes Sample.collisionFree rfl live whole rent
  rw [token] at owned
  obtain rfl : TokenProgram.token = program := Option.some.inj owned
  have holdsTaker : HoldsAccount Sample.env Sample.taker .token order.token r.state.ledger := by
    obtain ⟨token, loaded, programs, owner, mints, _⟩ := affords rfl
    simp only [*]
    exact ⟨token, loaded, programs, owner, mints⟩
  obtain ⟨r', runs, settles⟩ := completes Sample.plan {
    wallet := Sample.wallet_atom 12
    plain := plain
    listed := (trace.resolver_iff Sample.collisionFree _ _).mp resolver
    spare := token ▸ spare
    maker := exempt
    affords := affords
    receives := holdsTaker
    paid := fun _ => creator ▸ Sample.holdsAccount maker
    vacant := vacant
    vacantDst := vacantDst
    allows := allows
    standard := standard
    admissible := admissible
    creator := rfl
    recipient := creator.symm
    hashlock := hashlock.symm
    preimage := by decide +kernel
    inOrder := by
      rw [now]
      decide
    openSrc := by
      rw [now, Limbs.inWindow_iff, deployed, opens, closes]
      decide
    openDst := by
      rw [EscrowDst.withdrawOpen, Limbs.inWindow_iff]
      decide +kernel }
  exact ⟨r.history, r.state, order, r', runs, settles⟩

end CrossChainEscrow.Source
