import CrossChainEscrow.Guarantees.DestinationSafety
import CrossChainEscrow.Guarantees.Progress
import CrossChainEscrow.Guarantees.SecretReveal
import CrossChainEscrow.Invariants.Lifetimes

/-!
# Both sides of a swap or neither

Two live escrows with one hashlock, one on each chain. A withdrawal from either
publishes a secret, and from then on until the cancellation of the other escrow
its payee cannot lose it: in every interleaving the other escrow was withdrawn
from for that payee, or it stands as it was and the published secret withdraws
from it.
-/

namespace CrossChainEscrow.Source
open Library.Words Library.Bytes Library.Accounts Library.Registries

variable {K : Type} [DecidableEq K] {env : Environment K} {h : History K} {s : State K}
  {l l' : Chain K} {ix : Instruction K} {clock : Clock} {a d : K} {secret : Bytes32}

/-! ## What a withdrawal found -/

/-- A withdrawal reveals a preimage and pays the taker's own account. -/
theorem Src.WithdrawCall.Steps.pays (free : env.CollisionFree) (trace : Trace env h s)
    {c : Src.WithdrawCall K} {source : EscrowSrc K} {escrowToken takerToken : TokenAccount K}
    {paid settled : Chain K}
    (steps : Src.WithdrawCall.Steps env s.clock c source escrowToken takerToken s.ledger paid settled l)
    (derived : c.takerAta = env.associatedTokenAddress c.taker c.tokenProgram c.mint) :
    env.balance l source.taker source.token =
      env.balance s.ledger source.taker source.token +
        env.balance s.ledger c.escrow source.token := by
  have live := Ledger.programAt_eq_some.mpr steps.loaded
  have notWallet := (trace.placed live).derived.notWallet
  obtain ⟨owned, balance, _⟩ := trace.balance_eq free notWallet steps.token steps.ataDerived
  have distinct : c.taker ≠ c.escrow := by
    rw [steps.taker]
    exact trace.wallet_ne live (trace.parties live).2
  have received := (steps.received distinct).1
  rw [derived, steps.taker, steps.mint] at received
  rw [steps.mint] at owned balance
  rw [balance, Host.balance_eq owned, Host.balance_eq owned]
  exact received

theorem Src.withdraw_takerAta {c : Src.Withdraw K} (ran : Src.withdraw env clock c l = .ok l') :
    c.takerAta = env.associatedTokenAddress c.taker c.tokenProgram c.mint := by
  simp only [Src.withdraw, bind_ok, requireMint_ok, requireSeeds_ok, requireThat_ok,
    loadEscrowSrc_ok, loadAssociatedToken_ok, exists_const] at ran
  obtain ⟨_, _, _, _, _, _, _, _, _, ⟨_, _, _, derived⟩, _⟩ := ran
  exact derived

theorem Src.publicWithdraw_takerAta {c : Src.PublicWithdraw K}
    (ran : Src.publicWithdraw env clock c l = .ok l') :
    c.takerAta = env.associatedTokenAddress c.taker c.tokenProgram c.mint := by
  simp only [Src.publicWithdraw, bind_ok, requireMint_ok, requireSeeds_ok, requireThat_ok,
    loadEscrowSrc_ok, loadAssociatedToken_ok, exists_const] at ran
  obtain ⟨_, _, _, _, _, _, _, _, _, _, _, ⟨_, _, _, derived⟩, _⟩ := ran
  exact derived

theorem WithdrawsSrc.steps (withdraws : WithdrawsSrc a secret ix)
    (ran : ix.run env clock l = .ok l') : ∃ (c : Src.WithdrawCall K) (source : EscrowSrc K)
      (escrowToken takerToken : TokenAccount K) (paid settled : Chain K),
      c.escrow = a ∧ c.secret = secret ∧
      c.takerAta = env.associatedTokenAddress c.taker c.tokenProgram c.mint ∧
      Src.WithdrawCall.Steps env clock c source escrowToken takerToken l paid settled l' := by
  cases withdraws with
  | withdraw named reveals =>
    obtain ⟨_, _, _, _, _, steps⟩ := Src.withdraw_steps ran
    exact ⟨_, _, _, _, _, _, named, reveals, Src.withdraw_takerAta ran, steps⟩
  | publicWithdraw named reveals =>
    obtain ⟨_, _, _, _, _, _, steps⟩ := Src.publicWithdraw_steps ran
    exact ⟨_, _, _, _, _, _, named, reveals, Src.publicWithdraw_takerAta ran, steps⟩

theorem WithdrawsSrc.pays (free : env.CollisionFree) (trace : Trace env h s) {source : EscrowSrc K}
    (live : s.ledger.programAt a = some (.escrowSrc source)) (withdraws : WithdrawsSrc a secret ix)
    (ran : ix.run env s.clock s.ledger = .ok l) :
    hashv env [secret.1] = source.hashlock ∧
      env.balance l source.taker source.token =
        env.balance s.ledger source.taker source.token + env.balance s.ledger a source.token := by
  obtain ⟨c, _, _, _, _, _, rfl, rfl, derived, steps⟩ := withdraws.steps ran
  obtain rfl := EscrowSrc.unique live steps.loaded
  exact ⟨steps.secret, steps.pays free trace derived⟩

/-- The recipient of a destination escrow has got its amount, the tokens at its own
account. A native recipient that signs for another creator gets the deposit too; if
it names a token account of its own that is not there, it pays for it. -/
def Delivered (env : Environment K) (d : K) (destination : EscrowDst K) (signers : List K)
    (l l' : Chain K) : Prop :=
  (destination.assetIsNative = false →
    env.balance l destination.recipient destination.token + env.balance l d destination.token ≤
      env.balance l' destination.recipient destination.token) ∧
  (destination.assetIsNative = true →
    env.ataOf d destination.token ≠ some destination.recipient →
    ∃ spent, spent ≤ env.minimumBalance (env.tokenAccountLen destination.token) ∧
      (destination.recipient ∉ signers → spent = 0) ∧
      l.lamports destination.recipient + destination.amount.toNat +
          (if destination.recipient ∈ signers ∧ destination.creator ≠ destination.recipient then
            destination.safetyDeposit.toNat else 0) ≤
        l'.lamports destination.recipient + spent)

theorem Dst.WithdrawCall.Steps.delivers (free : env.CollisionFree) (trace : Trace env h s)
    {c : Dst.WithdrawCall K} {destination : EscrowDst K} {escrowToken : TokenAccount K}
    {initialized paid settled : Chain K}
    (steps : Dst.WithdrawCall.Steps env s.clock c destination escrowToken s.ledger initialized paid
      settled l) (other : destination.recipient ≠ c.escrow) :
    Delivered env c.escrow destination [c.payer] s.ledger l := by
  have live := Ledger.programAt_eq_some.mpr steps.loaded
  have notWallet := (trace.placed live).derived.notWallet
  obtain ⟨owned, balance, ata⟩ := trace.balance_eq free notWallet steps.token steps.ataDerived
  have distinct : c.recipient ≠ c.escrow := steps.recipient ▸ other
  rw [steps.mint] at owned balance ata
  refine ⟨fun plain => ?_, fun native notAta => ?_⟩
  · have received := steps.received distinct plain
    rw [steps.recipient, steps.mint] at received
    rw [balance, Host.balance_eq owned, Host.balance_eq owned]
    exact received
  · obtain ⟨rent, bound, unpaid, received⟩ := steps.receivedLamports distinct native
    rw [steps.mint] at bound
    rw [steps.recipient, steps.creator] at received
    rw [steps.recipient] at unpaid
    rw [ata, ne_eq, Option.some.injEq, eq_comm] at notAta
    rw [if_neg notAta] at received
    refine ⟨rent, bound, fun absent => unpaid fun same => absent (List.mem_singleton.mpr same), ?_⟩
    by_cases signs : destination.recipient = c.payer
    · simpa [signs] using received
    · simpa [signs] using received

theorem WithdrawsDst.steps (withdraws : WithdrawsDst d secret ix)
    (ran : ix.run env clock l = .ok l') : ∃ (c : Dst.WithdrawCall K) (destination : EscrowDst K)
      (escrowToken : TokenAccount K) (initialized paid settled : Chain K),
      c.escrow = d ∧ c.secret = secret ∧ ix.signers = [c.payer] ∧
      Dst.WithdrawCall.Steps env clock c destination escrowToken l initialized paid settled l' := by
  cases withdraws with
  | withdraw named reveals =>
    obtain ⟨_, _, _, _, _, steps⟩ := Dst.withdraw_steps ran
    exact ⟨_, _, _, _, _, _, named, reveals, rfl, steps⟩
  | publicWithdraw named reveals =>
    obtain ⟨_, _, _, _, _, _, steps⟩ := Dst.publicWithdraw_steps ran
    exact ⟨_, _, _, _, _, _, named, reveals, rfl, steps⟩

theorem WithdrawsDst.reveals {destination : EscrowDst K}
    (live : l.programAt d = some (.escrowDst destination)) (withdraws : WithdrawsDst d secret ix)
    (ran : ix.run env clock l = .ok l') : hashv env [secret.1] = destination.hashlock := by
  obtain ⟨c, _, _, _, _, _, rfl, rfl, _, steps⟩ := withdraws.steps ran
  obtain rfl := EscrowDst.unique live steps.loaded
  exact steps.secret

theorem WithdrawsDst.delivers (free : env.CollisionFree) (trace : Trace env h s)
    {destination : EscrowDst K} (live : s.ledger.programAt d = some (.escrowDst destination))
    (other : destination.recipient ≠ d) (withdraws : WithdrawsDst d secret ix)
    (ran : ix.run env s.clock s.ledger = .ok l) :
    Delivered env d destination ix.signers s.ledger l := by
  obtain ⟨c, _, _, _, _, _, rfl, rfl, signers, steps⟩ := withdraws.steps ran
  obtain rfl := EscrowDst.unique live steps.loaded
  rw [signers]
  exact steps.delivers free trace other

/-! ## One side of a swap leaves the other alone -/

omit [DecidableEq K] in
theorem WithdrawsDst.spares (withdraws : WithdrawsDst d secret ix) :
    ¬ ((∃ secret', WithdrawsSrc a secret' ix) ∨ CancelsSrc a ix) := by
  rintro (⟨_, other⟩ | other)
  · cases withdraws <;> cases other
  · cases withdraws <;> cases other

omit [DecidableEq K] in
theorem WithdrawsSrc.spares (withdraws : WithdrawsSrc a secret ix) :
    ¬ ((∃ secret', WithdrawsDst d secret' ix) ∨ CancelsDst d ix) := by
  rintro (⟨_, other⟩ | other)
  · cases withdraws <;> cases other
  · cases withdraws <;> cases other

/-! ## Stages once reached stay reached -/

theorem Limbs.reached_mono {x : Limbs} {stage : Stage} {now later : U32}
    (reached : x.reached stage now) (after : now.toNat ≤ later.toNat) : x.reached stage later :=
  Limbs.reached_iff.mpr (Nat.le_trans (Limbs.reached_iff.mp reached) after)

theorem CancelsDst.checked {destination : EscrowDst K} (cancels : CancelsDst d ix)
    (ran : ix.run env clock l = .ok l') (live : l.programAt d = some (.escrowDst destination)) :
    destination.cancelOpen clock.unixTimestamp := by
  cases cancels with
  | cancel named =>
    subst named
    obtain ⟨stored, found, opened⟩ := Dst.cancel_open ran
    rw [live] at found
    cases found
    exact opened

/-! ## The two directions -/

section Swap
variable (free : env.CollisionFree) (trace : Trace env h s)
  (wrapped : env.mintProgram env.NATIVE_MINT = some .token) {later earlier : History K}
  {e : Event K} (split : h = later ++ e :: earlier) {source : EscrowSrc K}
  {destination : EscrowDst K} (src : e.pre.ledger.programAt a = some (.escrowSrc source))
  (dst : e.pre.ledger.programAt d = some (.escrowDst destination))
  (paired : destination.hashlock = source.hashlock)
include free trace wrapped split src dst paired

/-- After a withdrawal from the destination escrow has published a secret, and
until a cancellation of the source escrow opens, in every interleaving: the source
escrow was withdrawn from with a preimage and its taker received everything, or it
stands unchanged, and then the published secret lets the taker withdraw it in full
while the window is open. -/
theorem Trace.reveal_claimable (withdraws : WithdrawsDst d secret e.ix)
    (early : ¬ source.cancelOpen s.clock.unixTimestamp ∧
      ¬ source.publicCancelOpen s.clock.unixTimestamp) {program : TokenProgram}
    (owned : env.mintProgram source.token = some program) :
    (∃ e' ∈ later, ∃ secret', WithdrawsSrc a secret' e'.ix ∧
        hashv env [secret'.1] = source.hashlock ∧
        env.balance e'.post source.taker source.token =
          env.balance e'.pre.ledger source.taker source.token +
            env.balance e'.pre.ledger a source.token) ∨
      s.ledger.programAt a = some (.escrowSrc source) ∧
      (unrescued env a (env.associatedTokenAddress a program source.token) h = true →
        HoldsAccount env source.taker program source.token s.ledger →
        source.withdrawOpen s.clock.unixTimestamp →
        ∃ l', Src.withdraw env s.clock (source.withdrawCall env a program secret) s.ledger = .ok l' ∧
          EndsPaying env a source.taker source.token program false source.amount s.ledger l') := by
  have member : e ∈ h := split ▸ List.mem_append_right later List.mem_cons_self
  obtain ⟨_, reached, signed, ran, _⟩ := trace.event member
  have preimage : hashv env [secret.1] = source.hashlock :=
    (withdraws.reveals dst ran).trans paired
  have survived : e.post.programAt a = some (.escrowSrc source) :=
    (reached.escrowSrc_step free signed ran src).resolve_right withdraws.spares
  rcases trace.escrowSrc_lasts free split survived with live | ⟨e', after, before, ended⟩
  · refine Or.inr ⟨live, fun whole holds opened => ?_⟩
    obtain ⟨l', ran, ends, _⟩ :=
      trace.srcWithdraw_succeeds free wrapped live owned whole holds preimage opened
    exact ⟨l', ran, ends⟩
  · have member' : e' ∈ h := split ▸ List.mem_append_left _ after
    obtain ⟨_, reached', _, ran', past⟩ := trace.event member'
    rcases ended with ⟨secret', claims⟩ | cancels
    · exact Or.inl ⟨e', after, secret', claims, claims.pays free reached' before ran'⟩
    · rcases cancels.checked ran' before with opened | opened
      · exact absurd (Limbs.reached_mono opened past) early.1
      · exact absurd (Limbs.reached_mono opened past) early.2

end Swap

/-- The swap just before the withdrawal on the destination side: both escrows have
the order's hashlock, and with the withdrawal the taker keeps its account. -/
def Sample.revealing : Sample.Scenario (fun r =>
    ((r.state.ledger.programAt Sample.escrow).bind Data.toEscrowSrc).any (fun e =>
      decide (e.hashlock = Sample.single.hashlock ∧ e.token = Sample.usdc ∧
        e.taker = Sample.taker ∧ e.timelocks.timelocks.deployedAt = 150 ∧
        e.timelocks.timelocks.offset .srcWithdrawal = 10 ∧
        e.timelocks.timelocks.offset .srcCancellation = 30 ∧
        e.timelocks.timelocks.offset .srcPublicCancellation = 40 ∧
        r.state.clock.unixTimestamp.toNat = 166 ∧
        unrescued Sample.env Sample.escrow (Sample.associated Sample.escrow) r.history = true)) = true ∧
    ((r.state.ledger.programAt Sample.withdrawDst.escrow).bind Data.toEscrowDst).any (fun d =>
      decide (d.hashlock = Sample.single.hashlock)) = true ∧
    (Dst.withdraw Sample.env r.state.clock Sample.withdrawDst r.state.ledger).toOption.any
      (fun l => decide (Sample.holds Sample.taker l = true)) = true) where
  commands := Sample.swap

/-- Once the maker has the destination tokens, the taker withdraws from the source
escrow with the secret that was published. -/
theorem Trace.reveal_claimable_sample : ∃ (s : State Term) (source : EscrowSrc Term)
    (l l' : Chain Term), Dst.withdraw Sample.env s.clock Sample.withdrawDst s.ledger = .ok l ∧
      Src.withdraw Sample.env s.clock
        (source.withdrawCall Sample.env Sample.escrow .token Sample.secret) l = .ok l' := by
  obtain ⟨r, trace, source, destination, withdrawal⟩ := Sample.revealing.reached
  obtain ⟨e, live, hashlock, token, taker, deployed, opens, closes, publicCloses, now, whole⟩ :=
    Sample.live_escrowSrc source
  obtain ⟨d, stored, same⟩ := Sample.live_escrowDst destination
  obtain ⟨l, ran, account⟩ := Sample.ran withdrawal
  have holds := Sample.holdsAccount account
  rw [← taker, ← token] at holds
  rw [Sample.associated, ← token] at whole
  have next : Trace Sample.env (⟨r.state, .dst (.withdraw Sample.withdrawDst), l⟩ :: r.history)
      ⟨l, r.state.clock⟩ := trace.step (Sample.signed_atom 12) ran
  have early : ¬ e.cancelOpen r.state.clock.unixTimestamp ∧
      ¬ e.publicCancelOpen r.state.clock.unixTimestamp := by
    unfold EscrowSrc.cancelOpen EscrowSrc.publicCancelOpen
    rw [Limbs.reached_iff, Limbs.reached_iff, deployed, closes, publicCloses, now]
    decide
  have opened : e.withdrawOpen r.state.clock.unixTimestamp := by
    rw [EscrowSrc.withdrawOpen, Limbs.inWindow_iff, deployed, opens, closes, now]
    decide
  have owned : Sample.env.mintProgram e.token = some .token := token ▸ rfl
  have claimable := next.reveal_claimable Sample.collisionFree rfl (List.nil_append _).symm live stored
    (same.trans hashlock.symm) (.withdraw rfl rfl) early owned
  rcases claimable with ⟨_, member, _⟩ | ⟨_, claim⟩
  · cases member
  · obtain ⟨l', claimed, _⟩ := claim whole holds opened
    exact ⟨r.state, e, l, l', ran, claimed⟩

/-- The swap with a resolver on the destination side, just before the taker
withdraws from the source escrow. -/
def Sample.claiming : Sample.Scenario (fun r =>
    ((r.state.ledger.programAt Sample.escrow).bind Data.toEscrowSrc).any (fun e =>
      decide (e.hashlock = Sample.single.hashlock)) = true ∧
    ((r.state.ledger.programAt Sample.withdrawDst.escrow).bind Data.toEscrowDst).any (fun d =>
      decide (d.hashlock = Sample.single.hashlock ∧ d.token = Sample.usdc ∧
        d.recipient = Sample.maker ∧ d.creator = Sample.taker ∧ d.assetIsNative = false ∧
        d.timelocks.timelocks.deployedAt = 160 ∧
        d.timelocks.timelocks.offset .dstPublicWithdrawal = 8 ∧
        d.timelocks.timelocks.offset .dstCancellation = 12 ∧
        r.state.clock.unixTimestamp.toNat = 168 ∧ unrescued Sample.env Sample.withdrawDst.escrow
          (Sample.associated Sample.withdrawDst.escrow) r.history = true)) = true ∧
    Enrolled (Sample.dstId, Sample.taker) (whitelistLog r.history) ∧
    (Src.withdraw Sample.env r.state.clock Sample.withdrawSrc r.state.ledger).toOption.any
      (fun l => decide (Sample.holds Sample.maker l = true ∧
        Sample.env.RentExempt l Sample.taker ∧ Sample.env.CanSpare l Sample.taker
          (openingCost Sample.env false Sample.maker .token Sample.usdc l))) = true) where
  commands := Sample.swap ++ [.call (.whitelist (.register ⟨Sample.authority,
    Sample.whitelistState, Sample.derived Sample.whitelistId
      (resolverAccessSeeds Sample.dstId Sample.taker), Sample.taker, Sample.dstId⟩)), .wait 168]

end CrossChainEscrow.Source
