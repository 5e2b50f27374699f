import CrossChainEscrow.Invariants.Whitelist
import CrossChainEscrow.Source.Execution

/-!
# The whitelist over runs

Who had the authority when, who is on the list, and that the six gated
instructions of the two escrow programs are open to nobody else. A removal takes
effect in all of them, since each consults the account that the removal closes.
-/

namespace CrossChainEscrow.Source
open Library.Words Library.Bytes Library.Accounts Library.Registries

variable {K : Type} [DecidableEq K] {env : Environment K} {h : History K} {s : State K}

/-- The program on whose list a signer of a gated instruction has to be. -/
def Instruction.gate (env : Environment K) : Instruction K → Option K
  | .src (.createEscrow _) => some env.srcId
  | .src (.publicWithdraw _) => some env.srcId
  | .src (.publicCancelEscrow _) => some env.srcId
  | .src (.cancelOrderByResolver _) => some env.srcId
  | .src (.rescueFundsForOrder _) => some env.srcId
  | .dst (.publicWithdraw _) => some env.dstId
  | _ => none

theorem Src.Instruction.gated {ix : Src.Instruction K} {clock : Clock} {l l' : Chain K} {client : K}
    (ran : ix.run env clock l = .ok l') (gate : Instruction.gate env (.src ix) = some client) :
    ∃ signer ∈ ix.signers, ∃ resolverAccess,
      Whitelist.requireResolverAccess env client signer resolverAccess l = .ok () := by
  cases ix with
  | createEscrow c =>
    obtain ⟨_, steps⟩ := Src.createEscrow_steps ran
    obtain rfl := Option.some.inj gate
    exact ⟨c.taker, List.mem_singleton_self _, _, steps.resolver⟩
  | publicWithdraw c =>
    obtain rfl := Option.some.inj gate
    exact ⟨c.payer, List.mem_singleton_self _, _, (Src.publicWithdraw_steps ran).1⟩
  | publicCancelEscrow c =>
    obtain rfl := Option.some.inj gate
    exact ⟨c.payer, List.mem_singleton_self _, _, (Src.publicCancelEscrow_steps ran).1⟩
  | cancelOrderByResolver c =>
    obtain ⟨_, _, _, _, _, _, steps⟩ := Src.cancelOrderByResolver_steps ran
    obtain rfl := Option.some.inj gate
    exact ⟨c.resolver, List.mem_singleton_self _, _, steps.resolverAccess⟩
  | rescueFundsForOrder c =>
    obtain rfl := Option.some.inj gate
    exact ⟨c.resolver, List.mem_singleton_self _, _, (rescueFundsForOrder_steps ran).1⟩
  | create _ => cases gate
  | withdraw _ => cases gate
  | cancelEscrow _ => cases gate
  | cancelOrder _ => cases gate
  | rescueFundsForEscrow _ => cases gate

/-- A gated instruction checks the access account of one of its signers. -/
theorem Instruction.gated {ix : Instruction K} {clock : Clock} {l l' : Chain K} {client : K}
    (ran : ix.run env clock l = .ok l') (gate : ix.gate env = some client) :
    ∃ signer ∈ ix.signers, ∃ resolverAccess,
      Whitelist.requireResolverAccess env client signer resolverAccess l = .ok () := by
  cases ix with
  | whitelist _ => cases gate
  | src ix => exact ix.gated ran gate
  | dst ix =>
    cases ix with
    | publicWithdraw c =>
      obtain rfl := Option.some.inj gate
      exact ⟨c.payer, List.mem_singleton_self _, _, (Dst.publicWithdraw_steps ran).1⟩
    | create _ => cases gate
    | withdraw _ => cases gate
    | cancel _ => cases gate
    | rescueFunds _ => cases gate

/-- The run up to an event of the history. -/
theorem Trace.before (trace : Trace env h s) {e : Event K} {earlier : History K}
    (suffix : e :: earlier <:+ h) :
    Trace env earlier e.pre ∧ e.ix.run env e.pre.clock e.pre.ledger = .ok e.post := by
  induction trace with
  | start _ => simp at suffix
  | external _ _ _ _ ih => exact ih suffix
  | tick _ _ ih => exact ih suffix
  | @step h s ix l trace _ ran ih =>
    rcases List.suffix_cons_iff.mp suffix with newest | older
    · obtain ⟨rfl, rfl⟩ := List.cons.inj newest
      exact ⟨trace, ran⟩
    · exact ih older

/-- The access account of a pair exists exactly when the latest registration or
removal of the pair registered it. -/
theorem Trace.access_iff (free : env.CollisionFree) (trace : Trace env h s) (client user : K) :
    (∃ access, s.ledger.programAt (env.accessAddress client user) =
      some (.resolverAccess access)) ↔ Enrolled (client, user) (whitelistLog h) := by
  obtain ⟨r, reached, represents⟩ := trace.registry free
  rw [← reached.mem_members, ← represents.members]
  constructor
  · intro present
    obtain ⟨access, held⟩ := present
    rw [held]
    rfl
  · intro present
    obtain ⟨data, held⟩ := Option.isSome_iff_exists.mp present
    rcases (trace.placed held).whitelist free rfl with ⟨state, rfl⟩ | ⟨access, rfl⟩
    · exact absurd (trace.placed held).symm (Environment.accessAddress_ne_state free client user)
    · exact ⟨access, held⟩

/-- In every run: the whitelist is initialized at most once; its state account
stores the authority that the initialization or the latest `set_authority` left,
and each registration, removal and hand-over was signed by the authority of its
time; the access account of a client and a user exists exactly when the latest
registration or removal of that pair was a registration; and each gated
instruction had a signer whose access account for that very program existed when
it ran. -/
theorem Trace.whitelist_governs (free : env.CollisionFree) (trace : Trace env h s) :
    (whitelistLog h).countP Op.establishes ≤ 1 ∧
    s.ledger.programAt env.whitelistAddress =
      (holder (whitelistLog h)).map (fun authority => .whitelistState { authority }) ∧
    (∀ e earlier, e :: earlier <:+ h → ∀ op, e.op = some op → op.establishes = false →
      op.signer ∈ e.ix.signers ∧ holder (whitelistLog earlier) = some op.signer) ∧
    (∀ client user, (∃ access, s.ledger.programAt (env.accessAddress client user) =
      some (.resolverAccess access)) ↔ Enrolled (client, user) (whitelistLog h)) ∧
    (∀ e earlier, e :: earlier <:+ h → ∀ client, e.ix.gate env = some client →
      ∃ signer ∈ e.ix.signers, Enrolled (client, signer) (whitelistLog earlier) ∧
        ∃ access, e.pre.ledger.programAt (env.accessAddress client signer) =
          some (.resolverAccess access)) := by
  obtain ⟨r, reached, represents⟩ := trace.registry free
  refine ⟨?_, ?_, ?_, trace.access_iff free, ?_⟩
  · rw [reached.established]
    split <;> omega
  · rw [← reached.authority_eq]
    exact represents.authority
  · intro e earlier suffix op operation other
    have logged : op :: whitelistLog earlier <:+ whitelistLog h := by
      have filtered := suffix.filterMap Event.op
      rw [List.filterMap_cons_some operation] at filtered
      exact filtered
    refine ⟨?_, reached.signed logged other⟩
    obtain ⟨pre, ix, post⟩ := e
    cases ix with
    | whitelist w =>
      obtain rfl := Option.some.inj operation
      cases w <;> exact List.mem_singleton_self _
    | src _ => cases operation
    | dst _ => cases operation
  · intro e earlier suffix client gate
    obtain ⟨before, ran⟩ := trace.before suffix
    obtain ⟨signer, member, address, checked⟩ := Instruction.gated ran gate
    obtain ⟨access, loaded, seeds⟩ := Whitelist.requireResolverAccess_ok.mp checked
    have held := Ledger.programAt_eq_some.mpr loaded
    rw [(before.placed held).access free seeds] at held
    exact ⟨signer, member, (before.access_iff free client signer).mp ⟨access, held⟩, access, held⟩

/-- The authority registers the taker, who fills an order, and hands over to the
maker, who removes the taker. -/
def Sample.handOver : List (Command Term) :=
  Sample.singleFill Sample.single ++
    [.call (.whitelist (.setAuthority ⟨Sample.authority, Sample.whitelistState, Sample.maker⟩)),
      .call (.whitelist (.deregister ⟨Sample.maker, Sample.whitelistState, Sample.takerAccess,
        Sample.taker, Sample.srcId⟩))]

def Sample.handedOver : Sample.Scenario
    (fun r => holder (whitelistLog r.history) = some Sample.maker ∧
      ¬ Enrolled (Sample.srcId, Sample.taker) (whitelistLog r.history) ∧
      r.history.any (fun e => decide (e.ix.gate Sample.env = some Sample.srcId)) = true) where
  commands := Sample.handOver

/-- The sample's fill found the taker registered, who is no longer on the list
after the hand-over. -/
theorem Trace.whitelist_governs_sample : ∃ (h : History Term) (s : State Term),
    Trace Sample.env h s ∧
      s.ledger.programAt Sample.env.whitelistAddress =
        some (.whitelistState { authority := Sample.maker }) ∧
      (¬ ∃ access, s.ledger.programAt (Sample.env.accessAddress Sample.srcId Sample.taker) =
        some (.resolverAccess access)) ∧
      ∃ e ∈ h, e.ix.gate Sample.env = some Sample.srcId := by
  obtain ⟨r, trace, authority, removed, filled⟩ := Sample.handedOver.reached
  obtain ⟨_, state, _, list, _⟩ := trace.whitelist_governs Sample.collisionFree
  obtain ⟨e, member, gate⟩ := List.any_eq_true.mp filled
  rw [authority] at state
  exact ⟨r.history, r.state, trace, state, fun present => removed ((list _ _).mp present), e, member,
    of_decide_eq_true gate⟩

end CrossChainEscrow.Source
