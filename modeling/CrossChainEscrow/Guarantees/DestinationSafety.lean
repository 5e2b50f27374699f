import CrossChainEscrow.Invariants.Destination
import CrossChainEscrow.Invariants.Escrows
import CrossChainEscrow.Source.Execution

/-!
# Timelock safety of destination escrows

Every way in which the principal of a live destination escrow moves: a withdrawal
before the cancellation time, with the secret, to the recipient; a cancellation
from that time on, to the creator; a rescue by the creator once the rescue period
has begun. The rescue period begins a fixed time after the deployment, so it may
begin before the cancellation time, which is up to the creator.
-/

namespace CrossChainEscrow.Source
open Library.Words Library.Bytes Library.Accounts

variable {K : Type} [DecidableEq K] {env : Environment K} {h : History K} {s : State K}
  {l : Chain K} {d : K} {e : EscrowDst K}

/-- The stored DstCancellation time. -/
def EscrowDst.cancellationTime (e : EscrowDst K) : Nat :=
  e.timelocks.timelocks.deployedAt + e.timelocks.timelocks.offset .dstCancellation

/-- What an instruction does to the principal of the destination escrow at `d`. -/
inductive DstOutcome (env : Environment K) (s : State K) (d : K) (e : EscrowDst K) (l : Chain K) :
    Instruction K → Prop
  | kept {ix : Instruction K} (same : Kept env d (.escrowDst e) e.token s.ledger l) :
      DstOutcome env s d e l ix
  | withdrawn {ix : Instruction K} {secret : Bytes32} (call : WithdrawsDst d secret ix)
      (early : s.clock.unixTimestamp.toNat < e.cancellationTime)
      (revealed : hashv env [secret.1] = e.hashlock)
      (tokens : e.assetIsNative = false →
        env.balance s.ledger e.recipient e.token + env.balance s.ledger d e.token ≤
          env.balance l e.recipient e.token)
      (lamports : e.assetIsNative = true →
        ∃ rent, rent ≤ env.minimumBalance (env.tokenAccountLen e.token) ∧
          (e.recipient ∉ ix.signers → rent = 0) ∧
          (if env.ataOf d e.token = some e.recipient then 0
            else s.ledger.lamports e.recipient) + e.amount.toNat ≤
            l.lamports e.recipient + rent) : DstOutcome env s d e l ix
  | cancelled {c : Dst.Cancel K} (named : c.escrow = d) (creator : c.creator = e.creator)
      (late : e.cancellationTime ≤ s.clock.unixTimestamp.toNat)
      (tokens : e.assetIsNative = false →
        env.balance s.ledger e.creator e.token + env.balance s.ledger d e.token ≤
          env.balance l e.creator e.token)
      (lamports : e.assetIsNative = true →
        s.ledger.lamports e.creator + e.amount.toNat ≤ l.lamports e.creator) :
      DstOutcome env s d e l (.dst (.cancel c))
  | rescued {c : Dst.RescueFunds K} (named : c.escrow = d) (creator : c.creator = e.creator)
      (late : rescueTime e.timelocks ≤ s.clock.unixTimestamp.toNat) :
      DstOutcome env s d e l (.dst (.rescueFunds c))

theorem Dst.WithdrawCall.Steps.outcome (free : env.CollisionFree) (trace : Trace env h s)
    {c : Dst.WithdrawCall K} {escrowToken : TokenAccount K} {initialized paid settled : Chain K}
    {ix : Source.Instruction K}
    (steps : Dst.WithdrawCall.Steps env s.clock c e escrowToken s.ledger initialized paid settled l)
    (other : e.recipient ≠ c.escrow) (payer : c.payer ∈ ix.signers)
    (call : WithdrawsDst c.escrow c.secret ix) : DstOutcome env s c.escrow e l ix := by
  have derived := (trace.placed (Ledger.programAt_eq_some.mpr steps.loaded)).derived.notWallet
  obtain ⟨owned, balance, ata⟩ := trace.balance_eq free derived steps.token steps.ataDerived
  have early := (requireWindow_ok.mp steps.window).2.1
  have distinct : c.recipient ≠ c.escrow := by
    rw [steps.recipient]
    exact other
  rw [steps.mint] at owned balance ata
  refine .withdrawn call early steps.secret (fun plain => ?_) (fun native => ?_)
  · have received := steps.received distinct plain
    rw [steps.recipient, steps.mint] at received
    rw [balance, Host.balance_eq owned, Host.balance_eq owned]
    exact received
  · obtain ⟨rent, bound, unpaid, received⟩ := steps.receivedLamports distinct native
    rw [steps.recipient, steps.mint] at *
    refine ⟨rent, bound, fun absent => unpaid ?_, ?_⟩
    · intro same
      exact absent (same ▸ payer)
    · simp only [ata, Option.some.injEq, @eq_comm _ c.escrowAta e.recipient]
      exact Nat.le_trans (Nat.le_add_right _ _) received

theorem Dst.Cancel.Steps.outcome (free : env.CollisionFree) (trace : Trace env h s)
    {c : Dst.Cancel K} {escrowToken : TokenAccount K} {paid : Chain K}
    (steps : Dst.Cancel.Steps env s.clock c e escrowToken s.ledger paid l)
    (creator : env.Wallet c.creator) : DstOutcome env s c.escrow e l (.dst (.cancel c)) := by
  have live := Ledger.programAt_eq_some.mpr steps.loaded
  have derived := (trace.placed live).derived.notWallet
  obtain ⟨owned, balance, _⟩ := trace.balance_eq free derived steps.token steps.ataDerived
  have distinct : c.creator ≠ c.escrow := trace.wallet_ne live creator
  have notAta : c.creator ≠ c.escrowAta := by
    intro same
    rw [steps.ataDerived] at same
    exact env.associated_notWallet _ _ _ (same ▸ creator)
  rw [steps.mint] at owned balance
  refine .cancelled rfl steps.creator (requireReached_ok.mp steps.reached) (fun plain => ?_)
    (fun native => ?_)
  · have received := steps.received distinct plain
    rw [steps.creator, steps.mint] at received
    rw [balance, Host.balance_eq owned, Host.balance_eq owned]
    exact Nat.le_of_eq received.symm
  · have received := steps.receivedLamports distinct notAta native
    rw [steps.creator] at received
    exact received

/-- Every instruction keeps the principal of a live destination escrow or moves it as
`DstOutcome` says, except a withdrawal for a recipient that is the escrow itself. -/
theorem Trace.dst_outcome (free : env.CollisionFree) (trace : Trace env h s)
    (live : s.ledger.programAt d = some (.escrowDst e)) {ix : Instruction K}
    (other : e.recipient ≠ d ∨ ∀ secret, ¬ WithdrawsDst d secret ix)
    (signed : ∀ key ∈ ix.signers, env.Wallet key) (ran : ix.run env s.clock s.ledger = .ok l) :
    DstOutcome env s d e l ix := by
  have loaded := Ledger.programAt_eq_some.mp live
  by_cases named : d ∈ ix.named
  · have placed := trace.placed live
    cases placed.escrowDstCall free live ran named with
    | @withdraw c same =>
      subst same
      obtain ⟨_, _, _, _, _, steps⟩ := Dst.withdraw_steps ran
      obtain rfl := EscrowDst.unique live steps.loaded
      have pays := other.resolve_right (fun none => none _ (.withdraw rfl rfl))
      exact steps.outcome free trace pays (by simp [Instruction.signers, Dst.Instruction.signers,
        Dst.Withdraw.call]) (.withdraw rfl rfl)
    | @publicWithdraw c same =>
      subst same
      obtain ⟨_, _, _, _, _, _, steps⟩ := Dst.publicWithdraw_steps ran
      obtain rfl := EscrowDst.unique live steps.loaded
      have pays := other.resolve_right (fun none => none _ (.publicWithdraw rfl rfl))
      exact steps.outcome free trace pays (by simp [Instruction.signers, Dst.Instruction.signers,
        Dst.PublicWithdraw.call]) (.publicWithdraw rfl rfl)
    | @cancel c same =>
      subst same
      obtain ⟨_, _, _, steps⟩ := Dst.cancel_steps ran
      obtain rfl := EscrowDst.unique live steps.loaded
      exact steps.outcome free trace (signed _ (by simp [Instruction.signers,
        Dst.Instruction.signers]))
    | @rescue c same =>
      subst same
      obtain ⟨_, _, _, steps⟩ := rescueFundsDst_steps ran
      obtain ⟨time, deployed, reached⟩ := steps.started _ loaded
      have address : (env.findProgramAddress env.dstId e.seeds).1 = c.escrow :=
        congrArg Prod.fst placed
      have party : e.creator = c.creator :=
        escrowSeeds_party (free.find_inj (address.trans steps.derived)).2
      refine .rescued rfl party.symm ?_
      rw [rescueTime, Option.some.inj deployed]
      exact reached
  · exact .kept ((trace.untouched_call free live signed ran named).kept live)

/-! ## Whole runs -/

/-- What a token account holds of the escrow's asset. -/
def EscrowDst.heldAt (e : EscrowDst K) (ata : K) (l : Chain K) : Nat :=
  match l.tokenAt ata with
  | some account => if e.assetIsNative = true then l.lamports ata else account.amount
  | none => 0

/-- What the escrow at `d` holds of it. -/
def EscrowDst.held (env : Environment K) (e : EscrowDst K) (d : K) (l : Chain K) : Nat :=
  ((env.ataOf d e.token).map fun ata => e.heldAt ata l).getD 0

/-- The escrow still holds what it held of its principal. -/
def EscrowDst.Stays (env : Environment K) (e : EscrowDst K) (d : K) (l l' : Chain K) : Prop :=
  min (e.held env d l) e.amount.toNat ≤ e.held env d l'

/-- What a rescue leaves in the account it takes from: nothing of what it closes. -/
def RescueCall.leaves (c : RescueCall K) (e : EscrowDst K) (l : Chain K) : Nat :=
  match l.tokenAt c.ata with
  | some account =>
    if c.rescueAmount.toNat = account.amount then 0
    else if e.assetIsNative = true then
      l.lamports c.ata - account.wrapped c.rescueAmount.toNat
    else account.amount - c.rescueAmount.toNat
  | none => 0

/-- The principal stays, or goes to the creator in a rescue from the cancellation time
on, or the instruction is no rescue and moves it as `DstOutcome` says: to the
recipient with the secret before that time, or to the creator from it on. -/
def DstSafe (env : Environment K) (s : State K) (d : K) (e : EscrowDst K) (ix : Instruction K)
    (l : Chain K) : Prop :=
  e.Stays env d s.ledger l ∨
    (ix.rescueCall env ≠ none ∧ e.cancellationTime ≤ s.clock.unixTimestamp.toNat) ∨
    (ix.rescueCall env = none ∧ DstOutcome env s d e l ix)

/-- Every instruction of the run was safe for every escrow that has another recipient
than its creator. -/
def DstSafeRun (env : Environment K) : History K → Prop
  | [] => True
  | ev :: h => DstSafeRun env h ∧ ∀ d e, ev.pre.ledger.programAt d = some (.escrowDst e) →
      e.recipient ≠ e.creator → DstSafe env ev.pre d e ev.ix ev.post

/-- The instruction is a rescue before the cancellation time that takes some of the
principal of a live escrow. -/
def Event.RescuesEarly (env : Environment K) (ev : Event K) : Prop :=
  ∃ c e, ev.ix.rescueCall env = some c ∧
    ev.pre.ledger.programAt c.address = some (.escrowDst e) ∧ e.recipient ≠ e.creator ∧
    c.mint = e.token ∧ ev.pre.clock.unixTimestamp.toNat < e.cancellationTime ∧
    c.leaves e ev.pre.ledger < min (e.held env c.address ev.pre.ledger) e.amount.toNat

/-- The instruction withdraws from an escrow that holds something for itself. -/
def Event.PaysItself (env : Environment K) (ev : Event K) : Prop :=
  ∃ d e secret, ev.pre.ledger.programAt d = some (.escrowDst e) ∧ e.recipient = d ∧
    WithdrawsDst d secret ev.ix ∧ 0 < e.held env d ev.pre.ledger

section Held
variable {ata : K} {account : TokenAccount K}

omit [DecidableEq K] in
theorem EscrowDst.held_eq (address : env.ataOf d e.token = some ata) :
    e.held env d l = e.heldAt ata l := by
  rw [EscrowDst.held, address]
  rfl

omit [DecidableEq K] in
theorem EscrowDst.heldAt_token (loaded : l.data ata = .token account) :
    e.heldAt ata l = if e.assetIsNative = true then l.lamports ata else account.amount := by
  rw [EscrowDst.heldAt, Ledger.tokenAt_eq_some.mpr loaded]

omit [DecidableEq K] in
theorem EscrowDst.heldAt_empty (closed : l.data ata = .empty) : e.heldAt ata l = 0 := by
  have none : l.tokenAt ata = none := by
    rw [Ledger.tokenAt, closed]
  rw [EscrowDst.heldAt, none]

/-- An instruction that does not name a live escrow takes nothing from it. -/
theorem Trace.dst_stays (free : env.CollisionFree) (trace : Trace env h s)
    (live : s.ledger.programAt d = some (.escrowDst e)) {ix : Instruction K}
    (signed : ∀ key ∈ ix.signers, env.Wallet key) (ran : ix.run env s.clock s.ledger = .ok l)
    (other : d ∉ ix.named) : e.Stays env d s.ledger l := by
  refine Nat.le_trans (Nat.min_le_left _ _) ?_
  unfold EscrowDst.held Host.ataOf
  cases env.mintProgram e.token with
  | none => exact Nat.le_refl _
  | some program =>
    have derived := (trace.placed live).derived.notWallet
    have untouched := trace.untouched_call free live signed ran other
    simp only [Option.map_some, Option.getD_some]
    cases loaded : s.ledger.data (env.associatedTokenAddress d program e.token) with
    | token account =>
      have owner := (trace.associatedSound free derived _ _ _ loaded).1
      have outside := trace.unnamed_outside live signed other
      obtain ⟨amount, more, after⟩ := (Instruction.confined ran).token _ account loaded
        (owner ▸ outside)
      rw [EscrowDst.heldAt_token loaded, EscrowDst.heldAt_token after]
      split
      · exact untouched.ataLamports program e.token
      · exact more
    | _ =>
      have none : s.ledger.tokenAt (env.associatedTokenAddress d program e.token) = none := by
        rw [Ledger.tokenAt, loaded]
      rw [EscrowDst.heldAt, none]
      exact Nat.zero_le _

end Held

section Rescue
variable {c : RescueCall K} {token partyToken : TokenAccount K} {start : Option U32}

/-- What the escrow holds after a rescue. -/
theorem RescueCall.Steps.held (free : env.CollisionFree) (trace : Trace env h s)
    (steps : RescueCall.Steps env s.clock c token partyToken start s.ledger l)
    (wallet : env.Wallet c.party) (live : s.ledger.programAt c.address = some (.escrowDst e))
    (mint : c.mint = e.token) : e.held env c.address l = c.leaves e s.ledger := by
  have distinct : c.party ≠ c.address := trace.wallet_ne live wallet
  have derived := (trace.placed live).derived.notWallet
  obtain ⟨owned, _, address⟩ := trace.balance_eq free derived steps.account steps.ataDerived
  rw [mint] at address
  have found := Ledger.tokenAt_eq_some.mpr steps.account
  obtain ⟨all, some⟩ := steps.accountAfter distinct
  rw [EscrowDst.held_eq address, RescueCall.leaves, found]
  dsimp only
  split
  · next closes => exact EscrowDst.heldAt_empty (all closes).1
  · next partly =>
    obtain ⟨after, paid⟩ := some partly
    rw [EscrowDst.heldAt_token after]
    split
    · omega
    · rfl

/-- A rescue of another token takes nothing of the escrow's. -/
theorem RescueCall.Steps.spares_held (free : env.CollisionFree) (trace : Trace env h s)
    (steps : RescueCall.Steps env s.clock c token partyToken start s.ledger l)
    (wallet : env.Wallet c.party) (live : s.ledger.programAt c.address = some (.escrowDst e))
    (mint : c.mint ≠ e.token) : e.Stays env c.address s.ledger l := by
  have distinct : c.party ≠ c.address := trace.wallet_ne live wallet
  have derived := (trace.placed live).derived.notWallet
  refine Nat.le_trans (Nat.min_le_left _ _) ?_
  unfold EscrowDst.held Host.ataOf
  cases env.mintProgram e.token with
  | none => exact Nat.le_refl _
  | some program =>
    have other : env.associatedTokenAddress c.address program e.token ≠ c.ata := by
      intro same
      rw [steps.ataDerived] at same
      exact mint (free.associated_inj same).2.2.symm
    obtain ⟨data, lamports⟩ := steps.spares free trace wallet distinct derived other
    simp only [Option.map_some, Option.getD_some, EscrowDst.heldAt, Ledger.tokenAt, data]
    split
    · split
      · exact lamports
      · exact Nat.le_refl _
    · exact Nat.le_refl _

end Rescue

/-- A withdrawal that the escrow itself receives keeps nothing of the principal. -/
theorem Dst.WithdrawCall.Steps.pays_itself (free : env.CollisionFree) (trace : Trace env h s)
    {c : Dst.WithdrawCall K} {escrowToken : TokenAccount K} {initialized paid settled : Chain K}
    {ix : Source.Instruction K}
    (steps : Dst.WithdrawCall.Steps env s.clock c e escrowToken s.ledger initialized paid settled l)
    (itself : e.recipient = c.escrow) (signed : ∀ key ∈ ix.signers, env.Wallet key)
    (call : WithdrawsDst c.escrow c.secret ix) (some : 0 < e.held env c.escrow s.ledger) :
    ¬ DstSafe env s c.escrow e ix l := by
  have live : s.ledger.programAt c.escrow = .some (.escrowDst e) :=
    Ledger.programAt_eq_some.mpr steps.loaded
  have derived := (trace.placed live).derived.notWallet
  have positive := (trace.termsFit live).2.2
  obtain ⟨owned, balance, address⟩ := trace.balance_eq free derived steps.token steps.ataDerived
  rw [steps.mint] at address owned balance
  obtain ⟨closed, nothing⟩ := steps.closed
  have after : e.held env c.escrow l = 0 := by
    rw [EscrowDst.held_eq address, EscrowDst.heldAt_empty closed]
  rintro (stays | ⟨rescue, _⟩ | ⟨_, outcome⟩)
  · unfold EscrowDst.Stays at stays
    omega
  · cases call <;> exact rescue rfl
  · cases outcome with
    | kept same => exact removed_not_held steps.programAt same.live
    | withdrawn _ _ _ tokens lamports =>
      rw [itself] at tokens lamports
      cases native : e.assetIsNative with
      | false =>
        have doubled := tokens native
        have left : env.balance l c.escrow e.token = 0 := by
          rw [Host.balance_eq owned, ← steps.mint, ← steps.ataDerived, Ledger.tokens, closed]
          rfl
        rw [EscrowDst.held_eq address, EscrowDst.heldAt_token steps.token, native,
          if_neg (by decide)] at some
        rw [balance, Ledger.tokens_of_token steps.token] at doubled
        omega
      | true =>
        obtain ⟨rent, _, unpaid, received⟩ := lamports native
        have free := unpaid (fun signer => derived (signed _ signer))
        omega
    | cancelled => cases call
    | rescued => cases call

/-- A step is safe for every escrow exactly when it is no early rescue and pays no
escrow to itself. -/
theorem Trace.dst_step_safe_iff (free : env.CollisionFree) (trace : Trace env h s)
    {ix : Instruction K} (signed : ∀ key ∈ ix.signers, env.Wallet key)
    (ran : ix.run env s.clock s.ledger = .ok l) :
    (∀ d e, s.ledger.programAt d = some (.escrowDst e) → e.recipient ≠ e.creator →
      DstSafe env s d e ix l) ↔
      ¬ Event.RescuesEarly env ⟨s, ix, l⟩ ∧ ¬ Event.PaysItself env ⟨s, ix, l⟩ := by
  constructor
  · refine fun safe => ⟨?_, ?_⟩
    · rintro ⟨c, e, rescue, live, differs, mint, early, cuts⟩
      obtain ⟨party, _, token, partyToken, start, steps⟩ := Instruction.rescue_steps ran rescue
      have after := steps.held free trace (signed _ party) live mint
      rcases safe c.address e live differs with stays | ⟨_, late⟩ | ⟨none, _⟩
      · unfold EscrowDst.Stays at stays
        dsimp only at cuts
        omega
      · dsimp only at early
        omega
      · dsimp only at rescue
        rw [rescue] at none
        cases none
    · rintro ⟨d, e, secret, live, itself, call, held⟩
      have differs : e.recipient ≠ e.creator := by
        rw [itself]
        exact (trace.wallet_ne live (trace.parties live)).symm
      have safe := safe d e live differs
      dsimp only at call held
      cases call with
      | @withdraw c named reveals =>
        subst named reveals
        obtain ⟨_, _, _, _, _, steps⟩ := Dst.withdraw_steps ran
        obtain rfl := EscrowDst.unique live steps.loaded
        exact steps.pays_itself free trace itself signed (.withdraw rfl rfl) held safe
      | @publicWithdraw c named reveals =>
        subst named reveals
        obtain ⟨_, _, _, _, _, _, steps⟩ := Dst.publicWithdraw_steps ran
        obtain rfl := EscrowDst.unique live steps.loaded
        exact steps.pays_itself free trace itself signed (.publicWithdraw rfl rfl) held safe
  · rintro ⟨notEarly, notItself⟩ d e live differs
    cases rescue : ix.rescueCall env with
    | none =>
      by_cases pays : e.recipient ≠ d ∨ ∀ secret, ¬ WithdrawsDst d secret ix
      · exact Or.inr (Or.inr ⟨rescue, trace.dst_outcome free live pays signed ran⟩)
      · push Not at pays
        obtain ⟨itself, secret, call⟩ := pays
        refine Or.inl ?_
        have none : ¬ 0 < e.held env d s.ledger :=
          fun held => notItself ⟨d, e, secret, live, itself, call, held⟩
        unfold EscrowDst.Stays
        omega
    | some c =>
      obtain ⟨party, named, token, partyToken, start, steps⟩ := Instruction.rescue_steps ran rescue
      by_cases here : c.address = d
      · subst here
        by_cases mint : c.mint = e.token
        · by_cases early : s.clock.unixTimestamp.toNat < e.cancellationTime
          · have after := steps.held free trace (signed _ party) live mint
            have spares : ¬ c.leaves e s.ledger < min (e.held env c.address s.ledger) e.amount.toNat :=
              fun cuts => notEarly ⟨c, e, rescue, live, differs, mint, early, cuts⟩
            refine Or.inl ?_
            unfold EscrowDst.Stays
            omega
          · exact Or.inr (Or.inl ⟨by simp [rescue], Nat.le_of_not_lt early⟩)
        · exact Or.inl (steps.spares_held free trace (signed _ party) live mint)
      · exact Or.inl (trace.dst_stays free live signed ran
          (fun also => here (ix.rescue_named rescue also)))

theorem Trace.dstSafeRun_iff (free : env.CollisionFree) (trace : Trace env h s) :
    DstSafeRun env h ↔ ∀ ev ∈ h, ¬ ev.RescuesEarly env ∧ ¬ ev.PaysItself env := by
  induction trace with
  | start _ => simp [DstSafeRun]
  | external _ _ _ _ ih => exact ih
  | tick _ _ ih => exact ih
  | step trace signed ran ih =>
    rw [DstSafeRun, List.forall_mem_cons, and_comm, ih]
    exact and_congr_left' (trace.dst_step_safe_iff free signed ran)

/-- Over every run and for every live destination escrow whose recipient is not
its own address: every successful instruction keeps the principal or moves it as
`DstOutcome` says, and nothing else wallets do moves it. Where the cancellation
offset is at most the rescue delay, nothing reaches the creator before the
cancellation time. A run moves every principal at the right time exactly if no rescue
in it takes one before the cancellation time and no withdrawal pays the escrow
itself. -/
theorem Trace.dst_principal (free : env.CollisionFree) (trace : Trace env h s) :
    (∀ d e, s.ledger.programAt d = some (.escrowDst e) → e.recipient ≠ d →
      (∀ (ix : Instruction K) (l : Chain K), (∀ key ∈ ix.signers, env.Wallet key) →
        ix.run env s.clock s.ledger = .ok l → DstOutcome env s d e l ix) ∧
      (∀ l : Chain K, Confined env.toHost env.Wallet s.ledger l →
        Kept env d (.escrowDst e) e.token s.ledger l) ∧
      (e.timelocks.timelocks.offset .dstCancellation ≤ rescueDelay.toNat →
        e.cancellationTime ≤ rescueTime e.timelocks)) ∧
    (DstSafeRun env h ↔ ∀ ev ∈ h, ¬ ev.RescuesEarly env ∧ ¬ ev.PaysItself env) := by
  refine ⟨fun d e live other => ⟨fun ix l signed ran => ?_, fun l confined => ?_, fun short => ?_⟩,
    trace.dstSafeRun_iff free⟩
  · exact trace.dst_outcome free live (Or.inl other) signed ran
  · exact (trace.untouched_external free live confined).kept live
  · rw [EscrowDst.cancellationTime, rescueTime]
    omega

/-- A destination escrow whose cancellation lies ten days after its creation. -/
def Sample.slowDst : Dst.Create Term :=
  Sample.createDst Sample.single (Sample.offsets 10 20 30 40 5 8 864000) 2000000

def Sample.rescueDst : Dst.RescueFunds Term where
  creator := Sample.taker
  mint := Sample.usdc
  escrow := Sample.slowDst.escrow
  escrowAta := Sample.slowDst.escrowAta
  creatorAta := Sample.associated Sample.taker
  tokenProgram := .token
  orderHash := Sample.slowDst.orderHash
  hashlock := Sample.slowDst.hashlock
  escrowAmount := 2000
  rescueAmount := 2000

def Sample.slowRun : List (Command Term) :=
  [.wait 100, .call (.dst (.create Sample.slowDst)), .wait 691300]

def Sample.earlyRescue : Sample.Scenario
    (fun r => ((r.state.ledger.programAt Sample.slowDst.escrow).bind Data.toEscrowDst).any
        (fun e => decide (e.recipient = Sample.maker ∧ e.creator = Sample.taker ∧
          e.token = Sample.usdc ∧ e.amount = 2000 ∧
          r.state.clock.unixTimestamp.toNat < e.cancellationTime)) = true ∧
      (Dst.rescueFunds Sample.env r.state.clock Sample.rescueDst r.state.ledger).toOption.any
        (fun l => decide (Sample.env.balance l Sample.taker Sample.usdc =
          Sample.env.balance r.state.ledger Sample.taker Sample.usdc + 2000)) = true) where
  commands := Sample.slowRun

/-- Its creator takes the whole principal back by a rescue after eight days, two
days before the cancellation time. -/
theorem Sample.early_rescue : ∃ (h : History Term) (s : State Term) (e : EscrowDst Term)
    (l : Chain Term), Trace Sample.env h s ∧
      s.ledger.programAt Sample.slowDst.escrow = some (.escrowDst e) ∧ e.recipient ≠ e.creator ∧
      Dst.rescueFunds Sample.env s.clock Sample.rescueDst s.ledger = .ok l ∧
      s.clock.unixTimestamp.toNat < e.cancellationTime ∧
      Sample.env.balance l e.creator e.token =
        Sample.env.balance s.ledger e.creator e.token + e.amount.toNat := by
  obtain ⟨r, trace, held, rescued⟩ := Sample.earlyRescue.reached
  obtain ⟨e, live, recipient, creator, token, amount, early⟩ := Sample.live_escrowDst held
  obtain ⟨l, ran, gained⟩ := Sample.ran rescued
  refine ⟨_, _, e, l, trace, live, ?_, ran, early, ?_⟩
  · rw [recipient, creator]
    decide
  · rw [creator, token, amount]
    exact gained

/-- A native escrow whose recipient is its own address. -/
def Sample.ownDst : Dst.Create Term :=
  let plain := Sample.createDst Sample.single (Sample.offsets 10 20 30 40 5 8 12) 2000000
  { plain with
    mint := Sample.nativeMint .token
    creatorAta := none
    escrowAta := Sample.env.associatedTokenAddress plain.escrow .token (Sample.nativeMint .token)
    recipient := plain.escrow
    assetIsNative := true }

def Sample.withdrawOwn : Dst.Withdraw Term where
  creator := Sample.taker
  recipient := Sample.ownDst.escrow
  mint := Sample.nativeMint .token
  escrow := Sample.ownDst.escrow
  escrowAta := Sample.ownDst.escrowAta
  recipientAta := none
  tokenProgram := .token
  secret := Sample.secret

def Sample.ownWithdrawal : Sample.Scenario
    (fun r => ((r.state.ledger.programAt Sample.ownDst.escrow).bind Data.toEscrowDst).any
        (fun e => decide (e.recipient = Sample.ownDst.escrow ∧ e.creator = Sample.taker ∧
          e.amount = 2000 ∧ r.state.clock.unixTimestamp.toNat < e.cancellationTime)) = true ∧
      (Dst.withdraw Sample.env r.state.clock Sample.withdrawOwn r.state.ledger).toOption.any
        (fun l => decide (r.state.ledger.lamports Sample.taker + 2000 ≤
          l.lamports Sample.taker)) = true) where
  commands := [.wait 100, .call (.dst (.create Sample.ownDst)), .wait 106]

/-- A withdrawal pays such a recipient and then closes it to the creator. -/
theorem Sample.own_recipient : ∃ (h : History Term) (s : State Term) (e : EscrowDst Term)
    (l : Chain Term), Trace Sample.env h s ∧
      s.ledger.programAt Sample.ownDst.escrow = some (.escrowDst e) ∧ e.recipient ≠ e.creator ∧
      Dst.withdraw Sample.env s.clock Sample.withdrawOwn s.ledger = .ok l ∧
      s.clock.unixTimestamp.toNat < e.cancellationTime ∧
      s.ledger.lamports e.creator + e.amount.toNat ≤ l.lamports e.creator := by
  obtain ⟨r, trace, held, withdrawn⟩ := Sample.ownWithdrawal.reached
  obtain ⟨e, live, recipient, creator, amount, early⟩ := Sample.live_escrowDst held
  obtain ⟨l, ran, gained⟩ := Sample.ran withdrawn
  refine ⟨_, _, e, l, trace, live, ?_, ran, early, ?_⟩
  · rw [recipient, creator]
    decide +kernel
  · rw [creator, amount]
    exact gained

/-- Before the cancellation time a principal goes back to the creator in a rescue,
and in a withdrawal whose recipient is the escrow itself. -/
theorem Trace.dst_principal_early :
    (∃ (h : History Term) (s : State Term) (e : EscrowDst Term) (l : Chain Term),
      Trace Sample.env h s ∧ s.ledger.programAt Sample.slowDst.escrow = some (.escrowDst e) ∧
      e.recipient ≠ e.creator ∧
      Dst.rescueFunds Sample.env s.clock Sample.rescueDst s.ledger = .ok l ∧
      s.clock.unixTimestamp.toNat < e.cancellationTime ∧
      Sample.env.balance l e.creator e.token =
        Sample.env.balance s.ledger e.creator e.token + e.amount.toNat) ∧
    (∃ (h : History Term) (s : State Term) (e : EscrowDst Term) (l : Chain Term),
      Trace Sample.env h s ∧ s.ledger.programAt Sample.ownDst.escrow = some (.escrowDst e) ∧
      e.recipient ≠ e.creator ∧
      Dst.withdraw Sample.env s.clock Sample.withdrawOwn s.ledger = .ok l ∧
      s.clock.unixTimestamp.toNat < e.cancellationTime ∧
      s.ledger.lamports e.creator + e.amount.toNat ≤ l.lamports e.creator) :=
  ⟨Sample.early_rescue, Sample.own_recipient⟩

def Sample.slowRescue : Sample.Scenario
    (fun r => ((r.state.ledger.programAt Sample.slowDst.escrow).bind Data.toEscrowDst).any
        (fun e => decide (e.recipient = Sample.maker)) = true ∧
      (Dst.rescueFunds Sample.env r.state.clock Sample.rescueDst
        r.state.ledger).toOption.isSome = true) where
  commands := Sample.slowRun

/-- The rescue of that escrow, as an outcome. -/
theorem Trace.dst_principal_sample : ∃ (s : State Term) (e : EscrowDst Term) (l : Chain Term),
    Dst.rescueFunds Sample.env s.clock Sample.rescueDst s.ledger = .ok l ∧
      DstOutcome Sample.env s Sample.slowDst.escrow e l (.dst (.rescueFunds Sample.rescueDst)) := by
  obtain ⟨r, trace, held, rescued⟩ := Sample.slowRescue.reached
  obtain ⟨e, live, recipient⟩ := Sample.live_escrowDst held
  obtain ⟨l, ran⟩ := isSome_toOption rescued
  have other : e.recipient ≠ Sample.slowDst.escrow := by
    rw [recipient]
    decide +kernel
  have signed : ∀ key ∈ (Instruction.dst (.rescueFunds Sample.rescueDst)).signers,
      Sample.env.Wallet key := Sample.signed_atom 12
  exact ⟨r.state, e, l, ran,
    ((trace.dst_principal Sample.collisionFree).1 _ e live other).1 _ l signed ran⟩

end CrossChainEscrow.Source
