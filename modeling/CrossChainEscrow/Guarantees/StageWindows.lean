import CrossChainEscrow.Effects.Dst
import CrossChainEscrow.Effects.SrcExits
import CrossChainEscrow.Source.Execution

/-!
# Stage windows

The time checks of the withdrawals and cancellations, as predicates of the stored
timelocks and the clock. A withdrawal window ends where the cancellation begins,
so those two exclude each other whatever the offsets are. Nothing orders the
other stages: `create` takes the offsets as they come, and each remaining relation
between two windows holds exactly when the offsets say so.

An exit reads the clock for its time check only. One that succeeds at some time
succeeds at exactly the times that its predicate holds of (`OpensWhile`), so the
relations between the predicates are those between the exits.
-/

namespace CrossChainEscrow.Source
open Library.Words Library.Bytes Library.Accounts

variable {K : Type}

/-- The clock is past `opens` and before `closes`. -/
def Limbs.inWindow (x : Limbs) (opens closes : Stage) (now : U32) : Prop :=
  requireWindow now x.timelocks opens closes = .ok ()

/-- The clock is past the stage. -/
def Limbs.reached (x : Limbs) (stage : Stage) (now : U32) : Prop :=
  requireReached now x.timelocks stage = .ok ()

section Checks
variable (e : EscrowSrc K) (d : EscrowDst K) (now : U32)

/-- The time check of `withdraw`. -/
def EscrowSrc.withdrawOpen : Prop := e.timelocks.inWindow .srcWithdrawal .srcCancellation now

/-- The time check of `public_withdraw`. -/
def EscrowSrc.publicWithdrawOpen : Prop :=
  e.timelocks.inWindow .srcPublicWithdrawal .srcCancellation now

/-- The time check of `cancel_escrow`. -/
def EscrowSrc.cancelOpen : Prop := e.timelocks.reached .srcCancellation now

/-- The time check of `public_cancel_escrow`. -/
def EscrowSrc.publicCancelOpen : Prop := e.timelocks.reached .srcPublicCancellation now

/-- The time checks of the destination program. -/
def EscrowDst.withdrawOpen : Prop := d.timelocks.inWindow .dstWithdrawal .dstCancellation now

def EscrowDst.publicWithdrawOpen : Prop :=
  d.timelocks.inWindow .dstPublicWithdrawal .dstCancellation now

def EscrowDst.cancelOpen : Prop := d.timelocks.reached .dstCancellation now

/-- The escrow that an exit closes, and its time check. -/
def Src.Instruction.window : Src.Instruction K → Option (K × (U32 → Prop))
  | .withdraw ix => some (ix.escrow, e.withdrawOpen)
  | .publicWithdraw ix => some (ix.escrow, e.publicWithdrawOpen)
  | .cancelEscrow ix => some (ix.escrow, e.cancelOpen)
  | .publicCancelEscrow ix => some (ix.escrow, e.publicCancelOpen)
  | _ => none

def Dst.Instruction.window : Dst.Instruction K → Option (K × (U32 → Prop))
  | .withdraw ix => some (ix.escrow, d.withdrawOpen)
  | .publicWithdraw ix => some (ix.escrow, d.publicWithdrawOpen)
  | .cancel ix => some (ix.escrow, d.cancelOpen)
  | _ => none

end Checks

/-! ## Windows as intervals -/

section Windows
variable {x : Limbs} {opens opens' closes stage stage' : Stage}

theorem Limbs.inWindow_iff {now : U32} : x.inWindow opens closes now ↔
    x.timelocks.deployedAt + x.timelocks.offset opens ≤ now.toNat ∧
      now.toNat < x.timelocks.deployedAt + x.timelocks.offset closes ∧
      x.timelocks.deployedAt + x.timelocks.offset closes < 2 ^ 32 := requireWindow_ok

theorem Limbs.reached_iff {now : U32} : x.reached stage now ↔
    x.timelocks.deployedAt + x.timelocks.offset stage ≤ now.toNat := requireReached_ok

/-- A window is over when the stage that closes it is reached. -/
theorem Limbs.window_not_reached (now : U32) (inside : x.inWindow opens closes now) :
    ¬ x.reached closes now := by
  rw [Limbs.inWindow_iff] at inside
  rw [Limbs.reached_iff]
  omega

/-- One stage implies another exactly when it is not earlier, or is never reached. -/
theorem Limbs.reached_implies : (∀ now, x.reached stage now → x.reached stage' now) ↔
    x.timelocks.offset stage' ≤ x.timelocks.offset stage ∨
      2 ^ 32 ≤ x.timelocks.deployedAt + x.timelocks.offset stage := by
  simp only [Limbs.reached_iff]
  constructor
  · intro implies
    by_cases fits : x.timelocks.deployedAt + x.timelocks.offset stage < 2 ^ 32
    · have first : (BitVec.ofNat 32 (x.timelocks.deployedAt + x.timelocks.offset stage)).toNat =
          x.timelocks.deployedAt + x.timelocks.offset stage := Nat.mod_eq_of_lt fits
      have opened := implies _ (Nat.le_of_eq first.symm)
      omega
    · exact Or.inr (by omega)
  · intro ordered now opened
    have bound := now.isLt
    omega

/-- One window lies in another with the same end exactly when it does not open
earlier, or is empty. -/
theorem Limbs.window_implies :
    (∀ now, x.inWindow opens closes now → x.inWindow opens' closes now) ↔
      x.timelocks.offset opens' ≤ x.timelocks.offset opens ∨
        x.timelocks.offset closes ≤ x.timelocks.offset opens ∨
        2 ^ 32 ≤ x.timelocks.deployedAt + x.timelocks.offset closes := by
  simp only [Limbs.inWindow_iff]
  constructor
  · intro implies
    by_cases some : x.timelocks.offset opens < x.timelocks.offset closes ∧
        x.timelocks.deployedAt + x.timelocks.offset closes < 2 ^ 32
    · have fits : x.timelocks.deployedAt + x.timelocks.offset opens < 2 ^ 32 := by omega
      have first : (BitVec.ofNat 32 (x.timelocks.deployedAt + x.timelocks.offset opens)).toNat =
          x.timelocks.deployedAt + x.timelocks.offset opens := Nat.mod_eq_of_lt fits
      have inside := implies _ ⟨Nat.le_of_eq first.symm, by omega, some.2⟩
      omega
    · omega
  · intro ordered now inside
    omega

/-- A window and a stage exclude each other exactly when the stage does not come
before the window closes, or the window is empty. -/
theorem Limbs.window_excludes :
    (∀ now, ¬ (x.inWindow opens closes now ∧ x.reached stage now)) ↔
      x.timelocks.offset closes ≤ x.timelocks.offset stage ∨
        x.timelocks.offset closes ≤ x.timelocks.offset opens ∨
        2 ^ 32 ≤ x.timelocks.deployedAt + x.timelocks.offset closes := by
  simp only [Limbs.inWindow_iff, Limbs.reached_iff]
  constructor
  · intro excludes
    by_cases some : max (x.timelocks.offset opens) (x.timelocks.offset stage) <
        x.timelocks.offset closes ∧ x.timelocks.deployedAt + x.timelocks.offset closes < 2 ^ 32
    · have fits : x.timelocks.deployedAt +
          max (x.timelocks.offset opens) (x.timelocks.offset stage) < 2 ^ 32 := by omega
      have last : (BitVec.ofNat 32 (x.timelocks.deployedAt +
          max (x.timelocks.offset opens) (x.timelocks.offset stage))).toNat =
          x.timelocks.deployedAt + max (x.timelocks.offset opens) (x.timelocks.offset stage) :=
        Nat.mod_eq_of_lt fits
      have outside := excludes (BitVec.ofNat 32 (x.timelocks.deployedAt +
        max (x.timelocks.offset opens) (x.timelocks.offset stage)))
      omega
    · omega
  · rintro ordered now ⟨inside, opened⟩
    omega

end Windows

/-! ## The checks are those of the instructions -/

section Instructions
variable [DecidableEq K] {env : Environment K} {clock : Clock} {l l' : Chain K}

theorem Src.withdraw_open {ix : Src.Withdraw K} (ran : Src.withdraw env clock ix l = .ok l') :
    ∃ e, l.programAt ix.escrow = some (.escrowSrc e) ∧ e.withdrawOpen clock.unixTimestamp := by
  obtain ⟨e, _, _, _, _, steps⟩ := Src.withdraw_steps ran
  exact ⟨e, Ledger.programAt_eq_some.mpr steps.loaded, steps.window⟩

theorem Src.publicWithdraw_open {ix : Src.PublicWithdraw K}
    (ran : Src.publicWithdraw env clock ix l = .ok l') :
    ∃ e, l.programAt ix.escrow = some (.escrowSrc e) ∧
      e.publicWithdrawOpen clock.unixTimestamp := by
  obtain ⟨_, e, _, _, _, _, steps⟩ := Src.publicWithdraw_steps ran
  exact ⟨e, Ledger.programAt_eq_some.mpr steps.loaded, steps.window⟩

theorem Src.cancelEscrow_open {ix : Src.CancelEscrow K}
    (ran : Src.cancelEscrow env clock ix l = .ok l') :
    ∃ e, l.programAt ix.escrow = some (.escrowSrc e) ∧ e.cancelOpen clock.unixTimestamp := by
  obtain ⟨e, _, _, _, steps⟩ := Src.cancelEscrow_steps ran
  exact ⟨e, Ledger.programAt_eq_some.mpr steps.loaded, steps.reached⟩

theorem Src.publicCancelEscrow_open {ix : Src.PublicCancelEscrow K}
    (ran : Src.publicCancelEscrow env clock ix l = .ok l') :
    ∃ e, l.programAt ix.escrow = some (.escrowSrc e) ∧ e.publicCancelOpen clock.unixTimestamp := by
  obtain ⟨_, e, _, _, _, steps⟩ := Src.publicCancelEscrow_steps ran
  exact ⟨e, Ledger.programAt_eq_some.mpr steps.loaded, steps.reached⟩

theorem Dst.withdraw_open {ix : Dst.Withdraw K} (ran : Dst.withdraw env clock ix l = .ok l') :
    ∃ d, l.programAt ix.escrow = some (.escrowDst d) ∧ d.withdrawOpen clock.unixTimestamp := by
  obtain ⟨d, _, _, _, _, steps⟩ := Dst.withdraw_steps ran
  exact ⟨d, Ledger.programAt_eq_some.mpr steps.loaded, steps.window⟩

theorem Dst.publicWithdraw_open {ix : Dst.PublicWithdraw K}
    (ran : Dst.publicWithdraw env clock ix l = .ok l') :
    ∃ d, l.programAt ix.escrow = some (.escrowDst d) ∧
      d.publicWithdrawOpen clock.unixTimestamp := by
  obtain ⟨_, d, _, _, _, _, steps⟩ := Dst.publicWithdraw_steps ran
  exact ⟨d, Ledger.programAt_eq_some.mpr steps.loaded, steps.window⟩

theorem Dst.cancel_open {ix : Dst.Cancel K} (ran : Dst.cancel env clock ix l = .ok l') :
    ∃ d, l.programAt ix.escrow = some (.escrowDst d) ∧ d.cancelOpen clock.unixTimestamp := by
  obtain ⟨d, _, _, steps⟩ := Dst.cancel_steps ran
  exact ⟨d, Ledger.programAt_eq_some.mpr steps.loaded, steps.reached⟩

/-! ### The times at which a call succeeds -/

/-- The call succeeds exactly while `opened` holds, if it does at any time. -/
def OpensWhile (run : Clock → Result (Chain K)) (opened : U32 → Prop) : Prop :=
  ∀ clock l', run clock = .ok l' → ∀ now, run now = .ok l' ↔ opened now.unixTimestamp

omit [DecidableEq K] in
/-- So does a call that checks the time of the account it loads, and reads the
clock for nothing else. -/
theorem opensWhile {V : Type} {wrap : V → Data K} (inj : Function.Injective wrap)
    {opened : V → U32 → Prop} {run : Clock → Result (Chain K)} {a : K} {v : V}
    (live : l.programAt a = some (wrap v))
    (checks : ∀ {now l'}, run now = .ok l' →
      ∃ stored, l.programAt a = some (wrap stored) ∧ opened stored now.unixTimestamp)
    (alike : ∀ {clock now : Clock}, opened v clock.unixTimestamp → opened v now.unixTimestamp →
      run now = run clock) : OpensWhile run (opened v) := by
  have passed : ∀ {now l'}, run now = .ok l' → opened v now.unixTimestamp := by
    intro now l' ran
    obtain ⟨stored, found, opens⟩ := checks ran
    obtain rfl := inj (Option.some.inj (live.symm.trans found))
    exact opens
  intro clock l' ran now
  constructor
  · exact passed
  · intro opens
    exact (alike (passed ran) opens).trans ran

omit [DecidableEq K] in
theorem OpensWhile.passed {run : Clock → Result (Chain K)} {opened : U32 → Prop}
    (times : OpensWhile run opened) (ran : run clock = .ok l') : opened clock.unixTimestamp :=
  (times clock l' ran clock).mp ran

section Source
variable {e : EscrowSrc K}

theorem Src.withdraw_times {ix : Src.Withdraw K}
    (live : l.programAt ix.escrow = some (.escrowSrc e)) :
    OpensWhile (fun clock => Src.withdraw env clock ix l) e.withdrawOpen := by
  have loaded := loadEscrowSrc_ok.mpr (Ledger.programAt_eq_some.mp live)
  refine opensWhile (fun _ _ => Data.escrowSrc.inj) live Src.withdraw_open fun before after => ?_
  unfold EscrowSrc.withdrawOpen Limbs.inWindow at before after
  simp only [Src.withdraw, loaded, Bind.bind, Except.bind, getCurrentTimestamp, before, after]
  rfl

theorem Src.publicWithdraw_times {ix : Src.PublicWithdraw K}
    (live : l.programAt ix.escrow = some (.escrowSrc e)) :
    OpensWhile (fun clock => Src.publicWithdraw env clock ix l) e.publicWithdrawOpen := by
  have loaded := loadEscrowSrc_ok.mpr (Ledger.programAt_eq_some.mp live)
  refine opensWhile (fun _ _ => Data.escrowSrc.inj) live Src.publicWithdraw_open fun before after => ?_
  unfold EscrowSrc.publicWithdrawOpen Limbs.inWindow at before after
  simp only [Src.publicWithdraw, loaded, Bind.bind, Except.bind, getCurrentTimestamp, before, after]
  rfl

theorem Src.cancelEscrow_times {ix : Src.CancelEscrow K}
    (live : l.programAt ix.escrow = some (.escrowSrc e)) :
    OpensWhile (fun clock => Src.cancelEscrow env clock ix l) e.cancelOpen := by
  have loaded := loadEscrowSrc_ok.mpr (Ledger.programAt_eq_some.mp live)
  refine opensWhile (fun _ _ => Data.escrowSrc.inj) live Src.cancelEscrow_open fun before after => ?_
  unfold EscrowSrc.cancelOpen Limbs.reached at before after
  simp only [Src.cancelEscrow, loaded, Bind.bind, Except.bind, getCurrentTimestamp, before, after]
  rfl

theorem Src.publicCancelEscrow_times {ix : Src.PublicCancelEscrow K}
    (live : l.programAt ix.escrow = some (.escrowSrc e)) :
    OpensWhile (fun clock => Src.publicCancelEscrow env clock ix l) e.publicCancelOpen := by
  have loaded := loadEscrowSrc_ok.mpr (Ledger.programAt_eq_some.mp live)
  refine opensWhile (fun _ _ => Data.escrowSrc.inj) live Src.publicCancelEscrow_open
    fun before after => ?_
  unfold EscrowSrc.publicCancelOpen Limbs.reached at before after
  simp only [Src.publicCancelEscrow, loaded, Bind.bind, Except.bind, getCurrentTimestamp, before, after]
  rfl

/-- An exit on the source chain succeeds while its window is open. -/
theorem Src.Instruction.times {ix : Src.Instruction K} {a : K} {opened : U32 → Prop}
    (live : l.programAt a = some (.escrowSrc e)) (window : ix.window e = some (a, opened)) :
    OpensWhile (fun clock => ix.run env clock l) opened := by
  cases ix with
  | withdraw ix =>
    cases window
    exact Src.withdraw_times live
  | publicWithdraw ix =>
    cases window
    exact Src.publicWithdraw_times live
  | cancelEscrow ix =>
    cases window
    exact Src.cancelEscrow_times live
  | publicCancelEscrow ix =>
    cases window
    exact Src.publicCancelEscrow_times live
  | create ix => cases window
  | createEscrow ix => cases window
  | cancelOrder ix => cases window
  | cancelOrderByResolver ix => cases window
  | rescueFundsForEscrow ix => cases window
  | rescueFundsForOrder ix => cases window

end Source

section Destination
variable {d : EscrowDst K}

theorem Dst.withdraw_times {ix : Dst.Withdraw K}
    (live : l.programAt ix.escrow = some (.escrowDst d)) :
    OpensWhile (fun clock => Dst.withdraw env clock ix l) d.withdrawOpen := by
  have loaded := loadEscrowDst_ok.mpr (Ledger.programAt_eq_some.mp live)
  refine opensWhile (fun _ _ => Data.escrowDst.inj) live Dst.withdraw_open fun before after => ?_
  unfold EscrowDst.withdrawOpen Limbs.inWindow at before after
  simp only [Dst.withdraw, loaded, Bind.bind, Except.bind, getCurrentTimestamp, before, after]
  rfl

theorem Dst.publicWithdraw_times {ix : Dst.PublicWithdraw K}
    (live : l.programAt ix.escrow = some (.escrowDst d)) :
    OpensWhile (fun clock => Dst.publicWithdraw env clock ix l) d.publicWithdrawOpen := by
  have loaded := loadEscrowDst_ok.mpr (Ledger.programAt_eq_some.mp live)
  refine opensWhile (fun _ _ => Data.escrowDst.inj) live Dst.publicWithdraw_open fun before after => ?_
  unfold EscrowDst.publicWithdrawOpen Limbs.inWindow at before after
  simp only [Dst.publicWithdraw, loaded, Bind.bind, Except.bind, getCurrentTimestamp, before, after]
  rfl

theorem Dst.cancel_times {ix : Dst.Cancel K}
    (live : l.programAt ix.escrow = some (.escrowDst d)) :
    OpensWhile (fun clock => Dst.cancel env clock ix l) d.cancelOpen := by
  have loaded := loadEscrowDst_ok.mpr (Ledger.programAt_eq_some.mp live)
  refine opensWhile (fun _ _ => Data.escrowDst.inj) live Dst.cancel_open fun before after => ?_
  unfold EscrowDst.cancelOpen Limbs.reached at before after
  simp only [Dst.cancel, loaded, Bind.bind, Except.bind, getCurrentTimestamp, before, after]
  rfl

/-- An exit on the destination chain succeeds while its window is open. -/
theorem Dst.Instruction.times {ix : Dst.Instruction K} {a : K} {opened : U32 → Prop}
    (live : l.programAt a = some (.escrowDst d)) (window : ix.window d = some (a, opened)) :
    OpensWhile (fun clock => ix.run env clock l) opened := by
  cases ix with
  | withdraw ix =>
    cases window
    exact Dst.withdraw_times live
  | publicWithdraw ix =>
    cases window
    exact Dst.publicWithdraw_times live
  | cancel ix =>
    cases window
    exact Dst.cancel_times live
  | create ix => cases window
  | rescueFunds ix => cases window

end Destination

section Relations
variable {run run' : Clock → Result (Chain K)} {opened opened' : U32 → Prop} {clock' : Clock}
  {l₁ l₂ : Chain K}

omit [DecidableEq K] in
/-- Of two calls that succeed at some time, one succeeds whenever the other does, and
they exclude each other, exactly if that holds of their checks. -/
theorem OpensWhile.relations (times : OpensWhile run opened) (ran : run clock = .ok l₁)
    (times' : OpensWhile run' opened') (ran' : run' clock' = .ok l₂) :
    ((∀ now, run now = .ok l₁ → run' now = .ok l₂) ↔ ∀ now, opened now → opened' now) ∧
    ((∀ now, ¬ (run now = .ok l₁ ∧ run' now = .ok l₂)) ↔ ∀ now, ¬ (opened now ∧ opened' now)) := by
  simp only [times _ _ ran, times' _ _ ran']
  refine ⟨⟨fun implies now => ?_, fun implies now => implies now.unixTimestamp⟩,
    ⟨fun excludes now => ?_, fun excludes now => excludes now.unixTimestamp⟩⟩
  · exact implies ⟨now⟩
  · exact excludes ⟨now⟩

end Relations

/-- So the relations between the time checks of an escrow are those between its exits. -/
theorem EscrowSrc.exit_windows {e : EscrowSrc K} {a : K} (live : l.programAt a = some (.escrowSrc e))
    {ix ix' : Src.Instruction K} {opened opened' : U32 → Prop} {clock' : Clock} {l₁ l₂ : Chain K}
    (window : ix.window e = some (a, opened)) (window' : ix'.window e = some (a, opened'))
    (ran : ix.run env clock l = .ok l₁) (ran' : ix'.run env clock' l = .ok l₂) :
    ((∀ now, ix.run env now l = .ok l₁ → ix'.run env now l = .ok l₂) ↔
      ∀ now, opened now → opened' now) ∧
    ((∀ now, ¬ (ix.run env now l = .ok l₁ ∧ ix'.run env now l = .ok l₂)) ↔
      ∀ now, ¬ (opened now ∧ opened' now)) :=
  (Src.Instruction.times live window).relations ran (Src.Instruction.times live window') ran'

theorem EscrowDst.exit_windows {d : EscrowDst K} {a : K} (live : l.programAt a = some (.escrowDst d))
    {ix ix' : Dst.Instruction K} {opened opened' : U32 → Prop} {clock' : Clock} {l₁ l₂ : Chain K}
    (window : ix.window d = some (a, opened)) (window' : ix'.window d = some (a, opened'))
    (ran : ix.run env clock l = .ok l₁) (ran' : ix'.run env clock' l = .ok l₂) :
    ((∀ now, ix.run env now l = .ok l₁ → ix'.run env now l = .ok l₂) ↔
      ∀ now, opened now → opened' now) ∧
    ((∀ now, ¬ (ix.run env now l = .ok l₁ ∧ ix'.run env now l = .ok l₂)) ↔
      ∀ now, ¬ (opened now ∧ opened' now)) :=
  (Dst.Instruction.times live window).relations ran (Dst.Instruction.times live window') ran'

end Instructions

/-! ## The windows of an escrow -/

/-- The withdrawals and the private cancellation exclude each other on both
chains for all timelocks. Every other relation between two checks holds at all
times exactly when the offsets are in the order it needs, or the check it starts
from never passes. -/
theorem stage_windows (e : EscrowSrc K) (d : EscrowDst K) :
    (∀ now, ¬ ((e.withdrawOpen now ∨ e.publicWithdrawOpen now) ∧ e.cancelOpen now)) ∧
    (∀ now, ¬ ((d.withdrawOpen now ∨ d.publicWithdrawOpen now) ∧ d.cancelOpen now)) ∧
    ((∀ now, ¬ (e.withdrawOpen now ∧ e.publicCancelOpen now)) ↔
      e.timelocks.timelocks.offset .srcCancellation ≤
          e.timelocks.timelocks.offset .srcPublicCancellation ∨
        e.timelocks.timelocks.offset .srcCancellation ≤
          e.timelocks.timelocks.offset .srcWithdrawal ∨
        2 ^ 32 ≤ e.timelocks.timelocks.deployedAt +
          e.timelocks.timelocks.offset .srcCancellation) ∧
    ((∀ now, ¬ (e.publicWithdrawOpen now ∧ e.publicCancelOpen now)) ↔
      e.timelocks.timelocks.offset .srcCancellation ≤
          e.timelocks.timelocks.offset .srcPublicCancellation ∨
        e.timelocks.timelocks.offset .srcCancellation ≤
          e.timelocks.timelocks.offset .srcPublicWithdrawal ∨
        2 ^ 32 ≤ e.timelocks.timelocks.deployedAt +
          e.timelocks.timelocks.offset .srcCancellation) ∧
    ((∀ now, e.publicWithdrawOpen now → e.withdrawOpen now) ↔
      e.timelocks.timelocks.offset .srcWithdrawal ≤
          e.timelocks.timelocks.offset .srcPublicWithdrawal ∨
        e.timelocks.timelocks.offset .srcCancellation ≤
          e.timelocks.timelocks.offset .srcPublicWithdrawal ∨
        2 ^ 32 ≤ e.timelocks.timelocks.deployedAt +
          e.timelocks.timelocks.offset .srcCancellation) ∧
    ((∀ now, e.publicCancelOpen now → e.cancelOpen now) ↔
      e.timelocks.timelocks.offset .srcCancellation ≤
          e.timelocks.timelocks.offset .srcPublicCancellation ∨
        2 ^ 32 ≤ e.timelocks.timelocks.deployedAt +
          e.timelocks.timelocks.offset .srcPublicCancellation) ∧
    ((∀ now, d.publicWithdrawOpen now → d.withdrawOpen now) ↔
      d.timelocks.timelocks.offset .dstWithdrawal ≤
          d.timelocks.timelocks.offset .dstPublicWithdrawal ∨
        d.timelocks.timelocks.offset .dstCancellation ≤
          d.timelocks.timelocks.offset .dstPublicWithdrawal ∨
        2 ^ 32 ≤ d.timelocks.timelocks.deployedAt +
          d.timelocks.timelocks.offset .dstCancellation) := by
  refine ⟨?_, ?_, Limbs.window_excludes, Limbs.window_excludes, Limbs.window_implies,
    Limbs.reached_implies, Limbs.window_implies⟩
  · rintro now ⟨inside | inside, cancels⟩
    · exact Limbs.window_not_reached now inside cancels
    · exact Limbs.window_not_reached now inside cancels
  · rintro now ⟨inside | inside, cancels⟩
    · exact Limbs.window_not_reached now inside cancels
    · exact Limbs.window_not_reached now inside cancels

/-- In the documented order all of them hold. -/
theorem stage_windows_ordered (e : EscrowSrc K)
    (withdrawals : e.timelocks.timelocks.offset .srcWithdrawal ≤
      e.timelocks.timelocks.offset .srcPublicWithdrawal)
    (cancellations : e.timelocks.timelocks.offset .srcCancellation ≤
      e.timelocks.timelocks.offset .srcPublicCancellation) :
    (∀ now, ¬ ((e.withdrawOpen now ∨ e.publicWithdrawOpen now) ∧
      (e.cancelOpen now ∨ e.publicCancelOpen now))) ∧
    (∀ now, e.publicWithdrawOpen now → e.withdrawOpen now) ∧
    (∀ now, e.publicCancelOpen now → e.cancelOpen now) := by
  have implies : ∀ now, e.publicCancelOpen now → e.cancelOpen now :=
    Limbs.reached_implies.mpr (Or.inl cancellations)
  refine ⟨?_, Limbs.window_implies.mpr (Or.inl withdrawals), implies⟩
  rintro now ⟨inside, cancels⟩
  have cancelled : e.cancelOpen now := cancels.elim id (implies now)
  rcases inside with inside | inside
  · exact Limbs.window_not_reached now inside cancelled
  · exact Limbs.window_not_reached now inside cancelled

def Sample.disorderedFill : Sample.Scenario
    (fun r => ((r.state.ledger.programAt (Sample.escrowAt Sample.disordered 1000 none)).bind
      Data.toEscrowSrc).any (fun e =>
        decide (e.timelocks.timelocks.deployedAt = 150 ∧
          e.timelocks.timelocks.offset .srcWithdrawal = 25 ∧
          e.timelocks.timelocks.offset .srcPublicWithdrawal = 20 ∧
          e.timelocks.timelocks.offset .srcCancellation = 30 ∧
          e.timelocks.timelocks.offset .srcPublicCancellation = 10)) = true) where
  commands := Sample.singleFill Sample.disordered

/-- `create` accepts an order, and `create_escrow` an escrow of it, whose public
cancellation comes first and whose public withdrawal opens before the private
one. -/
theorem stage_windows_disordered : ∃ (h : History Term) (s : State Term) (a : Term)
    (e : EscrowSrc Term), Trace Sample.env h s ∧
      s.ledger.programAt a = some (.escrowSrc e) ∧
      (e.publicWithdrawOpen 170 ∧ ¬ e.withdrawOpen 170) ∧
      (e.publicCancelOpen 170 ∧ ¬ e.cancelOpen 170) ∧
      (e.publicWithdrawOpen 170 ∧ e.publicCancelOpen 170) := by
  obtain ⟨r, trace, held⟩ := Sample.disorderedFill.reached
  obtain ⟨e, live, deployed, withdrawal, publicWithdrawal, cancellation, publicCancellation⟩ :=
    Sample.live_escrowSrc held
  have now : (170 : U32).toNat = 170 := by decide
  refine ⟨_, _, _, e, trace, live, ?_⟩
  simp only [EscrowSrc.publicWithdrawOpen, EscrowSrc.withdrawOpen, EscrowSrc.publicCancelOpen,
    EscrowSrc.cancelOpen, Limbs.inWindow_iff, Limbs.reached_iff, deployed, withdrawal,
    publicWithdrawal, cancellation, publicCancellation, now]
  decide

end CrossChainEscrow.Source
