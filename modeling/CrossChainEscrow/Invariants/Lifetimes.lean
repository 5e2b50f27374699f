import CrossChainEscrow.Invariants.Destination
import CrossChainEscrow.Invariants.Escrows

/-!
# Escrows last until they are withdrawn from or cancelled

A live escrow stays exactly as it is: no other instruction, rescues included, and
no passing of time changes or removes its record. So an escrow that is no longer
there was ended by a withdrawal or a cancellation that names it.
-/

namespace CrossChainEscrow.Source
open Library.Words Library.Bytes Library.Accounts

variable {K : Type} [DecidableEq K] {env : Environment K} {h : History K} {s : State K}
  {l : Chain K} {ix : Instruction K} {a : K}

/-- The instruction cancels the destination escrow at `d`. -/
inductive CancelsDst (d : K) : Instruction K → Prop
  | cancel {ix : Dst.Cancel K} (named : ix.escrow = d) : CancelsDst d (.dst (.cancel ix))

section Step
variable (free : env.CollisionFree) (trace : Trace env h s)
  (signed : ∀ key ∈ ix.signers, env.Wallet key) (ran : ix.run env s.clock s.ledger = .ok l)
include free trace signed ran

theorem Trace.escrowSrc_step {escrow : EscrowSrc K}
    (live : s.ledger.programAt a = some (.escrowSrc escrow)) :
    l.programAt a = some (.escrowSrc escrow) ∨
      (∃ secret, WithdrawsSrc a secret ix) ∨ CancelsSrc a ix := by
  by_cases named : a ∈ ix.named
  · cases (trace.placed live).escrowSrcCall free live ran named with
    | withdraw same => exact Or.inr (Or.inl ⟨_, .withdraw same rfl⟩)
    | publicWithdraw same => exact Or.inr (Or.inl ⟨_, .publicWithdraw same rfl⟩)
    | cancelEscrow same => exact Or.inr (Or.inr (.cancelEscrow same))
    | publicCancelEscrow same => exact Or.inr (Or.inr (.publicCancelEscrow same))
    | rescue same =>
      obtain ⟨_, _, _, steps⟩ := rescueFundsForEscrow_steps ran
      exact Or.inl (steps.programAt.symm ▸ live)
  · exact Or.inl ((trace.untouched_call free live signed ran named).data.trans live)

end Step

/-- Every event is a signed step of the run, no later than now. -/
theorem Trace.event (trace : Trace env h s) {e : Event K} (member : e ∈ h) :
    ∃ before, Trace env before e.pre ∧ (∀ key ∈ e.ix.signers, env.Wallet key) ∧
      e.ix.run env e.pre.clock e.pre.ledger = .ok e.post ∧
      e.pre.clock.unixTimestamp.toNat ≤ s.clock.unixTimestamp.toNat := by
  have past := (trace.event_ran member).2
  induction trace with
  | start _ => cases member
  | external trace _ _ _ ih => exact ih member past
  | tick trace _ ih =>
    obtain ⟨before, reached, signed, ran, _⟩ := ih member (trace.event_ran member).2
    exact ⟨before, reached, signed, ran, past⟩
  | @step h s ix l trace signed ran ih =>
    rcases List.mem_cons.mp member with rfl | earlier
    · exact ⟨h, trace, signed, ran, Nat.le_refl _⟩
    · exact ih earlier past

/-- What every step keeps or ends is still there, or an event ended it. -/
theorem Trace.lasts {data : Data K} {Ends : Instruction K → Prop}
    (step : ∀ {h : History K} {s : State K} {ix : Instruction K} {l : Chain K}, Trace env h s →
      (∀ key ∈ ix.signers, env.Wallet key) → ix.run env s.clock s.ledger = .ok l →
      s.ledger.programAt a = some data → l.programAt a = some data ∨ Ends ix)
    (trace : Trace env h s) {later earlier : History K} {e : Event K}
    (split : h = later ++ e :: earlier) (held : e.post.programAt a = some data) :
    s.ledger.programAt a = some data ∨
      ∃ e' ∈ later, e'.pre.ledger.programAt a = some data ∧ Ends e'.ix := by
  induction trace generalizing later with
  | start _ => simp at split
  | external _ _ _ owned ih =>
    rw [owned]
    exact ih split
  | tick _ _ ih => exact ih split
  | @step h s ix l trace signed ran ih =>
    cases later with
    | nil =>
      obtain ⟨rfl, rfl⟩ := List.cons.inj split
      exact Or.inl held
    | cons newest later =>
      obtain ⟨rfl, rest⟩ := List.cons.inj split
      rcases ih rest with live | ⟨e', member, before, ends⟩
      · rcases step trace signed ran live with kept | ends
        · exact Or.inl kept
        · exact Or.inr ⟨_, List.mem_cons_self, live, ends⟩
      · exact Or.inr ⟨e', List.mem_cons_of_mem _ member, before, ends⟩

theorem Trace.escrowSrc_lasts (free : env.CollisionFree) (trace : Trace env h s)
    {later earlier : History K} {e : Event K} (split : h = later ++ e :: earlier)
    {escrow : EscrowSrc K} (held : e.post.programAt a = some (.escrowSrc escrow)) :
    s.ledger.programAt a = some (.escrowSrc escrow) ∨
      ∃ e' ∈ later, e'.pre.ledger.programAt a = some (.escrowSrc escrow) ∧
        ((∃ secret, WithdrawsSrc a secret e'.ix) ∨ CancelsSrc a e'.ix) :=
  trace.lasts (fun before signed ran => before.escrowSrc_step free signed ran) split held

end CrossChainEscrow.Source
