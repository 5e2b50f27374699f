import CrossChainEscrow.Invariants.Placement

/-!
# Destination escrows and the events before them

A live destination escrow is what its creation wrote, the last one run at its
address. Events are successful runs, and their clocks never exceed the present.
-/

namespace CrossChainEscrow.Source
open Library.Words Library.Bytes Library.Accounts

variable {K : Type} [DecidableEq K] {env : Environment K} {h : History K} {s : State K}

/-- The last creation of a destination escrow at `address`, with its clock. -/
def dstCreationOf (address : K) : History K → Option (Dst.Create K × Clock)
  | [] => none
  | e :: h =>
    match e.ix with
    | .dst (.create ix) =>
      if ix.escrow = address then some (ix, e.pre.clock) else dstCreationOf address h
    | _ => dstCreationOf address h

/-- Every event ran, no later than now. -/
theorem Trace.event_ran (trace : Trace env h s) {e : Event K} (member : e ∈ h) :
    e.ix.run env e.pre.clock e.pre.ledger = .ok e.post ∧
      e.pre.clock.unixTimestamp.toNat ≤ s.clock.unixTimestamp.toNat := by
  induction trace with
  | start _ => cases member
  | @step h s ix l trace signed ran ih =>
    rcases List.mem_cons.mp member with rfl | earlier
    · exact ⟨ran, Nat.le_refl _⟩
    · exact ih earlier
  | external _ _ _ _ ih => exact ih member
  | @tick h s clock trace later ih =>
    obtain ⟨ran, before⟩ := ih member
    have ticked : s.clock.unixTimestamp.toNat ≤ clock.unixTimestamp.toNat := later
    refine ⟨ran, ?_⟩
    dsimp only
    omega

/-- Only a creation of an escrow there changes the record of an address. -/
theorem dstCreationOf_other {address : K} {e : Event K} (h : History K)
    (other : ∀ ix, e.ix = .dst (.create ix) → ix.escrow ≠ address) :
    dstCreationOf address (e :: h) = dstCreationOf address h := by
  obtain ⟨pre, ix, post⟩ := e
  cases ix with
  | whitelist ix => rfl
  | src ix => rfl
  | dst ix =>
    cases ix with
    | create ix => exact if_neg (other ix rfl)
    | _ => rfl

/-- A live destination escrow is the one its last creation wrote, and its
cancellation starts no later than the time the creation was given. -/
theorem Trace.dst_created (trace : Trace env h s) {a : K} {escrow : EscrowDst K}
    (live : s.ledger.programAt a = some (.escrowDst escrow)) :
    ∃ c clock, dstCreationOf a h = some (c, clock) ∧
      escrow = c.newEscrow env clock.unixTimestamp ∧
      escrow.timelocks.timelocks.deployedAt + escrow.timelocks.timelocks.offset .dstCancellation ≤
        c.srcCancellationTimestamp.toNat := by
  induction trace with
  | start genesis =>
    rw [genesis.noPrograms] at live
    cases live
  | external _ _ _ owned ih =>
    rw [owned] at live
    exact ih live
  | tick _ _ ih => exact ih live
  | @step h s ix l trace signed ran ih =>
    rcases Instruction.origin ran live with kept | new
    · obtain ⟨c, clock, found, rest⟩ := ih kept
      refine ⟨c, clock, ?_, rest⟩
      rw [dstCreationOf_other, found]
      rintro ix rfl rfl
      have unused : s.ledger.data ix.escrow = .empty := (Dst.create_programAt ran).1
      simp [Ledger.programAt, unused] at kept
    · cases new with
      | @escrowDst c ran =>
        obtain ⟨_, _, _, steps⟩ := Dst.create_steps ran
        obtain ⟨start, reached, before⟩ := steps.cancellation
        have sum := Timelocks.get_ok.mp reached
        have early : start.toNat ≤ c.srcCancellationTimestamp.toNat := before
        refine ⟨c, s.clock, if_pos rfl, rfl, ?_⟩
        rw [Dst.Create.newEscrow, Timelocks.getTimelocks_timelocks]
        omega

end CrossChainEscrow.Source
