import CrossChainEscrow.Invariants.Orders
import CrossChainEscrow.Source.Execution

/-!
# No secret of an order is used twice

The accepted fills of an order in parts are a `Filling` of its amount, so their
indices increase strictly and there are at most as many fills as secrets.
-/

namespace CrossChainEscrow.Source
open Library.Words Library.Bytes Library.Accounts Library.Parts

variable {K : Type} [DecidableEq K] {env : Environment K}

/-- The Merkle index of a fill. -/
def Src.CreateEscrow.index (ix : Src.CreateEscrow K) : Option Nat :=
  ix.merkleProof.map (fun proof => proof.index.toNat)

/-- The parts of an order, from the first two bytes of its hashlock. -/
def Src.Create.parts (c : Src.Create K) : Nat := (u16FromBeBytes c.hashlock).toNat

def Fill.numbered (f : Fill K) : Nat × Nat := (f.ix.amount.toNat, f.ix.index.getD 0)

theorem Fill.Accepted.escrow_amount {c : Src.Create K} {clock : Clock} {filled : Nat} {f : Fill K}
    (accepted : f.Accepted env c clock filled) : f.escrow.amount = f.ix.amount := by
  obtain ⟨_, _, v, _, _, escrow⟩ := accepted.ran
  rw [escrow]
  rfl

/-- A fill of an order in parts carries a proof, whose index follows the rule. -/
theorem Fill.Accepted.numbered {c : Src.Create K} {clock : Clock} {filled : Nat} {f : Fill K}
    (accepted : f.Accepted env c clock filled) (multi : c.allowMultipleFills = true) :
    ∃ index, f.ix.index = some index ∧
      Numbered c.amount.toNat c.parts filled f.ix.amount.toNat index := by
  obtain ⟨l, l', v, steps, same, _⟩ := accepted.ran
  have order : v.order = c.orderWith env clock f.order.remainingAmount := same.trans accepted.order
  have many : v.order.allowMultipleFills = true := by
    rw [order]
    exact multi
  have given := steps.proofGiven
  rw [many] at given
  obtain ⟨proof, provided⟩ := Option.isSome_iff_exists.mp given.symm
  have hashlock := steps.accepted
  rw [provided] at hashlock
  obtain ⟨_, valid, _⟩ := acceptedHashlock_some hashlock
  have fits : f.ix.amount.toNat ≤ v.order.remainingAmount.toNat := by
    rcases requireFillAmount_ok.mp steps.amount with ⟨_, below⟩ | ⟨single, _⟩
    · exact below
    · rw [many] at single
      cases single
  have rest := accepted.rest
  rw [← same] at rest
  have amounts : v.order.amount = c.amount := by
    rw [order]
    rfl
  have sum : filled + v.order.remainingAmount.toNat = v.order.amount.toNat := by
    rw [amounts]
    omega
  have numbered := isValidPartialFill_numbered valid fits filled sum
  have width : ((u16FromBeBytes v.order.hashlock).setWidth 64).toNat = c.parts := by
    rw [order]
    have small := (u16FromBeBytes c.hashlock).isLt
    exact (BitVec.toNat_setWidth ..).trans (Nat.mod_eq_of_lt (by omega))
  rw [amounts, width] at numbered
  exact ⟨proof.index.toNat, by rw [Src.CreateEscrow.index, provided]; rfl, numbered⟩

theorem Filled.filledAmount_eq {c : Src.Create K} {clock : Clock} {fills : List (Fill K)}
    (h : Filled env c clock fills) :
    filledAmount fills = ((fills.map Fill.ix).map (fun ix => ix.amount.toNat)).sum := by
  induction h with
  | nil => rfl
  | cons _ accepted ih =>
    rw [filledAmount, List.map_cons, List.sum_cons, accepted.escrow_amount]
    exact congrArg _ ih

/-- The fills of an order in parts are a numbered filling of its amount. -/
theorem Filled.filling {c : Src.Create K} {clock : Clock} {fills : List (Fill K)}
    (h : Filled env c clock fills) (multi : c.allowMultipleFills = true) :
    Filling c.amount.toNat c.parts (fills.map Fill.numbered) := by
  induction h with
  | nil => exact .nil
  | @cons fills f earlier accepted ih =>
    obtain ⟨index, given, numbered⟩ := accepted.numbered multi
    have amounts : filledBy (fills.map Fill.numbered) = filledAmount fills := by
      rw [earlier.filledAmount_eq, filledBy, List.map_map, List.map_map]
      rfl
    have rest := accepted.rest
    have unfinished := accepted.unfinished
    have entry : f.numbered = (f.ix.amount.toNat, index) := by
      rw [Fill.numbered, given]
      rfl
    rw [List.map_cons, entry]
    refine .cons ih ?_ ?_
    · rw [amounts]
      omega
    · rw [amounts]
      exact numbered

theorem Filled.indices {c : Src.Create K} {clock : Clock} {fills : List (Fill K)}
    (h : Filled env c clock fills) (multi : c.allowMultipleFills = true) :
    (fills.map Fill.ix).map Src.CreateEscrow.index =
      ((fills.map Fill.numbered).map Prod.snd).map some := by
  induction h with
  | nil => rfl
  | cons _ accepted ih =>
    obtain ⟨index, given, _⟩ := accepted.numbered multi
    simp only [List.map_cons, Fill.numbered, given, Option.getD_some]
    exact congrArg _ ih

/-- Once the fills add up to the amount of the order, it takes no further fill. -/
theorem Trace.filled_up {h : History K} {s : State K} (trace : Trace env h s) {address : K}
    {c : Src.Create K} {clock : Clock} (created : creationOf address h = some (c, clock))
    (all : filledAmount (fillsOf address h) = c.amount.toNat) {ix : Src.CreateEscrow K}
    {l : Chain K} (named : ix.order = address) :
    Src.createEscrow env s.clock ix s.ledger ≠ .ok l := by
  intro ran
  obtain ⟨v, steps⟩ := Src.createEscrow_steps ran
  subst named
  have tracked := trace.tracked (Ledger.programAt_eq_some.mpr steps.loaded)
  obtain ⟨c', clock', found, same, _⟩ := tracked.created
  rw [created] at found
  obtain ⟨rfl, rfl⟩ : c = c' ∧ clock = clock' := by simpa using found
  have amounts : v.order.amount = c.amount := by
    rw [same]
    rfl
  have accounted := tracked.accounted
  have unfinished := tracked.unfinished
  rw [amounts] at accounted
  omega

/-- For every order in parts, over every run: fills take something, their
indices increase strictly from each to the next and stay within `0..=parts`, at
most `parts + 1` escrows are created, and a filled order takes no more fills. -/
theorem Trace.secrets_used_once {h : History K} {s : State K} (trace : Trace env h s) {address : K}
    {c : Src.Create K} {clock : Clock} (created : creationOf address h = some (c, clock))
    (multi : c.allowMultipleFills = true) :
    1 < c.parts ∧ 0 < c.amount.toNat ∧
    (∀ ix ∈ fillCalls address h, 0 < ix.amount.toNat) ∧
    (∃ indices : List Nat,
      (fillCalls address h).map Src.CreateEscrow.index = indices.map some ∧
      indices.Pairwise (· > ·) ∧ ∀ i ∈ indices, i ≤ c.parts) ∧
    (fillCalls address h).length ≤ c.parts + 1 ∧
    (((fillCalls address h).map (fun ix => ix.amount.toNat)).sum = c.amount.toNat →
      ∀ (ix : Src.CreateEscrow K) (l : Chain K), ix.order = address →
        Src.createEscrow env s.clock ix s.ledger ≠ .ok l) := by
  have filled := trace.filled created
  have filling := filled.filling multi
  obtain ⟨_, l, l', ran⟩ := trace.creation_ran created
  obtain ⟨_, _, _, steps⟩ := Src.create_steps ran
  have many : 1 < c.parts := steps.parts multi
  have some : 0 < c.parts := by omega
  rw [← trace.fillCalls_eq address]
  refine ⟨many, (Src.create_order ran).2, ?_, ⟨_, filled.indices multi, ?_, ?_⟩, ?_, ?_⟩
  · intro ix member
    obtain ⟨f, inFills, rfl⟩ := List.mem_map.mp member
    exact filling.amounts_pos _ (List.mem_map_of_mem inFills)
  · exact filling.indices_increase
  · intro i member
    obtain ⟨fill, inFills, rfl⟩ := List.mem_map.mp member
    exact filling.index_le some fill inFills
  · have bound := filling.length_le some
    rw [List.length_map] at bound
    rw [List.length_map]
    exact bound
  · intro all ix l named
    rw [← filled.filledAmount_eq] at all
    exact trace.filled_up created all named

def Sample.threeFills : Sample.Scenario
    (fun r => (creationOf (Sample.orderAt Sample.multiple) r.history).any
        (fun c => c.1.allowMultipleFills && decide (c.1.parts = 2)) = true ∧
      (fillCalls (Sample.orderAt Sample.multiple) r.history).length = 3) where
  commands := Sample.multipleFills (([300, 400, 300] : List U64).zip Sample.proofs)

/-- Three fills of the sample order in two parts, which complete it. -/
theorem Trace.secrets_used_once_sample : ∃ (h : History Term) (s : State Term)
    (c : Src.Create Term), Trace Sample.env h s ∧
      (fillCalls (Sample.orderAt Sample.multiple) h).length = 3 ∧
      (fillCalls (Sample.orderAt Sample.multiple) h).length ≤ c.parts + 1 ∧ c.parts = 2 := by
  obtain ⟨r, trace, created, length⟩ := Sample.threeFills.reached
  obtain ⟨⟨c, clock⟩, found, checks⟩ := (Option.any_eq_true _ _).mp created
  simp only [Bool.and_eq_true, decide_eq_true_eq] at checks
  have holds := trace.secrets_used_once found checks.1
  exact ⟨r.history, r.state, c, trace, length, holds.2.2.2.2.1, checks.2⟩

end CrossChainEscrow.Source
