import CrossChainEscrow.Effects.Locality
import CrossChainEscrow.Library.Interleaving
import CrossChainEscrow.Source.Execution

/-!
# Instructions on other accounts do not matter

The accounts that a caller supplies are all that an instruction depends on, and those
declared writable are all that it changes. So the instructions of two parties that
write none of each other's accounts may run in any order: every interleaving succeeds
or fails as the one party's after the other's, and leaves the same ledger.
-/

namespace CrossChainEscrow.Source
open Library.Words Library.Bytes Library.Accounts Library.Steps

/-- An instruction and the clock it runs at. -/
structure Call (K : Type) where
  clock : Clock
  ix : Instruction K

variable {K : Type} [DecidableEq K] {env : Environment K} {clock : Clock} {l l' : Chain K}

def Call.run (env : Environment K) (call : Call K) (l : Chain K) : Result (Chain K) :=
  call.ix.run env call.clock l

/-- Neither instruction writes an account of the other. -/
structure Instruction.Apart (ix other : Instruction K) : Prop where
  left : ∀ k ∈ ix.writable, k ∉ other.accounts
  right : ∀ k ∈ other.writable, k ∉ ix.accounts

omit [DecidableEq K] in
theorem Instruction.Apart.symm {ix other : Instruction K} (apart : ix.Apart other) : other.Apart ix :=
  ⟨apart.right, apart.left⟩

/-- In any run of instructions, from any ledger, an account that none of them declares
writable keeps its data and its lamports. -/
theorem Call.run_touches {calls : List (Call K)} (ran : runAll (Call.run env) calls l = .ok l') {k : K}
    (unwritten : ∀ call ∈ calls, k ∉ call.ix.writable) :
    l'.data k = l.data k ∧ l'.lamports k = l.lamports k := by
  have kept : Footprint (· ≠ k) l l' := by
    refine runAll_induction Footprint.refl Footprint.trans (fun call member s t ran => ?_) ran
    have changed := Instruction.footprint ran
    have off := unwritten call member
    refine ⟨fun other notOther => ?_, fun other notOther => ?_⟩
    · rw [not_not.mp notOther]
      exact changed.data k off
    · rw [not_not.mp notOther]
      exact changed.lamports k off
  exact ⟨kept.data k (not_not.mpr rfl), kept.lamports k (not_not.mpr rfl)⟩

/-! ## Commutation -/

/-- Instructions that are apart commute, each at its own clock. -/
theorem Instruction.Apart.commutes {x y : Call K} (apart : x.ix.Apart y.ix) :
    Commutes (Call.run env) x y := by
  intro s t u first second
  have own : ∀ (ix : Instruction K) (k : K), k ∈ ix.writable → k ∈ ix.accounts :=
    fun ix k member => List.mem_append_left ix.readonly member
  exact Local.commute (Instruction.isLocal fun _ member => member)
    (Instruction.isLocal fun _ member => member) (fun _ _ => Instruction.footprint)
    (fun _ _ => Instruction.footprint) (own x.ix) (own y.ix)
    (fun k member written => apart.left k written member)
    (fun k member written => apart.right k written member) first second

/-- Every interleaving of the instructions of two parties, none of which writes an
account of one of the other party's, has the outcome of the one party's instructions
before the other's. -/
theorem Call.interleavings_agree {xs ys zs : List (Call K)} (merge : Interleaving xs ys zs)
    (apart : ∀ x ∈ xs, ∀ y ∈ ys, x.ix.Apart y.ix) :
    runAll (Call.run env) zs l = .ok l' ↔ runAll (Call.run env) (xs ++ ys) l = .ok l' := by
  apply merge.runAll_iff
  intro x left y right
  have independent := apart x left y right
  exact ⟨independent.commutes, independent.symm.commutes⟩

/-- The maker places the sample order and calls it off again. -/
def Sample.callsOff : List (Call Term) :=
  [⟨⟨100⟩, .src (.create (Sample.create Sample.single))⟩,
    ⟨⟨120⟩, .src (.cancelOrder
      { creator := Sample.maker, mint := Sample.usdc, order := Sample.orderAt Sample.single
        orderAta := Sample.associated (Sample.orderAt Sample.single)
        creatorAta := some (Sample.associated Sample.maker), tokenProgram := .token })⟩]

/-- Meanwhile the taker opens a destination escrow. -/
def Sample.opensEscrow : Call Term :=
  ⟨⟨110⟩, .dst (.create (Sample.createDst Sample.single (Sample.offsets 10 20 30 40 5 8 12) 2000000))⟩

/-- The taker's account is not among those that the maker's calls touch. -/
theorem Call.run_touches_sample : ∃ l : Chain Term,
    runAll (Call.run Sample.env) Sample.callsOff Sample.ledger = .ok l ∧
      l.data (Sample.associated Sample.taker) = Sample.ledger.data (Sample.associated Sample.taker) := by
  have runs : (runAll (Call.run Sample.env) Sample.callsOff Sample.ledger).toOption.isSome = true := by
    decide +kernel
  obtain ⟨l, ran⟩ := isSome_toOption runs
  refine ⟨l, ran, (Call.run_touches ran ?_).1⟩
  decide +kernel

/-- With the taker's call in between, the ledger is as if it came last. -/
theorem Call.interleavings_agree_sample : ∃ l : Chain Term,
    runAll (Call.run Sample.env) (Sample.callsOff ++ [Sample.opensEscrow]) Sample.ledger = .ok l ∧
      runAll (Call.run Sample.env)
        [Sample.callsOff[0], Sample.opensEscrow, Sample.callsOff[1]] Sample.ledger = .ok l := by
  have runs : (runAll (Call.run Sample.env) (Sample.callsOff ++ [Sample.opensEscrow])
      Sample.ledger).toOption.isSome = true := by
    decide +kernel
  obtain ⟨l, ran⟩ := isSome_toOption runs
  have apart : ∀ x ∈ Sample.callsOff, ∀ y ∈ [Sample.opensEscrow], x.ix.Apart y.ix := by
    have left : ∀ x ∈ Sample.callsOff, ∀ y ∈ [Sample.opensEscrow],
        ∀ k ∈ x.ix.writable, k ∉ y.ix.accounts := by decide +kernel
    have right : ∀ x ∈ Sample.callsOff, ∀ y ∈ [Sample.opensEscrow],
        ∀ k ∈ y.ix.writable, k ∉ x.ix.accounts := by decide +kernel
    exact fun x first y second => ⟨left x first y second, right x first y second⟩
  exact ⟨l, ran, (Call.interleavings_agree (.left _ (.right _ (.left _ .nil))) apart).mpr ran⟩

end CrossChainEscrow.Source
