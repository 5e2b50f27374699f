import CrossChainEscrow.Effects.PartialFill
import CrossChainEscrow.Invariants.Placement

/-!
# Orders and their fills over a run

An order instance is the creation last run at an address together with the fills
since. `Filled` says of a list of fills that each was accepted on the order the
creation wrote, with what the earlier fills left; `Tracked` ties a live order to
its instance. Both hold in every run, so what follows about fills is a fact about
lists of fills and needs no ledger.
-/

namespace CrossChainEscrow.Source
open Library.Words Library.Bytes Library.Accounts

variable {K : Type} [DecidableEq K]

/-! ## Instances -/

/-- A successful `create_escrow`: the order as it stood and the escrow it left. -/
structure Fill (K : Type) where
  ix : Src.CreateEscrow K
  clock : Clock
  order : Order K
  escrow : EscrowSrc K

def Event.fill (e : Event K) (ix : Src.CreateEscrow K) : Option (Fill K) :=
  match e.pre.ledger.programAt ix.order, e.post.programAt ix.escrow with
  | some (.order order), some (.escrowSrc escrow) => some ⟨ix, e.pre.clock, order, escrow⟩
  | _, _ => none

/-- The last creation of an order at `address`, with its clock. -/
def creationOf (address : K) : History K → Option (Src.Create K × Clock)
  | [] => none
  | e :: h =>
    match e.ix with
    | .src (.create ix) => if ix.order = address then some (ix, e.pre.clock) else creationOf address h
    | _ => creationOf address h

/-- The fills of the order at `address` since it was last created, the newest
first. -/
def fillsOf (address : K) : History K → List (Fill K)
  | [] => []
  | e :: h =>
    match e.ix with
    | .src (.create ix) => if ix.order = address then [] else fillsOf address h
    | .src (.createEscrow ix) =>
      if ix.order = address then (e.fill ix).toList ++ fillsOf address h else fillsOf address h
    | _ => fillsOf address h

/-- The successful `create_escrow` calls on the order at `address` since it was
last created, the newest first. -/
def fillCalls (address : K) : History K → List (Src.CreateEscrow K)
  | [] => []
  | e :: h =>
    match e.ix with
    | .src (.create ix) => if ix.order = address then [] else fillCalls address h
    | .src (.createEscrow ix) =>
      if ix.order = address then ix :: fillCalls address h else fillCalls address h
    | _ => fillCalls address h

/-- The sum of the amounts of the escrows that fills created. -/
def filledAmount (fills : List (Fill K)) : Nat :=
  (fills.map (fun f => f.escrow.amount.toNat)).sum

/-- The instruction creates or fills the order at `address`. -/
def Touches (address : K) : Instruction K → Prop
  | .src (.create ix) => ix.order = address
  | .src (.createEscrow ix) => ix.order = address
  | _ => False

theorem untouched {address : K} {e : Event K} (h : History K) (other : ¬ Touches address e.ix) :
    creationOf address (e :: h) = creationOf address h ∧
      fillsOf address (e :: h) = fillsOf address h := by
  obtain ⟨pre, ix, post⟩ := e
  cases ix with
  | whitelist ix => exact ⟨rfl, rfl⟩
  | dst ix => exact ⟨rfl, rfl⟩
  | src ix =>
    cases ix with
    | create ix =>
      have distinct : ¬ ix.order = address := other
      simp [creationOf, fillsOf, distinct]
    | createEscrow ix =>
      have distinct : ¬ ix.order = address := other
      simp [creationOf, fillsOf, distinct]
    | _ => exact ⟨rfl, rfl⟩

/-! ## Accepted fills -/

variable {env : Environment K}

/-- The order a creation writes, with `remainingAmount` left. -/
def Src.Create.orderWith (env : Environment K) (ix : Src.Create K) (clock : Clock)
    (remainingAmount : U64) : Order K :=
  { ix.newOrder env clock.unixTimestamp with remainingAmount }

/-- A fill that `create_escrow` accepted on the order that `c` created at
`clock`, after `filled` was filled. -/
structure Fill.Accepted (env : Environment K) (c : Src.Create K) (clock : Clock) (filled : Nat)
    (f : Fill K) : Prop where
  order : f.order = c.orderWith env clock f.order.remainingAmount
  named : f.ix.order = c.order
  rest : f.order.remainingAmount.toNat + filled = c.amount.toNat
  unfinished : 0 < f.order.remainingAmount.toNat
  ran : ∃ l l' v, Src.CreateEscrow.Steps env f.clock f.ix l v l' ∧ v.order = f.order ∧
    f.escrow = f.ix.newEscrow env v.order v.hashlock v.dstAmount f.clock.unixTimestamp

/-- A list of accepted fills of one order, the newest first. -/
inductive Filled (env : Environment K) (c : Src.Create K) (clock : Clock) : List (Fill K) → Prop
  | nil : Filled env c clock []
  | cons {fills : List (Fill K)} {f : Fill K} (earlier : Filled env c clock fills)
      (accepted : f.Accepted env c clock (filledAmount fills)) : Filled env c clock (f :: fills)

/-- The order at `address` belongs to the instance the history shows there. -/
structure Tracked (env : Environment K) (h : History K) (address : K) (order : Order K) : Prop where
  created : ∃ c clock, creationOf address h = some (c, clock) ∧
    order = c.orderWith env clock order.remainingAmount ∧ c.order = address
  accounted : order.remainingAmount.toNat + filledAmount (fillsOf address h) = order.amount.toNat
  unfinished : 0 < order.remainingAmount.toNat
  whole : order.allowMultipleFills = false → order.remainingAmount = order.amount

theorem Src.CreateEscrow.Steps.fill_eq {clock : Clock} {ix : Src.CreateEscrow K} {l l' : Chain K}
    {v : Src.CreateEscrow.Values K} (s : Src.CreateEscrow.Steps env clock ix l v l') :
    Event.fill ⟨⟨l, clock⟩, .src (.createEscrow ix), l'⟩ ix = some ⟨ix, clock, v.order,
      ix.newEscrow env v.order v.hashlock v.dstAmount clock.unixTimestamp⟩ := by
  have stored : l.programAt ix.order = some (.order v.order) :=
    Ledger.programAt_eq_some.mpr s.loaded
  simp only [Event.fill, stored, s.escrow_programAt]

/-- The instruction that last created an order ran successfully. -/
theorem Trace.creation_ran {h : History K} {s : State K} (trace : Trace env h s) {address : K}
    {c : Src.Create K} {clock : Clock} (found : creationOf address h = some (c, clock)) :
    c.order = address ∧ ∃ l l', Src.create env clock c l = .ok l' := by
  induction trace with
  | start _ => cases found
  | external _ _ _ _ ih => exact ih found
  | tick _ _ ih => exact ih found
  | @step h s ix l trace signed ran ih =>
    by_cases touched : Touches address ix
    · cases ix with
      | whitelist ix => exact touched.elim
      | dst ix => exact touched.elim
      | src ix =>
        cases ix with
        | create ix =>
          have same : ix.order = address := touched
          simp only [creationOf, same, if_true, Option.some.injEq, Prod.mk.injEq] at found
          obtain ⟨rfl, rfl⟩ := found
          exact ⟨same, _, _, ran⟩
        | createEscrow ix => exact ih found
        | _ => exact touched.elim
    · rw [(untouched h touched).1] at found
      exact ih found

theorem fillsOf_create {address : K} {e : Event K} {ix : Src.Create K} (h : History K)
    (is : e.ix = .src (.create ix)) (same : ix.order = address) :
    creationOf address (e :: h) = some (ix, e.pre.clock) ∧ fillsOf address (e :: h) = [] := by
  simp [creationOf, fillsOf, is, same]

theorem fillsOf_fill {address : K} {e : Event K} {ix : Src.CreateEscrow K} {f : Fill K}
    (h : History K) (is : e.ix = .src (.createEscrow ix)) (same : ix.order = address)
    (fill : e.fill ix = some f) :
    creationOf address (e :: h) = creationOf address h ∧
      fillsOf address (e :: h) = f :: fillsOf address h := by
  simp [creationOf, fillsOf, is, same, fill]

/-- Every successful call left a fill. -/
theorem Trace.fillCalls_eq {h : History K} {s : State K} (trace : Trace env h s) (address : K) :
    (fillsOf address h).map Fill.ix = fillCalls address h := by
  induction trace with
  | start _ => rfl
  | external _ _ _ _ ih => exact ih
  | tick _ _ ih => exact ih
  | @step h s ix l trace signed ran ih =>
    cases ix with
    | whitelist ix => exact ih
    | dst ix => exact ih
    | src ix =>
      cases ix with
      | create ix =>
        simp only [fillsOf, fillCalls]
        split
        · rfl
        · exact ih
      | createEscrow ix =>
        obtain ⟨v, steps⟩ := Src.createEscrow_steps ran
        simp only [fillsOf, fillCalls, steps.fill_eq]
        split
        · rw [← ih]
          rfl
        · exact ih
      | _ => exact ih

/-- The order `create` writes. -/
theorem Src.create_order {clock : Clock} {ix : Src.Create K} {l l' : Chain K}
    (ran : Src.create env clock ix l = .ok l') :
    l'.programAt ix.order = some (.order (ix.orderWith env clock ix.amount)) ∧ 0 < ix.amount.toNat := by
  obtain ⟨_, _, _, steps⟩ := Src.create_steps ran
  have positive := steps.positive.1
  refine ⟨?_, ?_⟩
  · rw [(Src.create_programAt ran).2, Function.update_self]
    rfl
  · apply Nat.pos_of_ne_zero
    intro zero
    exact positive (BitVec.eq_of_toNat_eq zero)

/-- What a fill leaves of an order whose instance is tracked. -/
theorem Tracked.counted {h : History K} {s : State K} {ix : Src.CreateEscrow K} {l : Chain K}
    {v : Src.CreateEscrow.Values K} {remainingAmount : U64}
    (tracked : Tracked env h ix.order v.order)
    (steps : Src.CreateEscrow.Steps env s.clock ix s.ledger v l) (continues : ¬ ix.Ends v.order)
    (sum : remainingAmount.toNat + ix.amount.toNat = v.order.remainingAmount.toNat) :
    Tracked env (⟨s, .src (.createEscrow ix), l⟩ :: h) ix.order
      { v.order with remainingAmount } := by
  obtain ⟨creation, fills⟩ := fillsOf_fill h rfl rfl steps.fill_eq
  obtain ⟨c, clock, found, same, named⟩ := tracked.created
  have accounted := tracked.accounted
  unfold Src.CreateEscrow.Ends at continues
  rw [not_or] at continues
  have differ : v.order.remainingAmount.toNat ≠ ix.amount.toNat := fun equal =>
    continues.2 (BitVec.eq_of_toNat_eq equal)
  refine ⟨⟨c, clock, creation.trans found, ?_, named⟩, ?_, ?_, fun single => absurd single continues.1⟩
  · rw [same]
    rfl
  · rw [fills, filledAmount, List.map_cons, List.sum_cons]
    change remainingAmount.toNat + (ix.amount.toNat + filledAmount _) = v.order.amount.toNat
    omega
  · change 0 < remainingAmount.toNat
    omega

/-- Every live order belongs to the instance its history shows. -/
theorem Trace.tracked {h : History K} {s : State K} (trace : Trace env h s) {address : K}
    {order : Order K} (held : s.ledger.programAt address = some (.order order)) :
    Tracked env h address order := by
  induction trace generalizing order with
  | start genesis =>
    rw [genesis.noPrograms] at held
    cases held
  | external _ _ _ owned ih =>
    rw [owned] at held
    exact ih held
  | tick _ _ ih => exact ih held
  | @step h s ix l trace signed ran ih =>
    by_cases touched : Touches address ix
    · cases ix with
      | whitelist ix => exact touched.elim
      | dst ix => exact touched.elim
      | src ix =>
        cases ix with
        | create ix =>
          obtain rfl : ix.order = address := touched
          obtain ⟨creation, fills⟩ := fillsOf_create (e := ⟨s, _, l⟩) h rfl rfl
          obtain ⟨written, positive⟩ := Src.create_order ran
          rw [written] at held
          obtain rfl : ix.orderWith env s.clock ix.amount = order := by
            simpa using held
          refine ⟨⟨ix, s.clock, creation, rfl, rfl⟩, ?_, positive, fun _ => rfl⟩
          rw [fills]
          rfl
        | createEscrow ix =>
          obtain rfl : ix.order = address := touched
          obtain ⟨v, steps⟩ := Src.createEscrow_steps ran
          obtain ⟨left, leaves, programs⟩ := steps.programAt
          rw [programs, Function.update_self] at held
          have before := ih (Ledger.programAt_eq_some.mpr steps.loaded)
          rcases leaves with ⟨_, rfl⟩ | ⟨continues, remaining, sum, rfl⟩
          · cases held
          · obtain rfl : { v.order with remainingAmount := remaining } = order := by
              simpa using held
            exact before.counted steps continues sum
        | _ => exact touched.elim
    · have same := untouched (e := ⟨s, ix, l⟩) h touched
      rcases Instruction.origin ran held with kept | new
      · have before := ih kept
        obtain ⟨c, clock, found, rest⟩ := before.created
        exact ⟨⟨c, clock, same.1.trans found, rest⟩, by rw [same.2]; exact before.accounted,
          before.unfinished, before.whole⟩
      · cases new with
        | order _ => exact absurd rfl touched
        | counted _ _ _ => exact absurd rfl touched

/-- In every run, the fills of an instance were all accepted on its order. -/
theorem Trace.filled {h : History K} {s : State K} (trace : Trace env h s) {address : K}
    {c : Src.Create K} {clock : Clock} (found : creationOf address h = some (c, clock)) :
    Filled env c clock (fillsOf address h) := by
  induction trace with
  | start _ => cases found
  | external _ _ _ _ ih => exact ih found
  | tick _ _ ih => exact ih found
  | @step h s ix l trace signed ran ih =>
    by_cases touched : Touches address ix
    · cases ix with
      | whitelist ix => exact touched.elim
      | dst ix => exact touched.elim
      | src ix =>
        cases ix with
        | create ix =>
          rw [(fillsOf_create (e := ⟨s, _, l⟩) h rfl touched).2]
          exact .nil
        | createEscrow ix =>
          obtain rfl : ix.order = address := touched
          obtain ⟨v, steps⟩ := Src.createEscrow_steps ran
          obtain ⟨creation, fills⟩ := fillsOf_fill h rfl rfl steps.fill_eq
          rw [creation] at found
          have tracked := trace.tracked (Ledger.programAt_eq_some.mpr steps.loaded)
          obtain ⟨c', clock', found', same, named⟩ := tracked.created
          rw [found] at found'
          obtain ⟨rfl, rfl⟩ : c = c' ∧ clock = clock' := by simpa using found'
          have accounted := tracked.accounted
          have amount : v.order.amount = c.amount := by
            rw [same]
            rfl
          rw [amount] at accounted
          rw [fills]
          exact .cons (ih found) ⟨same, named.symm, accounted, tracked.unfinished,
            _, _, v, steps, rfl, rfl⟩
        | _ => exact touched.elim
    · have same := untouched (e := ⟨s, ix, l⟩) h touched
      rw [same.1] at found
      rw [same.2]
      exact ih found

end CrossChainEscrow.Source
