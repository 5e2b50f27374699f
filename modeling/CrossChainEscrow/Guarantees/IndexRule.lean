import CrossChainEscrow.Guarantees.PartialFills

/-!
# Which secret a fill has to use

The index check of a fill against the rule by which makers hand out secrets, and
whether an order in parts can be completed at all. The check multiplies amounts
by the number of parts in 64 bits, which creation does not bound, and it counts
the completing index from the part of the last unit, which is the last part only
when there are as many units as parts.
-/

namespace CrossChainEscrow.Source
open Library.Words Library.Bytes Library.Accounts Library.Parts

variable {K : Type} [DecidableEq K] {env : Environment K} {h : History K} {s : State K} {a : K}
  {order : Order K}

/-- The number of parts as `create_escrow` passes it to the index check. -/
def Order.parts (order : Order K) : U64 := (u16FromBeBytes order.hashlock).setWidth 64

/-- A live order in parts has more than one part and some of its amount left. -/
theorem Trace.order_in_parts (trace : Trace env h s)
    (live : s.ledger.programAt a = some (.order order)) (multi : order.allowMultipleFills = true) :
    1 < order.parts.toNat ∧ 0 < order.remainingAmount.toNat ∧
      order.remainingAmount.toNat ≤ order.amount.toNat ∧
      ∃ c clock, creationOf a h = some (c, clock) ∧ c.allowMultipleFills = true ∧
        c.parts = order.parts.toNat ∧ c.amount = order.amount ∧
        order.remainingAmount.toNat + filledAmount (fillsOf a h) = c.amount.toNat := by
  have tracked := trace.tracked live
  obtain ⟨c, clock, created, same, _⟩ := tracked.created
  have accounted := tracked.accounted
  have amounts : order.amount = c.amount := by rw [same]; rfl
  have many : c.allowMultipleFills = true := by
    rw [same] at multi
    exact multi
  have parts : c.parts = order.parts.toNat := by
    rw [same]
    have small := (u16FromBeBytes c.hashlock).isLt
    exact ((BitVec.toNat_setWidth ..).trans (Nat.mod_eq_of_lt (by omega))).symm
  obtain ⟨_, l, l', ran⟩ := trace.creation_ran created
  obtain ⟨_, _, _, steps⟩ := Src.create_steps ran
  have several : 1 < c.parts := steps.parts many
  refine ⟨parts ▸ several, tracked.unfinished, by omega, c, clock, created, many, parts,
    amounts.symm, ?_⟩
  rw [← amounts]
  exact accounted

/-- For every live order in parts, after any fills: the check of a fill of
everything that remains returns for every index, and accepts exactly one, greater
than the indices of all fills before, if and only if its product fits 64 bits. -/
theorem Trace.completable_iff (trace : Trace env h s)
    (live : s.ledger.programAt a = some (.order order)) (multi : order.allowMultipleFills = true) :
    ((∀ k, ∃ valid, isValidPartialFill order.remainingAmount order.remainingAmount order.amount
        order.parts k = .ok valid) ∧
      ∃ k, isValidPartialFill order.remainingAmount order.remainingAmount order.amount
          order.parts k = .ok true ∧
        (∀ k', isValidPartialFill order.remainingAmount order.remainingAmount order.amount
          order.parts k' = .ok true → k' = k) ∧
        ∀ ix ∈ fillCalls a h, ∀ i, ix.index = some i → i < k.toNat) ↔
    (order.amount.toNat - 1) * order.parts.toNat < 2 ^ 64 := by
  obtain ⟨several, unfinished, within, c, clock, created, many, parts, amounts, accounted⟩ :=
    trace.order_in_parts live multi
  have sum : filledAmount (fillsOf a h) + order.remainingAmount.toNat = order.amount.toNat := by
    rw [← amounts]
    omega
  constructor
  · intro holds
    obtain ⟨valid, computed⟩ := holds.1 0
    have fits := isValidPartialFill_fits sum computed
    rw [sum] at fits
    exact fits
  · intro small
    have valid (k : U64) := isValidPartialFill_some k sum (Nat.le_refl _) (by omega)
      (by rw [sum]; exact small)
    have last : partOf order.amount.toNat order.parts.toNat order.amount.toNat <
        order.parts.toNat := partOf_lt (by omega) (Nat.le_refl _) (by omega)
    have width := order.parts.isLt
    -- the index after the part of the last unit
    obtain ⟨k, value⟩ : ∃ k : U64, k.toNat =
        partOf order.amount.toNat order.parts.toNat order.amount.toNat + 1 :=
      ⟨BitVec.ofNat 64 _, Nat.mod_eq_of_lt (by omega)⟩
    have accepted (k' : U64) : isValidPartialFill order.remainingAmount order.remainingAmount
        order.amount order.parts k' = .ok true ↔ k'.toNat = k.toNat := by
      obtain ⟨result, computed, numbered⟩ := valid k'
      rw [computed, value, ← numbered_completing (by omega) sum, ← numbered, Except.ok.injEq]
    refine ⟨fun k' => (valid k').imp (fun _ h => h.1), k, (accepted k).mpr rfl, fun k' same =>
      BitVec.eq_of_toNat_eq ((accepted k').mp same), fun ix member i given => ?_⟩
    -- completing now would be one more step of the filling
    have filled := trace.filled created
    have filling := filled.filling many
    have amount : filledBy ((fillsOf a h).map Fill.numbered) = filledAmount (fillsOf a h) := by
      rw [filled.filledAmount_eq, filledBy, List.map_map, List.map_map]
      rfl
    have completing : Numbered c.amount.toNat c.parts (filledBy ((fillsOf a h).map Fill.numbered))
        order.remainingAmount.toNat k.toNat := by
      rw [amount, numbered_completing (by omega) (by omega), amounts, parts]
      exact value
    have next := Filling.cons filling (by omega) completing
    have listed : i ∈ ((fillsOf a h).map Fill.numbered).map Prod.snd := by
      have indices := filled.indices many
      rw [trace.fillCalls_eq a] at indices
      have inCalls : some i ∈ (fillCalls a h).map Src.CreateEscrow.index :=
        List.mem_map.mpr ⟨ix, member, given⟩
      rw [indices] at inCalls
      obtain ⟨j, inIndices, same⟩ := List.mem_map.mp inCalls
      exact Option.some.inj same ▸ inIndices
    have increase := next.indices_increase
    rw [List.map_cons, List.pairwise_cons] at increase
    exact increase.1 i listed

def Sample.hugeOrder : Sample.Scenario
    (fun r => ((r.state.ledger.programAt (Sample.orderAt Sample.huge)).bind Data.toOrder).any
      (fun o => decide (o.allowMultipleFills = true ∧ o.remainingAmount = o.amount ∧
        2 ^ 64 ≤ (o.amount.toNat - 1) * o.parts.toNat)) = true) where
  ledger := Sample.wealthy (2 ^ 50)
  genesis := Sample.genesis_wealthy (2 ^ 50)
  commands := [.wait 100, .call (.src (.create (Sample.create Sample.huge)))]

/-- An order of 2^50 units in 65535 parts, which creation accepts: the index check
of a completing fill returns for no index. -/
theorem Trace.completable_huge : ∃ (h : History Term) (s : State Term) (order : Order Term),
    Trace Sample.env h s ∧
      s.ledger.programAt (Sample.orderAt Sample.huge) = some (.order order) ∧
      order.allowMultipleFills = true ∧
      ∀ k valid, isValidPartialFill order.remainingAmount order.remainingAmount order.amount
        order.parts k ≠ .ok valid := by
  obtain ⟨r, trace, held⟩ := Sample.hugeOrder.reached
  obtain ⟨order, live, multi, whole, large⟩ := Sample.live_order held
  refine ⟨r.history, r.state, order, trace, live, multi, fun k valid computed => ?_⟩
  have fits := isValidPartialFill_fits (by rw [whole]; exact Nat.zero_add _) computed
  rw [whole, Nat.zero_add] at fits
  omega

def Sample.twoFills : Sample.Scenario
    (fun r => ((r.state.ledger.programAt (Sample.orderAt Sample.multiple)).bind
        Data.toOrder).any (fun o => decide (o.allowMultipleFills = true ∧
          (o.amount.toNat - 1) * o.parts.toNat < 2 ^ 64)) = true ∧
      (fillCalls (Sample.orderAt Sample.multiple) r.history).length = 2) where
  commands := Sample.multipleFills (([300, 400] : List U64).zip Sample.proofs)

/-- Two fills leave a part of the sample order, which the last index completes. -/
theorem Trace.completable_sample : ∃ (h : History Term) (order : Order Term) (k : U64),
    (fillCalls (Sample.orderAt Sample.multiple) h).length = 2 ∧
      isValidPartialFill order.remainingAmount order.remainingAmount order.amount order.parts k
        = .ok true ∧
      ∀ ix ∈ fillCalls (Sample.orderAt Sample.multiple) h, ∀ i, ix.index = some i →
        i < k.toNat := by
  obtain ⟨r, trace, held, length⟩ := Sample.twoFills.reached
  obtain ⟨order, live, multi, small⟩ := Sample.live_order held
  obtain ⟨_, k, accepted, _, fresh⟩ := (trace.completable_iff live multi).mpr small
  exact ⟨r.history, order, k, length, accepted, fresh⟩

/-- For every live order in parts and every fill of at least one and at most all
remaining units whose product fits 64 bits: the check accepts exactly the index
of the maker's rule, provided a fill that neither starts nor completes the order
ends in a later part than the one before it, if and only if the fill does not
complete the order or the order has a unit for each part. -/
theorem Trace.index_rule_iff (trace : Trace env h s)
    (live : s.ledger.programAt a = some (.order order)) (multi : order.allowMultipleFills = true)
    {m : U64} (positive : 1 ≤ m.toNat) (fits : m.toNat ≤ order.remainingAmount.toNat)
    (small : (order.amount.toNat - order.remainingAmount.toNat + m.toNat - 1) *
      order.parts.toNat < 2 ^ 64) :
    (∀ k, isValidPartialFill m order.remainingAmount order.amount order.parts k = .ok true ↔
      getIndexForEscrowAmount order.amount order.remainingAmount order.parts m = .ok k ∧
        (m.toNat < order.remainingAmount.toNat →
          order.remainingAmount.toNat < order.amount.toNat →
          partOf order.amount.toNat order.parts.toNat
              (order.amount.toNat - order.remainingAmount.toNat) <
            partOf order.amount.toNat order.parts.toNat
              (order.amount.toNat - order.remainingAmount.toNat + m.toNat))) ↔
    (m.toNat < order.remainingAmount.toNat ∨ order.parts.toNat ≤ order.amount.toNat) := by
  obtain ⟨several, unfinished, within, _⟩ := trace.order_in_parts live multi
  obtain ⟨filled, done⟩ : ∃ filled, filled = order.amount.toNat - order.remainingAmount.toNat :=
    ⟨_, rfl⟩
  have sum : filled + order.remainingAmount.toNat = order.amount.toNat := by omega
  rw [← done] at small ⊢
  have accepted (k : U64) : isValidPartialFill m order.remainingAmount order.amount order.parts k
      = .ok true ↔ Numbered order.amount.toNat order.parts.toNat filled m.toNat k.toNat := by
    obtain ⟨result, computed, numbered⟩ := isValidPartialFill_some k sum fits (by omega) small
    rw [computed, Except.ok.injEq, numbered]
  have rule (k : U64) := getIndexForEscrowAmount_ok k sum fits (by omega) small
  by_cases inside : m.toNat < order.remainingAmount.toNat
  · -- a fill that leaves something: the two rules are the same
    refine ⟨fun _ => Or.inl inside, fun _ k => ?_⟩
    rw [accepted, rule, numbered_inside (by omega) (by omega), if_neg (by omega)]
    constructor
    · rintro ⟨here, moved⟩
      exact ⟨here, fun _ began => moved (by omega)⟩
    · rintro ⟨here, moved⟩
      exact ⟨here, fun began => moved inside (by omega)⟩
  · -- a completing fill: the index after the part of the last unit, or the last index
    have whole : m.toNat = order.remainingAmount.toNat := by omega
    have both (k : U64) : (isValidPartialFill m order.remainingAmount order.amount order.parts k
        = .ok true ↔ k.toNat =
          partOf order.amount.toNat order.parts.toNat order.amount.toNat + 1) := by
      rw [accepted, numbered_completing (by omega) (by omega)]
    have total : partOf order.amount.toNat order.parts.toNat order.amount.toNat + 1 =
        order.parts.toNat ↔ order.parts.toNat ≤ order.amount.toNat :=
      partOf_total (by omega) (by omega)
    constructor
    · intro same
      refine Or.inr (total.mp ?_)
      have here := (same order.parts).mpr
        ⟨(rule order.parts).mpr (if_pos whole).symm, fun short => absurd short inside⟩
      exact ((both _).mp here).symm
    · intro enough k
      have last := total.mpr (enough.resolve_left inside)
      rw [both, rule, if_pos whole, last]
      exact ⟨fun same => ⟨same, fun short => absurd short inside⟩, fun both => both.1⟩

def Sample.tinyOrder : Sample.Scenario
    (fun r => ((r.state.ledger.programAt (Sample.orderAt Sample.tiny)).bind Data.toOrder).any
      (fun o => decide (o.allowMultipleFills = true ∧ o.remainingAmount = 1 ∧ o.amount = 1 ∧
        o.parts = 2)) = true) where
  commands := [.wait 100, .call (.src (.create (Sample.create Sample.tiny)))]

/-- An order of one unit in two parts, which creation accepts: the maker hands
out the last secret for its fill, and the check refuses it. -/
theorem Trace.index_rule_tiny : ∃ (h : History Term) (s : State Term) (order : Order Term),
    Trace Sample.env h s ∧
      s.ledger.programAt (Sample.orderAt Sample.tiny) = some (.order order) ∧
      order.allowMultipleFills = true ∧ order.remainingAmount = 1 ∧
      getIndexForEscrowAmount order.amount order.remainingAmount order.parts 1 = .ok 2 ∧
      isValidPartialFill 1 order.remainingAmount order.amount order.parts 2 = .ok false := by
  obtain ⟨r, trace, held⟩ := Sample.tinyOrder.reached
  obtain ⟨order, live, multi, left, amount, parts⟩ := Sample.live_order held
  refine ⟨r.history, r.state, order, trace, live, multi, left, ?_, ?_⟩
  · rw [left, amount, parts]
    rfl
  · rw [left, amount, parts]
    rfl

def Sample.oneFill : Sample.Scenario
    (fun r => ((r.state.ledger.programAt (Sample.orderAt Sample.multiple)).bind
        Data.toOrder).any (fun o => decide (o.allowMultipleFills = true ∧
          o.remainingAmount = 700 ∧ o.amount = 1000 ∧ o.parts = 2)) = true) where
  commands := Sample.multipleFills (([300] : List U64).zip Sample.proofs)

/-- The next fill of the sample order in parts, after one of 300 units. -/
theorem Trace.index_rule_sample : ∃ order : Order Term, order.remainingAmount = 700 ∧
    (isValidPartialFill 400 order.remainingAmount order.amount order.parts 1 = .ok true ↔
      getIndexForEscrowAmount order.amount order.remainingAmount order.parts 400 = .ok 1 ∧
        ((400 : U64).toNat < order.remainingAmount.toNat →
          order.remainingAmount.toNat < order.amount.toNat →
          partOf order.amount.toNat order.parts.toNat
              (order.amount.toNat - order.remainingAmount.toNat) <
            partOf order.amount.toNat order.parts.toNat
              (order.amount.toNat - order.remainingAmount.toNat + (400 : U64).toNat))) := by
  obtain ⟨r, trace, held⟩ := Sample.oneFill.reached
  obtain ⟨order, live, multi, left, amount, parts⟩ := Sample.live_order held
  refine ⟨order, left, (trace.index_rule_iff (m := 400) live multi (by decide) ?_ ?_).mpr ?_ 1⟩
  · rw [left]
    decide
  · rw [left, amount, parts]
    decide
  · rw [left]
    exact Or.inl (by decide)

end CrossChainEscrow.Source
