import CrossChainEscrow.Library.CeilShares
import CrossChainEscrow.Library.Parts
import CrossChainEscrow.Source.PartialFill

/-!
# The index check and the amounts of a fill, read as arithmetic

`is_valid_partial_fill` computes the numbering rule of the parts library on
64-bit words; the destination amount is two ceiling divisions on 256-bit words.
Where the checked operators return, they return the mathematical values.
-/
namespace CrossChainEscrow.Source
open Library.Words Library.Bytes Library.Accounts Library.Parts

variable {making remaining order parts index : U64}

theorem calculatedIndex_ok {n total parts result : U64} :
    calculatedIndex n total parts = .ok result →
      0 < total.toNat ∧ result.toNat = n.toNat * parts.toNat / total.toNat := by
  intro h
  obtain ⟨scaled, product, quotient⟩ := bind_ok.mp h
  obtain ⟨positive, equal⟩ := dividedBy_ok.mp quotient
  rw [times_ok.mp product] at equal
  exact ⟨positive, equal⟩

/-- A fill that is neither the first nor the last must reach a new part. -/
theorem reachesNewIndex_ok {calculated : U64}
    (h : reachesNewIndex remaining order parts calculated = .ok true)
    (filled : Nat) (sum : filled + remaining.toNat = order.toNat) (some : 0 < filled) :
    calculated.toNat ≠ partOf order.toNat parts.toNat filled := by
  unfold reachesNewIndex at h
  split at h
  · obtain ⟨done, hdone, h⟩ := bind_ok.mp h
    obtain ⟨less, hless, h⟩ := bind_ok.mp h
    obtain ⟨previous, hprevious, h⟩ := bind_ok.mp h
    have differ : calculated ≠ previous := by simpa using (pure_ok.mp h).symm
    rw [minus_ok] at hdone hless
    obtain ⟨_, equal⟩ := calculatedIndex_ok hprevious
    have one : (1 : U64).toNat = 1 := by decide
    have lessFilled : less.toNat = filled - 1 := by omega
    intro same
    apply differ
    apply BitVec.eq_of_toNat_eq
    rw [same, equal, lessFilled]
    rfl
  · next whole =>
    have equal : order.toNat = remaining.toNat := by
      simpa using congrArg BitVec.toNat (not_not.mp whole)
    omega

/-- The steps that the check begins with: they do not overflow, and find the part of
the fill's last unit. -/
theorem lastPart_ok {done after less calculated : U64} (hdone : minus order remaining = .ok done)
    (hafter : plus done making = .ok after) (hless : minus after 1 = .ok less)
    (hcalculated : calculatedIndex less order parts = .ok calculated) {filled : Nat}
    (sum : filled + remaining.toNat = order.toNat) :
    0 < filled + making.toNat ∧ (filled + making.toNat - 1) * parts.toNat < 2 ^ 64 ∧
      calculated.toNat = partOf order.toNat parts.toNat (filled + making.toNat) := by
  have one : (1 : U64).toNat = 1 := by decide
  obtain ⟨scaled, product, _⟩ := bind_ok.mp hcalculated
  obtain ⟨_, reached⟩ := calculatedIndex_ok hcalculated
  have value := times_ok.mp product
  rw [minus_ok] at hdone hless
  rw [plus_ok] at hafter
  have lessAfter : less.toNat = filled + making.toNat - 1 := by omega
  rw [lessAfter] at reached value
  refine ⟨by omega, ?_, reached⟩
  rw [← value]
  exact scaled.isLt

/-- The index check is the numbering rule. -/
theorem isValidPartialFill_numbered
    (h : isValidPartialFill making remaining order parts index = .ok true)
    (fits : making.toNat ≤ remaining.toNat) (filled : Nat)
    (sum : filled + remaining.toNat = order.toNat) :
    Numbered order.toNat parts.toNat filled making.toNat index.toNat := by
  obtain ⟨done, hdone, h⟩ := bind_ok.mp h
  obtain ⟨after, hafter, h⟩ := bind_ok.mp h
  obtain ⟨less, hless, h⟩ := bind_ok.mp h
  obtain ⟨calculated, hcalculated, h⟩ := bind_ok.mp h
  have one : (1 : U64).toNat = 1 := by decide
  obtain ⟨positive, _, here⟩ := lastPart_ok hdone hafter hless hcalculated sum
  split at h
  · next completes =>
    obtain ⟨next, hnext, h⟩ := bind_ok.mp h
    rw [plus_ok] at hnext
    have same : next = index := by simpa using (pure_ok.mp h).symm
    have whole : filled + making.toNat = order.toNat := by
      rw [← completes]
      exact sum
    refine ⟨by omega, by omega, fun _ => ?_, fun short => by omega, fun short => by omega⟩
    rw [← same, hnext, here, whole, one]
  · next continues =>
    obtain ⟨fresh, hfresh, h⟩ := bind_ok.mp h
    have both : fresh = true ∧ calculated = index := by
      simpa using (pure_ok.mp h).symm
    obtain ⟨rfl, same⟩ := both
    have differ : remaining.toNat ≠ making.toNat := fun equal =>
      continues (BitVec.eq_of_toNat_eq equal)
    refine ⟨by omega, by omega, fun full => by omega, fun _ => ?_, fun _ some => ?_⟩
    · rw [← same, here]
    · rw [← same]
      exact reachesNewIndex_ok hfresh filled sum some

/-! ## Where the check does not overflow -/

theorem calculatedIndex_some (n total parts : U64) (positive : 0 < total.toNat)
    (fits : n.toNat * parts.toNat < 2 ^ 64) :
    ∃ result, calculatedIndex n total parts = .ok result ∧
      result.toNat = n.toNat * parts.toNat / total.toNat := by
  obtain ⟨scaled, product, value⟩ := times_some fits
  obtain ⟨result, quotient, equal⟩ := dividedBy_some (a := scaled) positive
  refine ⟨result, bind_ok.mpr ⟨scaled, product, quotient⟩, ?_⟩
  rw [equal, value]

theorem reachesNewIndex_some (calculated parts : U64) {filled : Nat}
    (sum : filled + remaining.toNat = order.toNat) (positive : 0 < order.toNat)
    (fits : (filled - 1) * parts.toNat < 2 ^ 64) :
    ∃ fresh, reachesNewIndex remaining order parts calculated = .ok fresh ∧
      (fresh = true ↔ (0 < filled → calculated.toNat ≠ partOf order.toNat parts.toNat filled)) := by
  have one : (1 : U64).toNat = 1 := by decide
  unfold reachesNewIndex
  by_cases whole : order = remaining
  · refine ⟨true, if_neg (not_not.mpr whole), ?_⟩
    have none : filled = 0 := by
      rw [whole] at sum
      omega
    simp [none]
  · rw [if_pos whole]
    have some : 0 < filled := by
      apply Nat.pos_of_ne_zero
      intro none
      exact whole (BitVec.eq_of_toNat_eq (by omega))
    obtain ⟨done, hdone, doneValue⟩ := minus_some (a := order) (b := remaining) (by omega)
    obtain ⟨less, hless, lessValue⟩ := minus_some (a := done) (b := 1) (by omega)
    have lessFilled : less.toNat = filled - 1 := by omega
    obtain ⟨previous, hprevious, previousValue⟩ := calculatedIndex_some less order
      parts positive (by rw [lessFilled]; exact fits)
    refine ⟨decide (calculated ≠ previous), ?_, ?_⟩
    · simp only [bind_ok]
      exact ⟨done, hdone, less, hless, previous, hprevious, rfl⟩
    · have before : previous.toNat = partOf order.toNat parts.toNat filled := by
        rw [previousValue, lessFilled]
        rfl
      rw [decide_eq_true_eq, ← before]
      constructor
      · intro differ _ same
        exact differ (BitVec.eq_of_toNat_eq same)
      · intro differ same
        exact differ some (congrArg BitVec.toNat same)

/-- The steps that the check and the maker's rule have in common: the part of the
fill's last unit. -/
theorem lastPart_some {filled : Nat} (sum : filled + remaining.toNat = order.toNat)
    (fits : making.toNat ≤ remaining.toNat) (positive : 0 < filled + making.toNat)
    (small : (filled + making.toNat - 1) * parts.toNat < 2 ^ 64) :
    ∃ done after less calculated, minus order remaining = .ok done ∧
      plus done making = .ok after ∧ minus after 1 = .ok less ∧
      calculatedIndex less order parts = .ok calculated ∧
      calculated.toNat = partOf order.toNat parts.toNat (filled + making.toNat) := by
  have one : (1 : U64).toNat = 1 := by decide
  have bound := order.isLt
  obtain ⟨done, hdone, doneValue⟩ := minus_some (a := order) (b := remaining) (by omega)
  obtain ⟨after, hafter, afterValue⟩ := plus_some (a := done) (b := making) (by omega)
  obtain ⟨less, hless, lessValue⟩ := minus_some (a := after) (b := 1) (by omega)
  have lessAfter : less.toNat = filled + making.toNat - 1 := by omega
  obtain ⟨calculated, hcalculated, calculatedValue⟩ := calculatedIndex_some less
    order parts (by omega) (by rw [lessAfter]; exact small)
  refine ⟨done, after, less, calculated, hdone, hafter, hless, hcalculated, ?_⟩
  rw [calculatedValue, lessAfter]
  rfl

/-- Where the product fits a word, the check returns whether the fill is numbered. -/
theorem isValidPartialFill_some {filled : Nat} (index : U64)
    (sum : filled + remaining.toNat = order.toNat) (fits : making.toNat ≤ remaining.toNat)
    (positive : 0 < filled + making.toNat)
    (small : (filled + making.toNat - 1) * parts.toNat < 2 ^ 64) :
    ∃ valid, isValidPartialFill making remaining order parts index = .ok valid ∧
      (valid = true ↔ Numbered order.toNat parts.toNat filled making.toNat index.toNat) := by
  have one : (1 : U64).toNat = 1 := by decide
  obtain ⟨done, after, less, calculated, hdone, hafter, hless, hcalculated, here⟩ :=
    lastPart_some sum fits positive small
  have unfolded (valid : Bool) : isValidPartialFill making remaining order parts index = .ok valid ↔
      (if remaining = making then do
        let completing ← plus calculated 1
        pure (decide (completing = index))
      else do
        let fresh ← reachesNewIndex remaining order parts calculated
        pure (fresh && decide (calculated = index)) : Result Bool) = .ok valid := by
    simp only [isValidPartialFill, hdone, hafter, hless, hcalculated, bind, Except.bind]
  by_cases completes : remaining = making
  · have full : filled + making.toNat = order.toNat := by
      rw [← completes]
      exact sum
    rw [full] at here
    have room : calculated.toNat + (1 : U64).toNat < 2 ^ 64 := by
      rcases Nat.eq_zero_or_pos parts.toNat with none | some
      · rw [here, partOf, none, Nat.mul_zero, Nat.zero_div]
        decide
      · have last : partOf order.toNat parts.toNat order.toNat < parts.toNat :=
          partOf_lt (by omega) (Nat.le_refl _) some
        have width := parts.isLt
        omega
    obtain ⟨next, hnext, nextValue⟩ := plus_some room
    refine ⟨decide (next = index), ?_, ?_⟩
    · rw [unfolded, if_pos completes, bind_ok]
      exact ⟨next, hnext, rfl⟩
    · rw [decide_eq_true_eq, numbered_completing (by omega) full]
      constructor
      · intro same
        rw [← same]
        omega
      · intro same
        exact BitVec.eq_of_toNat_eq (by omega)
  · have short : filled + making.toNat < order.toNat := by
      have differ : remaining.toNat ≠ making.toNat := fun equal =>
        completes (BitVec.eq_of_toNat_eq equal)
      omega
    have fewer : (filled - 1) * parts.toNat < 2 ^ 64 :=
      Nat.lt_of_le_of_lt (Nat.mul_le_mul_right _ (by omega)) small
    obtain ⟨fresh, hfresh, freshValue⟩ := reachesNewIndex_some calculated parts
      sum (by omega) fewer
    refine ⟨fresh && decide (calculated = index), ?_, ?_⟩
    · rw [unfolded, if_neg completes, bind_ok]
      exact ⟨fresh, hfresh, rfl⟩
    · rw [Bool.and_eq_true, decide_eq_true_eq, freshValue]
      constructor
      · rintro ⟨moved, rfl⟩
        exact ⟨positive, by omega, fun full => by omega, fun _ => here, fun _ some => moved some⟩
      · intro numbered
        have same := numbered.inside short
        refine ⟨fun some => ?_, BitVec.eq_of_toNat_eq (here.trans same.symm)⟩
        rw [here, ← same]
        exact numbered.later short some

/-- Where the product fits a word, the maker's rule gives the last index to a
completing fill and the part of its last unit to any other. -/
theorem getIndexForEscrowAmount_ok {filled : Nat} (index : U64)
    (sum : filled + remaining.toNat = order.toNat)
    (fits : making.toNat ≤ remaining.toNat) (positive : 0 < making.toNat)
    (small : (filled + making.toNat - 1) * parts.toNat < 2 ^ 64) :
    getIndexForEscrowAmount order remaining parts making = .ok index ↔
      index.toNat = if making.toNat = remaining.toNat then parts.toNat
        else partOf order.toNat parts.toNat (filled + making.toNat) := by
  unfold getIndexForEscrowAmount
  by_cases completes : making = remaining
  · rw [if_pos completes, if_pos (congrArg BitVec.toNat completes), pure_ok]
    exact ⟨congrArg _, BitVec.eq_of_toNat_eq⟩
  · have differ : making.toNat ≠ remaining.toNat := fun equal =>
      completes (BitVec.eq_of_toNat_eq equal)
    obtain ⟨done, after, less, calculated, hdone, hafter, hless, hcalculated, here⟩ :=
      lastPart_some sum fits (by omega) small
    rw [if_neg completes, if_neg differ, ← here]
    simp only [hdone, hafter, hless, hcalculated, bind, Except.bind, Except.ok.injEq]
    exact ⟨fun same => congrArg _ same.symm, fun same => (BitVec.eq_of_toNat_eq same).symm⟩

/-- A check that returns did not overflow. -/
theorem isValidPartialFill_fits {valid : Bool} {filled : Nat}
    (sum : filled + remaining.toNat = order.toNat)
    (h : isValidPartialFill making remaining order parts index = .ok valid) :
    (filled + making.toNat - 1) * parts.toNat < 2 ^ 64 := by
  obtain ⟨done, hdone, h⟩ := bind_ok.mp h
  obtain ⟨after, hafter, h⟩ := bind_ok.mp h
  obtain ⟨less, hless, h⟩ := bind_ok.mp h
  obtain ⟨calculated, hcalculated, h⟩ := bind_ok.mp h
  exact (lastPart_ok hdone hafter hless hcalculated sum).2.1

/-! ## The destination amount -/

theorem toNat_setWidth_256 (x : U64) : (x.setWidth 256).toNat = x.toNat := by
  have bound := x.isLt
  exact (BitVec.toNat_setWidth ..).trans (Nat.mod_eq_of_lt (by omega))

theorem base1e7_toNat : base1e7.toNat = 10000000 := by decide

/-- A ceiling division on words, written as in the source. -/
theorem ceilDiv_words {w : Nat} {n d padding padded result : BitVec w}
    (less : padding.toNat + 1 = d.toNat) (add : padded.toNat = n.toNat + padding.toNat)
    (divide : 0 < d.toNat ∧ result.toNat = padded.toNat / d.toNat) :
    result.toNat = n.toNat ⌈/⌉ d.toNat := by
  rw [divide.2, add, Nat.ceilDiv_eq_add_pred_div]
  congr 1
  omega

theorem shareOfDstAmount_ok {dstAmount share : Limbs} {amount orderAmount : U64}
    (h : shareOfDstAmount dstAmount amount orderAmount = .ok share) :
    0 < orderAmount.toNat ∧ share.toU256.toNat =
      (dstAmount.toU256.toNat * amount.toNat) ⌈/⌉ orderAmount.toNat := by
  obtain ⟨product, multiplied, h⟩ := bind_ok.mp h
  obtain ⟨less, subtracted, h⟩ := bind_ok.mp h
  obtain ⟨padded, added, h⟩ := bind_ok.mp h
  obtain ⟨quotient, divided, h⟩ := bind_ok.mp h
  rw [orFault_ok, checkedMul_eq_some, toNat_setWidth_256] at multiplied
  rw [minus_ok] at subtracted
  rw [orFault_ok, checkedAdd_eq_some] at added
  rw [orFault_ok, checkedDiv_eq_some] at divided
  have one : (1 : U64).toNat = 1 := by decide
  have lessOne : (less.setWidth 256).toNat + 1 = (orderAmount.setWidth 256).toNat := by
    rw [toNat_setWidth_256, toNat_setWidth_256]
    omega
  have rounded := ceilDiv_words lessOne added divided
  have positive := divided.1
  rw [toNat_setWidth_256] at rounded positive
  rw [pure_ok.mp h, Limbs.toU256_ofU256, rounded, multiplied]
  exact ⟨positive, rfl⟩

theorem getDstAmount_ok {clock : Clock} {dstAmount result : Limbs} {data : AuctionData}
    (h : getDstAmount clock dstAmount data = .ok result) :
    ∃ bump, calculateRateBump clock.asU64 data = .ok bump ∧ result.toU256.toNat =
      (dstAmount.toU256.toNat * (10000000 + bump.toNat)) ⌈/⌉ 10000000 := by
  obtain ⟨bump, computed, h⟩ := bind_ok.mp h
  obtain ⟨multiplier, summed, h⟩ := bind_ok.mp h
  obtain ⟨scaled, multiplied, h⟩ := bind_ok.mp h
  obtain ⟨padded, added, h⟩ := bind_ok.mp h
  obtain ⟨quotient, divided, h⟩ := bind_ok.mp h
  rw [plus_ok, base1e7_toNat] at summed
  rw [orFault_ok, checkedMul_eq_some, toNat_setWidth_256, summed] at multiplied
  rw [orFault_ok, checkedAdd_eq_some] at added
  rw [orFault_ok, checkedDiv_eq_some] at divided
  have less : ((base1e7 - 1).setWidth 256).toNat + 1 = (base1e7.setWidth 256).toNat := by decide
  have rounded := ceilDiv_words less added divided
  rw [toNat_setWidth_256, base1e7_toNat, multiplied] at rounded
  refine ⟨bump, computed, ?_⟩
  rw [pure_ok.mp h, Limbs.toU256_ofU256, rounded]

/-! ## The hashlock and proof of a fill -/

variable {K : Type} {env : Environment K}

theorem acceptedHashlock_some {order : Order K} {amount : U64} {proof : MerkleProof}
    {hashlock : Bytes32} (h : acceptedHashlock env order amount (some proof) = .ok hashlock) :
    (proof.processProof env).1.drop 2 = order.hashlock.1.drop 2 ∧
      isValidPartialFill amount order.remainingAmount order.amount
        ((u16FromBeBytes order.hashlock).setWidth 64) proof.index = .ok true ∧
      hashlock = proof.hashedSecret := by
  simp only [acceptedHashlock, bind_ok, requireThat_ok, pure_ok, exists_const] at h
  obtain ⟨root, valid, accepted, rfl, same⟩ := h
  exact ⟨root, accepted, same⟩

theorem requireFillAmount_ok {order : Order K} {amount : U64} {done : Unit} :
    requireFillAmount order amount = .ok done ↔
      (order.allowMultipleFills = true ∧ amount ≤ order.remainingAmount) ∨
      (order.allowMultipleFills = false ∧ amount = order.amount) := requireThat_ok

end CrossChainEscrow.Source
