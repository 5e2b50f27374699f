import CrossChainEscrow.Library.Polyline
import CrossChainEscrow.Source.Auction

/-!
# The rate bump and the premium are rounded lines

`calculate_rate_bump` never aborts: every value it computes stays far inside a
64-bit word, and it returns the course of the polyline library over the points of
the auction. The premium of a cancellation is a ramp, but its product may leave the
word. Serialized auction data determines the data.
-/
namespace CrossChainEscrow.Source
open Library.Words Library.Bytes Library.Accounts Library.Polyline

/-! ## Numbers and their sizes -/

theorem toNat_setWidth_64 {n : Nat} (x : BitVec n) (fits : n ≤ 64) :
    (x.setWidth 64).toNat = x.toNat := by
  have bound : 2 ^ n ≤ 2 ^ 64 := Nat.pow_le_pow_right (by decide) fits
  rw [BitVec.toNat_setWidth]
  exact Nat.mod_eq_of_lt (Nat.lt_of_lt_of_le x.isLt bound)

/-- The number that three bytes stand for, most significant first. -/
def U24.number (x : U24) : Nat := x.b0.val * 65536 + x.b1.val * 256 + x.b2.val

theorem U24.toU32_toNat (x : U24) : x.toU32.toNat = x.number := by
  have high := x.b0.isLt
  have middle := x.b1.isLt
  have low := x.b2.isLt
  have lower : x.b1.val <<< 8 ||| x.b2.val = x.b1.val * 2 ^ 8 + x.b2.val := by
    rw [← Nat.shiftLeft_add_eq_or_of_lt low, Nat.shiftLeft_eq]
  have whole : x.b0.val <<< 16 ||| (x.b1.val * 2 ^ 8 + x.b2.val) =
      x.b0.val * 2 ^ 16 + (x.b1.val * 2 ^ 8 + x.b2.val) := by
    have fits : x.b1.val * 2 ^ 8 + x.b2.val < 2 ^ 16 := by omega
    rw [← Nat.shiftLeft_add_eq_or_of_lt fits, Nat.shiftLeft_eq]
  have inWord {n s : Nat} (small : n < 256) (few : s ≤ 16) : n <<< s % 2 ^ 32 = n <<< s := by
    apply Nat.mod_eq_of_lt
    rw [Nat.shiftLeft_eq]
    calc n * 2 ^ s ≤ 255 * 2 ^ 16 :=
          Nat.mul_le_mul (by omega) (Nat.pow_le_pow_right (by decide) few)
      _ < 2 ^ 32 := by decide
  have word {n : Nat} (small : n < 256) : n % 2 ^ 32 = n := Nat.mod_eq_of_lt (by omega)
  simp only [U24.toU32, BitVec.toNat_or, BitVec.toNat_shiftLeft, BitVec.toNat_ofNat, word high,
    word middle, word low]
  rw [inWord high (by decide), inWord middle (by decide), Nat.lor_assoc, lower, whole, U24.number]
  omega

theorem U24.toU64_toNat (x : U24) : x.toU64.toNat = x.number := by
  rw [U24.toU64, toNat_setWidth_64 x.toU32 (by decide), U24.toU32_toNat]

theorem U24.toU64_lt (x : U24) : x.toU64.toNat < 2 ^ 24 := by
  have high := x.b0.isLt
  have middle := x.b1.isLt
  have low := x.b2.isLt
  rw [U24.toU64_toNat, U24.number]
  omega

/-! ## The value at a time -/

/-- A point as the polyline library takes it. -/
def PointAndTimeDelta.vertex (point : PointAndTimeDelta) : Nat × Nat :=
  (point.rateBump.toU64.toNat, point.timeDelta.toNat)

theorem interpolate_some (t start next value bump delta : U64) (elapsed : start.toNat ≤ t.toNat)
    (left : t.toNat ≤ next.toNat) (span : next.toNat = start.toNat + delta.toNat)
    (some : 0 < delta.toNat) (short : delta.toNat < 2 ^ 16) (valueSmall : value.toNat < 2 ^ 24)
    (bumpSmall : bump.toNat < 2 ^ 24) :
    ∃ r, interpolate t start next value bump delta = .ok r ∧
      r.toNat = between (t.toNat - start.toNat) (next.toNat - t.toNat) value.toNat bump.toNat := by
  have product {n m : Nat} (few : n < 2 ^ 16) (small : m < 2 ^ 24) : n * m < 2 ^ 40 := by
    calc n * m < 2 ^ 16 * 2 ^ 24 := Nat.mul_lt_mul'' few small
      _ = 2 ^ 40 := by decide
  obtain ⟨gone, hgone, goneValue⟩ := minus_some (a := t) (b := start) elapsed
  have rises := product (n := gone.toNat) (by omega) bumpSmall
  obtain ⟨rising, hrising, risingValue⟩ := times_some (a := gone) (b := bump) (by omega)
  obtain ⟨rest, hrest, restValue⟩ := minus_some (a := next) (b := t) left
  have falls := product (n := rest.toNat) (by omega) valueSmall
  obtain ⟨falling, hfalling, fallingValue⟩ := times_some (a := rest) (b := value) (by omega)
  obtain ⟨weighted, hweighted, weightedValue⟩ := plus_some (a := rising) (b := falling) (by omega)
  obtain ⟨r, hr, quotient⟩ := dividedBy_some (a := weighted) (b := delta) some
  refine ⟨r, ?_, ?_⟩
  · simp only [interpolate, bind_ok]
    exact ⟨gone, hgone, rising, hrising, rest, hrest, falling, hfalling, weighted, hweighted, hr⟩
  · rw [quotient, weightedValue, risingValue, fallingValue, goneValue, restValue, between]
    congr 1
    omega

theorem finalStretch_some {t finish value start : U64} (elapsed : start.toNat ≤ t.toNat)
    (running : t.toNat < finish.toNat) (near : finish.toNat < 2 ^ 33)
    (small : value.toNat < 2 ^ 24) :
    ∃ r, finalStretch t finish value start = .ok r ∧
      r.toNat = between (t.toNat - start.toNat) (finish.toNat - t.toNat) value.toNat 0 := by
  obtain ⟨left, hleft, leftValue⟩ := minus_some (a := finish) (b := t) (by omega)
  have fits : value.toNat * left.toNat < 2 ^ 64 := by
    calc value.toNat * left.toNat < 2 ^ 24 * 2 ^ 33 := Nat.mul_lt_mul'' small (by omega)
      _ < 2 ^ 64 := by decide
  obtain ⟨scaled, hscaled, scaledValue⟩ := times_some fits
  obtain ⟨span, hspan, spanValue⟩ := minus_some (a := finish) (b := start) (by omega)
  obtain ⟨r, hr, quotient⟩ := dividedBy_some (a := scaled) (b := span) (by omega)
  refine ⟨r, ?_, ?_⟩
  · simp only [finalStretch, bind_ok]
    exact ⟨left, hleft, scaled, hscaled, span, hspan, hr⟩
  · rw [quotient, scaledValue, leftValue, spanValue, between, Nat.mul_zero, Nat.zero_add,
      Nat.mul_comm]
    congr 1
    omega

/-- The loop returns the value of the line at the time. -/
theorem rateBumpLoop_some (t finish : U64) (points : List PointAndTimeDelta) (value start : U64)
    (began : start.toNat < t.toNat) (running : t.toNat < finish.toNat)
    (near : finish.toNat < 2 ^ 33) (small : value.toNat < 2 ^ 24) :
    ∃ r, rateBumpLoop t finish points value start = .ok r ∧
      r.toNat = valueAt finish.toNat t.toNat (points.map PointAndTimeDelta.vertex) value.toNat
        start.toNat := by
  induction points generalizing value start with
  | nil => exact finalStretch_some (by omega) running near small
  | cons point rest ih =>
    have short : point.timeDelta.toNat < 2 ^ 16 := point.timeDelta.isLt
    have delta := toNat_setWidth_64 point.timeDelta (by decide)
    have bumpSmall := point.rateBump.toU64_lt
    obtain ⟨next, hnext, nextValue⟩ :=
      plus_some (a := start) (b := point.timeDelta.setWidth 64) (by omega)
    rw [delta] at nextValue
    simp only [List.map_cons, PointAndTimeDelta.vertex, valueAt, rateBumpLoop, ← nextValue]
    by_cases here : t ≤ next
    · have hereValue : t.toNat ≤ next.toNat := here
      obtain ⟨r, hr, value⟩ := interpolate_some t start next value point.rateBump.toU64
        (point.timeDelta.setWidth 64)
        (by omega) hereValue (by omega) (by omega) (by omega) small bumpSmall
      refine ⟨r, ?_, ?_⟩
      · rw [bind_ok]
        exact ⟨next, hnext, by rw [if_pos here]; exact hr⟩
      · rw [if_pos hereValue]
        exact value
    · have hereValue : ¬ t.toNat ≤ next.toNat := here
      obtain ⟨r, hr, value⟩ := ih _ next (by omega) bumpSmall
      refine ⟨r, ?_, ?_⟩
      · rw [bind_ok]
        exact ⟨next, hnext, by rw [if_neg here]; exact hr⟩
      · rw [if_neg hereValue]
        exact value

/-- The course of an auction. -/
def AuctionData.course (data : AuctionData) (t : Nat) : Nat :=
  Library.Polyline.course data.startTime.toNat data.duration.toNat data.initialRateBump.toU64.toNat
    (data.pointsAndTimeDeltas.map PointAndTimeDelta.vertex) t

/-- `calculate_rate_bump` never aborts and returns the course of the auction. -/
theorem calculateRateBump_some (t : U64) (data : AuctionData) :
    ∃ r, calculateRateBump t data = .ok r ∧ r.toNat = data.course t.toNat := by
  have startValue := toNat_setWidth_64 data.startTime (by decide)
  have startSmall : data.startTime.toNat < 2 ^ 32 := data.startTime.isLt
  have lengthValue := toNat_setWidth_64 data.duration (by decide)
  have lengthSmall : data.duration.toNat < 2 ^ 32 := data.duration.isLt
  have small := data.initialRateBump.toU64_lt
  simp only [calculateRateBump, AuctionData.course, Library.Polyline.course, ← startValue, ← lengthValue]
  by_cases early : t ≤ data.startTime.setWidth 64
  · have earlyValue : t.toNat ≤ (data.startTime.setWidth 64).toNat := early
    exact ⟨_, if_pos early, (if_pos earlyValue).symm⟩
  · have earlyValue : ¬ t.toNat ≤ (data.startTime.setWidth 64).toNat := early
    obtain ⟨finish, hfinish, finishValue⟩ := plus_some (a := data.startTime.setWidth 64)
      (b := data.duration.setWidth 64) (by omega)
    rw [if_neg early, if_neg earlyValue, ← finishValue]
    by_cases ended : t ≥ finish
    · have endedValue : finish.toNat ≤ t.toNat := ended
      refine ⟨0, ?_, ?_⟩
      · rw [bind_ok]
        exact ⟨finish, hfinish, if_pos ended⟩
      · rw [if_pos endedValue]
        rfl
    · have endedValue : ¬ finish.toNat ≤ t.toNat := ended
      obtain ⟨r, hr, value⟩ := rateBumpLoop_some t finish data.pointsAndTimeDeltas
        data.initialRateBump.toU64 (data.startTime.setWidth 64) (by omega) (by omega) (by omega) small
      refine ⟨r, ?_, ?_⟩
      · rw [bind_ok]
        exact ⟨finish, hfinish, by rw [if_neg ended]; exact hr⟩
      · rw [if_neg endedValue]
        exact value

/-! ## The premium -/

/-- The product of the slope, where it is computed, stays inside a word. -/
def PremiumFits (now start duration : U32) (most : U64) : Prop :=
  now.toNat - start.toNat < duration.toNat →
    (now.toNat - start.toNat) * most.toNat < 2 ^ 64

/-- `calculate_premium` returns the ramp where its product fits. -/
theorem calculatePremium_ok {now start duration : U32} {most premium : U64} :
    calculatePremium now start duration most = .ok premium ↔
      PremiumFits now start duration most ∧
        premium.toNat = ramp start.toNat duration.toNat most.toNat now.toNat := by
  unfold calculatePremium PremiumFits ramp
  by_cases early : now ≤ start
  · have earlyValue : now.toNat ≤ start.toNat := early
    have nothing : now.toNat - start.toNat = 0 := by omega
    rw [if_pos early, if_pos earlyValue, nothing, Nat.zero_mul]
    constructor
    · intro zero
      rw [← Except.ok.inj zero]
      exact ⟨fun _ => by decide, rfl⟩
    · rintro ⟨_, zero⟩
      rw [BitVec.eq_of_toNat_eq (x := premium) (y := 0) zero]
  · have earlyValue : ¬ now.toNat ≤ start.toNat := early
    obtain ⟨elapsed, timed, value⟩ := minus_some (a := now) (b := start) (by omega)
    rw [if_neg early, if_neg earlyValue, ← value]
    have unwind {next : U32 → Result U64} :
        (minus now start >>= next) = .ok premium ↔ next elapsed = .ok premium := by
      rw [timed]
      rfl
    rw [unwind]
    by_cases ended : elapsed ≥ duration
    · have endedValue : duration.toNat ≤ elapsed.toNat := ended
      rw [if_pos ended, if_pos endedValue, Except.ok.injEq, eq_comm, ← BitVec.toNat_inj]
      exact ⟨fun same => ⟨fun running => by omega, same⟩, fun both => both.2⟩
    · have running : elapsed.toNat < duration.toNat := Nat.lt_of_not_le ended
      rw [if_neg ended, if_neg (Nat.not_le.mpr running)]
      have elapsedWide := toNat_setWidth_64 elapsed (by decide)
      have durationWide := toNat_setWidth_64 duration (by decide)
      simp only [bind_ok, times_ok, dividedBy_ok, elapsedWide, durationWide]
      constructor
      · rintro ⟨scaled, product, _, quotient⟩
        rw [product] at quotient
        exact ⟨fun _ => product ▸ scaled.isLt, quotient⟩
      · rintro ⟨fits, quotient⟩
        obtain ⟨scaled, _, product⟩ := times_some (a := elapsed.setWidth 64) (b := most)
          (by rw [elapsedWide]; exact fits running)
        rw [elapsedWide] at product
        exact ⟨scaled, product, by omega, by rw [product]; exact quotient⟩

/-- Where it is computed, the premium never falls. -/
theorem calculatePremium_mono {now later start duration : U32} {most premium premium' : U64}
    (ordered : now ≤ later) (first : calculatePremium now start duration most = .ok premium)
    (second : calculatePremium later start duration most = .ok premium') :
    premium ≤ premium' := by
  obtain ⟨_, value⟩ := calculatePremium_ok.mp first
  obtain ⟨_, value'⟩ := calculatePremium_ok.mp second
  change premium.toNat ≤ premium'.toNat
  rw [value, value']
  exact ramp_mono _ _ _ ordered

/-- A premium never exceeds the maximum the order allows. -/
theorem calculatePremium_le {now start duration : U32} {most premium : U64}
    (h : calculatePremium now start duration most = .ok premium) : premium.toNat ≤ most.toNat := by
  rw [(calculatePremium_ok.mp h).2]
  exact ramp_le _ _ _ _

/-! ## Serialized auction data -/

theorem U24.bytes_injective : Function.Injective U24.bytes := by
  intro x y same
  obtain ⟨b0, b1, b2⟩ := x
  obtain ⟨c0, c1, c2⟩ := y
  simpa [U24.bytes] using same

theorem PointAndTimeDelta.bytes_length (point : PointAndTimeDelta) : point.bytes.length = 5 := by
  simp [PointAndTimeDelta.bytes, U24.bytes]

theorem PointAndTimeDelta.bytes_injective : Function.Injective PointAndTimeDelta.bytes := by
  intro x y same
  obtain ⟨rates, deltas⟩ := List.append_inj same rfl
  obtain ⟨rate, delta⟩ := x
  rw [PointAndTimeDelta.mk.injEq]
  exact ⟨U24.bytes_injective rates, leBytes_word_inj (by decide) deltas⟩

/-- Points of one number are read back from their bytes. -/
theorem points_bytes_inj {xs ys : List PointAndTimeDelta} (lengths : xs.length = ys.length)
    (same : xs.flatMap PointAndTimeDelta.bytes = ys.flatMap PointAndTimeDelta.bytes) : xs = ys := by
  induction xs generalizing ys with
  | nil => exact (List.eq_nil_of_length_eq_zero lengths.symm).symm
  | cons x xs ih =>
    cases ys with
    | nil => cases lengths
    | cons y ys =>
      simp only [List.flatMap_cons] at same
      obtain ⟨first, rest⟩ := List.append_inj same
        (x.bytes_length.trans y.bytes_length.symm)
      rw [PointAndTimeDelta.bytes_injective first, ih (Nat.succ.inj lengths) rest]

/-- The bytes of auction data determine the data. -/
theorem AuctionData.tryToVec_inj {x y : AuctionData} {bytes : List Byte}
    (first : x.tryToVec = .ok bytes) (second : y.tryToVec = .ok bytes) : x = y := by
  obtain ⟨n, nLength, hx⟩ := bind_ok.mp first
  obtain ⟨m, mLength, hy⟩ := bind_ok.mp second
  have same := (pure_ok.mp hx).symm.trans (pure_ok.mp hy)
  obtain ⟨heads, points⟩ := List.append_inj same (by simp [U24.bytes])
  obtain ⟨heads, lengths⟩ := List.append_inj heads (by simp [U24.bytes])
  obtain ⟨heads, bumps⟩ := List.append_inj heads (by simp)
  obtain ⟨starts, durations⟩ := List.append_inj heads (by simp)
  have counts : n = m := leBytes_word_inj (by decide) lengths
  rw [orFault_ok, ofNat?_eq_some] at nLength mLength
  have points := points_bytes_inj (nLength.symm.trans (counts ▸ mLength)) points
  obtain ⟨start, duration, bump, list⟩ := x
  rw [AuctionData.mk.injEq]
  exact ⟨leBytes_word_inj (by decide) starts, leBytes_word_inj (by decide) durations,
    U24.bytes_injective bumps, points⟩

end CrossChainEscrow.Source
