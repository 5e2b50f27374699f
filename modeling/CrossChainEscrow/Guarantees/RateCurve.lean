import CrossChainEscrow.Effects.Auction
import CrossChainEscrow.Library.ExactCurve

/-!
# The rate bump is exact

For every timestamp and all auction data `calculate_rate_bump` returns, without
overflow, underflow or division by zero, the floor of the curve through the
points of the auction.
-/
namespace CrossChainEscrow.Source
open Library.Words Library.Bytes Library.Accounts Library.Polyline

/-- A point by the number of its bump and its distance. -/
def PointAndTimeDelta.numbers (point : PointAndTimeDelta) : Nat × Nat :=
  (point.rateBump.number, point.timeDelta.toNat)

theorem PointAndTimeDelta.vertex_eq : PointAndTimeDelta.vertex = PointAndTimeDelta.numbers := by
  funext point
  rw [PointAndTimeDelta.vertex, PointAndTimeDelta.numbers, U24.toU64_toNat]

/-- The exact curve of an auction. -/
def AuctionData.curve (data : AuctionData) (t : Nat) : ℚ :=
  Library.Polyline.curve data.startTime.toNat data.duration.toNat data.initialRateBump.number
    (data.pointsAndTimeDeltas.map PointAndTimeDelta.numbers) t

/-- The bumps an auction is configured with. -/
def AuctionData.bumps (data : AuctionData) : List U24 :=
  data.initialRateBump :: data.pointsAndTimeDeltas.map PointAndTimeDelta.rateBump

theorem AuctionData.course_numbers (data : AuctionData) (t : Nat) :
    data.course t = Library.Polyline.course data.startTime.toNat data.duration.toNat
      data.initialRateBump.number (data.pointsAndTimeDeltas.map PointAndTimeDelta.numbers) t := by
  rw [AuctionData.course, U24.toU64_toNat, PointAndTimeDelta.vertex_eq]

theorem AuctionData.values_eq (data : AuctionData) :
    data.initialRateBump.number ::
        (data.pointsAndTimeDeltas.map PointAndTimeDelta.numbers).map Prod.fst =
      data.bumps.map U24.number := by
  simp [AuctionData.bumps, PointAndTimeDelta.numbers, Function.comp_def]

/-- For every timestamp and all auction data, the computation succeeds with the
floor of the exact curve, which is at most one of the configured bumps. -/
theorem calculateRateBump_exact (t : U64) (data : AuctionData) :
    ∃ r, calculateRateBump t data = .ok r ∧ (r.toNat : ℤ) = ⌊data.curve t.toNat⌋ ∧
      ∃ bump ∈ data.bumps, r.toNat ≤ bump.number := by
  obtain ⟨r, computed, value⟩ := calculateRateBump_some t data
  rw [AuctionData.course_numbers] at value
  refine ⟨r, computed, ?_, ?_⟩
  · rw [value]
    exact course_floor _ _ _ _ _
  · obtain ⟨v, member, below⟩ := course_bounded data.startTime.toNat data.duration.toNat
      data.initialRateBump.number (data.pointsAndTimeDeltas.map PointAndTimeDelta.numbers) t.toNat
    rw [data.values_eq] at member
    obtain ⟨bump, configured, rfl⟩ := List.mem_map.mp member
    exact ⟨bump, configured, value ▸ below⟩

end CrossChainEscrow.Source
