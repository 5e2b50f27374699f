import CrossChainEscrow.Source.Common

/-!
# Dutch auctions

`cross-chain-escrow-src/src/auction.rs`: the rate bump of an order over time,
the premium of a cancellation by a resolver, and the serialized form of the
auction data that an order commits to by hash. Every operator may abort on
overflow; the comments of the source say it does not, and nothing here relies
on them.
-/
namespace CrossChainEscrow.Source
open Library.Words Library.Bytes Library.Accounts

/-- Three bytes, most significant first. -/
structure U24 where
  b0 : Byte
  b1 : Byte
  b2 : Byte
  deriving DecidableEq, Repr

def U24.toU32 (x : U24) : U32 :=
  BitVec.ofNat 32 x.b0.val <<< 16 ||| BitVec.ofNat 32 x.b1.val <<< 8 ||| BitVec.ofNat 32 x.b2.val

def U24.toU64 (x : U24) : U64 := x.toU32.setWidth 64

structure PointAndTimeDelta where
  rateBump : U24
  timeDelta : U16
  deriving DecidableEq, Repr

structure AuctionData where
  startTime : U32
  duration : U32
  initialRateBump : U24
  pointsAndTimeDeltas : List PointAndTimeDelta
  deriving DecidableEq, Repr

/-- The weighted mean of two neighbouring points. -/
def interpolate (timestamp currentPointTime nextPointTime currentRateBump nextRateBump
    pointTimeDelta : U64) : Result U64 := do
  let elapsed ← minus timestamp currentPointTime
  let rising ← times elapsed nextRateBump
  let left ← minus nextPointTime timestamp
  let falling ← times left currentRateBump
  let weighted ← plus rising falling
  dividedBy weighted pointTimeDelta

/-- The straight line from the last point to zero at the end of the auction. -/
def finalStretch (timestamp auctionFinishTime currentRateBump currentPointTime : U64) :
    Result U64 := do
  let left ← minus auctionFinishTime timestamp
  let scaled ← times currentRateBump left
  let span ← minus auctionFinishTime currentPointTime
  dividedBy scaled span

/-- The `for` loop over the points, with its two accumulators. -/
def rateBumpLoop (timestamp auctionFinishTime : U64) :
    List PointAndTimeDelta → U64 → U64 → Result U64
  | [], currentRateBump, currentPointTime =>
    finalStretch timestamp auctionFinishTime currentRateBump currentPointTime
  | point :: rest, currentRateBump, currentPointTime => do
    let nextRateBump := point.rateBump.toU64
    let pointTimeDelta : U64 := point.timeDelta.setWidth 64
    let nextPointTime ← plus currentPointTime pointTimeDelta
    if timestamp ≤ nextPointTime then
      interpolate timestamp currentPointTime nextPointTime currentRateBump nextRateBump
        pointTimeDelta
    else rateBumpLoop timestamp auctionFinishTime rest nextRateBump nextPointTime

def calculateRateBump (timestamp : U64) (data : AuctionData) : Result U64 :=
  let startTime : U64 := data.startTime.setWidth 64
  if timestamp ≤ startTime then .ok data.initialRateBump.toU64
  else do
    let auctionFinishTime ← plus startTime (data.duration.setWidth 64)
    if timestamp ≥ auctionFinishTime then .ok 0
    else
      rateBumpLoop timestamp auctionFinishTime data.pointsAndTimeDeltas
        data.initialRateBump.toU64 startTime

def calculatePremium (timestamp auctionStartTime auctionDuration : U32)
    (maxCancellationPremium : U64) : Result U64 :=
  if timestamp ≤ auctionStartTime then .ok 0
  else do
    let timeElapsed ← minus timestamp auctionStartTime
    if timeElapsed ≥ auctionDuration then .ok maxCancellationPremium
    else do
      let scaled ← times (timeElapsed.setWidth 64) maxCancellationPremium
      dividedBy scaled (auctionDuration.setWidth 64)

/-! ## Serialized auction data -/

def U24.bytes (x : U24) : List Byte := [x.b0, x.b1, x.b2]

def PointAndTimeDelta.bytes (point : PointAndTimeDelta) : List Byte :=
  point.rateBump.bytes ++ leBytes 2 point.timeDelta.toNat

/-- `AuctionData::try_to_vec`: integers little endian, the list behind its
length as a `u32`, which a longer list does not fit. -/
def AuctionData.tryToVec (data : AuctionData) : Result (List Byte) := do
  let length : U32 ← orFault (ofNat? 32 data.pointsAndTimeDeltas.length) .serialization
  pure (leBytes 4 data.startTime.toNat ++ leBytes 4 data.duration.toNat ++
    data.initialRateBump.bytes ++ leBytes 4 length.toNat ++
    data.pointsAndTimeDeltas.flatMap PointAndTimeDelta.bytes)

end CrossChainEscrow.Source
