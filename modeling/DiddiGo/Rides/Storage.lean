import DiddiGo.Data.Numeric
import DiddiGo.Rides.Quotes

/-!
# The numeric columns of quotes and rides

What `ride_quotes` and `rides` keep of the decimals of an object, and when the terms of a quote survive in
the ride that it turns into. Elsewhere the columns hold exact decimals.
-/

namespace DiddiGo.Rides

open Data (numeric HasDecimals)

/-- A column that may be null. -/
def nullable (column : Decimal → Option Decimal) : Option Decimal → Option (Option Decimal)
  | none => some none
  | some x => (column x).map some

/-- `Numeric(10, 2)`. -/
def money : Decimal → Option Decimal := numeric 10 2

/-- What a row of `ride_quotes` keeps; `none` if a value does not fit. -/
def RideQuote.stored (q : RideQuote) : Option RideQuote := do
  let pickupLat ← numeric 9 6 q.pickupLocation.lat
  let pickupLng ← numeric 9 6 q.pickupLocation.lng
  let dropoffLat ← numeric 9 6 q.dropoffLocation.lat
  let dropoffLng ← numeric 9 6 q.dropoffLocation.lng
  let estimatedFare ← money q.estimatedFare
  let distanceKm ← numeric 8 3 q.distanceKm
  let baseFare ← money q.baseFare
  let distanceFare ← money q.distanceFare
  let durationFare ← money q.durationFare
  let surgeMultiplier ← numeric 4 2 q.surgeMultiplier
  let surgeCap ← numeric 4 2 q.surgeCap
  let commissionRate ← numeric 5 4 q.commissionRate
  let platformCommission ← money q.platformCommission
  let driverPayoutEstimate ← money q.driverPayoutEstimate
  return { q with
    pickupLocation := ⟨pickupLat, pickupLng⟩
    dropoffLocation := ⟨dropoffLat, dropoffLng⟩
    estimatedFare := estimatedFare
    distanceKm := distanceKm
    baseFare := baseFare
    distanceFare := distanceFare
    durationFare := durationFare
    surgeMultiplier := surgeMultiplier
    surgeCap := surgeCap
    commissionRate := commissionRate
    platformCommission := platformCommission
    driverPayoutEstimate := driverPayoutEstimate }

/-- What a row of `rides` keeps; `none` if a value does not fit. -/
def Ride.stored (r : Ride) : Option Ride := do
  let estimatedFare ← nullable money r.estimatedFare
  let finalFare ← nullable money r.finalFare
  let waitingFee ← money r.waitingFee
  let waitingRatePerMinute ← nullable money r.waitingRatePerMinute
  let preRideWaitFee ← money r.preRideWaitFee
  let supplementsTotal ← money r.supplementsTotal
  let distanceKm ← nullable (numeric 6 2) r.distanceKm
  let baseFare ← nullable money r.baseFare
  let distanceFare ← nullable money r.distanceFare
  let durationFare ← nullable money r.durationFare
  let surgeMultiplier ← numeric 4 2 r.surgeMultiplier
  let surgeCap ← numeric 4 2 r.surgeCap
  let commissionRate ← numeric 4 2 r.commissionRate
  let driverPayoutEstimate ← nullable money r.driverPayoutEstimate
  let platformCommission ← nullable money r.platformCommission
  let actualDistanceKm ← nullable (numeric 8 3) r.actualDistanceKm
  let actualPricingFare ← nullable money r.actualPricingFare
  let pricingDelta ← nullable money r.pricingDelta
  let traceQualityScore ← nullable (numeric 5 4) r.traceQualityScore
  return { r with
    estimatedFare := estimatedFare
    finalFare := finalFare
    waitingFee := waitingFee
    waitingRatePerMinute := waitingRatePerMinute
    preRideWaitFee := preRideWaitFee
    supplementsTotal := supplementsTotal
    distanceKm := distanceKm
    baseFare := baseFare
    distanceFare := distanceFare
    durationFare := durationFare
    surgeMultiplier := surgeMultiplier
    surgeCap := surgeCap
    commissionRate := commissionRate
    driverPayoutEstimate := driverPayoutEstimate
    platformCommission := platformCommission
    actualDistanceKm := actualDistanceKm
    actualPricingFare := actualPricingFare
    pricingDelta := pricingDelta
    traceQualityScore := traceQualityScore }

/-! ## The terms of a quote -/

/-- The shares of the platform and of the driver are those of the quoted fare at the quoted rate. -/
structure RideQuote.Announces (q : RideQuote) : Prop where
  commission : q.platformCommission = Decimal.roundHalfEven (q.estimatedFare * q.commissionRate)
  payout : q.driverPayoutEstimate = q.estimatedFare - q.platformCommission

/-- The ride `r` is about to be completed at the fare of the ride `stored`, without extras. -/
structure Ride.PlainlyEnds (r stored : Ride) : Prop where
  rate : r.commissionRate = stored.commissionRate
  fare : r.lockedFare = stored.estimatedFare
  plain : r.extras = 0

/-- The ride that was stored for a quote carries its terms. -/
structure TermsSurvive (q : RideQuote) (stored : Ride) : Prop where
  rate : stored.commissionRate = q.commissionRate
  distance : stored.distanceKm = some q.distanceKm
  /-- A completion without extras shares the fare out as the quote has announced. -/
  shares : q.Announces → ∀ (r completed : Ride) (now : DateTime), r.PlainlyEnds stored →
    r.transition .completed now = some completed →
      completed.complete.finalFare = some q.estimatedFare ∧
        completed.complete.platformCommission = some q.platformCommission ∧
        completed.complete.driverPayoutEstimate = some q.driverPayoutEstimate
  /-- The price per kilometre of an early stop is the quoted one. -/
  pricePerKm : 0 < q.distanceKm → stored.inferPricePerKm = q.distanceFare / q.distanceKm

end DiddiGo.Rides
