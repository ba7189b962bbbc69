import DiddiGo.Rides.Storage

/-!
# Tariffs

What an estimate of DiddiMap costs under a pricing rule, and what an early stop costs at the prices that are inferred
from the ride.
-/

namespace DiddiGo.Rides

open Data (HasDecimals)
open Transactions

/-! ## Estimates -/

/-- The body of an estimate: amounts are whole francs. -/
structure Estimate where
  estimatedFare : Int
  distanceKm : Decimal
  durationSeconds : Int
  surgeMultiplier : Decimal
  surgeCap : Decimal
  comfortMultiplier : Decimal
  baseFare : Int
  distanceFare : Int
  durationFare : Int
  commissionRate : Decimal
  platformCommission : Int
  driverPayoutEstimate : Int

/-- `_pricing_response`. -/
def pricingResponse (s : Settings) (route : RouteEstimate) (pricing : Pricing) (surgeMultiplier : Decimal)
    (level : ComfortLevel) : Estimate where
  estimatedFare := pricing.totalFare.toInt
  distanceKm := route.distanceKm
  durationSeconds := route.durationSeconds
  surgeMultiplier := surgeMultiplier
  surgeCap := Rides.surgeCap
  comfortMultiplier := Rides.comfortMultiplier level
  baseFare := pricing.baseFare.toInt
  distanceFare := pricing.distanceFare.toInt
  durationFare := pricing.durationFare.toInt
  commissionRate := s.diddigoCommissionRate
  platformCommission := pricing.platformCommission.toInt
  driverPayoutEstimate := pricing.driverPayoutEstimate.toInt

/-- The estimate of a trip under a rule. -/
def PricingRule.estimate (rule : PricingRule) (s : Settings) (route : RouteEstimate) (level : ComfortLevel) :
    Estimate :=
  pricingResponse s route (rule.pricing s route level) rule.surge level

/-- `estimate_pricing`. -/
def estimatePricing (s : Settings) (vehicleCategory comfortLevel : String) (route : RouteEstimate)
    (rule : Option PricingRule) : Action Estimate := do
  let _ ← vehicleCategoryOf vehicleCategory
  let level ← comfortLevelOf comfortLevel
  apiErrorIf (route.distanceKm ≤ 0) 502 "DIDDIMAP_INVALID_RESPONSE" "Distance DiddiMap invalide."
  return (rule.getD defaultRule).estimate s route level

/-- The price of a trip before it is rounded. -/
def PricingRule.rawFare (rule : PricingRule) (route : RouteEstimate) (level : ComfortLevel) : Decimal :=
  (rule.baseFare + route.distanceKm * rule.pricePerKm + (route.durationSeconds : Decimal) / 60 * rule.pricePerMin) *
    comfortMultiplier level * rule.surge

/-- No amount of the rule is negative. -/
structure PricingRule.Nonneg (rule : PricingRule) : Prop where
  baseFare : 0 ≤ rule.baseFare
  pricePerKm : 0 ≤ rule.pricePerKm
  pricePerMin : 0 ≤ rule.pricePerMin
  surgeMultiplier : 0 ≤ rule.surgeMultiplier

/-- A base fare of at least a franc, prices that are not negative, and a surge of at least 1 with two decimals. -/
structure PricingRule.Regular (rule : PricingRule) : Prop where
  baseFare : 1 ≤ rule.baseFare
  pricePerKm : 0 ≤ rule.pricePerKm
  pricePerMin : 0 ≤ rule.pricePerMin
  surgeMultiplier : 1 ≤ rule.surgeMultiplier
  decimals : HasDecimals 2 rule.surgeMultiplier

/-- The trip on `route'` under `rule'` at `level'` is not cheaper in any respect. -/
structure Dearer (rule rule' : PricingRule) (route route' : RouteEstimate) (level level' : ComfortLevel) : Prop where
  baseFare : rule.baseFare ≤ rule'.baseFare
  pricePerKm : rule.pricePerKm ≤ rule'.pricePerKm
  pricePerMin : rule.pricePerMin ≤ rule'.pricePerMin
  surgeMultiplier : rule.surgeMultiplier ≤ rule'.surgeMultiplier
  distanceKm : route.distanceKm ≤ route'.distanceKm
  durationSeconds : route.durationSeconds ≤ route'.durationSeconds
  comfortLevel : comfortMultiplier level ≤ comfortMultiplier level'

/-- An estimate shares the fare out, caps the surge, and is not higher than that of a dearer trip. -/
structure PricingLaws (s : Settings) (rule : PricingRule) (route : RouteEstimate) (level : ComfortLevel) : Prop where
  split : (rule.estimate s route level).platformCommission + (rule.estimate s route level).driverPayoutEstimate =
    (rule.estimate s route level).estimatedFare
  commission_nonneg : 0 ≤ (rule.estimate s route level).platformCommission
  commission_le : (rule.estimate s route level).platformCommission ≤ (rule.estimate s route level).estimatedFare
  surge : (rule.estimate s route level).surgeMultiplier ≤ 8 / 5
  monotone : ∀ rule' route' level', Dearer rule rule' route route' level level' →
    (rule.estimate s route level).estimatedFare ≤ (rule'.estimate s route' level').estimatedFare

/-! ## Early stops -/

/-- The ride `ride`, as it is stored, was requested for the quote, as it is stored, of a trip. -/
structure QuotedRide (s : Settings) (rule : PricingRule) (route : RouteEstimate) (level : ComfortLevel) (ride : Ride) :
    Prop where
  request : ∃ (r : QuoteRequest) (category : VehicleCategory) (quotedAt : DateTime) (stored : RideQuote)
    (req : RideRequest) (method : PaymentMethod) (requestedAt : DateTime),
    (r.quote s category level route rule quotedAt).stored = some stored ∧
      (stored.toRide req method requestedAt).stored = some ride

/-- The fare of an early stop before the extras: `max(ride.base_fare or _DEFAULT_BASE_FARE, ride.actual_pricing_fare)`. -/
def Ride.earlyStopFare (r : Ride) (env : Env) (actualKm : Decimal) (actualSeconds : Int) : Decimal :=
  max r.floorFare (r.pricing env actualKm actualSeconds).totalFare

/-- The price of what was driven before it is rounded, at the prices that are inferred. -/
def Ride.rawFare (r : Ride) (actualKm : Decimal) (actualSeconds : Int) : Decimal :=
  (r.floorFare + actualKm * r.inferPricePerKm + (actualSeconds : Decimal) / 60 * r.inferPricePerMin) *
    comfortMultiplier r.comfortLevel * min r.surgeMultiplier Rides.surgeCap

/-- An early stop of the ride costs at most three francs more than the fare of its quote, and the more the longer the
driver has driven. -/
structure Ride.StopsCheaply (r : Ride) (env : Env) (actualKm : Decimal) (actualSeconds : Int) : Prop where
  actual : ∃ fare, r.estimatedFare = some fare ∧ (r.pricing env actualKm actualSeconds).totalFare ≤ fare + 3 ∧
    r.earlyStopFare env actualKm actualSeconds ≤ fare + 3
  monotone : ∀ km ≤ actualKm, ∀ n ≤ actualSeconds,
    (r.pricing env km n).totalFare ≤ (r.pricing env actualKm actualSeconds).totalFare ∧
      r.earlyStopFare env km n ≤ r.earlyStopFare env actualKm actualSeconds

/-! ## Minimum fares -/

/-- A row of `pricing_rules`. -/
structure PricingRuleRow extends PricingRule where
  minFare : Decimal

/-- The quote of a trip, and an early stop of the ride of that quote, cost at least the minimum of the rule. -/
structure MinFareHonoured (s : Settings) (rule : PricingRuleRow) (route : RouteEstimate) (level : ComfortLevel)
    (ride : Ride) (env : Env) (actualKm : Decimal) (actualSeconds : Int) : Prop where
  quote : rule.minFare ≤ (rule.estimate s route level).estimatedFare
  earlyStop : rule.minFare ≤ ride.earlyStopFare env actualKm actualSeconds

/-- `ride.base_fare or _DEFAULT_BASE_FARE` for a ride under the rule: whole francs, and the default for none. -/
def PricingRule.floorFare (rule : PricingRule) : Decimal :=
  if (rule.baseFare.toInt : Decimal) = 0 then defaultBaseFare else rule.baseFare.toInt

/-- The price `raw` rounds to no less than `minimum`. -/
def Reaches (minimum raw : Decimal) : Prop :=
  (⌈minimum⌉ : Decimal) - 1 / 2 < raw ∨ raw = (⌈minimum⌉ : Decimal) - 1 / 2 ∧ ⌈minimum⌉ % 2 = 0

instance (minimum raw : Decimal) : Decidable (Reaches minimum raw) := inferInstanceAs (Decidable (_ ∨ _))

end DiddiGo.Rides
