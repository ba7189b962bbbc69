import DiddiGo.Rides.RideService

/-!
# Quotes

A quote prices a trip before the ride is requested. The estimate of DiddiMap and the pricing rule in
force are parameters of the request.
-/

namespace DiddiGo.Rides

open Data (Keyed Table)
open Transactions

/-- The stored text. -/
def VehicleCategory.value : VehicleCategory → String
  | standard => "standard"
  | comfort => "comfort"
  | van => "van"

/-- The stored text. -/
def ComfortLevel.value : ComfortLevel → String
  | standard => "standard"
  | comfort => "comfort"
  | premium => "premium"

/-- `_vehicle_category`. -/
def vehicleCategoryOf (value : String) : Action VehicleCategory :=
  match [VehicleCategory.standard, .comfort, .van].find? fun c => c.value = value with
  | some category => return category
  | none => apiError 422 "INVALID_VEHICLE_CATEGORY" "Categorie de vehicule invalide."

/-- `_comfort_level`. -/
def comfortLevelOf (value : String) : Action ComfortLevel :=
  match [ComfortLevel.standard, .comfort, .premium].find? fun c => c.value = value with
  | some level => return level
  | none => apiError 422 "INVALID_COMFORT_LEVEL" "Niveau de confort invalide."

/-- What DiddiMap estimates for a trip. -/
structure RouteEstimate where
  distanceKm : Decimal
  durationSeconds : Int

/-- The fares of a city and a vehicle category. -/
structure PricingRule where
  baseFare : Decimal
  pricePerKm : Decimal
  pricePerMin : Decimal
  surgeMultiplier : Decimal := 1

/-- `_DEFAULT_BASE_FARE`, `_DEFAULT_PRICE_PER_KM` and `_DEFAULT_PRICE_PER_MIN`. -/
def defaultRule : PricingRule where
  baseFare := defaultBaseFare
  pricePerKm := 240
  pricePerMin := 0

/-- `min(rule.surge_multiplier, _SURGE_CAP)`. -/
def PricingRule.surge (rule : PricingRule) : Decimal := min rule.surgeMultiplier Rides.surgeCap

/-- The price of a trip under a rule. -/
def PricingRule.pricing (rule : PricingRule) (s : Settings) (estimate : RouteEstimate)
    (level : ComfortLevel) : Pricing :=
  pricingBreakdown s.diddigoCommissionRate estimate.distanceKm estimate.durationSeconds rule.baseFare
    rule.pricePerKm rule.pricePerMin rule.surge (comfortMultiplier level)

/-- The body of a quote request, with the identifier that the quote gets. -/
structure QuoteRequest where
  passengerUserId : UUID
  pickup : GeoPoint
  pickupAddress : Option String := none
  dropoff : GeoPoint
  dropoffAddress : Option String := none
  vehicleCategory : String
  comfortLevel : String
  quoteId : UUID

/-- The quote for a request: the amounts of `_pricing_response` are whole francs. -/
def QuoteRequest.quote (r : QuoteRequest) (s : Settings) (category : VehicleCategory)
    (level : ComfortLevel) (estimate : RouteEstimate) (rule : PricingRule) (now : DateTime) : RideQuote :=
  let pricing := rule.pricing s estimate level
  { id := r.quoteId
    passengerUserId := r.passengerUserId
    pickupLocation := r.pickup
    pickupAddress := r.pickupAddress
    dropoffLocation := r.dropoff
    dropoffAddress := r.dropoffAddress
    vehicleCategory := category
    comfortLevel := level
    estimatedFare := pricing.totalFare.toInt
    distanceKm := estimate.distanceKm
    durationSeconds := estimate.durationSeconds
    baseFare := pricing.baseFare.toInt
    distanceFare := pricing.distanceFare.toInt
    durationFare := pricing.durationFare.toInt
    surgeMultiplier := rule.surge
    surgeCap := Rides.surgeCap
    commissionRate := s.diddigoCommissionRate
    platformCommission := pricing.platformCommission.toInt
    driverPayoutEstimate := pricing.driverPayoutEstimate.toInt
    expiresAt := now + seconds s.rideQuoteTtlSeconds }

/-- `save` of a quote. -/
def saveQuote (q : RideQuote) : Action Unit :=
  Prog.writeOrRaise [.quote q.id] (fun (db : RideDb) => (db.quotes.find? q.id).isSome)
    (fun (db : RideDb) => { db with quotes := db.quotes.insert q }) .integrity

/-- `create_quote`. -/
def createQuote (s : Settings) (r : QuoteRequest) (estimate : RouteEstimate) (rule : Option PricingRule)
    (now : DateTime) : Action RideQuote := do
  let category ← vehicleCategoryOf r.vehicleCategory
  let level ← comfortLevelOf r.comfortLevel
  apiErrorIf (estimate.distanceKm ≤ 0) 502 "DIDDIMAP_INVALID_RESPONSE" "Distance DiddiMap invalide."
  let quote := r.quote s category level estimate (rule.getD defaultRule) now
  saveQuote quote
  return quote

end DiddiGo.Rides
