import DiddiGo.Data.Proofs.NumericProofs
import DiddiGo.Rides.Storage
import DiddiGo.Rides.Proofs.RideRulesProofs

/-!
# Which terms survive storage

A ride keeps two decimals of the commission rate and of the distance, a quote four and three.
-/

namespace DiddiGo.Rides

open Data (numeric numeric_eq_iff HasDecimals hasDecimals_of_numeric)
open Transactions

variable {q : RideQuote} {r stored : Ride} {req : RideRequest} {method : PaymentMethod} {now : DateTime}

/-- What the columns keep of the terms of a ride. -/
structure Ride.KeptTerms (r stored : Ride) : Prop where
  estimatedFare : nullable money r.estimatedFare = some stored.estimatedFare
  distanceKm : nullable (numeric 6 2) r.distanceKm = some stored.distanceKm
  distanceFare : nullable money r.distanceFare = some stored.distanceFare
  commissionRate : numeric 4 2 r.commissionRate = some stored.commissionRate

theorem keptTerms_of_stored (h : r.stored = some stored) : r.KeptTerms stored := by
  unfold Ride.stored at h
  obtain ⟨_, hfare, h⟩ := Option.bind_eq_some_iff.mp h
  obtain ⟨_, -, h⟩ := Option.bind_eq_some_iff.mp h
  obtain ⟨_, -, h⟩ := Option.bind_eq_some_iff.mp h
  obtain ⟨_, -, h⟩ := Option.bind_eq_some_iff.mp h
  obtain ⟨_, -, h⟩ := Option.bind_eq_some_iff.mp h
  obtain ⟨_, -, h⟩ := Option.bind_eq_some_iff.mp h
  obtain ⟨_, hkm, h⟩ := Option.bind_eq_some_iff.mp h
  obtain ⟨_, -, h⟩ := Option.bind_eq_some_iff.mp h
  obtain ⟨_, hdistance, h⟩ := Option.bind_eq_some_iff.mp h
  obtain ⟨_, -, h⟩ := Option.bind_eq_some_iff.mp h
  obtain ⟨_, -, h⟩ := Option.bind_eq_some_iff.mp h
  obtain ⟨_, -, h⟩ := Option.bind_eq_some_iff.mp h
  obtain ⟨_, hrate, h⟩ := Option.bind_eq_some_iff.mp h
  obtain ⟨_, -, h⟩ := Option.bind_eq_some_iff.mp h
  obtain ⟨_, -, h⟩ := Option.bind_eq_some_iff.mp h
  obtain ⟨_, -, h⟩ := Option.bind_eq_some_iff.mp h
  obtain ⟨_, -, h⟩ := Option.bind_eq_some_iff.mp h
  obtain ⟨_, -, h⟩ := Option.bind_eq_some_iff.mp h
  obtain ⟨_, -, h⟩ := Option.bind_eq_some_iff.mp h
  obtain rfl := Option.some.inj h
  exact ⟨hfare, hkm, hdistance, hrate⟩

/-- The decimals of a quote that is stored as it is. -/
theorem hasDecimals_of_stored (h : q.stored = some q) :
    HasDecimals 2 q.estimatedFare ∧ HasDecimals 2 q.distanceFare := by
  unfold RideQuote.stored at h
  obtain ⟨_, -, h⟩ := Option.bind_eq_some_iff.mp h
  obtain ⟨_, -, h⟩ := Option.bind_eq_some_iff.mp h
  obtain ⟨_, -, h⟩ := Option.bind_eq_some_iff.mp h
  obtain ⟨_, -, h⟩ := Option.bind_eq_some_iff.mp h
  obtain ⟨fare, hfare, h⟩ := Option.bind_eq_some_iff.mp h
  obtain ⟨_, -, h⟩ := Option.bind_eq_some_iff.mp h
  obtain ⟨_, -, h⟩ := Option.bind_eq_some_iff.mp h
  obtain ⟨distanceFare, hdistance, h⟩ := Option.bind_eq_some_iff.mp h
  obtain ⟨_, -, h⟩ := Option.bind_eq_some_iff.mp h
  obtain ⟨_, -, h⟩ := Option.bind_eq_some_iff.mp h
  obtain ⟨_, -, h⟩ := Option.bind_eq_some_iff.mp h
  obtain ⟨_, -, h⟩ := Option.bind_eq_some_iff.mp h
  obtain ⟨_, -, h⟩ := Option.bind_eq_some_iff.mp h
  obtain ⟨_, -, h⟩ := Option.bind_eq_some_iff.mp h
  have heq := Option.some.inj h
  have hfareEq : fare = q.estimatedFare := congrArg RideQuote.estimatedFare heq
  have hdistanceEq : distanceFare = q.distanceFare := congrArg RideQuote.distanceFare heq
  rw [hfareEq] at hfare
  rw [hdistanceEq] at hdistance
  exact ⟨hasDecimals_of_numeric hfare, hasDecimals_of_numeric hdistance⟩

theorem nullable_some {column : Decimal → Option Decimal} {x : Decimal} {y : Option Decimal}
    (h : nullable column (some x) = some y) : ∃ z, column x = some z ∧ y = some z := by
  obtain ⟨z, hz, rfl⟩ := Option.map_eq_some_iff.mp h
  exact ⟨z, hz, rfl⟩

/-- A column with room for the decimals of a value. -/
theorem nullable_kept {precision scale : Nat} {x : Decimal} {y : Option Decimal}
    (h : nullable (numeric precision scale) (some x) = some y) : y = some x ↔ HasDecimals scale x := by
  obtain ⟨z, hz, rfl⟩ := nullable_some h
  rw [Option.some.injEq]
  exact numeric_eq_iff hz

/-! ## Quotes announce their shares -/

theorem toInt_int (n : Int) : Decimal.toInt (n : Decimal) = n := by
  unfold Decimal.toInt
  split_ifs
  · exact Int.floor_intCast n
  · exact Int.ceil_intCast n

/-- What `create_quote` returns has announced its shares. -/
theorem announces_quote (r : QuoteRequest) (s : Settings) (category : VehicleCategory)
    (level : ComfortLevel) (estimate : RouteEstimate) (rule : PricingRule) (now : DateTime) :
    (r.quote s category level estimate rule now).Announces := by
  unfold QuoteRequest.quote PricingRule.pricing pricingBreakdown
  dsimp only
  constructor
  · dsimp only
    rw [toInt_int, toInt_int]
  · dsimp only
    rw [← Int.cast_sub, toInt_int, toInt_int, toInt_int, Int.cast_sub]

/-! ## Completion -/

/-- Completion leaves the locked fare, the rate and the extras. -/
theorem sameTerms_completed {completed : Ride} (h : r.transition .completed now = some completed) :
    completed.lockedFare = r.lockedFare ∧ completed.commissionRate = r.commissionRate ∧
      completed.extras = r.extras := by
  rcases Ride.transition_cases h with ⟨-, rfl⟩ | ⟨-, -, rfl⟩
  · exact ⟨rfl, rfl, rfl⟩
  · refine ⟨?_, rfl, rfl⟩
    unfold Ride.lockedFare
    by_cases hopen : r.completedAt = none ∧ r.finalFare = none
    · have hfinal : (r.enter .completed now none).finalFare = r.estimatedFare := if_pos ⟨⟨rfl, hopen.1⟩, hopen.2⟩
      rw [hfinal, hopen.2]
      exact ite_self _
    · have hfinal : (r.enter .completed now none).finalFare = r.finalFare :=
        if_neg fun h => hopen ⟨h.1.2, h.2⟩
      rw [hfinal]
      rfl

/-- At the quoted fare and rate, completion without extras shares out what the quote has announced. -/
theorem complete_of_plainlyEnds {completed : Ride} (hq : q.Announces)
    (hfare : stored.estimatedFare = some q.estimatedFare)
    (hrate : stored.commissionRate = q.commissionRate) (hr : r.PlainlyEnds stored)
    (h : r.transition .completed now = some completed) :
    completed.complete.finalFare = some q.estimatedFare ∧
      completed.complete.platformCommission = some q.platformCommission ∧
      completed.complete.driverPayoutEstimate = some q.driverPayoutEstimate := by
  obtain ⟨hlockedFare, hrateSame, hextrasSame⟩ := sameTerms_completed h
  have hlocked : completed.lockedFare = some q.estimatedFare := by
    rw [hlockedFare, hr.fare, hfare]
  have hextras : completed.extras = 0 := by rw [hextrasSame, hr.plain]
  have hterms : completed.commissionRate = q.commissionRate := by
    rw [hrateSame, hr.rate, hrate]
  unfold Ride.complete Ride.settle
  dsimp only
  rw [hlocked, hextras, hterms, Option.getD_some, add_zero]
  exact ⟨rfl, by rw [hq.commission], by rw [hq.payout, hq.commission]⟩

/-- The terms of a quote survive in the ride that it turns into exactly if its commission rate and its
distance have at most two decimals. -/
theorem termsSurvive_iff (hq : q.stored = some q) (hstored : (q.toRide req method now).stored = some stored) :
    TermsSurvive q stored ↔ HasDecimals 2 q.commissionRate ∧ HasDecimals 2 q.distanceKm := by
  have hkept := keptTerms_of_stored hstored
  have hrate : stored.commissionRate = q.commissionRate ↔ HasDecimals 2 q.commissionRate :=
    numeric_eq_iff hkept.commissionRate
  have hdistance : stored.distanceKm = some q.distanceKm ↔ HasDecimals 2 q.distanceKm :=
    nullable_kept hkept.distanceKm
  obtain ⟨hfare, hdistanceFare⟩ := hasDecimals_of_stored hq
  have hfare : stored.estimatedFare = some q.estimatedFare := (nullable_kept hkept.estimatedFare).mpr hfare
  have hdistanceFare : stored.distanceFare = some q.distanceFare :=
    (nullable_kept hkept.distanceFare).mpr hdistanceFare
  constructor
  · intro h
    exact ⟨hrate.mp h.rate, hdistance.mp h.distance⟩
  · rintro ⟨hr, hd⟩
    refine ⟨hrate.mpr hr, hdistance.mpr hd, fun hann r completed now hends hcompletes => ?_, fun hpos => ?_⟩
    · exact complete_of_plainlyEnds hann hfare (hrate.mpr hr) hends hcompletes
    · unfold Ride.inferPricePerKm
      rw [hdistanceFare, hdistance.mpr hd]
      exact if_pos hpos

/-- A request for the ride of a quote. -/
def plainRequest : RideRequest where
  passengerUserId := 2
  quoteId := 1
  paymentMethod := "cash"
  rideId := 3

/-- A quote of 1000 for a trip of the distance, at the commission rate. -/
def quoteAt (distanceKm commissionRate : Decimal) : RideQuote where
  id := 1
  passengerUserId := 2
  pickupLocation := ⟨5, -4⟩
  dropoffLocation := ⟨6, -4⟩
  estimatedFare := 1000
  distanceKm := distanceKm
  durationSeconds := 600
  baseFare := 250
  distanceFare := 750
  durationFare := 0
  surgeMultiplier := 1
  surgeCap := 8 / 5
  commissionRate := commissionRate
  platformCommission := 1000 * commissionRate
  driverPayoutEstimate := 1000 - 1000 * commissionRate
  expiresAt := 900

theorem termsSurvive_iff_plain : ∃ stored,
    ((quoteAt (5 / 2) (9 / 50)).toRide plainRequest .cash 0).stored = some stored ∧
      TermsSurvive (quoteAt (5 / 2) (9 / 50)) stored := by
  have hsome : ((quoteAt (5 / 2) (9 / 50)).toRide plainRequest .cash 0).stored.isSome = true := by
    decide +kernel
  obtain ⟨stored, hstored⟩ := Option.isSome_iff_exists.mp hsome
  have hquote : (quoteAt (5 / 2) (9 / 50)).stored = some (quoteAt (5 / 2) (9 / 50)) := by decide +kernel
  refine ⟨stored, hstored, (termsSurvive_iff hquote hstored).mpr ⟨⟨18, ?_⟩, ⟨250, ?_⟩⟩⟩ <;>
    norm_num [quoteAt]

/-- At a rate of 17.5 % and for 3.125 km, the ride is stored with 18 % and 3.13 km. -/
theorem terms_lost : ∃ stored,
    (quoteAt (25 / 8) (7 / 40)).stored = some (quoteAt (25 / 8) (7 / 40)) ∧
      (quoteAt (25 / 8) (7 / 40)).Announces ∧
      ((quoteAt (25 / 8) (7 / 40)).toRide plainRequest .cash 0).stored = some stored ∧
      ¬ TermsSurvive (quoteAt (25 / 8) (7 / 40)) stored := by
  have hrate : ((quoteAt (25 / 8) (7 / 40)).toRide plainRequest .cash 0).stored.map
      Ride.commissionRate = some (9 / 50) := by decide +kernel
  obtain ⟨stored, hstored, hrate⟩ := Option.map_eq_some_iff.mp hrate
  refine ⟨stored, by decide +kernel, ⟨by decide +kernel, rfl⟩, hstored, fun h => ?_⟩
  have hsame := hrate.symm.trans h.rate
  norm_num [quoteAt] at hsame

end DiddiGo.Rides
