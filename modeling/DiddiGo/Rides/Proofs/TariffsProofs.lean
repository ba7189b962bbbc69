import DiddiGo.Data.Proofs.NumericProofs
import DiddiGo.Rides.Proofs.StorageProofs
import DiddiGo.Rides.Tariffs

/-!
# Laws of tariffs

Rounding is monotone and off by a half at most, and so are the fares. The minimum fare of a rule plays no part in
any of them.
-/

namespace DiddiGo.Rides

open Data (numeric numeric_eq_iff HasDecimals hasDecimals_of_numeric)

variable {s : Settings} {rule rule' : PricingRule} {route route' : RouteEstimate} {level level' : ComfortLevel}
  {ride : Ride} {env : Env} {actualKm km : Decimal} {actualSeconds n : Int}

/-! ## Estimates -/

theorem comfortMultiplier_bounds (level : ComfortLevel) :
    1 ≤ comfortMultiplier level ∧ comfortMultiplier level ≤ 13 / 10 := by
  cases level <;> norm_num [comfortMultiplier]

theorem PricingRule.surge_nonneg (h : rule.Nonneg) : 0 ≤ rule.surge := by
  unfold surge
  exact le_min h.surgeMultiplier (by norm_num [surgeCap])

theorem PricingRule.estimatedFare_eq (rule : PricingRule) (s : Settings) (route : RouteEstimate)
    (level : ComfortLevel) :
    (rule.estimate s route level).estimatedFare = Decimal.roundHalfEven (rule.rawFare route level) :=
  Decimal.toInt_intCast _

theorem PricingRule.platformCommission_eq (rule : PricingRule) (s : Settings) (route : RouteEstimate)
    (level : ComfortLevel) : (rule.estimate s route level).platformCommission =
      Decimal.roundHalfEven (Decimal.roundHalfEven (rule.rawFare route level) * s.diddigoCommissionRate) :=
  Decimal.toInt_intCast _

theorem PricingRule.driverPayoutEstimate_eq (rule : PricingRule) (s : Settings) (route : RouteEstimate)
    (level : ComfortLevel) : (rule.estimate s route level).driverPayoutEstimate =
      (rule.estimate s route level).estimatedFare - (rule.estimate s route level).platformCommission := by
  rw [estimatedFare_eq, platformCommission_eq]
  change Decimal.toInt ((Decimal.roundHalfEven (rule.rawFare route level) : Decimal) - Decimal.roundHalfEven
    ((Decimal.roundHalfEven (rule.rawFare route level) : Decimal) * s.diddigoCommissionRate)) = _
  rw [← Int.cast_sub, Decimal.toInt_intCast]

/-- The three parts of a price. -/
theorem PricingRule.parts_nonneg (h : rule.Nonneg) (hkm : 0 ≤ route.distanceKm) (hn : 0 ≤ route.durationSeconds) :
    0 ≤ rule.baseFare + route.distanceKm * rule.pricePerKm +
      (route.durationSeconds : Decimal) / 60 * rule.pricePerMin := by
  have hn' : (0 : Decimal) ≤ route.durationSeconds := by exact_mod_cast hn
  have hdistance := mul_nonneg hkm h.pricePerKm
  have hduration := mul_nonneg (div_nonneg hn' (by norm_num : (0 : Decimal) ≤ 60)) h.pricePerMin
  linarith [h.baseFare]

theorem PricingRule.rawFare_nonneg (h : rule.Nonneg) (hkm : 0 ≤ route.distanceKm) (hn : 0 ≤ route.durationSeconds) :
    0 ≤ rule.rawFare route level := by
  unfold rawFare
  have hcomfort := (comfortMultiplier_bounds level).1
  exact mul_nonneg (mul_nonneg (parts_nonneg h hkm hn) (by linarith)) (surge_nonneg h)

/-- A dearer trip is not cheaper before rounding. -/
theorem PricingRule.rawFare_mono (h : rule.Nonneg) (hkm : 0 ≤ route.distanceKm) (hn : 0 ≤ route.durationSeconds)
    (hdearer : Dearer rule rule' route route' level level') : rule.rawFare route level ≤ rule'.rawFare route' level' := by
  have hn' : (0 : Decimal) ≤ route.durationSeconds := by exact_mod_cast hn
  have hseconds : (route.durationSeconds : Decimal) ≤ route'.durationSeconds :=
    Int.cast_le.mpr hdearer.durationSeconds
  have hdistance : route.distanceKm * rule.pricePerKm ≤ route'.distanceKm * rule'.pricePerKm :=
    mul_le_mul hdearer.distanceKm hdearer.pricePerKm h.pricePerKm (hkm.trans hdearer.distanceKm)
  have hduration : (route.durationSeconds : Decimal) / 60 * rule.pricePerMin ≤
      (route'.durationSeconds : Decimal) / 60 * rule'.pricePerMin :=
    mul_le_mul (by linarith) hdearer.pricePerMin h.pricePerMin (by linarith)
  have hparts := add_le_add (add_le_add hdearer.baseFare hdistance) hduration
  have hcomfort := (comfortMultiplier_bounds level).1
  have hsurge : rule.surge ≤ rule'.surge := min_le_min hdearer.surgeMultiplier le_rfl
  have hnonneg := parts_nonneg h hkm hn
  unfold rawFare
  refine mul_le_mul (mul_le_mul hparts hdearer.comfortLevel (by linarith) (hnonneg.trans hparts)) hsurge
    (surge_nonneg h) ?_
  exact mul_nonneg (hnonneg.trans hparts) (by linarith [hdearer.comfortLevel])

/-- Prices that are not negative and a rate between 0 and 1. -/
theorem pricingLaws (h : rule.Nonneg) (hkm : 0 < route.distanceKm) (hn : 0 ≤ route.durationSeconds)
    (hrate : 0 ≤ s.diddigoCommissionRate) (hrate' : s.diddigoCommissionRate ≤ 1) :
    PricingLaws s rule route level := by
  have hraw : 0 ≤ rule.rawFare route level := PricingRule.rawFare_nonneg h hkm.le hn
  have hfare : (0 : Decimal) ≤ Decimal.roundHalfEven (rule.rawFare route level) := by
    exact_mod_cast Decimal.roundHalfEven_nonneg hraw
  refine ⟨?_, ?_, ?_, ?_, fun rule' route' level' hdearer => ?_⟩
  · rw [PricingRule.driverPayoutEstimate_eq]
    ring
  · rw [PricingRule.platformCommission_eq]
    exact Decimal.roundHalfEven_nonneg (mul_nonneg hfare hrate)
  · rw [PricingRule.platformCommission_eq, PricingRule.estimatedFare_eq]
    exact Decimal.roundHalfEven_le_of_le (mul_le_of_le_one_right hfare hrate')
  · exact min_le_right _ _
  · rw [PricingRule.estimatedFare_eq, PricingRule.estimatedFare_eq]
    exact Decimal.roundHalfEven_mono (PricingRule.rawFare_mono h hkm.le hn hdearer)

/-- Ten kilometres in a quarter of an hour, under the default rule. -/
theorem pricingLaws_default : PricingLaws {} defaultRule ⟨10, 900⟩ .comfort :=
  pricingLaws ⟨by norm_num [defaultRule, defaultBaseFare], by norm_num [defaultRule], le_refl _,
    by norm_num [defaultRule]⟩ (by norm_num) (by norm_num) (by decide +kernel) (by decide +kernel)

/-! ## What a ride keeps of a quote -/

/-- What the columns of a quote keep of its price. -/
structure RideQuote.KeptPrice (q stored : RideQuote) : Prop where
  fare : money q.estimatedFare = some stored.estimatedFare
  base : money q.baseFare = some stored.baseFare
  distance : money q.distanceFare = some stored.distanceFare
  duration : money q.durationFare = some stored.durationFare
  surge : numeric 4 2 q.surgeMultiplier = some stored.surgeMultiplier
  seconds : stored.durationSeconds = q.durationSeconds
  comfort : stored.comfortLevel = q.comfortLevel

theorem keptPrice_of_stored {q stored : RideQuote} (h : q.stored = some stored) : q.KeptPrice stored := by
  unfold RideQuote.stored at h
  obtain ⟨_, -, h⟩ := Option.bind_eq_some_iff.mp h
  obtain ⟨_, -, h⟩ := Option.bind_eq_some_iff.mp h
  obtain ⟨_, -, h⟩ := Option.bind_eq_some_iff.mp h
  obtain ⟨_, -, h⟩ := Option.bind_eq_some_iff.mp h
  obtain ⟨fare, hfare, h⟩ := Option.bind_eq_some_iff.mp h
  obtain ⟨km, hkm, h⟩ := Option.bind_eq_some_iff.mp h
  obtain ⟨base, hbase, h⟩ := Option.bind_eq_some_iff.mp h
  obtain ⟨distance, hdistance, h⟩ := Option.bind_eq_some_iff.mp h
  obtain ⟨duration, hduration, h⟩ := Option.bind_eq_some_iff.mp h
  obtain ⟨surge, hsurge, h⟩ := Option.bind_eq_some_iff.mp h
  obtain ⟨_, -, h⟩ := Option.bind_eq_some_iff.mp h
  obtain ⟨_, -, h⟩ := Option.bind_eq_some_iff.mp h
  obtain ⟨_, -, h⟩ := Option.bind_eq_some_iff.mp h
  obtain ⟨_, -, h⟩ := Option.bind_eq_some_iff.mp h
  obtain rfl := Option.some.inj h
  exact ⟨hfare, hbase, hdistance, hduration, hsurge, rfl, rfl⟩

/-- What the columns of a ride keep of its price. -/
structure Ride.KeptPrice (r stored : Ride) : Prop where
  fare : nullable money r.estimatedFare = some stored.estimatedFare
  km : nullable (numeric 6 2) r.distanceKm = some stored.distanceKm
  base : nullable money r.baseFare = some stored.baseFare
  distance : nullable money r.distanceFare = some stored.distanceFare
  duration : nullable money r.durationFare = some stored.durationFare
  surge : numeric 4 2 r.surgeMultiplier = some stored.surgeMultiplier
  seconds : stored.durationSeconds = r.durationSeconds
  comfort : stored.comfortLevel = r.comfortLevel

theorem keptPrice_of_ride {r stored : Ride} (h : r.stored = some stored) : r.KeptPrice stored := by
  unfold Ride.stored at h
  obtain ⟨fare, hfare, h⟩ := Option.bind_eq_some_iff.mp h
  obtain ⟨_, -, h⟩ := Option.bind_eq_some_iff.mp h
  obtain ⟨_, -, h⟩ := Option.bind_eq_some_iff.mp h
  obtain ⟨_, -, h⟩ := Option.bind_eq_some_iff.mp h
  obtain ⟨_, -, h⟩ := Option.bind_eq_some_iff.mp h
  obtain ⟨_, -, h⟩ := Option.bind_eq_some_iff.mp h
  obtain ⟨km, hkm, h⟩ := Option.bind_eq_some_iff.mp h
  obtain ⟨base, hbase, h⟩ := Option.bind_eq_some_iff.mp h
  obtain ⟨distance, hdistance, h⟩ := Option.bind_eq_some_iff.mp h
  obtain ⟨duration, hduration, h⟩ := Option.bind_eq_some_iff.mp h
  obtain ⟨surge, hsurge, h⟩ := Option.bind_eq_some_iff.mp h
  obtain ⟨_, -, h⟩ := Option.bind_eq_some_iff.mp h
  obtain ⟨_, -, h⟩ := Option.bind_eq_some_iff.mp h
  obtain ⟨_, -, h⟩ := Option.bind_eq_some_iff.mp h
  obtain ⟨_, -, h⟩ := Option.bind_eq_some_iff.mp h
  obtain ⟨_, -, h⟩ := Option.bind_eq_some_iff.mp h
  obtain ⟨_, -, h⟩ := Option.bind_eq_some_iff.mp h
  obtain ⟨_, -, h⟩ := Option.bind_eq_some_iff.mp h
  obtain ⟨_, -, h⟩ := Option.bind_eq_some_iff.mp h
  obtain rfl := Option.some.inj h
  exact ⟨hfare, hkm, hbase, hdistance, hduration, hsurge, rfl, rfl⟩

theorem hasDecimals_intCast (n : Int) : HasDecimals 2 (n : Decimal) := ⟨n * 10 ^ 2, by push_cast; ring⟩

/-- Whole francs are stored as they are. -/
theorem money_intCast {x : Decimal} (h : money (n : Decimal) = some x) : x = n :=
  (numeric_eq_iff h).mpr (hasDecimals_intCast n)

/-- What a ride keeps of the price of its quote: whole francs, and the surge if it has two decimals. -/
structure Ride.PricedBy (ride : Ride) (rule : PricingRule) (route : RouteEstimate) (level : ComfortLevel) : Prop where
  fare : ride.estimatedFare = some (Decimal.roundHalfEven (rule.rawFare route level) : Decimal)
  km : ∃ km, ride.distanceKm = some km
  base : ride.baseFare = some (rule.baseFare.toInt : Decimal)
  distance : ride.distanceFare = some (Decimal.roundHalfEven (route.distanceKm * rule.pricePerKm) : Decimal)
  duration : ride.durationFare =
    some (Decimal.roundHalfEven ((route.durationSeconds : Decimal) / 60 * rule.pricePerMin) : Decimal)
  surge : HasDecimals 2 rule.surge → ride.surgeMultiplier = rule.surge
  seconds : ride.durationSeconds = some route.durationSeconds
  comfort : ride.comfortLevel = level

theorem nullable_money_intCast {x : Option Decimal} (h : nullable money (some (n : Decimal)) = some x) :
    x = some (n : Decimal) := by
  obtain ⟨y, hy, rfl⟩ := nullable_some h
  rw [money_intCast hy]

theorem QuotedRide.pricedBy (h : QuotedRide s rule route level ride) : ride.PricedBy rule route level := by
  obtain ⟨r, category, quotedAt, stored, req, method, requestedAt, hquote, hride⟩ := h.request
  have hq := keptPrice_of_stored hquote
  have hr := keptPrice_of_ride hride
  have hfare : stored.estimatedFare = (Decimal.roundHalfEven (rule.rawFare route level) : Decimal) := by
    have hkept := money_intCast hq.fare
    rw [hkept]
    exact congrArg _ (PricingRule.estimatedFare_eq rule s route level)
  have hbase : stored.baseFare = (rule.baseFare.toInt : Decimal) := money_intCast hq.base
  have hdistance : stored.distanceFare = (Decimal.roundHalfEven (route.distanceKm * rule.pricePerKm) : Decimal) := by
    have hkept := money_intCast hq.distance
    rw [hkept]
    exact congrArg _ (Decimal.toInt_intCast _)
  have hduration : stored.durationFare =
      (Decimal.roundHalfEven ((route.durationSeconds : Decimal) / 60 * rule.pricePerMin) : Decimal) := by
    have hkept := money_intCast hq.duration
    rw [hkept]
    exact congrArg _ (Decimal.toInt_intCast _)
  refine ⟨?_, ?_, ?_, ?_, ?_, fun hdecimals => ?_, ?_, ?_⟩
  · exact nullable_money_intCast (hfare ▸ hr.fare)
  · obtain ⟨km, -, hkm⟩ := nullable_some hr.km
    exact ⟨km, hkm⟩
  · exact nullable_money_intCast (hbase ▸ hr.base)
  · exact nullable_money_intCast (hdistance ▸ hr.distance)
  · exact nullable_money_intCast (hduration ▸ hr.duration)
  · have hsurge : stored.surgeMultiplier = rule.surge := (numeric_eq_iff hq.surge).mpr hdecimals
    have hkept : numeric 4 2 stored.surgeMultiplier = some ride.surgeMultiplier := hr.surge
    rw [hsurge] at hkept
    exact (numeric_eq_iff hkept).mpr hdecimals
  · exact hr.seconds.trans (congrArg some hq.seconds)
  · exact hr.comfort.trans hq.comfort

/-! ## Early stops -/

theorem Ride.totalFare_eq (r : Ride) (env : Env) (km : Decimal) (n : Int) :
    (r.pricing env km n).totalFare = (Decimal.roundHalfEven (r.rawFare km n) : Decimal) := rfl

/-- The capped surge has two decimals if the surge has. -/
theorem PricingRule.hasDecimals_surge (h : HasDecimals 2 rule.surgeMultiplier) : HasDecimals 2 rule.surge := by
  unfold surge
  rcases min_choice rule.surgeMultiplier Rides.surgeCap with hmin | hmin
  · rwa [hmin]
  · rw [hmin]
    exact ⟨160, by norm_num [surgeCap]⟩

theorem PricingRule.Regular.nonneg (h : rule.Regular) : rule.Nonneg :=
  ⟨by linarith [h.baseFare], h.pricePerKm, h.pricePerMin, by linarith [h.surgeMultiplier]⟩

theorem PricingRule.Regular.surge_bounds (h : rule.Regular) : 1 ≤ rule.surge ∧ rule.surge ≤ 8 / 5 :=
  ⟨le_min h.surgeMultiplier (by norm_num [surgeCap]), min_le_right _ _⟩

theorem Ride.PricedBy.floorFare_eq (hp : ride.PricedBy rule route level) (h : rule.Regular) :
    ride.floorFare = (rule.baseFare.toInt : Decimal) := by
  have hone : (1 : Int) ≤ rule.baseFare.toInt := by
    unfold Decimal.toInt
    rw [if_pos (by linarith [h.baseFare])]
    exact Int.le_floor.mpr (by exact_mod_cast h.baseFare)
  have hne : (rule.baseFare.toInt : Decimal) ≠ 0 := by
    have hpos : (0 : Int) < rule.baseFare.toInt := by omega
    exact_mod_cast hpos.ne'
  unfold Ride.floorFare
  rw [hp.base, Option.getD_some, if_neg hne]

theorem Ride.PricedBy.surge_eq (hp : ride.PricedBy rule route level) (h : rule.Regular) :
    min ride.surgeMultiplier Rides.surgeCap = rule.surge := by
  rw [hp.surge (PricingRule.hasDecimals_surge h.decimals)]
  exact min_eq_left h.surge_bounds.2

/-- The part of the fare for the distance, at the price that is inferred, is at most the quoted one. -/
theorem Ride.PricedBy.km_le (hp : ride.PricedBy rule route level) (h : rule.Regular) (hkm : 0 ≤ route.distanceKm)
    (hactual : ∀ total ∈ ride.distanceKm, km ≤ total) : 0 ≤ ride.inferPricePerKm ∧
      km * ride.inferPricePerKm ≤ (Decimal.roundHalfEven (route.distanceKm * rule.pricePerKm) : Decimal) := by
  obtain ⟨total, htotal⟩ := hp.km
  have hle : km ≤ total := hactual total htotal
  have hfare : (0 : Decimal) ≤ Decimal.roundHalfEven (route.distanceKm * rule.pricePerKm) := by
    exact_mod_cast Decimal.roundHalfEven_nonneg (mul_nonneg hkm h.pricePerKm)
  unfold Ride.inferPricePerKm
  rw [hp.distance, htotal]
  dsimp only
  split_ifs with hpos
  · refine ⟨div_nonneg hfare hpos.le, ?_⟩
    rw [mul_div_assoc', div_le_iff₀ hpos, mul_comm]
    exact mul_le_mul_of_nonneg_left hle hfare
  · refine ⟨by norm_num, ?_⟩
    have hnonpos : km ≤ 0 := hle.trans (not_lt.mp hpos)
    linarith

/-- So is the part for the duration. -/
theorem Ride.PricedBy.seconds_le (hp : ride.PricedBy rule route level) (h : rule.Regular)
    (hseconds : 0 < route.durationSeconds) (hactual : n ≤ route.durationSeconds) : 0 ≤ ride.inferPricePerMin ∧
      (n : Decimal) / 60 * ride.inferPricePerMin ≤
        (Decimal.roundHalfEven ((route.durationSeconds : Decimal) / 60 * rule.pricePerMin) : Decimal) := by
  have hpos : (0 : Decimal) < route.durationSeconds := by exact_mod_cast hseconds
  have hminutes : (0 : Decimal) < (route.durationSeconds : Decimal) / 60 := by linarith
  have hle : (n : Decimal) ≤ route.durationSeconds := by exact_mod_cast hactual
  have hfare : (0 : Decimal) ≤
      Decimal.roundHalfEven ((route.durationSeconds : Decimal) / 60 * rule.pricePerMin) := by
    exact_mod_cast Decimal.roundHalfEven_nonneg (mul_nonneg hminutes.le h.pricePerMin)
  unfold Ride.inferPricePerMin
  rw [hp.duration, hp.seconds]
  dsimp only
  rw [if_pos hseconds]
  refine ⟨div_nonneg hfare hminutes.le, ?_⟩
  rw [mul_div_assoc', div_le_iff₀ hminutes, mul_comm]
  exact mul_le_mul_of_nonneg_left (by linarith) hfare

/-- The price of what was driven is at most a little more than that of the trip. -/
theorem Ride.PricedBy.rawFare_le (hp : ride.PricedBy rule route level) (h : rule.Regular)
    (hkm : 0 ≤ route.distanceKm) (hseconds : 0 < route.durationSeconds)
    (hactualKm : ∀ total ∈ ride.distanceKm, km ≤ total) (hactual : n ≤ route.durationSeconds) :
    ride.rawFare km n ≤ rule.rawFare route level + 52 / 25 := by
  obtain ⟨-, hdistance⟩ := hp.km_le h hkm hactualKm
  obtain ⟨-, hduration⟩ := hp.seconds_le h hseconds hactual
  obtain ⟨hcomfort, hcomfort'⟩ := comfortMultiplier_bounds level
  obtain ⟨hsurge, hsurge'⟩ := h.surge_bounds
  have hbase := Decimal.toInt_le (show 0 ≤ rule.baseFare by linarith [h.baseFare])
  have hroundKm := Decimal.roundHalfEven_le_add (route.distanceKm * rule.pricePerKm)
  have hroundMin := Decimal.roundHalfEven_le_add ((route.durationSeconds : Decimal) / 60 * rule.pricePerMin)
  have hparts : ride.floorFare + km * ride.inferPricePerKm + (n : Decimal) / 60 * ride.inferPricePerMin ≤
      rule.baseFare + route.distanceKm * rule.pricePerKm + (route.durationSeconds : Decimal) / 60 * rule.pricePerMin +
        1 := by
    rw [hp.floorFare_eq h]
    linarith
  have hfactor : 0 ≤ comfortMultiplier level * rule.surge := mul_nonneg (by linarith) (by linarith)
  have hbound : comfortMultiplier level * rule.surge ≤ 13 / 10 * (8 / 5) :=
    mul_le_mul hcomfort' hsurge' (by linarith) (by norm_num)
  have hscaled := mul_le_mul_of_nonneg_right hparts hfactor
  unfold Ride.rawFare PricingRule.rawFare
  rw [hp.comfort, hp.surge_eq h]
  linarith

/-- The price of what was driven grows with the distance and the duration. -/
theorem Ride.PricedBy.rawFare_mono (hp : ride.PricedBy rule route level) (h : rule.Regular)
    (hkm : 0 ≤ route.distanceKm) (hseconds : 0 < route.durationSeconds) {n' : Int} (hle : km ≤ actualKm)
    (hle' : n' ≤ n) : ride.rawFare km n' ≤ ride.rawFare actualKm n := by
  obtain ⟨total, htotal⟩ := hp.km
  have hall : ∀ other ∈ ride.distanceKm, total ≤ other := fun other hother =>
    (Option.some.inj (htotal.symm.trans hother)).le
  have hprice : 0 ≤ ride.inferPricePerKm := (hp.km_le h hkm hall).1
  have hpriceMin : 0 ≤ ride.inferPricePerMin := (hp.seconds_le h hseconds le_rfl).1
  obtain ⟨hcomfort, -⟩ := comfortMultiplier_bounds level
  obtain ⟨hsurge, -⟩ := h.surge_bounds
  have hseconds' : (n' : Decimal) ≤ n := by exact_mod_cast hle'
  have hdistance := mul_le_mul_of_nonneg_right hle hprice
  have hduration := mul_le_mul_of_nonneg_right (show (n' : Decimal) / 60 ≤ (n : Decimal) / 60 by linarith) hpriceMin
  unfold Ride.rawFare
  rw [hp.comfort, hp.surge_eq h]
  refine mul_le_mul_of_nonneg_right (mul_le_mul_of_nonneg_right ?_ (by linarith)) (by linarith)
  linarith

/-- The base fare is not more than the whole fare. -/
theorem PricingRule.Regular.base_le (h : rule.Regular) (hkm : 0 ≤ route.distanceKm) (hseconds : 0 ≤ route.durationSeconds) :
    (rule.baseFare.toInt : Decimal) ≤ (Decimal.roundHalfEven (rule.rawFare route level) : Decimal) := by
  have hn : (0 : Decimal) ≤ route.durationSeconds := by exact_mod_cast hseconds
  have hdistance := mul_nonneg hkm h.pricePerKm
  have hduration := mul_nonneg (div_nonneg hn (by norm_num : (0 : Decimal) ≤ 60)) h.pricePerMin
  obtain ⟨hcomfort, -⟩ := comfortMultiplier_bounds level
  obtain ⟨hsurge, -⟩ := h.surge_bounds
  have hbase := h.baseFare
  have hparts : rule.baseFare ≤ rule.baseFare + route.distanceKm * rule.pricePerKm +
      (route.durationSeconds : Decimal) / 60 * rule.pricePerMin := by linarith
  have hraw : rule.baseFare ≤ rule.rawFare route level := by
    unfold PricingRule.rawFare
    have hscaled := le_mul_of_one_le_right (by linarith : 0 ≤ rule.baseFare + route.distanceKm * rule.pricePerKm +
      (route.durationSeconds : Decimal) / 60 * rule.pricePerMin) hcomfort
    have hscaled' := le_mul_of_one_le_right ((by linarith : (0 : Decimal) ≤ rule.baseFare).trans (hparts.trans hscaled))
      hsurge
    exact hparts.trans (hscaled.trans hscaled')
  have hfloor := Decimal.toInt_le (show 0 ≤ rule.baseFare by linarith)
  exact_mod_cast Decimal.le_roundHalfEven_of_le (hfloor.trans hraw)

/-- An early stop of a ride of a quote whose rule is regular, after no more than the trip. -/
theorem stopsCheaply (h : rule.Regular) (hkm : 0 < route.distanceKm) (hseconds : 0 < route.durationSeconds)
    (hride : QuotedRide s rule route level ride) (hactualKm : ∀ total ∈ ride.distanceKm, actualKm ≤ total)
    (hactual : actualSeconds ≤ route.durationSeconds) : ride.StopsCheaply env actualKm actualSeconds := by
  have hp := hride.pricedBy
  have hfare : (ride.pricing env actualKm actualSeconds).totalFare ≤
      (Decimal.roundHalfEven (rule.rawFare route level) : Decimal) + 3 := by
    rw [Ride.totalFare_eq]
    have hraw := hp.rawFare_le h hkm.le hseconds hactualKm hactual
    have hround := Decimal.roundHalfEven_le_add (ride.rawFare actualKm actualSeconds)
    have hround' := Decimal.sub_le_roundHalfEven (rule.rawFare route level)
    have hlt : (Decimal.roundHalfEven (ride.rawFare actualKm actualSeconds) : Decimal) <
        (Decimal.roundHalfEven (rule.rawFare route level) + 4 : Int) := by
      push_cast
      linarith
    have hint := Int.cast_lt.mp hlt
    have hint' : Decimal.roundHalfEven (ride.rawFare actualKm actualSeconds) ≤
        Decimal.roundHalfEven (rule.rawFare route level) + 3 := by omega
    exact_mod_cast hint'
  have hmono (km : Decimal) (hle : km ≤ actualKm) (n : Int) (hle' : n ≤ actualSeconds) :
      (ride.pricing env km n).totalFare ≤ (ride.pricing env actualKm actualSeconds).totalFare := by
    rw [Ride.totalFare_eq, Ride.totalFare_eq]
    exact_mod_cast Decimal.roundHalfEven_mono (hp.rawFare_mono h hkm.le hseconds hle hle')
  refine ⟨⟨_, hp.fare, hfare, max_le ?_ hfare⟩, fun km hle n hle' => ⟨hmono km hle n hle', ?_⟩⟩
  · rw [hp.floorFare_eq h]
    have hbase : (rule.baseFare.toInt : Decimal) ≤ Decimal.roundHalfEven (rule.rawFare route level) :=
      h.base_le hkm.le hseconds.le
    linarith
  · exact max_le_max le_rfl (hmono km hle n hle')

namespace Sample

/-- A rule with a price per minute and a surge. -/
def busyRule : PricingRuleRow where
  baseFare := 250
  pricePerKm := 240
  pricePerMin := 10
  surgeMultiplier := 5 / 4
  minFare := 1000

/-- A request for a quote. -/
def tariffRequest : QuoteRequest where
  passengerUserId := 2
  pickup := ⟨5, -4⟩
  dropoff := ⟨6, -4⟩
  vehicleCategory := "standard"
  comfortLevel := "comfort"
  quoteId := 1

/-- The ride of a quote for a trip of `km` that takes ten minutes, as it is stored. -/
def tariffRide (km : Decimal) : Option Ride := do
  let stored ← (tariffRequest.quote Sample.env.settings .standard .comfort ⟨km, 600⟩ busyRule.toPricingRule 0).stored
  (stored.toRide plainRequest .cash 0).stored

/-- The default settings; positions play no part. -/
def tariffEnv : Env := Sample.env

theorem quotedRide_of_tariffRide {km : Decimal} (h : tariffRide km = some ride) :
    QuotedRide {} busyRule.toPricingRule ⟨km, 600⟩ .comfort ride := by
  obtain ⟨stored, hquote, hride⟩ := Option.bind_eq_some_iff.mp h
  exact ⟨tariffRequest, .standard, 0, stored, plainRequest, .cash, 0, hquote, hride⟩

end Sample

/-- Two thirds of the way. -/
theorem stopsCheaply_sample : ∃ ride, Sample.tariffRide 3 = some ride ∧ ride.StopsCheaply Sample.tariffEnv 2 400 := by
  have hkm : (Sample.tariffRide 3).map Ride.distanceKm = some (some 3) := by decide +kernel
  obtain ⟨ride, hride, hkm⟩ := Option.map_eq_some_iff.mp hkm
  refine ⟨ride, hride, stopsCheaply ⟨?_, ?_, ?_, ?_, ⟨125, ?_⟩⟩ ?_ ?_ (Sample.quotedRide_of_tariffRide hride) ?_ ?_⟩
  any_goals norm_num [Sample.busyRule]
  intro total htotal
  rw [hkm] at htotal
  obtain rfl := Option.some.inj htotal
  norm_num

/-! ## Minimum fares -/

/-- A price that reaches the minimum rounds to no less. -/
theorem le_round_iff_reaches {minimum raw : Decimal} :
    minimum ≤ (Decimal.roundHalfEven raw : Decimal) ↔ Reaches minimum raw := by
  rw [← Int.ceil_le]
  exact Decimal.le_roundHalfEven_iff

theorem Ride.PricedBy.floorFare_rule (hp : ride.PricedBy rule route level) : ride.floorFare = rule.floorFare := by
  unfold Ride.floorFare PricingRule.floorFare
  rw [hp.base, Option.getD_some]

end DiddiGo.Rides
