import DiddiGo.Rides.Scoring
import DiddiGo.Rides.Proofs.ScoringProofs
import DiddiGo.Data.Proofs.NumericProofs

/-!
# Laws of the scores

The score grows with the average of the ratings and with the completion rate, and falls with the cancellation
rate. Both rates are rates of the same two numbers.
-/

namespace DiddiGo.Rides

open Data (Keyed Table)

variable {subject : ScoreSubject} {db db' : RideDb} {ratings ratings' : List RideRating} {r : Ride}
  {stats stats' : ScoringStats}

/-! ## The score as a function -/

theorem hundredths_mono {x y : Decimal} (h : x ≤ y) : hundredths x ≤ hundredths y := by
  unfold hundredths
  have hround : Decimal.roundHalfEven (100 * x) ≤ Decimal.roundHalfEven (100 * y) :=
    Decimal.roundHalfEven_mono (mul_le_mul_of_nonneg_left h (by norm_num))
  exact div_le_div_of_nonneg_right (Int.cast_le.mpr hround) (by norm_num)

theorem hundredths_intCast (n : Int) : hundredths (n : Decimal) = n := by
  have h : (100 * (n : Decimal)) = ((100 * n : Int) : Decimal) := by push_cast; rfl
  unfold hundredths
  rw [h, Decimal.roundHalfEven_intCast]
  push_cast
  exact mul_div_cancel_left₀ _ (by norm_num)

namespace ScoringStats

theorem score_bounded (stats : ScoringStats) : 1 ≤ stats.score ∧ stats.score ≤ 5 := by
  have hone : hundredths 1 = 1 := by exact_mod_cast hundredths_intCast 1
  have hfive : hundredths 5 = 5 := by exact_mod_cast hundredths_intCast 5
  constructor
  · rw [← hone]
    exact hundredths_mono (le_max_left _ _)
  · rw [← hfive]
    exact hundredths_mono (max_le (by norm_num) (min_le_left _ _))

/-- Better ratings, more completed and fewer cancelled rides do not lower the score. -/
theorem score_mono (hrating : stats.ratingValue ≤ stats'.ratingValue)
    (hcompletion : stats.completionRate ≤ stats'.completionRate)
    (hcancellation : stats'.cancellationRate ≤ stats.cancellationRate) : stats.score ≤ stats'.score := by
  refine hundredths_mono (max_le_max le_rfl (min_le_min le_rfl ?_))
  linarith

/-- What is reported follows from three counts and the ratings. -/
theorem sameScore_of_eq (heligible : stats'.eligibleRides = stats.eligibleRides)
    (hcompleted : stats'.completedRides = stats.completedRides)
    (hcancelled : stats'.cancelledRides = stats.cancelledRides) (hcount : stats'.ratingCount = stats.ratingCount)
    (hrating : stats'.ratingAvg = stats.ratingAvg) : SameScore stats stats' := by
  have hscore := score_congr heligible hcompleted hcancelled hrating
  refine ⟨hscore, by rw [hscore, heligible], ?_⟩
  unfold reasonCodes ratingValue completionRate cancellationRate
  rw [heligible, hcompleted, hcancelled, hcount, hrating]
  simp only [List.filter_append]
  congr 3
  split_ifs <;> rfl

end ScoringStats

/-! ## The population -/

namespace ScoreSubject

/-- The number of his rides with the status. -/
def countOf (subject : ScoreSubject) (db : RideDb) (status : RideStatus) : Int :=
  db.countRides subject.mine fun r => r.status = status

theorem countOf_eq_length (status : RideStatus) :
    subject.countOf db status = ((subject.ridesWith db status).length : Int) := by
  unfold countOf RideDb.countRides Table.sum ridesWith
  rw [← List.countP_eq_length_filter]
  induction db.rides.rows with
  | nil => rfl
  | cons x rows ih =>
    rw [List.map_cons, List.sum_cons, ih, List.countP_cons]
    split_ifs <;> push_cast <;> ring

theorem completedRides_stats : (subject.stats db ratings).completedRides = subject.countOf db .completed := by
  cases subject <;> rfl

theorem cancelledRides_stats :
    (subject.stats db ratings).cancelledRides = subject.countOf db subject.ownCancellation := by
  cases subject <;> rfl

theorem ownCancellation_ne (subject : ScoreSubject) : subject.ownCancellation ≠ .completed := by
  cases subject <;> exact nofun

/-- Each eligible ride was either completed or cancelled by him. -/
theorem eligibleRides_stats : (subject.stats db ratings).eligibleRides =
    subject.countOf db .completed + subject.countOf db subject.ownCancellation := by
  have hor : db.countRides subject.mine (fun r => decide (r.status = .completed) ||
      decide (r.status = subject.ownCancellation)) = _ + _ :=
    countRides_or fun r h => subject.ownCancellation_ne
      ((of_decide_eq_true h.2).symm.trans (of_decide_eq_true h.1))
  unfold countOf
  rw [← hor]
  simp only [← Bool.decide_or]
  cases subject <;> rfl

theorem countOf_nonneg (status : RideStatus) : 0 ≤ subject.countOf db status := countRides_nonneg _ _ _

theorem countOf_insertRide (hfresh : db.rides.find? r.id = none) (status : RideStatus) :
    subject.countOf (db.insertRide r) status =
      subject.countOf db status + if subject.mine r && decide (r.status = status) then 1 else 0 := by
  have hmine : subject.mine r.toDomain = subject.mine r := by cases subject <;> rfl
  have hsum := Table.sum_insert (t := db.rides) (r := r.toDomain)
    (fun r => if subject.mine r && decide (r.status = status) then (1 : Int) else 0) hfresh
  rw [hmine] at hsum
  exact hsum

theorem countOf_setEmergency (rideId : UUID) (text : String) (status : RideStatus) :
    subject.countOf (db.setEmergency rideId text) status = subject.countOf db status := by
  refine Table.sum_update_of_eq db.rides rideId (fun r => { r with emergencyStatus := some text })
    (fun _ => rfl) fun r => ?_
  cases subject <;> rfl

/-! ## Ratings -/

theorem ratingCount_stats :
    (subject.stats db ratings).ratingCount = (subject.ratingsReceived db ratings).length := by
  unfold ratingsReceived
  rw [List.length_map]
  cases subject <;> rfl

theorem ratingAvg_stats : (subject.stats db ratings).ratingAvg =
    if subject.ratingsReceived db ratings = [] then none
    else some (((subject.ratingsReceived db ratings).sum : Int) /
      ((subject.ratingsReceived db ratings).length : Decimal)) := by
  unfold ratingsReceived
  rw [List.length_map]
  simp only [List.map_eq_nil_iff]
  cases subject <;> rfl

/-- The ratings that count are those of rides that he has completed. -/
theorem ratingsReceived_congr
    (h : ∀ q ∈ ratings, ((db'.ride? q.rideId).any fun r => subject.mine r && decide (r.status = .completed)) =
      (db.ride? q.rideId).any fun r => subject.mine r && decide (r.status = .completed)) :
    subject.ratingsReceived db' ratings = subject.ratingsReceived db ratings := by
  unfold ratingsReceived RideDb.ratingsReceived
  exact congrArg _ (List.filter_congr fun q hq => by rw [h q hq])

/-- Who receives better ratings has a better average. -/
theorem ratingValue_le (hlength : (subject.ratingsReceived db' ratings').length =
      (subject.ratingsReceived db ratings).length)
    (hsum : (subject.ratingsReceived db ratings).sum ≤ (subject.ratingsReceived db' ratings').sum) :
    (subject.stats db ratings).ratingValue ≤ (subject.stats db' ratings').ratingValue := by
  unfold ScoringStats.ratingValue
  rw [ratingAvg_stats, ratingAvg_stats, hlength]
  by_cases hnone : subject.ratingsReceived db ratings = []
  · have hnone' : subject.ratingsReceived db' ratings' = [] := by
      rw [← List.length_eq_zero_iff, hlength, hnone]
      rfl
    rw [if_pos hnone, if_pos hnone']
  · have hnone' : subject.ratingsReceived db' ratings' ≠ [] := by
      rw [ne_eq, ← List.length_eq_zero_iff, hlength, List.length_eq_zero_iff]
      exact hnone
    rw [if_neg hnone, if_neg hnone', Option.getD_some, Option.getD_some]
    exact div_le_div_of_nonneg_right (Int.cast_le.mpr hsum) (Nat.cast_nonneg _)

theorem raised_received (h : List.Forall₂ RideRating.Raised ratings ratings') :
    List.Forall₂ (· ≤ ·) (subject.ratingsReceived db ratings) (subject.ratingsReceived db ratings') := by
  unfold ratingsReceived RideDb.ratingsReceived
  induction h with
  | nil => exact .nil
  | cons hq _ ih =>
    rw [List.filter_cons, List.filter_cons, hq.raterRole, hq.rideId]
    split_ifs
    · exact .cons hq.rating ih
    · exact ih

/-! ## Laws -/

/-- The score follows from the numbers of rides and the ratings that count. -/
theorem sameScore_of_counts (hcompleted : subject.countOf db' .completed = subject.countOf db .completed)
    (hcancelled : subject.countOf db' subject.ownCancellation = subject.countOf db subject.ownCancellation)
    (hratings : subject.ratingsReceived db' ratings' = subject.ratingsReceived db ratings) :
    SameScore (subject.stats db ratings) (subject.stats db' ratings') := by
  refine ScoringStats.sameScore_of_eq ?_ ?_ ?_ ?_ ?_
  · rw [eligibleRides_stats, eligibleRides_stats, hcompleted, hcancelled]
  · rw [completedRides_stats, completedRides_stats, hcompleted]
  · rw [cancelledRides_stats, cancelledRides_stats, hcancelled]
  · rw [ratingCount_stats, ratingCount_stats, hratings]
  · rw [ratingAvg_stats, ratingAvg_stats, hratings]

theorem completionRate_stats : (subject.stats db ratings).completionRate =
    (subject.countOf db .completed : Decimal) /
      (subject.countOf db .completed + subject.countOf db subject.ownCancellation) := by
  unfold ScoringStats.completionRate
  rw [eligibleRides_stats, completedRides_stats]
  split_ifs with h
  · rw [← Int.cast_add, h, Int.cast_zero, div_zero]
  · rw [Int.cast_add]

theorem cancellationRate_stats : (subject.stats db ratings).cancellationRate =
    (subject.countOf db subject.ownCancellation : Decimal) /
      (subject.countOf db .completed + subject.countOf db subject.ownCancellation) := by
  unfold ScoringStats.cancellationRate
  rw [eligibleRides_stats, cancelledRides_stats]
  split_ifs with h
  · rw [← Int.cast_add, h, Int.cast_zero, div_zero]
  · rw [Int.cast_add]

/-- The share of a part that grows. -/
theorem share_le_add {a b : Decimal} (ha : 0 ≤ a) (hb : 0 ≤ b) : a / (a + b) ≤ (a + 1) / (a + 1 + b) := by
  rcases (add_nonneg ha hb).eq_or_lt with hzero | hpos
  · rw [← hzero, div_zero]
    positivity
  · rw [div_le_div_iff₀ hpos (by linarith)]
    nlinarith

/-- The share of a part when the rest grows. -/
theorem share_ge_add {a b : Decimal} (ha : 0 ≤ a) (hb : 0 ≤ b) : a / (a + (b + 1)) ≤ a / (a + b) := by
  rcases (add_nonneg ha hb).eq_or_lt with hzero | hpos
  · have ha0 : a = 0 := by linarith
    rw [ha0, zero_div, zero_div]
  · exact div_le_div_of_nonneg_left ha hpos (by linarith)

/-- Another completed ride raises one rate and lowers the other. -/
theorem rates_completed (ratings : List RideRating)
    (hcompleted : subject.countOf db' .completed = subject.countOf db .completed + 1)
    (hcancelled : subject.countOf db' subject.ownCancellation = subject.countOf db subject.ownCancellation) :
    (subject.stats db ratings).completionRate ≤ (subject.stats db' ratings).completionRate ∧
      (subject.stats db' ratings).cancellationRate ≤ (subject.stats db ratings).cancellationRate := by
  have hc : (0 : Decimal) ≤ subject.countOf db .completed := Int.cast_nonneg (countOf_nonneg _)
  have hk : (0 : Decimal) ≤ subject.countOf db subject.ownCancellation := Int.cast_nonneg (countOf_nonneg _)
  rw [completionRate_stats, completionRate_stats, cancellationRate_stats, cancellationRate_stats, hcompleted,
    hcancelled]
  push_cast
  refine ⟨share_le_add hc hk, ?_⟩
  rw [add_comm _ (subject.countOf db subject.ownCancellation : Decimal),
    add_comm _ (subject.countOf db subject.ownCancellation : Decimal)]
  exact share_ge_add hk hc

/-- Another cancellation lowers one rate and raises the other. -/
theorem rates_cancelled (ratings : List RideRating)
    (hcompleted : subject.countOf db' .completed = subject.countOf db .completed)
    (hcancelled : subject.countOf db' subject.ownCancellation = subject.countOf db subject.ownCancellation + 1) :
    (subject.stats db' ratings).completionRate ≤ (subject.stats db ratings).completionRate ∧
      (subject.stats db ratings).cancellationRate ≤ (subject.stats db' ratings).cancellationRate := by
  have hc : (0 : Decimal) ≤ subject.countOf db .completed := Int.cast_nonneg (countOf_nonneg _)
  have hk : (0 : Decimal) ≤ subject.countOf db subject.ownCancellation := Int.cast_nonneg (countOf_nonneg _)
  rw [completionRate_stats, completionRate_stats, cancellationRate_stats, cancellationRate_stats, hcompleted,
    hcancelled]
  push_cast
  refine ⟨share_ge_add hc hk, ?_⟩
  rw [add_comm _ (subject.countOf db subject.ownCancellation : Decimal), add_comm _ (_ + 1 : Decimal)]
  exact share_le_add hk hc

/-- The score has the same ratings behind it. -/
theorem ratingValue_eq (h : subject.ratingsReceived db' ratings' = subject.ratingsReceived db ratings) :
    (subject.stats db' ratings').ratingValue = (subject.stats db ratings).ratingValue := by
  unfold ScoringStats.ratingValue
  rw [ratingAvg_stats, ratingAvg_stats, h]

/-- A new ride does not change the ratings that count, if it is not completed or has none. -/
theorem ratingsReceived_insertRide (hfresh : db.rides.find? r.id = none)
    (h : r.status ≠ .completed ∨ ∀ q ∈ ratings, q.rideId ≠ r.id) :
    subject.ratingsReceived (db.insertRide r) ratings = subject.ratingsReceived db ratings := by
  refine ratingsReceived_congr fun q hq => ?_
  have hfind : (db.insertRide r).ride? q.rideId =
      ((db.rides.find? q.rideId).or (if r.id = q.rideId then some r.toDomain else none)).map Ride.toDomain :=
    congrArg (Option.map Ride.toDomain) (Table.find?_insert db.rides r.toDomain q.rideId)
  rw [hfind]
  unfold RideDb.ride?
  by_cases hid : r.id = q.rideId
  · rw [if_pos hid, ← hid, hfresh, Option.none_or, Option.map_some, Option.map_none, Option.any_some,
      Option.any_none]
    have hstatus : r.status ≠ .completed := h.resolve_right fun hne => hne q hq hid.symm
    simp [Ride.toDomain, hstatus]
  · rw [if_neg hid, Option.or_none]

theorem ratingsReceived_setEmergency (rideId : UUID) (text : String) :
    subject.ratingsReceived (db.setEmergency rideId text) ratings = subject.ratingsReceived db ratings := by
  refine ratingsReceived_congr fun q _ => ?_
  have hfind : (db.setEmergency rideId text).ride? q.rideId = _ :=
    congrArg (Option.map Ride.toDomain) (Table.find?_update db.rides rideId
      (fun r => { r with emergencyStatus := some text }) (fun _ => rfl) q.rideId)
  rw [hfind]
  unfold RideDb.ride?
  split_ifs
  · cases db.rides.find? q.rideId with
    | none => rfl
    | some r => cases subject <;> rfl
  · rfl

end ScoreSubject

end DiddiGo.Rides
