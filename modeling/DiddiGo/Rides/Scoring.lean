import DiddiGo.Rides.Outcomes

/-!
# Scores

The score of a driver or a passenger, computed from his rides and from the ratings that he received.
-/

namespace DiddiGo.Rides

open Data (Keyed)
open Transactions

/-- A rating of a ride; `raterRole` is `passenger` or `driver`. -/
structure RideRating where
  id : UUID
  rideId : UUID
  raterRole : String
  rating : Int
  comment : Option String := none
  deriving DecidableEq, Repr

/-! ## Stats -/

/-- What the scores are computed from. -/
structure ScoringStats where
  totalRides : Int
  eligibleRides : Int
  completedRides : Int
  cancelledRides : Int
  emergencyReports : Int
  ratingCount : Nat
  ratingAvg : Option Decimal
  deriving DecidableEq, Repr

namespace RideDb

variable (db : RideDb) (mine : Ride → Bool)

/-- The number of somebody's rides with `p` (`sum(case((p, 1), else_=0))`). -/
def countRides (p : Ride → Bool) : Int := db.rides.sum fun r => if mine r && p r then 1 else 0

/-- The ratings that he received for completed rides. -/
def ratingsReceived (ratings : List RideRating) (raterRole : String) : List RideRating :=
  ratings.filter fun q => q.raterRole = raterRole ∧
    ((db.ride? q.rideId).any fun r => mine r && decide (r.status = .completed)) = true

/-- `func.avg(rating)`. -/
def ratingAverage (ratings : List RideRating) : Option Decimal :=
  if ratings = [] then none
  else some (((ratings.map RideRating.rating).sum : Int) / (ratings.length : Decimal))

/-- `driver_scoring_stats` and `passenger_scoring_stats`: `cancelled` is the status of the rides that he
cancelled. -/
def scoringStats (ratings : List RideRating) (cancelled : RideStatus) (raterRole : String) : ScoringStats where
  totalRides := db.countRides mine fun _ => true
  eligibleRides := db.countRides mine fun r => r.status = .completed ∨ r.status = cancelled
  completedRides := db.countRides mine fun r => r.status = .completed
  cancelledRides := db.countRides mine fun r => r.status = cancelled
  emergencyReports := db.countRides mine fun r => r.emergencyStatus.isSome
  ratingCount := (db.ratingsReceived mine ratings raterRole).length
  ratingAvg := ratingAverage (db.ratingsReceived mine ratings raterRole)

/-- `driver_scoring_stats`. -/
def driverScoringStats (db : RideDb) (ratings : List RideRating) (driverId : UUID) : ScoringStats :=
  db.scoringStats (fun r => r.driverId = some driverId) ratings .cancelledByDriver "passenger"

/-- `passenger_scoring_stats`. -/
def passengerScoringStats (db : RideDb) (ratings : List RideRating) (userId : UUID) : ScoringStats :=
  db.scoringStats (fun r => r.passengerUserId = userId) ratings .cancelledByPassenger "driver"

end RideDb

/-! ## Scores -/

/-- `quantize(Decimal("0.01"))`. -/
def hundredths (x : Decimal) : Decimal := Decimal.roundHalfEven (100 * x) / 100

/-- What a client sees of a score. -/
structure ScorePayload where
  subjectType : String
  subjectId : String
  scoreValue : Decimal
  scoreLevel : String
  scoreStatus : String
  reasonCodes : List String
  lastCalculatedAt : DateTime
  sampleSize : Int
  metrics : ScoringStats
  completionRate : Decimal
  cancellationRate : Decimal
  deriving DecidableEq, Repr

/-- `_score_level`. -/
def scoreLevel (score : Decimal) (sampleSize : Int) : String :=
  if sampleSize < 5 then "new"
  else if 47 / 10 ≤ score then "excellent"
  else if 42 / 10 ≤ score then "good"
  else if 35 / 10 ≤ score then "fair"
  else "risk"

namespace ScoringStats

variable (stats : ScoringStats)

/-- The rating that counts; who has no ratings has the best one. -/
def ratingValue : Decimal := stats.ratingAvg.getD 5

/-- The part of the eligible rides that was completed. -/
def completionRate : Decimal :=
  if stats.eligibleRides = 0 then 0 else (stats.completedRides : Decimal) / stats.eligibleRides

/-- The part of the eligible rides that was cancelled. -/
def cancellationRate : Decimal :=
  if stats.eligibleRides = 0 then 0 else (stats.cancelledRides : Decimal) / stats.eligibleRides

/-- `_reason_codes`. -/
def reasonCodes : List String :=
  (if stats.totalRides = 0 then ["no_activity"] else []) ++
  (if stats.eligibleRides < 5 then ["insufficient_data"] else []) ++
  (if stats.ratingCount = 0 then []
    else if 47 / 10 ≤ stats.ratingValue then ["good_ratings"]
    else if stats.ratingValue < 35 / 10 then ["low_ratings"] else []) ++
  if stats.eligibleRides = 0 then []
  else
    (if 2 / 10 < stats.cancellationRate then ["high_cancellation"]
      else if stats.cancellationRate ≤ 5 / 100 then ["low_cancellation"] else []) ++
    if 8 / 10 ≤ stats.completionRate then ["reliable_completion"]
    else if stats.completionRate < 5 / 10 then ["low_completion"] else []

/-- The weighted sum of the score. -/
def score : Decimal :=
  hundredths (max 1 (min 5 (stats.ratingValue * (70 / 100) + stats.completionRate * 5 * (20 / 100)
    + (1 - stats.cancellationRate) * 5 * (10 / 100))))

/-- `_score_payload`. -/
def scorePayload (subjectType : String) (subjectId : UUID) (now : DateTime) : ScorePayload where
  subjectType := subjectType
  subjectId := subjectId.str
  scoreValue := stats.score
  scoreLevel := scoreLevel stats.score stats.eligibleRides
  scoreStatus := if stats.eligibleRides < 5 then "insufficient_data" else "stable"
  reasonCodes := stats.reasonCodes
  lastCalculatedAt := now
  sampleSize := stats.eligibleRides
  metrics := stats
  completionRate := stats.completionRate
  cancellationRate := stats.cancellationRate

end ScoringStats

/-! ## After a no-show -/

/-- A call that a client may send again after a no-show of the ride `x`. -/
def RideStep.RetriesNoShow (x : UUID) : RideStep → Prop
  | request c _ => c.op = .markNoShow x ∨ c.op = .updateStatus x "cancelled_by_driver"
  | elsewhere _ _ => False

namespace RideDb

/-- The cancellations of the driver in the ledger. -/
def cancellationsOf (db : RideDb) (driverId : UUID) : List PriorityEvent :=
  db.priorityEvents.filter fun e => e.driverId = driverId ∧ e.kind = .rideCancelledByDriver

end RideDb

/-- What the driver is spared: his score is not lowered, and no cancellation is recorded. -/
structure NoPenalty (ratings : List RideRating) (driverId : UUID) (db db' : RideDb) : Prop where
  score : (db.driverScoringStats ratings driverId).score ≤ (db'.driverScoringStats ratings driverId).score
  ledger : db'.cancellationsOf driverId = db.cancellationsOf driverId

/-- The score of a driver of whose eligible rides the part `share` was completed. -/
def scoreOfShare (rating share : Decimal) : Decimal :=
  hundredths (max 1 (min 5 (rating * (7 / 10) + share * (3 / 2))))

/-- One more eligible ride that is not completed costs the driver no hundredth. -/
def ScoringStats.SparesCancellation (stats : ScoringStats) : Prop :=
  stats.eligibleRides ≠ 0 ∧
    scoreOfShare stats.ratingValue (stats.completedRides / (stats.eligibleRides + 1)) =
      scoreOfShare stats.ratingValue (stats.completedRides / stats.eligibleRides)

/-! ## A sample -/

namespace Sample

/-- The driver has arrived. -/
def arrived : RideDb := runRides env (enRoute ++ [step (.markArrived 50) 2 "driver" 100]) db

/-- The driver has cancelled another ride before. -/
def cancelledBefore : RideDb :=
  runRides env (enRoute ++ [step (.markArrived 50) 2 "driver" 100])
    { db with rides := .insert .empty { id := 49, passengerUserId := 3, status := .cancelledByDriver, driverId := some 20 } }

/-- The passenger does not come. -/
def noShow : RideCall where
  op := .markNoShow 50
  actor := ⟨2, "driver"⟩
  config := dispatchConfigFromSettings env.settings
  clock := { now := seconds 1000 }

/-- The driver marks the no-show again. -/
def noShowRetry : RideStep := step (.markNoShow 50) 2 "driver" 1010

/-- The driver asks for the status that the ride has. -/
def cancelRetry : RideStep := step (.updateStatus 50 "cancelled_by_driver") 2 "driver" 1010

end Sample

/-!
## Fair scores

What a score may depend on: the rides that its subject has completed, his own cancellations, and the ratings
that he received for completed rides.
-/

/-- Whose score it is. -/
inductive ScoreSubject
  | driver (driverId : UUID)
  | passenger (userId : UUID)
  deriving DecidableEq, Repr

namespace ScoreSubject

variable (subject : ScoreSubject) (db : RideDb) (ratings : List RideRating)

/-- His rides. -/
def mine : ScoreSubject → Ride → Bool
  | driver driverId, r => r.driverId = some driverId
  | passenger userId, r => r.passengerUserId = userId

/-- The status of the rides that he cancelled. -/
def ownCancellation : ScoreSubject → RideStatus
  | driver _ => .cancelledByDriver
  | passenger _ => .cancelledByPassenger

/-- Who rates him. -/
def raterRole : ScoreSubject → String
  | driver _ => "passenger"
  | passenger _ => "driver"

/-- What his score is computed from. -/
def stats : ScoreSubject → ScoringStats
  | driver driverId => db.driverScoringStats ratings driverId
  | passenger userId => db.passengerScoringStats ratings userId

/-- His rides with the status. -/
def ridesWith (status : RideStatus) : List Ride :=
  db.rides.rows.filter fun r => subject.mine r && decide (r.status = status)

/-- The values of the ratings that he received for completed rides. -/
def ratingsReceived : List Int :=
  (db.ratingsReceived subject.mine ratings subject.raterRole).map RideRating.rating

/-- A ride that says nothing about his reliability: it is active, no driver was found, or the other party
cancelled it. -/
def Neutral (r : Ride) : Prop := r.status ≠ .completed ∧ r.status ≠ subject.ownCancellation

end ScoreSubject

/-- The same score with the same level, for the same reasons, `no_activity` apart. -/
structure SameScore (stats stats' : ScoringStats) : Prop where
  score : stats'.score = stats.score
  level : scoreLevel stats'.score stats'.eligibleRides = scoreLevel stats.score stats.eligibleRides
  reasons : stats'.reasonCodes.filter (· ≠ "no_activity") = stats.reasonCodes.filter (· ≠ "no_activity")

/-- The same rating, which is not lower. -/
structure RideRating.Raised (q q' : RideRating) : Prop where
  rideId : q'.rideId = q.rideId
  raterRole : q'.raterRole = q.raterRole
  rating : q.rating ≤ q'.rating

/-- An SOS is recorded with a ride. -/
def RideDb.setEmergency (db : RideDb) (rideId : UUID) (status : String) : RideDb :=
  { db with rides := db.rides.update rideId fun r => { r with emergencyStatus := some status } }

/-- The laws of the score of `subject`. -/
structure FairScore (subject : ScoreSubject) (db : RideDb) (ratings : List RideRating) : Prop where
  bounded : 1 ≤ (subject.stats db ratings).score ∧ (subject.stats db ratings).score ≤ 5
  /-- Nothing but these three things matters. -/
  depends : ∀ db' ratings', subject.ridesWith db' .completed = subject.ridesWith db .completed →
    subject.ridesWith db' subject.ownCancellation = subject.ridesWith db subject.ownCancellation →
    subject.ratingsReceived db' ratings' = subject.ratingsReceived db ratings →
    SameScore (subject.stats db ratings) (subject.stats db' ratings')
  neutral : ∀ r, db.rides.find? r.id = none → subject.Neutral r →
    SameScore (subject.stats db ratings) (subject.stats (db.insertRide r) ratings)
  emergency : ∀ rideId status,
    SameScore (subject.stats db ratings) (subject.stats (db.setEmergency rideId status) ratings)
  completed : ∀ r, db.rides.find? r.id = none → r.status = .completed → (∀ q ∈ ratings, q.rideId ≠ r.id) →
    (subject.stats db ratings).score ≤ (subject.stats (db.insertRide r) ratings).score
  cancelled : ∀ r, db.rides.find? r.id = none → r.status = subject.ownCancellation →
    (subject.stats (db.insertRide r) ratings).score ≤ (subject.stats db ratings).score
  raised : ∀ ratings', List.Forall₂ RideRating.Raised ratings ratings' →
    (subject.stats db ratings).score ≤ (subject.stats db ratings').score

end DiddiGo.Rides
