import DiddiGo.Data.Grouping
import DiddiGo.Payments.Database

/-!
# Earnings of a driver

`summarize_driver_earnings` adds up settled rides and withdrawals by day, week or month. The local time of an instant
is what the database makes of the time zone `Africa/Abidjan`.
-/

namespace DiddiGo.Payments

open Data (Dict groupBy)
open Transactions

/-! ## Calendar -/

/-- Days since 1 January 1970. -/
abbrev Date := Int

/-- Microseconds in a day. -/
def dayLength : Int := 86400000000

/-- `t.date()`. -/
def dateOf (t : DateTime) : Date := t / dayLength

/-- Midnight. -/
def startOfDay (d : Date) : DateTime := d * dayLength

/-- The day of the month, from 1 on, in the Gregorian calendar. -/
def dayOfMonth (d : Date) : Int :=
  -- The years of an era of 400 start in March, so that the leap day is the last one.
  let dayOfEra := (d + 719468) % 146097
  let yearOfEra := (dayOfEra - dayOfEra / 1460 + dayOfEra / 36524 - dayOfEra / 146096) / 365
  let dayOfYear := dayOfEra - (365 * yearOfEra + yearOfEra / 4 - yearOfEra / 100)
  let month := (5 * dayOfYear + 2) / 153
  dayOfYear - (153 * month + 2) / 5 + 1

/-- Days to the last Monday. -/
def weekday (d : Date) : Int := (d + 3) % 7

/-- The granularity of a summary. -/
inductive Period
  | day
  | week
  | month
  deriving DecidableEq, Repr

/-- The first day of the period of a day. -/
def Period.firstDay : Period → Date → Date
  | day, d => d
  | week, d => d - weekday d
  | month, d => d - (dayOfMonth d - 1)

/-- `date_trunc(period, t)`. -/
def dateTrunc (period : Period) (t : DateTime) : DateTime := startOfDay (period.firstDay (dateOf t))

/-! ## Rows -/

/-- One calendar bucket of the dashboard. -/
structure DriverEarningsBucket where
  periodStart : Date
  rideEarnings : Decimal := 0
  platformCommissions : Decimal := 0
  withdrawalsSucceeded : Decimal := 0
  pendingOrDisputed : Decimal := 0
  deriving DecidableEq, Repr

namespace PaymentStatus

/-- `acquired_statuses`. -/
def isAcquired : PaymentStatus → Bool
  | collected | succeeded => true
  | _ => false

/-- `pending_statuses`. -/
def isPendingOrDisputed : PaymentStatus → Bool
  | pending | requiresAction | processing | disputed => true
  | _ => false

end PaymentStatus

/-- What a summary is about: the driver, the range, and the local time of an instant. -/
structure EarningsQuery where
  driverId : UUID
  start : DateTime
  stop : DateTime
  /-- `timezone('Africa/Abidjan', t)`. -/
  localTime : DateTime → DateTime

/-- A transaction with its ride and the local time when it was settled. -/
structure SettledRide where
  settledAt : DateTime
  transaction : Transaction
  ride : Rides.Ride

namespace EarningsQuery

variable (q : EarningsQuery)

/-- `local_settled_at`; `none` is `NULL`. -/
def localSettledAt (transaction : Transaction) (ride : Rides.Ride) : Option DateTime :=
  (if transaction.status.isAcquired then transaction.collectedAt.or (transaction.paidAt.or ride.completedAt)
    else some transaction.createdAt).map q.localTime

/-- The instant is in the range. -/
def contains (t : DateTime) : Bool := decide (q.start ≤ t) && decide (t < q.stop)

/-- The transactions of completed rides of the driver that were settled in the range. -/
def settledRides (db : PaymentDb) : List SettledRide :=
  db.transactions.rows.filterMap fun transaction => do
    let ride ← db.rides.find? transaction.rideId
    let settledAt ← q.localSettledAt transaction ride
    if ride.driverId = some q.driverId ∧ ride.status = .completed ∧ q.contains settledAt = true then
      some ⟨settledAt, transaction, ride⟩
    else none

/-- The withdrawals of the driver that succeeded in the range, with the local times of that. -/
def succeededWithdrawals (db : PaymentDb) : List (DateTime × Decimal) :=
  db.withdrawals.rows.filterMap fun withdrawal => do
    let succeededAt ← withdrawal.succeededAt.map q.localTime
    if withdrawal.driverId = q.driverId ∧ withdrawal.status = .succeeded ∧ q.contains succeededAt = true then
      some (succeededAt, withdrawal.amount)
    else none

end EarningsQuery

namespace SettledRide

/-- What `sum` adds for `ride_earnings`. -/
def earned (row : SettledRide) : Decimal :=
  if row.transaction.status.isAcquired then row.ride.driverPayoutEstimate.getD 0 else 0

/-- What `sum` adds for `platform_commissions`. -/
def commission (row : SettledRide) : Decimal :=
  if row.transaction.status.isAcquired then row.ride.platformCommission.getD 0 else 0

/-- What `sum` adds for `pending_or_disputed`. -/
def outstanding (row : SettledRide) : Decimal :=
  if row.transaction.status.isPendingOrDisputed then row.ride.driverPayoutEstimate.getD 0 else 0

end SettledRide

/-! ## The summary -/

/-- The bucket of a group of rides. -/
def rideBucket (date : Date) (rows : List SettledRide) : DriverEarningsBucket where
  periodStart := date
  rideEarnings := (rows.map SettledRide.earned).sum
  platformCommissions := (rows.map SettledRide.commission).sum
  pendingOrDisputed := (rows.map SettledRide.outstanding).sum

/-- `current`, with a group of withdrawals. -/
def withWithdrawals (date : Date) (current : DriverEarningsBucket) (rows : List (DateTime × Decimal)) :
    DriverEarningsBucket where
  periodStart := date
  rideEarnings := current.rideEarnings
  platformCommissions := current.platformCommissions
  withdrawalsSucceeded := (rows.map Prod.snd).sum
  pendingOrDisputed := current.pendingOrDisputed

/-- `buckets` after the first loop. -/
def rideBuckets (groups : List (DateTime × List SettledRide)) : Dict Date DriverEarningsBucket :=
  groups.foldl (fun buckets row => Dict.set buckets (dateOf row.1) (rideBucket (dateOf row.1) row.2)) []

/-- `buckets` after the second loop. -/
def allBuckets (buckets : Dict Date DriverEarningsBucket) (groups : List (DateTime × List (DateTime × Decimal))) :
    Dict Date DriverEarningsBucket :=
  groups.foldl (fun buckets row =>
    let current := (Dict.get buckets (dateOf row.1)).getD { periodStart := dateOf row.1 }
    Dict.set buckets (dateOf row.1) (withWithdrawals (dateOf row.1) current row.2)) buckets

/-- `summarize_driver_earnings`. -/
def summarizeDriverEarnings (q : EarningsQuery) (period : Period) : Action (List DriverEarningsBucket) := do
  let ridesResult ← Prog.select fun db => groupBy (fun row => dateTrunc period row.settledAt) (q.settledRides db)
  let withdrawalsResult ← Prog.select fun db =>
    groupBy (fun row => dateTrunc period row.1) (q.succeededWithdrawals db)
  return (allBuckets (rideBuckets ridesResult) withdrawalsResult).map Prod.snd

/-! ## What a summary has to be -/

/-- The columns of a bucket. -/
inductive EarningsColumn
  | rideEarnings
  | platformCommissions
  | withdrawalsSucceeded
  | pendingOrDisputed
  deriving DecidableEq, Repr

/-- The amount in a column. -/
def DriverEarningsBucket.amount (bucket : DriverEarningsBucket) : EarningsColumn → Decimal
  | .rideEarnings => bucket.rideEarnings
  | .platformCommissions => bucket.platformCommissions
  | .withdrawalsSucceeded => bucket.withdrawalsSucceeded
  | .pendingOrDisputed => bucket.pendingOrDisputed

/-- An amount that is counted in one column. -/
structure EarningsItem where
  settledAt : DateTime
  column : EarningsColumn
  amount : Decimal
  deriving DecidableEq, Repr

/-- A paid ride counts the driver's part and the commission, one that may still be paid the driver's part. -/
def SettledRide.items (row : SettledRide) : List EarningsItem :=
  if row.transaction.status.isAcquired then
    [⟨row.settledAt, .rideEarnings, row.ride.driverPayoutEstimate.getD 0⟩,
      ⟨row.settledAt, .platformCommissions, row.ride.platformCommission.getD 0⟩]
  else if row.transaction.status.isPendingOrDisputed then
    [⟨row.settledAt, .pendingOrDisputed, row.ride.driverPayoutEstimate.getD 0⟩]
  else []

namespace EarningsQuery

variable (q : EarningsQuery)

/-- Everything that is counted in the range. -/
def items (db : PaymentDb) : List EarningsItem :=
  (q.settledRides db).flatMap SettledRide.items ++
    (q.succeededWithdrawals db).map fun row => ⟨row.1, .withdrawalsSucceeded, row.2⟩

/-- The buckets that the driver is shown. -/
def buckets (db : PaymentDb) (period : Period) : List DriverEarningsBucket :=
  (allBuckets (rideBuckets (groupBy (fun row => dateTrunc period row.settledAt) (q.settledRides db)))
    (groupBy (fun row => dateTrunc period row.1) (q.succeededWithdrawals db))).map Prod.snd

/-- What holds of the summaries of a range. -/
structure Faithful (db : PaymentDb) : Prop where
  /-- The total of a column does not depend on the period. -/
  sameTotals : ∀ period period' column,
    ((q.buckets db period).map fun bucket => bucket.amount column).sum =
      ((q.buckets db period').map fun bucket => bucket.amount column).sum
  /-- Every item is in one bucket. -/
  counted : ∀ period, ∀ item ∈ q.items db, ∃! bucket, bucket ∈ q.buckets db period ∧
    bucket.periodStart = dateOf (dateTrunc period item.settledAt)
  /-- A column of a bucket is the sum of the items that are in it. -/
  amounts : ∀ period, ∀ bucket ∈ q.buckets db period, ∀ column, bucket.amount column =
    (((q.items db).filter fun item => item.column = column ∧
      dateOf (dateTrunc period item.settledAt) = bucket.periodStart).map EarningsItem.amount).sum
  /-- Every date appears once. -/
  once : ∀ period, ((q.buckets db period).map DriverEarningsBucket.periodStart).Nodup
  /-- The buckets are in chronological order. -/
  chronological : ∀ period, (q.buckets db period).Pairwise fun b b' => b.periodStart ≤ b'.periodStart

/-- A period with withdrawals and no rides comes after all periods with rides. -/
def WithdrawalsLast (db : PaymentDb) (period : Period) : Prop :=
  ∀ withdrawal ∈ q.succeededWithdrawals db,
    (∀ row ∈ q.settledRides db, dateTrunc period row.settledAt ≠ dateTrunc period withdrawal.1) →
      ∀ row ∈ q.settledRides db, dateTrunc period row.settledAt ≤ dateTrunc period withdrawal.1

end EarningsQuery

end DiddiGo.Payments
