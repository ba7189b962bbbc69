import DiddiGo.Basic
import DiddiGo.Data.Calendar
import DiddiGo.Data.FiniteDecimal
import DiddiGo.Data.Grouping
import Mathlib.Data.String.Basic
import Mathlib.Logic.Function.Basic

/-!
# Daily totals for Pilotage

The summary of a day, and its breakdowns by hour, payment method, service type or status. Both read the table `rides`;
breakdowns are kept in Redis.
-/

namespace DiddiGo.Rides

open Data (FiniteDecimal Instant Json groupBy)

/-! ## Selections -/

/-- What a breakdown is grouped by. -/
inductive BreakdownDimension
  | hour
  | paymentMethod
  | serviceType
  | finalStatus
  deriving DecidableEq, Repr

/-- What a breakdown counts or adds up. -/
inductive BreakdownMetric
  | ridesRequested
  | ridesCompleted
  | completedFareTotalXof
  deriving DecidableEq, Repr

namespace BreakdownDimension

def value : BreakdownDimension → String
  | hour => "hour"
  | paymentMethod => "payment_method"
  | serviceType => "service_type"
  | finalStatus => "final_status"

/-- `BreakdownDimension(raw)`; `none` is a `ValueError`. -/
def ofValue (raw : String) : Option BreakdownDimension :=
  [hour, paymentMethod, serviceType, finalStatus].find? fun dimension => dimension.value = raw

end BreakdownDimension

namespace BreakdownMetric

def value : BreakdownMetric → String
  | ridesRequested => "rides_requested"
  | ridesCompleted => "rides_completed"
  | completedFareTotalXof => "completed_fare_total_xof"

/-- `BreakdownMetric(raw)`; `none` is a `ValueError`. -/
def ofValue (raw : String) : Option BreakdownMetric :=
  [ridesRequested, ridesCompleted, completedFareTotalXof].find? fun metric => metric.value = raw

end BreakdownMetric

/-- `SUPPORTED_BREAKDOWNS`. -/
def supportedBreakdowns : List (BreakdownDimension × BreakdownMetric) :=
  [(.hour, .ridesRequested), (.hour, .ridesCompleted), (.hour, .completedFareTotalXof),
    (.paymentMethod, .ridesRequested), (.paymentMethod, .ridesCompleted), (.paymentMethod, .completedFareTotalXof),
    (.serviceType, .ridesRequested), (.serviceType, .ridesCompleted), (.serviceType, .completedFareTotalXof),
    (.finalStatus, .ridesRequested)]

/-- The settings, and what the time zone databases say about `Africa/Abidjan`. -/
structure PilotageEnv where
  rideSummaryMaxAgeDays : Int := 31
  pilotageBreakdownCurrentTtlSeconds : Int := 300
  pilotageBreakdownFinalTtlSeconds : Int := 86400
  pilotageSummaryFreshnessWindowSeconds : Int := 600
  /-- `t.astimezone(ABIDJAN_TIMEZONE)`. -/
  localTime : DateTime → DateTime
  /-- `t.astimezone(UTC)` of a local time. -/
  ofLocalTime : DateTime → DateTime
  /-- `timezone('Africa/Abidjan', t)`, in the database. -/
  databaseLocalTime : DateTime → DateTime

/-! ## Days -/

section

variable (env : PilotageEnv)

/-- `datetime.now(ABIDJAN_TIMEZONE).date()`, in days. -/
def PilotageEnv.today (now : DateTime) : Int := env.localTime now / Data.microsOfDay

/-- `re.fullmatch(r"\d{4}-\d{2}-\d{2}", day)`, with ASCII digits. -/
def matchesDay (day : String) : Bool :=
  day.toList.map (fun c => if c.isDigit then 'd' else c) = "dddd-dd-dd".toList

/-- A day of the calendar with the instants where it starts and ends. -/
structure DayPeriod where
  selectedDay : Int
  start : DateTime
  stop : DateTime
  deriving DecidableEq, Repr

/-- The period of a day, where `overflow` and `outOfRange` are the messages for the last day of the calendar and for
days that are too old. -/
def selectPeriod (overflow : String) (outOfRange : Int → Int → String) (now : DateTime) (day : String) :
    Except Err DayPeriod := do
  if matchesDay day = false then
    throw (.api ⟨422, "INVALID_DATE", "La date doit suivre le format YYYY-MM-DD.", .null⟩)
  let some selectedDay := Data.dateFromIsoFormat day
    | throw (.api ⟨422, "INVALID_DATE", "Date calendaire invalide.", .null⟩)
  let nextDay := selectedDay + 1
  if ¬ (Data.CivilDate.ofDays nextDay).Exists then throw (.api ⟨422, "INVALID_DATE", overflow, .null⟩)
  let today := env.today now
  if today < selectedDay then
    throw (.api ⟨422, "SUMMARY_DATE_IN_FUTURE", "La date ne peut pas etre dans le futur.", .null⟩)
  let oldest := today - env.rideSummaryMaxAgeDays
  if selectedDay < oldest then throw (.api ⟨422, "SUMMARY_DATE_OUT_OF_RANGE", outOfRange oldest today, .null⟩)
  return {
    selectedDay := selectedDay
    start := env.ofLocalTime (selectedDay * Data.microsOfDay)
    stop := env.ofLocalTime (nextDay * Data.microsOfDay) }

/-- `RideBreakdownService._period`. -/
def breakdownPeriod : DateTime → String → Except Err DayPeriod :=
  selectPeriod env "Date calendaire invalide." fun _ _ => "Date hors plage Pilotage acceptee."

/-- The text of a day. -/
def isoDay (day : Int) : String := String.ofList (Data.CivilDate.ofDays day).isoFormat

/-- `RideSummaryService._period_for_day`. -/
def summaryPeriod : DateTime → String → Except Err DayPeriod :=
  selectPeriod env "Date hors plage acceptee." fun oldest today =>
    s!"La date doit etre comprise entre {isoDay oldest} et {isoDay today}."

end

/-! ## Queries -/

/-- The columns of `rides` that the queries read. -/
structure RideRow where
  id : UUID
  status : String
  vehicleCategory : String
  paymentMethod : String
  isReviewAccount : Bool
  requestedAt : DateTime
  completedAt : Option DateTime
  currency : String
  /-- `final_fare`, in hundredths. -/
  finalFare : Option Int
  deriving DecidableEq, Repr

/-- `t >= start AND t < stop`; `NULL` is not. -/
def within (start stop : DateTime) : Option DateTime → Bool
  | some t => decide (start ≤ t) && decide (t < stop)
  | none => false

/-- `coalesce(sum(...), 0)` of values in hundredths: `NULL`s are skipped, and of nothing else the sum is `NULL`. -/
def coalesceSum (values : List (Option Int)) : FiniteDecimal :=
  match values.filterMap id with
  | [] => .ofInt 0
  | v :: vs => ⟨(v :: vs).sum, -2⟩

structure RideSummaryTotals where
  ridesRequested : Nat
  ridesCompleted : Nat
  completedFareTotalXof : FiniteDecimal
  completedRidesWithoutFare : Nat
  deriving DecidableEq, Repr

/-- `summarize_period`. -/
def summarizePeriod (rows : List RideRow) (start stop : DateTime) : RideSummaryTotals :=
  let requested := rows.filter fun row => within start stop (some row.requestedAt) && !row.isReviewAccount
  let completed := rows.filter fun row =>
    decide (row.status = "completed") && within start stop row.completedAt && !row.isReviewAccount
  { ridesRequested := requested.length
    ridesCompleted := completed.length
    completedFareTotalXof := coalesceSum (completed.map fun row => if row.currency = "XOF" then row.finalFare else none)
    completedRidesWithoutFare :=
      (completed.filter fun row => decide (row.currency = "XOF") && row.finalFare.isNone).length }

structure BreakdownItem where
  key : String
  value : FiniteDecimal
  deriving DecidableEq, Repr

/-- The time column of a metric. -/
def BreakdownMetric.timestamp (metric : BreakdownMetric) (row : RideRow) : Option DateTime :=
  if metric = .ridesRequested then some row.requestedAt else row.completedAt

/-- `to_char(t, 'HH24')`. -/
def hourText (t : DateTime) : String := String.ofList (Data.padded 2 (t % Data.microsOfDay / 3600000000).toNat)

/-- `_dimension_expression`; `none` is `NULL`. -/
def dimensionExpression (env : PilotageEnv) (dimension : BreakdownDimension) (timestamp : RideRow → Option DateTime)
    (row : RideRow) : Option String :=
  match dimension with
  | .hour => (timestamp row).map fun t => hourText (env.databaseLocalTime t)
  | .paymentMethod => some row.paymentMethod
  | .serviceType => some row.vehicleCategory
  | .finalStatus => some row.status

/-- The value of a group. -/
def valueExpression (metric : BreakdownMetric) (group : List RideRow) : FiniteDecimal :=
  if metric ≠ .completedFareTotalXof then .ofInt group.length else coalesceSum (group.map RideRow.finalFare)

/-- `aggregate`. -/
def aggregate (env : PilotageEnv) (rows : List RideRow) (start stop : DateTime) (dimension : BreakdownDimension)
    (metric : BreakdownMetric) : List BreakdownItem :=
  let selected := rows.filter fun row => within start stop (metric.timestamp row) && !row.isReviewAccount
  let selected := if metric ≠ .ridesRequested then selected.filter fun row => row.status = "completed" else selected
  let selected :=
    if metric = .completedFareTotalXof then selected.filter fun row => row.currency = "XOF" else selected
  -- The group of `NULL` is dropped.
  let keyed := selected.filterMap fun row =>
    (dimensionExpression env dimension metric.timestamp row).map fun key => (key, row)
  (groupBy Prod.fst keyed).map fun group => ⟨group.1, valueExpression metric (group.2.map Prod.snd)⟩

/-! ## The summary -/

structure DailySummary where
  date : String
  ridesRequested : Int
  ridesCompleted : Int
  completedFareTotalXof : Int
  deriving DecidableEq, Repr

/-- `daily_summary`; `none` in place of the rows is an `SQLAlchemyError`. -/
def dailySummary (env : PilotageEnv) (now : DateTime) (rows : Option (List RideRow)) (day : String) :
    Except Err DailySummary := do
  let period ← summaryPeriod env now day
  let some rows := rows
    | throw (.api ⟨503, "RIDE_SUMMARY_UNAVAILABLE", "Resume des courses temporairement indisponible.", .null⟩)
  let totals := summarizePeriod rows period.start period.stop
  let fare := totals.completedFareTotalXof.toRat
  if fare ≠ Decimal.roundHalfEven fare then
    throw (.api ⟨500, "INVALID_RIDE_FARE", "Montant XOF non entier dans les courses terminees.", .null⟩)
  return {
    date := day
    ridesRequested := totals.ridesRequested
    ridesCompleted := totals.ridesCompleted
    completedFareTotalXof := Decimal.toInt fare }

/-! ## Breakdowns -/

structure RideBreakdown where
  total : FiniteDecimal
  items : List BreakdownItem
  calculatedAt : Instant
  deriving DecidableEq

/-- `is_consistent`. -/
def RideBreakdown.isConsistent (b : RideBreakdown) : Bool :=
  (FiniteDecimal.sum (b.items.map BreakdownItem.value)).toRat = b.total.toRat

/-- `t.isoformat().replace("+00:00", "Z")`. -/
def isoFormatZ (t : Instant) : String := Data.replace (Data.isoFormat t) "+00:00" "Z"

/-- `_calculate`; `none` in place of the rows is an `SQLAlchemyError`. -/
def calculate (env : PilotageEnv) (rows : Option (List RideRow)) (period : DayPeriod) (dimension : BreakdownDimension)
    (metric : BreakdownMetric) (calculatedAt : Instant) : Except Err RideBreakdown := do
  let some rows := rows
    | throw (.api ⟨503, "RIDE_BREAKDOWN_UNAVAILABLE", "Ventilation temporairement indisponible.", .null⟩)
  let items := aggregate env rows period.start period.stop dimension metric
  return ⟨.sum (items.map BreakdownItem.value), items, calculatedAt⟩

/-! ## The cache -/

/-- The texts in Redis, kept as the values that they encode, with the instants from which they are gone, and whether
Redis answers. -/
structure BreakdownCache where
  values : String → Option (Json × DateTime) := fun _ => none
  readable : Bool := true
  writable : Bool := true

/-- How reading from the cache can fail. -/
inductive CacheFailure
  /-- `RedisError`, `ValueError`, `TypeError` or `KeyError`, which the service catches. -/
  | caught
  /-- Any other exception. -/
  | escapes (name : String)
  deriving DecidableEq, Repr

namespace BreakdownCache

/-- `Decimal(j)`. -/
def decimalOf : Json → Except CacheFailure FiniteDecimal
  | .str s => (FiniteDecimal.ofString s).elim (.error (.escapes "InvalidOperation")) .ok
  | .int n => .ok (.ofInt n)
  | _ => .error .caught

/-- The items of an array. -/
def itemsOf : Json → Except CacheFailure (List BreakdownItem)
  | .arrNil => .ok []
  | .arrCons item rest => do
    let .str key := item.get "key" | throw .caught
    let value ← decimalOf (item.get "value")
    let items ← itemsOf rest
    return ⟨key, value⟩ :: items
  | _ => .error .caught

/-- `datetime.fromisoformat(j.replace("Z", "+00:00"))`. -/
def instantOf : Json → Except CacheFailure Instant
  | .str s => (Data.fromIsoFormat (Data.replace s "Z" "+00:00")).elim (.error .caught) .ok
  | _ => .error (.escapes "AttributeError")

/-- The breakdown that a text encodes. -/
def decode (payload : Json) : Except CacheFailure RideBreakdown := do
  if payload.isObject = false then throw .caught
  let total ← decimalOf (payload.get "total")
  let items ← itemsOf (payload.get "items")
  let calculatedAt ← instantOf (payload.get "calculated_at")
  return ⟨total, items, calculatedAt⟩

/-- The text of a breakdown. -/
def encode (b : RideBreakdown) : Json :=
  .ofMembers [("total", .str b.total.text),
    ("items", b.items.foldr (fun item rest =>
      .arrCons (.ofMembers [("key", .str item.key), ("value", .str item.value.text)]) rest) .arrNil),
    ("calculated_at", .str (isoFormatZ b.calculatedAt))]

/-- `key`. -/
def key (day dimension metric : String) : String := s!"pilotage:breakdown:v1:{day}:{dimension}:{metric}"

/-- `get`. -/
def get (cache : BreakdownCache) (now : DateTime) (day dimension metric : String) :
    Except CacheFailure (Option RideBreakdown) :=
  if cache.readable = false then .error .caught
  else
    match cache.values (key day dimension metric) with
    | none => .ok none
    | some (payload, expiry) => if now < expiry then (decode payload).map some else .ok none

/-- `set`; if Redis does not answer, it is a `RedisError`, which the service catches. -/
def set (cache : BreakdownCache) (now : DateTime) (day dimension metric : String) (b : RideBreakdown)
    (ttlSeconds : Int) : BreakdownCache :=
  if cache.writable = false then cache
  else
    { cache with
      values := Function.update cache.values (key day dimension metric) (some (encode b, now + seconds ttlSeconds)) }

end BreakdownCache

/-! ## The service -/

structure BreakdownResponse where
  date : String
  dimension : String
  metric : String
  unit : String
  total : FiniteDecimal
  /-- Each with its label. -/
  items : List (BreakdownItem × String)
  isFinal : Bool
  calculatedAt : String
  deriving DecidableEq, Repr

/-- `LABELS.get(key, key)`. -/
def breakdownLabel (key : String) : String :=
  (([("cash", "Espèces"), ("mobile_money", "Mobile Money"), ("standard", "Standard"), ("comfort", "Confort"),
    ("van", "Van")] : List (String × String)).lookup key).getD key

/-- When the clock is read during a request. -/
structure BreakdownTimes where
  requestedAt : DateTime
  readAt : DateTime
  calculatedAt : Instant
  writtenAt : DateTime
  answeredAt : DateTime

section

variable (env : PilotageEnv)

/-- `_selection`. -/
def selectBreakdown (rawDimension rawMetric : String) : Except Err (BreakdownDimension × BreakdownMetric) :=
  let unavailable : Err := .api ⟨404, "BREAKDOWN_NOT_AVAILABLE", "Ventilation Pilotage indisponible.", .null⟩
  match BreakdownDimension.ofValue rawDimension, BreakdownMetric.ofValue rawMetric with
  | some dimension, some metric =>
    if (dimension, metric) ∈ supportedBreakdowns then .ok (dimension, metric) else .error unavailable
  | _, _ => .error unavailable

/-- `_cache_get`. -/
def cacheGet (cache : BreakdownCache) (now : DateTime) (day : String) (dimension : BreakdownDimension)
    (metric : BreakdownMetric) : Except Err (Option RideBreakdown) :=
  match cache.get now day dimension.value metric.value with
  | .ok cached => .ok cached
  | .error .caught => .ok none
  | .error (.escapes name) => .error (.other name)

/-- For how long a breakdown is kept. -/
def ttlSeconds (now : DateTime) (selectedDay : Int) : Int :=
  if selectedDay = env.today now then env.pilotageBreakdownCurrentTtlSeconds else env.pilotageBreakdownFinalTtlSeconds

/-- `_cache_set`. -/
def cacheSet (cache : BreakdownCache) (now : DateTime) (day : String) (selectedDay : Int)
    (dimension : BreakdownDimension) (metric : BreakdownMetric) (b : RideBreakdown) : BreakdownCache :=
  cache.set now day dimension.value metric.value b (ttlSeconds env now selectedDay)

/-- A value in a response: counts are integers. -/
def responseValue (metric : BreakdownMetric) (d : FiniteDecimal) : FiniteDecimal :=
  if metric ≠ .completedFareTotalXof then .ofInt (Decimal.toInt d.toRat) else d

/-- `_response`, behind the check of the total. -/
def respond (answeredAt : DateTime) (day : String) (selectedDay : Int) (dimension : BreakdownDimension)
    (metric : BreakdownMetric) (b : RideBreakdown) : Except Err BreakdownResponse := do
  if b.isConsistent = false then
    throw (.api ⟨500, "BREAKDOWN_TOTAL_MISMATCH", "Ventilation Pilotage incoherente.", .null⟩)
  return {
    date := day
    dimension := dimension.value
    metric := metric.value
    unit := if metric ≠ .completedFareTotalXof then "count" else "XOF"
    total := responseValue metric b.total
    items := b.items.map fun item => (⟨item.key, responseValue metric item.value⟩, breakdownLabel item.key)
    isFinal := decide (selectedDay < env.today answeredAt)
    calculatedAt := isoFormatZ b.calculatedAt }

/-- `breakdown`: the answer, and the cache after it. -/
def breakdown (times : BreakdownTimes) (cache : BreakdownCache) (rows : Option (List RideRow))
    (day rawDimension rawMetric : String) : Except Err BreakdownResponse × BreakdownCache :=
  match breakdownPeriod env times.requestedAt day, selectBreakdown rawDimension rawMetric with
  | .error e, _ => (.error e, cache)
  | .ok _, .error e => (.error e, cache)
  | .ok period, .ok (dimension, metric) =>
    match cacheGet cache times.readAt day dimension metric with
    | .error e => (.error e, cache)
    | .ok (some cached) => (respond env times.answeredAt day period.selectedDay dimension metric cached, cache)
    | .ok none =>
      match calculate env rows period dimension metric times.calculatedAt with
      | .error e => (.error e, cache)
      | .ok result =>
        (respond env times.answeredAt day period.selectedDay dimension metric result,
          cacheSet env cache times.writtenAt day period.selectedDay dimension metric result)

end

/-! ## Agreement -/

namespace BreakdownMetric

/-- The ride is one that the metric is about. -/
def counts (metric : BreakdownMetric) (start stop : DateTime) (row : RideRow) : Bool :=
  !row.isReviewAccount &&
    match metric with
    | ridesRequested => within start stop (some row.requestedAt)
    | ridesCompleted => decide (row.status = "completed") && within start stop row.completedAt
    | completedFareTotalXof =>
      decide (row.status = "completed") && within start stop row.completedAt && decide (row.currency = "XOF")

/-- What a ride adds to the metric; a missing fare adds nothing. -/
def share (metric : BreakdownMetric) (row : RideRow) : ℚ :=
  match metric with
  | completedFareTotalXof => (row.finalFare.getD 0 : ℚ) / 100
  | _ => 1

/-- The group of a ride. -/
def groupOf (env : PilotageEnv) (dimension : BreakdownDimension) (metric : BreakdownMetric) (row : RideRow) :
    Option String := dimensionExpression env dimension metric.timestamp row

/-- The metric in a summary. -/
def ofSummary (summary : DailySummary) : BreakdownMetric → Int
  | ridesRequested => summary.ridesRequested
  | ridesCompleted => summary.ridesCompleted
  | completedFareTotalXof => summary.completedFareTotalXof

end BreakdownMetric

/-- A response with the breakdown of the rides of a day. -/
structure BreakdownResponse.Agrees (env : PilotageEnv) (rows : List RideRow) (day : String) (period : DayPeriod)
    (dimension : BreakdownDimension) (metric : BreakdownMetric) (response : BreakdownResponse) : Prop where
  distinct : (response.items.map fun item => item.1.key).Nodup
  /-- Each ride that counts has its item. -/
  one : ∀ row ∈ rows, metric.counts period.start period.stop row →
    ∃! item, item ∈ response.items ∧ metric.groupOf env dimension row = some item.1.key
  /-- An item adds up the rides of its group. -/
  value : ∀ item ∈ response.items, item.1.value.toRat =
    ((rows.filter fun row => metric.counts period.start period.stop row &&
      decide (metric.groupOf env dimension row = some item.1.key)).map metric.share).sum
  /-- The total is the one that a summary of the day reports, whenever it is asked for. -/
  total : ∀ now summary, dailySummary env now (some rows) day = .ok summary →
    response.total.toRat = metric.ofSummary summary

/-- A breakdown that is written to the cache. -/
structure CacheWrite where
  now : DateTime
  day : String
  selectedDay : Int
  dimension : BreakdownDimension
  metric : BreakdownMetric
  result : RideBreakdown

/-- The cache after breakdowns are written one after another. -/
def BreakdownCache.write (env : PilotageEnv) (cache : BreakdownCache) (writes : List CacheWrite) : BreakdownCache :=
  writes.foldl (fun cache w => cacheSet env cache w.now w.day w.selectedDay w.dimension w.metric w.result) cache

/-- Reading returns the breakdown until it is gone, whatever is written in the meantime for other selections. -/
def BreakdownCache.ReadsBack (env : PilotageEnv) (cache : BreakdownCache) (day : String) (dimension : BreakdownDimension)
    (metric : BreakdownMetric) (b : RideBreakdown) (expiry : DateTime) : Prop :=
  ∀ writes : List CacheWrite,
    (∀ w ∈ writes, matchesDay w.day = true ∧ (w.day, w.dimension, w.metric) ≠ (day, dimension, metric)) →
    ∀ now < expiry, cacheGet (cache.write env writes) now day dimension metric = .ok (some b)

end DiddiGo.Rides
