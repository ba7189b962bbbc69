import DiddiGo.Data.Proofs.GroupingProofs
import DiddiGo.Data.Proofs.TableProofs
import DiddiGo.Payments.Earnings
import DiddiGo.Transactions.Proofs.ProgProofs
import Mathlib.Algebra.BigOperators.Group.List.Basic

/-!
# Summaries of earnings

The buckets are those of the periods with rides, in order, and then those of the periods with withdrawals only, in
order. Every bucket holds what was settled in its period.
-/

namespace DiddiGo.Payments

open Data (Dict groupBy groupKeys)
open Transactions

variable {q : EarningsQuery} {db : PaymentDb} {period : Period} {date : Date}

/-! ## Calendar -/

theorem dateOf_startOfDay (d : Date) : dateOf (startOfDay d) = d :=
  Int.mul_ediv_cancel d (by decide)

/-- Truncated times are midnights. -/
theorem startOfDay_dateOf_dateTrunc (period : Period) (t : DateTime) :
    startOfDay (dateOf (dateTrunc period t)) = dateTrunc period t := by
  unfold dateTrunc
  rw [dateOf_startOfDay]

theorem dateOf_mono {t t' : DateTime} (h : t ≤ t') : dateOf t ≤ dateOf t' := Int.ediv_le_ediv (by decide) h

theorem dateTrunc_eq_iff {t : DateTime} : dateTrunc period t = startOfDay date ↔ dateOf (dateTrunc period t) = date := by
  constructor
  · intro h
    rw [h, dateOf_startOfDay]
  · rintro rfl
    exact (startOfDay_dateOf_dateTrunc period t).symm

/-! ## Sums -/

/-- The items of a column in a period. -/
def EarningsQuery.total (q : EarningsQuery) (db : PaymentDb) (period : Period) (column : EarningsColumn) (date : Date) :
    Decimal :=
  (((q.items db).filter fun item => item.column = column ∧
    dateOf (dateTrunc period item.settledAt) = date).map EarningsItem.amount).sum

/-- The bucket of a period, by its first day. -/
def EarningsQuery.bucket (q : EarningsQuery) (db : PaymentDb) (period : Period) (date : Date) : DriverEarningsBucket where
  periodStart := date
  rideEarnings := q.total db period .rideEarnings date
  platformCommissions := q.total db period .platformCommissions date
  withdrawalsSucceeded := q.total db period .withdrawalsSucceeded date
  pendingOrDisputed := q.total db period .pendingOrDisputed date

theorem EarningsQuery.amount_bucket (column : EarningsColumn) :
    (q.bucket db period date).amount column = q.total db period column date := by
  cases column <;> rfl

/-- What the rides of a period contribute to a column. -/
theorem sum_items_rides (rows : List SettledRide) (column : EarningsColumn) (value : SettledRide → Decimal)
    (hvalue : ∀ row, ((row.items.filter fun item => item.column = column).map EarningsItem.amount).sum = value row) :
    (((rows.flatMap SettledRide.items).filter fun item => item.column = column ∧
      dateOf (dateTrunc period item.settledAt) = date).map EarningsItem.amount).sum =
    ((rows.filter fun row => dateTrunc period row.settledAt = startOfDay date).map value).sum := by
  induction rows with
  | nil => rfl
  | cons row rows ih =>
    have hdate : ∀ item ∈ row.items, item.settledAt = row.settledAt := by
      intro item hitem
      unfold SettledRide.items at hitem
      split_ifs at hitem <;> simp only [List.mem_cons, List.not_mem_nil, or_false] at hitem
      · rcases hitem with rfl | rfl <;> rfl
      · rw [hitem]
    rw [List.flatMap_cons, List.filter_append, List.map_append, List.sum_append, ih, List.filter_cons]
    by_cases hrow : dateTrunc period row.settledAt = startOfDay date
    · have hsame : (row.items.filter fun item => item.column = column ∧
          dateOf (dateTrunc period item.settledAt) = date) = row.items.filter fun item => item.column = column := by
        refine List.filter_congr fun item hitem => ?_
        rw [hdate item hitem, dateTrunc_eq_iff.mp hrow]
        simp
      rw [hsame, hvalue row, if_pos (decide_eq_true hrow), List.map_cons, List.sum_cons]
    · have hnone : (row.items.filter fun item => item.column = column ∧
          dateOf (dateTrunc period item.settledAt) = date) = [] := by
        refine List.filter_eq_nil_iff.mpr fun item hitem => ?_
        rw [hdate item hitem]
        simp [mt dateTrunc_eq_iff.mpr hrow]
      rw [hnone, if_neg (by simpa using hrow), List.map_nil, List.sum_nil, zero_add]

theorem total_rides {column : EarningsColumn} {value : SettledRide → Decimal}
    (hcolumn : column ≠ .withdrawalsSucceeded)
    (hvalue : ∀ row, ((row.items.filter fun item => item.column = column).map EarningsItem.amount).sum = value row) :
    q.total db period column date = (((q.settledRides db).filter fun row =>
      dateTrunc period row.settledAt = startOfDay date).map value).sum := by
  have hnone : (((q.succeededWithdrawals db).map fun row =>
      (⟨row.1, .withdrawalsSucceeded, row.2⟩ : EarningsItem)).filter fun item => item.column = column ∧
        dateOf (dateTrunc period item.settledAt) = date) = [] := by
    refine List.filter_eq_nil_iff.mpr fun item hitem => ?_
    obtain ⟨row, -, rfl⟩ := List.mem_map.mp hitem
    simp [Ne.symm hcolumn]
  unfold EarningsQuery.total EarningsQuery.items
  rw [List.filter_append, hnone, List.append_nil]
  exact sum_items_rides _ column value hvalue

theorem total_withdrawals : q.total db period .withdrawalsSucceeded date =
    (((q.succeededWithdrawals db).filter fun row => dateTrunc period row.1 = startOfDay date).map Prod.snd).sum := by
  have hnone : (((q.settledRides db).flatMap SettledRide.items).filter fun item =>
      item.column = .withdrawalsSucceeded ∧ dateOf (dateTrunc period item.settledAt) = date) = [] := by
    refine List.filter_eq_nil_iff.mpr fun item hitem => ?_
    obtain ⟨row, -, hitem⟩ := List.mem_flatMap.mp hitem
    unfold SettledRide.items at hitem
    split_ifs at hitem <;> simp only [List.mem_cons, List.not_mem_nil, or_false] at hitem
    · rcases hitem with rfl | rfl <;> simp
    · subst hitem
      simp
  unfold EarningsQuery.total EarningsQuery.items
  rw [List.filter_append, hnone, List.nil_append]
  induction q.succeededWithdrawals db with
  | nil => rfl
  | cons row rows ih =>
    rw [List.map_cons, List.filter_cons, List.filter_cons]
    by_cases hrow : dateTrunc period row.1 = startOfDay date
    · rw [if_pos (by simpa using dateTrunc_eq_iff.mp hrow), if_pos (decide_eq_true hrow), List.map_cons, List.map_cons,
        List.sum_cons, List.sum_cons, ih]
    · rw [if_neg (by simpa using mt dateTrunc_eq_iff.mpr hrow), if_neg (by simpa using hrow), ih]

theorem total_rideEarnings : q.total db period .rideEarnings date = (((q.settledRides db).filter fun row =>
    dateTrunc period row.settledAt = startOfDay date).map SettledRide.earned).sum :=
  total_rides EarningsColumn.noConfusion fun row => by
    unfold SettledRide.items SettledRide.earned
    split_ifs <;> simp

theorem total_platformCommissions : q.total db period .platformCommissions date =
    (((q.settledRides db).filter fun row =>
      dateTrunc period row.settledAt = startOfDay date).map SettledRide.commission).sum :=
  total_rides EarningsColumn.noConfusion fun row => by
    unfold SettledRide.items SettledRide.commission
    split_ifs <;> simp

theorem total_pendingOrDisputed : q.total db period .pendingOrDisputed date =
    (((q.settledRides db).filter fun row =>
      dateTrunc period row.settledAt = startOfDay date).map SettledRide.outstanding).sum :=
  total_rides EarningsColumn.noConfusion fun row => by
    unfold SettledRide.items SettledRide.outstanding
    cases hstatus : row.transaction.status <;>
      simp [PaymentStatus.isAcquired, PaymentStatus.isPendingOrDisputed]

/-! ## The two loops -/

/-- The first days of the periods with rides, in order. -/
def EarningsQuery.rideDates (q : EarningsQuery) (db : PaymentDb) (period : Period) : List Date :=
  (groupKeys (fun row => dateTrunc period row.settledAt) (q.settledRides db)).map dateOf

/-- The first days of the periods with withdrawals, in order. -/
def EarningsQuery.withdrawalDates (q : EarningsQuery) (db : PaymentDb) (period : Period) : List Date :=
  (groupKeys (fun row => dateTrunc period row.1) (q.succeededWithdrawals db)).map dateOf

/-- The first days of the buckets. -/
def EarningsQuery.dates (q : EarningsQuery) (db : PaymentDb) (period : Period) : List Date :=
  q.rideDates db period ++ (q.withdrawalDates db period).filter fun date => date ∉ q.rideDates db period

section

variable {ρ : Type} {time : ρ → DateTime} {rows : List ρ}

theorem mem_map_dateOf_groupKeys :
    date ∈ (groupKeys (fun row => dateTrunc period (time row)) rows).map dateOf ↔
      ∃ row ∈ rows, dateTrunc period (time row) = startOfDay date := by
  rw [List.mem_map]
  constructor
  · rintro ⟨k, hk, rfl⟩
    obtain ⟨row, hrow, rfl⟩ := Data.mem_groupKeys.mp hk
    exact ⟨row, hrow, (startOfDay_dateOf_dateTrunc period _).symm⟩
  · rintro ⟨row, hrow, h⟩
    exact ⟨dateTrunc period (time row), Data.mem_groupKeys.mpr ⟨row, hrow, rfl⟩, dateTrunc_eq_iff.mp h⟩

/-- Different periods have different first days. -/
theorem sorted_map_dateOf_groupKeys :
    ((groupKeys (fun row => dateTrunc period (time row)) rows).map dateOf).Pairwise (· < ·) := by
  rw [List.pairwise_map]
  refine (Data.sorted_groupKeys _ _).imp_of_mem fun {k k'} hk hk' hlt => ?_
  obtain ⟨row, -, rfl⟩ := Data.mem_groupKeys.mp hk
  obtain ⟨row', -, rfl⟩ := Data.mem_groupKeys.mp hk'
  refine lt_of_le_of_ne (dateOf_mono hlt.le) fun heq => hlt.ne ?_
  rw [← startOfDay_dateOf_dateTrunc period (time row), heq, startOfDay_dateOf_dateTrunc]

/-- A loop through groups is one through their first days. -/
theorem foldl_groups {σ : Type} (step : σ → Date → List ρ → σ) (s : σ) :
    (groupBy (fun row => dateTrunc period (time row)) rows).foldl (fun s row => step s (dateOf row.1) row.2) s =
      ((groupKeys (fun row => dateTrunc period (time row)) rows).map dateOf).foldl (fun s date =>
        step s date (rows.filter fun row => dateTrunc period (time row) = startOfDay date)) s := by
  rw [Data.groupBy_eq, List.foldl_map, List.foldl_map]
  refine List.foldl_ext _ _ _ fun s k hk => ?_
  obtain ⟨row, -, rfl⟩ := Data.mem_groupKeys.mp hk
  rw [startOfDay_dateOf_dateTrunc]

end

theorem mem_rideDates :
    date ∈ q.rideDates db period ↔ ∃ row ∈ q.settledRides db, dateTrunc period row.settledAt = startOfDay date :=
  mem_map_dateOf_groupKeys

theorem mem_withdrawalDates : date ∈ q.withdrawalDates db period ↔
    ∃ row ∈ q.succeededWithdrawals db, dateTrunc period row.1 = startOfDay date := mem_map_dateOf_groupKeys

theorem sorted_rideDates : (q.rideDates db period).Pairwise (· < ·) := sorted_map_dateOf_groupKeys

theorem sorted_withdrawalDates : (q.withdrawalDates db period).Pairwise (· < ·) := sorted_map_dateOf_groupKeys

/-- The bucket of the rides of a period. -/
def EarningsQuery.rideBucket (q : EarningsQuery) (db : PaymentDb) (period : Period) (date : Date) :
    DriverEarningsBucket :=
  Payments.rideBucket date ((q.settledRides db).filter fun row => dateTrunc period row.settledAt = startOfDay date)

/-- The first loop. -/
theorem rideBuckets_eq : rideBuckets (groupBy (fun row => dateTrunc period row.settledAt) (q.settledRides db)) =
    Dict.tabulate (q.rideDates db period) (q.rideBucket db period) := by
  unfold rideBuckets
  rw [foldl_groups (fun buckets date rows => Dict.set buckets date (Payments.rideBucket date rows))]
  have hdates : (q.rideDates db period).Nodup := sorted_rideDates.nodup
  have hloop := @Dict.foldl_set_tabulate _ _ _ [] _ (q.rideBucket db period)
    (fun date _ => q.rideBucket db period date) hdates
  refine (hloop.trans ?_)
  rw [List.nil_append, List.filter_eq_self.mpr fun _ _ => by simp]
  exact Dict.tabulate_congr fun date hdate => if_pos hdate

/-- Without rides in the period there is nothing to add up. -/
theorem rideBucket_eq_default (h : date ∉ q.rideDates db period) :
    q.rideBucket db period date = { periodStart := date } := by
  have hnone : ((q.settledRides db).filter fun row => dateTrunc period row.settledAt = startOfDay date) = [] := by
    refine List.filter_eq_nil_iff.mpr fun row hrow hsame => h ?_
    exact mem_rideDates.mpr ⟨row, hrow, of_decide_eq_true hsame⟩
  unfold EarningsQuery.rideBucket
  rw [hnone]
  rfl

theorem total_withdrawals_eq_zero (h : date ∉ q.withdrawalDates db period) :
    q.total db period .withdrawalsSucceeded date = 0 := by
  have hnone : ((q.succeededWithdrawals db).filter fun row => dateTrunc period row.1 = startOfDay date) = [] := by
    refine List.filter_eq_nil_iff.mpr fun row hrow hsame => h ?_
    exact mem_withdrawalDates.mpr ⟨row, hrow, of_decide_eq_true hsame⟩
  rw [total_withdrawals, hnone]
  rfl

/-- A bucket is that of the rides, with the withdrawals. -/
theorem bucket_eq : q.bucket db period date = withWithdrawals date (q.rideBucket db period date)
    ((q.succeededWithdrawals db).filter fun row => dateTrunc period row.1 = startOfDay date) := by
  unfold EarningsQuery.bucket
  rw [total_rideEarnings, total_platformCommissions, total_withdrawals, total_pendingOrDisputed]
  rfl

/-- The second loop. -/
theorem buckets_eq : q.buckets db period = (q.dates db period).map (q.bucket db period) := by
  have hdates : (q.withdrawalDates db period).Nodup := sorted_withdrawalDates.nodup
  have hloop := @Dict.foldl_set_tabulate _ _ _ (q.rideDates db period) _ (q.rideBucket db period)
    (fun date current => withWithdrawals date (current.getD { periodStart := date })
      ((q.succeededWithdrawals db).filter fun row => dateTrunc period row.1 = startOfDay date))
    hdates
  unfold EarningsQuery.buckets allBuckets
  rw [rideBuckets_eq, foldl_groups (fun buckets date rows => Dict.set buckets date
    (withWithdrawals date ((Dict.get buckets date).getD { periodStart := date }) rows))]
  refine (congrArg (List.map Prod.snd) hloop).trans ?_
  unfold Dict.tabulate
  rw [List.map_map]
  refine List.map_congr_left fun date hdate => ?_
  change (if date ∈ q.withdrawalDates db period then _ else _) = _
  by_cases hwithdrawal : date ∈ q.withdrawalDates db period
  · rw [if_pos hwithdrawal, bucket_eq]
    by_cases hride : date ∈ q.rideDates db period
    · rw [if_pos hride]
      rfl
    · rw [if_neg hride, rideBucket_eq_default hride]
      rfl
  · rw [if_neg hwithdrawal]
    have hzero := total_withdrawals_eq_zero hwithdrawal
    unfold EarningsQuery.bucket
    rw [hzero, total_rideEarnings, total_platformCommissions, total_pendingOrDisputed]
    rfl

/-! ## Summaries -/

/-- What the program returns. -/
theorem run_summarizeDriverEarnings (ask : Query → Answer) :
    (summarizeDriverEarnings q period).run ask db = (.ok (q.buckets db period), db) := rfl

theorem nodup_dates : (q.dates db period).Nodup := by
  refine List.Nodup.append sorted_rideDates.nodup (sorted_withdrawalDates.nodup.filter _) fun date hride hwithdrawal => ?_
  exact of_decide_eq_true (List.mem_filter.mp hwithdrawal).2 hride

theorem periodStart_buckets : (q.buckets db period).map DriverEarningsBucket.periodStart = q.dates db period := by
  rw [buckets_eq, List.map_map]
  exact List.map_id _

/-- What is counted is in a period with a bucket. -/
theorem mem_dates_of_item {item : EarningsItem} (h : item ∈ q.items db) :
    dateOf (dateTrunc period item.settledAt) ∈ q.dates db period := by
  unfold EarningsQuery.dates
  have hstart := (startOfDay_dateOf_dateTrunc period item.settledAt).symm
  rcases List.mem_append.mp h with hitem | hitem
  · obtain ⟨row, hrow, hitem⟩ := List.mem_flatMap.mp hitem
    have hdate : item.settledAt = row.settledAt := by
      unfold SettledRide.items at hitem
      split_ifs at hitem <;> simp only [List.mem_cons, List.not_mem_nil, or_false] at hitem
      · rcases hitem with rfl | rfl <;> rfl
      · rw [hitem]
    rw [hdate] at hstart ⊢
    exact List.mem_append_left _ (mem_rideDates.mpr ⟨row, hrow, hstart⟩)
  · obtain ⟨row, hrow, rfl⟩ := List.mem_map.mp hitem
    by_cases hride : dateOf (dateTrunc period row.1) ∈ q.rideDates db period
    · exact List.mem_append_left _ hride
    · refine List.mem_append_right _ (List.mem_filter.mpr ⟨?_, decide_eq_true hride⟩)
      exact mem_withdrawalDates.mpr ⟨row, hrow, hstart⟩

/-- The total of a column is that of all its items. -/
theorem sum_buckets (column : EarningsColumn) :
    ((q.buckets db period).map fun bucket => bucket.amount column).sum =
      (((q.items db).filter fun item => item.column = column).map EarningsItem.amount).sum := by
  have hkeys : ∀ item ∈ (q.items db).filter fun item => item.column = column, ∀ date,
      some (dateOf (dateTrunc period item.settledAt)) = some date → date ∈ q.dates db period := by
    intro item hitem date hdate
    obtain rfl := Option.some.inj hdate
    exact mem_dates_of_item (List.mem_of_mem_filter hitem)
  have hdates : (q.dates db period).Nodup := nodup_dates
  have hsum := Data.Table.sum_by_key (fun item : EarningsItem => some (dateOf (dateTrunc period item.settledAt)))
    EarningsItem.amount hdates hkeys
  have hnone : (((q.items db).filter fun item => item.column = column).filter fun item =>
      some (dateOf (dateTrunc period item.settledAt)) = none) = [] :=
    List.filter_eq_nil_iff.mpr fun item _ h => nomatch of_decide_eq_true h
  rw [hsum, hnone, List.map_nil, List.sum_nil, zero_add, buckets_eq, List.map_map]
  refine congrArg List.sum (List.map_congr_left fun date _ => ?_)
  change (q.bucket db period date).amount column = _
  rw [EarningsQuery.amount_bucket]
  unfold EarningsQuery.total
  rw [List.filter_filter]
  refine congrArg (fun items => (items.map EarningsItem.amount).sum) (List.filter_congr fun item _ => ?_)
  simp [Bool.and_comm]

/-- The first days are in order if those of withdrawals alone come last. -/
theorem sorted_dates_iff : (q.dates db period).Pairwise (· ≤ ·) ↔ q.WithdrawalsLast db period := by
  unfold EarningsQuery.dates
  rw [List.pairwise_append]
  constructor
  · rintro ⟨-, -, h⟩ withdrawal hwithdrawal halone row hrow
    have hride := mem_rideDates.mpr ⟨row, hrow, (startOfDay_dateOf_dateTrunc period _).symm⟩
    have honly : dateOf (dateTrunc period withdrawal.1) ∉ q.rideDates db period := by
      intro hmem
      obtain ⟨row', hrow', hsame⟩ := mem_rideDates.mp hmem
      exact halone row' hrow' (hsame.trans (startOfDay_dateOf_dateTrunc period _))
    have hlast := mem_withdrawalDates.mpr ⟨withdrawal, hwithdrawal, (startOfDay_dateOf_dateTrunc period _).symm⟩
    have hle := h _ hride _ (List.mem_filter.mpr ⟨hlast, decide_eq_true honly⟩)
    rw [← startOfDay_dateOf_dateTrunc period row.settledAt, ← startOfDay_dateOf_dateTrunc period withdrawal.1]
    exact Int.mul_le_mul_of_nonneg_right hle (by decide)
  · intro h
    refine ⟨sorted_rideDates.imp le_of_lt, (sorted_withdrawalDates.imp le_of_lt).filter _, ?_⟩
    intro date hride date' hwithdrawal
    obtain ⟨hwithdrawal, halone⟩ := List.mem_filter.mp hwithdrawal
    obtain ⟨row, hrow, hdate⟩ := mem_rideDates.mp hride
    obtain ⟨withdrawal, hmem, hdate'⟩ := mem_withdrawalDates.mp hwithdrawal
    have hle := h withdrawal hmem (fun row' hrow' hsame =>
      of_decide_eq_true halone (mem_rideDates.mpr ⟨row', hrow', hsame.trans hdate'⟩)) row hrow
    rw [← dateTrunc_eq_iff.mp hdate, ← dateTrunc_eq_iff.mp hdate']
    exact dateOf_mono hle

/-- A summary is right in every respect if and only if no period with withdrawals alone comes before one with rides;
only the order depends on that. -/
theorem faithful_iff_withdrawalsLast (q : EarningsQuery) (db : PaymentDb) :
    q.Faithful db ↔ ∀ period, q.WithdrawalsLast db period := by
  have horder (period : Period) : (q.buckets db period).Pairwise (fun b b' => b.periodStart ≤ b'.periodStart) ↔
      q.WithdrawalsLast db period := by
    rw [← sorted_dates_iff, ← periodStart_buckets, List.pairwise_map]
  constructor
  · exact fun h period => (horder period).mp (h.chronological period)
  · intro h
    refine
      { sameTotals := fun period period' column => by rw [sum_buckets, sum_buckets]
        counted := fun period item hitem => ?_
        amounts := fun period bucket hbucket column => ?_
        once := fun period => by
          rw [periodStart_buckets]
          exact nodup_dates
        chronological := fun period => (horder period).mpr (h period) }
    · refine ⟨q.bucket db period (dateOf (dateTrunc period item.settledAt)), ⟨?_, rfl⟩, ?_⟩
      · rw [buckets_eq]
        exact List.mem_map_of_mem (mem_dates_of_item hitem)
      · rintro bucket ⟨hbucket, hstart⟩
        rw [buckets_eq] at hbucket
        obtain ⟨date, -, rfl⟩ := List.mem_map.mp hbucket
        exact congrArg (q.bucket db period) hstart
    · rw [buckets_eq] at hbucket
      obtain ⟨date, -, rfl⟩ := List.mem_map.mp hbucket
      exact EarningsQuery.amount_bucket column

namespace Sample

/-- A driver who was paid out on Monday 1 February 2021 and drove on the next day. -/
def earningsDb : PaymentDb where
  transactions := Data.Table.empty.insert
    { id := 1, rideId := 2, amount := 10000, status := .collected
      collectedAt := some (startOfDay 18660 + seconds 3600), createdAt := startOfDay 18660 }
  rides := Data.Table.empty.insert
    { id := 2, passengerUserId := 3, driverId := some 4, status := .completed
      driverPayoutEstimate := some 8000, platformCommission := some 2000 }
  withdrawals := Data.Table.empty.insert
    { id := 5, driverId := 4, quoteId := 6, amount := 3000, fees := 0, netAmount := 3000
      beneficiaryReference := "driver:4", status := .succeeded, businessReference := "withdrawal:5"
      idempotencyKey := "withdrawal:5:1", createdAt := 0, reservedAt := 0
      succeededAt := some (startOfDay 18659 + seconds 3600), updatedAt := 0 }

/-- February 2021, from a Monday to a Monday. -/
def earningsQuery : EarningsQuery where
  driverId := 4
  start := startOfDay 18659
  stop := startOfDay 18687
  localTime := id

end Sample

/-- The second day is shown before the first. -/
theorem february_not_faithful :
    (∀ period, dateTrunc period Sample.earningsQuery.start = Sample.earningsQuery.start ∧
      dateTrunc period Sample.earningsQuery.stop = Sample.earningsQuery.stop) ∧
    ¬ Sample.earningsQuery.Faithful Sample.earningsDb := by
  refine ⟨fun period => ?_, fun h => ?_⟩
  · cases period <;> decide +kernel
  · have hdates : (Sample.earningsQuery.buckets Sample.earningsDb .day).map DriverEarningsBucket.periodStart =
        [18660, 18659] := by decide +kernel
    have horder := h.chronological .day
    rw [← List.pairwise_map (f := DriverEarningsBucket.periodStart) (R := (· ≤ ·)), hdates] at horder
    exact absurd horder (by decide)

end DiddiGo.Payments
