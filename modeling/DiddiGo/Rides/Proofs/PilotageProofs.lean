import DiddiGo.Data.Proofs.CalendarProofs
import DiddiGo.Data.Proofs.FiniteDecimalProofs
import DiddiGo.Data.Proofs.GroupingProofs
import DiddiGo.Data.Proofs.NumericProofs
import DiddiGo.Data.Proofs.TableProofs
import DiddiGo.Rides.Pilotage

/-!
# Breakdowns agree with the summary

The filters of a breakdown and of the summary select the same rides, each of them has one group, and a breakdown is
read back from the cache as it was written.
-/

namespace DiddiGo.Rides

open Data (FiniteDecimal Instant Json groupBy groupBy_eq groupKeys nodup_groupKeys mem_groupKeys)

variable {env : PilotageEnv} {rows : List RideRow} {row : RideRow} {start stop : DateTime}
  {dimension : BreakdownDimension} {metric : BreakdownMetric} {day : String}

/-! ## Values -/

theorem toRat_coalesceSum (values : List (Option Int)) :
    (coalesceSum values).toRat = (values.map fun v => (v.getD 0 : ℚ) / 100).sum := by
  have hsum : (values.map fun v => (v.getD 0 : ℚ) / 100).sum = ((values.filterMap id).sum : ℚ) / 100 := by
    induction values with
    | nil => simp
    | cons v values ih =>
      rw [List.map_cons, List.sum_cons, ih]
      cases v with
      | none => simp
      | some v =>
        simp only [Option.getD_some, List.filterMap_cons, id_eq, List.sum_cons]
        push_cast
        ring
  rw [hsum]
  unfold coalesceSum
  cases hvalues : values.filterMap id with
  | nil => simp [FiniteDecimal.toRat_ofInt]
  | cons v vs =>
    unfold FiniteDecimal.toRat
    norm_num
    ring

/-- Counts are whole numbers. -/
theorem sum_share_eq_length (hmetric : metric ≠ .completedFareTotalXof) (group : List RideRow) :
    (group.map metric.share).sum = (group.length : ℚ) := by
  have hshare : metric.share = fun _ => 1 := by
    funext row
    cases metric with
    | ridesRequested => rfl
    | ridesCompleted => rfl
    | completedFareTotalXof => exact absurd rfl hmetric
  rw [hshare]
  simp

theorem toRat_valueExpression (metric : BreakdownMetric) (group : List RideRow) :
    (valueExpression metric group).toRat = (group.map metric.share).sum := by
  unfold valueExpression
  by_cases hmetric : metric ≠ .completedFareTotalXof
  · rw [if_pos hmetric, FiniteDecimal.toRat_ofInt, sum_share_eq_length hmetric, Int.cast_natCast]
  · rw [if_neg hmetric, toRat_coalesceSum, List.map_map, not_not.mp hmetric]
    rfl

/-- The values of a response are the values of its breakdown. -/
theorem toRat_responseValue {d : FiniteDecimal} {group : List RideRow} (h : d.toRat = (group.map metric.share).sum) :
    (responseValue metric d).toRat = d.toRat := by
  unfold responseValue
  by_cases hmetric : metric ≠ .completedFareTotalXof
  · rw [if_pos hmetric, FiniteDecimal.toRat_ofInt, h, sum_share_eq_length hmetric]
    have hint : Decimal.toInt ((group.length : Int) : Decimal) = group.length := Decimal.toInt_intCast _
    rw [Int.cast_natCast] at hint
    rw [hint, Int.cast_natCast]
  · rw [if_neg hmetric]

/-! ## Groups -/

/-- A ride that counts has a group. -/
theorem groupOf_of_counts (env : PilotageEnv) (dimension : BreakdownDimension)
    (h : metric.counts start stop row = true) :
    ∃ key, metric.groupOf env dimension row = some key := by
  have htimestamp : ∃ t, metric.timestamp row = some t := by
    unfold BreakdownMetric.timestamp
    by_cases hmetric : metric = .ridesRequested
    · exact ⟨row.requestedAt, if_pos hmetric⟩
    · rw [if_neg hmetric]
      cases hcompleted : row.completedAt with
      | some t => exact ⟨t, rfl⟩
      | none =>
        unfold BreakdownMetric.counts at h
        cases metric with
        | ridesRequested => exact absurd rfl hmetric
        | ridesCompleted => simp [hcompleted, within] at h
        | completedFareTotalXof => simp [hcompleted, within] at h
  obtain ⟨t, ht⟩ := htimestamp
  unfold BreakdownMetric.groupOf dimensionExpression
  cases dimension with
  | hour => exact ⟨_, by rw [ht]; rfl⟩
  | paymentMethod => exact ⟨_, rfl⟩
  | serviceType => exact ⟨_, rfl⟩
  | finalStatus => exact ⟨_, rfl⟩

/-- The conditions of the query select the rides that count. -/
theorem aggregate_eq (env : PilotageEnv) (rows : List RideRow) (start stop : DateTime) (dimension : BreakdownDimension)
    (metric : BreakdownMetric) :
    aggregate env rows start stop dimension metric =
      (groupBy Prod.fst ((rows.filter (metric.counts start stop)).filterMap fun row =>
        (metric.groupOf env dimension row).map fun key => (key, row))).map
        fun group => ⟨group.1, valueExpression metric (group.2.map Prod.snd)⟩ := by
  have hselected {selected : List RideRow} (h : selected = rows.filter (metric.counts start stop)) :
      ((groupBy Prod.fst (selected.filterMap fun row =>
        (dimensionExpression env dimension metric.timestamp row).map fun key => (key, row))).map
        fun group => (⟨group.1, valueExpression metric (group.2.map Prod.snd)⟩ : BreakdownItem)) =
      (groupBy Prod.fst ((rows.filter (metric.counts start stop)).filterMap fun row =>
        (metric.groupOf env dimension row).map fun key => (key, row))).map
        fun group => ⟨group.1, valueExpression metric (group.2.map Prod.snd)⟩ := by
    rw [h]
    rfl
  refine hselected ?_
  cases metric with
  | ridesRequested =>
    rw [if_neg (by decide), if_neg (by decide)]
    refine List.filter_congr fun row _ => ?_
    exact Bool.and_comm _ _
  | ridesCompleted =>
    rw [if_neg (by decide), if_pos (by decide), List.filter_filter]
    refine List.filter_congr fun row _ => ?_
    have htimestamp : BreakdownMetric.ridesCompleted.timestamp row = row.completedAt := rfl
    rw [htimestamp]
    unfold BreakdownMetric.counts
    dsimp only
    cases row.isReviewAccount <;> cases within start stop row.completedAt <;> simp
  | completedFareTotalXof =>
    rw [if_pos rfl, if_pos (by decide), List.filter_filter, List.filter_filter]
    refine List.filter_congr fun row _ => ?_
    have htimestamp : BreakdownMetric.completedFareTotalXof.timestamp row = row.completedAt := rfl
    rw [htimestamp]
    unfold BreakdownMetric.counts
    dsimp only
    cases row.isReviewAccount <;> cases within start stop row.completedAt <;> simp [Bool.and_comm]

/-- The rows of a group, from the rows with their keys. -/
theorem map_snd_filter_keyed {α : Type} (key : α → Option String) (l : List α) (k : String) :
    ((l.filterMap fun a => (key a).map fun k => (k, a)).filter fun p => p.1 = k).map Prod.snd =
      l.filter fun a => key a = some k := by
  induction l with
  | nil => rfl
  | cons a l ih =>
    cases hkey : key a with
    | none => simp [hkey, ih]
    | some k' =>
      by_cases hk : k' = k
      · simp [hkey, hk, ih]
      · simp [hkey, hk, ih]

/-! ## Items -/

/-- The rides that count, with their keys. -/
def keyedRides (env : PilotageEnv) (rows : List RideRow) (period : DayPeriod) (dimension : BreakdownDimension)
    (metric : BreakdownMetric) : List (String × RideRow) :=
  (rows.filter (metric.counts period.start period.stop)).filterMap fun row =>
    (metric.groupOf env dimension row).map fun key => (key, row)

/-- The keys of a breakdown. -/
def breakdownKeys (env : PilotageEnv) (rows : List RideRow) (period : DayPeriod) (dimension : BreakdownDimension)
    (metric : BreakdownMetric) : List String := groupKeys Prod.fst (keyedRides env rows period dimension metric)

/-- The rides of a group. -/
def groupRides (env : PilotageEnv) (rows : List RideRow) (period : DayPeriod) (dimension : BreakdownDimension)
    (metric : BreakdownMetric) (key : String) : List RideRow :=
  rows.filter fun row => metric.counts period.start period.stop row && decide (metric.groupOf env dimension row = some key)

theorem items_eq (env : PilotageEnv) (rows : List RideRow) (period : DayPeriod) (dimension : BreakdownDimension)
    (metric : BreakdownMetric) :
    aggregate env rows period.start period.stop dimension metric =
      (breakdownKeys env rows period dimension metric).map fun key =>
        ⟨key, valueExpression metric (groupRides env rows period dimension metric key)⟩ := by
  rw [aggregate_eq, groupBy_eq, List.map_map]
  refine List.map_congr_left fun key _ => ?_
  have hgroup : ((keyedRides env rows period dimension metric).filter fun p => p.1 = key).map Prod.snd =
      groupRides env rows period dimension metric key := by
    unfold keyedRides groupRides
    rw [map_snd_filter_keyed, List.filter_filter]
    exact List.filter_congr fun row _ => Bool.and_comm _ _
  rw [← hgroup]
  rfl

theorem mem_breakdownKeys {period : DayPeriod} {key : String} :
    key ∈ breakdownKeys env rows period dimension metric ↔
      ∃ row ∈ rows, metric.counts period.start period.stop row = true ∧ metric.groupOf env dimension row = some key := by
  unfold breakdownKeys
  rw [mem_groupKeys]
  unfold keyedRides
  constructor
  · rintro ⟨p, hp, rfl⟩
    obtain ⟨row, hrow, hkey⟩ := List.mem_filterMap.mp hp
    obtain ⟨key, hgroup, rfl⟩ := Option.map_eq_some_iff.mp hkey
    obtain ⟨hmem, hcounts⟩ := List.mem_filter.mp hrow
    exact ⟨row, hmem, hcounts, hgroup⟩
  · rintro ⟨row, hmem, hcounts, hgroup⟩
    refine ⟨(key, row), List.mem_filterMap.mpr ⟨row, List.mem_filter.mpr ⟨hmem, hcounts⟩, ?_⟩, rfl⟩
    rw [hgroup]
    rfl

/-- The groups together add up all the rides that count. -/
theorem sum_groupRides (env : PilotageEnv) (rows : List RideRow) (period : DayPeriod) (dimension : BreakdownDimension)
    (metric : BreakdownMetric) :
    ((breakdownKeys env rows period dimension metric).map fun key =>
      ((groupRides env rows period dimension metric key).map metric.share).sum).sum =
      ((rows.filter (metric.counts period.start period.stop)).map metric.share).sum := by
  have hkeys : ∀ row ∈ rows.filter (metric.counts period.start period.stop), ∀ key,
      metric.groupOf env dimension row = some key → key ∈ breakdownKeys env rows period dimension metric := by
    intro row hrow key hkey
    obtain ⟨hmem, hcounts⟩ := List.mem_filter.mp hrow
    exact mem_breakdownKeys.mpr ⟨row, hmem, hcounts, hkey⟩
  have hnone : ((rows.filter (metric.counts period.start period.stop)).filter
      fun row => metric.groupOf env dimension row = none) = [] := by
    refine List.filter_eq_nil_iff.mpr fun row hrow => ?_
    obtain ⟨key, hkey⟩ := groupOf_of_counts env dimension (List.mem_filter.mp hrow).2
    rw [hkey]
    simp
  rw [Data.Table.sum_by_key (metric.groupOf env dimension) metric.share (nodup_groupKeys _ _) hkeys, hnone, List.map_nil,
    List.sum_nil, zero_add]
  refine congrArg List.sum (List.map_congr_left fun key _ => ?_)
  rw [List.filter_filter]
  unfold groupRides
  rw [List.filter_congr fun row _ => Bool.and_comm _ _]

/-! ## Periods -/

theorem mapsTo_of_selectPeriod {overflow : String} {outOfRange : Int → Int → String} {now : DateTime} {period : DayPeriod}
    (h : selectPeriod env overflow outOfRange now day = .ok period) :
    ∃ selectedDay, Data.dateFromIsoFormat day = some selectedDay ∧
      period = ⟨selectedDay, env.ofLocalTime (selectedDay * Data.microsOfDay),
        env.ofLocalTime ((selectedDay + 1) * Data.microsOfDay)⟩ ∧ matchesDay day = true := by
  unfold selectPeriod at h
  cases hmatches : matchesDay day with
  | false => rw [hmatches] at h; cases h
  | true =>
    rw [hmatches] at h
    cases hday : Data.dateFromIsoFormat day with
    | none => rw [hday] at h; cases h
    | some selectedDay =>
      rw [hday] at h
      rw [if_neg (by decide)] at h
      refine ⟨selectedDay, rfl, ?_, rfl⟩
      dsimp only [bind, pure, Except.bind, Except.pure] at h
      split_ifs at h
      exact (Except.ok.inj h).symm

/-- A day has one period, whoever asks for it and when. -/
theorem selectPeriod_unique {overflow overflow' : String} {outOfRange outOfRange' : Int → Int → String}
    {now now' : DateTime} {period period' : DayPeriod} (h : selectPeriod env overflow outOfRange now day = .ok period)
    (h' : selectPeriod env overflow' outOfRange' now' day = .ok period') : period = period' := by
  obtain ⟨selectedDay, hday, hperiod, -⟩ := mapsTo_of_selectPeriod h
  obtain ⟨selectedDay', hday', hperiod', -⟩ := mapsTo_of_selectPeriod h'
  rw [hday] at hday'
  rw [hperiod, hperiod', Option.some.inj hday']

/-! ## The summary -/

theorem completed_eq (rows : List RideRow) (start stop : DateTime) :
    (rows.filter fun row =>
      decide (row.status = "completed") && within start stop row.completedAt && !row.isReviewAccount) =
      rows.filter (BreakdownMetric.ridesCompleted.counts start stop) :=
  List.filter_congr fun _ _ => Bool.and_comm _ _

theorem requested_eq (rows : List RideRow) (start stop : DateTime) :
    (rows.filter fun row => within start stop (some row.requestedAt) && !row.isReviewAccount) =
      rows.filter (BreakdownMetric.ridesRequested.counts start stop) :=
  List.filter_congr fun _ _ => Bool.and_comm _ _

/-- Completed rides in another currency add nothing to the fares. -/
theorem sum_share_completed (rows : List RideRow) (start stop : DateTime) :
    ((rows.filter (BreakdownMetric.completedFareTotalXof.counts start stop)).map
      BreakdownMetric.completedFareTotalXof.share).sum =
      ((rows.filter (BreakdownMetric.ridesCompleted.counts start stop)).map
        fun row => (((if row.currency = "XOF" then row.finalFare else none).getD 0 : Int) : ℚ) / 100).sum := by
  induction rows with
  | nil => rfl
  | cons row rows ih =>
    have hcounts : BreakdownMetric.completedFareTotalXof.counts start stop row =
        (BreakdownMetric.ridesCompleted.counts start stop row && decide (row.currency = "XOF")) :=
      (Bool.and_assoc _ _ _).symm
    by_cases hcompleted : BreakdownMetric.ridesCompleted.counts start stop row = true
    · rw [List.filter_cons_of_pos hcompleted, List.map_cons, List.sum_cons, ← ih]
      by_cases hcurrency : row.currency = "XOF"
      · rw [List.filter_cons_of_pos (by rw [hcounts, hcompleted, decide_eq_true hcurrency]; rfl), List.map_cons,
          List.sum_cons, if_pos hcurrency]
        rfl
      · rw [List.filter_cons_of_neg (by rw [hcounts, hcompleted, decide_eq_false hcurrency]; decide), if_neg hcurrency]
        simp
    · rw [List.filter_cons_of_neg hcompleted, ← ih,
        List.filter_cons_of_neg (by rw [hcounts, Bool.and_eq_true]; exact fun h => hcompleted h.1)]

/-- What a summary reports is what the rides that count add up to. -/
theorem ofSummary_eq {now : DateTime} {summary : DailySummary} (h : dailySummary env now (some rows) day = .ok summary) :
    ∃ period, summaryPeriod env now day = .ok period ∧ ∀ metric : BreakdownMetric,
      (metric.ofSummary summary : ℚ) = ((rows.filter (metric.counts period.start period.stop)).map metric.share).sum := by
  unfold dailySummary at h
  cases hperiod : summaryPeriod env now day with
  | error e => rw [hperiod] at h; cases h
  | ok period =>
    rw [hperiod] at h
    dsimp only [bind, pure, Except.bind, Except.pure] at h
    by_cases hwhole : (summarizePeriod rows period.start period.stop).completedFareTotalXof.toRat =
        Decimal.roundHalfEven (summarizePeriod rows period.start period.stop).completedFareTotalXof.toRat
    · rw [if_neg (not_not.mpr hwhole)] at h
      obtain rfl := Except.ok.inj h
      refine ⟨period, rfl, fun metric => ?_⟩
      cases metric with
      | ridesRequested =>
        rw [sum_share_eq_length (by decide), ← requested_eq]
        rfl
      | ridesCompleted =>
        rw [sum_share_eq_length (by decide), ← completed_eq]
        rfl
      | completedFareTotalXof =>
        have hsum : (summarizePeriod rows period.start period.stop).completedFareTotalXof.toRat =
            ((rows.filter (BreakdownMetric.completedFareTotalXof.counts period.start period.stop)).map
              BreakdownMetric.completedFareTotalXof.share).sum := by
          rw [sum_share_completed, ← completed_eq]
          unfold summarizePeriod
          dsimp only
          rw [toRat_coalesceSum, List.map_map]
          rfl
        have hint : Decimal.toInt (summarizePeriod rows period.start period.stop).completedFareTotalXof.toRat =
            Decimal.roundHalfEven (summarizePeriod rows period.start period.stop).completedFareTotalXof.toRat := by
          conv_lhs => rw [hwhole]
          exact Decimal.toInt_intCast _
        rw [← hsum]
        exact (congrArg Int.cast hint).trans hwhole.symm
    · rw [if_pos hwhole] at h
      cases h

/-! ## The answer -/

/-- The values of the items of a breakdown. -/
theorem toRat_of_mem_aggregate {period : DayPeriod} {item : BreakdownItem}
    (h : item ∈ aggregate env rows period.start period.stop dimension metric) :
    item.value.toRat = ((groupRides env rows period dimension metric item.key).map metric.share).sum := by
  rw [items_eq] at h
  obtain ⟨key, -, rfl⟩ := List.mem_map.mp h
  exact toRat_valueExpression metric _

theorem toRat_total (env : PilotageEnv) (rows : List RideRow) (period : DayPeriod) (dimension : BreakdownDimension)
    (metric : BreakdownMetric) :
    (FiniteDecimal.sum ((aggregate env rows period.start period.stop dimension metric).map BreakdownItem.value)).toRat =
      ((rows.filter (metric.counts period.start period.stop)).map metric.share).sum := by
  rw [FiniteDecimal.toRat_sum, items_eq, List.map_map, List.map_map, ← sum_groupRides env rows period dimension metric]
  refine congrArg List.sum (List.map_congr_left fun key _ => ?_)
  exact toRat_valueExpression metric _

/-- The breakdown that is calculated for a day. -/
def calculated (env : PilotageEnv) (rows : List RideRow) (period : DayPeriod) (dimension : BreakdownDimension)
    (metric : BreakdownMetric) (calculatedAt : Instant) : RideBreakdown :=
  ⟨.sum ((aggregate env rows period.start period.stop dimension metric).map BreakdownItem.value),
    aggregate env rows period.start period.stop dimension metric, calculatedAt⟩

/-- It passes the check of its total, and its answer agrees. -/
theorem respond_calculated {now : DateTime} {period : DayPeriod} (rows : List RideRow) (dimension : BreakdownDimension)
    (metric : BreakdownMetric) (hperiod : breakdownPeriod env now day = .ok period)
    (answeredAt : DateTime) (calculatedAt : Instant) :
    ∃ response, respond env answeredAt day period.selectedDay dimension metric
        (calculated env rows period dimension metric calculatedAt) = .ok response ∧
      response.Agrees env rows day period dimension metric := by
  have hconsistent : (calculated env rows period dimension metric calculatedAt).isConsistent = true :=
    decide_eq_true rfl
  unfold respond
  rw [hconsistent, if_neg (by decide)]
  refine ⟨_, rfl, ?_, ?_, ?_, ?_⟩
  · dsimp only [calculated]
    rw [List.map_map, items_eq, List.map_map]
    exact (List.map_id _).symm ▸ nodup_groupKeys _ _
  · intro row hrow hcounts
    obtain ⟨key, hkey⟩ := groupOf_of_counts env dimension hcounts
    have hmem : key ∈ breakdownKeys env rows period dimension metric := mem_breakdownKeys.mpr ⟨row, hrow, hcounts, hkey⟩
    have hitem : (⟨key, valueExpression metric (groupRides env rows period dimension metric key)⟩ : BreakdownItem) ∈
        aggregate env rows period.start period.stop dimension metric := by
      rw [items_eq]
      exact List.mem_map_of_mem hmem
    refine ⟨_, ⟨List.mem_map_of_mem hitem, hkey⟩, ?_⟩
    rintro item ⟨hmem', hkey'⟩
    obtain ⟨found, hfound, rfl⟩ := List.mem_map.mp hmem'
    dsimp only [calculated] at hfound
    rw [items_eq] at hfound
    obtain ⟨key', -, rfl⟩ := List.mem_map.mp hfound
    rw [hkey] at hkey'
    obtain rfl := Option.some.inj hkey'
    rfl
  · intro item hitem
    obtain ⟨found, hfound, rfl⟩ := List.mem_map.mp hitem
    have hvalue := toRat_of_mem_aggregate hfound
    exact (toRat_responseValue hvalue).trans hvalue
  · intro now' summary hsummary
    obtain ⟨period', hperiod', hsum⟩ := ofSummary_eq hsummary
    obtain rfl := selectPeriod_unique hperiod hperiod'
    have htotal := toRat_total env rows period dimension metric
    exact (toRat_responseValue htotal).trans (htotal.trans (hsum metric).symm)

/-! ## The cache -/

namespace BreakdownCache

theorem decimalOf_text (d : FiniteDecimal) : decimalOf (.str d.text) = .ok d := by
  unfold decimalOf
  dsimp only
  rw [FiniteDecimal.ofString_text]
  rfl

theorem itemsOf_encode (items : List BreakdownItem) :
    itemsOf (items.foldr (fun item rest =>
      .arrCons (.ofMembers [("key", .str item.key), ("value", .str item.value.text)]) rest) .arrNil) = .ok items := by
  induction items with
  | nil => rfl
  | cons item items ih =>
    rw [List.foldr_cons]
    unfold itemsOf
    have hkey : (Json.ofMembers [("key", .str item.key), ("value", .str item.value.text)]).get "key" = .str item.key := rfl
    have hvalue : (Json.ofMembers [("key", .str item.key), ("value", .str item.value.text)]).get "value" =
        .str item.value.text := rfl
    rw [hkey, hvalue, decimalOf_text, ih]
    rfl

theorem instantOf_isoFormatZ (t : Instant) : instantOf (.str (isoFormatZ t)) = .ok t := by
  unfold instantOf isoFormatZ
  dsimp only
  rw [Data.replace_isoFormat, Data.replace_isoFormatZ, Data.fromIsoFormat_isoFormat]
  rfl

/-- A text is read as the breakdown that it was written for. -/
theorem decode_encode (b : RideBreakdown) : decode (encode b) = .ok b := by
  have htotal : (encode b).get "total" = .str b.total.text := rfl
  have hinstant : (encode b).get "calculated_at" = .str (isoFormatZ b.calculatedAt) := rfl
  have hitems : itemsOf ((encode b).get "items") = .ok b.items := itemsOf_encode b.items
  unfold decode
  rw [htotal, hinstant, hitems, decimalOf_text, instantOf_isoFormatZ]
  rfl

/-- Two selections share no key. -/
theorem key_injective {day' : String} {dimension' : BreakdownDimension} {metric' : BreakdownMetric}
    (hday : matchesDay day = true) (hday' : matchesDay day' = true)
    (h : key day dimension.value metric.value = key day' dimension'.value metric'.value) :
    day = day' ∧ dimension = dimension' ∧ metric = metric' := by
  have hlength : ∀ {day : String}, matchesDay day = true → day.toList.length = 10 := by
    intro day h
    have hlist := of_decide_eq_true h
    have := congrArg List.length hlist
    rw [List.length_map] at this
    exact this
  have htext := congrArg String.toList h
  unfold key at htext
  simp only [toString, String.toList_append, List.append_assoc] at htext
  have hrest := List.append_cancel_left htext
  obtain ⟨hdays, hrest⟩ := List.append_inj hrest ((hlength hday).trans (hlength hday').symm)
  refine ⟨String.toList_injective hdays, ?_⟩
  have hpair : dimension.value ++ ":" ++ metric.value = dimension'.value ++ ":" ++ metric'.value := by
    apply String.toList_injective
    simp only [String.toList_append, List.append_assoc]
    exact List.append_cancel_left hrest
  revert hpair
  cases dimension <;> cases dimension' <;> cases metric <;> cases metric' <;> decide

end BreakdownCache

/-! ## The service -/

/-- What is written for other selections leaves a text alone. -/
theorem values_write (env : PilotageEnv) (cache : BreakdownCache) {writes : List CacheWrite} (hday : matchesDay day = true)
    (hwrites : ∀ w ∈ writes, matchesDay w.day = true ∧ (w.day, w.dimension, w.metric) ≠ (day, dimension, metric)) :
    (cache.write env writes).readable = cache.readable ∧
      (cache.write env writes).values (BreakdownCache.key day dimension.value metric.value) =
        cache.values (BreakdownCache.key day dimension.value metric.value) := by
  induction writes generalizing cache with
  | nil => exact ⟨rfl, rfl⟩
  | cons w writes ih =>
    obtain ⟨⟨hday', hne⟩, hwrites⟩ := List.forall_mem_cons.mp hwrites
    have hkey : BreakdownCache.key day dimension.value metric.value ≠
        BreakdownCache.key w.day w.dimension.value w.metric.value := by
      intro h
      obtain ⟨hdays, hdimensions, hmetrics⟩ := BreakdownCache.key_injective hday hday' h
      exact hne (by rw [hdays, hdimensions, hmetrics])
    obtain ⟨hreadable, hvalues⟩ :=
      ih (cacheSet env cache w.now w.day w.selectedDay w.dimension w.metric w.result) hwrites
    unfold BreakdownCache.write at hreadable hvalues ⊢
    rw [List.foldl_cons]
    refine ⟨hreadable.trans ?_, hvalues.trans ?_⟩
    · unfold cacheSet BreakdownCache.set
      split_ifs <;> rfl
    · unfold cacheSet BreakdownCache.set
      split_ifs
      · rfl
      · exact Function.update_of_ne hkey _ _

theorem readsBack_cacheSet {cache : BreakdownCache} (hreadable : cache.readable = true) (hwritable : cache.writable = true)
    (hday : matchesDay day = true) (now : DateTime) (selectedDay : Int) (b : RideBreakdown) :
    (cacheSet env cache now day selectedDay dimension metric b).ReadsBack env day dimension metric b
      (now + seconds (ttlSeconds env now selectedDay)) := by
  intro writes hwrites now' hnow'
  have hset : cacheSet env cache now day selectedDay dimension metric b =
      { cache with
        values := Function.update cache.values (BreakdownCache.key day dimension.value metric.value)
          (some (BreakdownCache.encode b, now + seconds (ttlSeconds env now selectedDay))) } := by
    unfold cacheSet BreakdownCache.set
    rw [if_neg (by rw [hwritable]; decide)]
  obtain ⟨hreadable', hvalues⟩ := values_write env
    (cacheSet env cache now day selectedDay dimension metric b) hday hwrites
  have hset_readable : (cacheSet env cache now day selectedDay dimension metric b).readable = true := by
    rw [hset]
    exact hreadable
  have hset_values : (cacheSet env cache now day selectedDay dimension metric b).values
      (BreakdownCache.key day dimension.value metric.value) =
      some (BreakdownCache.encode b, now + seconds (ttlSeconds env now selectedDay)) := by
    rw [hset]
    exact Function.update_self _ _ _
  unfold cacheGet BreakdownCache.get
  rw [hreadable'.trans hset_readable, if_neg (by decide), hvalues.trans hset_values]
  dsimp only
  rw [if_pos hnow', BreakdownCache.decode_encode]
  rfl

theorem selectBreakdown_value (h : (dimension, metric) ∈ supportedBreakdowns) :
    selectBreakdown dimension.value metric.value = .ok (dimension, metric) := by
  have hdimension : BreakdownDimension.ofValue dimension.value = some dimension := by cases dimension <;> decide
  have hmetric : BreakdownMetric.ofValue metric.value = some metric := by cases metric <;> decide
  unfold selectBreakdown
  rw [hdimension, hmetric]
  exact if_pos h

/-- A breakdown of any rides on any day that is computed agrees with the summary, and is read back as it was
written. -/
theorem breakdown_agrees {period : DayPeriod} (times : BreakdownTimes) (cache : BreakdownCache) (rows : List RideRow)
    (hsupported : (dimension, metric) ∈ supportedBreakdowns)
    (hperiod : breakdownPeriod env times.requestedAt day = .ok period)
    (hmiss : cacheGet cache times.readAt day dimension metric = .ok none) :
    ∃ result response kept,
      calculate env (some rows) period dimension metric times.calculatedAt = .ok result ∧
      breakdown env times cache (some rows) day dimension.value metric.value = (.ok response, kept) ∧
      response.Agrees env rows day period dimension metric ∧
      (cache.readable = true → cache.writable = true → kept.ReadsBack env day dimension metric result
        (times.writtenAt + seconds (ttlSeconds env times.writtenAt period.selectedDay))) := by
  obtain ⟨response, hresponse, hagrees⟩ := respond_calculated rows dimension metric hperiod
    times.answeredAt times.calculatedAt
  obtain ⟨-, -, -, hday⟩ := mapsTo_of_selectPeriod hperiod
  refine ⟨calculated env rows period dimension metric times.calculatedAt, response, _, rfl, ?_, hagrees,
    fun hreadable hwritable => readsBack_cacheSet hreadable hwritable hday _ _ _⟩
  unfold breakdown
  rw [hperiod, selectBreakdown_value hsupported]
  dsimp only
  rw [hmiss]
  dsimp only
  rw [← hresponse]
  rfl

/-! ## A day in September -/

namespace Sample

/-- Abidjan keeps UTC. -/
def abidjan : PilotageEnv where
  localTime := id
  ofLocalTime := id
  databaseLocalTime := id

def noon : Instant := ⟨1789905600000000, by decide +kernel⟩

def breakdownTimes : BreakdownTimes := ⟨noon.micros, noon.micros, noon, noon.micros, noon.micros⟩

def fareRow : RideRow where
  id := 1
  status := "completed"
  vehicleCategory := "standard"
  paymentMethod := "cash"
  isReviewAccount := false
  requestedAt := noon.micros
  completedAt := some noon.micros
  currency := "XOF"
  finalFare := some 250000

def fareRows : List RideRow :=
  [fareRow, { fareRow with id := 2, finalFare := none }, { fareRow with id := 3, paymentMethod := "mobile_money" },
    { fareRow with id := 4, isReviewAccount := true }]

def abidjanDay : DayPeriod := ⟨20716, 1789862400000000, 1789948800000000⟩

end Sample

/-- Two of the four rides pay a fare. -/
theorem breakdown_agrees_sample :
    breakdownPeriod Sample.abidjan Sample.breakdownTimes.requestedAt "2026-09-20" = .ok Sample.abidjanDay ∧
    ∃ result response kept,
      calculate Sample.abidjan (some Sample.fareRows) Sample.abidjanDay .paymentMethod .completedFareTotalXof
        Sample.breakdownTimes.calculatedAt = .ok result ∧
      breakdown Sample.abidjan Sample.breakdownTimes {} (some Sample.fareRows) "2026-09-20" "payment_method"
        "completed_fare_total_xof" = (.ok response, kept) ∧
      response.Agrees Sample.abidjan Sample.fareRows "2026-09-20" Sample.abidjanDay .paymentMethod
        .completedFareTotalXof ∧
      (true = true → true = true →
        kept.ReadsBack Sample.abidjan "2026-09-20" .paymentMethod .completedFareTotalXof result
          (Sample.breakdownTimes.writtenAt +
            seconds (ttlSeconds Sample.abidjan Sample.breakdownTimes.writtenAt Sample.abidjanDay.selectedDay))) :=
  ⟨by decide +kernel,
    breakdown_agrees Sample.breakdownTimes {} Sample.fareRows (by decide) (by decide +kernel) (by decide +kernel)⟩

end DiddiGo.Rides
