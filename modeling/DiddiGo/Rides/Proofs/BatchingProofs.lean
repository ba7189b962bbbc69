import DiddiGo.Data.Proofs.TableProofs
import DiddiGo.Rides.Batching
import DiddiGo.Rides.Proofs.LocationTextProofs
import DiddiGo.Transactions.Proofs.RelyGuaranteeProofs

/-!
# Batches of GPS samples are stored once

The receipt of a batch stays locked from its insertion to the end of the call, so the call that inserts it is the
first of its batch; every other one waits for it and reads its receipt.
-/

namespace DiddiGo.Rides.LocationBatches

open Data (Keyed Table)
open Transactions Prog RelyGuarantee

variable {Proc : Type} {db₀ db : LocationDb} {base : List RideRoutePoint} {earlier recorded : List LocationCall}
  {calls : Proc → LocationCall} {call first : LocationCall}

/-! ## What the tables hold -/

@[simp] theorem key_receipt (call : LocationCall) : Keyed.key call.receipt = call.key := rfl

/-- The receipt of a batch is that of the call that stored it. -/
theorem LocationDb.Holds.find? (h : db.Holds base recorded) (key : UUID × UUID) :
    db.batches.find? key = (recorded.find? fun first => first.key = key).map LocationCall.receipt := by
  unfold Table.find?
  rw [h.receipts, List.find?_map]
  rfl

theorem LocationDb.Holds.exists_first {batch : RideLocationBatch} (h : db.Holds base recorded)
    (hbatch : db.batches.find? call.key = some batch) :
    ∃ first ∈ recorded, (recorded.find? fun first => first.key = call.key) = some first ∧ first.key = call.key ∧
      first.receipt = batch := by
  rw [h.find?] at hbatch
  obtain ⟨first, hfirst, hreceipt⟩ := Option.map_eq_some_iff.mp hbatch
  exact ⟨first, List.mem_of_find?_eq_some hfirst, hfirst, by simpa using List.find?_some hfirst, hreceipt⟩

/-- Another batch is stored. -/
theorem LocationDb.Holds.store {rows : List RideRoutePoint} (h : db.Holds base recorded)
    (hfree : db.batches.find? call.key = none) (hrows : call.rows = some rows) :
    LocationDb.Holds base (recorded ++ [call])
      { db with batches := db.batches.insert call.receipt, routePoints := db.routePoints ++ rows } where
  receipts := by
    change (db.batches.insert call.receipt).rows = _
    rw [Table.rows_insert hfree, h.receipts, List.map_append, List.map_singleton]
  distinct := by
    rw [List.map_append, List.nodup_append]
    refine ⟨h.distinct, List.nodup_singleton _, ?_⟩
    rintro key hkey key' hkey' rfl
    obtain ⟨first, hfirst, hfirstKey⟩ := List.mem_map.mp hkey
    obtain rfl := List.mem_singleton.mp hkey'
    rw [h.find?, Option.map_eq_none_iff, List.find?_eq_none] at hfree
    exact hfree first hfirst (by simpa using hfirstKey)
  points := by
    obtain ⟨stored, hstored, hpoints⟩ := h.points
    refine ⟨stored ++ [rows], ?_, ?_⟩
    · rw [List.mapM_append, hstored]
      simp [hrows]
    · change db.routePoints ++ rows = _
      rw [hpoints, List.flatten_append, List.append_assoc]
      simp

/-! ## Answers -/

/-- Nothing is stored of the batch yet. -/
theorem reply_of_free (h : db.Holds base recorded) (hfree : db.batches.find? call.key = none) :
    call.reply recorded = if call.rows.isSome then .ok (call.response call.samples.length false)
      else .error (.other "DataError") := by
  rw [h.find?, Option.map_eq_none_iff] at hfree
  unfold LocationCall.reply
  rw [hfree]

/-- The batch is stored: the hash tells whether the samples are the same. -/
theorem reply_of_found {batch : RideLocationBatch} (h : db.Holds base recorded)
    (hhash : ∀ first ∈ recorded, first.payloadHash = call.payloadHash →
      payloadText first.samples = payloadText call.samples)
    (hbatch : db.batches.find? call.key = some batch) :
    call.reply recorded = if batch.payloadHash = call.payloadHash then .ok (call.response batch.samplesCount true)
      else .error call.conflict := by
  obtain ⟨first, hmem, hfirst, -, rfl⟩ := h.exists_first hbatch
  have hsamples : first.samples = call.samples ↔ first.receipt.payloadHash = call.payloadHash := by
    refine ⟨fun heq => congrArg (fun samples => hashText (payloadText samples)) heq, fun heq => ?_⟩
    exact payloadText_injective (hhash first hmem heq)
  have hcount : first.receipt.samplesCount = first.samples.length := List.length_map _
  unfold LocationCall.reply
  rw [hfirst, hcount]
  by_cases heq : first.samples = call.samples
  · rw [if_pos (hsamples.mp heq)]
    exact if_pos heq
  · rw [if_neg fun hpayload => heq (hsamples.mpr hpayload)]
    exact if_neg heq

/-- A call that succeeds has stored its batch, or it was stored before. -/
theorem covers_of_answer {db : RideDb} {response : LocationResponse} (h : call.answer db recorded = .ok response) :
    response.replayed = false ∨ ∃ first ∈ recorded, first.key = call.key ∧ first.samples = call.samples := by
  unfold LocationCall.answer at h
  cases hrefusal : call.refusal db with
  | some e =>
    rw [hrefusal] at h
    cases h
  | none =>
    rw [hrefusal] at h
    dsimp only at h
    unfold LocationCall.reply at h
    cases hfirst : recorded.find? fun first => first.key = call.key with
    | some first =>
      rw [hfirst] at h
      dsimp only at h
      split_ifs at h with hsamples
      exact Or.inr ⟨first, List.mem_of_find?_eq_some hfirst, by simpa using List.find?_some hfirst, hsamples⟩
    | none =>
      rw [hfirst] at h
      dsimp only at h
      split_ifs at h
      obtain rfl := Except.ok.inj h
      exact Or.inl rfl

/-! ## The end of a call -/

theorem stored_append (log : List (Proc × Except Err LocationResponse)) (i : Proc)
    (result : Except Err LocationResponse) :
    stored calls (log ++ [(i, result)]) = stored calls log ++ if stores result = true then [calls i] else [] := by
  unfold stored
  rw [List.filter_append, List.map_append]
  cases hresult : stores result <;> simp [hresult]

/-- A call that ends as it is answered by the calls before it stays in step with them. -/
theorem InStep.finish {s : Shared (machine Proc)} {i : Proc} {result : Except Err LocationResponse}
    (h : InStep db₀ base earlier calls s)
    (hresult : result = (calls i).answer db₀.toRideDb (earlier ++ stored calls s.log))
    (hholds : db.Holds base (earlier ++ stored calls (s.log ++ [(i, result)]))) (hrides : db.rides = s.db.rides)
    (hprofiles : db.profiles = s.db.profiles) : InStep db₀ base earlier calls (s.finish i result db) where
  holds := hholds
  covers := by
    intro j response hmem
    change ∃ first ∈ earlier ++ stored calls (s.log ++ [(i, result)]), _
    rw [stored_append, ← List.append_assoc]
    rcases List.mem_append.mp hmem with hold | hnew
    · obtain ⟨first, hfirst, hsame⟩ := h.covers j response hold
      exact ⟨first, List.mem_append_left _ hfirst, hsame⟩
    · obtain ⟨rfl, rfl⟩ := Prod.mk.inj (List.mem_singleton.mp hnew)
      rcases covers_of_answer hresult.symm with hreplayed | ⟨first, hfirst, hsame⟩
      · have hstores : stores (.ok response) = true := by
          change (!response.replayed) = true
          rw [hreplayed]
          rfl
        rw [if_pos hstores]
        exact ⟨calls j, List.mem_append_right _ (List.mem_singleton_self _), rfl, rfl⟩
      · exact ⟨first, List.mem_append_left _ hfirst, hsame⟩
  answered := by
    intro before j result' after hlog
    change s.log ++ [(i, result)] = before ++ (j, result') :: after at hlog
    rcases List.eq_nil_or_concat after with rfl | ⟨after', last, rfl⟩
    · obtain ⟨rfl, hlast⟩ := List.append_inj' hlog rfl
      obtain ⟨rfl, rfl⟩ := Prod.mk.inj (List.singleton_inj.mp hlast)
      exact hresult
    · have hsplit : s.log ++ [(i, result)] = (before ++ (j, result') :: after') ++ [last] := by
        rw [hlog, List.concat_eq_append, List.append_assoc, List.cons_append]
      exact h.answered before j result' after' (List.append_inj' hsplit rfl).1
  rides := hrides.trans h.rides
  profiles := hprofiles.trans h.profiles

/-! ## The stages of a call -/

variable {i : Proc} {P : Point (machine Proc)} {s : Shared (machine Proc)} {batch : RideLocationBatch}
  {rows : List RideRoutePoint}

theorem Unchanged.withShared (h : Unchanged P) (s : Shared (machine Proc)) : Unchanged (P.withShared s) := h

theorem HasReceipt.interfere (h : HasReceipt call P) (hs : (discipline db₀ base earlier calls).Interferes i P s) :
    HasReceipt call (P.withShared s) where
  held := h.held
  free := (hs.same _ h.held).symm.trans h.free
  pending := h.pending

theorem HasPoints.interfere (h : HasPoints call rows P)
    (hs : (discipline db₀ base earlier calls).Interferes i P s) : HasPoints call rows (P.withShared s) where
  held := h.held
  free := (hs.same _ h.held).symm.trans h.free
  fits := h.fits
  pending := h.pending

theorem HasFound.interfere (h : HasFound call batch P)
    (hs : (discipline db₀ base earlier calls).Interferes i P s) : HasFound call batch (P.withShared s) where
  unchanged := h.unchanged
  found := hs.rely _ _ h.found

/-- The call fails as it is answered. -/
theorem ends_failed {e : Err} (h : ∀ s, (discipline db₀ base earlier calls).Interferes i P s →
    (calls i).answer db₀.toRideDb (earlier ++ stored calls s.log) = .error e) :
    (discipline db₀ base earlier calls).Ends i (.error e) P := by
  intro s hs
  refine ⟨InStep.finish hs.inv (h s hs).symm ?_ rfl rfl, fun _ _ hbatch => hbatch,
    fun k _ => (discipline db₀ base earlier calls).same_refl k _⟩
  rw [stored_append]
  exact (List.append_nil (stored calls s.log)).symm ▸ hs.inv.holds

/-- The batch is replayed. -/
theorem ends_replayed {count : Nat} (hP : Unchanged P)
    (h : ∀ s, (discipline db₀ base earlier calls).Interferes i P s →
      (calls i).answer db₀.toRideDb (earlier ++ stored calls s.log) = .ok ((calls i).response count true)) :
    (discipline db₀ base earlier calls).Ends i (.ok ((calls i).response count true)) P := by
  intro s hs
  have hdb : P.pending s.db = s.db := hP s.db
  change RelyGuarantee.Permits _ i P.held s (s.finish i _ (P.pending s.db))
  rw [hdb]
  refine ⟨InStep.finish hs.inv (h s hs).symm ?_ rfl rfl, fun _ _ hbatch => hbatch,
    fun k _ => (discipline db₀ base earlier calls).same_refl k _⟩
  rw [stored_append]
  exact (List.append_nil (stored calls s.log)).symm ▸ hs.inv.holds

/-- The batch is stored. -/
theorem ends_stored (hP : HasPoints (calls i) rows P) (hrefusal : (calls i).refusal db₀.toRideDb = none) :
    (discipline db₀ base earlier calls).Ends i
      (.ok ((calls i).response (calls i).samples.length false)) P := by
  intro s hs
  have hfree : s.db.batches.find? (calls i).key = none := (hP.interfere hs).free
  have hanswer : (calls i).answer db₀.toRideDb (earlier ++ stored calls s.log) =
      .ok ((calls i).response (calls i).samples.length false) := by
    unfold LocationCall.answer
    rw [hrefusal]
    dsimp only
    rw [reply_of_free hs.inv.holds hfree, hP.fits]
    rfl
  have hdb := hP.pending s.db
  change RelyGuarantee.Permits _ i P.held s (s.finish i _ (P.pending s.db))
  rw [hdb]
  refine ⟨InStep.finish hs.inv hanswer.symm ?_ rfl rfl, ?_, ?_⟩
  · rw [stored_append, ← List.append_assoc]
    exact hs.inv.holds.store hfree hP.fits
  · intro key batch hbatch
    exact Table.find?_insert_of_some _ hbatch
  · rintro ⟨rideId, batchId⟩ hheld
    refine (Table.find?_insert_of_ne s.db.batches (r := (calls i).receipt) ?_).symm
    intro hkey
    obtain ⟨rfl, rfl⟩ := Prod.mk.inj hkey
    exact hheld hP.held

/-! ## The statements of a call -/

/-- Rides and profiles are those of the start. -/
theorem InStep.ride? (h : InStep db₀ base earlier calls s) (rideId : UUID) :
    s.db.toRideDb.ride? rideId = db₀.toRideDb.ride? rideId := by
  unfold RideDb.ride?
  rw [h.rides]

theorem InStep.profileOf (h : InStep db₀ base earlier calls s) (userId : UUID) :
    s.db.toRideDb.profileOf userId = db₀.toRideDb.profileOf userId := by
  unfold RideDb.profileOf
  rw [h.profiles]

theorem wp_loadRide {Q : Except Err Ride → Point (machine Proc) → Prop} (hP : Unchanged P)
    (hfound : ∀ s ride, (discipline db₀ base earlier calls).Interferes i P s →
      db₀.toRideDb.ride? call.rideId = some ride → Q (.ok ride) (P.withShared s))
    (hmissing : ∀ s, (discipline db₀ base earlier calls).Interferes i P s →
      db₀.toRideDb.ride? call.rideId = none → Q (.error LocationCall.rideNotFound) (P.withShared s)) :
    (discipline db₀ base earlier calls).wp i call.loadRide Q P := by
  refine wp_bind (wp_select fun s hs => ?_)
  have hview : (P.pending s.db).toRideDb.ride? call.rideId = db₀.toRideDb.ride? call.rideId := by
    rw [hP s.db]
    exact hs.inv.ride? _
  dsimp only
  rw [hview]
  cases hride : db₀.toRideDb.ride? call.rideId with
  | some ride => exact hfound s ride hs hride
  | none => exact hmissing s hs hride

theorem wp_isAssignedDriver {ride : Ride} {Q : Except Err Bool → Point (machine Proc) → Prop} (hP : Unchanged P)
    (hinv : InStep db₀ base earlier calls P.shared)
    (h : ∀ s, (discipline db₀ base earlier calls).Interferes i P s →
      Q (.ok (db₀.toRideDb.assigned ride call.actorUserId)) (P.withShared s)) :
    (discipline db₀ base earlier calls).wp i (call.isAssignedDriver ride) Q P := by
  unfold LocationCall.isAssignedDriver
  unfold RideDb.assigned at h
  cases hdriver : ride.driverId with
  | none =>
    rw [hdriver] at h
    exact h P.shared (Interferes.refl hinv)
  | some driverId =>
    rw [hdriver] at h
    refine wp_bind (wp_select fun s hs => ?_)
    have hview : (P.pending s.db).toRideDb.profileOf call.actorUserId =
        db₀.toRideDb.profileOf call.actorUserId := by
      rw [hP s.db]
      exact hs.inv.profileOf _
    dsimp only
    rw [hview]
    exact h s hs

/-- The points of a new batch are written, or they do not fit. -/
theorem wp_saveRoutePoints {Q : Except Err Unit → Point (machine Proc) → Prop} (hP : HasReceipt call P)
    (hstored : ∀ P' rows, HasPoints call rows P' → Q (.ok ()) P')
    (hfailed : call.rows = none → Q (.error (.other "DataError")) P) :
    (discipline db₀ base earlier calls).wp i (saveRoutePoints call.points) Q P := by
  unfold saveRoutePoints
  have hrows : call.points.mapM storedPoint = call.rows := rfl
  rw [hrows]
  cases hfits : call.rows with
  | none => exact hfailed hfits
  | some rows =>
    refine wp_update fun s hs => hstored _ rows ?_
    have hP' := hP.interfere hs
    exact
      { held := Or.inr hP'.held
        free := hP'.free
        fits := hfits
        pending := fun db => by
          change { P.pending db with routePoints := (P.pending db).routePoints ++ rows } = _
          rw [hP.pending db] }

/-- The batch is new, or its receipt is read. -/
theorem wp_saveRoutePointBatch {Q : Except Err (Nat × Bool × Bool) → Point (machine Proc) → Prop}
    (hP : Unchanged P) (hpoints : call.points ≠ [])
    (hstored : ∀ P' rows, HasPoints call rows P' → Q (.ok (call.points.length, false, false)) P')
    (hfailed : ∀ P', HasReceipt call P' → call.rows = none → Q (.error (.other "DataError")) P')
    (hfound : ∀ P' batch, HasFound call batch P' →
      Q (.ok (batch.samplesCount, true, decide (batch.payloadHash ≠ call.payloadHash))) P') :
    (discipline db₀ base earlier calls).wp i
      (saveRoutePointBatch call.rideId call.batchId call.actorUserId call.payloadHash call.points) Q P := by
  unfold saveRoutePointBatch
  rw [if_neg hpoints]
  refine wp_bind (wp_insertOnce fun s hs => ?_)
  rw [hP s.db]
  refine ⟨fun htaken => ?_, fun hfree => ?_⟩
  · obtain ⟨batch, hbatch⟩ := Option.isSome_iff_exists.mp htaken
    have hkept : HasFound call batch (P.withShared s) := ⟨hP, hbatch⟩
    refine wp_bind (wp_select fun s' hs' => ?_)
    have hview : ((P.withShared s).pending s'.db).batches.find? (call.rideId, call.batchId) = some batch := by
      rw [hP.withShared s s'.db]
      exact (hkept.interfere hs').found
    dsimp only
    rw [hview]
    exact hfound _ batch (hkept.interfere hs')
  · have hnone : s.db.batches.find? call.key = none :=
      Option.isNone_iff_eq_none.mp (Option.isSome_eq_false_iff.mp hfree)
    have hreceipt : HasReceipt call
        { shared := s, held := fun k => k = .batch call.rideId call.batchId ∨ P.held k
          pending := (fun db => { db with batches := db.batches.insert call.receipt }) ∘ P.pending } :=
      { held := Or.inl rfl
        free := hnone
        pending := fun db => by
          change { P.pending db with batches := (P.pending db).batches.insert call.receipt } = _
          rw [hP db] }
    refine wp_bind (wp_saveRoutePoints hreceipt ?_ ?_)
    · exact fun P' rows hP' => hstored P' rows hP'
    · exact hfailed _ hreceipt

/-! ## Calls -/

theorem answer_of_refused {e : Err} (h : call.refusal db₀.toRideDb = some e) :
    call.answer db₀.toRideDb recorded = .error e := by
  unfold LocationCall.answer
  rw [h]

theorem answer_of_admitted (h : call.refusal db₀.toRideDb = none) :
    call.answer db₀.toRideDb recorded = call.reply recorded := by
  unfold LocationCall.answer
  rw [h]

/-- A call whose points do not fit ends. -/
theorem ends_unfit (hP : HasReceipt (calls i) P) (hfits : (calls i).rows = none)
    (hrefusal : (calls i).refusal db₀.toRideDb = none) :
    (discipline db₀ base earlier calls).Ends i (.error (.other "DataError")) P := by
  refine ends_failed fun s hs => ?_
  rw [answer_of_admitted hrefusal, reply_of_free hs.inv.holds (hP.interfere hs).free, hfits]
  rfl

/-- What a call is answered that has found a receipt. -/
theorem HasFound.answer (hP : HasFound (calls i) batch P) (hhash : Collisionless earlier calls)
    (hrefusal : (calls i).refusal db₀.toRideDb = none)
    (hs : (discipline db₀ base earlier calls).Interferes i P s) :
    (calls i).answer db₀.toRideDb (earlier ++ stored calls s.log) =
      if batch.payloadHash = (calls i).payloadHash then .ok ((calls i).response batch.samplesCount true)
      else .error (calls i).conflict := by
  rw [answer_of_admitted hrefusal]
  refine reply_of_found hs.inv.holds (fun first hfirst => hhash first (calls i) ?_ (Or.inr ⟨i, rfl⟩))
    (hP.interfere hs).found
  rcases List.mem_append.mp hfirst with hearlier | hstored
  · exact Or.inl hearlier
  · obtain ⟨entry, -, rfl⟩ := List.mem_map.mp hstored
    exact Or.inr ⟨entry.1, rfl⟩

/-- A call ends as it is answered by the calls that have stored their batches by then. -/
theorem verified_action (hsamples : (calls i).samples ≠ []) (hhash : Collisionless earlier calls) :
    (discipline db₀ base earlier calls).Verified i (calls i).action s := by
  have hstart : Unchanged (Point.start s) := fun _ => rfl
  have hpoints : (calls i).points ≠ [] := fun h => hsamples (List.map_eq_nil_iff.mp h)
  refine wp_bind (wp_loadRide hstart (fun s ride hs hride => ?_) fun s hs hmissing => ?_)
  · refine wp_bind (wp_isAssignedDriver (P := (Point.start _).withShared s) hstart hs.inv fun s' hs' => ?_)
    refine wp_bind (wp_raiseIf (fun hassigned => ?_) fun hassigned => ?_)
    · refine ends_failed fun s _ => answer_of_refused ?_
      unfold LocationCall.refusal
      rw [hride]
      exact if_neg (by rw [hassigned]; exact Bool.false_ne_true)
    · have hrefusal : (calls i).refusal db₀.toRideDb = none := by
        unfold LocationCall.refusal
        rw [hride]
        exact if_pos (by simpa using hassigned)
      refine wp_bind (wp_saveRoutePointBatch (P := ((Point.start _).withShared s).withShared s') hstart hpoints
        (fun P rows hP => ?_) (fun P hP hfits => ends_unfit hP hfits hrefusal) fun P batch hP => ?_)
      · have hcount : (calls i).points.length = (calls i).samples.length := List.length_map _
        refine wp_bind (wp_raiseIf (fun hfalse => Bool.noConfusion hfalse) fun _ => ?_)
        change (discipline db₀ base earlier calls).Ends i (.ok ((calls i).response (calls i).points.length false)) P
        rw [hcount]
        exact ends_stored hP hrefusal
      · refine wp_bind (wp_raiseIf (fun hconflict => ?_) fun hconflict => ?_)
        · refine ends_failed fun s hs => ?_
          rw [hP.answer hhash hrefusal hs]
          exact if_neg (of_decide_eq_true hconflict)
        · refine ends_replayed hP.unchanged fun s hs => ?_
          rw [hP.answer hhash hrefusal hs]
          exact if_pos (by simpa using hconflict)
  · refine ends_failed fun s _ => answer_of_refused ?_
    unfold LocationCall.refusal
    rw [hmissing]

/-! ## Runs -/

theorem inStep_initial (h : db₀.Holds base earlier) :
    InStep db₀ base earlier calls { db := db₀, world := (), log := [], trace := [] } where
  holds := by
    change db₀.Holds base (earlier ++ [])
    rw [List.append_nil]
    exact h
  covers _ _ hmem := nomatch hmem
  answered before _ _ _ hlog := by
    cases before <;> cases hlog
  rides := rfl
  profiles := rfl

variable [DecidableEq Proc]

/-- In every run of calls with non-empty batches the points that are stored are those of one call for each batch; a
batch that is sent again is replayed, and refused if its samples differ; a call that fails stores nothing. -/
theorem storedOnce_run {ms : List (Move (machine Proc))} {c : Config (machine Proc)}
    (hholds : db₀.Holds base earlier) (hsamples : ∀ i, (calls i).samples ≠ [])
    (hhash : Collisionless earlier calls) (hrun : (initial calls db₀).run ms = some c) :
    StoredOnce db₀ base earlier calls c.shared := by
  have hsound : (discipline db₀ base earlier calls).Sound (initial calls db₀) :=
    sound_initial (inStep_initial hholds) fun i => verified_action (hsamples i) hhash
  exact (hsound.run hrun).inv.toStoredOnce

namespace Sample

/-- A ride and its driver. -/
def tables : LocationDb :=
  { rides := Table.empty.insert { id := 1, passengerUserId := 5, driverId := some 7 }
    profiles := Table.empty.insert { id := 7, userId := 9 } }

/-- The driver sends a sample. -/
def sends (lat : PyFloat) : LocationCall :=
  { rideId := 1, samples := [{ lat := lat, lng := ⟨"2.4", by decide⟩ }], actorUserId := 9, batchId := 4, now := 0 }

/-- A batch. -/
def oneBatch : LocationCall := sends ⟨"6.3", by decide⟩

/-- Another one under the same identifier. -/
def otherBatch : LocationCall := sends ⟨"6.4", by decide⟩

/-- The driver sends the first batch twice, and then the other one. -/
def threeCalls : Fin 3 → LocationCall
  | 0 => oneBatch
  | 1 => oneBatch
  | 2 => otherBatch

/-- All three have been admitted before the first one ends. -/
def threeCallsMoves : List (Move (machine (Fin 3))) :=
  List.replicate 2 (.go 2) ++ List.replicate 2 (.go 1) ++ List.replicate 5 (.go 0) ++ List.replicate 3 (.go 1) ++
    List.replicate 3 (.go 2)

end Sample

theorem storedOnce_run_sample :
    ∃ c, (initial Sample.threeCalls Sample.tables).run Sample.threeCallsMoves = some c ∧
      c.shared.log.map Prod.snd = [.ok ((Sample.threeCalls 0).response 1 false),
        .ok ((Sample.threeCalls 1).response 1 true), .error (Sample.threeCalls 2).conflict] ∧
      StoredOnce Sample.tables [] [] Sample.threeCalls c.shared := by
  have hresults : ((initial Sample.threeCalls Sample.tables).run Sample.threeCallsMoves).map
      (fun c => c.shared.log.map Prod.snd) = some [.ok ((Sample.threeCalls 0).response 1 false),
        .ok ((Sample.threeCalls 1).response 1 true), .error (Sample.threeCalls 2).conflict] := by decide +kernel
  have hcalls : ∀ i, Sample.threeCalls i = Sample.oneBatch ∨ Sample.threeCalls i = Sample.otherBatch := by decide
  have hdiffer : Sample.oneBatch.payloadHash ≠ Sample.otherBatch.payloadHash := by decide +kernel
  have hcollisionless : Collisionless [] Sample.threeCalls := by
    rintro call call' (hcall | ⟨i, rfl⟩) (hcall' | ⟨j, rfl⟩) hhash
    · exact absurd hcall List.not_mem_nil
    · exact absurd hcall List.not_mem_nil
    · exact absurd hcall' List.not_mem_nil
    · rcases hcalls i with hi | hi <;> rcases hcalls j with hj | hj <;> rw [hi, hj] at hhash ⊢
      · exact absurd hhash hdiffer
      · exact absurd hhash.symm hdiffer
  obtain ⟨c, hrun, hlog⟩ := Option.map_eq_some_iff.mp hresults
  refine ⟨c, hrun, hlog, storedOnce_run ⟨rfl, List.nodup_nil, [], rfl, rfl⟩ (by decide) hcollisionless hrun⟩

end DiddiGo.Rides.LocationBatches
