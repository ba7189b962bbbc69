import DiddiGo.Rides.Proofs.ConcurrencyProofs
import DiddiGo.Rides.SupplementBooks

/-!
# Supplements add up

The row of the ride stays locked from before the decision is checked until the new total is committed, so
the total is the sum of what is stored then.
-/

namespace DiddiGo.Rides

open Data (Keyed Table)
open Transactions Prog RelyGuarantee

variable {Proc World : Type} {σ : Scenario Proc World} {i : Proc} {db db' : RideDb} {read loaded ride : Ride}
  {s : RideSupplement} {decision : SupplementStatus} {userId : UUID} {now : DateTime} {P : Point σ.machine}

@[simp] theorem id_withSupplements (r : Ride) (total : Decimal) : (r.withSupplements total).id = r.id := rfl

@[simp] theorem key_supplement (s : RideSupplement) : Keyed.key s = s.id := rfl

/-! ## The sum of the accepted supplements -/

/-- The part of a supplement in the total of a ride. -/
def RideSupplement.share (s : RideSupplement) (rideId : UUID) : Decimal :=
  if s.rideId = rideId ∧ s.status = .accepted then s.amount else 0

theorem acceptedSupplements_eq (db : RideDb) (rideId : UUID) :
    db.acceptedSupplements rideId = db.supplements.sum fun s => s.share rideId := rfl

theorem RideSupplement.share_of_pending (h : s.status = .pending) (rideId : UUID) : s.share rideId = 0 :=
  if_neg fun hs => SupplementStatus.noConfusion (h.symm.trans hs.2)

theorem RideSupplement.share_of_ne {rideId : UUID} (h : s.rideId ≠ rideId) : s.share rideId = 0 :=
  if_neg fun hs => h hs.1

/-- A decision adds the supplement to the total of its ride. -/
theorem acceptedSupplements_decideSupplement (h : db.supplements.find? s.id = some s)
    (hpending : s.status = .pending) (rideId : UUID) :
    (db.decideSupplement s.id decision userId now).acceptedSupplements rideId =
      db.acceptedSupplements rideId + (s.decide decision userId now).share rideId := by
  rw [acceptedSupplements_eq, acceptedSupplements_eq]
  have hsum := Table.sum_update (fun s : RideSupplement => s.decide decision userId now) (fun _ => rfl)
    (fun s => s.share rideId) h
  rw [s.share_of_pending hpending, sub_zero] at hsum
  exact hsum

/-- A proposal adds nothing. -/
theorem acceptedSupplements_insert (hpending : s.status = .pending) (rideId : UUID) :
    ({ db with supplements := db.supplements.insert s } : RideDb).acceptedSupplements rideId =
      db.acceptedSupplements rideId := by
  rw [acceptedSupplements_eq, acceptedSupplements_eq]
  cases h : db.supplements.find? s.id with
  | some x => rw [Table.insert_of_some (r := s) h]
  | none => rw [Table.sum_insert (r := s) _ h, s.share_of_pending hpending, add_zero]

/-! ## The row of the ride -/

/-- The ride is written with its new total. -/
theorem storedOver_withSupplements {row : Ride} {total total' : Decimal}
    (h : read = row.toDomain.withSupplements total) :
    (read.withSupplements total').storedOver row = row.withSupplements total' := by
  subst h
  unfold Ride.storedOver Ride.withSupplements Ride.toDomain
  simp only [Option.or_self]

theorem find?_settleSupplement {row : Ride} {total total' : Decimal}
    (hrow : db.rides.find? read.id = some row) (hread : read = row.toDomain.withSupplements total)
    (id : UUID) :
    (db.settleSupplement s decision userId now row (read.withSupplements total')).rides.find? id =
      if id = read.id then some (row.withSupplements total') else db.rides.find? id := by
  unfold RideDb.settleSupplement
  have hdecided : (db.decideSupplement s.id decision userId now).rides.find? read.id = some row := hrow
  rw [RideDb.flushRide_eq_put (r := read.withSupplements total') hdecided, RideDb.find?_put, id_withSupplements]
  by_cases hid : id = read.id
  · subst hid
    rw [if_pos rfl, if_pos rfl, hdecided, Option.map_some, storedOver_withSupplements hread]
  · rw [if_neg hid, if_neg hid]
    rfl

theorem acceptedSupplements_settleSupplement (id : UUID) :
    (db.settleSupplement s decision userId now loaded ride).acceptedSupplements id =
      (db.decideSupplement s.id decision userId now).acceptedSupplements id := rfl

theorem find?_supplements_settleSupplement (id : UUID) :
    (db.settleSupplement s decision userId now loaded ride).supplements.find? id =
      if id = s.id then (db.supplements.find? id).map fun s => s.decide decision userId now
      else db.supplements.find? id :=
  Table.find?_update db.supplements s.id (fun s => s.decide decision userId now) (fun _ => rfl) id

/-! ## Stages -/

/-- Nothing may be written. -/
abbrev Nothing (_ : RideDb → RideDb) : Prop := False

theorem stage_unchanged : (supplementDiscipline σ).Stage i Nothing Unchanged where
  interfere hP _ := hP
  hold hP _ := hP
  write _ hf := hf.elim

/-- What was read of a ride stays true except for its total. -/
theorem row_later {row : Ride} {total : Decimal} (hlater : SupplementsLater db db')
    (hrow : db.rides.find? read.id = some row) (hread : read = row.toDomain.withSupplements total) :
    ∃ row' total', db'.rides.find? read.id = some row' ∧ read = row'.toDomain.withSupplements total' := by
  obtain ⟨total', htotal'⟩ := hlater.rides read.id
  refine ⟨row.withSupplements total', total, by rw [htotal', hrow]; rfl, hread⟩

theorem stage_hasRead : (supplementDiscipline σ).Stage i Nothing (HasRead read) where
  interfere hP hs := by
    obtain ⟨row, total, hrow, hread⟩ := hP.row
    exact ⟨hP.unchanged, row_later hs.rely hrow hread⟩
  hold hP _ := ⟨hP.unchanged, hP.row⟩
  write _ hf := hf.elim

theorem HasLocked.interfere {s' : Shared σ.machine} (hP : HasLocked read s P)
    (hs : (supplementDiscipline σ).Interferes i P s') : HasLocked read s (P.withShared s') where
  row := by
    obtain ⟨row, total, hrow, hread⟩ := hP.row
    exact ⟨row, total, (hs.same _ hP.heldRide).1.symm.trans hrow, hread⟩
  heldRide := hP.heldRide
  heldSupplement := hP.heldSupplement
  found := (hs.same _ hP.heldSupplement).symm.trans hP.found
  rideId := hP.rideId
  pending := hP.pending

theorem HasLocked.hold {held : Row → Prop} {pending : RideDb → RideDb} (hP : HasLocked read s P)
    (h : ∀ k, P.held k → held k) : HasLocked read s { shared := P.shared, held := held, pending := pending } :=
  { hP with heldRide := h _ hP.heldRide, heldSupplement := h _ hP.heldSupplement }

/-- The total that is to be written does not change while the ride is locked. -/
theorem HasLocked.total_eq {s' : Shared σ.machine} (hP : HasLocked read s P)
    (hs : (supplementDiscipline σ).Interferes i P s') :
    (s'.db.decideSupplement s.id decision userId now).acceptedSupplements read.id =
      (P.shared.db.decideSupplement s.id decision userId now).acceptedSupplements read.id := by
  have hfound : s'.db.supplements.find? s.id = some s := (hP.interfere hs).found
  rw [acceptedSupplements_decideSupplement hfound hP.pending,
    acceptedSupplements_decideSupplement hP.found hP.pending, (hs.same _ hP.heldRide).2]

theorem HasSettled.interfere {s' : Shared σ.machine} (hP : HasSettled read s decision userId now P)
    (hs : (supplementDiscipline σ).Interferes i P s') :
    HasSettled read s decision userId now (P.withShared s') where
  toHasLocked := hP.toHasLocked.interfere hs
  settled := by
    obtain ⟨loaded, hloaded, hpending⟩ := hP.settled
    refine ⟨loaded, (hs.same _ hP.heldRide).1.symm.trans hloaded, fun db => ?_⟩
    rw [show (P.withShared s').pending db = P.pending db from rfl, hpending db]
    change _ = db.settleSupplement s decision userId now loaded (read.withSupplements
      ((s'.db.decideSupplement s.id decision userId now).acceptedSupplements read.id))
    rw [hP.toHasLocked.total_eq hs]

/-! ## What may be published -/

theorem permits_of_db {held : Row → Prop} {s s' : Shared σ.machine} (hinv : s.db.Billed) (h : s'.db = s.db) :
    (supplementDiscipline σ).Permits i held s s' where
  inv := by
    change s'.db.Billed
    rw [h]
    exact hinv
  guar := by
    change SupplementsLater s.db s'.db
    rw [h]
    exact .refl _
  frame k _ := by
    rw [h]
    exact (supplementDiscipline σ).same_refl k _

theorem mem_rides_iff {r : Ride} : r ∈ db.rides.rows ↔ db.rides.find? r.id = some r := Table.mem_iff_find?

/-- A database in which the rides and the sums are as before is still billed. -/
theorem RideDb.Billed.congr (h : db.Billed) (hrides : ∀ id, db'.rides.find? id = db.rides.find? id)
    (hsums : ∀ id, db'.acceptedSupplements id = db.acceptedSupplements id) : db'.Billed := by
  intro r hr
  rw [hsums]
  refine h r (mem_rides_iff.mpr ?_)
  rw [← hrides]
  exact mem_rides_iff.mp hr

/-- A proposal may be published. -/
theorem permits_of_proposed {s s' : Shared σ.machine} (hP : HasProposed P)
    (hs : (supplementDiscipline σ).Interferes i P s) (h : s'.db = P.pending s.db) :
    (supplementDiscipline σ).Permits i P.held s s' := by
  obtain ⟨x, hx, hheld, hpending⟩ := hP
  have hdb : s'.db = { s.db with supplements := s.db.supplements.insert x } := h.trans (hpending s.db)
  refine ⟨?_, ?_, fun k hk => ?_⟩
  · change s'.db.Billed
    rw [hdb]
    exact RideDb.Billed.congr hs.inv (fun _ => rfl) (acceptedSupplements_insert hx)
  · change SupplementsLater s.db s'.db
    rw [hdb]
    refine ⟨(SupplementsLater.refl s.db).rides, fun id y hy => ⟨y, ?_, .refl y⟩⟩
    exact Table.find?_insert_of_some x hy
  · rw [hdb]
    cases k with
    | ride id => exact ⟨rfl, (acceptedSupplements_insert hx id).symm⟩
    | supplement id =>
      refine (Table.find?_insert_of_ne s.db.supplements (r := x) ?_).symm
      rintro rfl
      exact hk hheld
    | _ => trivial

theorem later_decide (h : s.status = .pending) (hdecision : decision ≠ .pending) :
    s.Later (s.decide decision userId now) := Or.inr ⟨h, hdecision, rfl⟩

/-- A decision may be published. -/
theorem permits_of_settled {s₁ s' : Shared σ.machine} (hdecision : decision ≠ .pending)
    (hP : HasSettled read s decision userId now P) (hs : (supplementDiscipline σ).Interferes i P s₁)
    (h : s'.db = P.pending s₁.db) : (supplementDiscipline σ).Permits i P.held s₁ s' := by
  have hlater := hP.interfere hs
  obtain ⟨row, total, hrow, hread⟩ := hlater.row
  obtain ⟨loaded, hloaded, hsettled⟩ := hlater.settled
  obtain rfl := Option.some.inj (hrow.symm.trans hloaded)
  have hrow : s₁.db.rides.find? read.id = some row := hrow
  have hfound : s₁.db.supplements.find? s.id = some s := hlater.found
  have hdb : s'.db = s₁.db.settleSupplement s decision userId now row (read.withSupplements
      ((s₁.db.decideSupplement s.id decision userId now).acceptedSupplements read.id)) :=
    h.trans (hsettled s₁.db)
  have hfind (id : UUID) : s'.db.rides.find? id = if id = read.id then some (row.withSupplements
      ((s₁.db.decideSupplement s.id decision userId now).acceptedSupplements read.id))
      else s₁.db.rides.find? id := by
    rw [hdb]
    exact find?_settleSupplement hrow hread id
  have hsum (id : UUID) : s'.db.acceptedSupplements id =
      (s₁.db.decideSupplement s.id decision userId now).acceptedSupplements id := by
    rw [hdb]
    rfl
  -- Only the total of the locked ride moves.
  have hother {id : UUID} (hid : id ≠ read.id) : s'.db.acceptedSupplements id = s₁.db.acceptedSupplements id := by
    rw [hsum, acceptedSupplements_decideSupplement hfound hlater.pending, RideSupplement.share_of_ne, add_zero]
    change s.rideId ≠ id
    rw [hlater.rideId]
    exact hid.symm
  refine ⟨?_, ⟨fun id => ?_, fun id x hx => ?_⟩, fun k hk => ?_⟩
  · intro r hr
    have hr := mem_rides_iff.mp hr
    rw [hfind] at hr
    by_cases hid : r.id = read.id
    · rw [if_pos hid] at hr
      rw [hsum, hid, ← Option.some.inj hr]
      rfl
    · rw [if_neg hid] at hr
      rw [hother hid]
      exact hs.inv r (mem_rides_iff.mpr hr)
  · rw [hfind]
    by_cases hid : id = read.id
    · exact ⟨_, by rw [if_pos hid, hid, hrow]; rfl⟩
    · rw [if_neg hid]
      exact (SupplementsLater.refl s₁.db).rides id
  · rw [hdb, find?_supplements_settleSupplement]
    by_cases hid : id = s.id
    · subst hid
      obtain rfl := Option.some.inj (hfound.symm.trans hx)
      exact ⟨_, by rw [if_pos rfl, hx]; rfl, later_decide hlater.pending hdecision⟩
    · exact ⟨x, by rw [if_neg hid, hx], .refl x⟩
  · cases k with
    | ride id =>
      have hid : id ≠ read.id := by
        rintro rfl
        exact hk hP.heldRide
      exact ⟨by rw [hfind, if_neg hid], (hother hid).symm⟩
    | supplement id =>
      have hid : id ≠ s.id := by
        rintro rfl
        exact hk hP.heldSupplement
      change s₁.db.supplements.find? id = s'.db.supplements.find? id
      rw [hdb, find?_supplements_settleSupplement, if_neg hid]
    | _ => trivial

/-! ## Requests -/

theorem wp_addSupplement {rideId : UUID} {actor : Actor} {type : String} {amount : Option Decimal}
    {label : Option String} {id : UUID} (hP : Unchanged P) :
    (supplementDiscipline σ).wpOk i (addSupplement rideId actor type amount label id now)
      (fun _ P' => HasProposed P') P := by
  refine wpOk_bind (stays_requireActiveRideForDriver stage_unchanged rideId actor _ P hP) fun ride P hP => ?_
  refine wpOk_bind (stays_supplementAmount _ amount P hP) fun amount P hP => ?_
  refine wpOk_bind (stays_supplementLabel _ label P hP) fun label P hP => ?_
  refine wpOk_bind (Q := fun _ => HasProposed) (wpOk_writeOrRaise fun s hs _ => ?_) fun _ P hP => wpOk_ret hP
  refine ⟨_, rfl, Or.inl (List.mem_singleton.mpr rfl), fun db => ?_⟩
  simp only [Function.comp_apply, hP db]

theorem wp_loadRide {rideId : UUID} (hP : Unchanged P) :
    (supplementDiscipline σ).wpOk i (loadRide rideId) (fun ride => HasRead ride) P := by
  refine wpOk_bind (Q := fun o P' => ∀ ride, o = some ride → HasRead ride P') (wpOk_select fun s hs => ?_) ?_
  · intro ride hride
    refine ⟨hP, ?_⟩
    rw [hP] at hride
    obtain ⟨row, hrow, rfl⟩ := Option.map_eq_some_iff.mp hride
    obtain rfl : row.id = rideId := Table.key_of_find? hrow
    exact ⟨row, row.supplementsTotal, hrow, rfl⟩
  · intro o P hP
    cases o with
    | some ride => exact wpOk_ret (hP ride rfl)
    | none => exact wpOk_raise

/-- The ride is locked first and then the supplement. -/
theorem wp_findSupplementForUpdate {supplementId : UUID} (hP : HasRead read P) :
    (supplementDiscipline σ).wpOk i (findSupplementForUpdate read.id supplementId)
      (fun o P' => ∀ s, o = some s → s.id = supplementId ∧ (s.status = .pending → HasLocked read s P') ∧
        Unchanged P') P := by
  refine wpOk_bind (Q := fun _ P' => HasRead read P' ∧ P'.held (.ride read.id)) ?_ fun _ P hP => ?_
  · refine wpOk_selectForUpdate fun s hs => ?_
    have hread := stage_hasRead.interfere hP hs
    refine ⟨⟨hP.unchanged, hread.row⟩, Or.inl ⟨?_, rfl⟩⟩
    obtain ⟨row, total, hrow, -⟩ := hread.row
    rw [hP.unchanged, show s.db.rides.find? read.id = some row from hrow]
    rfl
  · refine wpOk_selectForUpdate fun s hs x hx => ?_
    have hread := stage_hasRead.interfere hP.1 hs
    rw [hP.1.unchanged] at hx
    obtain ⟨hfound, hride⟩ := Option.filter_eq_some_iff.mp hx
    obtain rfl : x.id = supplementId := Table.key_of_find? hfound
    refine ⟨rfl, fun hpending => ⟨hread.row, Or.inr hP.2, Or.inl ⟨?_, rfl⟩, hfound, ?_, hpending⟩,
      hP.1.unchanged⟩
    · rw [hP.1.unchanged, hx]
      rfl
    · exact of_decide_eq_true hride

theorem wp_saveSupplement (hP : HasLocked read s P) (hunchanged : Unchanged P) :
    (supplementDiscipline σ).wpOk i (saveSupplement (s.decide decision userId now))
      (fun _ => HasDecided read s decision userId now) P := by
  refine wpOk_bind (Q := fun _ P' => HasLocked read s P' ∧ Unchanged P')
    (wpOk_select fun s' hs => ⟨hP.interfere hs, hunchanged⟩) fun o P hP => ?_
  cases o with
  | none => exact wpOk_raise
  | some row =>
    refine wpOk_update fun s' hs => ⟨(hP.1.interfere hs).hold fun k hk => Or.inr hk, fun db => ?_⟩
    change RideDb.decideSupplement (P.pending db) s.id decision userId now = _
    rw [hP.2 db]

/-- The total is read under the lock. -/
theorem wp_acceptedSupplementsTotal (hP : HasDecided read s decision userId now P) :
    (supplementDiscipline σ).wpOk i (acceptedSupplementsTotal read.id)
      (fun total P' => HasDecided read s decision userId now P' ∧
        total = (P'.shared.db.decideSupplement s.id decision userId now).acceptedSupplements read.id) P := by
  refine wpOk_select fun s' hs => ⟨⟨hP.interfere hs, hP.decided⟩, ?_⟩
  rw [hP.decided]
  rfl

/-- Nobody changes the total before it is written. -/
theorem wp_saveTotal (hP : HasDecided read s decision userId now P) :
    (supplementDiscipline σ).wpOk i (save read (read.withSupplements
        ((P.shared.db.decideSupplement s.id decision userId now).acceptedSupplements read.id)))
      (fun _ => HasSettled read s decision userId now) P := by
  refine wpOk_bind (Q := fun o P' => HasDecided read s decision userId now P' ∧
    P'.shared.db.rides.find? read.id = o ∧
    (P'.shared.db.decideSupplement s.id decision userId now).acceptedSupplements read.id =
      (P.shared.db.decideSupplement s.id decision userId now).acceptedSupplements read.id)
    (wpOk_selectAs fun s' hs => ⟨permits_of_db hs.inv rfl, ⟨⟨?_, hP.decided⟩, ?_, ?_⟩⟩) ?_
  · exact { hP.interfere hs with }
  · rw [hP.decided]
    rfl
  · change (s'.db.decideSupplement s.id decision userId now).acceptedSupplements read.id = _
    exact hP.toHasLocked.total_eq hs
  rintro o P' ⟨hP', hfound, htotal⟩
  cases o with
  | none =>
    obtain ⟨row, total, hrow, -⟩ := hP'.row
    cases hrow.symm.trans hfound
  | some loaded =>
    refine wpOk_iff.mpr fun s' hs => ⟨fun l' _ => permits_of_db hs.inv rfl, ?_⟩
    dsimp only
    split_ifs with hconflict
    · exact nofun
    rintro _ -
    have hlocked : HasLocked read s (P'.withShared s') := hP'.interfere hs
    refine ⟨{ hlocked with heldRide := Or.inr hP'.heldRide, heldSupplement := Or.inr hP'.heldSupplement },
      loaded, ?_, fun db => ?_⟩
    · exact (hs.same _ hP'.heldRide).1.symm.trans hfound
    · have htotal' : (s'.db.decideSupplement s.id decision userId now).acceptedSupplements read.id = _ :=
        hP'.toHasLocked.total_eq hs
      rw [← htotal, ← htotal']
      change (P'.pending db).flushRide loaded _ = _
      rw [hP'.decided db]
      rfl

theorem wp_decideSupplement {rideId supplementId : UUID} {actor : Actor} (hP : Unchanged P) :
    (supplementDiscipline σ).wpOk i (decideSupplement rideId supplementId actor decision now)
      (fun _ P' => Unchanged P' ∨ ∃ read s, HasSettled read s decision actor.userId now P') P := by
  refine wpOk_bind (wp_loadRide hP) fun ride P hP => wpOk_raiseIf_bind fun _ => wpOk_raiseIf_bind fun _ =>
    wpOk_bind (wp_findSupplementForUpdate hP) fun o P hP => ?_
  cases o with
  | none => exact wpOk_raise
  | some s =>
    obtain ⟨-, hlocked, hunchanged⟩ := hP s rfl
    dsimp only
    by_cases hsame : s.status = decision
    · rw [if_pos hsame]
      exact wpOk_ret (Or.inl hunchanged)
    rw [if_neg hsame]
    refine wpOk_raiseIf_bind fun hpending => ?_
    refine wpOk_bind (wp_saveSupplement (hlocked (not_not.mp hpending)) hunchanged) fun _ P hP => ?_
    refine wpOk_bind (wp_acceptedSupplementsTotal hP) ?_
    rintro _ P ⟨hP, rfl⟩
    exact wpOk_bind (wp_saveTotal hP) fun _ P hP => wpOk_ret (Or.inr ⟨ride, s, hP⟩)
/-! ## Runs -/

theorem verified_of_wpOk {p : Action Unit} {sh : Shared σ.machine}
    (h : (supplementDiscipline σ).wpOk i p (fun _ P => (supplementDiscipline σ).Ends i (.ok ()) P)
      (Point.start sh)) : (supplementDiscipline σ).Verified i p sh := by
  refine wp_mono (wpOk_iff.mp h) fun result P hP => ?_
  cases result with
  | error e => exact fun s hs => permits_of_db hs.inv rfl
  | ok a => exact hP a rfl

theorem ends_of_unchanged (hP : Unchanged P) : (supplementDiscipline σ).Ends i (.ok ()) P :=
  fun s hs => permits_of_db hs.inv (hP s.db)

theorem verified_aboutSupplement (h : (σ.call i).op.aboutSupplement = true) (sh : Shared σ.machine) :
    (supplementDiscipline σ).Verified i ((σ.call i).action σ.env) sh := by
  have hstart : Unchanged (Point.start sh) := fun _ => rfl
  refine verified_of_wpOk ?_
  unfold RideCall.action
  cases hop : (σ.call i).op with
  | addSupplement rideId type amount label id =>
    refine wpOk_bind (stays_requireBusinessDriver stage_unchanged _ _ hstart) fun _ P hP => ?_
    refine wpOk_bind (wp_addSupplement hP) fun _ P hP => wpOk_ret ?_
    exact fun s hs => permits_of_proposed hP hs rfl
  | decideSupplement rideId supplementId accepted =>
    refine wpOk_bind (wp_decideSupplement hstart) fun _ P hP => wpOk_ret ?_
    rcases hP with hP | ⟨ride, s, hP⟩
    · exact ends_of_unchanged hP
    · refine fun s hs => permits_of_settled ?_ hP hs rfl
      cases accepted <;> exact nofun
  | _ =>
    rw [hop] at h
    cases h

/-! ## Repeated decisions -/

theorem RideCall.Repeats.later {call : RideCall} (h : call.Repeats db) (hlater : SupplementsLater db db') :
    call.Repeats db' := by
  obtain ⟨rideId, supplementId, accepted, ride, s, hop, hride, hactive, hmay, hs, hsride, hstatus⟩ := h
  obtain ⟨row, hrow, rfl⟩ := Option.map_eq_some_iff.mp hride
  obtain ⟨total, htotal⟩ := hlater.rides rideId
  obtain ⟨s', hs', hsame | ⟨hpending, -⟩⟩ := hlater.supplements supplementId s hs
  · subst hsame
    refine ⟨rideId, supplementId, accepted, (row.withSupplements total).toDomain, s', hop, ?_, hactive, hmay, hs',
      hsride, hstatus⟩
    unfold RideDb.ride?
    rw [htotal, hrow]
    rfl
  · rw [hpending] at hstatus
    cases accepted <;> cases hstatus

/-- The same decision again reads and returns. -/
theorem quiet_decideSupplement {call : RideCall} (env : Env) (h : call.Repeats db) :
    (call.action env).Quiet call.Repeats fun _ => True := by
  obtain ⟨rideId, supplementId, accepted, -, -, hop, -⟩ := h
  unfold RideCall.action
  rw [hop]
  -- What the checks find is what `Repeats` says.
  have hload : (loadRide rideId).Quiet call.Repeats fun ride => ride.id = rideId ∧ ride.UnderWay ∧
      (call.actor.isAdmin = true ∨ ride.passengerUserId = call.actor.userId) := by
    refine Quiet.bind (I := fun o => ∃ ride : Ride, o = some ride ∧ ride.id = rideId ∧ ride.UnderWay ∧
      (call.actor.isAdmin = true ∨ ride.passengerUserId = call.actor.userId)) (Quiet.select ?_) ?_
    · rintro db ⟨_, _, _, ride, s, hop', hride, hactive, hmay, -⟩
      obtain ⟨rfl, rfl, rfl⟩ := RideOp.decideSupplement.inj (hop'.symm.trans hop)
      refine ⟨ride, hride, ?_, hactive, hmay⟩
      obtain ⟨row, hrow, rfl⟩ := Option.map_eq_some_iff.mp hride
      exact Table.key_of_find? hrow
    · rintro _ ⟨ride, rfl, h⟩
      exact Quiet.ret h
  have hfind : (findSupplementForUpdate rideId supplementId).Quiet call.Repeats fun o =>
      ∃ s : RideSupplement, o = some s ∧ s.status = if accepted then .accepted else .disputed := by
    refine Quiet.bind (I := fun _ => True) (Quiet.selectForUpdate fun _ _ => trivial) fun _ _ =>
      Quiet.selectForUpdate ?_
    rintro db ⟨_, _, _, _, s, hop', -, -, -, hs, hsride, hstatus⟩
    obtain ⟨rfl, rfl, rfl⟩ := RideOp.decideSupplement.inj (hop'.symm.trans hop)
    exact ⟨s, by rw [hs, Option.filter_some, if_pos (decide_eq_true hsride)], hstatus⟩
  refine Quiet.bind (I := fun _ => True) (Quiet.bind hload ?_) fun _ _ => Quiet.ret trivial
  rintro ride ⟨rfl, hactive, hmay⟩
  refine Quiet.raiseIf_bind ?_ (Quiet.raiseIf_bind ?_ (Quiet.bind hfind ?_))
  · rintro ⟨hadmin, hother⟩
    rcases hmay with hmay | hmay
    · rw [hmay] at hadmin
      cases hadmin
    · exact hother hmay
  · rintro ⟨h₁, h₂⟩
    exact hactive.elim h₁ h₂
  · rintro _ ⟨s, rfl, hstatus⟩
    dsimp only
    rw [if_pos hstatus]
    exact Quiet.ret trivial

section

variable [DecidableEq Proc]

theorem later_run {c c' : Config σ.machine} {ms : List (Move σ.machine)}
    (hc : (supplementDiscipline σ).Sound c) (hrun : c.run ms = some c') :
    SupplementsLater c.shared.db c'.shared.db :=
  have hrel : (fun s s' : Shared σ.machine => SupplementsLater s.db s'.db) c.shared c'.shared :=
    hc.run_rel hrun (fun _ => .refl _) (fun _ _ _ h h' => h.trans h') fun _ _ _ _ _ h => h
  hrel

omit [DecidableEq Proc] in
theorem sound_scenario {w : World} (hσ : ∀ i, (σ.call i).op.aboutSupplement = true) (hbilled : db.Billed) :
    (supplementDiscipline σ).Sound (σ.initial db w) :=
  sound_initial hbilled fun i => verified_aboutSupplement (hσ i) _

/-- Whatever the order in which drivers propose and passengers decide, the totals are right, no decision is
taken twice, and a repeated one does nothing. -/
theorem supplementsAddUp_run {w : World} {ms : List (Move σ.machine)} {c' : Config σ.machine}
    (hσ : ∀ i, (σ.call i).op.aboutSupplement = true) (hbilled : db.Billed)
    (hrun : (σ.initial db w).run ms = some c') : SupplementsAddUp (σ.initial db w) ms c' := by
  have hsound := sound_scenario (w := w) hσ hbilled
  refine ⟨(hsound.run hrun).inv, ?_, ?_⟩
  · rintro before later c₁ rfl hbefore id s hs
    obtain ⟨c₂, h₂, hlater⟩ := Option.bind_eq_some_iff.mp ((run_append_eq ..).symm.trans hrun)
    obtain rfl := Option.some.inj (hbefore.symm.trans h₂)
    exact (later_run (hsound.run hbefore) hlater).supplements id s hs
  · rintro before later c₁ i rfl hbefore htask hrepeats
    obtain ⟨c₂, h₂, hlater⟩ := Option.bind_eq_some_iff.mp ((run_append_eq ..).symm.trans hrun)
    obtain rfl := Option.some.inj (hbefore.symm.trans h₂)
    have htask : c₁.task i = .running ((σ.call i).action σ.env) id := htask
    have hunlogged := unlogged_run (c := σ.initial db w) (fun _ _ _ => List.not_mem_nil) hbefore i
      (by rw [htask]; exact nofun)
    have hcalm : Calm (σ.call i).Repeats i c₁ :=
      .running _ id htask (quiet_decideSupplement σ.env hrepeats) (fun _ => rfl) hunlogged
    have hstays (before' later' : List (Move σ.machine)) (c₂ : Config σ.machine)
        (_ : later = before' ++ later') (hrun' : c₁.run before' = some c₂) :
        (σ.call i).Repeats c₂.shared.db := hrepeats.later (later_run (hsound.run hbefore) hrun')
    obtain ⟨hend, halone⟩ := hcalm.run hstays hlater
    exact ⟨halone, hend.no_error⟩

/-- The passenger accepts the supplement 60 of the ride 50 twice. -/
def acceptedTwice : Scenario Bool Unit where
  env := Sample.env
  call _ :=
    { op := .decideSupplement 50 60 true, actor := ⟨1, "passenger"⟩
      config := dispatchConfigFromSettings Sample.env.settings, clock := { now := 30 } }
  receives w _ _ := w
  answers w _ _ _ := some w

/-- The ride is under way, and the driver has proposed the supplement. -/
def supplementProposed : RideDb where
  rides := .insert .empty { id := 50, passengerUserId := 1, status := .inProgress }
  supplements := .insert .empty { id := 60, rideId := 50, amount := 500, reason := "luggage", createdAt := 20 }

/-- The first request reads the ride before the second one starts, and the second waits for the lock. -/
theorem supplementsAddUp_run_acceptedTwice :
    ∃ c', (acceptedTwice.initial supplementProposed ()).run
        (.go false :: .go false :: .go true :: (List.replicate 7 (.go false) ++ List.replicate 3 (.go true))) =
          some c' ∧
      SupplementsAddUp (acceptedTwice.initial supplementProposed ())
        (.go false :: .go false :: .go true :: (List.replicate 7 (.go false) ++ List.replicate 3 (.go true))) c' := by
  have hbilled : supplementProposed.Billed := by
    intro r hr
    rw [List.mem_singleton.mp hr]
    decide +kernel
  exact ⟨_, rfl, supplementsAddUp_run (fun _ => rfl) hbilled rfl⟩

end

end DiddiGo.Rides
