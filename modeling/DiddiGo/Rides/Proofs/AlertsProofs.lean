import DiddiGo.Rides.Alerts
import DiddiGo.Rides.Proofs.ConcurrencyProofs
import DiddiGo.Transactions.Proofs.GuardingProofs

/-!
# Alerts are recorded

The row of the ride stays locked from before the notifications are sent until the alert is stored, so an
alert that is up to date when it locks the ride is stored, and knows whether the contact was reached.
-/

namespace DiddiGo.Rides

open Data (Json Keyed Table)
open Transactions Prog RelyGuarantee

variable {rideId : UUID} {db db' : RideDb} {e : RideEmergencyEvent} {alerts seen : List RideEmergencyEvent}

/-! ## Numbered alerts -/

theorem numbered_nil : Numbered [] := rfl

theorem Numbered.mem_sequence_iff (h : Numbered alerts) (n : Int) :
    (∃ a ∈ alerts, a.sequence = n) ↔ 1 ≤ n ∧ n ≤ alerts.length := by
  have hmem : (∃ a ∈ alerts, a.sequence = n) ↔ n ∈ (List.range alerts.length).map fun k : ℕ => (k : Int) + 1 := by
    rw [← h, List.mem_map]
  rw [hmem, List.mem_map]
  constructor
  · rintro ⟨k, hk, rfl⟩
    have hk := List.mem_range.mp hk
    omega
  · rintro ⟨h₁, h₂⟩
    exact ⟨(n - 1).toNat, List.mem_range.mpr (by omega), by omega⟩

theorem Numbered.sequence_le (h : Numbered alerts) {a : RideEmergencyEvent} (ha : a ∈ alerts) :
    a.sequence ≤ alerts.length := ((h.mem_sequence_iff a.sequence).mp ⟨a, ha, rfl⟩).2

theorem Numbered.snoc (h : Numbered alerts) (he : e.sequence = alerts.length + 1) :
    Numbered (alerts ++ [e]) := by
  unfold Numbered at h ⊢
  rw [List.map_append, h, List.length_append, List.length_singleton, List.range_succ, List.map_append]
  simp only [List.map_cons, List.map_nil, he]

theorem Spaced.snoc {limit : Int} (hnumbered : Numbered alerts) (h : Spaced limit alerts)
    (hsequence : e.sequence = alerts.length + 1) (he : ∀ a ∈ alerts, limit ≤ e.requestedAt - a.requestedAt) :
    Spaced limit (alerts ++ [e]) := by
  intro a ha b hb hab
  rcases List.mem_append.mp ha with ha | ha <;> rcases List.mem_append.mp hb with hb | hb
  · exact h a ha b hb hab
  · rw [List.mem_singleton.mp hb]
    exact he a ha
  · rw [List.mem_singleton.mp ha] at hab
    have hle := hnumbered.sequence_le hb
    omega
  · rw [List.mem_singleton.mp ha, List.mem_singleton.mp hb] at hab
    omega

/-! ## The alerts of a ride -/

theorem mem_alertsOf : e ∈ db.alertsOf rideId ↔ e ∈ db.emergencyEvents.rows ∧ e.rideId = rideId := by
  unfold RideDb.alertsOf
  rw [List.mem_filter, decide_eq_true_iff]

theorem alertsOf_congr (h : db'.emergencyEvents = db.emergencyEvents) (rideId : UUID) :
    db'.alertsOf rideId = db.alertsOf rideId := by
  unfold RideDb.alertsOf
  rw [h]

/-- Two stored alerts of a ride with one number are the same. -/
theorem eq_of_sequence {a b : RideEmergencyEvent} (ha : a ∈ db.alertsOf rideId) (hb : b ∈ db.alertsOf rideId)
    (h : a.sequence = b.sequence) : a = b := by
  obtain ⟨ha, hra⟩ := mem_alertsOf.mp ha
  obtain ⟨hb, hrb⟩ := mem_alertsOf.mp hb
  have hkey : Keyed.key a = (Keyed.key b : UUID × Int) := Prod.ext (hra.trans hrb.symm) h
  have hfind := Table.find?_key_of_mem ha
  rw [hkey, Table.find?_key_of_mem hb] at hfind
  exact (Option.some.inj hfind).symm

/-- A number that no alert of the ride has is free. -/
theorem find?_of_free {n : Int} (h : ∀ a ∈ db.alertsOf rideId, a.sequence ≠ n) :
    db.emergencyEvents.find? (rideId, n) = none := by
  rw [Option.eq_none_iff_forall_ne_some]
  intro a ha
  have hkey : (a.rideId, a.sequence) = (rideId, n) := Table.key_of_find? ha
  obtain ⟨hride, hn⟩ := Prod.mk.inj hkey
  exact h a (mem_alertsOf.mpr ⟨Table.mem_of_find? ha, hride⟩) hn

theorem free_of_find? {n : Int} (h : db.emergencyEvents.find? (rideId, n) = none) :
    ∀ a ∈ db.alertsOf rideId, a.sequence ≠ n := by
  rintro a ha rfl
  obtain ⟨hmem, rfl⟩ := mem_alertsOf.mp ha
  cases (Table.find?_key_of_mem hmem).symm.trans h

theorem alertsOf_insert (hdb : db'.emergencyEvents = db.emergencyEvents.insert e)
    (hfree : db.emergencyEvents.find? (e.rideId, e.sequence) = none) (rideId : UUID) :
    db'.alertsOf rideId = db.alertsOf rideId ++ if e.rideId = rideId then [e] else [] := by
  unfold RideDb.alertsOf
  rw [hdb, Table.rows_insert (r := e) hfree, List.filter_append]
  by_cases h : e.rideId = rideId
  · rw [if_pos h, List.filter_singleton, decide_eq_true h]
    rfl
  · rw [if_neg h, List.filter_singleton, decide_eq_false h]
    rfl

/-- The read of the latest alert. -/
theorem latest_of_numbered (h : Numbered (db.alertsOf rideId)) :
    Latest (db.alertsOf rideId)
      ((db.alertsOf rideId).mergeSort fun a b => decide (b.sequence ≤ a.sequence)).head? := by
  set sorted := (db.alertsOf rideId).mergeSort fun a b => decide (b.sequence ≤ a.sequence) with hsorted
  have hperm : sorted.Perm (db.alertsOf rideId) := List.mergeSort_perm _ _
  have hpair : sorted.Pairwise fun a b => decide (b.sequence ≤ a.sequence) = true :=
    List.pairwise_mergeSort (fun a b c hab hbc => decide_eq_true
        (le_trans (b := b.sequence) (of_decide_eq_true hbc) (of_decide_eq_true hab)))
      (fun a b => by
        rw [← Bool.decide_or]
        exact decide_eq_true (le_total b.sequence a.sequence)) _
  cases hhead : sorted with
  | nil =>
    rw [hhead] at hperm
    exact .none hperm.symm.eq_nil
  | cons x rest =>
    rw [hhead] at hperm hpair
    have hx : x ∈ db.alertsOf rideId := hperm.mem_iff.mp List.mem_cons_self
    refine .some x hx (le_antisymm (h.sequence_le hx) ?_)
    have hpos : 0 < (db.alertsOf rideId).length := List.length_pos_of_mem hx
    obtain ⟨y, hy, hlast⟩ := (h.mem_sequence_iff (db.alertsOf rideId).length).mpr ⟨by omega, le_rfl⟩
    rw [← hlast]
    rcases List.mem_cons.mp (hperm.mem_iff.mpr hy) with rfl | hy
    · exact le_rfl
    · exact of_decide_eq_true (List.rel_of_pairwise_cons hpair hy)

/-! ## What is recorded -/

section

variable {Proc World : Type} {σ : Scenario Proc World} {i : Proc} {s s' : Shared σ.machine}
  {P : Point σ.machine} {event : Event σ.machine}

theorem SameRecord.rfl : SameRecord i s s := ⟨id, id, fun _ => id⟩

theorem AlertsGrow.rfl : AlertsGrow rideId s s := ⟨List.prefix_rfl, id, fun _ => id⟩

/-- An event that is no answer to process `i`. -/
theorem SameRecord.of_trace (htrace : s'.trace = s.trace ++ [event]) (hlog : s'.log = s.log)
    (h : ∀ q a, event ≠ .answered i q a) : SameRecord i s s' where
  notified := by
    rintro ⟨notice, items, hmem⟩
    rw [htrace] at hmem
    rcases List.mem_append.mp hmem with hmem | hmem
    · exact ⟨notice, items, hmem⟩
    · exact absurd (List.mem_singleton.mp hmem).symm (h _ _)
  reached := by
    rintro ⟨notice, items, hmem, hreached⟩
    rw [htrace] at hmem
    rcases List.mem_append.mp hmem with hmem | hmem
    · exact ⟨notice, items, hmem, hreached⟩
    · exact absurd (List.mem_singleton.mp hmem).symm (h _ _)
  log r hr := by rwa [hlog] at hr

theorem UpToDate.before (h : UpToDate rideId s') (htrace : ∀ e ∈ s.trace, e ∈ s'.trace) : UpToDate rideId s :=
  fun i seen read locked hseen hlocked => h i seen read locked (htrace _ hseen) (htrace _ hlocked)

/-- A step of process `i`, which has not ended, that adds an event and changes no database. -/
theorem permits_of_trace {held : Row → Prop} (hinv : AlertBooks rideId s) (hunlogged : ∀ r, (i, r) ∉ s.log)
    (hdb : s'.db = s.db) (htrace : s'.trace = s.trace ++ [event]) (hlog : s'.log = s.log)
    (hothers : ∀ j, j ≠ i → ∀ q a, event ≠ .answered j q a)
    (hfirst : ReachedContact i s' → ¬ ReachedContact i s → UpToDate rideId s' →
      ∀ e ∈ s.db.alertsOf rideId, e.contactNotified = false) :
    (alertDiscipline σ rideId).Permits i held s s' := by
  have hmem : ∀ e ∈ s.trace, e ∈ s'.trace := fun e he => by
    rw [htrace]
    exact List.mem_append_left _ he
  have hsame (j : Proc) (hj : j ≠ i) : SameRecord j s s' := .of_trace htrace hlog (hothers j hj)
  refine ⟨?_, ⟨⟨?_, ?_, hmem⟩, hsame, ?_⟩, fun k _ => ?_⟩
  · constructor
    · rw [hdb]
      exact hinv.numbered
    · rw [hdb]
      exact hinv.spaced
    · rw [hdb]
      exact hinv.known
    · intro hcurrent j r hr hnotified
      rw [hlog] at hr
      have hj : j ≠ i := by
        rintro rfl
        exact hunlogged r hr
      obtain ⟨e, he, hop, hreached⟩ :=
        hinv.recorded (hcurrent.before hmem) j r hr ((hsame j hj).notified hnotified)
      rw [hdb]
      exact ⟨e, he, hop, fun h => hreached ((hsame j hj).reached h)⟩
  · exact hdb.symm ▸ List.prefix_rfl
  · rw [hdb]
    exact id
  · rw [hdb]
    exact hfirst
  · rw [hdb]
    exact (alertDiscipline σ rideId).same_refl k _

/-- A statement of process `i` is noted. -/
theorem permits_note {held : Row → Prop} (hinv : AlertBooks rideId s) (hunlogged : ∀ r, (i, r) ∉ s.log)
    (l : Label) (view : RideDb) :
    (alertDiscipline σ rideId).Permits i held s (s.note i (some l) view) := by
  have hsame : SameRecord i s (s.note i (some l) view) := .of_trace rfl rfl fun _ _ => stmt_ne_answered
  exact permits_of_trace hinv hunlogged rfl rfl rfl (fun _ _ _ _ => stmt_ne_answered)
    fun h h' => absurd (hsame.reached h) h'

theorem permits_send {held : Row → Prop} (hinv : AlertBooks rideId s) (hunlogged : ∀ r, (i, r) ∉ s.log)
    (q : Query) : (alertDiscipline σ rideId).Permits i held s (s.send i q) := by
  have hsame : SameRecord i s (s.send i q) := .of_trace rfl rfl fun _ _ => sent_ne_answered
  exact permits_of_trace hinv hunlogged rfl rfl rfl (fun _ _ _ _ => sent_ne_answered)
    fun h h' => absurd (hsame.reached h) h'

theorem permits_reply {held : Row → Prop} (hinv : AlertBooks rideId s) (hunlogged : ∀ r, (i, r) ∉ s.log)
    {q : Query} {a : Answer} {w : World}
    (hfirst : ReachedContact i (s.reply i q a w) → ¬ ReachedContact i s → UpToDate rideId (s.reply i q a w) →
      ∀ e ∈ s.db.alertsOf rideId, e.contactNotified = false) :
    (alertDiscipline σ rideId).Permits i held s (s.reply i q a w) :=
  permits_of_trace hinv hunlogged rfl rfl rfl
    (fun _ hj _ _ h => hj (Event.answered.inj h).1.symm) hfirst

/-- What process `i` knows of itself survives the others. -/
theorem Silenced.interfere (h : Silenced i s) (hs : SameRecord i s s') : Silenced i s' :=
  ⟨fun r hr => h.unlogged r (hs.log r hr), fun hn => h.unnotified (hs.notified hn)⟩

theorem HasSeen.interfere (h : HasSeen rideId i seen s) (hs : AlertsGrow rideId s s') :
    HasSeen rideId i seen s' where
  traced := by
    obtain ⟨view, hview, hseen⟩ := h.traced
    exact ⟨view, hs.trace _ hview, hseen⟩
  grown := h.grown.trans hs.alerts
  ride := hs.ride h.ride

theorem HasOpened.interfere (h : HasOpened rideId i seen P)
    (hs : (alertDiscipline σ rideId).Interferes i P s') : HasOpened rideId i seen (P.withShared s') where
  toHasSeen := h.toHasSeen.interfere hs.rely.1
  unlogged r hr := h.unlogged r (hs.rely.2.log r hr)
  held := h.held
  locked := by
    obtain ⟨read, view, hview, hlocked⟩ := h.locked
    exact ⟨read, view, hs.rely.1.trace _ hview, hlocked.trans (hs.same _ h.held)⟩
  alerts := h.alerts
  rides := h.rides

/-- Whoever is up to date sees the alerts that it had read. -/
theorem HasOpened.seen_eq (h : HasOpened rideId i seen P) (hcurrent : UpToDate rideId P.shared) :
    P.shared.db.alertsOf rideId = seen := by
  obtain ⟨view, hview, hseen⟩ := h.traced
  obtain ⟨read, view', hview', hlocked⟩ := h.locked
  rw [← hlocked, hcurrent i view read view' hview hview', hseen]

theorem Starting.interfere (h : Starting i P) (hs : (alertDiscipline σ rideId).Interferes i P s') :
    Starting i (P.withShared s') := ⟨h.toSilenced.interfere hs.rely.2, h.unchanged⟩

theorem stage_hasFound : (alertDiscipline σ rideId).Stage i (fun _ => False) (HasFound rideId i) where
  interfere hP hs := ⟨hP.toStarting.interfere hs, hs.rely.1.ride hP.ride⟩
  hold hP _ := ⟨⟨hP.toSilenced, hP.unchanged⟩, hP.ride⟩
  write _ hf := hf.elim

theorem Silenced.mayFail (h : Silenced i P.shared) : MayFail rideId i P := ⟨h.unlogged, fun _ => h.unnotified⟩

theorem MayFail.interfere (h : MayFail rideId i P) (hs : (alertDiscipline σ rideId).Interferes i P s') :
    MayFail rideId i (P.withShared s') where
  unlogged r hr := h.unlogged r (hs.rely.2.log r hr)
  unnotified hcurrent hn := h.unnotified (hcurrent.before hs.rely.1.trace) (hs.rely.2.notified hn)

/-! ## A request -/

theorem wpOr_loadRide (hP : Starting i P) :
    (alertDiscipline σ rideId).wpOr i (MayFail rideId i) (loadRide rideId)
      (fun ride P' => ride.id = rideId ∧ HasFound rideId i P') P := by
  refine wpOr_bind (I := fun o P' => Starting i P' ∧
    ∀ ride : Ride, o = some ride → ride.id = rideId ∧ HasFound rideId i P') (wpOr_select fun s hs => ?_) ?_
  · have hstart := hP.interfere hs
    refine ⟨hstart, fun ride hride => ?_⟩
    rw [hP.unchanged] at hride
    obtain ⟨row, hrow, rfl⟩ := Option.map_eq_some_iff.mp hride
    refine ⟨Table.key_of_find? hrow, hstart, ?_⟩
    change (s.db.rides.find? rideId).isSome
    rw [hrow]
    rfl
  · rintro o P ⟨hstart, hfound⟩
    cases o with
    | some ride => exact wpOr_ret (hfound ride rfl)
    | none => exact wpOr_raise hstart.toSilenced.mayFail

/-- The others may go on after a step of the process itself. -/
theorem Silenced.note (h : Silenced i s) (l : Label) (view : RideDb) : Silenced i (s.note i (some l) view) where
  unlogged := h.unlogged
  unnotified hn :=
    have hsame : SameRecord i s (s.note i (some l) view) := .of_trace rfl rfl fun _ _ => stmt_ne_answered
    h.unnotified (hsame.notified hn)

theorem AlertsGrow.of_trace (hdb : s'.db = s.db) (htrace : s'.trace = s.trace ++ [event]) :
    AlertsGrow rideId s s' where
  alerts := hdb.symm ▸ List.prefix_rfl
  ride := by
    rw [hdb]
    exact id
  trace e he := by
    rw [htrace]
    exact List.mem_append_left _ he

theorem wpOr_latestEmergencyEvent (hP : HasFound rideId i P) :
    (alertDiscipline σ rideId).wpOr i (MayFail rideId i) (latestEmergencyEvent rideId)
      (fun latest P' => ∃ seen, Latest seen latest ∧ HasSeen rideId i seen P'.shared ∧ Starting i P') P := by
  refine wpOr_selectAs fun s hs => ?_
  have hfound := stage_hasFound.interfere hP hs
  have hsilenced : Silenced i s := hfound.toSilenced
  refine ⟨permits_note hs.inv hsilenced.unlogged _ _, s.db.alertsOf rideId, ?_, ?_, ?_⟩
  · rw [hP.unchanged]
    exact latest_of_numbered hs.inv.numbered
  · refine ⟨⟨s.db, ?_, rfl⟩, List.prefix_rfl, hfound.ride⟩
    rw [hP.unchanged]
    exact List.mem_append_right _ (List.mem_singleton.mpr rfl)
  · exact ⟨hsilenced.note _ _, hP.unchanged⟩

theorem wpOr_checkEmergencyRate {β : Type} {cfg : Settings} {latest : Option RideEmergencyEvent} {now : DateTime}
    {f : Unit → Action β} {F : Point σ.machine → Prop} {Q : β → Point σ.machine → Prop} (hF : F P)
    (h : (∀ x, latest = some x → seconds cfg.rideEmergencyRateLimitSeconds ≤ now - x.requestedAt) →
      (alertDiscipline σ rideId).wpOr i F (f ()) Q P) :
    (alertDiscipline σ rideId).wpOr i F (checkEmergencyRate cfg latest now >>= f) Q P := by
  cases latest with
  | none => exact h nofun
  | some x =>
    refine wpOr_raiseIf_bind hF fun hrate => h fun y hy => ?_
    rw [← Option.some.inj hy]
    exact not_lt.mp hrate

theorem wpOr_saveAlert {ride : Ride} {note : Option String} {now : DateTime} (hid : ride.id = rideId)
    (hseen : HasSeen rideId i seen P.shared) (hP : Starting i P) :
    (alertDiscipline σ rideId).wpOr i (MayFail rideId i) (save ride (ride.alert note now))
      (fun _ P' => HasOpened rideId i seen P' ∧ ¬ Notified i P'.shared) P := by
  subst hid
  refine wpOr_bind (I := fun o P' => o.isSome ∧ HasSeen ride.id i seen P'.shared ∧ Starting i P')
    (wpOr_selectAs fun s hs => ?_) ?_
  · have hstart := hP.interfere hs
    have hseen' : HasSeen ride.id i seen s := hseen.interfere hs.rely.1
    refine ⟨permits_note hs.inv hstart.unlogged _ _, ?_, hseen'.interfere (.of_trace rfl rfl),
      hstart.toSilenced.note _ _, hP.unchanged⟩
    rw [hP.unchanged]
    exact hseen'.ride
  rintro o P ⟨hsome, hseen, hP⟩
  cases o with
  | none => cases hsome
  | some loaded =>
    refine wpOr_writeOrRaiseAs fun s hs => ?_
    have hstart := hP.interfere hs
    have hseen' : HasSeen ride.id i seen s := hseen.interfere hs.rely.1
    have hsilenced := hstart.toSilenced.note (.save ride) (P.pending s.db)
    refine ⟨permits_note hs.inv hstart.unlogged _ _, fun _ => hsilenced.mayFail, fun _ => ⟨?_, hsilenced.unnotified⟩⟩
    refine ⟨hseen'.interfere (.of_trace rfl rfl), hsilenced.unlogged, ?_, ⟨ride, s.db, ?_, rfl⟩, fun db => ?_,
      fun db hdb => ?_⟩
    · exact Or.inl List.mem_cons_self
    · rw [hP.unchanged]
      exact List.mem_append_right _ (List.mem_singleton.mpr rfl)
    · change ((P.pending db).flushRide loaded (ride.alert note now)).emergencyEvents = _
      rw [hP.unchanged]
      rfl
    · change (((P.pending db).flushRide loaded (ride.alert note now)).rides.find? ride.id).isSome
      rw [hP.unchanged, RideDb.flushRide, Table.find?_update,
        if_pos (show ride.id = (ride.alert note now).id from rfl), Option.isSome_map]
      exact hdb

/-- The process goes on after a step of its own that adds an event. -/
theorem HasOpened.own (h : HasOpened rideId i seen P) (hdb : s'.db = P.shared.db) (hlog : s'.log = P.shared.log)
    (htrace : s'.trace = P.shared.trace ++ [event]) : HasOpened rideId i seen (P.withShared s') where
  toHasSeen := h.toHasSeen.interfere (.of_trace hdb htrace)
  unlogged r hr := h.unlogged r (by rwa [← hlog])
  held := h.held
  locked := by
    obtain ⟨read, view, hview, hlocked⟩ := h.locked
    refine ⟨read, view, ?_, hlocked.trans ?_⟩
    · change _ ∈ s'.trace
      rw [htrace]
      exact List.mem_append_left _ hview
    · change _ = s'.db.alertsOf rideId
      rw [hdb]
  alerts := h.alerts
  rides := h.rides

theorem wpOr_askContact {userId : UUID} (hP : HasOpened rideId i seen P ∧ ¬ Notified i P.shared) :
    (alertDiscipline σ rideId).wpOr i (MayFail rideId i) (askFor Reply.contact? (.emergencyContact userId))
      (fun _ P' => HasOpened rideId i seen P' ∧ ¬ Notified i P'.shared) P := by
  refine wpOr_bind (I := fun _ P' => HasOpened rideId i seen P' ∧ ¬ Notified i P'.shared)
    (wpOr_ask fun s hs => ⟨permits_send hs.inv (hP.1.interfere hs).unlogged _, fun s' hs' a w _ => ?_⟩) ?_
  · have hsent : SameRecord i s (s.send i (.emergencyContact userId)) :=
      .of_trace rfl rfl fun _ _ => sent_ne_answered
    have hopened : HasOpened rideId i seen (P.withShared (s.send i (.emergencyContact userId))) :=
      (hP.1.interfere hs).own rfl rfl rfl
    have hopened' := hopened.interfere hs'
    have hunnotified : ¬ Notified i s' := fun h =>
      hP.2 (hs.rely.2.notified (hsent.notified (hs'.rely.2.notified h)))
    have hanswered : Notified i (s'.reply i (.emergencyContact userId) a w) → Notified i s' := by
      rintro ⟨notice, items, hmem⟩
      rcases List.mem_append.mp hmem with hmem | hmem
      · exact ⟨notice, items, hmem⟩
      · cases List.mem_singleton.mp hmem
    refine ⟨permits_reply hs'.inv hopened'.unlogged fun h => ?_, hopened'.own rfl rfl rfl,
      fun h => hunnotified (hanswered h)⟩
    obtain ⟨notice, items, hmem, -⟩ := h
    exact absurd (hanswered ⟨notice, items, hmem⟩) hunnotified
  · rintro a P ⟨hopened, hunnotified⟩
    have hfail : MayFail rideId i P := ⟨hopened.unlogged, fun _ => hunnotified⟩
    cases a with
    | error e => exact wpOr_raise hfail
    | ok reply =>
      dsimp only
      cases Reply.contact? reply with
      | some c => exact wpOr_ret ⟨hopened, hunnotified⟩
      | none => exact wpOr_raise hfail

/-- If the latest alert does not know of a notified contact, no alert does. -/
theorem unnotified_of_latest (hbooks : AlertBooks rideId s) (hseen : s.db.alertsOf rideId = seen)
    {latest : Option RideEmergencyEvent} (hlatest : Latest seen latest)
    (h : (latest.map RideEmergencyEvent.contactNotified).getD false = false) :
    ∀ a ∈ s.db.alertsOf rideId, a.contactNotified = false := by
  subst hseen
  intro a ha
  cases hlatest with
  | none hnil =>
    rw [hnil] at ha
    cases ha
  | some x hx hlast =>
    have hle := hbooks.numbered.sequence_le ha
    rcases hle.lt_or_eq with hlt | heq
    · rw [← hlast] at hlt
      refine Bool.eq_false_iff.mpr fun hflag => ?_
      exact absurd ((hbooks.known a ha x hx hlt hflag).symm.trans h) nofun
    · rw [eq_of_sequence ha hx (heq.trans hlast.symm)]
      exact h

theorem wpOr_notify {notice : EmergencyNotice} {latest : Option RideEmergencyEvent} (hlatest : Latest seen latest)
    (honce : notice.includeContact = true → (latest.map RideEmergencyEvent.contactNotified).getD false = false)
    (hP : HasOpened rideId i seen P ∧ ¬ Notified i P.shared) :
    (alertDiscipline σ rideId).wpOr i (MayFail rideId i) (askFor Reply.results? (.notifyEmergency notice))
      (fun results P' => HasOpened rideId i seen P' ∧
        (ReachedContact i P'.shared → results.any sentToContact = true)) P := by
  refine wpOr_bind (I := fun a P' => HasOpened rideId i seen P' ∧ (Notified i P'.shared →
      ∃ items, a = .ok (.results items) ∧ (ReachedContact i P'.shared → items.any sentToContact = true)))
    (wpOr_ask fun s hs => ⟨permits_send hs.inv (hP.1.interfere hs).unlogged _, fun s' hs' a w _ => ?_⟩) ?_
  · have hsent : SameRecord i s (s.send i (.notifyEmergency notice)) :=
      .of_trace rfl rfl fun _ _ => sent_ne_answered
    have hopened : HasOpened rideId i seen (P.withShared (s.send i (.notifyEmergency notice))) :=
      (hP.1.interfere hs).own rfl rfl rfl
    have hopened' := hopened.interfere hs'
    have hunnotified : ¬ Notified i s' := fun h =>
      hP.2 (hs.rely.2.notified (hsent.notified (hs'.rely.2.notified h)))
    -- The only notifications of the process are those of this answer.
    have hanswered {notice' : EmergencyNotice} {items : List Json}
        (hmem : .answered i (.notifyEmergency notice') (.ok (.results items)) ∈
          (s'.reply i (.notifyEmergency notice) a w).trace) :
        notice' = notice ∧ a = .ok (.results items) := by
      rcases List.mem_append.mp hmem with hmem | hmem
      · exact absurd ⟨notice', items, hmem⟩ hunnotified
      · obtain ⟨-, hq, ha⟩ := Event.answered.inj (List.mem_singleton.mp hmem)
        exact ⟨Query.notifyEmergency.inj hq, ha.symm⟩
    have hreached : ReachedContact i (s'.reply i (.notifyEmergency notice) a w) →
        notice.includeContact = true ∧ ∃ items, a = .ok (.results items) ∧ items.any sentToContact = true := by
      rintro ⟨notice', items, hmem, hinclude, -, hany⟩
      obtain ⟨rfl, ha⟩ := hanswered hmem
      exact ⟨hinclude, items, ha, hany⟩
    refine ⟨permits_reply hs'.inv hopened'.unlogged fun h _ hcurrent => ?_, hopened'.own rfl rfl rfl, ?_⟩
    · have hseen : s'.db.alertsOf rideId = seen :=
        hopened'.seen_eq (hcurrent.before fun _ => List.mem_append_left _)
      exact unnotified_of_latest hs'.inv hseen hlatest (honce (hreached h).1)
    · rintro ⟨notice', items, hmem⟩
      obtain ⟨-, rfl⟩ := hanswered hmem
      refine ⟨items, rfl, fun h => ?_⟩
      obtain ⟨-, items', hitems, hany⟩ := hreached h
      obtain rfl := Reply.results.inj (Except.ok.inj hitems)
      exact hany
  · rintro a P ⟨hopened, hresult⟩
    have hfail (ha : ∀ items, a ≠ .ok (.results items)) : MayFail rideId i P :=
      ⟨hopened.unlogged, fun _ hn => by
        obtain ⟨items, hitems, -⟩ := hresult hn
        exact ha items hitems⟩
    cases a with
    | error e => exact wpOr_raise (hfail nofun)
    | ok reply =>
      cases reply with
      | results items =>
        refine wpOr_ret ⟨hopened, fun h => ?_⟩
        obtain ⟨notice', items', hmem, hreached⟩ := h
        obtain ⟨items'', hitems, hany⟩ := hresult ⟨notice', items', hmem⟩
        obtain rfl := Reply.results.inj (Except.ok.inj hitems)
        exact hany ⟨notice', items', hmem, hreached⟩
      | _ => exact wpOr_raise (hfail nofun)

theorem HasStored.interfere (h : HasStored rideId i seen e P)
    (hs : (alertDiscipline σ rideId).Interferes i P s') : HasStored rideId i seen e (P.withShared s') where
  unlogged r hr := h.unlogged r (hs.rely.2.log r hr)
  held := h.held
  alerts := (show s'.db.alertsOf rideId = P.shared.db.alertsOf rideId from (hs.same _ h.held).symm).trans h.alerts
  pending := h.pending
  rides := h.rides
  reached hr := h.reached (hs.rely.2.reached hr)

/-- The next alert after the latest one. -/
theorem follows_of_latest (hbooks : AlertBooks rideId s) (hseen : s.db.alertsOf rideId = seen)
    {latest : Option RideEmergencyEvent} (hlatest : Latest seen latest) (hride : e.rideId = rideId)
    (hsequence : e.sequence = (latest.map RideEmergencyEvent.sequence).getD 0 + 1)
    (hrate : ∀ x, latest = some x →
      seconds σ.env.settings.rideEmergencyRateLimitSeconds ≤ e.requestedAt - x.requestedAt)
    (hknown : (latest.map RideEmergencyEvent.contactNotified).getD false = true → e.contactNotified = true) :
    Follows rideId (seconds σ.env.settings.rideEmergencyRateLimitSeconds) seen e := by
  subst hseen
  have hlimit : 0 ≤ seconds σ.env.settings.rideEmergencyRateLimitSeconds := by
    unfold seconds
    omega
  cases hlatest with
  | none hnil =>
    rw [hnil]
    exact ⟨hride, hsequence, fun _ ha => absurd ha List.not_mem_nil, fun _ ha => absurd ha List.not_mem_nil⟩
  | some x hx hlast =>
    have hsequence : e.sequence = x.sequence + 1 := hsequence
    -- Every alert is the latest one or comes before it.
    have hcases (a : RideEmergencyEvent) (ha : a ∈ s.db.alertsOf rideId) : a = x ∨ a.sequence < x.sequence := by
      have hle := hbooks.numbered.sequence_le ha
      rcases hle.lt_or_eq with hlt | heq
      · exact Or.inr (by rwa [hlast])
      · exact Or.inl (eq_of_sequence ha hx (heq.trans hlast.symm))
    refine ⟨hride, by rw [hsequence, hlast], fun a ha => ?_, fun a ha hflag => hknown ?_⟩
    · have hx' := hrate x rfl
      rcases hcases a ha with rfl | hlt
      · exact hx'
      · have hax := hbooks.spaced a ha x hx hlt
        omega
    · rcases hcases a ha with rfl | hlt
      · exact hflag
      · exact hbooks.known a ha x hx hlt hflag

theorem wpOr_saveEmergencyEvent {latest : Option RideEmergencyEvent} (hlatest : Latest seen latest)
    (hride : e.rideId = rideId) (hsequence : e.sequence = (latest.map RideEmergencyEvent.sequence).getD 0 + 1)
    (hrate : ∀ x, latest = some x →
      seconds σ.env.settings.rideEmergencyRateLimitSeconds ≤ e.requestedAt - x.requestedAt)
    (hknown : (latest.map RideEmergencyEvent.contactNotified).getD false = true → e.contactNotified = true)
    (hP : HasOpened rideId i seen P) (hreached : ReachedContact i P.shared → e.contactNotified = true) :
    (alertDiscipline σ rideId).wpOr i (MayFail rideId i) (saveEmergencyEvent e)
      (fun _ P' => HasStored rideId i seen e P' ∧
        Follows rideId (seconds σ.env.settings.rideEmergencyRateLimitSeconds) seen e) P := by
  have hlength : e.sequence = seen.length + 1 := by
    rw [hsequence]
    cases hlatest with
    | none hnil => rw [hnil]; rfl
    | some x hx hlast => rw [← hlast]; rfl
  refine wpOr_writeOrRaise fun s hs => ?_
  have hopened := hP.interfere hs
  have hgrown : seen <+: s.db.alertsOf rideId := hopened.grown
  have hfind : (P.pending s.db).emergencyEvents.find? (Keyed.key e) =
      s.db.emergencyEvents.find? (rideId, e.sequence) := by
    rw [hP.alerts, ← hride]
    rfl
  refine ⟨fun htaken => ⟨hopened.unlogged, fun hcurrent => ?_⟩, fun hfree => ?_⟩
  · rw [hfind] at htaken
    have hseen : s.db.alertsOf rideId = seen := hopened.seen_eq hcurrent
    have hnumber : ∀ a ∈ s.db.alertsOf rideId, a.sequence ≠ e.sequence := by
      intro a ha heq
      have hle := hs.inv.numbered.sequence_le ha
      rw [hseen] at hle
      omega
    rw [find?_of_free hnumber] at htaken
    cases htaken
  · rw [hfind, Option.isSome_eq_false_iff, Option.isNone_iff_eq_none] at hfree
    -- The number is free, so nothing was stored since the latest alert was read.
    have hseen : s.db.alertsOf rideId = seen := by
      refine (hgrown.eq_of_length_le ?_).symm
      by_contra hlt
      obtain ⟨a, ha, hnumber⟩ := (hs.inv.numbered.mem_sequence_iff e.sequence).mpr (by omega)
      exact free_of_find? hfree a ha hnumber
    refine ⟨⟨hopened.unlogged, Or.inr hP.held, hseen, fun db => ?_, hP.rides, fun h =>
      hreached (hs.rely.2.reached h)⟩, follows_of_latest hs.inv hseen hlatest hride hsequence hrate hknown⟩
    change (P.pending db).emergencyEvents.insert e = _
    rw [hP.alerts]

theorem wpOr_requestEmergency {note : Option String} {eventId : UUID} {actor : Actor} {now : DateTime}
    (honce : σ.env.settings.rideEmergencyContactNotifyOnce = true) (hP : Starting i P) :
    (alertDiscipline σ rideId).wpOr i (MayFail rideId i) (requestEmergency σ.env rideId actor note eventId now)
      (fun e P' => e.id = eventId ∧ ∃ seen, HasStored rideId i seen e P' ∧
        Follows rideId (seconds σ.env.settings.rideEmergencyRateLimitSeconds) seen e) P := by
  refine wpOr_bind (wpOr_loadRide hP) ?_
  rintro ride P ⟨rfl, hfound⟩
  refine wpOr_bind (wpOr_mono (remains_checkParticipant stage_hasFound ride actor P hfound)
    (fun _ _ h => h) fun _ h => h.toSilenced.mayFail) fun _ P hfound => ?_
  refine wpOr_bind (wpOr_latestEmergencyEvent hfound) ?_
  rintro latest P ⟨seen, hlatest, hseen, hstart⟩
  refine wpOr_checkEmergencyRate hstart.toSilenced.mayFail fun hrate => ?_
  refine wpOr_bind (wpOr_saveAlert rfl hseen hstart) fun _ P hopened => ?_
  refine wpOr_bind (wpOr_askContact hopened) fun contact P hopened => ?_
  refine wpOr_bind (wpOr_notify hlatest (fun hinclude => ?_) hopened) ?_
  · dsimp only at hinclude
    rw [honce, Bool.true_and] at hinclude
    exact (Bool.not_eq_true' _).mp hinclude
  rintro results P ⟨hopened, hreached⟩
  refine wpOr_bind (wpOr_saveEmergencyEvent hlatest rfl rfl hrate (fun hknown => ?_) hopened fun h => ?_)
    fun _ P hP => wpOr_ret ⟨rfl, seen, hP⟩
  · exact (Bool.or_eq_true _ _).mpr (Or.inl hknown)
  · exact (Bool.or_eq_true _ _).mpr (Or.inr (hreached h))

/-- The process may end with its alert stored. -/
theorem permits_stored (hP : HasStored rideId i seen e P)
    (hfollows : Follows rideId (seconds σ.env.settings.rideEmergencyRateLimitSeconds) seen e)
    (hop : ∃ note, (σ.call i).op = .requestEmergency rideId note e.id)
    (hs : (alertDiscipline σ rideId).Interferes i P s) :
    (alertDiscipline σ rideId).Permits i P.held s (s.finish i (.ok ()) (P.pending s.db)) := by
  have hlater := hP.interfere hs
  have hseen : s.db.alertsOf rideId = seen := hlater.alerts
  have hfree : s.db.emergencyEvents.find? (e.rideId, e.sequence) = none := by
    rw [hfollows.rideId]
    refine find?_of_free fun a ha heq => ?_
    have hle := hs.inv.numbered.sequence_le ha
    rw [hseen, heq, hfollows.sequence] at hle
    omega
  have hinsert (id : UUID) : (P.pending s.db).alertsOf id = s.db.alertsOf id ++ if e.rideId = id then [e] else [] :=
    alertsOf_insert (hP.pending s.db) hfree id
  have halerts : (P.pending s.db).alertsOf rideId = s.db.alertsOf rideId ++ [e] := by
    rw [hinsert, if_pos hfollows.rideId]
  have hsequence : e.sequence = (s.db.alertsOf rideId).length + 1 := by
    rw [hseen]
    exact hfollows.sequence
  refine ⟨⟨?_, ?_, ?_, ?_⟩, ⟨⟨?_, hP.rides s.db, fun _ he => he⟩, fun j hj => ⟨id, id, fun r hr => ?_⟩,
    fun h h' => absurd h h'⟩, fun k hk => ?_⟩
  · change Numbered ((P.pending s.db).alertsOf rideId)
    rw [halerts]
    exact hs.inv.numbered.snoc hsequence
  · change Spaced _ ((P.pending s.db).alertsOf rideId)
    rw [halerts]
    refine hs.inv.spaced.snoc hs.inv.numbered hsequence ?_
    rw [hseen]
    exact hfollows.spaced
  · change ∀ a ∈ (P.pending s.db).alertsOf rideId, ∀ b ∈ (P.pending s.db).alertsOf rideId, _
    rw [halerts]
    intro a ha b hb hab hflag
    rcases List.mem_append.mp ha with ha | ha <;> rcases List.mem_append.mp hb with hb | hb
    · exact hs.inv.known a ha b hb hab hflag
    · rw [List.mem_singleton.mp hb]
      rw [hseen] at ha
      exact hfollows.known a ha hflag
    · have hle := hs.inv.numbered.sequence_le hb
      rw [List.mem_singleton.mp ha, hsequence] at hab
      omega
    · rwa [List.mem_singleton.mp hb, ← List.mem_singleton.mp ha]
  · intro hcurrent j r hr hnotified
    change ∃ x ∈ (P.pending s.db).alertsOf rideId, _
    rw [halerts]
    rcases List.mem_append.mp hr with hr | hr
    · obtain ⟨x, hx, hrest⟩ := hs.inv.recorded hcurrent j r hr hnotified
      exact ⟨x, List.mem_append_left _ hx, hrest⟩
    · obtain rfl := (Prod.mk.inj (List.mem_singleton.mp hr)).1
      exact ⟨e, List.mem_append_right _ (List.mem_singleton.mpr rfl), hop, hlater.reached⟩
  · change _ <+: (P.pending s.db).alertsOf rideId
    rw [halerts]
    exact List.prefix_append _ _
  · rcases List.mem_append.mp hr with hr | hr
    · exact hr
    · exact absurd (Prod.mk.inj (List.mem_singleton.mp hr)).1 hj
  · cases k with
    | ride id =>
      change s.db.alertsOf id = (P.pending s.db).alertsOf id
      have hid : e.rideId ≠ id := by
        rintro rfl
        rw [hfollows.rideId] at hk
        exact hk hP.held
      rw [hinsert, if_neg hid, List.append_nil]
    | _ => trivial

/-- The process may end without an alert. -/
theorem permits_failed {err : Err} (hP : MayFail rideId i P)
    (hs : (alertDiscipline σ rideId).Interferes i P s) :
    (alertDiscipline σ rideId).Permits i P.held s (s.finish i (.error err) s.db) := by
  have hlater := hP.interfere hs
  refine ⟨⟨hs.inv.numbered, hs.inv.spaced, hs.inv.known, ?_⟩, ⟨⟨List.prefix_rfl, id, fun _ he => he⟩,
    fun j hj => ⟨id, id, fun r hr => ?_⟩, fun h h' => absurd h h'⟩, fun k _ =>
      (alertDiscipline σ rideId).same_refl k _⟩
  · intro hcurrent j r hr hnotified
    rcases List.mem_append.mp hr with hr | hr
    · exact hs.inv.recorded hcurrent j r hr hnotified
    · obtain rfl := (Prod.mk.inj (List.mem_singleton.mp hr)).1
      exact absurd hnotified (hlater.unnotified hcurrent)
  · rcases List.mem_append.mp hr with hr | hr
    · exact hr
    · exact absurd (Prod.mk.inj (List.mem_singleton.mp hr)).1 hj

theorem verified_requestEmergency (hσ : σ.Alerts rideId)
    (honce : σ.env.settings.rideEmergencyContactNotifyOnce = true) (hlog : s.log = []) (htrace : s.trace = []) :
    (alertDiscipline σ rideId).Verified i ((σ.call i).action σ.env) s := by
  obtain ⟨note, eventId, hop⟩ := hσ i
  have hstart : Starting i (Point.start s) := by
    refine ⟨⟨fun r hr => ?_, ?_⟩, fun _ => rfl⟩
    · change (i, r) ∈ s.log at hr
      rw [hlog] at hr
      cases hr
    · rintro ⟨notice, items, hmem⟩
      change _ ∈ s.trace at hmem
      rw [htrace] at hmem
      cases hmem
  unfold RideCall.action
  rw [hop]
  have hwp : (alertDiscipline σ rideId).wpOr i (MayFail rideId i)
      (Prog.ignore (requestEmergency σ.env rideId (σ.call i).actor note eventId (σ.call i).clock.now))
      (fun _ P' => ∃ e seen, e.id = eventId ∧ HasStored rideId i seen e P' ∧
        Follows rideId (seconds σ.env.settings.rideEmergencyRateLimitSeconds) seen e) (Point.start s) :=
    wpOr_bind (wpOr_requestEmergency honce hstart) fun e P ⟨hid, seen, hP⟩ => wpOr_ret ⟨e, seen, hid, hP⟩
  refine wp_mono hwp fun result P hP => ?_
  cases result with
  | error err => exact fun s hs => permits_failed hP hs
  | ok a =>
    obtain ⟨e, seen, rfl, hstored, hfollows⟩ := hP
    exact fun s hs => permits_stored hstored hfollows ⟨note, hop⟩ hs

/-! ## The lock -/

theorem asksHolding_isAssignedDriver {r : Row} {about : Query → Prop} {held : Prop} (ride : Ride) (userId : UUID) :
    (isAssignedDriver ride userId).AsksHolding r about held := by
  unfold isAssignedDriver
  cases ride.driverId with
  | none => exact .ret _
  | some driverId => exact .bind (.select _) fun _ => .ret _

theorem asksHolding_checkParticipant {r : Row} {about : Query → Prop} {held : Prop} (ride : Ride) (actor : Actor) :
    (checkParticipant ride actor).AsksHolding r about held := by
  refine .bind ?_ fun _ => .raiseIf _ _
  unfold isParticipant
  by_cases h : ride.passengerUserId = actor.userId
  · rw [if_pos h]
    exact .ret _
  · rw [if_neg h]
    exact asksHolding_isAssignedDriver ride actor.userId

theorem asksHolding_checkEmergencyRate {r : Row} {about : Query → Prop} {held : Prop} (cfg : Settings)
    (latest : Option RideEmergencyEvent) (now : DateTime) :
    (checkEmergencyRate cfg latest now).AsksHolding r about held := by
  cases latest with
  | none => exact .ret _
  | some x => exact .raiseIf _ _

theorem asksHolding_askFor {α : Type} {r : Row} {about : Query → Prop} {held : Prop} {read : Reply → Option α}
    {q : Query} (h : about q → held) : (askFor read q).AsksHolding r about held := by
  refine .bind (.ask h) fun a => ?_
  cases a with
  | error e => exact .raise _
  | ok reply =>
    dsimp only
    cases read reply with
    | some a => exact .ret _
    | none => exact .raise _

/-- After a ride is saved its row is locked. -/
theorem asksHolding_save {α : Type} {about : Query → Prop} {held : Prop} (read ride : Ride)
    {f : Unit → Action α} (hf : (f ()).AsksHolding (Row.ride ride.id) about True) :
    (save read ride >>= f).AsksHolding (Row.ride ride.id) about held := by
  have hkey : Row.ride ride.id ∈ ride.keys := List.mem_cons_self
  refine AsksHolding.selectAs_bind_bind fun loaded held' => ?_
  cases loaded with
  | none => exact AsksHolding.writeOrRaise_bind hkey hf
  | some loaded => exact AsksHolding.writeOrRaiseAs_bind hkey hf

theorem asksHolding_loadRide_bind {α : Type} {r : Row} {about : Query → Prop} {held : Prop} {rideId : UUID}
    {f : Ride → Action α} (h : ∀ ride : Ride, ride.id = rideId → (f ride).AsksHolding r about held) :
    (loadRide rideId >>= f).AsksHolding r about held := by
  intro v
  change Prog.AsksHolding _ _ _ (Prog.bind (Prog.bind (.ret ((v.rides.find? rideId).map Ride.toDomain)) _) f)
  cases hrow : v.rides.find? rideId with
  | none => exact .raise _
  | some row => exact (h row.toDomain (Table.key_of_find? hrow)).mono Or.inl

theorem asksHolding_requestEmergency (env : Env) (rideId : UUID) (actor : Actor) (note : Option String)
    (eventId : UUID) (now : DateTime) :
    (requestEmergency env rideId actor note eventId now).AsksHolding (Row.ride rideId) Query.Notifies False := by
  refine asksHolding_loadRide_bind ?_
  rintro ride rfl
  refine AsksHolding.bind (asksHolding_checkParticipant ride actor) fun _ =>
    AsksHolding.bind (.selectAs _ _) fun latest =>
    AsksHolding.bind (asksHolding_checkEmergencyRate _ latest now) fun _ =>
    asksHolding_save ride (ride.alert note now) ?_
  exact AsksHolding.bind (asksHolding_askFor fun _ => trivial) fun contact =>
    AsksHolding.bind (asksHolding_askFor fun _ => trivial) fun results =>
    AsksHolding.bind (.writeOrRaise _ _ _ _) fun _ => .ret _

/-! ## Runs -/

variable [DecidableEq Proc] {c c' : Config σ.machine} {ms : List (Move σ.machine)} {m : Move σ.machine}

/-- What holds of every reachable state. -/
structure Alerting (σ : Scenario Proc World) (rideId : UUID) (c : Config σ.machine) : Prop where
  sound : (alertDiscipline σ rideId).Sound c
  guarded : ∀ i, c.Guarded (Row.ride rideId) Query.Notifies i
  logged : ∀ i, c.task i = .ended → ∃ r, (i, r) ∈ c.shared.log
  once : UpToDate rideId c.shared → ∀ i j, ReachedContact i c.shared → ReachedContact j c.shared → i = j

omit [DecidableEq Proc] in
theorem ReachedContact.notified (h : ReachedContact i s) : Notified i s := by
  obtain ⟨notice, items, hmem, -⟩ := h
  exact ⟨notice, items, hmem⟩

omit [DecidableEq Proc] in
theorem Notified.asked (h : Notified i s) : s.Asked Query.Notifies i := by
  obtain ⟨notice, items, hmem⟩ := h
  exact ⟨_, ⟨notice, rfl⟩, Or.inr ⟨_, hmem⟩⟩

omit [DecidableEq Proc] in
/-- A request that has reached the contact and has ended is known to a stored alert. -/
theorem not_ended_of_unknown {c : Config σ.machine} (hbooks : AlertBooks rideId c.shared)
    (hlogged : c.task i = .ended → ∃ r, (i, r) ∈ c.shared.log) (hcurrent : UpToDate rideId c.shared)
    (hfirst : ∀ e ∈ c.shared.db.alertsOf rideId, e.contactNotified = false)
    (hi : ReachedContact i c.shared) : c.task i ≠ .ended := by
  intro hend
  obtain ⟨r, hr⟩ := hlogged hend
  obtain ⟨e, he, -, hknown⟩ := hbooks.recorded hcurrent i r hr hi.notified
  exact absurd ((hknown hi).symm.trans (hfirst e he)) nofun

/-- A request that reaches the contact is the only one so far: another one that is stored would be known, and
one that is not stored yet would have the lock. -/
theorem Alerting.step (h : Alerting σ rideId c) (hstep : c.step m = some c') : Alerting σ rideId c' := by
  obtain ⟨hsound, hshared⟩ := h.sound.step hstep
  have hguarded (i : Proc) := (h.guarded i).step hstep
  have hlogged (i : Proc) := logged_step (h.logged i) hstep
  refine ⟨hsound, hguarded, hlogged, fun hcurrent i j hi hj => ?_⟩
  rcases hshared with hshared | ⟨hgrow, hothers, hfirst⟩
  · rw [hshared] at hcurrent hi hj
    exact h.once hcurrent i j hi hj
  have hbefore := hcurrent.before hgrow.trace
  have halone (hnew : ∃ k, ReachedContact k c'.shared ∧ ¬ ReachedContact k c.shared) : i = j := by
    obtain ⟨k, hk, hk'⟩ := hnew
    obtain rfl : k = mover m := by
      by_contra hne
      exact hk' ((hothers k hne).reached hk)
    have hunknown := hfirst hk hk' hcurrent
    have hend (i : Proc) (hi : ReachedContact i c'.shared) : c'.task i ≠ .ended :=
      not_ended_of_unknown hsound.inv (hlogged i) hcurrent hunknown hi
    exact (hguarded i).alone (hguarded j) hi.notified.asked (hend i hi) hj.notified.asked (hend j hj)
  by_cases hi' : ReachedContact i c.shared
  · by_cases hj' : ReachedContact j c.shared
    · exact h.once hbefore i j hi' hj'
    · exact halone ⟨j, hj, hj'⟩
  · exact halone ⟨i, hi, hi'⟩

theorem Alerting.run (h : Alerting σ rideId c) (hrun : c.run ms = some c') : Alerting σ rideId c' := by
  induction ms generalizing c with
  | nil =>
    obtain rfl := Option.some.inj hrun
    exact h
  | cons m ms ih =>
    obtain ⟨c₁, h₁, h₂⟩ := Option.bind_eq_some_iff.mp hrun
    exact ih (h.step h₁) h₂

omit [DecidableEq Proc] in
theorem alerting_initial {w : World} (hσ : σ.Alerts rideId)
    (honce : σ.env.settings.rideEmergencyContactNotifyOnce = true) (hnone : db.alertsOf rideId = []) :
    Alerting σ rideId (σ.initial db w) where
  sound := by
    refine sound_initial ?_ fun i => verified_requestEmergency hσ honce rfl rfl
    refine ⟨?_, ?_, ?_, fun _ _ _ hr => absurd hr List.not_mem_nil⟩ <;> rw [hnone]
    · exact numbered_nil
    · exact fun _ ha => absurd ha List.not_mem_nil
    · exact fun _ ha => absurd ha List.not_mem_nil
  guarded i := by
    obtain ⟨note, eventId, hop⟩ := hσ i
    refine .initial ?_
    unfold RideCall.action
    rw [hop]
    exact AsksHolding.bind (asksHolding_requestEmergency _ _ _ _ _ _) fun _ => .ret _
  logged _ hend := nomatch hend
  once _ _ _ hi := by
    obtain ⟨notice, items, hmem, -⟩ := hi
    cases hmem

/-- In a run in which every request that locks the ride finds the alerts that it had read, the contact is reached
once and every alert leaves a record. -/
theorem alertsHandled_run {w : World} (hσ : σ.Alerts rideId)
    (honce : σ.env.settings.rideEmergencyContactNotifyOnce = true) (hnone : db.alertsOf rideId = [])
    (hrun : (σ.initial db w).run ms = some c') (hcurrent : UpToDate rideId c'.shared) :
    AlertsHandled rideId c' := by
  have h := (alerting_initial (w := w) hσ honce hnone).run hrun
  refine ⟨h.once hcurrent, h.sound.inv.numbered, fun i hnotified hend => ?_, h.sound.inv.spaced⟩
  obtain ⟨r, hr⟩ := h.logged i hend
  obtain ⟨e, he, hop, -⟩ := h.sound.inv.recorded hcurrent i r hr hnotified
  exact ⟨e, he, hop⟩

end

/-- The passenger 1 alerts twice. His contact is reached by whoever notifies. -/
def alertedTwice : Scenario Bool Unit where
  env := Sample.env
  call i :=
    { op := .requestEmergency 50 none (if i then 71 else 70), actor := ⟨1, "passenger"⟩
      config := dispatchConfigFromSettings Sample.env.settings, clock := { now := 30 } }
  receives w _ _ := w
  answers w _ _ _ := some w

/-- The ride is under way. -/
def quietRide : RideDb where
  rides := .insert .empty { id := 50, passengerUserId := 1, status := .inProgress }

/-- Up to the read of the latest alert. -/
def readsLatest (i : Bool) : List (Move alertedTwice.machine) := [.go i, .go i]

/-- The row of the ride is locked, the contact is looked up and reached, and the alert is stored. -/
def sendsAlert (i : Bool) : List (Move alertedTwice.machine) :=
  [.go i, .go i, .go i, .reply i (.ok (.contact (some { userId := 1 }))), .go i,
    .reply i (.ok (.results [.ofMembers [("target", .str "emergency_contact"), ("status", .str "sent")]])), .go i,
    .go i]

/-- The second alert has read that there is none when the first one is stored. -/
def alertsAtOnce : List (Move alertedTwice.machine) :=
  readsLatest true ++ (readsLatest false ++ sendsAlert false) ++ sendsAlert true

/-- It reaches the contact again, and fails. -/
theorem alertsAtOnce_not_handled :
    alertedTwice.Alerts 50 ∧ alertedTwice.env.settings.rideEmergencyContactNotifyOnce = true ∧
      quietRide.alertsOf 50 = [] ∧
      ∃ c', (alertedTwice.initial quietRide ()).run alertsAtOnce = some c' ∧ ¬ AlertsHandled 50 c' := by
  have hreached : ((alertedTwice.initial quietRide ()).run alertsAtOnce).map (fun c =>
      decide (ReachedContact false c.shared ∧ ReachedContact true c.shared)) = some true := by decide +kernel
  obtain ⟨c', hrun, hboth⟩ := Option.map_eq_some_iff.mp hreached
  obtain ⟨hfalse, htrue⟩ := of_decide_eq_true hboth
  refine ⟨fun i => ⟨none, _, rfl⟩, rfl, rfl, c', hrun, fun h => ?_⟩
  cases h.once false true hfalse htrue

/-- The first alert is stored before the second one reads the latest alert. -/
theorem alertsHandled_run_alertedTwice :
    ∃ c', (alertedTwice.initial quietRide ()).run (readsLatest false ++ sendsAlert false ++ readsLatest true) =
      some c' ∧ AlertsHandled 50 c' := by
  have hcurrent : ((alertedTwice.initial quietRide ()).run
      (readsLatest false ++ sendsAlert false ++ readsLatest true)).map (fun c => decide (UpToDate 50 c.shared)) =
        some true := by decide +kernel
  obtain ⟨c', hrun, hcurrent⟩ := Option.map_eq_some_iff.mp hcurrent
  exact ⟨c', hrun, alertsHandled_run (fun i => ⟨none, _, rfl⟩) rfl rfl hrun (of_decide_eq_true hcurrent)⟩

end DiddiGo.Rides
