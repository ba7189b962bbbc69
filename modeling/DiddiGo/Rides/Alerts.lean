import DiddiGo.Rides.Changes
import DiddiGo.Rides.Concurrency
import DiddiGo.Transactions.Guarding

/-!
# Alerts under concurrency

Participants of a ride alert at the same time. What was sent cannot be taken back, so an alert should find
the latest one unchanged when it locks the row of the ride, from where on no other alert can be stored.
-/

namespace DiddiGo.Rides

open Transactions

/-- The alerts of the ride, in the order in which they were stored. -/
def RideDb.alertsOf (db : RideDb) (rideId : UUID) : List RideEmergencyEvent :=
  db.emergencyEvents.rows.filter fun e => e.rideId = rideId

/-- A message was sent to the emergency contact. -/
def sentToContact (item : Data.Json) : Bool :=
  item.get "target" = .str "emergency_contact" ∧ item.get "status" = .str "sent"

variable {Proc World : Type}

/-- Every request is an alert of the ride. -/
def Scenario.Alerts (σ : Scenario Proc World) (rideId : UUID) : Prop :=
  ∀ i, ∃ note eventId, (σ.call i).op = .requestEmergency rideId note eventId

variable {σ : Scenario Proc World}

/-- Process `i` has sent notifications. -/
def Notified (i : Proc) (s : Shared σ.machine) : Prop :=
  ∃ notice items, .answered i (.notifyEmergency notice) (.ok (.results items)) ∈ s.trace

/-- Process `i` has reached the emergency contact. -/
def ReachedContact (i : Proc) (s : Shared σ.machine) : Prop :=
  ∃ notice items, .answered i (.notifyEmergency notice) (.ok (.results items)) ∈ s.trace ∧
    notice.includeContact = true ∧ notice.contact.isSome = true ∧ items.any sentToContact = true

section

variable [DecidableEq Proc]

/-- The event tells that process `i` reaches the emergency contact. -/
def reachesContact (i : Proc) : Event σ.machine → Bool
  | .answered j (.notifyEmergency notice) (.ok (.results items)) =>
    j = i ∧ notice.includeContact = true ∧ notice.contact.isSome = true ∧ items.any sentToContact = true
  | _ => false

theorem reachedContact_iff {i : Proc} {s : Shared σ.machine} :
    s.trace.any (reachesContact i) = true ↔ ReachedContact i s := by
  rw [List.any_eq_true]
  constructor
  · rintro ⟨e, he, h⟩
    unfold reachesContact at h
    split at h
    · obtain ⟨rfl, hreached⟩ := of_decide_eq_true h
      exact ⟨_, _, he, hreached⟩
    · cases h
  · rintro ⟨notice, items, hmem, hreached⟩
    exact ⟨_, hmem, decide_eq_true ⟨rfl, hreached⟩⟩

instance (i : Proc) (s : Shared σ.machine) : Decidable (ReachedContact i s) :=
  decidable_of_iff _ reachedContact_iff

end

/-- The request to the notification service. -/
def Query.Notifies (q : Query) : Prop := ∃ notice, q = .notifyEmergency notice

/-- Every request that has locked the ride has found the alerts that it had read before. -/
def UpToDate (rideId : UUID) (s : Shared σ.machine) : Prop :=
  ∀ i seen read locked, .stmt i (.latestAlert rideId) seen ∈ s.trace → .stmt i (.save read) locked ∈ s.trace →
    locked.alertsOf rideId = seen.alertsOf rideId

section

variable [DecidableEq Proc]

/-- If the first event reads the latest alert and the second one locks the ride, both see the same alerts. -/
def agreesOnAlerts (rideId : UUID) : Event σ.machine → Event σ.machine → Bool
  | .stmt i (.latestAlert id) seen, .stmt j (.save _) locked =>
    id = rideId → i = j → locked.alertsOf rideId = seen.alertsOf rideId
  | _, _ => true

theorem upToDate_iff {rideId : UUID} {s : Shared σ.machine} :
    (s.trace.all fun e => s.trace.all fun e' => agreesOnAlerts rideId e e') = true ↔ UpToDate rideId s := by
  simp only [List.all_eq_true]
  constructor
  · intro h i seen read locked hseen hlocked
    exact of_decide_eq_true (h _ hseen _ hlocked) rfl rfl
  · intro h e he e' he'
    unfold agreesOnAlerts
    split
    · refine decide_eq_true ?_
      rintro rfl rfl
      exact h _ _ _ _ he he'
    · rfl

instance (rideId : UUID) (s : Shared σ.machine) : Decidable (UpToDate rideId s) :=
  decidable_of_iff _ upToDate_iff

end

/-- The alerts of the ride are numbered from 1 on. -/
def Numbered (alerts : List RideEmergencyEvent) : Prop :=
  alerts.map RideEmergencyEvent.sequence = (List.range alerts.length).map fun k : ℕ => (k : Int) + 1

/-- Of two alerts the later one comes at least `limit` later. -/
def Spaced (limit : Int) (alerts : List RideEmergencyEvent) : Prop :=
  ∀ a ∈ alerts, ∀ b ∈ alerts, a.sequence < b.sequence → limit ≤ b.requestedAt - a.requestedAt

/-- The contact is reached once, and every alert leaves a record. -/
structure AlertsHandled (rideId : UUID) (c : Config σ.machine) : Prop where
  /-- At most one request reaches the emergency contact. -/
  once : ∀ i j, ReachedContact i c.shared → ReachedContact j c.shared → i = j
  numbered : Numbered (c.shared.db.alertsOf rideId)
  /-- A request that has sent notifications and has ended is stored. -/
  recorded : ∀ i, Notified i c.shared → c.task i = .ended →
    ∃ e ∈ c.shared.db.alertsOf rideId, ∃ note, (σ.call i).op = .requestEmergency rideId note e.id
  spaced : Spaced (seconds σ.env.settings.rideEmergencyRateLimitSeconds) (c.shared.db.alertsOf rideId)

/-! ## The discipline -/

/-- What is stored, and what was sent. -/
structure AlertBooks (rideId : UUID) (s : Shared σ.machine) : Prop where
  numbered : Numbered (s.db.alertsOf rideId)
  spaced : Spaced (seconds σ.env.settings.rideEmergencyRateLimitSeconds) (s.db.alertsOf rideId)
  /-- Once the contact is notified, all later alerts know. -/
  known : ∀ a ∈ s.db.alertsOf rideId, ∀ b ∈ s.db.alertsOf rideId, a.sequence < b.sequence →
    a.contactNotified = true → b.contactNotified = true
  recorded : UpToDate rideId s → ∀ i r, (i, r) ∈ s.log → Notified i s →
    ∃ e ∈ s.db.alertsOf rideId, (∃ note, (σ.call i).op = .requestEmergency rideId note e.id) ∧
      (ReachedContact i s → e.contactNotified = true)

/-- Process `i` has no new events from `s` to `s'`. -/
structure SameRecord (i : Proc) (s s' : Shared σ.machine) : Prop where
  notified : Notified i s' → Notified i s
  reached : ReachedContact i s' → ReachedContact i s
  log : ∀ r, (i, r) ∈ s'.log → (i, r) ∈ s.log

/-- Nothing is lost from `s` to `s'`. -/
structure AlertsGrow (rideId : UUID) (s s' : Shared σ.machine) : Prop where
  alerts : s.db.alertsOf rideId <+: s'.db.alertsOf rideId
  ride : (s.db.rides.find? rideId).isSome → (s'.db.rides.find? rideId).isSome
  trace : ∀ e ∈ s.trace, e ∈ s'.trace

/-- What the lock on a row protects. -/
def sameAlerts : Row → RideDb → RideDb → Prop
  | .ride id, db, db' => db.alertsOf id = db'.alertsOf id
  | _, _, _ => True

/-- The discipline. A process reaches the contact only if no stored alert did. -/
def alertDiscipline (σ : Scenario Proc World) (rideId : UUID) : RelyGuarantee σ.machine where
  inv := AlertBooks rideId
  rely i s s' := AlertsGrow rideId s s' ∧ SameRecord i s s'
  guar j s s' := AlertsGrow rideId s s' ∧ (∀ i, i ≠ j → SameRecord i s s') ∧
    (ReachedContact j s' → ¬ ReachedContact j s → UpToDate rideId s' →
      ∀ e ∈ s'.db.alertsOf rideId, e.contactNotified = false)
  same := sameAlerts
  rely_refl _ _ := ⟨⟨List.prefix_rfl, id, fun _ => id⟩, ⟨id, id, fun _ => id⟩⟩
  rely_trans _ _ _ _ h h' :=
    ⟨⟨h.1.alerts.trans h'.1.alerts, h'.1.ride ∘ h.1.ride, fun e he => h'.1.trace e (h.1.trace e he)⟩,
      ⟨h.2.notified ∘ h'.2.notified, h.2.reached ∘ h'.2.reached, fun r hr => h.2.log r (h'.2.log r hr)⟩⟩
  rely_of_guar i _ _ _ hij h := ⟨h.1, h.2.1 i hij⟩
  same_refl k db := by cases k <;> simp [sameAlerts]
  same_trans k db db' db'' h h' := by
    cases k with
    | ride id => exact Eq.trans h h'
    | _ => trivial

/-! ## A request -/

/-- Process `i` has no result and has sent nothing. -/
structure Silenced (i : Proc) (s : Shared σ.machine) : Prop where
  unlogged : ∀ r, (i, r) ∉ s.log
  unnotified : ¬ Notified i s

/-- The process has changed nothing. -/
structure Starting (i : Proc) (P : Point σ.machine) : Prop extends Silenced i P.shared where
  unchanged : ∀ db, P.pending db = db

/-- The process has found the ride. -/
structure HasFound (rideId : UUID) (i : Proc) (P : Point σ.machine) : Prop extends Starting i P where
  ride : (P.shared.db.rides.find? rideId).isSome

/-- What the read of the latest alert tells about the alerts `seen`. -/
inductive Latest (seen : List RideEmergencyEvent) : Option RideEmergencyEvent → Prop
  | none (h : seen = []) : Latest seen none
  | some (e : RideEmergencyEvent) (hmem : e ∈ seen) (hlast : e.sequence = seen.length) : Latest seen (some e)

/-- The process has seen the alerts `seen`. -/
structure HasSeen (rideId : UUID) (i : Proc) (seen : List RideEmergencyEvent) (s : Shared σ.machine) :
    Prop where
  traced : ∃ view, .stmt i (.latestAlert rideId) view ∈ s.trace ∧ view.alertsOf rideId = seen
  grown : seen <+: s.db.alertsOf rideId
  ride : (s.db.rides.find? rideId).isSome

/-- The process has locked the ride and changed its row. -/
structure HasOpened (rideId : UUID) (i : Proc) (seen : List RideEmergencyEvent) (P : Point σ.machine) :
    Prop extends HasSeen rideId i seen P.shared where
  unlogged : ∀ r, (i, r) ∉ P.shared.log
  held : P.held (.ride rideId)
  locked : ∃ read view, .stmt i (.save read) view ∈ P.shared.trace ∧
    view.alertsOf rideId = P.shared.db.alertsOf rideId
  alerts : ∀ db, (P.pending db).emergencyEvents = db.emergencyEvents
  rides : ∀ db, (db.rides.find? rideId).isSome → ((P.pending db).rides.find? rideId).isSome

/-- The process may fail: if it has sent notifications, it was not up to date. -/
structure MayFail (rideId : UUID) (i : Proc) (P : Point σ.machine) : Prop where
  unlogged : ∀ r, (i, r) ∉ P.shared.log
  unnotified : UpToDate rideId P.shared → ¬ Notified i P.shared

/-- The process is about to store the alert `e`. -/
structure HasStored (rideId : UUID) (i : Proc) (seen : List RideEmergencyEvent) (e : RideEmergencyEvent)
    (P : Point σ.machine) : Prop where
  unlogged : ∀ r, (i, r) ∉ P.shared.log
  held : P.held (.ride rideId)
  alerts : P.shared.db.alertsOf rideId = seen
  pending : ∀ db, (P.pending db).emergencyEvents = db.emergencyEvents.insert e
  rides : ∀ db, (db.rides.find? rideId).isSome → ((P.pending db).rides.find? rideId).isSome
  reached : ReachedContact i P.shared → e.contactNotified = true

/-- The alert `e` may follow the alerts `seen`. -/
structure Follows (rideId : UUID) (limit : Int) (seen : List RideEmergencyEvent) (e : RideEmergencyEvent) :
    Prop where
  rideId : e.rideId = rideId
  sequence : e.sequence = seen.length + 1
  spaced : ∀ a ∈ seen, limit ≤ e.requestedAt - a.requestedAt
  known : ∀ a ∈ seen, a.contactNotified = true → e.contactNotified = true

end DiddiGo.Rides
