import DiddiGo.Rides.Changes
import DiddiGo.Rides.Concurrency
import DiddiGo.Transactions.Stages

/-!
# What was agreed on

A ride is requested at the terms of a quote. Nobody changes them later, whatever requests run at the same
time, and a quote serves one ride.
-/

namespace DiddiGo.Rides

open Data (Table)
open Transactions

/-- The columns of a ride that are fixed when it is requested. -/
structure RideTerms where
  id : UUID
  passengerUserId : UUID
  vehicleCategory : VehicleCategory
  comfortLevel : ComfortLevel
  isReviewAccount : Bool
  pickupLocation : Option GeoPoint
  pickupAddress : Option String
  dropoffLocation : Option GeoPoint
  dropoffAddress : Option String
  scheduledAt : Option DateTime
  requestedAt : Option DateTime
  estimatedFare : Option Decimal
  currency : String
  distanceKm : Option Decimal
  durationSeconds : Option Int
  baseFare : Option Decimal
  distanceFare : Option Decimal
  durationFare : Option Decimal
  surgeMultiplier : Decimal
  surgeCap : Decimal
  commissionRate : Decimal
  paymentMethod : PaymentMethod
  quoteId : Option UUID
  deriving DecidableEq, Repr

/-- The terms of a ride. -/
def Ride.terms (r : Ride) : RideTerms where
  id := r.id
  passengerUserId := r.passengerUserId
  vehicleCategory := r.vehicleCategory
  comfortLevel := r.comfortLevel
  isReviewAccount := r.isReviewAccount
  pickupLocation := r.pickupLocation
  pickupAddress := r.pickupAddress
  dropoffLocation := r.dropoffLocation
  dropoffAddress := r.dropoffAddress
  scheduledAt := r.scheduledAt
  requestedAt := r.requestedAt
  estimatedFare := r.estimatedFare
  currency := r.currency
  distanceKm := r.distanceKm
  durationSeconds := r.durationSeconds
  baseFare := r.baseFare
  distanceFare := r.distanceFare
  durationFare := r.durationFare
  surgeMultiplier := r.surgeMultiplier
  surgeCap := r.surgeCap
  commissionRate := r.commissionRate
  paymentMethod := r.paymentMethod
  quoteId := r.quoteId

/-- The quote is used for the ride. -/
def RideQuote.use (quote : RideQuote) (rideId : UUID) (now : DateTime) : RideQuote :=
  { quote with rideId := some rideId, consumedAt := some now }

namespace RideDb

/-- The terms of a stored ride. -/
def terms? (db : RideDb) (id : UUID) : Option RideTerms := (db.rides.find? id).map Ride.terms

/-- Rides and quotes belong together. -/
structure Honoured (db : RideDb) : Prop where
  /-- The quote of a ride was used for that ride. -/
  ofRide : ∀ id t q, db.terms? id = some t → t.quoteId = some q →
    ∃ quote, db.quotes.find? q = some quote ∧ quote.rideId = some id
  /-- The ride that a quote was used for is there. -/
  ofQuote : ∀ q quote id, db.quotes.find? q = some quote → quote.rideId = some id →
    ∃ t, db.terms? id = some t ∧ t.quoteId = some q
  /-- A quote is consumed when it is used for a ride. -/
  consumed : ∀ q quote, db.quotes.find? q = some quote → quote.consumedAt.isSome = quote.rideId.isSome

end RideDb

/-- Rides keep their terms, and a quote changes only by being used, once. -/
structure TermsKept (db db' : RideDb) : Prop where
  terms : ∀ id t, db.terms? id = some t → db'.terms? id = some t
  quotes : ∀ q, db'.quotes.find? q = db.quotes.find? q ∨ ∃ quote rideId now,
    db.quotes.find? q = some quote ∧ quote.consumedAt = none ∧
      db'.quotes.find? q = some (quote.use rideId now)

/-- No terms and no quotes change. -/
structure SameTerms (db db' : RideDb) : Prop where
  terms : ∀ id, db'.terms? id = db.terms? id
  quotes : ∀ q, db'.quotes.find? q = db.quotes.find? q

namespace RideCall

/-- The identifier that the request draws for a new ride. -/
def newRide (c : RideCall) : Option UUID :=
  match c.op with
  | .createRide _ _ _ _ rideId => some rideId
  | _ => none

/-- The request agrees on the terms `t` under the quote: it comes from the user the quote was made for, in
time. -/
structure Agrees (c : RideCall) (quote : RideQuote) (t : RideTerms) : Prop where
  terms : ∃ review method text scheduledAt, c.op = .createRide review quote.id text scheduledAt t.id ∧
    paymentMethodOf text = some method ∧ t = (quote.toRide
      { passengerUserId := c.actor.userId, isReviewAccount := review, quoteId := quote.id
        paymentMethod := text, scheduledAt := scheduledAt, rideId := t.id } method c.clock.now).terms
  owner : quote.passengerUserId = c.actor.userId
  unused : quote.consumedAt = none
  inTime : c.clock.now < quote.expiresAt

end RideCall

variable {Proc World : Type} {σ : Scenario Proc World}

/-- The identifiers that requests draw are new and differ from each other (`uuid4`). -/
structure FreshRides (σ : Scenario Proc World) (db : RideDb) : Prop where
  fresh : ∀ i id, (σ.call i).newRide = some id → db.terms? id = none
  distinct : ∀ i j id, (σ.call i).newRide = some id → (σ.call j).newRide = some id → i = j

/-- The terms of a ride were there before, or a request of the run agreed on them. -/
def Accounted (σ : Scenario Proc World) (db₀ db : RideDb) : Prop :=
  ∀ id t, db.terms? id = some t → db₀.terms? id = some t ∨
    ∃ i quote, t.id = id ∧ db₀.quotes.find? quote.id = some quote ∧ (σ.call i).Agrees quote t

/-- A request for a ride has succeeded if the ride is there. -/
def AllOrNothing (σ : Scenario Proc World) (s : Shared σ.machine) : Prop :=
  ∀ i id, (σ.call i).newRide = some id → ((s.db.terms? id).isSome ↔ (i, Except.ok ()) ∈ s.log)

/-! ## The discipline -/

/-- What the lock on a row protects. -/
def sameQuote : Row → RideDb → RideDb → Prop
  | .quote id, db, db' => db.quotes.find? id = db'.quotes.find? id
  | _, _, _ => True

theorem TermsKept.refl (db : RideDb) : TermsKept db db := ⟨fun _ _ h => h, fun _ => Or.inl rfl⟩

theorem TermsKept.trans {db db' db'' : RideDb} (h : TermsKept db db') (h' : TermsKept db' db'') :
    TermsKept db db'' where
  terms id t ht := h'.terms id t (h.terms id t ht)
  quotes q := by
    rcases h.quotes q with hq | ⟨quote, rideId, now, hquote, hunused, hq⟩
    · rcases h'.quotes q with hq' | ⟨quote, rideId, now, hquote, hunused, hq'⟩
      · exact Or.inl (hq'.trans hq)
      · exact Or.inr ⟨quote, rideId, now, hq.symm.trans hquote, hunused, hq'⟩
    · rcases h'.quotes q with hq' | ⟨used, rideId', now', hused, hunused', -⟩
      · exact Or.inr ⟨quote, rideId, now, hquote, hunused, hq'.trans hq⟩
      · obtain rfl := Option.some.inj (hq.symm.trans hused)
        cases hunused'

/-- The discipline of a run that starts with the database `db₀`. -/
def contractDiscipline (σ : Scenario Proc World) (db₀ : RideDb) (hfresh : FreshRides σ db₀) :
    RelyGuarantee σ.machine where
  inv s := s.db.Honoured ∧ Accounted σ db₀ s.db ∧ AllOrNothing σ s ∧ TermsKept db₀ s.db
  rely i s s' := TermsKept s.db s'.db ∧
    ∀ id, (σ.call i).newRide = some id → s.db.terms? id = none → s'.db.terms? id = none
  guar j s s' := TermsKept s.db s'.db ∧
    ∀ id, s.db.terms? id = none → s'.db.terms? id = none ∨ (σ.call j).newRide = some id
  same := sameQuote
  rely_refl _ _ := ⟨.refl _, fun _ _ h => h⟩
  rely_trans _ _ _ _ h h' := ⟨h.1.trans h'.1, fun id hid hnone => h'.2 id hid (h.2 id hid hnone)⟩
  rely_of_guar i j _ _ hij h := ⟨h.1, fun id hid hnone =>
    (h.2 id hnone).resolve_right fun hj => hij (hfresh.distinct i j id hid hj)⟩
  same_refl k db := by cases k <;> simp [sameQuote]
  same_trans k db db' db'' h h' := by
    cases k with
    | quote id => exact Eq.trans h h'
    | _ => trivial

/-! ## Stages -/

/-- The write changes no terms and no quotes. -/
def KeepsTerms (f : RideDb → RideDb) : Prop := ∀ db, SameTerms db (f db)

/-- The process has changed no terms and no quotes. -/
def AtRest (P : Point σ.machine) : Prop := KeepsTerms P.pending

/-- And it has read a ride with the terms `t`. -/
structure SawTerms (t : RideTerms) (P : Point σ.machine) : Prop where
  rest : AtRest P
  row : P.shared.db.terms? t.id = some t

/-- The process has locked a quote that it may use. -/
structure HasQuote (quote : RideQuote) (id : UUID) (P : Point σ.machine) : Prop where
  held : P.held (.quote quote.id)
  found : P.shared.db.quotes.find? quote.id = some quote
  unused : quote.consumedAt = none
  absent : P.shared.db.terms? id = none

/-- Its changes are the ride and the use of the quote. -/
structure HasAgreed (quote : RideQuote) (ride : Ride) (now : DateTime) (P : Point σ.machine) : Prop
    extends HasQuote quote ride.id P where
  created : ∀ db : RideDb, db.terms? ride.id = none →
    SameTerms (db.createRide ride quote.id now) (P.pending db)

/-- In the stage `J` the process sees the terms `t` of a ride, and may write what keeps all terms. -/
structure FollowsTerms {db₀ : RideDb} (hfresh : FreshRides σ db₀) (i : Proc) (t : RideTerms)
    (J : Point σ.machine → Prop) : Prop where
  stage : (contractDiscipline σ db₀ hfresh).Stage i KeepsTerms J
  row : ∀ P, J P → P.view.terms? t.id = some t

section

variable [DecidableEq Proc]

/-- What the requests of a run owe to passengers: `c` is where it begins and `c'` where it ends. -/
structure ContractsKept (c : Config σ.machine) (ms : List (Move σ.machine)) (c' : Config σ.machine) :
    Prop where
  /-- Whatever terms a ride has at some time, it keeps. -/
  kept : ∀ before later c₁, ms = before ++ later → c.run before = some c₁ →
    TermsKept c₁.shared.db c'.shared.db
  /-- Every ride was there before, or has the terms of an unused quote of its passenger that was still
  open. -/
  accounted : Accounted σ c.shared.db c'.shared.db
  /-- A ride and the quote it was requested with point to each other. -/
  honoured : c'.shared.db.Honoured
  /-- Two rides do not come from one quote. -/
  single : ∀ id id' t t', c'.shared.db.terms? id = some t → c'.shared.db.terms? id' = some t' →
    t.quoteId = t'.quoteId → t.quoteId.isSome → id = id'
  /-- The ride that a request asks for is there if and only if the request has succeeded. -/
  complete : AllOrNothing σ c'.shared

end

end DiddiGo.Rides
