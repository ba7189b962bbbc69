import DiddiGo.Payments.Proofs.StatusProofs

/-!
# Preparations

What `prepare_payment` does to the database, for each way it ends.
-/

namespace DiddiGo.Payments

open Data (Json Keyed Table)
open Transactions Prog

variable {ask : Query → Answer} {db : PaymentDb}

theorem ensures_findRide (rideId : UUID) :
    Ensures ask (· = db) (findRideById rideId) fun o db' =>
      o = db.rides.find? rideId ∧ db' = db := Ensures.select fun _ h => by simp [h]

theorem ensures_prepareCash {ride : Rides.Ride} {rideId transactionId : UUID} {now : DateTime}
    (hride : db.rides.find? rideId = some ride) (hdone : ride.status = .completed) :
    Ensures ask (· = db) (prepareCash rideId transactionId now) fun _ => Prepared ask db rideId := by
  refine (ensures_find (·.transactionsOf rideId)).bind fun o => .assuming fun hsome =>
    .assuming fun hnone => ?_
  cases o with
  | none =>
    refine (ensures_findRide rideId).bind fun o => .assuming fun ho => ?_
    rw [hride] at ho
    subst ho
    refine (ensures_saveTransaction _).bind fun _ => .assuming fun hfresh => .ret fun db' h => ?_
    rw [h]
    exact .cash (hnone rfl) hride hdone hfresh rfl rfl rfl rfl
  | some t =>
    dsimp only
    by_cases hcash : t.method = .cash
    · rw [if_pos hcash]
      exact .ret fun db' h => h ▸ .same
    · rw [if_neg hcash]
      refine ensures_raiseIf.bind fun _ => .assuming fun hend => ?_
      have hstatus : t.status = .failed ∨ t.status = .cancelled := by
        by_contra hneither
        exact hend (not_or.mp hneither)
      refine (ensures_changeTransaction t.id Transaction.payInCash fun _ => rfl).mono
        (fun _ h => h) fun _ db' ⟨x, _, _, h⟩ => ?_
      rw [h]
      exact .fallback (hsome t rfl) hstatus

theorem ensures_replaceExternalIntent (id intentId : UUID) (key : String) (method : PaymentMethod)
    (status : PaymentStatus) (providerStatus : String) (nextAction : Option Json) :
    Ensures ask (· = db)
      (replaceExternalIntent id intentId key method status providerStatus nextAction) fun _ db' =>
        (∀ x ∈ db.transactions.rows, x.id ≠ id → x.paymentIntentId ≠ some intentId) ∧
          db' = db.updateTransaction id
            (.collectAgain intentId key method status providerStatus nextAction) := by
  refine Ensures.bind (Q := fun o db' => o = db.transactions.find? id ∧ db' = db)
    (Ensures.select fun _ h => by simp [h]) fun o => ?_
  cases o with
  | none => exact .raise
  | some t =>
    refine .assuming fun _ => Ensures.bind (Q := fun _ db' =>
      (∀ x ∈ db.transactions.rows, x.id ≠ id → x.paymentIntentId ≠ some intentId) ∧
        db' = db.updateTransaction id
          (.collectAgain intentId key method status providerStatus nextAction))
      (Ensures.writeOrRaise ?_) fun _ => .ret fun _ h => h
    rintro _ rfl hfree
    refine ⟨fun x hx hne hintent => ?_, rfl⟩
    have hx' := List.any_eq_false.mp hfree x hx
    simp [hne, hintent] at hx'

/-- The transaction that DiddiPay is asked to collect again, if there is one. -/
def Retrying (db : PaymentDb) (rideId : UUID) : Option Transaction → Prop
  | none => db.transactionsOf rideId = []
  | some t => db.transactionsOf rideId = [t] ∧ canRetry t = true

theorem ensures_collectThroughDiddipay {r : PreparationRequest} {method : PaymentMethod}
    (hmethod : PaidBy db r.rideId method) (email : String) (ride : Rides.Ride) (amount : Decimal)
    {retrying : Option Transaction} (hretry : Retrying db r.rideId retrying) :
    Ensures ask (· = db) (collectThroughDiddipay r method email ride amount retrying) fun _ =>
      Prepared ask db r.rideId := by
  refine (ensures_read (routine_keeps.createReturnContext _ _ _ _ _)).bind fun token =>
    (ensures_askOrRaise _).bind fun intent => .assuming fun hintent =>
    (ensures_getOrRaise _ _).bind fun status => .assuming fun hstatus =>
    (ensures_read (routine_keeps.getOrRaise _ _)).bind fun intentId =>
    (ensures_read (routine_keeps.bindReturnContext _ _)).bind fun _ => ?_
  have hcreates : Creates ask status := ⟨_, intent, hintent, hstatus⟩
  cases retrying with
  | some t =>
    refine (ensures_replaceExternalIntent _ _ _ _ _ _ _).mono (fun _ h => h) fun _ db' h => ?_
    rw [h.2]
    exact .again hretry.1 hretry.2 hmethod hcreates h.1
  | none =>
    refine (ensures_read (routine_keeps.decimalOr _ _)).bind fun amount =>
      (ensures_saveTransaction _).bind fun _ => .assuming fun hfresh => .ret fun db' h => ?_
    rw [h]
    exact .digital hretry hfresh rfl hmethod hcreates

theorem ensures_prepareDiddipay {r : PreparationRequest} {method : PaymentMethod}
    (hmethod : PaidBy db r.rideId method) (email : String) :
    Ensures ask (· = db) (prepareDiddipay r method email) fun _ => Prepared ask db r.rideId := by
  refine (ensures_findRide r.rideId).bind fun o => .assuming fun _ => ?_
  cases o with
  | none => exact .raise
  | some ride =>
    refine (ensures_read (routine_keeps.getOrRaise _ _)).bind fun amount =>
      (ensures_find (·.transactionsOf r.rideId)).bind fun existing => .assuming fun hsome =>
      .assuming fun hnone => ?_
    cases existing with
    | none => exact ensures_collectThroughDiddipay hmethod email ride amount (hnone rfl)
    | some t =>
      dsimp only
      by_cases hopen : (t.paymentIntentId.isSome ∧ (!canRetry t) = true)
      · rw [if_pos hopen]
        exact .ret fun db' h => h ▸ .same
      · rw [if_neg hopen]
        refine ensures_raiseIf.bind fun _ => .assuming fun hretry => ?_
        exact ensures_collectThroughDiddipay hmethod email ride amount
          ⟨hsome t rfl, by simpa using hretry⟩

theorem ensures_preparePayment (r : PreparationRequest) :
    Ensures ask (· = db) (preparePayment r) fun _ => Prepared ask db r.rideId := by
  refine (ensures_findRide r.rideId).bind fun o => .assuming fun hride => ?_
  cases o with
  | none => exact .raise
  | some ride =>
    refine (ensures_read (routine_keeps.apiErrorIf _ _ _ _ _)).bind fun _ =>
      ensures_raiseIf.bind fun _ => .assuming fun hdone =>
      (ensures_read (routine_keeps.apiErrorIf _ _ _ _ _)).bind fun _ =>
      (ensures_read (routine_keeps.getOrRaise _ _)).bind fun method => ?_
    have hdone' : ride.status = .completed := not_not.mp hdone
    by_cases hcash : method = .cash
    · rw [if_pos hcash]
      exact ensures_prepareCash hride.symm hdone'
    · rw [if_neg hcash]
      refine ensures_raiseIf.bind fun _ => .assuming fun hsame =>
        (ensures_read (routine_keeps.apiErrorIf _ _ _ _ _)).bind fun _ =>
        (ensures_read (routine_keeps.getOrRaise _ _)).bind fun email => ?_
      exact ensures_prepareDiddipay ⟨ride, hride.symm, hdone', not_not.mp hsame, hcash⟩ email

end DiddiGo.Payments
