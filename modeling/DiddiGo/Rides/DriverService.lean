import DiddiGo.Rides.Routes

/-!
# Going online

What a driver has to satisfy before he enters the matching pool.
-/

namespace DiddiGo.Rides

open Data (Json Keyed)
open Transactions

/-- `save` of a driver profile, of which only the review cohort differs from the row. -/
def saveCohort (profile : DriverProfile) : Action Unit :=
  Prog.update [] fun (db : RideDb) =>
    { db with profiles := db.profiles.update profile.id fun row =>
        { row with isReviewAccount := profile.isReviewAccount } }

/-- The profile joins the review cohort of its account. -/
def alignCohort (profile : DriverProfile) (isReviewAccount : Option Bool) : Action DriverProfile :=
  match isReviewAccount with
  | none => return profile
  | some isReviewAccount =>
    if profile.isReviewAccount ≠ isReviewAccount then do
      saveCohort { profile with isReviewAccount := isReviewAccount }
      return { profile with isReviewAccount := isReviewAccount }
    else return profile

/-- `resolve_driver`: the profile and the vehicle of a driver who is about to go online. -/
def resolveDriver (userId : UUID) (isReviewAccount : Option Bool) : Action (DriverProfile × Vehicle) := do
  match ← findProfileByUserId userId with
  | none => apiError 404 "DRIVER_PROFILE_NOT_FOUND" "Aucun profil chauffeur pour ce compte."
  | some profile =>
    let profile ← alignCohort profile isReviewAccount
    apiErrorIf (profile.status ≠ .active) 403 "DRIVER_NOT_VERIFIED"
      "Votre profil chauffeur n'est pas encore validé."
      (.ofMembers [("status", .str profile.status.value)])
    match ← findActiveVehicle profile.id with
    | none => apiError 409 "NO_ACTIVE_VEHICLE" "Aucun véhicule actif n'est associé à ce chauffeur."
    | some vehicle =>
      apiErrorIf (vehicle.verificationStatus ≠ .active) 403 "VEHICLE_NOT_VERIFIED"
        "Votre vehicule n'est pas encore valide."
        (.ofMembers [("vehicle_id", .str (UUID.str vehicle.id)),
          ("status", .str vehicle.verificationStatus.value)])
      return (profile, vehicle)

/-- Whether a partner blocks the driver, and why. -/
def Reply.blockedBy? : Reply → Option (Bool × Option String)
  | blocked b reason => some (b, reason)
  | _ => none

/-- `ensure_can_go_online`. -/
def ensureCanGoOnline (env : Env) (driverId : UUID) : Action Unit := do
  let (blocked, reason) ← askFor Reply.blockedBy? (.blockedByPartner driverId)
  let balance ← askFor Reply.amount? (.walletBalance driverId)
  apiErrorIf (blocked = true) 403 "PARTNER_SUSPENDED"
    "Votre partenaire n'est pas actif. Vous ne pouvez pas passer en ligne."
    (.ofMembers [("reason", (reason.map Json.str).getD .null)])
  apiErrorIf (balance < env.settings.driverMinBalance) 403 "DRIVER_BALANCE_TOO_LOW"
    "Solde chauffeur insuffisant pour passer en ligne."
    (.ofMembers [("balance", .int (balance.num.tdiv balance.den)),
      ("min_balance", .int env.settings.driverMinBalance), ("currency", .str "XOF")])

/-- `POST /drivers/online`, up to the commands that place the driver and make him available. -/
def admitOnline (env : Env) (actor : Actor) (isReviewAccount : Bool) : Action Unit := do
  requireBusinessDriver actor
  let (profile, _) ← resolveDriver actor.userId (some isReviewAccount)
  ensureCanGoOnline env profile.id

end DiddiGo.Rides
