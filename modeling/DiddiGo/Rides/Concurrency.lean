import DiddiGo.Rides.Routes
import DiddiGo.Transactions.System

/-!
# Concurrent ride requests

Several ride requests run against one database, each in its own process.
-/

namespace DiddiGo.Rides

open Transactions

/-- A set of requests and the services they talk to. -/
structure Scenario (Proc World : Type) where
  env : Env
  call : Proc → RideCall
  /-- See `Machine.receives`. -/
  receives : World → Proc → Query → World
  /-- See `Machine.answers`. -/
  answers : World → Proc → Query → Answer → Option World

variable {Proc World : Type}

/-- The system of a scenario. -/
abbrev Scenario.machine (σ : Scenario Proc World) : Machine sig where
  Proc := Proc
  World := World
  Out := Unit
  receives := σ.receives
  answers := σ.answers

/-- Nothing has happened yet. -/
def Scenario.initial (σ : Scenario Proc World) (db : RideDb) (world : World) : Config σ.machine :=
  Config.initial db world fun i => (σ.call i).action σ.env

end DiddiGo.Rides
