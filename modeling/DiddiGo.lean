import DiddiGo.Basic
import DiddiGo.Data.Calendar
import DiddiGo.Data.Expiring
import DiddiGo.Data.FiniteDecimal
import DiddiGo.Data.Grouping
import DiddiGo.Data.Json
import DiddiGo.Data.JsonText
import DiddiGo.Data.Numeric
import DiddiGo.Data.Sha256
import DiddiGo.Data.Table
import DiddiGo.Data.Text
import DiddiGo.Data.Proofs.CalendarProofs
import DiddiGo.Data.Proofs.FiniteDecimalProofs
import DiddiGo.Data.Proofs.GroupingProofs
import DiddiGo.Data.Proofs.JsonTextProofs
import DiddiGo.Data.Proofs.NumericProofs
import DiddiGo.Data.Proofs.TableProofs
import DiddiGo.Data.Proofs.TextProofs
import DiddiGo.Transactions.Embedding
import DiddiGo.Transactions.Accumulation
import DiddiGo.Transactions.Guarding
import DiddiGo.Transactions.Prog
import DiddiGo.Transactions.RelyGuarantee
import DiddiGo.Transactions.Sequential
import DiddiGo.Transactions.Serving
import DiddiGo.Transactions.Stages
import DiddiGo.Transactions.System
import DiddiGo.Transactions.Timeliness
import DiddiGo.Transactions.UniqueKeys
import DiddiGo.Transactions.Proofs.EmbeddingProofs
import DiddiGo.Transactions.Proofs.AccumulationProofs
import DiddiGo.Transactions.Proofs.GuardingProofs
import DiddiGo.Transactions.Proofs.LeadsProofs
import DiddiGo.Transactions.Proofs.ProgProofs
import DiddiGo.Transactions.Proofs.RelyGuaranteeProofs
import DiddiGo.Transactions.Proofs.SequentialProofs
import DiddiGo.Transactions.Proofs.ServingProofs
import DiddiGo.Transactions.Proofs.StagesProofs
import DiddiGo.Transactions.Proofs.TimelinessProofs
import DiddiGo.Transactions.Proofs.UniqueKeysProofs
import DiddiGo.Commands.CommandStore
import DiddiGo.Commands.Proofs.CommandStoreProofs
import DiddiGo.Payments.Authorisation
import DiddiGo.Payments.Books
import DiddiGo.Payments.Calls
import DiddiGo.Payments.Changes
import DiddiGo.Payments.Collection
import DiddiGo.Payments.Database
import DiddiGo.Payments.DiddiPay
import DiddiGo.Payments.Earnings
import DiddiGo.Payments.Entities
import DiddiGo.Payments.Finality
import DiddiGo.Payments.Interleaving
import DiddiGo.Payments.PaymentService
import DiddiGo.Payments.Protocol
import DiddiGo.Payments.ReconciliationLoop
import DiddiGo.Payments.Repository
import DiddiGo.Payments.ReturnContexts
import DiddiGo.Payments.Sweeping
import DiddiGo.Payments.WalletService
import DiddiGo.Payments.Proofs.AccountsProofs
import DiddiGo.Payments.Proofs.AuthorisationProofs
import DiddiGo.Payments.Proofs.BooksProofs
import DiddiGo.Payments.Proofs.CallbackProofs
import DiddiGo.Payments.Proofs.CallsProofs
import DiddiGo.Payments.Proofs.CollectionProofs
import DiddiGo.Payments.Proofs.ConservationProofs
import DiddiGo.Payments.Proofs.DeliveryProofs
import DiddiGo.Payments.Proofs.DoublePayoutProofs
import DiddiGo.Payments.Proofs.EarningsProofs
import DiddiGo.Payments.Proofs.FinalityProofs
import DiddiGo.Payments.Proofs.GuessingProofs
import DiddiGo.Payments.Proofs.InterleavingProofs
import DiddiGo.Payments.Proofs.MoneyProofs
import DiddiGo.Payments.Proofs.PayoutProofs
import DiddiGo.Payments.Proofs.PayoutReportProofs
import DiddiGo.Payments.Proofs.PreparationProofs
import DiddiGo.Payments.Proofs.ProtocolProofs
import DiddiGo.Payments.Proofs.ReadersProofs
import DiddiGo.Payments.Proofs.ReconciliationLoopProofs
import DiddiGo.Payments.Proofs.ReplayProofs
import DiddiGo.Payments.Proofs.RepositoryProofs
import DiddiGo.Payments.Proofs.RequestProofs
import DiddiGo.Payments.Proofs.ReturnContextsProofs
import DiddiGo.Payments.Proofs.RoutineProofs
import DiddiGo.Payments.Proofs.SafeProofs
import DiddiGo.Payments.Proofs.SettlementProofs
import DiddiGo.Payments.Proofs.StatusProofs
import DiddiGo.Payments.Proofs.SweepingProofs
import DiddiGo.Payments.Proofs.TopupProofs
import DiddiGo.Payments.Proofs.WithdrawalProofs
import DiddiGo.Payments.Proofs.WriteProofs
import DiddiGo.Rides.Alerts
import DiddiGo.Rides.Assignments
import DiddiGo.Rides.Availability
import DiddiGo.Rides.Batching
import DiddiGo.Rides.Changes
import DiddiGo.Rides.Concurrency
import DiddiGo.Rides.Contracts
import DiddiGo.Rides.Coverage
import DiddiGo.Rides.Database
import DiddiGo.Rides.Dispatching
import DiddiGo.Rides.DriverService
import DiddiGo.Rides.Entities
import DiddiGo.Rides.Gate
import DiddiGo.Rides.History
import DiddiGo.Rides.LocationBatches
import DiddiGo.Rides.Locations
import DiddiGo.Rides.MatchingService
import DiddiGo.Rides.Outcomes
import DiddiGo.Rides.Pilotage
import DiddiGo.Rides.Scoring
import DiddiGo.Rides.Presence
import DiddiGo.Rides.Quotes
import DiddiGo.Rides.Ranking
import DiddiGo.Rides.Repository
import DiddiGo.Rides.RideService
import DiddiGo.Rides.Routes
import DiddiGo.Rides.Search
import DiddiGo.Rides.Sockets
import DiddiGo.Rides.Storage
import DiddiGo.Rides.SupplementBooks
import DiddiGo.Rides.Tariffs
import DiddiGo.Rides.Waiting
import DiddiGo.Rides.Proofs.AlertsProofs
import DiddiGo.Rides.Proofs.AssignmentsProofs
import DiddiGo.Rides.Proofs.AvailabilityProofs
import DiddiGo.Rides.Proofs.BatchingProofs
import DiddiGo.Rides.Proofs.CommandsProofs
import DiddiGo.Rides.Proofs.ConcurrencyProofs
import DiddiGo.Rides.Proofs.ContractsProofs
import DiddiGo.Rides.Proofs.CoverageProofs
import DiddiGo.Rides.Proofs.DispatchingProofs
import DiddiGo.Rides.Proofs.EffectProofs
import DiddiGo.Rides.Proofs.EligibilityProofs
import DiddiGo.Rides.Proofs.FairnessProofs
import DiddiGo.Rides.Proofs.GateProofs
import DiddiGo.Rides.Proofs.HistoryProofs
import DiddiGo.Rides.Proofs.LocationTextProofs
import DiddiGo.Rides.Proofs.LocationsProofs
import DiddiGo.Rides.Proofs.MatchingProofs
import DiddiGo.Rides.Proofs.OutcomesProofs
import DiddiGo.Rides.Proofs.PilotageProofs
import DiddiGo.Rides.Proofs.ScoringProofs
import DiddiGo.Rides.Proofs.PolicyProofs
import DiddiGo.Rides.Proofs.PresenceProofs
import DiddiGo.Rides.Proofs.RankingProofs
import DiddiGo.Rides.Proofs.RideDbProofs
import DiddiGo.Rides.Proofs.RideRulesProofs
import DiddiGo.Rides.Proofs.RideRunsProofs
import DiddiGo.Rides.Proofs.RoutesProofs
import DiddiGo.Rides.Proofs.SearchProofs
import DiddiGo.Rides.Proofs.SocketsProofs
import DiddiGo.Rides.Proofs.StorageProofs
import DiddiGo.Rides.Proofs.SuccessProofs
import DiddiGo.Rides.Proofs.SupplementBooksProofs
import DiddiGo.Rides.Proofs.TariffsProofs
import DiddiGo.Rides.Proofs.WaitingProofs
import DiddiGo.Dossiers.Documents
import DiddiGo.Dossiers.DriverService
import DiddiGo.Dossiers.Entities
import DiddiGo.Dossiers.Repository
import DiddiGo.Dossiers.Reviewing
import DiddiGo.Dossiers.Proofs.DocumentsProofs
import DiddiGo.Dossiers.Proofs.DossierEffectProofs
import DiddiGo.Dossiers.Proofs.ReviewingProofs
import DiddiGo.Dossiers.Proofs.VerificationProofs
import DiddiGo.Partners.Entities
import DiddiGo.Partners.Repository
import DiddiGo.Partners.PartnerService
import DiddiGo.Partners.Isolation
import DiddiGo.Partners.Fleet
import DiddiGo.Partners.Records
import DiddiGo.Partners.Proofs.ActiveKeysProofs
import DiddiGo.Partners.Proofs.ActiveVehiclesProofs
import DiddiGo.Partners.Proofs.FleetProofs
import DiddiGo.Partners.Proofs.IsolationProofs
import DiddiGo.Partners.Proofs.RecordsProofs
import DiddiGo.Projections.Outbox
import DiddiGo.Projections.Dispatcher
import DiddiGo.Projections.Consistency
import DiddiGo.Projections.Capabilities
import DiddiGo.Projections.Proofs.LedgerProofs
import DiddiGo.Projections.Proofs.CarryingProofs
import DiddiGo.Projections.Proofs.DispatcherProofs
import DiddiGo.Projections.Proofs.CapabilitiesProofs
import DiddiGo.Auth.Otp
import DiddiGo.Auth.SingleUse
import DiddiGo.Auth.Proofs.OtpProofs
import DiddiGo.Services.ServiceTokens
import DiddiGo.Services.Proofs.ServiceTokensProofs
