import ServerConfig.Main
import ServerConfig.Session
import ServerConfig.Proofs.Acceptance
import ServerConfig.Proofs.Breaches
import ServerConfig.Proofs.Consistency
import ServerConfig.Proofs.Overriding
import ServerConfig.Proofs.Layering
import ServerConfig.Proofs.Repetition
import ServerConfig.Proofs.Retry
import ServerConfig.Proofs.Toml.DigitRuns
import ServerConfig.Proofs.UnexpectedErrors
import ServerConfig.Proofs.SessionHistory
import ServerConfig.Proofs.Verdicts
import ServerConfig.Proofs.Constructions
import ServerConfig.Proofs.EffectiveValues
import ServerConfig.Proofs.Secrecy.Assembly
import ServerConfig.Proofs.Secrecy.Sessions
import ServerConfig.Proofs.OverrideEffects
import ServerConfig.Proofs.PartialOverrides
import ServerConfig.Proofs.LoggingSettings
import ServerConfig.Proofs.Text.Trimming
import ServerConfig.Proofs.Url.Parsing
import ServerConfig.Proofs.Url.Composition
import ServerConfig.Proofs.Url.Accessors
import ServerConfig.Proofs.Url.AddressHost
import ServerConfig.Proofs.Log.Handlers
import ServerConfig.Proofs.Command.Streams
import ServerConfig.Proofs.Command.Agreement
import ServerConfig.Proofs.Url.WildcardHost
import ServerConfig.Proofs.Url.DownloadText
import ServerConfig.Proofs.LifetimeOrder
import ServerConfig.Proofs.SizeLimit
import ServerConfig.Proofs.Words
import ServerConfig.Proofs.WrittenLifetime
import ServerConfig.Proofs.CanonicalNetworks
import ServerConfig.Proofs.Url.Rereading
import ServerConfig.Proofs.PrintedReport
import ServerConfig.Proofs.Log.Members
import ServerConfig.Proofs.Log.JsonLine
