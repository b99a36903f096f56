import PortMap.Log.Setup
import PortMap.Main
import PortMap.Proofs.Cli.Exit
import PortMap.Proofs.Cli.Order
import PortMap.Proofs.Cli.Override
import PortMap.Proofs.Cli.Plan
import PortMap.Proofs.Cli.Request
import PortMap.Proofs.Log.Entry
import PortMap.Proofs.Numeral.Hexadecimal
import PortMap.Proofs.Numeral.Power
import PortMap.Proofs.Numeral.PowerOfTwo
import PortMap.Proofs.Numeral.Rational
import PortMap.Proofs.Numeral.Rounding
import PortMap.Proofs.Route.Announced
import PortMap.Proofs.Route.DefaultRoute
import PortMap.Proofs.Route.Fold
import PortMap.Proofs.Route.MixedTable
import PortMap.Proofs.Route.SourceOrder
import PortMap.Proofs.Schedule
import PortMap.Proofs.Session.Answer
import PortMap.Proofs.Session.Backoff
import PortMap.Proofs.Session.Conforming
import PortMap.Proofs.Session.FirstDatagram
import PortMap.Proofs.Session.Lockstep
import PortMap.Proofs.Session.Opening
import PortMap.Proofs.Session.OverSocket
import PortMap.Proofs.Session.PartialWrites
import PortMap.Proofs.Session.Refused
import PortMap.Proofs.Session.Retry
import PortMap.Proofs.Session.Shape
import PortMap.Proofs.Session.WholeDelays
import PortMap.Proofs.Settings.Bounds
import PortMap.Proofs.Settings.Content
import PortMap.Proofs.Settings.EnvironmentText
import PortMap.Proofs.Settings.Export
import PortMap.Proofs.Settings.Lifecycle
import PortMap.Proofs.Settings.Loading
import PortMap.Proofs.Settings.Numeral
import PortMap.Proofs.Settings.NumericText
import PortMap.Proofs.Settings.OverlayAlgebra
import PortMap.Proofs.Settings.Precedence
import PortMap.Proofs.Settings.Valid
import PortMap.Proofs.Toml.Document
import PortMap.Proofs.Toml.Layout
import PortMap.Proofs.Toml.Line
import PortMap.Proofs.Toml.Literal
import PortMap.Proofs.Toml.Number
import PortMap.Proofs.Wire.Refusal
import PortMap.Proofs.Wire.ReplyRoundTrip
