import SecretRotation.Annotations
import SecretRotation.Calendar
import SecretRotation.Cluster.Client
import SecretRotation.Cluster.Manifest
import SecretRotation.Cluster.Server
import SecretRotation.Cluster.Target
import SecretRotation.CommandLine.Arguments
import SecretRotation.CommandLine.Options
import SecretRotation.CommandLine.Report
import SecretRotation.CommandLine.Run
import SecretRotation.Cycle.Breakdown
import SecretRotation.Cycle.Evaluation
import SecretRotation.Cycle.Notification
import SecretRotation.Cycle.Report
import SecretRotation.Cycle.Stamping
import SecretRotation.Cycle.Wake
import SecretRotation.Duration.Basic
import SecretRotation.Duration.Printer
import SecretRotation.Duration.Reader
import SecretRotation.Field.Decision
import SecretRotation.Field.Material
import SecretRotation.Field.Spec
import SecretRotation.Instant.Basic
import SecretRotation.Instant.Stamp
import SecretRotation.Json.Basic
import SecretRotation.Json.Binary
import SecretRotation.Json.Printer
import SecretRotation.Json.Reader
import SecretRotation.Json.Shape
import SecretRotation.Main
import SecretRotation.ManagedObject
import SecretRotation.Material.Charset
import SecretRotation.Material.Curve
import SecretRotation.Material.Der
import SecretRotation.Material.Ed25519
import SecretRotation.Material.Entropy
import SecretRotation.Material.Generator
import SecretRotation.Material.Kind
import SecretRotation.Material.Modular
import SecretRotation.Material.Pem
import SecretRotation.Material.Prime
import SecretRotation.Material.PrivateKey
import SecretRotation.Material.Rsa
import SecretRotation.Material.Sha512
import SecretRotation.Material.Stream
import SecretRotation.Proofs.Annotations
import SecretRotation.Proofs.Annotations.Listing
import SecretRotation.Proofs.Calendar
import SecretRotation.Proofs.Cluster.Overlap
import SecretRotation.Proofs.Cluster.Watched
import SecretRotation.Proofs.CommandLine.Retries
import SecretRotation.Proofs.Cycle.AtOnce
import SecretRotation.Proofs.Cycle.Baselines
import SecretRotation.Proofs.Cycle.Breakdown
import SecretRotation.Proofs.Cycle.Concealment
import SecretRotation.Proofs.Cycle.Due
import SecretRotation.Proofs.Cycle.Entries
import SecretRotation.Proofs.Cycle.FieldByField
import SecretRotation.Proofs.Cycle.Filling
import SecretRotation.Proofs.Cycle.FirstValues
import SecretRotation.Proofs.Cycle.Foreseen
import SecretRotation.Proofs.Cycle.Frame
import SecretRotation.Proofs.Cycle.Outcomes
import SecretRotation.Proofs.Cycle.Promise
import SecretRotation.Proofs.Cycle.Quiet
import SecretRotation.Proofs.Cycle.Repetition
import SecretRotation.Proofs.Cycle.Reports
import SecretRotation.Proofs.Cycle.Stamping
import SecretRotation.Proofs.Cycle.Wake
import SecretRotation.Proofs.Duration.Printer
import SecretRotation.Proofs.Duration.Reader
import SecretRotation.Proofs.Duration.RoundTrip
import SecretRotation.Proofs.Duration.Written
import SecretRotation.Proofs.Field.Material
import SecretRotation.Proofs.Field.Timeline
import SecretRotation.Proofs.Instant.Line
import SecretRotation.Proofs.Instant.RoundTrip
import SecretRotation.Proofs.Instant.Stamp
import SecretRotation.Proofs.Material.Charset
import SecretRotation.Proofs.Reconcile.Atomic
import SecretRotation.Proofs.Reconcile.Mirror
import SecretRotation.Proofs.Reconcile.Pace
import SecretRotation.Proofs.Reconcile.Run
import SecretRotation.Proofs.Reconcile.Sharing
import SecretRotation.Proofs.Reconcile.Waiting
import SecretRotation.Proofs.Result
import SecretRotation.Proofs.Settings.Precedence
import SecretRotation.Proofs.Settings.Usable
import SecretRotation.Proofs.Text.Blank
import SecretRotation.Proofs.Text.Numeral
import SecretRotation.Proofs.Text.Quoted
import SecretRotation.Proofs.Window.Accepted
import SecretRotation.Proofs.Window.Ahead
import SecretRotation.Proofs.Window.Announced
import SecretRotation.Proofs.Window.Missed
import SecretRotation.Proofs.Window.Start
import SecretRotation.Proofs.Window.Steady
import SecretRotation.Proofs.Zone.Bounds
import SecretRotation.Proofs.Zone.Clock
import SecretRotation.Reconcile.Basic
import SecretRotation.Reconcile.DryRun
import SecretRotation.Reconcile.Store
import SecretRotation.Secret
import SecretRotation.Settings.Basic
import SecretRotation.Settings.Document
import SecretRotation.Settings.Environment
import SecretRotation.Settings.Layer
import SecretRotation.Settings.Source
import SecretRotation.Text.Base64
import SecretRotation.Text.Blank
import SecretRotation.Text.Hex
import SecretRotation.Text.Hidden
import SecretRotation.Text.Numeral
import SecretRotation.Text.Quoted
import SecretRotation.Text.Shown
import SecretRotation.Toml.Basic
import SecretRotation.Toml.Number
import SecretRotation.Toml.Quoted
import SecretRotation.Toml.Reader
import SecretRotation.Toml.Table
import SecretRotation.Window.Basic
import SecretRotation.Window.Gate
import SecretRotation.Window.Opening
import SecretRotation.Window.Reader
import SecretRotation.Zone.Basic
import SecretRotation.Zone.History
import SecretRotation.Zone.History.Africa
import SecretRotation.Zone.History.Antarctica
import SecretRotation.Zone.History.Asia
import SecretRotation.Zone.History.Australia
import SecretRotation.Zone.History.CentralAmerica
import SecretRotation.Zone.History.Europe
import SecretRotation.Zone.History.NorthAmerica
import SecretRotation.Zone.History.Ocean
import SecretRotation.Zone.History.SouthAmerica
import SecretRotation.Zone.History.Universal
import SecretRotation.Zone.Moment
import SecretRotation.Zone.Name
import SecretRotation.Zone.Saving
import SecretRotation.Zone.Saving.Africa
import SecretRotation.Zone.Saving.Asia
import SecretRotation.Zone.Saving.Australasia
import SecretRotation.Zone.Saving.CentralAmerica
import SecretRotation.Zone.Saving.Europe
import SecretRotation.Zone.Saving.NorthAmerica
import SecretRotation.Zone.Saving.SouthAmerica
import SecretRotation.Zone.Table
import SecretRotation.Proofs.Window.Reach
import SecretRotation.Proofs.Reconcile.Serializable
