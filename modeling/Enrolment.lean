import Enrolment.Table.Sheet
import Enrolment.Table.Grammar
import Enrolment.Table.Writing
import Enrolment.Report
import Enrolment.Export
import Enrolment.Run.Session
import Enrolment.Decimal.Shortest
import Enrolment.Json.Token
import Enrolment.Json.Printing
import Enrolment.Wire.Reading
import Enrolment.Wire.Writing
import Enrolment.Account.Request
import Enrolment.Text.Literal
import Enrolment.Yaml.Document
import Enrolment.Url.Parse
import Enrolment.Settings.Layer
import Enrolment.Settings.Reading
import Enrolment.Settings.Writing
import Enrolment.LogFilter
import Enrolment.Account.Client
import Enrolment.Command.Run
import Enrolment.Main
import Enrolment.Proofs.Run.Once
import Enrolment.Proofs.Run.Independence
import Enrolment.Proofs.Table.RoundTrip
import Enrolment.Proofs.Run.Audience
import Enrolment.Proofs.Run.Log
import Enrolment.Proofs.Run.Room
import Enrolment.Proofs.Run.Freeze
import Enrolment.Proofs.Run.Resume
import Enrolment.Proofs.Run.Crowd
import Enrolment.Proofs.Run.Ownership
import Enrolment.Proofs.Import
import Enrolment.Proofs.Report
import Enrolment.Proofs.Run.Accounting
import Enrolment.Proofs.Export
import Enrolment.Proofs.Run.Crash
import Enrolment.Proofs.Export.Lines
import Enrolment.Proofs.Url.Endpoint
import Enrolment.Proofs.Command.Submit
import Enrolment.Proofs.Table.Endings
import Enrolment.Proofs.Table.Columns
import Enrolment.Proofs.Ledger.Writers
import Enrolment.Proofs.Run.Stall
import Enrolment.Proofs.Account.Request
import Enrolment.Proofs.Wire
import Enrolment.Proofs.Settings.Layers
import Enrolment.Proofs.Table.Template
import Enrolment.Proofs.Table.Joining
