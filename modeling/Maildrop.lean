import Maildrop.BodyTree
import Maildrop.Bytes
import Maildrop.Codec
import Maildrop.CommandLine.Arguments
import Maildrop.CommandLine.Help
import Maildrop.CommandLine.Report
import Maildrop.CommandLine.Run
import Maildrop.CommandLine.Verb
import Maildrop.Digest.Base64Url
import Maildrop.Digest.Sha256
import Maildrop.DiskError
import Maildrop.Envelope
import Maildrop.Host.Call
import Maildrop.Host.Disk
import Maildrop.Host.Path
import Maildrop.Json.Fault
import Maildrop.Json.Printer
import Maildrop.Json.Reader
import Maildrop.Json.Scalar
import Maildrop.Json.Value
import Maildrop.Log
import Maildrop.Mailbox.Basic
import Maildrop.Mailbox.HeaderBlock
import Maildrop.Mailbox.Summary
import Maildrop.Main
import Maildrop.MessageId
import Maildrop.Mime.Charset
import Maildrop.Mime.ContentType
import Maildrop.Mime.EncodedWord
import Maildrop.Mime.FieldText
import Maildrop.Mime.Header
import Maildrop.Mime.Part
import Maildrop.Mime.Sextets
import Maildrop.Mime.Span
import Maildrop.Mime.Transfer
import Maildrop.Program
import Maildrop.Proofs.BodyTree
import Maildrop.Proofs.BodyTree.Unfolding
import Maildrop.Proofs.CommandLine.Effect
import Maildrop.Proofs.CommandLine.Ids
import Maildrop.Proofs.CommandLine.Keeping
import Maildrop.Proofs.CommandLine.Precedence
import Maildrop.Proofs.CommandLine.SavedSettings
import Maildrop.Proofs.CommandLine.Storage
import Maildrop.Proofs.CommandLine.Task
import Maildrop.Proofs.CommandLine.Turn
import Maildrop.Proofs.Crowd.Basic
import Maildrop.Proofs.Crowd.Discipline
import Maildrop.Proofs.Email
import Maildrop.Proofs.Envelope
import Maildrop.Proofs.Host.Action
import Maildrop.Proofs.Host.Disk
import Maildrop.Proofs.Host.Path
import Maildrop.Proofs.Json.Numbers
import Maildrop.Proofs.Json.ReadBack
import Maildrop.Proofs.Json.Strings
import Maildrop.Proofs.Json.Written
import Maildrop.Proofs.Mailbox.HeaderBlock
import Maildrop.Proofs.Mailbox.Rejoin
import Maildrop.Proofs.Mailbox.Removal
import Maildrop.Proofs.Mailbox.Views
import Maildrop.Proofs.MessageId
import Maildrop.Proofs.NormalForm
import Maildrop.Proofs.Program
import Maildrop.Proofs.Registry
import Maildrop.Proofs.Registry.Race
import Maildrop.Proofs.Registry.Records
import Maildrop.Proofs.Sender
import Maildrop.Proofs.Sender.Forms
import Maildrop.Proofs.Service.Agreement
import Maildrop.Proofs.Service.Alike
import Maildrop.Proofs.Service.Basic
import Maildrop.Proofs.Service.Damage
import Maildrop.Proofs.Service.Health
import Maildrop.Proofs.Service.Ingested
import Maildrop.Proofs.Service.Listing
import Maildrop.Proofs.Service.Order
import Maildrop.Proofs.Service.Senders
import Maildrop.Proofs.Service.Sightings
import Maildrop.Proofs.Service.Stamping
import Maildrop.Proofs.Settings.Members
import Maildrop.Proofs.Settings.OnDisk
import Maildrop.Proofs.Settings.Override
import Maildrop.Proofs.Settings.RoundTrip
import Maildrop.Proofs.Store.Action
import Maildrop.Proofs.Store.Alike
import Maildrop.Proofs.Store.Damage
import Maildrop.Proofs.Store.DatabaseLedger
import Maildrop.Proofs.Store.Emails
import Maildrop.Proofs.Store.File
import Maildrop.Proofs.Store.Frame
import Maildrop.Proofs.Store.History
import Maildrop.Proofs.Store.Ledger
import Maildrop.Proofs.Store.Location
import Maildrop.Proofs.Store.Medium
import Maildrop.Proofs.Store.MemoryLedger
import Maildrop.Proofs.Store.MemoryTables
import Maildrop.Proofs.Store.Migration
import Maildrop.Proofs.Store.Sharing
import Maildrop.Proofs.Store.Tables
import Maildrop.Proofs.Store.Unreliable
import Maildrop.Proofs.Submission.Life
import Maildrop.Proofs.Submission.Outcome
import Maildrop.Proofs.Submission.Race
import Maildrop.Proofs.Submission.Retry
import Maildrop.Proofs.Submission.Sharing
import Maildrop.Proofs.Text.Ascii
import Maildrop.Proofs.Text.Cut
import Maildrop.Proofs.Text.Decimal
import Maildrop.Proofs.Text.Lines
import Maildrop.Proofs.Text.Lowercase
import Maildrop.Proofs.Text.Runs
import Maildrop.Proofs.Text.Shortened
import Maildrop.Proofs.Text.Slug
import Maildrop.Proofs.Text.Utf8
import Maildrop.Registry
import Maildrop.Sender
import Maildrop.Settings.Basic
import Maildrop.Settings.File
import Maildrop.Settings.Reader
import Maildrop.Store.Call
import Maildrop.Store.Collation
import Maildrop.Store.Damage
import Maildrop.Store.Database
import Maildrop.Store.Error
import Maildrop.Store.File
import Maildrop.Store.Frame
import Maildrop.Store.Frame.Codes
import Maildrop.Store.Location
import Maildrop.Store.Memory
import Maildrop.Store.Message
import Maildrop.Store.Outage
import Maildrop.Store.Pages
import Maildrop.Store.Program
import Maildrop.Store.Schema
import Maildrop.Store.Snapshot
import Maildrop.Submission.Error
import Maildrop.Submission.Session
import Maildrop.Text.Ascii
import Maildrop.Text.Blank
import Maildrop.Text.CaseTable
import Maildrop.Text.Cut
import Maildrop.Text.EscapeTable
import Maildrop.Text.Lowercase
import Maildrop.Text.Quoted
import Maildrop.Text.Signed32
import Maildrop.Text.Slug
import Maildrop.Text.Utf8
import Maildrop.Time
