import SchemaLedger.Program
import SchemaLedger.Text.Octets
import SchemaLedger.Text.Blank
import SchemaLedger.Text.Quoted
import SchemaLedger.Text.Decimal
import SchemaLedger.Text.Split
import SchemaLedger.Text.Lines
import SchemaLedger.Ident
import SchemaLedger.Slug
import SchemaLedger.FileName
import SchemaLedger.Directive
import SchemaLedger.Path
import SchemaLedger.Timestamp
import SchemaLedger.Migration
import SchemaLedger.Files.Error
import SchemaLedger.Files.Call
import SchemaLedger.Files.Tree
import SchemaLedger.Files.Walk
import SchemaLedger.Files.Answer
import SchemaLedger.Text.Search
import SchemaLedger.Bootstrap
import SchemaLedger.Store.Error
import SchemaLedger.Store.Call
import SchemaLedger.Store.Memory
import SchemaLedger.Store.Faults
import SchemaLedger.Failure
import SchemaLedger.Event
import SchemaLedger.Host
import SchemaLedger.Directory.Scan
import SchemaLedger.Directory.Author
import SchemaLedger.Directory.Renumber
import SchemaLedger.Apply.Plan
import SchemaLedger.Apply.Run
import SchemaLedger.Config.Quotation
import SchemaLedger.Config.Document
import SchemaLedger.Config.Resolve
import SchemaLedger.Url
import SchemaLedger.Log
import SchemaLedger.CommandLine.Invocation
import SchemaLedger.CommandLine.Option
import SchemaLedger.CommandLine.Reader
import SchemaLedger.CommandLine.Run
import SchemaLedger.Rehearsal
import SchemaLedger.Rehearsal.Fixture
import SchemaLedger.Store.Postgres
import SchemaLedger.Main
import SchemaLedger.Proofs.Surroundings
import SchemaLedger.Proofs.Requests
import SchemaLedger.Proofs.Path
import SchemaLedger.Proofs.FileName
import SchemaLedger.Proofs.Numeral
import SchemaLedger.Proofs.NameOrder
import SchemaLedger.Proofs.Store.Contract
import SchemaLedger.Proofs.Store.Claims
import SchemaLedger.Proofs.Store.Scene
import SchemaLedger.Proofs.Store.Outlook
import SchemaLedger.Proofs.Store.Memory
import SchemaLedger.Proofs.Apply.Sight
import SchemaLedger.Proofs.Apply.Plan
import SchemaLedger.Proofs.Apply.Standing
import SchemaLedger.Proofs.Apply.Coherence
import SchemaLedger.Proofs.Apply.ExactlyOnce
import SchemaLedger.Proofs.Apply.Order
import SchemaLedger.Proofs.Directory.Scan
import SchemaLedger.Proofs.Apply.Passage
import SchemaLedger.Proofs.Apply.Reentry
import SchemaLedger.Proofs.Files.Walk
import SchemaLedger.Proofs.Files.Tree
import SchemaLedger.Proofs.Files.Entry
import SchemaLedger.Proofs.Files.Leaf
import SchemaLedger.Proofs.Directory.Stock
import SchemaLedger.Proofs.Directory.Workshop
import SchemaLedger.Proofs.Directory.Authoring
import SchemaLedger.Proofs.Directory.History
import SchemaLedger.Proofs.Directory.Writing
import SchemaLedger.Proofs.Directory.Labels
import SchemaLedger.Proofs.Directory.Padding
import SchemaLedger.Proofs.Directory.Growth
import SchemaLedger.Proofs.Site
import SchemaLedger.Proofs.Apply.Course
import SchemaLedger.Proofs.Listing
import SchemaLedger.Proofs.NameCodec
import SchemaLedger.Proofs.Apply.Advance
import SchemaLedger.Proofs.Apply.Rerun
import SchemaLedger.Proofs.Apply.FirstRun
import SchemaLedger.Proofs.Directory.Renaming
import SchemaLedger.Proofs.Directory.Renumbering
import SchemaLedger.Proofs.Directory.Resumption
import SchemaLedger.Proofs.Directory.Addition
import SchemaLedger.Proofs.Directory.Setup
import SchemaLedger.Proofs.Directory.Crew
import SchemaLedger.Proofs.Directory.Rivals
import SchemaLedger.Proofs.Apply.Pending
import SchemaLedger.Proofs.NameGrammar
import SchemaLedger.Proofs.Apply.Attribution
import SchemaLedger.Proofs.SignedNumeral
import SchemaLedger.Proofs.Slug
import SchemaLedger.Proofs.Directive
import SchemaLedger.Proofs.Store.Rows
import SchemaLedger.Proofs.Apply.Malformed
import SchemaLedger.Proofs.Width
import SchemaLedger.Proofs.Config.Layers
import SchemaLedger.Proofs.CommandLine.Argument
import SchemaLedger.Proofs.CommandLine.Setting
import SchemaLedger.Proofs.CommandLine.Grammar
import SchemaLedger.Proofs.CommandLine.Line
import SchemaLedger.Proofs.CommandLine.RoundTrip
