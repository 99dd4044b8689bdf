import Untrack.Text.Blank
import Untrack.Text.Utf8
import Untrack.Text.Percent
import Untrack.Text.Form
import Untrack.Text.CharSet
import Untrack.Text.OctetRange
import Untrack.Text.Property.Alphabetic
import Untrack.Text.Property.Number
import Untrack.Text.Property.Mark
import Untrack.Text.Property.Hidden
import Untrack.Text.Property.Recent
import Untrack.Text.Property.Direction
import Untrack.Text.Property.Joining
import Untrack.Text.CaseFold
import Untrack.Text.Canonical.Class
import Untrack.Text.Canonical.Composite
import Untrack.Text.Canonical.Variant
import Untrack.Text.Canonical.Hangul
import Untrack.Text.Canonical.Form
import Untrack.Text.PlainForm.Letter
import Untrack.Text.PlainForm.Word
import Untrack.Text.PlainForm.Basic
import Untrack.Text.Quoted
import Untrack.Digest.Sha256
import Untrack.Decimal.Binary64
import Untrack.Decimal.Shortest
import Untrack.Entries
import Untrack.Json.Value
import Untrack.Json.Fault
import Untrack.Json.Scalar
import Untrack.Json.Reader
import Untrack.Json.Record
import Untrack.Pattern.Assertion
import Untrack.Pattern.Expr
import Untrack.Pattern.Atom
import Untrack.Pattern.Escape
import Untrack.Pattern.ClassReader
import Untrack.Pattern.Reader
import Untrack.Pattern.Program
import Untrack.Pattern.Search
import Untrack.Pattern.Size
import Untrack.Pattern.Compiled
import Untrack.Host.Punycode
import Untrack.Host.Label
import Untrack.Host.Domain
import Untrack.Host.Ipv4
import Untrack.Host.Ipv6
import Untrack.Host.Basic
import Untrack.Url.Basic
import Untrack.Url.Path
import Untrack.Url.Reader
import Untrack.Failure
import Untrack.Notice
import Untrack.Config
import Untrack.Link.Parts
import Untrack.Link.Scheme
import Untrack.Link.Extract
import Untrack.Provider.Basic
import Untrack.Manifest.Definition
import Untrack.Manifest.Document
import Untrack.Manifest.Builtin
import Untrack.Manifest.Catalog
import Untrack.Rules.Download
import Untrack.Rules.Source
import Untrack.Rules.Registry
import Untrack.Cleaner
import Untrack.Http.Status
import Untrack.Http.Client
import Untrack.Service
import Untrack.Command.Arguments
import Untrack.Command.Log
import Untrack.Command.Run
import Untrack.Main
import Untrack.Proofs.Builtin
import Untrack.Proofs.Link.Strip
import Untrack.Proofs.Cleaning
import Untrack.Proofs.Registry.Refresh
import Untrack.Proofs.Registry.Turn
import Untrack.Proofs.Registry.Staleness
import Untrack.Proofs.Registry.Failures
import Untrack.Proofs.Registry.Forgetful
import Untrack.Proofs.Registry.Callers
import Untrack.Proofs.Json.Progress
import Untrack.Proofs.Json.Skipping
import Untrack.Proofs.Json.Grammar
import Untrack.Proofs.Json.Reading
import Untrack.Proofs.Json.Fields
import Untrack.Proofs.Manifest.Shape
import Untrack.Proofs.Manifest.Merging
import Untrack.Proofs.Link.Query
import Untrack.Proofs.Command.Output
import Untrack.Proofs.Pattern.Meaning
import Untrack.Proofs.Pattern.Paths
import Untrack.Proofs.Pattern.Threads
import Untrack.Proofs.Pattern.Search
import Untrack.Proofs.Pattern.Leftmost
import Untrack.Proofs.Pattern.LastRun
import Untrack.Proofs.Pattern.Runs
import Untrack.Proofs.Pattern.Appending
import Untrack.Proofs.Pattern.ClassAppending
import Untrack.Proofs.Pattern.Wrapping
import Untrack.Proofs.Provider.Anchoring
import Untrack.Proofs.Text.Utf8
import Untrack.Proofs.Text.Decoding
import Untrack.Proofs.Host.Ending
import Untrack.Proofs.Link.Usable
import Untrack.Proofs.Provider.Destination
import Untrack.Proofs.Link.Schemes
import Untrack.Proofs.Text.Encoding
import Untrack.Proofs.Provider.Redirection
import Untrack.Proofs.CleaningTwice
import Untrack.Proofs.Rules.Download
import Untrack.Proofs.Rules.Changes
import Untrack.Proofs.Manifest.ParameterRules
import Untrack.Proofs.Json.Members
import Untrack.Proofs.Provider.Compiling
import Untrack.Proofs.Manifest.Acceptance
import Untrack.Proofs.Registry.Naming
import Untrack.Proofs.Link.Finding
import Untrack.Proofs.Link.Resolving
import Untrack.Proofs.Host.Names
import Untrack.Proofs.Url.Pages
import Untrack.Proofs.Pattern.Spelling
import Untrack.Proofs.Link.Searching
import Untrack.Proofs.Manifest.Scope
