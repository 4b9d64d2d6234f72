import DocPath.Fault
import DocPath.KeyList
import DocPath.Log.Conversion
import DocPath.Log.Layout
import DocPath.Log.Level
import DocPath.Log.Logger
import DocPath.Log.Place
import DocPath.Log.Record
import DocPath.Log.Template
import DocPath.Log.TemplateError
import DocPath.Manifest
import DocPath.Operation
import DocPath.Pair
import DocPath.Path.Alphabet
import DocPath.Path.Expression
import DocPath.Path.Format
import DocPath.Path.Parse
import DocPath.Path.Rejection
import DocPath.Path.Scan
import DocPath.Proofs.Log.Lines
import DocPath.Proofs.Path.Acceptance
import DocPath.Proofs.Path.Characters
import DocPath.Proofs.Path.Composition
import DocPath.Proofs.Path.Derivation
import DocPath.Proofs.Path.Expressible
import DocPath.Proofs.Path.Grammar
import DocPath.Proofs.Path.Keys
import DocPath.Proofs.Path.Normal
import DocPath.Proofs.Path.RoundTrip
import DocPath.Proofs.Path.Viability
import DocPath.Proofs.Session.Console
import DocPath.Proofs.Session.Logger
import DocPath.Proofs.Session.Scopes
import DocPath.Proofs.Settings.Padding
import DocPath.Proofs.Walk.Adapters
import DocPath.Proofs.Walk.Address
import DocPath.Proofs.Walk.Digits
import DocPath.Proofs.Walk.Events
import DocPath.Proofs.Walk.Failures
import DocPath.Proofs.Walk.Fold
import DocPath.Proofs.Walk.LastItem
import DocPath.Proofs.Walk.Names
import DocPath.Proofs.Walk.Parent
import DocPath.Proofs.Walk.Privacy
import DocPath.Proofs.Walk.Quotes
import DocPath.Proofs.Walk.SelfReference
import DocPath.Raised
import DocPath.Session
import DocPath.Settings
import DocPath.Text.Blank
import DocPath.Text.Columns
import DocPath.Text.Decimal
import DocPath.Text.Pieces
import DocPath.Text.Printable
import DocPath.Text.Quoted
import DocPath.Text.Ranges
import DocPath.Text.Upper
import DocPath.Text.Widths
import DocPath.Trace
import DocPath.Value.Atom
import DocPath.Value.Basic
import DocPath.Value.Binary64
import DocPath.Value.Display
import DocPath.Value.Key
import DocPath.Value.Range
import DocPath.Value.Rounded
import DocPath.Walk.Assign
import DocPath.Walk.Basic
import DocPath.Walk.Lookup
