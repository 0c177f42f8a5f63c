import Reshape.Engine.Execution
import Reshape.Shelf
import Reshape.Proofs.Encoding.Conversion
import Reshape.Proofs.Encoding.Normalization
import Reshape.Proofs.Engine.Calls
import Reshape.Proofs.Event.RoundTrip
import Reshape.Proofs.Expansion.Noninterference
import Reshape.Proofs.Expansion.Omission
import Reshape.Proofs.Shelf.Sharing
import Reshape.Proofs.Template.Compile
import Reshape.Proofs.Charset.Pieces
import Reshape.Proofs.Unicode.Valid
import Reshape.Proofs.Charset.Ascii
import Reshape.Proofs.Charset.Iso2022Jp
import Reshape.Proofs.Charset.Utf16
import Reshape.Proofs.Encoding.Splicing
import Reshape.Proofs.Expansion.Splicing
import Reshape.Proofs.Event.Formats
import Reshape.Proofs.Expansion.Binding
import Reshape.Proofs.Event.Refusals
import Reshape.Proofs.Config.RoundTrip
import Reshape.Proofs.Engine.Overlap
import Reshape.Proofs.Time.Retention
import Reshape.Proofs.Expansion.Removal
import Reshape.Proofs.Key.Whitelist
import Reshape.Proofs.Expansion.Writing
import Reshape.Proofs.Number.Integer
import Reshape.Proofs.Template.Spelling
import Reshape.Proofs.Template.Grammar
import Reshape.Proofs.Template.Rendering
import Reshape.Proofs.Expansion.Staging
import Reshape.Proofs.Charset.Output
import Reshape.Proofs.Key.Brackets
import Reshape.Proofs.Time.Pieces
import Reshape.Proofs.Json.Compact
import Reshape.Proofs.Json.Locality
import Reshape.Proofs.Event.Pair
import Reshape.Proofs.Key.Lists
import Reshape.Proofs.Expansion.TagParts
import Reshape.Proofs.Observe.Group
import Reshape.Proofs.Observe.Breaks
import Reshape.Proofs.Observe.Lines
import Reshape.Proofs.Template.Canonical
import Reshape.Proofs.Engine.Words
import Reshape.Proofs.Number.Fraction
import Reshape.Proofs.Number.TwoPowers
import Reshape.Proofs.Value.Floats
