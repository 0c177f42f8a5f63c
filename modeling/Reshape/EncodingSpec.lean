import Reshape.Charset.Output
import Reshape.Unicode.Split
import Reshape.Value.Basic

/-!
# Normalizing the charset of texts

A specification names a source and perhaps a target.  Without a target every
text is declared to be in the source, and its bytes stay.  With a target every
text that is not there yet is read from the source and written in the target.
-/

namespace Reshape

open Unicode

structure EncodingSpec where
  source : Charset
  target : Option Charset.Encoding
  writable : forall encoding, encoding ∈ target -> encoding.isEncodable = true
  deriving DecidableEq

namespace EncodingSpec

inductive Error where
  | unknownLabel (label : String)
  | notWritable (charset : Charset)
  deriving DecidableEq

def Error.message : Error -> String
  | .unknownLabel label => "unknown character encoding " ++ quoted label
  | .notWritable charset => "cannot transcode into " ++ charset.name

/-!
## Building a specification
-/

def setOnly (source : Charset) : EncodingSpec :=
  ⟨source, none, by simp⟩

def convert (source : Charset) : Charset -> Except Error EncodingSpec
  | .binary => .error (.notWritable .binary)
  | .encoded encoding =>
      if h : encoding.isEncodable = true then
        .ok ⟨source, some encoding, by simpa using h⟩
      else .error (.notWritable (.encoded encoding))

def lookup (label : String) : Except Error Charset :=
  match Charset.forLabel? label with
  | some charset => .ok charset
  | none => .error (.unknownLabel label)

/-- The specification that a text spells: a label, or two labels with a colon
between them. -/
def parse (spec : String) : Except Error EncodingSpec :=
  match splitOnce ':' spec.toList with
  | none => do return setOnly (<- lookup spec)
  | some (source, target) => do
      let source <- lookup (String.ofList source)
      let target <- lookup (String.ofList target)
      convert source target

/-!
## Texts
-/

/-- What normalizing does to a text. -/
inductive Change where
  | keep
  | declare (charset : Charset)
  | replace (bytes : List UInt8) (charset : Charset)
  deriving DecidableEq

def Change.apply : Change -> Text -> Text
  | .keep, text => text
  | .declare charset, text => { text with charset }
  | .replace bytes charset, _ => ⟨bytes, charset⟩

/-- The bytes of a text read from one charset and written in another. -/
def convertBytes (source : Charset) (target : Charset.Encoding)
    (bytes : List UInt8) : List UInt8 :=
  target.write .generous (lossy (source.decode bytes))

/-- A text that is in the target stays, and so do bytes that read as themselves
when source and target are the same. -/
def change (spec : EncodingSpec) (text : Text) : Change :=
  match spec.target with
  | none => .declare spec.source
  | some target =>
      if text.charset = .encoded target then .keep
      else
        if spec.source = .encoded target && target.readsAsItself text.bytes then
        .declare (.encoded target)
      else
        .replace (convertBytes spec.source target text.bytes) (.encoded target)

def normalizeText (spec : EncodingSpec) (text : Text) : Text :=
  (spec.change text).apply text

/-!
## Values

Every text is normalized, however deep it lies.  Keys are left alone.
-/

mutual

def normalize (spec : EncodingSpec) : Value -> Value
  | .text t => .text (spec.normalizeText t)
  | .array items => .array (normalizeItems spec items)
  | .map entries => .map (normalizeFields spec entries)
  | v => v

def normalizeItems (spec : EncodingSpec) : List Value -> List Value
  | [] => []
  | item :: rest => normalize spec item :: normalizeItems spec rest

def normalizeFields (spec : EncodingSpec) : Record -> Record
  | [] => []
  | (key, value) :: rest =>
      (key, normalize spec value) :: normalizeFields spec rest

end

end EncodingSpec

end Reshape
