import Reshape.Template.Expr
import Reshape.Template.Span

/-!
# Plans

A template is compiled once.  Without placeholders it stands for itself; a lone
placeholder hands on the value of its expression as it is; anything else is put
together as a text.
-/

namespace Reshape
namespace Template

inductive Segment where
  | literal (s : String)
  | expr (e : Expr)
  deriving DecidableEq

inductive Plan where
  | literal (s : String)
  | template (segments : List Segment)
  | raw (e : Expr)
  deriving DecidableEq

inductive TemplateError where
  | unclosedPlaceholder (offset : Nat)
  | expression (cause : ExprError) (offset : Nat)
  deriving DecidableEq

def TemplateError.message : TemplateError -> String
  | .unclosedPlaceholder offset =>
      "unclosed placeholder starting at byte " ++ decimal offset
  | .expression cause offset =>
      cause.message ++ " (placeholder at byte " ++ decimal offset ++ ")"

def Segment.usesTagParts : Segment -> Bool
  | .literal _ => false
  | .expr e => e.usesTagParts

namespace Plan

def usesTagParts : Plan -> Bool
  | .literal _ => false
  | .template segments => segments.any Segment.usesTagParts
  | .raw e => e.usesTagParts

def kind : Plan -> String
  | .literal _ => "literal"
  | .template _ => "template"
  | .raw _ => "raw_expression"

end Plan

/-!
## Compiling
-/

def parsePlaceholder (content : List Char) (offset : Nat) :
    Except TemplateError Expr :=
  match Expr.parse (String.ofList content) with
  | .error cause => .error (.expression cause offset)
  | .ok e => .ok e

def Segment.ofSpan : Span -> Except TemplateError Segment
  | .text chars => .ok (.literal (String.ofList chars))
  | .placeholder content offset =>
      do return .expr (<- parsePlaceholder content offset)

def Span.isText : Span -> Bool
  | .text _ => true
  | .placeholder _ _ => false

def Plan.ofSpans (raw : String) (spans : List Span) :
    Except TemplateError Plan :=
  match spans with
  | [.placeholder content offset] =>
      do return .raw (<- parsePlaceholder content offset)
  | spans =>
      if spans.all Span.isText then .ok (.literal raw)
      else do return .template (<- spans.mapM Segment.ofSpan)

def Plan.compile (raw : String) : Except TemplateError Plan :=
  match split raw with
  | .error offset => .error (.unclosedPlaceholder offset)
  | .ok spans => Plan.ofSpans raw spans

end Template
end Reshape
