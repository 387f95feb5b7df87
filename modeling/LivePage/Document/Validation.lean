/-
Accepting documents. A value is accepted when it is not nested too deeply,
has no defect, and can be read; otherwise it is rejected with every reason
that the first failing stage gives.

* `validate`: acceptance of a value;
* `Rejection.messages`: the reasons in words.
-/
import LivePage.Document.Inspection
import LivePage.Document.Reader
import LivePage.Document.Writer
import LivePage.Json.Error
import LivePage.Json.Limits

namespace LivePage

/-- Why a document is not accepted. -/
inductive Rejection (τ : Type := String)
  | limited (cause : Json.LimitError)
  | undecodable (cause : Json.DecodeError)
  | defective (defects : List (Defect τ))
  | unreadable (issues : List (Issue τ))

variable {τ : Type} [DecidableEq τ] [Textual τ]

def Rejection.messages : Rejection τ → List τ
  | .limited cause => [cause.message]
  | .undecodable cause => [cause.message]
  | .defective defects => defects.map Defect.message
  | .unreadable issues => issues.map Issue.message

/-- Accepts a value as a document, if it is nested at most `maxDepth` deep. -/
def validate (maxDepth : Int) (v : Value τ) : Except (Rejection τ) (Document τ) :=
  match Json.checkDepth maxDepth 0 v with
  | .error cause => .error (.limited cause)
  | .ok () =>
    match inspectDocument v with
    | [] => (Document.read v).mapError .unreadable
    | defects => .error (.defective defects)

/-- Accepts a document that was accepted before, by its written form. -/
def revalidate (maxDepth : Int) (d : Document τ) : Except (Rejection τ) (Document τ) :=
  validate maxDepth d.toValue

/-- The nesting that is accepted unless another limit is set. -/
def defaultMaxDepth : Int := 100

end LivePage
