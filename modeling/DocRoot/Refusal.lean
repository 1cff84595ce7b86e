import DocRoot.Fault

/-!
# Why a request is not served

Each refusal has a status and a message for the client. The message never shows a
path; the description, which is for the operator, does.
-/

set_option autoImplicit false

namespace DocRoot

inductive Refusal
  | badPath (path : String)
  | notFound (path : String)
  | listingDenied (path : String)
  | unsupportedMethod (method : String)
  | fault (cause : Fault)
  deriving DecidableEq, Repr

namespace Refusal

/-- A fault met while reading `path`. What is missing or forbidden is not found. -/
def ofFault (path : String) (cause : Fault) : Refusal :=
  match cause.kind with
  | .notFound | .permissionDenied => .notFound path
  | _ => .fault cause

theorem ofFault_cases (path : String) (cause : Fault) :
    ofFault path cause = .notFound path ∨ ofFault path cause = .fault cause := by
  unfold ofFault
  split
  · exact .inl rfl
  · exact .inl rfl
  · exact .inr rfl

def status : Refusal → Nat
  | badPath _ => 400
  | notFound _ => 404
  | listingDenied _ => 404
  | unsupportedMethod _ => 501
  | fault _ => 500

theorem status_ofFault (path : String) (cause : Fault) :
    (ofFault path cause).status =
      if cause.kind = .notFound ∨ cause.kind = .permissionDenied then 404 else 500 := by
  unfold ofFault
  cases cause.kind <;> rfl

def message : Refusal → String
  | badPath _ => "Bad request path"
  | notFound _ => "File not found"
  | listingDenied _ => "No permission to list directory"
  | unsupportedMethod m => "Unsupported method ('" ++ m ++ "')"
  | fault _ => "Internal server error"

def description : Refusal → String
  | badPath p => "Bad request path: " ++ p
  | notFound p => "File not found: " ++ p
  | listingDenied p => "No permission to list directory: " ++ p
  | unsupportedMethod m => "Unsupported method ('" ++ m ++ "')"
  | fault cause => "I/O error: " ++ cause.message

end Refusal

end DocRoot
