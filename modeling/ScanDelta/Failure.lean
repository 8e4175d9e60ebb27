import ScanDelta.Files.Disk
import ScanDelta.Http.Basic
import ScanDelta.Json.Parser

/-!
# Why a run fails

Each failure has a one-line `message` and the messages of its causes; `report` puts them behind one
another. The remote failures are those of a call to the service.
-/

set_option autoImplicit false

namespace ScanDelta

inductive Failure where
  | config (text : String)
  /-- A scan file that is not JSON. -/
  | notJson (path : String) (cause : Json.ParseError)
  | notFound (text : String)
  /-- An answer of the service with a status that tells of a failure. -/
  | remote (method url : String) (status : Nat) (body : String)
  /-- An answer of the service that does not have the expected form. -/
  | unexpectedResponse (text : String)
  | http (cause : Http.Error)
  | file (cause : FileError)
  deriving DecidableEq, Repr

namespace Failure

def message : Failure → String
  | config text => "configuration error: " ++ text
  | notJson path cause => "failed to parse SARIF JSON in " ++ path ++ ": " ++ cause.message
  | notFound text => text
  | remote method url status body =>
    "GitHub API " ++ method ++ " " ++ url ++ " failed with " ++ natText status ++ ": " ++ body
  | unexpectedResponse text => "unexpected GitHub API response: " ++ text
  | http cause => "failed to make HTTP request: " ++ cause.message
  | file cause => cause.message

def causes : Failure → List String
  | notJson _ cause => [cause.message]
  | http cause => cause.message :: cause.causes
  | _ => []

/-- The message and the causes, a colon between any two. -/
def report (f : Failure) : String := Text.join ": " (f.message :: f.causes)

/-- Did a call to the service fail, as opposed to something local? -/
def isRemote : Failure → Bool
  | remote .. | unexpectedResponse _ | http _ => true
  | _ => false

end Failure

end ScanDelta
