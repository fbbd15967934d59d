import TenantBroker.Defect
import TenantBroker.Text.Blank
import TenantBroker.Text.Encoding
import TenantBroker.Text.Quoted

/-!
# Failures of the cluster client

A call fails with a cause, which the broker reports and partly handles, or with a defect, which
ends everything. A cause is a command that failed or output that cannot be used. Failed commands
fall into four categories; two of them, not-found and already-exists, say something about the
cluster.
-/

namespace TenantBroker.Cluster

/-- What a failed command says. -/
inductive Category where
  | retryable
  | fatal
  | notFound
  | alreadyExists
  deriving DecidableEq

/-- The name of a category. -/
def Category.name : Category → String
  | .retryable => "retryable"
  | .fatal => "fatal"
  | .notFound => "not-found"
  | .alreadyExists => "already-exists"

/-- A command that ended with a return code other than zero. -/
structure CommandFailure where
  summary : String
  command : List String
  returncode : Int
  stdout : String
  stderr : String
  category : Category
  deriving DecidableEq

/-- The longest detail that a message shows in full. -/
def maxDetail : Nat := 400

/-- What the command printed, errors before output, without blanks around it and cut off with an
ellipsis when it is long. -/
def CommandFailure.detail (f : CommandFailure) : String :=
  let detail := Text.trim (if f.stderr = "" then f.stdout else f.stderr)
  if maxDetail < detail.length then String.ofList (detail.toList.take (maxDetail - 3)) ++ "..."
  else detail

/-- The wording of a failed command. -/
def CommandFailure.message (f : CommandFailure) : String :=
  f.summary ++ " (category=" ++ f.category.name ++ ", returncode=" ++ toString f.returncode ++
    ", command=" ++ Text.quoted (" ".intercalate f.command) ++
    ", detail=" ++ Text.quoted f.detail ++ ")"

/-- Output or a setting that has no usable value. -/
inductive ValueFault where
  /-- The output for a resource is not JSON. -/
  | notJson (what : String)
  /-- The output for a resource is no JSON object. -/
  | notObject (what : String)
  /-- The output holds a whole number with too many digits. -/
  | tooManyDigits (count : Nat)
  /-- What is to be written holds a whole number with too many digits. -/
  | unwritable
  /-- The output of an interrupted command is no text. -/
  | undecodable (fault : Text.Utf8.Fault)
  /-- The time limit is not a number. -/
  | limitNotNumber
  /-- A value that the client refuses for a reason of its own. -/
  | refused (reason : String)
  deriving DecidableEq

/-- The wording of an unusable value. -/
def ValueFault.message : ValueFault → String
  | .notJson what => "Invalid JSON from kubectl for " ++ what
  | .notObject what => "Unexpected kubectl output for " ++ what ++ ": expected an object"
  | .tooManyDigits count =>
    "Exceeds the limit (4300 digits) for integer string conversion: value has " ++
      toString count ++ " digits; use sys.set_int_max_str_digits() to increase the limit"
  | .unwritable =>
    "Exceeds the limit (4300 digits) for integer string conversion; " ++
      "use sys.set_int_max_str_digits() to increase the limit"
  | .undecodable fault => fault.message
  | .limitNotNumber => "cannot convert float NaN to integer"
  | .refused reason => reason

/-- Why a call failed. -/
inductive Cause where
  | command (failure : CommandFailure)
  | value (fault : ValueFault)
  deriving DecidableEq

/-- The wording of a cause. -/
def Cause.message : Cause → String
  | .command failure => failure.message
  | .value fault => fault.message

/-- The category of a cause, if it is a failed command. -/
def Cause.category? : Cause → Option Category
  | .command failure => some failure.category
  | .value _ => none

/-- How a call ends when it does not succeed. -/
inductive Failure where
  | cause (why : Cause)
  | defect (what : Defect)
  deriving DecidableEq

namespace Failure

/-- The category of a failure, if it is a failed command. -/
def category? : Failure → Option Category
  | .cause why => why.category?
  | .defect _ => none

/-- The resource is not there. -/
def isNotFound (f : Failure) : Bool := f.category? = some .notFound

/-- The resource is there already. -/
def isAlreadyExists (f : Failure) : Bool := f.category? = some .alreadyExists

/-- The failure may pass. -/
def isRetryable (f : Failure) : Bool := f.category? = some .retryable

end Failure

end TenantBroker.Cluster
