import TenantBroker.Cluster.Failure
import TenantBroker.Text.Occurrence

/-!
# What a failed command says

A command that ends with a return code other than zero is put in a category by its return code and
by what it printed. A code below zero means that it was interrupted, and 126 and 127 that it could
not be run. Otherwise the texts decide, in the order already-exists, not-found, retryable; a
resource type that is not installed counts as nothing found (`SPEC_FULL.md`, section 3).

A retryable failure is unsent if the texts prove that the server never saw the request. Texts that
leave it open whether the request was applied take precedence.
-/

namespace TenantBroker.Kubectl

open Cluster (Category)

/-- The failure may pass. -/
def retryablePatterns : List String := [
  "timed out", "timeout", "temporarily unavailable", "connection refused", "connection reset",
  "i/o timeout", "tls handshake timeout", "context deadline exceeded", "unable to connect",
  "too many requests", "rate limit", "serviceunavailable"]

/-- The resource, or its type, is not there. -/
def notFoundPatterns : List String := [
  "(notfound)", "not found", "doesn't have a resource type",
  "could not find the requested resource"]

/-- The resource is there already. -/
def alreadyExistsPatterns : List String := ["(alreadyexists)", "already exists"]

/-- The request was turned away before the server accepted it. -/
def unsentPatterns : List String := [
  "connection refused", "unable to connect", "too many requests", "rate limit"]

/-- The client gave up waiting, and the server may have applied the request. -/
def ambiguousPatterns : List String := [
  "awaiting headers", "request canceled", "context deadline exceeded"]

/-- The return codes of a program that is missing or not executable. -/
def unrunnableCodes : List Int := [126, 127]

/-- The category of the texts of a failed command. -/
def textCategory (text : String) : Category :=
  if Text.mentions text alreadyExistsPatterns then .alreadyExists
  else if Text.mentions text notFoundPatterns then .notFound
  else if Text.mentions text retryablePatterns then .retryable
  else .fatal

/-- Both streams of a command, errors first. -/
def joinStreams (stderr stdout : String) : String := stderr ++ "\n" ++ stdout

/-- The category of a failed command. -/
def classify (returncode : Int) (stderr stdout : String) : Category :=
  if returncode < 0 then .retryable
  else if unrunnableCodes.contains returncode then .fatal
  else textCategory (joinStreams stderr stdout)

/-- Whether the server provably never saw the request of a failed command. -/
def isUnsent (f : Cluster.CommandFailure) : Bool :=
  f.category = .retryable && 0 ≤ f.returncode &&
    !Text.mentions (joinStreams f.stderr f.stdout) ambiguousPatterns &&
    Text.mentions (joinStreams f.stderr f.stdout) unsentPatterns

end TenantBroker.Kubectl
