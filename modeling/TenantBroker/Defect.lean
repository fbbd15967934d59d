/-!
# Defects

A defect is the use of a value for something it cannot do. Records that come back from the cluster
are not checked before use, so a record of an unexpected shape ends the operation at the first use
that fails. Defects are no part of the broker's own failures: nothing handles one, and it ends the
operation wherever it arises.
-/

namespace TenantBroker

/-- The use of a value for something it cannot do. -/
inductive Defect where
  /-- A field is asked of a value that is no record. -/
  | notRecord
  /-- A value of the wrong type stands in an operation. -/
  | wrongType
  /-- A key is taken from a record that lacks it. -/
  | missingKey
  /-- An infinite number is to be made whole. -/
  | outOfRange
  /-- A step lacks the manifest or the name that its action needs. -/
  | missingPart
  /-- A value is to be of a type that nothing is known of. -/
  | unknownType
  /-- A command has no first word. -/
  | noWord
  /-- The cluster client gave up for a reason of its own. -/
  | aborted
  deriving DecidableEq

end TenantBroker
