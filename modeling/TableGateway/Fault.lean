import TableGateway.Json.Parser
import TableGateway.Json.Serial
import TableGateway.Record

/-! # Faults

Everything that can go wrong in a call, by cause. A fault may also come from an executor in its own words.

* `Fault.message` : the full text of a fault -/

namespace TableGateway

/-- Why an input does not fit a record. -/
inductive Invalid where
  | unknownField (field table : String)
  | notComparable (field : String)
  | notWritable (field : String) (kind : Kind)
  | missingFields (table : String) (fields : List String)
  | page (number : UInt64)
  | told (reason : String)
  deriving DecidableEq, Repr

def Invalid.message : Invalid → String
  | unknownField field table => "unknown field '" ++ field ++ "' on record '" ++ table ++ "'"
  | notComparable field =>
    "field '" ++ field ++ "' is structured and cannot be used in a predicate"
  | notWritable field kind =>
    "field '" ++ field ++ "' is " ++ kind.label ++ " and is not client-writable"
  | missingFields table fields =>
    "missing required field(s) for '" ++ table ++ "': " ++ String.intercalate ", " fields
  | page number => "page must be >= 1, got " ++ toString number.toNat
  | told reason => reason

/-- Why a column of a row has no value for a field. -/
inductive CellFault where
  | absent
  | mismatch (cause : Mismatch)
  | malformed (index : Nat)
  | told (reason : String)
  deriving DecidableEq, Repr

def CellFault.message : CellFault → String
  | absent => "column not present in row"
  | mismatch cause => cause.message
  | malformed index => "error deserializing column " ++ toString index
  | told reason => reason

/-- Why a statement could not be run. -/
inductive QueryFault where
  | encoding
  | parameterCount (expected given : Nat)
  | parameter (index : Nat)
  | server
  | told (reason : String)
  deriving DecidableEq, Repr

def QueryFault.message : QueryFault → String
  | encoding => "error encoding message to server"
  | parameterCount expected given =>
    "expected " ++ toString expected ++ " parameters but got " ++ toString given
  | parameter index => "error serializing parameter " ++ toString index
  | server => "db error"
  | told reason => reason

/-- Why a structured value has no document. -/
inductive SerializationFault where
  | value (cause : Json.SerialFault)
  | text (cause : Json.Fault)
  | told (reason : String)
  deriving DecidableEq, Repr

def SerializationFault.message : SerializationFault → String
  | value cause => cause.message
  | text cause => cause.message
  | told reason => reason

/-- Why there is no connection. -/
inductive ConnectionFault where
  | malformed
  | told (reason : String)
  deriving DecidableEq, Repr

def ConnectionFault.message : ConnectionFault → String
  | malformed => "invalid connection string"
  | told reason => reason

/-- Why there is no connection from a pool. -/
inductive PoolFault where
  | noTimer
  | closed
  | told (reason : String)
  deriving DecidableEq, Repr

def PoolFault.message : PoolFault → String
  | noTimer => "Error occurred while building the pool: Timeouts require a runtime"
  | closed => "Pool has been closed"
  | told reason => reason

/-- **What went wrong in a call.** -/
inductive Fault where
  | connection (cause : ConnectionFault)
  | query (cause : QueryFault)
  | uniqueViolation (detail : String)
  | foreignKeyViolation (detail : String)
  | checkViolation (detail : String)
  | decode (column : String) (cause : CellFault)
  | validation (cause : Invalid)
  | serialization (cause : SerializationFault)
  | rowCount (expected found : Nat)
  | pool (cause : PoolFault)
  | other (reason : String)
  deriving DecidableEq, Repr

namespace Fault

/-- **The full text of a fault.** -/
def message : Fault → String
  | connection cause => "Connection error: " ++ cause.message
  | query cause => "Query error: " ++ cause.message
  | uniqueViolation detail => "Unique constraint violation: " ++ detail
  | foreignKeyViolation detail => "Foreign key violation: " ++ detail
  | checkViolation detail => "Check constraint violation: " ++ detail
  | decode column cause => "Decode error on column '" ++ column ++ "': " ++ cause.message
  | validation cause => "Validation error: " ++ cause.message
  | serialization cause => "Serialization error: " ++ cause.message
  | rowCount expected found =>
    "Unexpected row count: expected " ++ toString expected ++ ", got " ++ toString found
  | pool cause => "Pool error: " ++ cause.message
  | other reason => reason

def isValidation : Fault → Bool
  | validation _ => true
  | _ => false

def isUniqueViolation : Fault → Bool
  | uniqueViolation _ => true
  | _ => false

def isRowCount : Fault → Bool
  | rowCount _ _ => true
  | _ => false

end Fault

end TableGateway
