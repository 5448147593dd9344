import TableGateway.Connection.Address

/-! # Settings of a connection

The settings that a connection has, and the values that they take. Most texts are taken as they are;
numbers have to fit their width, and some settings know a few words only.

* `Setting.isValid` : whether there is such a setting and it takes the value -/

namespace TableGateway.Connection

open TableGateway.Text

/-- A setting and its value. -/
structure Setting where
  key : String
  value : String
  deriving DecidableEq, Repr

/-- The number that decimal digits spell. -/
def readNatural? (cs : List Char) : Option Nat :=
  if cs.isEmpty || !cs.all Char.isDigit then none else some (Calendar.digitsValue cs)

/-- The number that decimal digits spell after a plus sign or none. -/
def readUnsigned? : List Char → Option Nat
  | '+' :: cs => readNatural? cs
  | cs => readNatural? cs

/-- Whether a text is a number below a bound. -/
def isUnsigned (bound : Nat) (cs : List Char) : Bool :=
  (readUnsigned? cs).any fun n => decide (n < bound)

/-- Whether a text is a whole number of 64 bits. -/
def isSigned : List Char → Bool
  | '-' :: cs => (readNatural? cs).any fun n => decide (n ≤ Nat.pow 2 63)
  | cs => isUnsigned (Nat.pow 2 63) cs

/-- Whether a text is a port; the empty text stands for the usual one. -/
def isPort (cs : List Char) : Bool := cs.isEmpty || isUnsigned (Nat.pow 2 16) cs

/-- **Whether there is such a setting and it takes the value.** Addresses and ports may be several,
between commas. -/
def Setting.isValid (s : Setting) : Bool :=
  let cs := s.value.toList
  match s.key with
  | "user" | "password" | "dbname" | "options" | "application_name" | "host" => true
  | "sslmode" | "channel_binding" => s.value ∈ ["disable", "prefer", "require"]
  | "sslnegotiation" => s.value ∈ ["postgres", "direct"]
  | "target_session_attrs" => s.value ∈ ["any", "read-write", "read-only"]
  | "load_balance_hosts" => s.value ∈ ["disable", "random"]
  | "hostaddr" => (pieces ',' cs).all isAddress
  | "port" => (pieces ',' cs).all isPort
  | "connect_timeout" | "tcp_user_timeout" | "keepalives_idle" | "keepalives_interval" => isSigned cs
  | "keepalives" => isUnsigned (Nat.pow 2 64) cs
  | "keepalives_retries" => isUnsigned (Nat.pow 2 32) cs
  | _ => false

end TableGateway.Connection
