import Gateway.Config.Address
import Gateway.Text.Blank

/-! # Configuration

Each setting has a default and a variable that overrides it. White space around a value is ignored,
and a value that is not of the setting's form leaves the default in place.
-/

namespace Gateway

/-- The settings of a gateway. Times are in seconds. -/
structure Config where
  address : SocketAddress
  /-- Where secured traffic arrives, if anywhere. -/
  secureAddress : Option SocketAddress
  connectionLimit : Nat
  identityLifetime : Nat
  sweepPeriod : Nat
  handlerLimit : Nat
  queueLimit : Nat
  padSize : Nat
  pendingLifetime : Nat
deriving DecidableEq, Repr

namespace Config

/-- The settings without any override. -/
def default : Config where
  address := .v4 [0, 0, 0, 0] 8080
  secureAddress := none
  connectionLimit := 1000
  identityLifetime := 30
  sweepPeriod := 5
  handlerLimit := 64
  queueLimit := 64
  padSize := 1024
  pendingLifetime := 60

/-- The value of a list of decimal digits, if all are digits. -/
def decimal? (digits : List Char) : Option Nat :=
  digits.foldl
    (fun value c =>
      value.bind fun value => if c.isDigit then some (value * 10 + (c.toNat - '0'.toNat)) else none)
    (some 0)

/-- The unsigned 64-bit number that a text spells: digits after an optional plus sign. -/
def unsigned? (text : List Char) : Option Nat :=
  let digits :=
    match text with
    | '+' :: rest => rest
    | _ => text
  if digits.isEmpty then none else (decimal? digits).filter fun value => value < UInt64.size

/-- The value of a variable, if it is there and of the right form. -/
def setting? (lookup : String → Option String) (name : String) (read? : List Char → Option β) :
    Option β :=
  (lookup name).bind fun text => read? (trim text.toList)

/-- The settings that some variables give. -/
def ofLookup (lookup : String → Option String) : Config :=
  let number (name : String) (missing : Nat) : Nat := (setting? lookup name unsigned?).getD missing
  { address := (setting? lookup "GATEWAY_BIND_ADDR" SocketAddress.parse?).getD default.address
    secureAddress := setting? lookup "GATEWAY_SECURE_BIND_ADDR" SocketAddress.parse?
    connectionLimit := number "GATEWAY_MAX_CONNECTIONS" default.connectionLimit
    identityLifetime := number "GATEWAY_IDENTITY_TTL_SECS" default.identityLifetime
    sweepPeriod := number "GATEWAY_SWEEP_INTERVAL_SECS" default.sweepPeriod
    handlerLimit := number "GATEWAY_MAX_HANDLERS" default.handlerLimit
    queueLimit := number "GATEWAY_OUTBOUND_BUFFER" default.queueLimit
    padSize := number "GATEWAY_OTP_KEY_SIZE" default.padSize
    pendingLifetime := number "GATEWAY_PENDING_KEY_TTL_SECS" default.pendingLifetime }

end Config

end Gateway
