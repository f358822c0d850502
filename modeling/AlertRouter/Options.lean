import AlertRouter.Delivery.Dispatcher
import AlertRouter.Url.Parser

/-! # Command line options

Every option has a name that starts with two hyphens.  Its value is the next argument, or what
follows an equals sign. -/

namespace AlertRouter

structure Options where
  configFile : String
  address : String
  port : Nat
  externalUrl : Option Url
  intervalSeconds : Nat
  retentionHours : Nat
  checkOnly : Bool
deriving Repr

/-- Why a command line is refused. -/
inductive OptionFault where
  | unknown (argument : String)
  | noValue (name : String)
  | badValue (name value : String)
deriving DecidableEq, Repr

def OptionFault.message : OptionFault → String
  | unknown argument => "unexpected argument '" ++ argument ++ "'"
  | noValue name => "a value is required for '" ++ name ++ "'"
  | badValue name value => "invalid value '" ++ value ++ "' for '" ++ name ++ "'"

namespace Options

/-- The options that hold unless others are given. -/
def standard (configFile : String) : Options where
  configFile := configFile
  address := "0.0.0.0"
  port := 9093
  externalUrl := none
  intervalSeconds := 1
  retentionHours := Dispatcher.defaultRetention / 3600
  checkOnly := false

/-- The number in a value, at most `limit`. -/
def number? (limit : Nat) (s : String) : Option Nat :=
  (Codec.unsigned? 10 s.toList).filter (· ≤ limit)

/-- An address and a port with a colon between them. -/
def listenAddress? (s : String) : Option (String × Nat) :=
  match s.splitOn ":" with
  | [address, port] => (number? 65535 port).map fun port => (address, port)
  | _ => none

/-- Sets the option `name`; `none` if the value does not fit it or there is no such option.  Reports
have one form only, so the choice of a format changes nothing. -/
def set? (o : Options) (name value : String) : Option Options :=
  match name with
  | "--config-file" => some { o with configFile := value }
  | "--listen-address" => (listenAddress? value).map fun (address, port) => { o with address, port }
  | "--external-url" => (Url.parse value).toOption.map fun url => { o with externalUrl := url }
  | "--log-format" => if value = "text" ∨ value = "json" then some o else none
  | "--dispatch-interval-secs" =>
    (number? Codec.maxNatural value).map fun n => { o with intervalSeconds := max n 1 }
  | "--retention-hours" =>
    (number? Codec.maxNatural value).map fun n => { o with retentionHours := n }
  | _ => none

/-- The options that take a value. -/
def valued : List String :=
  ["--config-file", "--listen-address", "--external-url", "--log-format",
    "--dispatch-interval-secs", "--retention-hours"]

/-- The name and the value in an argument such as `--name=value`. -/
def split (argument : String) : String × Option String :=
  let cs := argument.toList
  let value := match cs.dropWhile (· != '=') with
    | [] => none
    | _ :: value => some (String.ofList value)
  (String.ofList (cs.takeWhile (· != '=')), value)

/-- Reads arguments one after another. -/
def ofArgs (o : Options) : List String → Except OptionFault Options
  | [] => .ok o
  | "--check-config" :: rest => ofArgs { o with checkOnly := true } rest
  | argument :: rest =>
    let (name, value) := split argument
    if name ∉ valued then .error (.unknown argument)
    else match value, rest with
      | some value, rest => match o.set? name value with
        | some o => ofArgs o rest
        | none => .error (.badValue name value)
      | none, value :: rest => match o.set? name value with
        | some o => ofArgs o rest
        | none => .error (.badValue name value)
      | none, [] => .error (.noValue name)

/-- How many seconds ended alerts are kept. -/
def retention (o : Options) : Nat := o.retentionHours * 3600

end Options

end AlertRouter
