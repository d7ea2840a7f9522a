import Herald.Number.Literal
import Herald.Settings

/-!
The command line of a node. An option takes one value, behind an equals sign or as the next word; it
may be given once. The value of a word behind an option is looked at only when the next option comes
or the line ends, so of two faults the later may be told.
-/
namespace Herald

structure CommandLine where
  config : Option String := none
  logLevel : Option String := none
  logFormat : Option String := none
  ingestPort : Option UInt16 := none
  httpPort : Option UInt16 := none
  check : Bool := false
deriving DecidableEq, Repr

namespace CommandLine

inductive Stop where
  | help
  | version
  | unknownArgument
  | invalidValue
  | valueValidation
  | repeated
  | tooManyValues
deriving DecidableEq, Repr

def Stop.message : Stop → String
  | .help => "help was asked for"
  | .version => "the version was asked for"
  | .unknownArgument => "unexpected argument"
  | .invalidValue => "missing or unknown value for an option"
  | .valueValidation => "a port must be a number from 0 to 65535"
  | .repeated => "an option was given more than once"
  | .tooManyValues => "a flag takes no value"

def usage : List String :=
  ["Stores locally produced JSON documents and announces their content ids",
    "",
    "Usage: relay-node [OPTIONS]",
    "",
    "Options:",
    "  -c, --config <FILE>         Configuration file path (defaults to config/relay.toml when present)",
    "      --log-level <LEVEL>     Override the log level [possible values: trace, debug, info, warn, error]",
    "      --log-format <FORMAT>   Select log output format [possible values: pretty, compact]",
    "      --ingest-port <PORT>    Override the local ingest socket port",
    "      --http-port <PORT>      Override the HTTP port",
    "      --check                 Validate the configuration, print a summary and exit",
    "  -h, --help                  Print help",
    "  -V, --version               Print version"]

inductive Setting where
  | config
  | logLevel
  | logFormat
  | ingestPort
  | httpPort
deriving DecidableEq, Repr

inductive Flag where
  | check
  | help
  | version
deriving DecidableEq, Repr

inductive Known where
  | setting (s : Setting)
  | flag (f : Flag)
deriving DecidableEq, Repr

def known? : String → Option Known
  | "config" => some (.setting .config)
  | "log-level" => some (.setting .logLevel)
  | "log-format" => some (.setting .logFormat)
  | "ingest-port" => some (.setting .ingestPort)
  | "http-port" => some (.setting .httpPort)
  | "check" => some (.flag .check)
  | "help" => some (.flag .help)
  | "version" => some (.flag .version)
  | _ => none

def levels : List String := ["trace", "debug", "info", "warn", "error"]

def formats : List String := ["pretty", "compact"]

/-- A port may have a sign and zeros in front. -/
def port? (text : String) : Option UInt16 :=
  let digits (cs : List Char) : Option Nat :=
    if cs.isEmpty || !cs.all Char.isDigit then none else some (Number.natOf cs)
  match text.toList with
  | '-' :: cs => if digits cs = some 0 then some 0 else none
  | '+' :: cs => ((digits cs).filter (· < UInt16.size)).map UInt16.ofNat
  | cs => ((digits cs).filter (· < UInt16.size)).map UInt16.ofNat

def oneOf (words : List String) (text : String) : Except Stop String :=
  if words.contains text then .ok text else .error .invalidValue

def readPort (text : String) : Except Stop UInt16 :=
  match port? text with
  | some port => .ok port
  | none => .error .valueValidation

def fill {α : Type} (old : Option α) (new : Except Stop α) : Except Stop (Option α) :=
  match old with
  | some _ => .error .repeated
  | none => new.map some

/-- A repetition is told before a bad value. -/
def set (c : CommandLine) (s : Setting) (text : String) : Except Stop CommandLine :=
  match s with
  | .config => do return { c with config := ← fill c.config (.ok text) }
  | .logLevel => do return { c with logLevel := ← fill c.logLevel (oneOf levels text) }
  | .logFormat => do return { c with logFormat := ← fill c.logFormat (oneOf formats text) }
  | .ingestPort => do return { c with ingestPort := ← fill c.ingestPort (readPort text) }
  | .httpPort => do return { c with httpPort := ← fill c.httpPort (readPort text) }

def raise (c : CommandLine) : Flag → Except Stop CommandLine
  | .check => if c.check then .error .repeated else .ok { c with check := true }
  | .help => .error .help
  | .version => .error .version

inductive Word where
  | escape
  | long (name : String) (value : Option String)
  | short (letters : List Char)
  | plain (text : String)
deriving DecidableEq, Repr

def Word.read (word : String) : Word :=
  match word.toList with
  | ['-', '-'] => .escape
  | '-' :: '-' :: rest =>
    match rest.span (· ≠ '=') with
    | (name, _ :: value) => .long (String.ofList name) (some (String.ofList value))
    | (name, []) => .long (String.ofList name) none
  | '-' :: letter :: more => .short (letter :: more)
  | _ => .plain word

/-- A line so far; the last option may still want its value or have one that was not looked at. -/
structure Draft where
  line : CommandLine := {}
  waiting : Option (Setting × Option String) := none

namespace Draft

def settle (d : Draft) : Except Stop CommandLine :=
  match d.waiting with
  | none => .ok d.line
  | some (_, none) => .error .invalidValue
  | some (s, some text) => d.line.set s text

def add (d : Draft) (k : Known) (value : Option String) : Except Stop Draft :=
  match k, value with
  | .setting s, some text => do return { line := ← (← d.settle).set s text }
  | .setting s, none => do return { line := ← d.settle, waiting := some (s, none) }
  | .flag _, some _ => .error .tooManyValues
  | .flag f, none => do return { line := ← (← d.settle).raise f }

/-- The value that stands right behind the letter of an option. -/
def attached? : List Char → Option String
  | [] => none
  | '=' :: value => some (String.ofList value)
  | value => some (String.ofList value)

def addShort (d : Draft) : List Char → Except Stop Draft
  | 'c' :: value => d.add (.setting .config) (attached? value)
  | 'h' :: _ => d.add (.flag .help) none
  | 'V' :: _ => d.add (.flag .version) none
  | _ => .error .unknownArgument

/-- Only an option without a value takes a word without dashes. -/
def addPlain (d : Draft) (text : String) : Except Stop Draft :=
  match d.waiting with
  | some (s, none) => .ok { d with waiting := some (s, some text) }
  | _ => .error .unknownArgument

def addLong (d : Draft) (name : String) (value : Option String) : Except Stop Draft :=
  match known? name with
  | some k => d.add k value
  | none => .error .unknownArgument

/-- Behind two dashes alone nothing may follow. -/
def read (d : Draft) : List String → Except Stop CommandLine
  | [] => d.settle
  | word :: rest =>
    match Word.read word with
    | .escape => if rest.isEmpty then d.settle else .error .unknownArgument
    | .long name value => do (← d.addLong name value).read rest
    | .short letters => do (← d.addShort letters).read rest
    | .plain text => do (← d.addPlain text).read rest

end Draft

def read (words : List String) : Except Stop CommandLine :=
  Draft.read {} words

def override (c : CommandLine) (s : Settings) : Settings :=
  { s with
    logLevel := c.logLevel.getD s.logLevel
    logFormat := c.logFormat.getD s.logFormat
    ingestPort := c.ingestPort.getD s.ingestPort
    httpPort := c.httpPort.getD s.httpPort }

end CommandLine

end Herald
