/-
# The program

The program loads a configuration, logs what happens, and prints the valid receivers
in short or as a document. It is a function of its arguments, of its environment and
of how files are read.

Key definitions: `Environment`, `Transcript`, `Load.file`, `Event.record`, `run`.
-/
import AlertReceivers.CommandLine.Filter
import AlertReceivers.CommandLine.Help
import AlertReceivers.Config.Document
import AlertReceivers.File.Error

namespace AlertReceivers

/-- What the environment says. -/
structure Environment where
  /-- The format of the log. -/
  logFormat : Option String
  /-- The rules for what is logged. -/
  filter : Option String

/-- How a run ends, what it prints, and the lines that it writes to the log. -/
structure Transcript where
  exitCode : Nat
  output : String
  log : List String

/-! ### Loading a file -/

/-- The program goes through a table from the first name to the last. -/
instance : TextMap.Walk := .ascending

/-- Loads a configuration from what was read of a file. -/
def Load.file [TextMap.Walk] (path : String) (octets : Except FileError ByteArray) : Load Config :=
  match octets with
  | .error e => fail (.load (path ++ ": " ++ e.message))
  | .ok octets =>
    match String.fromUTF8? octets with
    | none => fail (.load (path ++ ": " ++ FileError.notText.message))
    | some s => text s

/-! ### The log -/

/-- The name under which the program logs. -/
def mainTarget : String := "receiver_config"

/-- The name under which the loading of a configuration is logged. -/
def loadTarget : String := mainTarget ++ "::config::types"

/-- What is logged of an event. -/
def Event.record : Event → Record
  | decoded receiver kind index =>
    ⟨.debug, loadTarget, "Decoded receiver block",
      [("receiver", .words receiver), ("kind", .words kind.name), ("index", .number index)]⟩
  | skipped key => ⟨.debug, loadTarget, "Skipping section", [("section", .literal key)]⟩
  | loaded receivers blocks =>
    ⟨.info, loadTarget, "Receiver configuration loaded",
      [("receivers", .number receivers), ("blocks", .number blocks)]⟩

/-- What is logged before a configuration is loaded. -/
def startRecord (path : String) : Record :=
  ⟨.info, mainTarget, "Loading configuration", [("config_path", .words path)]⟩

/-- What is logged of an error. -/
def ConfigError.record (path : String) (e : ConfigError) : Record :=
  ⟨.error, mainTarget, "Failed to load configuration",
    [("error", .words e.message), ("path", .words path)]⟩

/-- All records of a load. -/
def Load.records (path : String) (l : Load Config) : List Record :=
  startRecord path :: l.events.map Event.record ++
    match l.outcome with
    | .ok _ => []
    | .error e => [e.record path]

/-! ### The output -/

/-- The receivers in short. -/
def Config.report (path : String) (c : Config) : String :=
  let lines := ["Configuration is valid: " ++ path, "  Receivers: " ++ toString c.receivers.length] ++
    c.receivers.map fun r => "    " ++ r.name ++ ": " ++ r.summary
  String.join (lines.map (· ++ "\n"))

/-- What is printed of a valid configuration. -/
def Options.print (o : Options) (c : Config) : String :=
  if o.dump then c.dump else c.report o.config

/-! ### Runs -/

/-- The exit code of a stop, and what it prints. -/
def Stop.transcript (environment : Environment) : Stop → Transcript
  | help full => ⟨0, Help.text full environment.logFormat, []⟩
  | version => ⟨0, Help.version, []⟩
  | usage mistake => ⟨2, "", [mistake.message]⟩

/-- A run with options. -/
def Options.run [TextMap.Walk] (o : Options) (environment : Environment)
    (read : String → Except FileError ByteArray) : Transcript :=
  let load := Load.file o.config (read o.config)
  let rules := environment.filter.getD ""
  let filter := Filter.ofText rules
  let log := Filter.refused rules ++
    ((load.records o.config).filter filter.allows).map fun r => r.line o.logFormat
  match load.outcome with
  | .ok c => ⟨0, o.print c, log⟩
  | .error _ => ⟨1, "", log⟩

/-- A run of the program. -/
def run [TextMap.Walk] (arguments : List String) (environment : Environment)
    (read : String → Except FileError ByteArray) : Transcript :=
  match Options.parse arguments environment.logFormat with
  | .ok o => o.run environment read
  | .error stop => stop.transcript environment

end AlertReceivers
