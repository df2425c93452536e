/-
# Arguments

Arguments are read from left to right. An option with a value of its own
(`--config=x`, `-cx`, `-c=x`) is taken in at once. Where the value is the next
argument it waits, and it is looked at only when the next option or switch comes, or
at the end. So an unknown argument is reported before a bad value that waits, and a
switch that asks for help after it.

Behind `--` no argument is allowed. An option that is not given may have a value in
the environment.

Key definitions: `Options`, `Stop`, `UsageError`, `Progress`, `Progress.settle`,
`Progress.take`, `Options.parse`.
-/
import AlertReceivers.CommandLine.LogFormat
import AlertReceivers.Text.Quoted

namespace AlertReceivers

/-- The path of the configuration when none is given. -/
def defaultPath : String := "/etc/alertmanager/alertmanager.yml"

/-- What the arguments ask for. -/
structure Options where
  config : String
  dump : Bool
  logFormat : LogFormat
deriving DecidableEq

/-- Options spelled out. -/
def Options.shown (o : Options) : String :=
  let parts := ["config: " ++ quoted o.config, "dump: " ++ (if o.dump then "true" else "false"),
    "log_format: " ++ o.logFormat.shown]
  "Cli \x7b " ++ ", ".intercalate parts ++ " \x7d"

/-- Mistakes in arguments. -/
inductive UsageError where
  /-- An argument that is not known, or that has no place. -/
  | unknownArgument
  /-- A value that is missing, empty or not allowed. -/
  | invalidValue
  /-- An option that is given twice. -/
  | conflict
  /-- A switch with a value. -/
  | tooManyValues
deriving DecidableEq

/-- What is said of a mistake in arguments. -/
def UsageError.message : UsageError → String
  | unknownArgument => "error: unexpected argument"
  | invalidValue => "error: missing or invalid value"
  | conflict => "error: an option is given more than once"
  | tooManyValues => "error: a value for an option that takes none"

/-- Why arguments do not lead to options. -/
inductive Stop where
  /-- Help is asked for, in full or in short. -/
  | help (full : Bool)
  /-- The version is asked for. -/
  | version
  /-- There is a mistake. -/
  | usage (mistake : UsageError)
deriving DecidableEq

/-! ### Options and switches -/

/-- The options with a value. -/
inductive Setting where
  | config
  | logFormat
deriving DecidableEq

/-- The options without a value. -/
inductive Switch where
  | dump
  | help
  | version
deriving DecidableEq

/-- What an option is. -/
inductive OptionKind where
  | setting (s : Setting)
  | switch (s : Switch)

/-- The options with their long names. -/
def OptionKind.ofName? (name : String) : Option OptionKind :=
  [("config", setting .config), ("log-format", setting .logFormat), ("dump", switch .dump),
    ("help", switch .help), ("version", switch .version)].lookup name

/-- The options with their letters. -/
def OptionKind.ofLetter? (letter : Char) : Option OptionKind :=
  [('c', setting .config), ('h', switch .help), ('V', switch .version)].lookup letter

/-! ### Arguments -/

/-- The forms of arguments. -/
inductive Argument where
  /-- `--`, which ends the options. -/
  | ending
  /-- An option by its name, with what stands behind an equals sign. -/
  | long (name : String) (value : Option String)
  /-- Letters behind a hyphen. -/
  | short (letter : Char) (rest : List Char)
  /-- Any other text, a lone hyphen too. -/
  | plain (text : String)

/-- The form of an argument. -/
def Argument.ofText (s : String) : Argument :=
  match s.toList with
  | ['-', '-'] => .ending
  | '-' :: '-' :: cs =>
    let name := String.ofList (cs.takeWhile (· != '='))
    match cs.dropWhile (· != '=') with
    | _ :: value => .long name (some (String.ofList value))
    | [] => .long name none
  | '-' :: c :: cs => .short c cs
  | _ => .plain s

/-! ### Reading arguments -/

/-- What has been read so far. An option whose value is another argument waits,
first for the value and then to be taken in. -/
structure Progress where
  config : Option String
  logFormat : Option LogFormat
  dump : Bool
  waiting : Option (Setting × Option String)

namespace Progress

/-- Nothing has been read. -/
def start : Progress := ⟨none, none, false, none⟩

/-- Ends with a mistake. -/
def refuse {α : Type} (e : UsageError) : Except Stop α := .error (.usage e)

/-- Takes in the value of an option. -/
def accept (p : Progress) : Setting → String → Except Stop Progress
  | .config, v =>
    if p.config.isSome then refuse .conflict
    else if v = "" then refuse .invalidValue
    else .ok { p with config := some v }
  | .logFormat, v =>
    if p.logFormat.isSome then refuse .conflict
    else
      match LogFormat.ofName? v false with
      | some f => .ok { p with logFormat := some f }
      | none => refuse .invalidValue

/-- Takes in the option that waits. -/
def settle (p : Progress) : Except Stop Progress :=
  match p.waiting with
  | none => .ok p
  | some (_, none) => refuse .invalidValue
  | some (s, some v) => { p with waiting := none }.accept s v

/-- Takes in an option with its own value, or lets it wait for one. -/
def setting (p : Progress) (s : Setting) : Option String → Except Stop Progress
  | some v => do
    let p ← p.settle
    p.accept s v
  | none => do
    let p ← p.settle
    return { p with waiting := some (s, none) }

/-- Obeys a switch. -/
def switch (p : Progress) (full : Bool) (s : Switch) : Except Stop Progress := do
  let p ← p.settle
  match s with
  | .help => .error (.help full)
  | .version => .error .version
  | .dump => if p.dump then refuse .conflict else return { p with dump := true }

/-- The value that stands behind a letter; an equals sign in front of it is dropped. -/
def behindLetter : List Char → Option String
  | [] => none
  | '=' :: cs => some (String.ofList cs)
  | cs => some (String.ofList cs)

/-- Reads letters. Behind the letter of a switch another letter may follow. -/
def letters (p : Progress) : Char → List Char → Except Stop Progress
  | c, rest =>
    match OptionKind.ofLetter? c with
    | none => refuse .unknownArgument
    | some (.setting s) => p.setting s (behindLetter rest)
    | some (.switch s) =>
      match rest with
      | [] => p.switch false s
      | c :: rest => do
        let p ← p.switch false s
        p.letters c rest

/-- Reads an argument in front of `--`. -/
def argument (p : Progress) : Argument → Except Stop Progress
  | .ending => .ok p
  | .long name value =>
    match OptionKind.ofName? name, value with
    | none, _ => refuse .unknownArgument
    | some (.setting s), value => p.setting s value
    | some (.switch s), none => p.switch true s
    | some (.switch _), some _ => refuse .tooManyValues
  | .short c rest => p.letters c rest
  | .plain text =>
    match p.waiting with
    | some (s, none) => .ok { p with waiting := some (s, some text) }
    | _ => refuse .unknownArgument

/-- Reads all arguments. -/
def arguments : Progress → List String → Except Stop Progress
  | p, [] => p.settle
  | p, a :: rest =>
    match Argument.ofText a with
    | .ending => if rest.isEmpty then p.settle else refuse .unknownArgument
    | a => do
      let p ← p.argument a
      p.arguments rest

/-- Completes what has been read with the environment and the defaults. -/
def finish (p : Progress) (logFormat : Option String) : Except Stop Options :=
  let config := p.config.getD defaultPath
  match p.logFormat, logFormat with
  | some f, _ => .ok ⟨config, p.dump, f⟩
  | none, none => .ok ⟨config, p.dump, .default⟩
  | none, some word =>
    match LogFormat.ofName? word false with
    | some f => .ok ⟨config, p.dump, f⟩
    | none => refuse .invalidValue

end Progress

/-- The options that arguments give, with the format of the log in the environment. -/
def Options.parse (arguments : List String) (logFormat : Option String) : Except Stop Options := do
  let p ← Progress.start.arguments arguments
  p.finish logFormat

end AlertReceivers
