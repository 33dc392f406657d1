import SchemaShift.Command.Basic
import SchemaShift.Command.Grammar
import SchemaShift.Text.Search

/-!
# Reading the command line

Arguments are read from left to right. The value of an option is settled only when the next
flag or option is met, or the command line ends; the first fault that is met ends the
reading. What is not given comes from the environment or from a default.
-/

namespace SchemaShift

open Text

inductive ArgumentError where
  | helpAsked
  | versionAsked
  /-- A command below is needed, and nothing else was said either. -/
  | nothingSaid
  | missingCommand
  | unknownCommand
  | unknownArgument
  /-- An option or flag is given twice. -/
  | repeated
  /-- The value of an option is missing, or is empty where it must not be. -/
  | invalidValue
  /-- A flag is given a value. -/
  | valueForFlag
  | missingOption
deriving DecidableEq

def ArgumentError.text : ArgumentError → String
  | .helpAsked => "usage: ksql diff|migrate|snapshot|migplug [options]"
  | .versionAsked => "ksql 0.1.0"
  | .nothingSaid => "usage: ksql diff|migrate|snapshot|migplug [options]"
  | .missingCommand => "a command is missing"
  | .unknownCommand => "there is no such command"
  | .unknownArgument => "unexpected argument"
  | .repeated => "an option is given twice"
  | .invalidValue => "an option lacks its value"
  | .valueForFlag => "a flag takes no value"
  | .missingOption => "a required option is missing"

structure Given where
  flags : List String
  values : List (String × String)
  /-- The option met last, with the value it was given, until that is settled. -/
  pending : Option (CommandOption × Option String)
deriving DecidableEq

namespace Given

def empty : Given := { flags := [], values := [], pending := none }

def value? (g : Given) (name : String) : Option String :=
  (g.values.find? fun v => v.1 == name).map (·.2)

def hasFlag (g : Given) (name : String) : Bool :=
  g.flags.contains name

def isWaiting (g : Given) : Bool :=
  match g.pending with
  | some (_, none) => true
  | _ => false

def settle (g : Given) (o : CommandOption) (value : String) : Except ArgumentError Given :=
  if (g.value? o.name).isSome then .error .repeated
  else if o.isPath && value == "" then .error .invalidValue
  else .ok { g with values := g.values ++ [(o.name, value)] }

def settled (g : Given) : Except ArgumentError Given :=
  match g.pending with
  | none => .ok g
  | some (_, none) => .error .invalidValue
  | some (o, some value) => settle { g with pending := none } o value

def addFlag (g : Given) (f : Flag) : Except ArgumentError Given := do
  let g ← g.settled
  match f.effect with
  | .showHelp => throw .helpAsked
  | .showVersion => throw .versionAsked
  | .set =>
    if g.hasFlag f.name then throw .repeated
    return { g with flags := g.flags ++ [f.name] }

/-- Takes `--name` or `--name=value`. -/
def addLong (g : Given) (grammar : Grammar) (name : String) (value? : Option String) :
    Except ArgumentError Given :=
  match grammar.option? name, grammar.flag? name with
  | some o, _ => do
    let g ← g.settled
    match value? with
    | some value => g.settle o value
    | none => return { g with pending := some (o, none) }
  | none, some f => if value?.isSome then .error .valueForFlag else g.addFlag f
  | none, none => .error .unknownArgument

def addLetters (g : Given) (grammar : Grammar) : List Char → Except ArgumentError Given
  | [] => .ok g
  | c :: cs =>
    match grammar.letter? c with
    | none => .error .unknownArgument
    | some f => do (← g.addFlag f).addLetters grammar cs

/-! ### The end of the command line -/

def fill (g : Given) (environment : String → Option String) (options : List CommandOption) :
    Except ArgumentError Given :=
  options.foldlM (fun g o =>
    match g.value? o.name, o.environment.bind environment with
    | none, some value => g.settle o value
    | _, _ => .ok g) g

/-- The option is needed, by itself or by one that is given. -/
def isNeeded (g : Given) (options : List CommandOption) (o : CommandOption) : Bool :=
  o.required || options.any fun p => (g.value? p.name).isSome && p.needs.contains o.name

def complete (g : Given) (environment : String → Option String) (grammar : Grammar) :
    Except ArgumentError Given := do
  let g ← g.settled
  if !grammar.commands.isEmpty then
    throw (if g.flags.isEmpty then .nothingSaid else .missingCommand)
  let g ← g.fill environment grammar.options
  if grammar.options.any fun o => g.isNeeded grammar.options o && (g.value? o.name).isNone then
    throw .missingOption
  let defaults := grammar.options.filterMap fun o => o.default?.map fun value => (o.name, value)
  return { g with values := g.values ++ defaults }

end Given

/-- A command that was chosen, by the names on the way to it, and what was given to it. -/
structure Chosen where
  path : List String
  verbose : Bool
  given : Given
deriving DecidableEq

def longForm? (arg : String) : Option (String × Option String) :=
  match arg.toList with
  | '-' :: '-' :: cs =>
    let name := String.ofList (cs.takeWhile (· != '='))
    match cs.dropWhile (· != '=') with
    | [] => some (name, none)
    | _ :: value => some (name, some (String.ofList value))
  | _ => none

/-- The letters of an argument that starts with one dash. A dash alone has none. -/
def letters? (arg : String) : Option (List Char) :=
  match arg.toList with
  | ['-'] => none
  | '-' :: cs => some cs
  | _ => none

namespace Grammar

/-- What `help` before these names leads to. -/
def helpFor (g : Grammar) : List String → ArgumentError
  | [] => .helpAsked
  | name :: names =>
    match g.command? name with
    | some b => b.helpFor names
    | none =>
      if g.hasHelpCommand && name == "help" && names.isEmpty then .helpAsked else .unknownCommand

/-- The fault of an argument that is no flag, option, value or command. Behind `--` a command
is not taken for one. -/
def misplaced (g : Grammar) (afterDashes : Bool) (arg : String) : ArgumentError :=
  if !g.hasHelpCommand then .unknownArgument
  else if afterDashes && ((g.command? arg).isSome || arg == "help") then .unknownArgument
  else .unknownCommand

def isHelpCommand (g : Grammar) (arg : String) : Bool :=
  g.hasHelpCommand && arg == "help"

/-- Reads arguments for the command `g`, to which `given` was given so far. -/
def readFrom (environment : String → Option String) (g : Grammar) (chosen : Chosen)
    (afterDashes : Bool) : List String → Except ArgumentError Chosen
  | [] => do
    let given ← chosen.given.complete environment g
    return { chosen with verbose := chosen.verbose || given.hasFlag "verbose", given }
  | arg :: rest =>
    let given := chosen.given
    if afterDashes then .error (g.misplaced true arg)
    else
      match g.command? arg, given.isWaiting with
      | some b, false =>
        let below : Chosen :=
          { path := chosen.path ++ [b.name]
            verbose := chosen.verbose || given.hasFlag "verbose"
            given := .empty }
        b.readFrom environment below false rest
      | _, waiting =>
        if !waiting && g.isHelpCommand arg then .error (g.helpFor rest)
        else if arg == "--" then g.readFrom environment chosen true rest
        else
          match longForm? arg, letters? arg with
          | some (name, value?), _ => do
            let given ← given.addLong g name value?
            g.readFrom environment { chosen with given } false rest
          | none, some letters => do
            let given ← given.addLetters g letters
            g.readFrom environment { chosen with given } false rest
          | none, none =>
            match given.pending with
            | some (o, none) =>
              let given := { given with pending := some (o, some arg) }
              g.readFrom environment { chosen with given } false rest
            | _ => .error (g.misplaced false arg)

end Grammar

namespace Given

def value (g : Given) (name : String) : String :=
  (g.value? name).getD ""

def config (g : Given) (dsn schemaName : String) : ConnectionConfig :=
  { driver := g.value "driver", dsn := g.value dsn, schemaName := g.value schemaName }

def diffRequest (g : Given) : DiffRequest :=
  { source := g.config "from-dsn" "from-db"
    target := g.config "to-dsn" "to-db"
    outDir := g.value "out-dir"
    dryRun := g.hasFlag "dry-run" }

def makeRequest (g : Given) : MakeRequest :=
  { name := g.value "name"
    version := g.value "version"
    outDir := g.value "out-dir"
    driver := g.value "driver"
    sourceDsn := g.value? "from-dsn"
    sourceName := g.value? "from-db"
    targetDsn := g.value? "to-dsn"
    targetName := g.value? "to-db" }

def command (g : Given) : List String → Command
  | ["diff"] => .diff g.diffRequest
  | ["migrate"] => .migrate g.diffRequest
  | ["snapshot"] => .snapshot (g.config "dsn" "db")
  | [_, "up"] => .units .up (g.config "dsn" "db") (g.hasFlag "strict")
  | [_, "down"] => .units .down (g.config "dsn" "db") (g.hasFlag "strict")
  | [_, "show"] => .units .list (g.config "dsn" "db") (g.hasFlag "strict")
  | _ => .make g.makeRequest

end Given

def Invocation.read (environment : String → Option String) (args : List String) :
    Except ArgumentError Invocation := do
  let start : Chosen := { path := [], verbose := false, given := .empty }
  let chosen ← Grammar.root.readFrom environment start false args
  return { verbose := chosen.verbose, command := chosen.given.command chosen.path }

end SchemaShift
