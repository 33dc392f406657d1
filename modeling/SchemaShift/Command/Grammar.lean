/-!
# The grammar of the command line

A command has flags, options with a value, and commands below it. `Grammar.root` is the
whole tree.
-/

namespace SchemaShift

inductive FlagEffect where
  | set
  | showHelp
  | showVersion
deriving DecidableEq

structure Flag where
  name : String
  letter : Option Char
  effect : FlagEffect
deriving DecidableEq

structure CommandOption where
  name : String
  /-- The variable of the environment that stands in for the option. -/
  environment : Option String
  default? : Option String
  required : Bool
  /-- The value names a directory, so it is not empty. -/
  isPath : Bool
  /-- The options that have to come with this one. -/
  needs : List String
deriving DecidableEq

structure Grammar where
  name : String
  flags : List Flag
  options : List CommandOption
  commands : List Grammar

namespace Grammar

def command? (g : Grammar) (name : String) : Option Grammar :=
  g.commands.find? fun b => b.name == name

def option? (g : Grammar) (name : String) : Option CommandOption :=
  g.options.find? fun o => o.name == name

def flag? (g : Grammar) (name : String) : Option Flag :=
  g.flags.find? fun f => f.name == name

def letter? (g : Grammar) (letter : Char) : Option Flag :=
  g.flags.find? fun f => f.letter == some letter

/-- A command with others below it also understands `help`. -/
def hasHelpCommand (g : Grammar) : Bool :=
  !g.commands.isEmpty

/-! ### The tree -/

def verbose : Flag := { name := "verbose", letter := some 'v', effect := .set }

def help : Flag := { name := "help", letter := some 'h', effect := .showHelp }

def version : Flag := { name := "version", letter := some 'V', effect := .showVersion }

def dryRun : Flag := { name := "dry-run", letter := none, effect := .set }

def strict : Flag := { name := "strict", letter := none, effect := .set }

def needed (name : String) (environment : Option String) : CommandOption :=
  { name, environment, default? := none, required := true, isPath := false, needs := [] }

def free (name : String) : CommandOption :=
  { name, environment := none, default? := none, required := false, isPath := false, needs := [] }

def driver (environment : Option String) : CommandOption :=
  { free "driver" with environment, default? := some "mysql" }

def outDir (default : String) : CommandOption :=
  { free "out-dir" with default? := some default, isPath := true }

def differing (name : String) : Grammar :=
  { name
    flags := [verbose, help, dryRun]
    options := [
      driver (some "KSQL_DRIVER"),
      needed "from-dsn" (some "KSQL_FROM_DSN"),
      needed "from-db" (some "KSQL_FROM_DB"),
      needed "to-dsn" (some "KSQL_TO_DSN"),
      needed "to-db" (some "KSQL_TO_DB"),
      outDir "."]
    commands := [] }

def connecting (name : String) (flags : List Flag) : Grammar :=
  { name
    flags := [verbose, help] ++ flags
    options := [
      driver (some "KSQL_DRIVER"),
      needed "dsn" (some "KSQL_DSN"),
      needed "db" (some "KSQL_DB")]
    commands := [] }

def making : Grammar :=
  { name := "make"
    flags := [verbose, help]
    options := [
      needed "name" none,
      needed "version" none,
      outDir "migrations",
      driver none,
      { free "from-dsn" with needs := ["from-db", "to-dsn", "to-db"] },
      free "from-db",
      free "to-dsn",
      free "to-db"]
    commands := [] }

def unitCommands : Grammar :=
  { name := "migplug"
    flags := [verbose, help]
    options := []
    commands := [connecting "up" [strict], connecting "down" [strict], connecting "show" [strict],
      making] }

def root : Grammar :=
  { name := "ksql"
    flags := [verbose, help, version]
    options := []
    commands := [differing "diff", differing "migrate", connecting "snapshot" [], unitCommands] }

def environmentNames : List String :=
  ["KSQL_DRIVER", "KSQL_FROM_DSN", "KSQL_FROM_DB", "KSQL_TO_DSN", "KSQL_TO_DB", "KSQL_DSN",
    "KSQL_DB"]

end Grammar

end SchemaShift
