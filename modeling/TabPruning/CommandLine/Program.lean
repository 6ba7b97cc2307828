import TabPruning.CommandLine.Command
import TabPruning.Config.File
import TabPruning.Run

namespace TabPruning.CommandLine

inductive Ending
  | success (output : String)
  | failure (f : Failure)
  | usage

namespace Ending

def exitCode : Ending → Nat
  | success _ => 0
  | failure _ => 1
  | usage     => 2

def output : Ending → String
  | success s => s
  | failure _ => ""
  | usage     => ""

def usageText : String :=
  "Usage: tabprune [OPTIONS] [INPUT_PATH]\n" ++
  "       tabprune prune [OPTIONS] <INPUT_PATH>\n" ++
  "       tabprune init-config [-c <CONFIG_PATH>] [-f]\n" ++
  "       tabprune completions <SHELL>\n"

-- What is printed apart from the log when the program did not succeed.
def complaint : Ending → String
  | success _ => ""
  | failure f => f.report ++ "\n"
  | usage     => "error: the arguments cannot be used\n\n" ++ usageText

def ofExcept (result : Except Failure Unit) : Ending :=
  match result with
  | .ok ()   => success ""
  | .error f => failure f

end Ending

def versionText : String :=
  "tabprune 1.0.0\n"

-- One word per line, whatever the shell.
def completionText (_ : Shell) : String :=
  String.join (commandNames.map (· ++ "\n"))

variable {m : Type → Type} [Monad m] [Host m]

namespace PruneOptions

def loadConfig (o : PruneOptions) : ExceptT Failure m Config := do
  let c ← Config.loadOrDefault (o.configPath.getD defaultConfigPath)
  return c.override o.overrides

-- Until the settings are known, records are logged down to the default level.
def prune (o : PruneOptions) (input : String) : ExceptT Failure m Unit := do
  let c ← o.loadConfig
  Host.setThreshold c.logLevel
  let p ← match c.pruner with
    | .ok p    => pure p
    | .error f => throw f
  let report ← (p.runLogged input o.output).adapt (·.within s!"Failed to prune {quoted input}")
  if report.log.hasUnclosed then
    Host.log (.warn "At least one block never closed; everything after it was removed")

end PruneOptions

def createConfig (path : String) (force : Bool) : ExceptT Failure m Unit := do
  Config.saveDefault path force
  Host.log (.info s!"Wrote default config to {quoted path}")

def Command.run : Command → m Ending
  | .prune o               =>
    match o.input with
    | some input => return .ofExcept (← (o.prune input).run)
    | none       =>
      return .failure (.plain "INPUT_PATH is required when no subcommand is specified")
  | .initConfig path force => return .ofExcept (← (createConfig path force).run)
  | .completions shell     => return .success (completionText shell)

def run (args : List String) : m Ending := do
  Host.setThreshold .info
  match Command.ofArguments args with
  | .ok c           => c.run
  | .error .version => return .success versionText
  | .error .help    => return .success Ending.usageText
  | .error .usage   => return .usage

end TabPruning.CommandLine
