import TabPruning.Host

namespace TabPruning.Config

variable {m : Type → Type} [Monad m] [Host m]

-- Nothing if there is no such file.
def load? (path : String) : ExceptT Failure m (Option Config) := do
  if !(← Host.exists? path) then return none
  let text ← match ← Host.readText path with
    | .ok s    => pure s
    | .error f =>
      throw (Failure.within { cause := .file f } s!"Failed to read config file: {quoted path}")
  match ofText text with
  | .ok c    => return some c
  | .error f => throw (.ofError (.configUnparsable path f))

def loadOrDefault (path : String) : ExceptT Failure m Config := do
  match ← load? path with
  | some c => return c
  | none   =>
    Host.log (.warn s!"Config file not found at {quoted path}, using defaults.")
    return {}

def save (c : Config) (path : String) : ExceptT Failure m Unit := do
  match ← Host.write .inPlace path c.toText with
  | .ok ()   => return
  | .error f =>
    throw (Failure.within { cause := .file f } s!"Failed to write config to file: {quoted path}")

-- Writes the default settings; only with `force` over a file that is there.
def saveDefault (path : String) (force : Bool) : ExceptT Failure m Unit := do
  if (← Host.exists? path) && !force then
    throw (.plain s!"Config file already exists: {quoted path}. Use --force to overwrite.")
  save {} path

end TabPruning.Config
