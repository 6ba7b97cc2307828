import TabPruning.Failure

namespace TabPruning

-- What the program asks of the system that it runs on.
class Host (m : Type → Type) where
  readText : String → m (Except FileFault String)
  -- Whether a path leads to a file or directory.
  exists? : String → m Bool
  write : WriteMode → String → String → m (Except FileFault Unit)
  -- From now on, only records that this level allows are taken.
  setThreshold : LogLevel → m Unit
  log : LogRecord → m Unit

namespace Host

variable {m : Type → Type} [Monad m] [Host m]

def logAll (rs : List LogRecord) : m Unit :=
  rs.forM log

end Host

-- What runs on a host may also keep a state and fail.
instance {m : Type → Type} [Monad m] [Host m] : Host (StateT σ m) where
  readText p := StateT.lift (Host.readText p)
  exists? p := StateT.lift (Host.exists? p)
  write mode p text := StateT.lift (Host.write mode p text)
  setThreshold l := StateT.lift (Host.setThreshold l)
  log r := StateT.lift (Host.log r)

instance {m : Type → Type} [Monad m] [Host m] : Host (ExceptT ε m) where
  readText p := ExceptT.lift (Host.readText p)
  exists? p := ExceptT.lift (Host.exists? p)
  write mode p text := ExceptT.lift (Host.write mode p text)
  setThreshold l := ExceptT.lift (Host.setThreshold l)
  log r := ExceptT.lift (Host.log r)

end TabPruning
