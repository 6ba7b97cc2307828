import TabPruning.Config.File
import TabPruning.Machine

namespace TabPruning.Machine

variable {ε ε' α β : Type} {s : Machine}

-- The result of a job that may fail, and the machine after it.
def exec (s : Machine) (job : ExceptT ε MachineM α) : Except ε α × Machine :=
  job.run.run s

-- The machine after it took several records.
def logAll (s : Machine) (rs : List LogRecord) : Machine :=
  rs.foldl log s

-- The files and the place among them are the same, whatever was logged.
structure SameFiles (s s' : Machine) : Prop where
  tree             : s.tree = s'.tree
  workingDirectory : s.workingDirectory = s'.workingDirectory

theorem SameFiles.trans {s s' s'' : Machine} (h : s.SameFiles s') (h' : s'.SameFiles s'') :
    s.SameFiles s'' :=
  ⟨h.tree.trans h'.tree, h.workingDirectory.trans h'.workingDirectory⟩

theorem sameFiles_log (s : Machine) (r : LogRecord) : (s.log r).SameFiles s := by
  rw [log]
  split <;> exact ⟨rfl, rfl⟩

theorem sameFiles_logAll (s : Machine) (rs : List LogRecord) : (s.logAll rs).SameFiles s := by
  induction rs generalizing s
  case nil => exact ⟨rfl, rfl⟩
  case cons r rs ih => exact (ih _).trans (sameFiles_log s r)

@[simp] theorem exec_pure (a : α) : s.exec (pure a : ExceptT ε MachineM α) = (.ok a, s) :=
  rfl

@[simp] theorem exec_throw (e : ε) : s.exec (throw e : ExceptT ε MachineM α) = (.error e, s) :=
  rfl

@[simp] theorem exec_bind (x : ExceptT ε MachineM α) (f : α → ExceptT ε MachineM β) :
    s.exec (x >>= f) =
      match s.exec x with
      | (.ok a, s')    => s'.exec (f a)
      | (.error e, s') => (.error e, s') := by
  rw [exec, ExceptT.run_bind, StateT.run_bind]
  simp only [exec, Bind.bind]
  rcases StateT.run x.run s with ⟨_ | _, s'⟩ <;> rfl

@[simp] theorem exec_adapt (f : ε → ε') (x : ExceptT ε MachineM α) :
    s.exec (x.adapt f) = ((s.exec x).1.mapError f, (s.exec x).2) :=
  rfl

@[simp] theorem exec_readText (path : String) :
    s.exec (Host.readText path : ExceptT ε MachineM _) = (.ok (s.readText path), s) :=
  rfl

@[simp] theorem exec_exists? (path : String) :
    s.exec (Host.exists? path : ExceptT ε MachineM _) = (.ok (s.exists? path), s) :=
  rfl

@[simp] theorem exec_write (mode : WriteMode) (path text : String) :
    s.exec (Host.write mode path text : ExceptT ε MachineM _) =
      (.ok (s.write mode path text).1, (s.write mode path text).2) :=
  rfl

@[simp] theorem exec_setThreshold (l : LogLevel) :
    s.exec (Host.setThreshold l : ExceptT ε MachineM _) = (.ok (), { s with threshold := l }) :=
  rfl

@[simp] theorem exec_log (r : LogRecord) :
    s.exec (Host.log r : ExceptT ε MachineM _) = (.ok (), s.log r) :=
  rfl

@[simp] theorem exec_lift_log (r : LogRecord) :
    s.exec (liftM (Host.log r : MachineM _) : ExceptT ε MachineM _) = (.ok (), s.log r) :=
  rfl

@[simp] theorem exec_logAll (rs : List LogRecord) :
    s.exec (Host.logAll rs : ExceptT ε MachineM _) = (.ok (), s.logAll rs) := by
  induction rs generalizing s
  case nil => rfl
  case cons r rs ih => simpa [Host.logAll, logAll] using ih

end TabPruning.Machine
