import TabPruning.CommandLine.Program
import TabPruning.Proofs.Config.File
import TabPruning.Proofs.Run.Execution

namespace TabPruning

open Machine

variable {s s' : Machine} {f : Failure}

namespace Pruner

variable {p : Pruner} {input : String} {output : Option String}

theorem Ran.tree_of_error (h : p.Ran input output s (.error f) s') : s'.tree = s.tree := by
  cases h
  case unread => rfl
  case refused _ hs hw => rw [tree_of_write_error hw, hs.tree]

theorem tree_of_runLogged_error (h : s.exec (p.runLogged input output) = (.error f, s')) :
    s'.tree = s.tree :=
  (ran_of_runLogged h).tree_of_error

theorem tree_of_runObserved_error {es : List Event}
    (h : (p.runObserved input output : MachineM _).run s = ((.error f, es), s')) :
    s'.tree = s.tree :=
  (ran_of_runObserved h).tree_of_error

end Pruner

namespace CommandLine

theorem PruneOptions.sameFiles_loadConfig (s : Machine) (o : PruneOptions) :
    (s.exec o.loadConfig).2.SameFiles s := by
  have h := Config.sameFiles_loadOrDefault s (o.configPath.getD defaultConfigPath)
  rw [loadConfig, exec_bind]
  split
  case h_1 hl => rw [hl] at h; exact h
  case h_2 hl => rw [hl] at h; exact h

theorem PruneOptions.exec_prune (s : Machine) (o : PruneOptions) (input : String) :
    s.exec (o.prune input) =
      match s.exec o.loadConfig with
      | (.error f, s) => (.error f, s)
      | (.ok c, s)    =>
        let s := { s with threshold := c.logLevel }
        match c.pruner with
        | .error f => (.error f, s)
        | .ok p    =>
          match s.exec (p.runLogged input o.output) with
          | (.error f, s) => (.error (f.within s!"Failed to prune {quoted input}"), s)
          | (.ok r, s)    =>
            (.ok (), if r.log.hasUnclosed then
                s.log (.warn "At least one block never closed; everything after it was removed")
              else s) := by
  rw [prune, exec_bind]
  rcases s.exec o.loadConfig with ⟨_ | c, s⟩
  case error => rfl
  case ok =>
    simp only [exec_bind, exec_setThreshold]
    cases c.pruner
    case error => rfl
    case ok p =>
      simp only [exec_bind, exec_pure, exec_adapt]
      rcases Machine.exec _ (p.runLogged input o.output) with ⟨_ | r, s⟩
      case error => rfl
      case ok => cases hu : r.log.hasUnclosed <;> simp [hu, Except.mapError]

theorem PruneOptions.tree_of_prune_error {o : PruneOptions} {input : String}
    (h : s.exec (o.prune input) = (.error f, s')) : s'.tree = s.tree := by
  have hl := (sameFiles_loadConfig s o).tree
  rw [exec_prune] at h
  rcases hc : s.exec o.loadConfig with ⟨_ | c, s₁⟩ <;> rw [hc] at h hl
  case error => cases h; exact hl
  case ok =>
    simp only at h hl
    split at h
    case h_1 => cases h; exact hl
    case h_2 =>
      split at h <;> cases h
      case h_1 hr => rw [Pruner.tree_of_runLogged_error hr, hl]

theorem tree_of_createConfig_error {path : String} {force : Bool}
    (h : s.exec (createConfig path force) = (.error f, s')) : s'.tree = s.tree := by
  rw [createConfig, exec_bind] at h
  split at h
  case h_1 => cases h
  case h_2 hs => cases h; exact Config.tree_of_saveDefault_error hs

-- The exit code of a job tells whether it failed.
theorem tree_of_ofExcept {job : ExceptT Failure MachineM Unit} {e : Ending}
    (hj : ∀ f s', s.exec job = (.error f, s') → s'.tree = s.tree)
    (h : (do return Ending.ofExcept (← job.run) : MachineM _).run s = (e, s'))
    (he : e.exitCode ≠ 0) : s'.tree = s.tree := by
  change (Ending.ofExcept (s.exec job).1, (s.exec job).2) = (e, s') at h
  rcases hr : s.exec job with ⟨f | _, s₁⟩ <;> rw [hr] at h <;> cases h
  case error => exact hj _ _ hr
  case ok => cases he rfl

theorem tree_of_command {c : Command} {e : Ending} (h : (c.run : MachineM _).run s = (e, s'))
    (he : e.exitCode ≠ 0) : s'.tree = s.tree := by
  cases c
  case prune o =>
    rw [Command.run] at h
    cases hi : o.input <;> rw [hi] at h
    case none => cases h; rfl
    case some => exact tree_of_ofExcept (fun _ _ => PruneOptions.tree_of_prune_error) h he
  case initConfig => exact tree_of_ofExcept (fun _ _ => tree_of_createConfig_error) h he
  case completions => cases h; rfl

theorem tree_of_run {args : List String} {e : Ending}
    (h : (run args : MachineM _).run s = (e, s')) (he : e.exitCode ≠ 0) : s'.tree = s.tree := by
  rw [run, StateT.run_bind] at h
  cases hc : Command.ofArguments args <;> rw [hc] at h
  case ok c => exact @tree_of_command { s with threshold := .info } s' c e h he
  case error i => cases i <;> cases h <;> rfl

end CommandLine

-- Every way to fail, from a single write to the command line. A failed write is undone, and nothing
-- that can fail comes after a write.
theorem failure_leaves_tree (s s' : Machine) :
    (∀ mode path text f, s.write mode path text = (.error f, s') → s'.tree = s.tree) ∧
    (∀ (c : Config) path f, s.exec (c.save path) = (.error f, s') → s'.tree = s.tree) ∧
    (∀ path force f, s.exec (Config.saveDefault path force) = (.error f, s') →
      s'.tree = s.tree) ∧
    (∀ (p : Pruner) input output f, s.exec (p.runLogged input output) = (.error f, s') →
      s'.tree = s.tree) ∧
    (∀ (p : Pruner) input output f es,
      (p.runObserved input output : MachineM _).run s = ((.error f, es), s') →
      s'.tree = s.tree) ∧
    (∀ args e, (CommandLine.run args : MachineM _).run s = (e, s') → e.exitCode ≠ 0 →
      s'.tree = s.tree) :=
  ⟨fun _ _ _ _ => tree_of_write_error,
    fun _ _ _ => Config.tree_of_save_error,
    fun _ _ _ => Config.tree_of_saveDefault_error,
    fun _ _ _ _ => Pruner.tree_of_runLogged_error,
    fun _ _ _ _ _ => Pruner.tree_of_runObserved_error,
    fun _ _ => CommandLine.tree_of_run⟩

-- A directory stands where files are to be written, and the input is missing.
theorem failure_leaves_tree_beside_directory :
    let s : Machine :=
      { tree := FileTree.empty.set ["tabs"] (.directory 0o755), workingDirectory := [] }
    let p : Pruner := { config := {}, sound := by decide }
    (∃ f s', s.write .atomic "tabs" "x" = (.error f, s') ∧ s'.tree = s.tree) ∧
    (∃ f s', s.exec (({} : Config).save "tabs") = (.error f, s') ∧ s'.tree = s.tree) ∧
    (∃ f s', s.exec (Config.saveDefault "tabs" false) = (.error f, s') ∧ s'.tree = s.tree) ∧
    (∃ f s', s.exec (p.runLogged "in.ts" none) = (.error f, s') ∧ s'.tree = s.tree) ∧
    (∃ f es s', (p.runObserved "in.ts" none : MachineM _).run s = ((.error f, es), s') ∧
      s'.tree = s.tree) ∧
    (∃ e s', (CommandLine.run [] : MachineM _).run s = (e, s') ∧ e.exitCode ≠ 0 ∧
      s'.tree = s.tree) := by
  intro s p
  have hs : FileTree.steps "tabs" = ["tabs"] := by decide
  have hr (u : Purpose) : s.tree.resolve u [] "tabs" = .ok (.directory ["tabs"]) := by
    rw [FileTree.resolve, if_neg (by decide), hs, FileTree.walk]
    cases u <;> exact FileTree.walk.eq_1 ..
  have hw : s.write .atomic "tabs" "x" = (.error .isDirectory, s) := by
    have hn : s.tree.named? [] "tabs" = some ["tabs"] := FileTree.named?_eq_some_iff.mpr
      ⟨[], "tabs", [], hs, by decide, .done, rfl⟩
    have hd : s.tree.resolveDirectory (FileTree.start [] (Path.directory "tabs"))
        (FileTree.steps (Path.directory "tabs")) = .ok [] :=
      FileTree.resolveDirectory_eq_ok_iff.mpr <| .stay (.inr rfl) .done
    rw [write, (FileTree.replace_of_named? _ _ hd hn).1 0o755 rfl]
  obtain ⟨_, hi⟩ : ∃ f, s.exec (({} : Config).save "tabs") = (.error f, s) :=
    ⟨_, by rw [Config.exec_save, write, FileTree.overwrite, hr]⟩
  have he : s.exists? "tabs" = true := by rw [exists?, FileTree.exists?, hr]
  obtain ⟨_, hx⟩ : ∃ f, s.exec (Config.saveDefault "tabs" false) = (.error f, s) :=
    ⟨_, by rw [Config.exec_saveDefault, he]; rfl⟩
  have hm : s.readText "in.ts" = .error .noSuchFile := by
    have hf : s.tree.resolve .use [] "in.ts" = .ok (.free ["in.ts"]) :=
      FileTree.Walks.resolve (.arrive (by decide) rfl) (by decide)
    rw [readText, FileTree.readText, hf]
  obtain ⟨_, hl⟩ : ∃ f, s.exec (p.runLogged "in.ts" none) = (.error f, s) :=
    ⟨_, by rw [Pruner.exec_runLogged, hm]⟩
  obtain ⟨_, ho⟩ : ∃ f, (p.runObserved "in.ts" none : MachineM _).run s = ((.error f, []), s) :=
    ⟨_, by rw [Pruner.run_runObserved, hm]⟩
  obtain ⟨_, hc⟩ : ∃ f, (CommandLine.run [] : MachineM _).run s = (.failure f, s) := ⟨_, rfl⟩
  have h := failure_leaves_tree s s
  exact ⟨⟨_, _, hw, h.1 _ _ _ _ hw⟩, ⟨_, _, hi, h.2.1 _ _ _ hi⟩, ⟨_, _, hx, h.2.2.1 _ _ _ hx⟩,
    ⟨_, _, hl, h.2.2.2.1 _ _ _ _ hl⟩, ⟨_, _, _, ho, h.2.2.2.2.1 _ _ _ _ _ ho⟩,
    ⟨_, _, hc, Nat.one_ne_zero, h.2.2.2.2.2 _ _ hc Nat.one_ne_zero⟩⟩

end TabPruning
