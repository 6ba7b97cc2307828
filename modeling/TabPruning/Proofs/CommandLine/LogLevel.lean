import TabPruning.CommandLine.Program
import TabPruning.Proofs.Config.File
import TabPruning.Proofs.Machine.Logging
import TabPruning.Proofs.Run.Execution

namespace TabPruning

open Machine

namespace Config

-- The same settings with another level.
def withLevel (c : Config) (l : LogLevel) : Config :=
  { c with logLevel := l }

-- What is logged of loading settings from here: at most that there are none.
def loadingRecords (s : Machine) (path : String) : List LogRecord :=
  if s.exists? path then []
  else [.warn s!"Config file not found at {quoted path}, using defaults."]

-- At the level of the start, all of it is logged.
theorem pick_loadingRecords (s : Machine) (path : String) :
    LogLevel.pick .info (loadingRecords s path) = loadingRecords s path := by
  rw [loadingRecords]
  split <;> rfl

theorem says_load? (s : Machine) (path : String) :
    s.Says (load? path) [] (s.exec (load? path)).1 s.tree :=
  .of_silent fun _ _ => by
    rw [exec_load?, exec_load?]
    rfl

theorem exec_load?_eq_none_iff {s : Machine} {path : String} :
    (s.exec (load? path)).1 = .ok none ↔ s.exists? path = false := by
  rw [exec_load?]
  cases s.exists? path
  case false => simp
  case true =>
    simp only [if_true]
    split
    case h_1 => simp
    case h_2 => split <;> simp

theorem says_loadOrDefault (s : Machine) (path : String) :
    ∃ result, s.Says (loadOrDefault path) (loadingRecords s path) result s.tree := by
  have hl := says_load? s path
  have hn := @exec_load?_eq_none_iff s path
  rw [loadOrDefault, loadingRecords]
  rcases hr : (s.exec (load? path)).1 with f | _ | c <;> rw [hr] at hl hn
  case error =>
    rw [if_pos (by simpa using hn)]
    exact ⟨_, hl.bind_error⟩
  case ok.none =>
    rw [if_neg (by simpa using hn)]
    exact ⟨_, hl.bind_ok <| .bind_ok (.log _) (.pure _)⟩
  case ok.some =>
    rw [if_pos (by simpa using hn)]
    exact ⟨_, hl.bind_ok (.pure c)⟩

end Config

namespace Pruner

def withLevel (p : Pruner) (l : LogLevel) : Pruner where
  config := p.config.withLevel l
  sound  := p.sound

theorem ignoresLevel_forM_record (es : List Event) : IgnoresLevel
    (es.forM fun e => (liftM (Host.log e.record : MachineM _) : ExceptT Failure MachineM _)) :=
  fun _ => ⟨_, _, _, .of_logAll fun _ => exec_forM_record es⟩

theorem ignoresLevel_runLogged (p : Pruner) (input : String) (output : Option String) :
    IgnoresLevel (p.runLogged input output : ExceptT Failure MachineM Report) := by
  rw [runLogged, Pruner.run]
  refine .bind (.readText input) fun content? => ?_
  cases content?
  case error => exact .throw_bind _
  case ok content =>
    refine .bind (.pure content) fun content => .bind (.logAll _) fun _ =>
      .bind (ignoresLevel_forM_record _) fun _ => ?_
    dsimp only
    split
    case isFalse => exact .bind (.lift_log _) fun _ => .pure _
    case isTrue =>
      refine .bind (IgnoresLevel.write _ _ _) fun result => ?_
      cases result
      case error => exact .throw_bind _
      case ok    => exact .bind (.log _) fun _ => .bind (.lift_log _) fun _ => .pure _

end Pruner

theorem Config.pruner_withLevel (c : Config) (l : LogLevel) :
    (c.withLevel l).pruner = c.pruner.map (·.withLevel l) := by
  unfold pruner
  split
  case h_1 hd =>
    split
    case h_1 hd' => cases hd.symm.trans hd'; rfl
    case h_2 hd' => cases hd.symm.trans hd'
  case h_2 hd =>
    split
    case h_1 hd' => cases hd.symm.trans hd'
    case h_2     => rfl

namespace CommandLine

namespace PruneOptions

-- The same options with this level, whatever level they had.
def withLevel (o : PruneOptions) (l : LogLevel) : PruneOptions :=
  { o with overrides.logLevel := some l }

-- What pruning does once the settings are known.
def pruneWith (o : PruneOptions) (input : String) (c : Config) : ExceptT Failure MachineM Unit := do
  let p ← match c.pruner with
    | .ok p    => pure p
    | .error f => throw f
  let report ← (p.runLogged input o.output).adapt (·.within s!"Failed to prune {quoted input}")
  if report.log.hasUnclosed then
    Host.log (.warn "At least one block never closed; everything after it was removed")

theorem prune_eq (o : PruneOptions) (input : String) :
    (o.prune input : ExceptT Failure MachineM Unit) = (do
      let c ← o.loadConfig
      Host.setThreshold c.logLevel
      o.pruneWith input c) :=
  rfl

-- Nothing that comes after the settings asks for the level.
theorem ignoresLevel_pruneWith (o : PruneOptions) (input : String) (c : Config) :
    IgnoresLevel (o.pruneWith input c) := by
  rw [pruneWith]
  cases c.pruner
  case error => exact .throw_bind _
  case ok p =>
    refine .bind (.pure p) fun p => .bind (.adapt (p.ignoresLevel_runLogged _ _)) fun report => ?_
    split
    case isTrue  => exact .log _
    case isFalse => exact .pure _

theorem pruneWith_withLevel (o : PruneOptions) (input : String) (c : Config) (l : LogLevel) :
    (o.withLevel l).pruneWith input (c.withLevel l) = o.pruneWith input c := by
  rw [pruneWith, pruneWith, Config.pruner_withLevel]
  cases c.pruner <;> rfl

-- Where settings are looked for.
def settingsPath (o : PruneOptions) : String :=
  o.configPath.getD defaultConfigPath

theorem says_loadConfig (s : Machine) (o : PruneOptions) :
    ∃ loaded : Except Failure Config, ∀ l, s.Says (o.withLevel l).loadConfig
      (Config.loadingRecords s o.settingsPath) (loaded.map (·.withLevel l)) s.tree := by
  obtain ⟨loaded, h⟩ := Config.says_loadOrDefault s o.settingsPath
  refine ⟨loaded.map (·.override o.overrides), fun l => ?_⟩
  cases loaded
  case error => exact h.bind_error
  case ok c =>
    rw [← List.append_nil (Config.loadingRecords ..)]
    exact h.bind_ok <| .pure _

-- Whatever level is given, pruning comes to the same result and leaves the same files; and it logs
-- the same records as long as it loads settings, then those that the level picks from the same.
theorem exists_exec_prune (s : Machine) (o : PruneOptions) (input : String) :
    ∃ result tree later, ∀ l, ∃ threshold,
      { s with threshold := .info }.exec ((o.withLevel l).prune input) =
        (result, { s with
          tree, threshold
          journal := s.journal ++ Config.loadingRecords s o.settingsPath ++ l.pick later }) := by
  obtain ⟨_ | c, hc⟩ := says_loadConfig s o
  case error f =>
    -- The run ends before the level is set.
    refine ⟨.error f, s.tree, [], fun l => ⟨.info, ?_⟩⟩
    rw [prune_eq, exec_bind, hc l, Config.pick_loadingRecords, LogLevel.pick_nil, List.append_nil]
    rfl
  case ok =>
    obtain ⟨later, result, tree, hp⟩ := ignoresLevel_pruneWith o input c s
    refine ⟨result, tree, later, fun l => ⟨l, ?_⟩⟩
    rw [prune_eq, exec_bind, hc l, Config.pick_loadingRecords]
    simp only [Except.map, exec_bind, exec_setThreshold, pruneWith_withLevel]
    exact hp l _

-- What is logged of loading settings by a run that gets as far as that.
def loadingRecords (o : PruneOptions) (s : Machine) : List LogRecord :=
  if o.input.isSome then Config.loadingRecords s o.settingsPath else []

theorem loadingRecords_allowedBy_iff {o : PruneOptions} {s : Machine} {l : LogLevel} :
    (∀ r ∈ o.loadingRecords s, r.level.allowedBy l) ↔
      (o.input.isSome → s.exists? o.settingsPath ∨ l ≠ .error) := by
  have hw : LogLevel.warn.allowedBy l ↔ l ≠ .error := by cases l <;> decide
  rw [loadingRecords, Config.loadingRecords, ← hw]
  cases o.input.isSome <;> cases s.exists? o.settingsPath <;> simp [LogRecord.warn]

end PruneOptions

variable {o : PruneOptions} {l l' : LogLevel} {args args' : List String}

theorem run_of_ofArguments {c : Command} (h : Command.ofArguments args = .ok c) (s : Machine) :
    (run args : MachineM _).run s = (c.run : MachineM _).run { s with threshold := .info } := by
  rw [run, StateT.run_bind, h]
  rfl

theorem Command.run_prune {input : String} (hi : o.input = some input) (s : Machine) :
    (Command.run (.prune o) : MachineM _).run s =
      (.ofExcept (s.exec (o.prune input)).1, (s.exec (o.prune input)).2) := by
  rw [Command.run, hi]
  rfl

-- A run without an input fails at once; any other is that of pruning.
theorem exists_run (s : Machine) (o : PruneOptions) :
    ∃ e tree later, ∀ l args, Command.ofArguments args = .ok (.prune (o.withLevel l)) →
      ∃ threshold, (run args : MachineM _).run s = (e, { s with
        tree, threshold, journal := s.journal ++ o.loadingRecords s ++ l.pick later }) := by
  rw [PruneOptions.loadingRecords]
  cases hi : o.input
  case none =>
    refine ⟨.failure (.plain "INPUT_PATH is required when no subcommand is specified"), s.tree, [],
      fun l args h => ⟨.info, ?_⟩⟩
    have hi : (o.withLevel l).input = none := hi
    rw [run_of_ofArguments h, Command.run, hi, Option.isSome_none, if_neg nofun,
      LogLevel.pick_nil, List.append_nil, List.append_nil]
    rfl
  case some input =>
    obtain ⟨result, tree, later, hp⟩ := o.exists_exec_prune s input
    refine ⟨Ending.ofExcept result, tree, later, fun l args h => ?_⟩
    obtain ⟨threshold, hp⟩ := hp l
    refine ⟨threshold, ?_⟩
    have hi : (o.withLevel l).input = some input := hi
    rw [run_of_ofArguments h, Command.run_prune hi, hp]
    rfl

-- Two runs of pruning that differ in nothing but the level come to the same ending, which settles
-- the exit code, the output and the failure shown, and leave the same files; and the run at the
-- less talkative level logs some of the lines of the other in their order.
theorem level_only_picks_records (s : Machine)
    (h : Command.ofArguments args = .ok (.prune (o.withLevel l)))
    (h' : Command.ofArguments args' = .ok (.prune (o.withLevel l'))) :
    ∃ e t t' lines lines', (run args : MachineM _).run s = (e, t) ∧
      (run args' : MachineM _).run s = (e, t') ∧ t.SameFiles t' ∧
      t.journal = s.journal ++ lines ∧ t'.journal = s.journal ++ lines' ∧
      (l.verbosity ≤ l'.verbosity → lines.Sublist lines') := by
  obtain ⟨e, tree, later, hr⟩ := exists_run s o
  obtain ⟨_, ht⟩ := hr l args h
  obtain ⟨_, ht'⟩ := hr l' args' h'
  refine ⟨e, _, _, o.loadingRecords s ++ l.pick later, o.loadingRecords s ++ l'.pick later, ht, ht',
    ⟨rfl, rfl⟩, List.append_assoc .., List.append_assoc .., fun hl => ?_⟩
  exact (LogLevel.pick_sublist_pick (decide_eq_true hl) later).append_left _

-- No settings are on file here.
def unsettled : Machine where
  tree := FileTree.empty.set ["in.ts"] (.file "activeTab\n".toUTF8 0o644)
  workingDirectory := []

theorem level_only_picks_records_of_spelled_levels :
    let o : PruneOptions := { input := some "in.ts" }
    let args := ["in.ts", "-lerror"]
    let args' := ["prune", "--log-level=trace", "in.ts"]
    Command.ofArguments args = .ok (.prune (o.withLevel .error)) ∧
      Command.ofArguments args' = .ok (.prune (o.withLevel .trace)) ∧
      ∃ e t t', (run args : MachineM _).run unsettled = (e, t) ∧
        (run args' : MachineM _).run unsettled = (e, t') ∧ t.SameFiles t' ∧
        t.journal.Sublist t'.journal := by
  intro o args args'
  have h : Command.ofArguments args = .ok (.prune (o.withLevel .error)) := rfl
  have h' : Command.ofArguments args' = .ok (.prune (o.withLevel .trace)) := rfl
  obtain ⟨e, t, t', _, _, hr, hr', hs, hj, hj', hl⟩ := level_only_picks_records unsettled h h'
  refine ⟨h, h', e, t, t', hr, hr', hs, ?_⟩
  rw [hj, hj']
  exact hl (by decide)

-- No line of a run is less severe than the level it was given, unless there are no settings to load
-- and the level is the most severe; then the only such line says that there are none.
theorem level_honoured_iff (s : Machine)
    (h : Command.ofArguments args = .ok (.prune (o.withLevel l))) :
    ∃ e t lines, (run args : MachineM _).run s = (e, t) ∧ t.journal = s.journal ++ lines ∧
      ((∀ r ∈ lines, r.level.allowedBy l) ↔
        (o.input.isSome → s.exists? o.settingsPath ∨ l ≠ .error)) ∧
      ∃ later, lines = o.loadingRecords s ++ later ∧ ∀ r ∈ later, r.level.allowedBy l := by
  obtain ⟨e, tree, later, hr⟩ := exists_run s o
  obtain ⟨_, ht⟩ := hr l args h
  refine ⟨e, _, o.loadingRecords s ++ l.pick later, ht, List.append_assoc .., ?_,
    l.pick later, rfl, LogLevel.allowedBy_of_mem_pick⟩
  rw [List.forall_mem_append, PruneOptions.loadingRecords_allowedBy_iff]
  exact and_iff_left LogLevel.allowedBy_of_mem_pick

-- Settings on file, though they ask for more, do not come before the level that is given.
theorem level_honoured_over_settings :
    let s : Machine :=
      { tree := unsettled.tree.set ["tabprune.json"]
          (.file "\x7b\"log_level\":\"trace\"\x7d".toUTF8 0o644)
        workingDirectory := [] }
    let o : PruneOptions := { input := some "in.ts" }
    Command.ofArguments ["-l", "error", "in.ts"] = .ok (.prune (o.withLevel .error)) ∧
      ∃ e t, (run ["-l", "error", "in.ts"] : MachineM _).run s = (e, t) ∧
        ∀ r ∈ t.journal, r.level.allowedBy .error := by
  intro s o
  have h : Command.ofArguments ["-l", "error", "in.ts"] = .ok (.prune (o.withLevel .error)) := rfl
  have he : s.exists? (o.withLevel .error).settingsPath := by
    have hr : s.tree.resolve .use [] "tabprune.json" = .ok (.file ["tabprune.json"] _ _) :=
      FileTree.Walks.resolve (.arrive (by decide) rfl) (by decide)
    change s.exists? "tabprune.json"
    rw [Machine.exists?, FileTree.exists?, hr]
  obtain ⟨e, t, lines, hr, hj, hl, _⟩ := level_honoured_iff s h
  refine ⟨h, e, t, hr, ?_⟩
  rw [hj]
  exact hl.mpr fun _ => .inl he

-- Without settings on file, a warning is logged though only errors are asked for.
theorem level_not_honoured_without_settings :
    let o : PruneOptions := { input := some "in.ts" }
    let r : LogRecord := .warn "Config file not found at \"tabprune.json\", using defaults."
    Command.ofArguments ["-l", "error", "in.ts"] = .ok (.prune (o.withLevel .error)) ∧
      r ∈ ((run ["-l", "error", "in.ts"] : MachineM _).run unsettled).2.journal ∧
      r.level.allowedBy .error = false := by
  intro o r
  have h : Command.ofArguments ["-l", "error", "in.ts"] = .ok (.prune (o.withLevel .error)) := rfl
  have he : unsettled.exists? "tabprune.json" = false := by
    have hr : unsettled.tree.resolve .use unsettled.workingDirectory "tabprune.json" =
        .ok (.free ["tabprune.json"]) :=
      FileTree.Walks.resolve (.arrive (by decide) rfl) (by decide)
    rw [Machine.exists?, FileTree.exists?, hr]
  have hl : o.loadingRecords unsettled = [r] := by
    change (if unsettled.exists? "tabprune.json" then [] else _) = _
    rw [he]
    decide +kernel
  obtain ⟨_, _, _, hr⟩ := exists_run unsettled o
  obtain ⟨_, ht⟩ := hr .error _ h
  rw [ht, hl]
  exact ⟨h, List.mem_append_left _ (.head _), rfl⟩

end CommandLine

end TabPruning
