import TabPruning.Proofs.Config.Text
import TabPruning.Proofs.Machine.Execution
import TabPruning.Proofs.Machine.Writing

namespace TabPruning.Config

open Machine

variable {c : Config} {s s' : Machine} {path : String}

theorem exec_load? (s : Machine) (path : String) : s.exec (load? path) =
    (if s.exists? path then
      match s.readText path with
      | .error f =>
        .error (Failure.within { cause := .file f } s!"Failed to read config file: {quoted path}")
      | .ok text =>
        match ofText text with
        | .error f => .error (.ofError (.configUnparsable path f))
        | .ok c    => .ok (some c)
    else .ok none, s) := by
  cases he : s.exists? path
  case false => simp [load?, he]
  case true =>
    cases hr : s.readText path
    case error f => simp [load?, he, hr]
    case ok text => cases hc : ofText text <;> simp [load?, he, hr, hc]

theorem exec_save (s : Machine) (c : Config) (path : String) : s.exec (c.save path) =
    match s.write .inPlace path c.toText with
    | (.ok (), s')   => (.ok (), s')
    | (.error f, s') =>
      (.error (Failure.within { cause := .file f }
        s!"Failed to write config to file: {quoted path}"), s') := by
  rcases hw : s.write .inPlace path c.toText with ⟨_ | _, s'⟩ <;> simp [save, hw]

theorem exec_loadOrDefault (s : Machine) (path : String) : s.exec (loadOrDefault path) =
    match s.exec (load? path) with
    | (.ok (some c), s) => (.ok c, s)
    | (.ok none, s)     =>
      (.ok {}, s.log (.warn s!"Config file not found at {quoted path}, using defaults."))
    | (.error f, s)     => (.error f, s) := by
  rw [loadOrDefault, exec_bind]
  rcases s.exec (load? path) with ⟨_ | _ | _, s⟩ <;> rfl

theorem exec_saveDefault (s : Machine) (path : String) (force : Bool) :
    s.exec (saveDefault path force) =
      if s.exists? path && !force then
        (.error (.plain s!"Config file already exists: {quoted path}. Use --force to overwrite."),
          s)
      else s.exec (save {} path) := by
  cases he : s.exists? path <;> cases force <;> simp [saveDefault, he]

-- Loading only reads; at most it logs that there is nothing to read.
theorem sameFiles_loadOrDefault (s : Machine) (path : String) :
    (s.exec (loadOrDefault path)).2.SameFiles s := by
  have hl : (s.exec (load? path)).2 = s := by rw [exec_load?]
  rw [exec_loadOrDefault]
  rcases hr : s.exec (load? path) with ⟨_ | _ | _, _⟩ <;> rw [hr] at hl <;> cases hl
  case error => exact ⟨rfl, rfl⟩
  case ok.none => exact sameFiles_log ..
  case ok.some => exact ⟨rfl, rfl⟩

theorem tree_of_save_error {f : Failure}
    (h : s.exec (c.save path) = (.error f, s')) : s'.tree = s.tree := by
  rw [exec_save] at h
  split at h <;> cases h
  exact tree_of_write_error ‹_›

theorem tree_of_saveDefault_error {force : Bool} {f : Failure}
    (h : s.exec (saveDefault path force) = (.error f, s')) : s'.tree = s.tree := by
  rw [exec_saveDefault] at h
  split at h
  case isTrue => cases h; rfl
  case isFalse => exact tree_of_save_error h

theorem write_of_save (h : s.exec (c.save path) = (.ok (), s')) :
    s.write .inPlace path c.toText = (.ok (), s') := by
  rw [exec_save] at h
  split at h <;> cases h
  assumption

theorem readText_of_save (h : s.exec (c.save path) = (.ok (), s')) :
    s'.readText path = .ok c.toText := by
  obtain ⟨place, perm, hd, rfl, _, _⟩ := write_ok <| write_of_save h
  exact (readText_written_iff hd).mpr <| .inl rfl

theorem exec_load?_of_save (h : s.exec (c.save path) = (.ok (), s')) :
    s'.exec (load? path) = (.ok (some c), s') := by
  have hr := readText_of_save h
  have he : s'.exists? path := FileTree.exists?_of_readText hr
  rw [exec_load?, if_pos he, hr]
  simp only [ofText_toText]

-- Settings survive being written as a text and, whatever files there are, being saved to one.
theorem save_lossless (c : Config) :
    ofText c.toText = .ok c ∧
    ∀ (s s' : Machine) (path : String), s.exec (c.save path) = (.ok (), s') →
      s'.exec (load? path) = (.ok (some c), s') :=
  ⟨c.ofText_toText, fun _ _ _ h => exec_load?_of_save h⟩

-- Among them are settings without markers and with names that hold quotes and control characters.
theorem save_lossless_of_odd_names :
    let c : Config := { markers := [], fields := ["", "a\"b\\", "\n\x01", ""], logLevel := .trace }
    let s : Machine := { tree := .empty, workingDirectory := [] }
    let s' := { s with tree := s.tree.set ["tabs.json"] (.file c.toText.toUTF8 0o644) }
    s.exec (c.save "tabs.json") = (.ok (), s') ∧
      s'.exec (load? "tabs.json") = (.ok (some c), s') := by
  intro c s s'
  have hr : FileTree.empty.resolve .create [] "tabs.json" = .ok (.free ["tabs.json"]) := by
    have hs : FileTree.steps "tabs.json" = ["tabs.json"] := by decide
    rw [FileTree.resolve, if_neg (by decide), hs, FileTree.walk]
    rfl
  have hw : s.write .inPlace "tabs.json" c.toText = (.ok (), s') := by
    rw [write, FileTree.overwrite, hr]
    rfl
  have h : s.exec (c.save "tabs.json") = (.ok (), s') := by rw [exec_save, hw]
  exact ⟨h, (save_lossless c).2 s s' "tabs.json" h⟩

end TabPruning.Config
