import TabPruning.Proofs.Config.File

namespace TabPruning

-- A path that leads to nothing that is there may still lead to the place of a new file.
theorem FileTree.get?_of_led? {t : FileTree} {here place : Place} {path : String}
    (he : t.exists? here path = false) (h : t.led? here path = some place) :
    t.get? place = none := by
  have ⟨target, hr, hl⟩ := led?_eq_some_iff.mp h
  obtain ⟨hg, _⟩ | ⟨content, mode, _, rfl⟩ := leaf?_eq_some_iff.mp hl
  case inl => exact hg
  case inr => simp [exists?, hr] at he

namespace Config

open Machine

variable {c : Config} {s s' : Machine} {path : String}
variable {p : Place} {content : ByteArray} {mode : Nat}

theorem exists_place_of_save (h : s.exec (c.save path) = (.ok (), s')) :
    ∃ place mode, s.tree.led? s.workingDirectory path = some place ∧
      s' = { s with tree := s.tree.set place (.file c.toText.toUTF8 mode) } := by
  have ⟨place, mode, hd, hs, _⟩ := write_ok <| write_of_save h
  exact ⟨place, mode, hd, hs⟩

theorem save_of_saveDefault {force : Bool} (h : s.exec (saveDefault path force) = (.ok (), s')) :
    s.exec (save {} path) = (.ok (), s') ∧ (s.exists? path = false ∨ force) := by
  rw [exec_saveDefault] at h
  split at h
  case isTrue => cases h
  case isFalse he => exact ⟨h, by simpa [Classical.or_iff_not_imp_left] using he⟩

-- Loading the file that was saved finds it, and so does not say that there is none.
theorem exec_loadOrDefault_of_save (h : s.exec (c.save path) = (.ok (), s')) :
    s'.exec (loadOrDefault path) = (.ok c, s') := by
  rw [exec_loadOrDefault, exec_load?_of_save h]

theorem get?_of_saveDefault (hp : s.tree.get? p = some (.file content mode)) :
    (s.exec (saveDefault path false)).2.tree.get? p = some (.file content mode) := by
  rcases h : s.exec (saveDefault path false) with ⟨_ | _, s'⟩
  case error => rw [tree_of_saveDefault_error h, hp]
  case ok =>
    have ⟨hs, he⟩ := save_of_saveDefault h
    obtain ⟨place, mode', hl, rfl⟩ := exists_place_of_save hs
    have hn := FileTree.get?_of_led? (he.resolve_right nofun) hl
    have hne : p ≠ place := by
      rintro rfl
      cases hn.symm.trans hp
    rw [FileTree.get?_set, if_neg hne, hp]

-- Without force there is an error if the path leads to something, and in any case every file that
-- there was is as it was. If the settings are written, they are what the path is found to hold, and
-- no other entry has changed.
theorem saveDefault_spares_files (s : Machine) (path : String) :
    ((∃ place content mode, s.tree.resolve .use s.workingDirectory path =
        .ok (.file place content mode)) ∨
      (∃ place, s.tree.resolve .use s.workingDirectory path = .ok (.directory place)) →
      s.exec (saveDefault path false) = (.error (.plain
        s!"Config file already exists: {quoted path}. Use --force to overwrite."), s)) ∧
    (∀ p content mode, s.tree.get? p = some (.file content mode) →
      (s.exec (saveDefault path false)).2.tree.get? p = some (.file content mode)) ∧
    ∀ force s', s.exec (saveDefault path force) = (.ok (), s') →
      s'.exec (load? path) = (.ok (some {}), s') ∧ s'.exec (loadOrDefault path) = (.ok {}, s') ∧
      ∃ place mode, s'.tree.resolve .use s'.workingDirectory path =
          .ok (.file place (toText {}).toUTF8 mode) ∧
        ∀ p ≠ place, s'.tree.get? p = s.tree.get? p := by
  refine ⟨fun h => ?found, fun _ _ _ => get?_of_saveDefault, fun force s' h => ?written⟩
  case found =>
    have he : s.exists? path := by
      obtain ⟨_, _, _, hr⟩ | ⟨_, hr⟩ := h <;> rw [Machine.exists?, FileTree.exists?, hr]
    simp [exec_saveDefault, he]
  case written =>
    obtain ⟨hs, _⟩ := save_of_saveDefault h
    refine ⟨exec_load?_of_save hs, exec_loadOrDefault_of_save hs, ?_⟩
    obtain ⟨place, mode, hl, rfl⟩ := exists_place_of_save hs
    refine ⟨place, mode, FileTree.resolve_set_of_led? hl, fun p hp => ?_⟩
    rw [FileTree.get?_set, if_neg hp]

-- A link that leads to nothing stays, and the new file to which it leads is spared in its turn.
theorem saveDefault_spares_files_behind_link :
    let tree := (FileTree.empty.set ["a"] (.link "b")).set ["c"] (.file "x".toUTF8 0o600)
    let s : Machine := { tree, workingDirectory := [] }
    let s' := { s with tree := tree.set ["b"] (.file (toText {}).toUTF8 0o644) }
    s.exec (saveDefault "a" false) = (.ok (), s') ∧
      s'.tree.get? ["c"] = some (.file "x".toUTF8 0o600) ∧
      s'.exec (load? "a") = (.ok (some {}), s') ∧ s'.exec (loadOrDefault "a") = (.ok {}, s') ∧
      ∃ f, s'.exec (saveDefault "a" false) = (.error f, s') := by
  intro tree s s'
  have hr : tree.resolve .create [] "a" = .ok (.free ["b"]) := by
    have hs : FileTree.steps "a" = ["a"] := by decide
    have hb : tree.walk .create 39 [] ["b"] = .ok (.free ["b"]) := by
      rw [FileTree.walk]
      rfl
    rw [FileTree.resolve, if_neg (by decide), hs, FileTree.walk]
    exact hb
  have he : s.exists? "a" = false := by
    rw [Machine.exists?, FileTree.exists?, FileTree.resolve_use_of_resolve hr]
  have hw : s.write .inPlace "a" (toText {}) = (.ok (), s') := by
    rw [write, FileTree.overwrite, hr]
    rfl
  have h : s.exec (saveDefault "a" false) = (.ok (), s') := by
    rw [exec_saveDefault, he, exec_save, hw]
    rfl
  obtain ⟨_, hf, hs⟩ := saveDefault_spares_files s "a"
  obtain ⟨hl, hd, _, _, hp, _⟩ := hs false s' h
  have hc := hf ["c"] _ _ rfl
  rw [h] at hc
  exact ⟨h, hc, hl, hd, _, (saveDefault_spares_files s' "a").1 <| .inl ⟨_, _, _, hp⟩⟩

end Config

end TabPruning
