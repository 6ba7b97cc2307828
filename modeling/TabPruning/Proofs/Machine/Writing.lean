import TabPruning.Machine
import TabPruning.Proofs.Files.Writing

namespace TabPruning

namespace FileTree

variable {t : FileTree} {here p : Place} {path text : String} {mode : Nat}

theorem fromUTF8?_toUTF8 (s : String) : String.fromUTF8? s.toUTF8 = some s := by
  rw [String.fromUTF8?, String.toUTF8, dif_pos s.isValidUTF8]
  rfl

theorem readText_of_resolve (h : t.resolve .use here path = .ok (.file p text.toUTF8 mode)) :
    t.readText here path = .ok text := by
  rw [readText, h]
  simp only [fromUTF8?_toUTF8]

theorem resolve_of_readText (h : t.readText here path = .ok text) :
    ∃ target, t.resolve .use here path = .ok target := by
  rw [readText] at h
  split at h
  case h_1 hr => exact ⟨_, hr⟩
  all_goals cases h

-- What can be read is there.
theorem exists?_of_readText (h : t.readText here path = .ok text) : t.exists? here path := by
  rw [readText] at h
  rw [exists?]
  split at h
  case h_1 hr => rfl
  all_goals cases h

end FileTree

namespace Machine

-- The place of the file that a write makes or changes.
def destination? (s : Machine) (mode : WriteMode) (path : String) : Option Place :=
  match mode with
  | .inPlace => s.tree.led? s.workingDirectory path
  | .atomic  => s.tree.named? s.workingDirectory path

-- The path leads to what is written. A link that is replaced must not be on the way there.
def Reaches (s : Machine) (mode : WriteMode) (path : String) (place : Place) : Prop :=
  mode = .inPlace ∨ (s.tree.erase place).named? s.workingDirectory path = some place

-- What is left by a write: its destination holds the text, with the mode of the file to which the
-- path led before, if there was one, and everything else is as it was.
structure Written (s s' : Machine) (mode : WriteMode) (path text : String) (place : Place) :
    Prop where
  destination : s.destination? mode path = some place
  content     : ∃ perm, s'.tree.get? place = some (.file text.toUTF8 perm)
  mode_kept   : ∀ p c m, s.tree.resolve .use s.workingDirectory path = .ok (.file p c m) →
    s'.tree.get? place = some (.file text.toUTF8 m)
  others      : ∀ p ≠ place, s'.tree.get? p = s.tree.get? p
  reading     : s'.readText path = .ok text ↔ s.Reaches mode path place
  reaches     : s.Reaches mode path place ∨ ∃ link, s.tree.get? place = some (.link link)

variable {s s' : Machine} {mode : WriteMode} {path text : String} {place : Place}

theorem write_ok (h : s.write mode path text = (.ok (), s')) :
    ∃ place perm, s.destination? mode path = some place ∧
      s' = { s with tree := s.tree.set place (.file text.toUTF8 perm) } ∧
      (s.Reaches mode path place ∨ ∃ link, s.tree.get? place = some (.link link)) ∧
      ∀ p c m, s.tree.resolve .use s.workingDirectory path = .ok (.file p c m) → perm = m := by
  cases mode
  case inPlace =>
    rw [write] at h
    split at h <;> cases h
    case h_1 tree ht =>
      obtain ⟨place, perm, hd, rfl, hm⟩ := FileTree.overwrite_ok ht
      exact ⟨place, perm, hd, rfl, .inl <| .inl rfl, hm⟩
  case atomic =>
    rcases hr : s.tree.replace s.workingDirectory s.workingPath path text.toUTF8 with ⟨_, _⟩
    rw [write, hr] at h
    cases h
    obtain ⟨place, perm, hd, rfl, hn, hm⟩ := FileTree.replace_ok hr
    exact ⟨place, perm, hd, rfl, (FileTree.named?_erase hd hn).imp_left .inr, hm⟩

theorem write_of_named? {directory : Place}
    (hd : s.tree.resolveDirectory (FileTree.start s.workingDirectory (Path.directory path))
      (FileTree.steps (Path.directory path)) = .ok directory)
    (hn : s.tree.named? s.workingDirectory path = some place)
    (hp : ∀ m, s.tree.get? place ≠ some (.directory m)) :
    ∃ s', s.write .atomic path text = (.ok (), s') := by
  rw [write, (FileTree.replace_of_named? s.workingPath text.toUTF8 hd hn).2 hp]
  exact ⟨_, rfl⟩

theorem write_error {f : FileFault} (h : s.write mode path text = (.error f, s')) : s' = s := by
  cases mode
  case inPlace =>
    rw [write] at h
    split at h <;> cases h
    rfl
  case atomic =>
    rcases hr : s.tree.replace s.workingDirectory s.workingPath path text.toUTF8 with ⟨_, _⟩
    rw [write, hr] at h
    cases h
    cases FileTree.replace_error hr
    rfl

theorem tree_of_write_error {f : FileFault}
    (h : s.write mode path text = (.error f, s')) : s'.tree = s.tree := by
  rw [write_error h]

theorem readText_written_iff {perm : Nat} (h : s.destination? mode path = some place) :
    { s with tree := s.tree.set place (.file text.toUTF8 perm) : Machine }.readText path =
      .ok text ↔ s.Reaches mode path place := by
  cases mode
  case inPlace =>
    refine iff_of_true ?_ (.inl rfl)
    exact FileTree.readText_of_resolve <| FileTree.resolve_set_of_led? h
  case atomic =>
    constructor
    case mp =>
      intro hr
      have ⟨_, hr⟩ := FileTree.resolve_of_readText hr
      exact .inr <| FileTree.named?_of_resolve_set h hr
    case mpr =>
      intro hn
      exact FileTree.readText_of_resolve <| FileTree.resolve_set_of_named? <| hn.resolve_left nofun

theorem written_of_write (h : s.write mode path text = (.ok (), s')) :
    ∃ place, s.Written s' mode path text place := by
  obtain ⟨place, perm, hd, rfl, hl, hm⟩ := write_ok h
  have hg : (s.tree.set place (.file text.toUTF8 perm)).get? place = _ := FileTree.get?_set ..
  rw [if_pos rfl] at hg
  exact ⟨place, {
    destination := hd
    content     := ⟨perm, hg⟩
    mode_kept p c m hr := hm p c m hr ▸ hg
    others p hp := by rw [FileTree.get?_set, if_neg hp]
    reading     := readText_written_iff hd
    reaches     := hl }⟩

end Machine

end TabPruning
