import TabPruning.Proofs.Files.Path
import TabPruning.Proofs.Machine.Writing

namespace TabPruning

namespace FileTree

variable {t : FileTree} {links : Nat} {here p place : Place} {name path : String}
  {names names' rest : List String} {target target' : Target} {content : ByteArray} {mode : Nat}

theorem IsName.isProper (h : IsName name) : isProper name := by
  simp [FileTree.isProper, h.ne_empty, h.ne_dot]

namespace Walks

theorem deterministic (h : t.Walks links here names target)
    (h' : t.Walks links here names target') : target = target' :=
  Except.ok.inj <| h.walk.symm.trans h'.walk

-- What ends with a slash, a dot or two dots leads to a directory.
theorem exists_eq_directory (h : t.Walks links here (names ++ [name]) target)
    (hn : ¬IsName name) : ∃ p, target = .directory p := by
  have ⟨p, hp⟩ := h.exists_directory
  obtain ⟨q, hq⟩ : ∃ q, ∀ links, t.Walks links p [name] (.directory q) := by
    rw [isName_iff_not_mem, not_not] at hn
    simp only [List.mem_cons, List.not_mem_nil, or_false] at hn
    obtain rfl | rfl | rfl := hn
    · exact ⟨p, fun _ => .stay (.inl rfl) .done⟩
    · exact ⟨p, fun _ => .stay (.inr rfl) .done⟩
    · exact ⟨p.tail, fun _ => .up .done⟩
  exact ⟨q, h.deterministic <| hp.append_step hq⟩

theorem ne_slash (h : t.Walks links here (names ++ rest) target) (hd : ∀ p, target ≠ .directory p) :
    rest ≠ [""] := by
  rintro rfl
  have ⟨p, hp⟩ := h.exists_eq_directory (by decide)
  exact hd p hp

-- A path that does not lead to a directory can be used to create a file.
theorem walk_create (h : t.Walks links here names target) (hd : ∀ p, target ≠ .directory p) :
    t.walk .create links here names = .ok target := by
  induction h
  case done => cases hd _ rfl
  case stay hn _ ih => rw [FileTree.walk, if_pos (by simpa using hn), ih hd]
  case up ih => rw [FileTree.walk, if_neg (by decide), if_pos rfl, ih hd]
  case enter hn hg hw ih =>
    have hr := (show t.Walks _ _ ([] ++ _) _ from hw).ne_slash hd
    rw [FileTree.walk]
    simp [hn.ne_empty, hn.ne_dot, hn.ne_up, hg, hr, ih hd]
  case follow hn hg hl hw ih =>
    have hr := ne_slash hw hd
    rw [FileTree.walk]
    simp [hn.ne_empty, hn.ne_dot, hn.ne_up, hg, hl, hr, ih hd]
  case arrive hn hl =>
    rw [FileTree.walk]
    obtain ⟨hg, rfl⟩ | ⟨_, _, hg, rfl⟩ := leaf?_eq_some_iff.mp hl <;>
      simp [hn.ne_empty, hn.ne_dot, hn.ne_up, hg]

theorem append_fillers {fillers : List String} (hf : ∀ name ∈ fillers, ¬isProper name)
    (h : t.Walks links here rest target) : t.Walks links here (fillers ++ rest) target := by
  induction fillers
  case nil => exact h
  case cons name fillers ih =>
    have ⟨hn, hf⟩ := List.forall_mem_cons.mp hf
    refine .stay ?_ (ih hf)
    simpa [isProper, imp_iff_not_or] using hn

-- To walk to a directory, only names and pairs of dots matter.
theorem of_filter_eq (h : t.Walks links here names (.directory p))
    (hf : names.filter isProper = names'.filter isProper) :
    t.Walks links here names' (.directory p) := by
  generalize hd : Target.directory p = target at h
  induction h generalizing names'
  case done =>
    have hf := List.filter_eq_nil_iff.mp hf.symm
    rw [← List.append_nil names']
    exact append_fillers hf .done
  case stay hn _ ih =>
    refine ih ?_ hd
    rwa [List.filter_cons_of_neg] at hf
    simpa [isProper, imp_iff_not_or] using hn
  case up ih =>
    rw [List.filter_cons_of_pos (by decide)] at hf
    obtain ⟨fillers, rest, rfl, hs, _, hf⟩ := List.filter_eq_cons_iff.mp hf.symm
    exact append_fillers hs <| .up <| ih hf.symm hd
  case enter hn hg _ ih =>
    rw [List.filter_cons_of_pos hn.isProper] at hf
    obtain ⟨fillers, rest, rfl, hs, _, hf⟩ := List.filter_eq_cons_iff.mp hf.symm
    exact append_fillers hs <| .enter hn hg <| ih hf.symm hd
  case follow hn hg hl _ ih =>
    rw [List.filter_cons_of_pos hn.isProper] at hf
    obtain ⟨fillers, rest, rfl, hs, _, hf⟩ := List.filter_eq_cons_iff.mp hf.symm
    refine append_fillers hs <| .follow hn hg hl <| ih ?_ hd
    rw [List.filter_append, List.filter_append, hf]
  case arrive hl =>
    obtain ⟨_, rfl⟩ | ⟨_, _, _, rfl⟩ := leaf?_eq_some_iff.mp hl <;> cases hd

end Walks

theorem ne_directory_of_leaf? (h : t.leaf? place = some target) (p : Place) :
    target ≠ .directory p := by
  obtain ⟨_, rfl⟩ | ⟨_, _, _, rfl⟩ := leaf?_eq_some_iff.mp h <;> nofun

-- The directory of a path that names something is there.
theorem exists_resolveDirectory (h : t.named? here path = some place) :
    ∃ directory, t.resolveDirectory (start here (Path.directory path))
      (steps (Path.directory path)) = .ok directory := by
  have ⟨names, last, parent, hs, hn, hw, _⟩ := named?_eq_some_iff.mp h
  have hl := getLast?_parts_of_steps hs hn.ne_empty
  have hp := hn.isProper
  have hf : Path.isFiller last.toList = false := by
    rwa [← String.ofList_toList (s := last), isProper_ofList, Bool.not_eq_true'] at hp
  refine ⟨parent, resolveDirectory_eq_ok_iff.mpr ?_⟩
  rw [start, Path.isAbsolute_directory hl hf, ← start]
  refine hw.of_filter_eq ?_
  rw [filter_steps_isProper, Path.names_directory hl hf, List.map_dropLast,
    ← filter_steps_isProper, hs]
  simp [hp]

-- A path to a file, or to where one can be, names it unless it names a link.
theorem named?_of_led? (h : t.led? here path = some place)
    (hp : ∀ q link, t.named? here path = some q → t.get? q ≠ some (.link link)) :
    t.named? here path = some place := by
  have ⟨target, hr, hl⟩ := led?_eq_some_iff.mp h
  have hw := walks_of_resolve hr
  have hd := ne_directory_of_leaf? hl
  obtain hs | ⟨names, last, hs⟩ := List.eq_nil_or_concat (steps path) <;> rw [hs] at hw
  case inl => cases hw; cases hd _ rfl
  case inr =>
    rw [List.concat_eq_append] at hs hw
    have hn : IsName last := by
      by_contra hn
      have ⟨p, hp⟩ := hw.exists_eq_directory hn
      exact hd p hp
    have ⟨parent, hw'⟩ := hw.exists_directory
    have hq : t.named? here path = some (last :: parent) :=
      named?_eq_some_iff.mpr ⟨names, last, parent, hs, hn, hw', rfl⟩
    have ht (target' : Target) (hl' : t.leaf? (last :: parent) = some target') :
        last :: parent = place := by
      cases hw.deterministic (hw'.concat hn hl')
      obtain ⟨_, rfl⟩ | ⟨_, _, _, rfl⟩ := leaf?_eq_some_iff.mp hl <;>
      obtain ⟨_, he⟩ | ⟨_, _, _, he⟩ := leaf?_eq_some_iff.mp hl' <;> cases he <;> rfl
    cases hg : t.get? (last :: parent)
    case none => rw [hq, ht _ (leaf?_of_get? hg)]
    case some e =>
      cases e
      case file c m => rw [hq, ht (.file _ c m) (by rw [leaf?, hg])]
      case directory m =>
        cases hd _ <| hw.deterministic <| hw'.append_step fun _ => .enter hn hg .done
      case link l => cases hp _ l hq hg

theorem led?_of_named? (h : t.named? here path = some place) (hl : t.leaf? place = some target) :
    t.led? here path = some place := by
  have ⟨names, last, parent, hs, hn, hw, hp⟩ := named?_eq_some_iff.mp h
  have hw := hw.concat hn (hp ▸ hl)
  exact led?_eq_some_iff.mpr ⟨target, (hs ▸ hw).resolve (ne_empty_of_named? h), hl⟩

theorem overwrite_of_led? (h : t.led? here path = some place) (content : ByteArray) :
    t.overwrite here path content =
      .ok (t.set place (.file content ((t.mode? here path).getD defaultFileMode))) := by
  have ⟨target, hr, hl⟩ := led?_eq_some_iff.mp h
  have hc : t.resolve .create here path = .ok target := by
    rw [resolve, if_neg (ne_empty_of_resolve hr)]
    exact (walks_of_resolve hr).walk_create <| ne_directory_of_leaf? hl
  rw [overwrite, hc, mode?, hr]
  obtain ⟨_, rfl⟩ | ⟨_, _, _, rfl⟩ := leaf?_eq_some_iff.mp hl <;> rfl

-- A new file, if it is what the path leads to, has the mode that the path would be given anyway.
theorem mode?_withTemporary (h : t.led? here path = some place) (directory : Place) :
    ((t.withTemporary directory).mode? here path).getD privateMode =
      (t.mode? here path).getD privateMode := by
  have ⟨target, hr, hl⟩ := led?_eq_some_iff.mp h
  have hu := get?_unusedName t directory
  obtain ⟨hg, rfl⟩ | ⟨_, _, _, rfl⟩ := leaf?_eq_some_iff.mp hl
  case inl =>
    have hw {target : Target} (ht : (t.withTemporary directory).leaf? place = some target) :
        (t.withTemporary directory).resolve .use here path = .ok target :=
      ((walks_of_resolve hr).carried (.set_of_leaf? <| leaf?_of_get? hu) ht).resolve
        (ne_empty_of_resolve hr)
    by_cases hq : place = t.unusedName directory :: directory
    case pos =>
      have ht : (t.withTemporary directory).leaf? place = some (.file place .empty privateMode) :=
        hq ▸ leaf?_set
      rw [mode?, hw ht, mode?, hr, Option.getD_some, Option.getD_none]
    case neg =>
      have ht : (t.withTemporary directory).get? place = none := by
        rw [withTemporary, get?_set, if_neg hq, hg]
      rw [mode?, hw (leaf?_of_get? ht), mode?, hr]
  case inr => rw [mode?, withTemporary, resolve_set_of_get? hu hr, mode?, hr]

theorem replace_of_led? (h : t.led? here path = some place) (hn : t.named? here path = some place)
    (workingDirectory : String) (content : ByteArray) :
    t.replace here workingDirectory path content =
      (.ok (), t.set place (.file content ((t.mode? here path).getD privateMode))) := by
  have ⟨directory, hd⟩ := exists_resolveDirectory hn
  have ⟨_, _, hl⟩ := led?_eq_some_iff.mp h
  have hp (m : Nat) : t.get? place ≠ some (.directory m) := by
    intro hg
    rw [leaf?, hg] at hl
    cases hl
  rw [(replace_of_named? workingDirectory content hd hn).2 hp, mode?_withTemporary h]

theorem set_inj {e e' : Entry} : t.set place e = t.set place e' ↔ e = e' := by
  refine ⟨fun h => ?_, congrArg _⟩
  have hg := congrArg (get? · place) h
  simpa [get?_set] using hg

end FileTree

-- The mode of a file that is new.
def WriteMode.newFileMode : WriteMode → Nat
  | inPlace => FileTree.defaultFileMode
  | atomic  => FileTree.privateMode

namespace Machine

variable {s s' s₁ s₂ : Machine} {mode : WriteMode} {path text : String} {place : Place}

-- What the path names is not a link.
def Plain (s : Machine) (path : String) : Prop :=
  ∀ place link, s.tree.named? s.workingDirectory path = some place →
    s.tree.get? place ≠ some (.link link)

-- The path leads to what it names: a file, or nothing yet.
structure Settled (s : Machine) (path : String) (place : Place) : Prop where
  led   : s.tree.led? s.workingDirectory path = some place
  named : s.tree.named? s.workingDirectory path = some place

-- A write puts a file at the place, which keeps its mode if it was there before.
theorem Settled.write_eq (h : s.Settled path place) (mode : WriteMode) (text : String) :
    s.write mode path text = (.ok (), { s with tree := s.tree.set place (.file text.toUTF8
      ((s.tree.mode? s.workingDirectory path).getD mode.newFileMode)) }) := by
  cases mode
  case inPlace =>
    rw [write, FileTree.overwrite_of_led? h.led]
    rfl
  case atomic =>
    rw [write, FileTree.replace_of_led? h.led h.named]
    rfl

theorem Settled.exists?_eq (h : s.Settled path place) :
    s.exists? path = (s.tree.get? place).isSome := by
  have ⟨_, hr, hl⟩ := FileTree.led?_eq_some_iff.mp h.led
  rw [exists?, FileTree.exists?, hr]
  obtain ⟨hg, rfl⟩ | ⟨_, _, hg, rfl⟩ := FileTree.leaf?_eq_some_iff.mp hl <;> rw [hg] <;> rfl

theorem Settled.isSome_mode? (h : s.Settled path place) :
    (s.tree.mode? s.workingDirectory path).isSome = (s.tree.get? place).isSome := by
  have ⟨_, hr, hl⟩ := FileTree.led?_eq_some_iff.mp h.led
  rw [FileTree.mode?, hr]
  obtain ⟨hg, rfl⟩ | ⟨_, _, hg, rfl⟩ := FileTree.leaf?_eq_some_iff.mp hl <;> rw [hg] <;> rfl

-- A new file tells the ways to write apart.
theorem Settled.getD_mode?_eq_iff (h : s.Settled path place) :
    (s.tree.mode? s.workingDirectory path).getD WriteMode.atomic.newFileMode =
      (s.tree.mode? s.workingDirectory path).getD WriteMode.inPlace.newFileMode ↔
        s.exists? path := by
  rw [h.exists?_eq, ← h.isSome_mode?]
  cases s.tree.mode? s.workingDirectory path
  case none => simp [WriteMode.newFileMode, FileTree.privateMode, FileTree.defaultFileMode]
  case some => simp

theorem settled_of_write (hp : s.Plain path) (h : s.write mode path text = (.ok (), s')) :
    ∃ place, s.Settled path place := by
  cases mode
  case inPlace =>
    rw [write] at h
    split at h <;> cases h
    case h_1 tree ht =>
      obtain ⟨place, _, hl, -⟩ := FileTree.overwrite_ok ht
      exact ⟨place, hl, FileTree.named?_of_led? hl hp⟩
  case atomic =>
    rcases hr : s.tree.replace s.workingDirectory s.workingPath path text.toUTF8 with ⟨_, _⟩
    rw [write, hr] at h
    cases h
    obtain ⟨place, _, hn, -, hd, -⟩ := FileTree.replace_ok hr
    obtain ⟨target, hl⟩ : ∃ target, s.tree.leaf? place = some target := by
      rw [FileTree.leaf?]
      cases hg : s.tree.get? place
      case none => exact ⟨_, rfl⟩
      case some e =>
        cases e
        case file => exact ⟨_, rfl⟩
        case directory m => cases hd m hg
        case link l => cases hp place l hn hg
    exact ⟨place, FileTree.led?_of_named? hn hl, hn⟩

theorem write_ok_iff_settled (hp : s.Plain path) :
    (∃ s', s.write mode path text = (.ok (), s')) ↔ ∃ place, s.Settled path place :=
  ⟨fun ⟨_, h⟩ => settled_of_write hp h, fun ⟨_, h⟩ => ⟨_, h.write_eq mode text⟩⟩

-- Both ways to write are open to the same paths, and what they leave is the same if and only if
-- the file was there before: a new file is private if it was moved to its place.
theorem write_modes_agree_iff_exists (hp : s.Plain path) (text : String) :
    ((∃ s', s.write .atomic path text = (.ok (), s')) ↔
      ∃ s', s.write .inPlace path text = (.ok (), s')) ∧
    ∀ s₁ s₂, s.write .atomic path text = (.ok (), s₁) →
      s.write .inPlace path text = (.ok (), s₂) →
      (s₁.tree = s₂.tree ↔ s.exists? path) ∧
      ∃ place, s.tree.named? s.workingDirectory path = some place ∧
        (∀ p ≠ place, s₁.tree.get? p = s.tree.get? p ∧ s₂.tree.get? p = s.tree.get? p) ∧
        s₁.tree.get? place =
          some (.file text.toUTF8 ((s.tree.mode? s.workingDirectory path).getD 0o600)) ∧
        s₂.tree.get? place =
          some (.file text.toUTF8 ((s.tree.mode? s.workingDirectory path).getD 0o644)) := by
  refine ⟨(write_ok_iff_settled hp).trans (write_ok_iff_settled hp).symm, fun s₁ s₂ h₁ h₂ => ?_⟩
  obtain ⟨place, hs⟩ := settled_of_write hp h₁
  cases (hs.write_eq .atomic text).symm.trans h₁
  cases (hs.write_eq .inPlace text).symm.trans h₂
  constructor
  case left =>
    rw [FileTree.set_inj, Entry.file.injEq, and_iff_right rfl]
    exact hs.getD_mode?_eq_iff
  case right =>
    refine ⟨place, hs.named, fun p hne => ?_, ?_, ?_⟩
    · simp only [FileTree.get?_set, if_neg hne, and_self]
    · rw [FileTree.get?_set, if_pos rfl]
      rfl
    · rw [FileTree.get?_set, if_pos rfl]
      rfl

theorem Settled.plain (h : s.Settled path place)
    (hg : ∀ link, s.tree.get? place ≠ some (.link link)) : s.Plain path := by
  intro q link hn
  cases h.named.symm.trans hn
  exact hg link

-- A path may go through links, as long as it does not name one.
theorem write_modes_agree_behind_link :
    let s : Machine := {
      tree := ((FileTree.empty.set ["d"] (.directory 0o755)).set ["l"] (.link "d")).set ["f", "d"]
        (.file "old".toUTF8 0o640)
      workingDirectory := [] }
    s.Plain "l/f" ∧ ∃ s₁ s₂, s.write .atomic "l/f" "new" = (.ok (), s₁) ∧
      s.write .inPlace "l/f" "new" = (.ok (), s₂) ∧ s₁.tree = s₂.tree := by
  intro s
  have hw : s.tree.Walks FileTree.maxLinks [] ["l"] (.directory ["d"]) :=
    .follow (by decide) rfl (by decide) <| .enter (by decide) rfl .done
  have hn : s.tree.named? [] "l/f" = some ["f", "d"] := FileTree.named?_eq_some_iff.mpr
    ⟨["l"], "f", ["d"], by decide, by decide, hw, rfl⟩
  have hs : s.Settled "l/f" ["f", "d"] := ⟨FileTree.led?_of_named? hn rfl, hn⟩
  have hp : s.Plain "l/f" := hs.plain nofun
  have he : s.exists? "l/f" := hs.exists?_eq
  have h₁ := hs.write_eq .atomic "new"
  have h₂ := hs.write_eq .inPlace "new"
  exact ⟨hp, _, _, h₁, h₂, ((write_modes_agree_iff_exists hp "new").2 _ _ h₁ h₂).1.mpr he⟩

-- A new file shows how it was written.
theorem write_modes_differ_on_new_file :
    let s : Machine := { tree := .empty, workingDirectory := [] }
    s.Plain "out.txt" ∧ ∃ s₁ s₂, s.write .atomic "out.txt" "x" = (.ok (), s₁) ∧
      s.write .inPlace "out.txt" "x" = (.ok (), s₂) ∧ s₁.tree ≠ s₂.tree := by
  intro s
  have hn : s.tree.named? [] "out.txt" = some ["out.txt"] := FileTree.named?_eq_some_iff.mpr
    ⟨[], "out.txt", [], by decide, by decide, .done, rfl⟩
  have hs : s.Settled "out.txt" ["out.txt"] := ⟨FileTree.led?_of_named? hn rfl, hn⟩
  refine ⟨hs.plain nofun, _, _, hs.write_eq .atomic "x", hs.write_eq .inPlace "x", ?_⟩
  rw [ne_eq, FileTree.set_inj, Entry.file.injEq, and_iff_right rfl, hs.getD_mode?_eq_iff,
    hs.exists?_eq]
  nofun

end Machine

end TabPruning
