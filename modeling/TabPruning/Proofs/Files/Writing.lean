import TabPruning.Proofs.Files.Walk

namespace TabPruning.FileTree

-- The place of the file that a path leads to, whether it is there or not.
def led? (t : FileTree) (here : Place) (path : String) : Option Place :=
  match t.resolve .use here path with
  | .ok (.file place ..) => some place
  | .ok (.free place)    => some place
  | .ok (.directory _)   => none
  | .error _             => none

-- The place that a path names, even if a link is there.
def named? (t : FileTree) (here : Place) (path : String) : Option Place :=
  match (steps path).getLast? with
  | none      => none
  | some last =>
    if last ∈ ["", ".", ".."] then none
    else
      match t.resolveDirectory (start here path) (steps path).dropLast with
      | .ok parent => some (last :: parent)
      | .error _   => none

variable {t t' : FileTree} {purpose : Purpose} {here p place : Place} {path : String}
  {names : List String} {target : Target} {content : ByteArray} {mode : Nat}

theorem resolveDirectory_eq_ok_iff : t.resolveDirectory here names = .ok p ↔
    t.Walks maxLinks here names (.directory p) := by
  constructor
  case mp =>
    intro h
    rw [resolveDirectory] at h
    split at h <;> cases h
    exact walks_of_walk ‹_›
  case mpr =>
    intro h
    rw [resolveDirectory, h.walk]

theorem walks_of_resolve (h : t.resolve purpose here path = .ok target) :
    t.Walks maxLinks (start here path) (steps path) target := by
  rw [resolve] at h
  split_ifs at h
  exact walks_of_walk h

theorem Walks.resolve (h : t.Walks maxLinks (start here path) (steps path) target)
    (hp : path ≠ "") : t.resolve .use here path = .ok target := by
  rw [FileTree.resolve, if_neg hp, h.walk]

theorem ne_empty_of_resolve (h : t.resolve purpose here path = .ok target) : path ≠ "" := by
  rintro rfl
  cases h

-- A path may be used for more than for creating a file.
theorem resolve_use_of_resolve (h : t.resolve purpose here path = .ok target) :
    t.resolve .use here path = .ok target :=
  (walks_of_resolve h).resolve (ne_empty_of_resolve h)

theorem get?_of_resolve (h : t.resolve purpose here path = .ok (.file p content mode)) :
    t.get? p = some (.file content mode) := by
  obtain ⟨_, he⟩ | ⟨_, _, hg, he⟩ := leaf?_eq_some_iff.mp (walks_of_resolve h).look? <;> cases he
  exact hg

theorem named?_eq_some_iff : t.named? here path = some place ↔
    ∃ names last parent, steps path = names ++ [last] ∧ IsName last ∧
      t.Walks maxLinks (start here path) names (.directory parent) ∧ place = last :: parent := by
  constructor
  case mp =>
    intro h
    rw [named?] at h
    split at h
    case h_1 => cases h
    case h_2 last hl =>
      split_ifs at h with hn
      split at h <;> cases h
      case h_1 parent hr =>
        have ⟨names, hs⟩ := List.getLast?_eq_some_iff.mp hl
        refine ⟨names, last, parent, hs, isName_iff_not_mem.mpr hn, ?_, rfl⟩
        rw [hs, List.dropLast_concat] at hr
        exact resolveDirectory_eq_ok_iff.mp hr
  case mpr =>
    intro ⟨names, last, parent, hs, hn, hw, hp⟩
    rw [named?, hs, List.getLast?_concat]
    simp only [if_neg (isName_iff_not_mem.mp hn), List.dropLast_concat,
      resolveDirectory_eq_ok_iff.mpr hw, hp]

theorem led?_eq_some_iff : t.led? here path = some place ↔
    ∃ target, t.resolve .use here path = .ok target ∧ t.leaf? place = some target := by
  rw [led?]
  constructor
  case mp =>
    intro h
    split at h <;> cases h
    case h_1 hr => exact ⟨_, hr, (walks_of_resolve hr).look?⟩
    case h_2 hr => exact ⟨_, hr, (walks_of_resolve hr).look?⟩
  case mpr =>
    intro ⟨target, hr, hl⟩
    rw [hr]
    obtain ⟨_, rfl⟩ | ⟨_, _, _, rfl⟩ := leaf?_eq_some_iff.mp hl <;> rfl

theorem leaf?_set : (t.set p (.file content mode)).leaf? p = some (.file p content mode) := by
  rw [leaf?, get?_set, if_pos rfl]

theorem resolve_set_of_led? (h : t.led? here path = some place) :
    (t.set place (.file content mode)).resolve .use here path =
      .ok (.file place content mode) := by
  have ⟨target, hr, hl⟩ := led?_eq_some_iff.mp h
  refine ((walks_of_resolve hr).carried (.set_of_leaf? hl) ?_).resolve (ne_empty_of_resolve hr)
  obtain ⟨_, rfl⟩ | ⟨_, _, _, rfl⟩ := leaf?_eq_some_iff.mp hl <;> exact leaf?_set

theorem ne_empty_of_named? (h : t.named? here path = some place) : path ≠ "" := by
  rintro rfl
  have hs : steps "" = [""] := by decide
  rw [named?, hs] at h
  cases h

theorem named?_of_carries (hc : t.Carries t') (h : t.named? here path = some place) :
    t'.named? here path = some place := by
  have ⟨names, last, parent, hs, hn, hw, hp⟩ := named?_eq_some_iff.mp h
  exact named?_eq_some_iff.mpr ⟨names, last, parent, hs, hn, hw.carried hc rfl, hp⟩

-- Where a file is put at the place that a path names, the path leads to the file if it can do
-- without what was there before, ...
theorem resolve_set_of_named? (h : (t.erase place).named? here path = some place) :
    (t.set place (.file content mode)).resolve .use here path =
      .ok (.file place content mode) := by
  have ⟨names, last, parent, hs, hn, hw, hp⟩ := named?_eq_some_iff.mp h
  refine Walks.resolve ?_ (ne_empty_of_named? h)
  rw [hs]
  refine (hw.carried .erase_set rfl).concat hn ?_
  rw [← hp]
  exact leaf?_set

-- ... and else it leads nowhere.
theorem named?_of_resolve_set (hn : t.named? here path = some place)
    (h : (t.set place (.file content mode)).resolve .use here path = .ok target) :
    (t.erase place).named? here path = some place := by
  have ⟨names, last, parent, hs, hl, hw, hp⟩ := named?_eq_some_iff.mp hn
  have ⟨parent', hw'⟩ := (hs ▸ walks_of_resolve h).exists_directory
  have hw' := hw'.carried .set_erase rfl
  have he := (hw'.carried .erase rfl).walk
  rw [hw.walk] at he
  cases he
  exact named?_eq_some_iff.mpr ⟨names, last, parent, hs, hl, hw', hp⟩

-- A path can do without what it names unless that is a link or a directory.
theorem named?_erase (hn : t.named? here path = some place)
    (hd : ∀ m, t.get? place ≠ some (.directory m)) :
    (t.erase place).named? here path = some place ∨ ∃ link, t.get? place = some (.link link) := by
  cases hg : t.get? place
  case none => exact .inl <| named?_of_carries (.of_leaf? <| leaf?_of_get? hg) hn
  case some e =>
    cases e
    case file => exact .inl <| named?_of_carries (.of_leaf? <| by rw [leaf?, hg]) hn
    case directory m => cases hd m hg
    case link l => exact .inr ⟨l, rfl⟩

theorem overwrite_ok (h : t.overwrite here path content = .ok t') :
    ∃ place mode, t.led? here path = some place ∧ t' = t.set place (.file content mode) ∧
      ∀ p c m, t.resolve .use here path = .ok (.file p c m) → mode = m := by
  rw [overwrite] at h
  split at h <;> cases h
  case h_1 place c mode hr =>
    have hr := resolve_use_of_resolve hr
    refine ⟨place, mode, by rw [led?, hr], rfl, fun _ _ _ hf => ?_⟩
    cases hr ▸ hf
    rfl
  case h_2 place hr =>
    have hr := resolve_use_of_resolve hr
    exact ⟨place, _, by rw [led?, hr], rfl, fun _ _ _ hf => nomatch hr ▸ hf⟩

theorem filter_steps (h : (steps path).getLast? ≠ some "") :
    (steps path).filter (· ≠ "") = steps path := by
  rw [steps] at h ⊢
  split_ifs at h ⊢
  case pos => simp at h
  case neg =>
    refine List.filter_eq_self.mpr ?_
    simp only [List.append_nil, List.mem_map, List.mem_filter]
    rintro _ ⟨cs, ⟨_, hn⟩, rfl⟩
    simpa using hn

theorem named?_of_rename (h : t.rename here p path = .ok t') :
    ∃ place, t.named? here path = some place := by
  rw [rename] at h
  split at h
  case isTrue => cases h
  case isFalse =>
    split at h
    case h_1 => cases h
    case h_2 last hl =>
      split at h
      case h_1 => cases h
      case h_2 parent hr =>
        split_ifs at h with hd hs
        rw [filter_steps hs] at hl hr
        have hn : last ∉ ["", ".", ".."] := by
          simp only [List.mem_cons, List.not_mem_nil, or_false, not_or]
          simp at hd
          exact ⟨fun he => hs (he ▸ hl), hd⟩
        refine ⟨last :: parent, ?_⟩
        rw [named?, hl]
        simp only [if_neg hn, hr]

theorem rename_of_named? {e : Entry} (h : t.named? here path = some place)
    (he : t.get? p = some e) :
    (∀ m, t.get? place = some (.directory m) → t.rename here p path = .error .isDirectory) ∧
    ((∀ m, t.get? place ≠ some (.directory m)) →
      t.rename here p path = .ok ((t.erase p).set place e)) := by
  have ⟨names, last, parent, hs, hn, hw, hp⟩ := named?_eq_some_iff.mp h
  have hl : (steps path).getLast? = some last := by rw [hs, List.getLast?_concat]
  have hne : (steps path).getLast? ≠ some "" := fun he => hn.ne_empty <| by simpa [hl] using he
  have hr := resolveDirectory_eq_ok_iff.mpr hw
  rw [rename, if_neg (ne_empty_of_named? h), filter_steps hne]
  simp only [hs, List.getLast?_concat, List.dropLast_concat, hr, hn.ne_empty, hn.ne_dot, hn.ne_up,
    ← hp, decide_false, Bool.or_self, Bool.false_eq_true, if_false, Option.some.injEq]
  constructor
  case left =>
    intro m hm
    simp only [hm]
  case right =>
    intro hd
    cases hg : t.get? place
    case none => simp only [he]
    case some e' =>
      cases e'
      case directory m => cases hd m hg
      all_goals simp only [he]

-- A new entry does not change what a path to a file leads to.
theorem resolve_set_of_get? {e : Entry} {q : Place} (hq : t.get? q = none)
    (h : t.resolve .use here path = .ok (.file p content mode)) :
    (t.set q e).resolve .use here path = .ok (.file p content mode) := by
  have hw := walks_of_resolve h
  have hl := leaf?_of_get? hq
  have hp : p ≠ q := by
    rintro rfl
    cases hl.symm.trans hw.look?
  refine (hw.carried (.set_of_leaf? hl) ?_).resolve (ne_empty_of_resolve h)
  have hp' : t.leaf? p = some (.file p content mode) := hw.look?
  rw [leaf?] at hp'
  rw [look?, leaf?, get?_set, if_neg hp, hp']

-- The tree with a new file for what is to be moved to a path.
def withTemporary (t : FileTree) (directory : Place) : FileTree :=
  t.set (t.unusedName directory :: directory) (.file .empty privateMode)

-- Replacing fails on a directory only, if the new file's directory and the path's are there.
theorem replace_of_named? {directory : Place} (workingDirectory : String) (content : ByteArray)
    (hd : t.resolveDirectory (start here (Path.directory path)) (steps (Path.directory path)) =
      .ok directory)
    (hn : t.named? here path = some place) :
    (∀ m, t.get? place = some (.directory m) →
      t.replace here workingDirectory path content = (.error .isDirectory, t)) ∧
    ((∀ m, t.get? place ≠ some (.directory m)) →
      t.replace here workingDirectory path content = (.ok (), t.set place
        (.file content (((t.withTemporary directory).mode? here path).getD privateMode)))) := by
  obtain ⟨q, hq⟩ : ∃ q, t.unusedName directory :: directory = q := ⟨_, rfl⟩
  have hu : t.get? q = none := hq ▸ get?_unusedName t directory
  have hc (m : Nat) :
      t.Carries ((t.set q (.file .empty privateMode)).set q (.file content m)) :=
    (Carries.set_of_leaf? <| leaf?_of_get? hu).trans <| .set_of_leaf? leaf?_set
  have hw (m : Nat) : ((t.set q (.file .empty privateMode)).set q (.file content m)).get? q =
      some (.file content m) := by
    rw [get?_set, if_pos rfl]
  have hr (m : Nat) := rename_of_named? (named?_of_carries (hc m) hn) (hw m)
  rw [replace, hd]
  simp only [hq, withTemporary, erase_set, erase_of_get? hu] at hr ⊢
  constructor
  case left =>
    intro m hm
    simp only [(hr _).1 m (hc _ _ _ hm rfl)]
  case right =>
    intro hp
    simp only [(hr _).2 fun m hm => hp m (Carries.set.trans .set _ _ hm rfl)]

theorem replace_ok {workingDirectory : String}
    (h : t.replace here workingDirectory path content = (.ok (), t')) :
    ∃ place mode, t.named? here path = some place ∧ t' = t.set place (.file content mode) ∧
      (∀ m, t.get? place ≠ some (.directory m)) ∧
      ∀ p c m, t.resolve .use here path = .ok (.file p c m) → mode = m := by
  have hr := h
  rw [replace] at hr
  split at hr
  case h_1 => cases hr
  case h_2 directory hd =>
    simp only at hr
    split at hr <;> cases hr
    case h_2 hr =>
      have ⟨place, hn⟩ := named?_of_rename hr
      have hn := named?_of_carries (Carries.set.trans .set) hn
      have ⟨hl, hr⟩ := replace_of_named? workingDirectory content hd hn
      have hp (m : Nat) : t.get? place ≠ some (.directory m) :=
        fun hm => nomatch (hl m hm).symm.trans h
      cases (hr hp).symm.trans h
      refine ⟨place, _, hn, rfl, hp, fun p c m hf => ?_⟩
      rw [withTemporary, mode?, resolve_set_of_get? (get?_unusedName t directory) hf,
        Option.getD_some]

theorem replace_error {workingDirectory : String} {f : FileFault}
    (h : t.replace here workingDirectory path content = (.error f, t')) : t' = t := by
  rw [replace] at h
  split at h
  case h_1 => cases h; rfl
  case h_2 directory hd =>
    simp only at h
    split at h <;> cases h
    rw [erase_set, erase_set, erase_of_get? <| get?_unusedName t directory]

end TabPruning.FileTree
