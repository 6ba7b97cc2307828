import TabPruning.Proofs.Files.Tree

namespace TabPruning

def Entry.isFile : Entry → Bool
  | .file ..     => true
  | .directory _ => false
  | .link _      => false

namespace FileTree

-- A name that stands for an entry.
structure IsName (name : String) : Prop where
  ne_empty : name ≠ ""
  ne_dot   : name ≠ "."
  ne_up    : name ≠ ".."

-- What a walk finds at its last place, if it ends there.
def leaf? (t : FileTree) (p : Place) : Option Target :=
  match t.get? p with
  | none                      => some (.free p)
  | some (.file content mode) => some (.file p content mode)
  | some (.directory _)       => none
  | some (.link _)            => none

-- What another tree has at the place of a target; a directory stays one.
def look? (t : FileTree) : Target → Option Target
  | .file p _ _  => t.leaf? p
  | .free p      => t.leaf? p
  | .directory p => some (.directory p)

-- A walk that succeeds, step by step.
inductive Walks (t : FileTree) : Nat → Place → List String → Target → Prop
  | done : Walks t links here [] (.directory here)
  | stay : name = "" ∨ name = "." → Walks t links here rest target →
    Walks t links here (name :: rest) target
  | up : Walks t links here.tail rest target → Walks t links here (".." :: rest) target
  | enter : IsName name → t.get? (name :: here) = some (.directory mode) →
    Walks t links (name :: here) rest target → Walks t links here (name :: rest) target
  | follow : IsName name → t.get? (name :: here) = some (.link link) → link ≠ "" →
    Walks t links (start here link) (steps link ++ rest) target →
    Walks t (links + 1) here (name :: rest) target
  | arrive : IsName name → t.leaf? (name :: here) = some target → Walks t links here [name] target

-- Whatever a walk can pass through in the one tree is in the other as well.
def Carries (t t' : FileTree) : Prop :=
  ∀ p e, t.get? p = some e → e.isFile = false → t'.get? p = some e

variable {t t' : FileTree} {purpose : Purpose} {links : Nat} {here p : Place} {name : String}
  {names rest : List String} {target target' : Target}

theorem isName_iff_not_mem : IsName name ↔ name ∉ ["", ".", ".."] := by
  simp only [List.mem_cons, List.not_mem_nil, or_false, not_or]
  exact ⟨fun h => ⟨h.ne_empty, h.ne_dot, h.ne_up⟩, fun h => ⟨h.1, h.2.1, h.2.2⟩⟩

instance : Decidable (IsName name) :=
  decidable_of_iff' _ isName_iff_not_mem

theorem isName_of_walk (h : ¬(decide (name = "") || decide (name = ".")) = true)
    (h' : ¬name = "..") : IsName name := by
  simp at h
  exact ⟨h.1, h.2, h'⟩

theorem walks_of_walk (h : t.walk purpose links here names = .ok target) :
    t.Walks links here names target := by
  fun_induction t.walk purpose links here names
  case case1 => cases h; exact .done
  case case2 hn ih => exact .stay (by simpa using hn) (ih h)
  case case3 ih => exact .up (ih h)
  case case5 hn hn' _ _ _ hg ih => exact .enter (isName_of_walk hn hn') hg (ih h)
  case case6 hn hn' _ _ _ hg _ =>
    cases h
    exact .arrive (isName_of_walk hn hn') (by rw [leaf?, hg])
  case case10 hn hn' _ _ _ hg _ hl ih => exact .follow (isName_of_walk hn hn') hg hl (ih h)
  case case11 hn hn' _ hg _ =>
    cases h
    exact .arrive (isName_of_walk hn hn') (by rw [leaf?, hg])
  all_goals cases h

theorem leaf?_eq_some_iff : t.leaf? p = some target ↔
    (t.get? p = none ∧ target = .free p) ∨
      ∃ content mode, t.get? p = some (.file content mode) ∧ target = .file p content mode := by
  rw [leaf?]
  cases t.get? p
  case none => simp [eq_comm]
  case some e => cases e <;> simp [eq_comm]

theorem leaf?_of_get? (h : t.get? p = none) : t.leaf? p = some (.free p) := by
  rw [leaf?, h]

namespace Carries

theorem trans {t'' : FileTree} (h : t.Carries t') (h' : t'.Carries t'') : t.Carries t'' :=
  fun p e hp he => h' p e (h p e hp he) he

theorem erase : (t.erase p).Carries t := by
  intro q e hq _
  rw [get?_erase] at hq
  split_ifs at hq
  exact hq

theorem erase_set {e : Entry} : (t.erase p).Carries (t.set p e) := by
  intro q e' hq _
  rw [get?_erase] at hq
  rw [get?_set]
  split_ifs at hq ⊢
  exact hq

-- A file that is put somewhere is nothing to pass through.
theorem set_erase {content : ByteArray} {mode : Nat} :
    (t.set p (.file content mode)).Carries (t.erase p) := by
  intro q e hq he
  rw [get?_set] at hq
  rw [get?_erase]
  split_ifs at hq ⊢
  case pos => cases hq; cases he
  case neg => exact hq

theorem set {content : ByteArray} {mode : Nat} : (t.set p (.file content mode)).Carries t :=
  set_erase.trans .erase

-- Neither is what can be found at the end of a walk.
theorem of_leaf? (h : t.leaf? p = some target) : t.Carries (t.erase p) := by
  intro q e hq he
  rw [get?_erase]
  split_ifs with hp
  case pos =>
    rw [hp] at hq
    obtain ⟨hg, _⟩ | ⟨_, _, hg, _⟩ := leaf?_eq_some_iff.mp h <;> cases hg ▸ hq
    cases he
  case neg => exact hq

theorem set_of_leaf? {e : Entry} (h : t.leaf? p = some target) : t.Carries (t.set p e) :=
  (of_leaf? h).trans erase_set

end Carries

namespace Walks

theorem walk (h : t.Walks links here names target) :
    t.walk .use links here names = .ok target := by
  induction h
  case done => rw [FileTree.walk]
  case stay hn _ ih => rw [FileTree.walk, if_pos (by simpa using hn), ih]
  case up ih => rw [FileTree.walk, if_neg (by decide), if_pos rfl, ih]
  case enter hn hg _ ih =>
    rw [FileTree.walk]
    simp [hn.ne_empty, hn.ne_dot, hn.ne_up, hg, ih]
  case follow hn hg hl _ ih =>
    rw [FileTree.walk]
    simp [hn.ne_empty, hn.ne_dot, hn.ne_up, hg, hl, ih]
  case arrive hn hl =>
    rw [FileTree.walk]
    obtain ⟨hg, rfl⟩ | ⟨_, _, hg, rfl⟩ := leaf?_eq_some_iff.mp hl <;>
      simp [hn.ne_empty, hn.ne_dot, hn.ne_up, hg]

-- A walk finds what is there.
theorem look? (h : t.Walks links here names target) : t.look? target = some target := by
  induction h
  case done => rfl
  case arrive hl =>
    obtain ⟨_, rfl⟩ | ⟨_, _, _, rfl⟩ := leaf?_eq_some_iff.mp hl <;> exact hl
  all_goals assumption

theorem carried (h : t.Walks links here names target) (hc : t.Carries t')
    (ht : t'.look? target = some target') : t'.Walks links here names target' := by
  induction h
  case done => cases ht; exact .done
  case stay hn _ ih => exact .stay hn (ih ht)
  case up ih => exact .up (ih ht)
  case enter hn hg _ ih => exact .enter hn (hc _ _ hg rfl) (ih ht)
  case follow hn hg hl _ ih => exact .follow hn (hc _ _ hg rfl) hl (ih ht)
  case arrive hn hl =>
    obtain ⟨_, rfl⟩ | ⟨_, _, _, rfl⟩ := leaf?_eq_some_iff.mp hl <;> exact .arrive hn ht

-- One name more, behind a walk to a directory: the links that are left do not matter if none is
-- followed from there.
theorem append_step (h : t.Walks links here names (.directory p))
    (hl : ∀ links, t.Walks links p [name] target) :
    t.Walks links here (names ++ [name]) target := by
  generalize hd : Target.directory p = d at h
  induction h
  case done => cases hd; exact hl _
  case stay hn' _ ih => exact .stay hn' (ih hd)
  case up ih => exact .up (ih hd)
  case enter hn' hg _ ih => exact .enter hn' hg (ih hd)
  case follow hn' hg hl' _ ih =>
    exact .follow hn' hg hl' (List.append_assoc .. ▸ ih hd)
  case arrive hl' =>
    obtain ⟨_, rfl⟩ | ⟨_, _, _, rfl⟩ := leaf?_eq_some_iff.mp hl' <;> cases hd

theorem concat (h : t.Walks links here names (.directory p)) (hn : IsName name)
    (hl : t.leaf? (name :: p) = some target) : t.Walks links here (names ++ [name]) target :=
  h.append_step fun _ => .arrive hn hl

-- All names but the last one lead to a directory.
theorem exists_directory (h : t.Walks links here (names ++ [name]) target) :
    ∃ p, t.Walks links here names (.directory p) := by
  generalize hs : names ++ [name] = all at h
  induction h generalizing names
  case done => simp at hs
  case stay hn _ ih =>
    obtain ⟨rfl, _⟩ | ⟨_, rfl, rfl⟩ := List.append_eq_cons_iff.mp hs
    case inl => exact ⟨_, .done⟩
    case inr => exact (ih rfl).imp fun _ h => .stay hn h
  case up ih =>
    obtain ⟨rfl, _⟩ | ⟨_, rfl, rfl⟩ := List.append_eq_cons_iff.mp hs
    case inl => exact ⟨_, .done⟩
    case inr => exact (ih rfl).imp fun _ h => .up h
  case enter hn hg _ ih =>
    obtain ⟨rfl, _⟩ | ⟨_, rfl, rfl⟩ := List.append_eq_cons_iff.mp hs
    case inl => exact ⟨_, .done⟩
    case inr => exact (ih rfl).imp fun _ h => .enter hn hg h
  case follow hn hg hl _ ih =>
    obtain ⟨rfl, _⟩ | ⟨_, rfl, rfl⟩ := List.append_eq_cons_iff.mp hs
    case inl => exact ⟨_, .done⟩
    case inr => exact (ih (List.append_assoc ..)).imp fun _ h => .follow hn hg hl h
  case arrive =>
    obtain ⟨rfl, _⟩ := List.append_eq_singleton_iff.mp hs |>.resolve_right (by simp)
    exact ⟨_, .done⟩

end Walks

end FileTree

end TabPruning
