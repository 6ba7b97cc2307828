import Mathlib.Data.List.DropRight
import TabPruning.Document
import TabPruning.Files.Tree

namespace TabPruning

namespace Path

def names (cs : List Char) : List (List Char) :=
  (parts cs).filter (!isFiller ·)

variable {cs : List Char} {ps : List (List Char)} {last : List Char} {path : String}

theorem parts_slash (as bs : List Char) : parts (as ++ '/' :: bs) = parts as ++ parts bs :=
  List.splitOn_append_cons_self ..

theorem names_slash (as bs : List Char) : names (as ++ '/' :: bs) = names as ++ names bs := by
  rw [names, parts_slash, List.filter_append]
  rfl

theorem getLast?_parts_slash (as bs : List Char) :
    (parts (as ++ '/' :: bs)).getLast? = (parts bs).getLast? := by
  have h : parts bs ≠ [] := List.splitOn_ne_nil '/' bs
  rw [parts_slash, List.getLast?_append_of_ne_nil _ h]

theorem names_intercalate (h : ∀ p ∈ ps, '/' ∉ p) :
    names (['/'].intercalate ps) = ps.filter (!isFiller ·) := by
  cases ps
  case nil => decide
  case cons p ps => rw [names, parts, List.splitOn_intercalate '/' h (List.cons_ne_nil p ps)]

theorem dropFillers_eq_rdropWhile (ps : List (List Char)) :
    dropFillers ps = ps.rdropWhile isFiller :=
  rfl

theorem filter_dropFillers (ps : List (List Char)) :
    (dropFillers ps).filter (!isFiller ·) = ps.filter (!isFiller ·) := by
  rw [dropFillers_eq_rdropWhile]
  induction ps using List.reverseRecOn
  case nil => rfl
  case append_singleton ps p ih =>
    cases hp : isFiller p
    case false => rw [List.rdropWhile_concat_neg _ _ _ (by simp [hp])]
    case true =>
      rw [List.rdropWhile_concat_pos _ _ _ hp, List.filter_append, List.filter_singleton, hp]
      simpa using ih

-- A path is absolute, or is or starts with a dot, or has no root.
theorem root_cases (cs : List Char) :
    (∃ bs, cs = '/' :: bs ∧ root cs = ['/'] ∧ body cs = bs) ∨
    (∃ bs, cs = '.' :: bs ∧ root cs = ['.'] ∧ body cs = bs ∧ bs.head?.all (· = '/')) ∨
    (cs.head? ≠ some '/' ∧ root cs = [] ∧ body cs = cs) := by
  rw [body]
  fun_cases root cs
  case case4 h _ _ => exact .inr <| .inr ⟨by cases cs <;> simp_all, rfl, rfl⟩
  all_goals simp

theorem names_of_dot (h : cs.head?.all (· = '/')) : names ('.' :: cs) = names cs := by
  cases cs
  case nil => decide
  case cons c cs =>
    obtain rfl : c = '/' := by simpa using h
    exact (names_slash ['.'] cs).trans (names_slash [] cs).symm

theorem names_body (cs : List Char) : names (body cs) = names cs := by
  obtain ⟨bs, rfl, -, hb⟩ | ⟨bs, rfl, -, hb, hs⟩ | ⟨-, -, hb⟩ := root_cases cs <;> rw [hb]
  case inl => exact (names_slash [] bs).symm
  case inr.inl => exact (names_of_dot hs).symm

-- The last part is the last part of the body unless it is left out.
theorem getLast?_parts_body (h : (parts cs).getLast? = some last) (hl : isFiller last = false) :
    (parts (body cs)).getLast? = some last := by
  obtain ⟨bs, rfl, -, hb⟩ | ⟨bs, rfl, -, hb, hs⟩ | ⟨-, -, hb⟩ := root_cases cs <;> rw [hb]
  case inl => rwa [← List.nil_append ('/' :: bs), getLast?_parts_slash] at h
  case inr.inl =>
    cases bs
    case nil =>
      cases h
      cases hl
    case cons c bs =>
      obtain rfl : c = '/' := by simpa using hs
      have hd : (parts ('.' :: '/' :: bs)).getLast? = (parts bs).getLast? :=
        getLast?_parts_slash ['.'] bs
      exact (getLast?_parts_slash [] bs).trans (hd.symm.trans h)
  case inr.inr => exact h

-- What a path with a name at its end has for its directory.
theorem parent?_eq (h : (parts path.toList).getLast? = some last) (hl : isFiller last = false) :
    parent? path = some (String.ofList (root path.toList ++
      ['/'].intercalate (dropFillers (parts (body path.toList)).dropLast))) := by
  have ⟨ps, hp⟩ := List.getLast?_eq_some_iff.mp (getLast?_parts_body h hl)
  have hd : dropFillers (ps ++ [last]) = ps ++ [last] := by
    rw [dropFillers_eq_rdropWhile, List.rdropWhile_concat_neg _ _ _ (by simp [hl])]
  rw [parent?, hp, hd]
  simp

theorem intercalate_prefix {ps qs : List (List Char)} (h : ps <+: qs) :
    ['/'].intercalate ps <+: ['/'].intercalate qs := by
  obtain ⟨rs, rfl⟩ := h
  induction ps
  case nil => exact List.nil_prefix
  case cons p ps ih =>
    cases ps
    case nil =>
      cases rs
      case nil => exact List.prefix_rfl
      case cons => simp [List.intercalate_cons_cons]
    case cons q ps => simpa [List.intercalate_cons_cons] using ih

-- The text between the root of a path and the end of its directory.
def stem (cs : List Char) : List Char :=
  ['/'].intercalate (dropFillers (parts (body cs)).dropLast)

theorem stem_prefix_body (cs : List Char) : stem cs <+: body cs := by
  have h : dropFillers (parts (body cs)).dropLast <+: parts (body cs) :=
    (List.rdropWhile_prefix ..).trans (List.dropLast_prefix _)
  have hi := intercalate_prefix h
  rwa [parts, List.intercalate_splitOn] at hi

theorem names_stem (h : (parts cs).getLast? = some last) (hl : isFiller last = false) :
    names (stem cs) = (names cs).dropLast := by
  have ⟨ps, hp⟩ := List.getLast?_eq_some_iff.mp (getLast?_parts_body h hl)
  have hs : ∀ p ∈ dropFillers (parts (body cs)).dropLast, '/' ∉ p := fun p hm =>
    not_mem_of_mem_splitOn '/' _ p <|
      (List.dropLast_prefix _).subset <| (List.rdropWhile_prefix ..).subset hm
  rw [stem, names_intercalate hs, filter_dropFillers, ← names_body, names, hp]
  simp [hl]

theorem head?_stem {c : Char} (h : (stem cs).head? = some c) : (body cs).head? = some c := by
  have ⟨rs, he⟩ := stem_prefix_body cs
  rw [← he, List.head?_append, h, Option.some_or]

theorem names_root_stem (cs : List Char) : names (root cs ++ stem cs) = names (stem cs) := by
  obtain ⟨bs, -, hr, -⟩ | ⟨bs, -, hr, hb, hs⟩ | ⟨-, hr, -⟩ := root_cases cs <;> rw [hr]
  case inl => exact names_slash [] _
  case inr.inl =>
    have hd : (stem cs).head?.all (· = '/') := by
      cases hc : (stem cs).head?
      case none => rfl
      case some c => rwa [← hb, head?_stem hc] at hs
    exact names_of_dot hd
  case inr.inr => rfl

theorem directory_eq (h : (parts path.toList).getLast? = some last) (hl : isFiller last = false) :
    directory path = if root path.toList ++ stem path.toList = [] then "."
      else String.ofList (root path.toList ++ stem path.toList) := by
  rw [directory, parent?_eq h hl, ← stem]
  simp

theorem names_directory (h : (parts path.toList).getLast? = some last)
    (hl : isFiller last = false) :
    names (directory path).toList = (names path.toList).dropLast := by
  rw [← names_stem h hl, ← names_root_stem, directory_eq h hl]
  split
  case isTrue he =>
    rw [he]
    decide
  case isFalse => rw [String.toList_ofList]

theorem isAbsolute_directory (h : (parts path.toList).getLast? = some last)
    (hl : isFiller last = false) : isAbsolute (directory path) = isAbsolute path := by
  rw [isAbsolute, isAbsolute, directory_eq h hl, decide_eq_decide]
  obtain ⟨bs, hc, hr, -⟩ | ⟨bs, hc, hr, -⟩ | ⟨hc, hr, hb⟩ := root_cases path.toList <;> rw [hr]
  case inl => simp [hc]
  case inr.inl => simp [hc]
  case inr.inr =>
    refine iff_of_false ?_ hc
    split
    case isTrue => decide
    case isFalse =>
      rw [String.toList_ofList, List.nil_append]
      exact fun hs => hc (hb ▸ head?_stem hs)

end Path

namespace FileTree

-- Neither empty nor a dot.
def isProper (name : String) : Bool :=
  name ≠ "" && name ≠ "."

theorem isProper_ofList (p : List Char) : isProper (String.ofList p) = !Path.isFiller p := by
  simp [isProper, Path.isFiller, ← String.toList_inj]

theorem filter_steps_isProper (path : String) :
    (steps path).filter isProper = (Path.names path.toList).map String.ofList := by
  have hs : (if (Path.parts path.toList).getLast? = some [] then [""] else []).filter isProper =
      [] := by split <;> decide
  have hp (p : List Char) : (isProper (String.ofList p) && decide (p ≠ [])) = !Path.isFiller p := by
    rw [isProper_ofList, Path.isFiller]
    by_cases h : p = [] <;> simp [h]
  simp only [steps, List.filter_append, hs, List.append_nil, List.filter_map, List.filter_filter,
    Function.comp_apply, hp, Path.names]

theorem getLast?_parts_of_steps {path last : String} {names : List String}
    (h : steps path = names ++ [last]) (hl : last ≠ "") :
    (Path.parts path.toList).getLast? = some last.toList := by
  have hne : Path.parts path.toList ≠ [] := List.splitOn_ne_nil '/' path.toList
  have ⟨ps, p, hp⟩ := List.eq_nil_or_concat _ |>.resolve_left hne
  rw [List.concat_eq_append] at hp
  rw [steps, hp, List.getLast?_concat] at h
  by_cases hn : p = []
  case pos =>
    have he := congrArg List.getLast? h
    simp [hn, hl.symm] at he
  case neg =>
    have he := congrArg List.getLast? h
    simp [hn] at he
    rw [hp, List.getLast?_concat, ← he, String.toList_ofList]

end FileTree

end TabPruning
