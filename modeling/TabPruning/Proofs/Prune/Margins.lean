import Mathlib.Data.List.Infix
import TabPruning.Proofs.Prune.Declarations

namespace TabPruning

namespace Line

-- What `f` tells of a line is the same without white space at its ends.
structure IgnoresMargins (f : Line → α) : Prop where
  cons   : ∀ {c l}, isBlank c → f (c :: l) = f l
  concat : ∀ {c l}, isBlank c → f (l ++ [c]) = f l

variable {f : Line → α} {name text : List Char} {l : Line} {c : Char}

theorem trimEnd_concat (l : Line) (c : Char) :
    trimEnd (l ++ [c]) = if isBlank c then trimEnd l else l ++ [c] := by
  rw [trimEnd, List.reverse_concat, List.dropWhile_cons]
  split
  case isTrue  => rfl
  case isFalse => simp

namespace IgnoresMargins

theorem trimStart_eq (h : IgnoresMargins f) (l : Line) : f (trimStart l) = f l := by
  induction l
  case nil => rfl
  case cons c l ih =>
    rw [trimStart, List.dropWhile_cons]
    split
    case isTrue hc => exact ih.trans (h.cons hc).symm
    case isFalse   => rfl

theorem trimEnd_eq (h : IgnoresMargins f) (l : Line) : f (trimEnd l) = f l := by
  induction l using List.reverseRecOn
  case nil => rfl
  case append_singleton l c ih =>
    rw [trimEnd_concat]
    split
    case isTrue hc => exact ih.trans (h.concat hc).symm
    case isFalse   => rfl

theorem trim_eq (h : IgnoresMargins f) (l : Line) : f (trim l) = f l :=
  (h.trimStart_eq _).trans <| h.trimEnd_eq l

end IgnoresMargins

theorem ne_of_isBlank {a : Char} (h : isBlank c) (ha : isBlank a = false) : c ≠ a :=
  fun he => by simp [he, ha] at h

theorem ignoresMargins_count {a : Char} (ha : isBlank a = false) :
    IgnoresMargins fun l => l.count a where
  cons hc   := List.count_cons_of_ne <| ne_of_isBlank hc ha
  concat hc := by simp [List.count_append, List.count_cons_of_ne <| ne_of_isBlank hc ha]

theorem ignoresMargins_braceDelta : IgnoresMargins braceDelta where
  cons hc   := by
    rw [braceDelta, (ignoresMargins_count (by decide)).cons hc,
      (ignoresMargins_count (by decide)).cons hc, ← braceDelta]
  concat hc := by
    rw [braceDelta, (ignoresMargins_count (by decide)).concat hc,
      (ignoresMargins_count (by decide)).concat hc, ← braceDelta]

-- A text between two characters that are no white space lies within the margins.
theorem ignoresMargins_infix (hs : ∃ c ∈ text.head?, isBlank c = false)
    (he : ∃ c ∈ text.getLast?, isBlank c = false) : IgnoresMargins fun l => text <:+: l where
  cons hc := by
    obtain ⟨a, ha, hb⟩ := hs
    obtain ⟨cs, rfl⟩ := List.head?_eq_some_iff.mp ha
    simp [List.infix_cons_iff, (ne_of_isBlank hc hb).symm]
  concat {c l} hc := by
    obtain ⟨a, ha, hb⟩ := he
    obtain ⟨cs, rfl⟩ := List.getLast?_eq_some_iff.mp ha
    rw [← List.reverse_infix, List.reverse_concat, ← @List.reverse_infix _ _ l]
    simp [List.infix_cons_iff, (ne_of_isBlank hc hb).symm]

theorem ignoresMargins_trigger (m : Marker) : IgnoresMargins fun l => m.trigger.toList <:+: l :=
  ignoresMargins_infix ⟨'a', by cases m <;> decide, by decide⟩
    ⟨'\'', by cases m <;> decide, by decide⟩

theorem trimStart_concat (hc : isBlank c) (l : Line) :
    trimStart (l ++ [c]) = if (trimStart l).isEmpty then [] else trimStart l ++ [c] := by
  rw [trimStart, List.dropWhile_append]
  simp [trimStart, hc]

theorem trimEnd_cons (hc : isBlank c) (l : Line) :
    trimEnd (c :: l) = if (trimEnd l).isEmpty then [] else c :: trimEnd l := by
  have h := trimStart_concat hc l.reverse
  rw [trimEnd, List.reverse_cons, ← trimStart, h, trimEnd, ← trimStart]
  split <;> simp_all

theorem ignoresMargins_startsWithCloser : IgnoresMargins startsWithCloser where
  cons hc := by simp [startsWithCloser, trimStart, hc]
  concat {c l} hc := by
    rw [startsWithCloser, trimStart_concat hc, startsWithCloser]
    cases trimStart l <;> rfl

theorem ignoresMargins_endsWithComma : IgnoresMargins endsWithComma where
  cons {c l} hc := by
    rw [endsWithComma, trimEnd_cons hc, endsWithComma]
    cases trimEnd l <;> rfl
  concat hc := by rw [endsWithComma, trimEnd_concat, if_pos hc, ← endsWithComma]

theorem isDeclaration_concat_iff (hc : isBlank c) :
    IsDeclaration name (l ++ [c]) ↔ IsDeclaration name l := by
  constructor
  case mp =>
    rintro ⟨before, after, rest, hl, hb, ha⟩
    cases rest using List.reverseRecOn
    case nil =>
      cases List.append_inj_right' hl rfl
      exact absurd hc <| by decide
    case append_singleton rest d _ =>
      refine ⟨before, after, rest, ?_, hb, ha⟩
      rw [← List.cons_append, ← List.append_assoc] at hl
      exact List.append_inj_left' hl rfl
  case mpr =>
    rintro ⟨before, after, rest, rfl, hb, ha⟩
    exact ⟨before, after, rest ++ [c], by simp, hb, ha⟩

theorem opensWith_of_isBlank (hn : IsBareName name) (hc : isBlank c) :
    opensWith name (c :: l) = false := by
  refine Bool.eq_false_iff.mpr fun h => ?_
  have ⟨after, rest, hl, _⟩ := opensWith_iff.mp h
  obtain ⟨d, ds, rfl⟩ := List.exists_cons_of_ne_nil hn.ne_nil
  cases hl
  exact absurd hc <| by simp [hn.bare c (.head _)]

theorem ignoresMargins_declares (hn : IsBareName name) : IgnoresMargins (declares name) where
  cons hc   := by rw [declares, opensWith_of_isBlank hn hc, hc, Bool.false_or, Bool.true_and]
  concat hc := by
    rw [Bool.eq_iff_iff, declares_iff, declares_iff, isDeclaration_concat_iff hc]

theorem ignoresMargins_declaresSome : IgnoresMargins declaresSome where
  cons hc   := by simp [declaresSome, trimStart, hc]
  concat hc := by
    rw [Bool.eq_iff_iff, declaresSome_iff, declaresSome_iff]
    simp only [isDeclaration_concat_iff hc]

theorem ignoresMargins_isContinuation : IgnoresMargins isContinuation where
  cons hc   := by
    simp only [isContinuation, ignoresMargins_endsWithComma.cons hc,
      ignoresMargins_declaresSome.cons hc, ignoresMargins_startsWithCloser.cons hc]
  concat hc := by
    simp only [isContinuation, ignoresMargins_endsWithComma.concat hc,
      ignoresMargins_declaresSome.concat hc, ignoresMargins_startsWithCloser.concat hc]

end Line

theorem Detector.ignoresMargins_marker? (detector : Detector) :
    Line.IgnoresMargins detector.marker? where
  cons hc   := by simp only [marker?, (Line.ignoresMargins_trigger _).cons hc]
  concat hc := by simp only [marker?, (Line.ignoresMargins_trigger _).concat hc]

def NumberedLine.trim (n : NumberedLine) : NumberedLine :=
  { n with line := TabPruning.trim n.line }

def Excision.trim (e : Excision) : Excision :=
  { e with kept := e.kept.map (·.trim) }

def Stripping.trim (s : Stripping) : Stripping :=
  { s with kept := s.kept.map (·.trim) }

theorem BlockEnd.scan_trim (depth : Int) (i : Nat) (ls : Document) :
    scan depth i (ls.map trim) = scan depth i ls := by
  induction ls generalizing depth i
  case nil => rfl
  case cons l ls ih =>
    rw [List.map_cons, scan, scan, Line.ignoresMargins_braceDelta.trim_eq, ih]

-- Cutting a trimmed document comes to trimming what is kept of the document.
theorem Document.exciseFrom_trim (detector : Detector) (i : Nat) (ls : Document) :
    exciseFrom detector i (ls.map trim) = (exciseFrom detector i ls).trim := by
  fun_induction exciseFrom detector i ls
  case case1 => rw [List.map_nil, exciseFrom]; rfl
  case case2 i l ls hm tail ih =>
    rw [List.map_cons, exciseFrom, detector.ignoresMargins_marker?.trim_eq, hm]
    simp only [ih]
    rfl
  case case3 i l ls m hm stop tail ih =>
    rw [List.map_cons, exciseFrom, detector.ignoresMargins_marker?.trim_eq, hm,
      Line.ignoresMargins_braceDelta.trim_eq, BlockEnd.scan_trim]
    rw [List.map_drop] at ih
    simp only [stop, ih]
    rfl

theorem stripField_trim {field : String} (hn : Line.IsBareName field.toList)
    (ls : List NumberedLine) : stripField field (ls.map (·.trim)) = (stripField field ls).trim := by
  have hd := (Line.ignoresMargins_declares hn).trim_eq
  have he := Line.ignoresMargins_endsWithComma.trim_eq
  have hi := Line.ignoresMargins_isContinuation.trim_eq
  fun_induction stripField field ls <;>
    simp_all [stripField, Stripping.trim, Stripping.keep, Stripping.remove, NumberedLine.trim]

theorem stripFields_trim {fields : List String} (hn : ∀ f ∈ fields, Line.IsBareName f.toList)
    (ls : List NumberedLine) :
    stripFields fields (ls.map (·.trim)) = (stripFields fields ls).trim := by
  induction fields generalizing ls
  case nil => rfl
  case cons field fields ih =>
    have ⟨hf, hfs⟩ := List.forall_mem_cons.mp hn
    rw [stripFields, stripField_trim hf]
    simp only [Stripping.trim, ih hfs]
    rfl

namespace Config

variable {c : Config} {text text' : String}

theorem excise_trim_eq
    (h : (Document.ofText text.toList).map trim = (Document.ofText text'.toList).map trim) :
    (c.excise text).trim = (c.excise text').trim := by
  rw [excise, Document.excise, ← Document.exciseFrom_trim, h, Document.exciseFrom_trim]
  rfl

theorem residue_trim_eq (hc : c.validate = .ok ())
    (h : (Document.ofText text.toList).map trim = (Document.ofText text'.toList).map trim) :
    (c.residue text).trim = (c.residue text').trim := by
  have hk := congrArg Excision.kept <| excise_trim_eq (c := c) h
  have hn := isBareName_of_mem hc
  rw [residue, ← stripFields_trim hn, residue, ← stripFields_trim hn]
  exact congrArg _ hk

theorem residue_kept_index_eq (hc : c.validate = .ok ())
    (h : (Document.ofText text.toList).map trim = (Document.ofText text'.toList).map trim) :
    (c.residue text).kept.map (·.index) = (c.residue text').kept.map (·.index) := by
  have hk := congrArg (·.kept.map (·.index)) <| residue_trim_eq hc h
  simpa [Stripping.trim, Function.comp_def, NumberedLine.trim] using hk

theorem residue_kept_lines (c : Config) (text : String) :
    ∀ n ∈ (c.residue text).kept, (Document.ofText text.toList)[n.index]? = some n.line := by
  have ⟨_, p, _⟩ := stripFields_passes c.fields (c.excise text).kept
  exact fun n hn => (c.excise_segmentation text).kept_lines n <| p.sublist.subset hn

theorem residue_kept_ordered (c : Config) (text : String) :
    ((c.residue text).kept.map (·.index)).Pairwise (· < ·) := by
  have ⟨_, p, _⟩ := stripFields_passes c.fields (c.excise text).kept
  exact (c.excise_segmentation text).kept_ordered.sublist <| p.sublist.map _

theorem prune_text_eq (hc : c.validate = .ok ()) (text : String) :
    (c.prune text).text = String.ofList
      ((Document.ofText text.toList).select ((c.residue text).kept.map (·.index))).toText := by
  rw [prune_eq_residue (fields_ne_nil hc), Document.select_map_index <| c.residue_kept_lines text,
    Stripping.toText]

-- Texts that differ in the margins of their lines only get the same report, and what is left of
-- them are the lines at the same indices.
theorem prune_ignores_margins (hc : c.validate = .ok ())
    (h : (Document.ofText text.toList).map trim = (Document.ofText text'.toList).map trim) :
    let d := Document.ofText text.toList
    let d' := Document.ofText text'.toList
    let o := c.prune text
    let o' := c.prune text'
    o.log = o'.log ∧ o.removals = o'.removals ∧
    ∃ kept : List Nat, kept.Pairwise (· < ·) ∧ (∀ i ∈ kept, i < d.length) ∧
      o.text = String.ofList (d.select kept).toText ∧
      o'.text = String.ofList (d'.select kept).toText := by
  intro d d' o o'
  refine ⟨?log, ?removals, (c.residue text).kept.map (·.index), c.residue_kept_ordered text,
    ?inside, prune_text_eq hc text, ?text⟩
  case log =>
    have he := congrArg Excision.log <| excise_trim_eq (c := c) h
    exact he
  case removals =>
    have hr := congrArg Stripping.removals <| residue_trim_eq hc h
    simp only [o, o', prune_eq_residue (fields_ne_nil hc)]
    exact hr
  case inside =>
    exact List.forall_mem_map.mpr fun n hn => Document.index_lt <| c.residue_kept_lines text n hn
  case text => exact residue_kept_index_eq hc h ▸ prune_text_eq hc text'

-- Tabs, carriage returns and a space of East Asian width.
theorem prune_ignores_margins_of_other_system :
    let text := "a,\n  if (activeTab === 'team') \x7b\n  \x7d\ncustom_domain :\n  x,\nb"
    let text' := "\ta,\r\nif (activeTab === 'team') \x7b\u3000\r\n\x7d\r\n" ++
      "\u3000custom_domain :\r\nx,\t\r\nb\r"
    validate {} = .ok () ∧
    (Document.ofText text.toList).map trim = (Document.ofText text'.toList).map trim ∧
    (prune {} text).log = (prune {} text').log ∧
    (prune {} text).removals = (prune {} text').removals ∧
    (prune {} text).text = "a,\nb" ∧ (prune {} text').text = "\ta,\r\nb\r" := by
  intro text text'
  have hc : validate {} = .ok () := rfl
  have h : (Document.ofText text.toList).map trim = (Document.ofText text'.toList).map trim := by
    decide +kernel
  have ⟨hl, hr, _⟩ := prune_ignores_margins hc h
  refine ⟨hc, h, hl, hr, ?_, ?_⟩ <;> decide +kernel

end Config

end TabPruning
