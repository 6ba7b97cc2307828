import TabPruning.Field
import TabPruning.Proofs.Block.Checked

namespace TabPruning

open Checked

-- A pass under way: the lines it has kept, and the removals of this pass and of those before it.
structure FieldScan where
  isOpen   : Bool              := false
  kept     : List NumberedLine := []
  removals : List FieldRemoval

namespace FieldScan

-- Counts one more line to the last removal.
def extendLast (rs : List FieldRemoval) : Checked (List FieldRemoval) :=
  match rs.getLast? with
  | none   => .error .nothingRemoved
  | some r => .ok (rs.dropLast ++ [{ r with linesRemoved := r.linesRemoved + 1 }])

def step (field : String) (s : FieldScan) (n : NumberedLine) : Checked FieldScan :=
  if s.isOpen && n.line.isContinuation then do
    return { s with isOpen := false, removals := ← extendLast s.removals }
  else if n.line.declares field.toList then
    .ok { s with
      isOpen   := !n.line.endsWithComma
      removals := s.removals ++ [⟨field, n.index + 1, 1⟩] }
  else
    .ok { s with isOpen := false, kept := s.kept ++ [n] }

variable {field : String} {n : NumberedLine} {kept : List NumberedLine} {rs : List FieldRemoval}

theorem step_keep (h : n.line.declares field.toList = false) :
    step field ⟨false, kept, rs⟩ n = .ok ⟨false, kept ++ [n], rs⟩ := by
  simp [step, h]

theorem step_declaration (h : n.line.declares field.toList) :
    step field ⟨false, kept, rs⟩ n =
      .ok ⟨!n.line.endsWithComma, kept, rs ++ [⟨field, n.index + 1, 1⟩]⟩ := by
  simp [step, h]

theorem step_continuation (h : n.line.isContinuation) (r : FieldRemoval) :
    step field ⟨true, kept, rs ++ [r]⟩ n =
      .ok ⟨false, kept, rs ++ [{ r with linesRemoved := r.linesRemoved + 1 }]⟩ := by
  simp [step, h, extendLast]

-- What does not continue an open declaration is looked at as any other line.
theorem step_isOpen (h : n.line.isContinuation = false) (isOpen : Bool) :
    step field ⟨isOpen, kept, rs⟩ n = step field ⟨false, kept, rs⟩ n := by
  simp [step, h]

theorem foldlM_step_cons {s s' : FieldScan} (h : step field s n = .ok s')
    (ls : List NumberedLine) : (n :: ls).foldlM (step field) s = ls.foldlM (step field) s' := by
  rw [List.foldlM_cons, h, ok_bind]

-- The cases are those of the pass, which looks ahead where the machine remembers.
theorem foldlM_step (field : String) (ls kept : List NumberedLine) (rs : List FieldRemoval) :
    ∃ isOpen, ls.foldlM (step field) ⟨false, kept, rs⟩ =
      .ok ⟨isOpen, kept ++ (stripField field ls).kept, rs ++ (stripField field ls).removals⟩ := by
  fun_induction stripField field ls generalizing kept rs
  case case1 =>
    rw [List.append_nil, List.append_nil]
    exact ⟨_, rfl⟩
  case case2 h =>
    rw [foldlM_step_cons (step_declaration h), List.append_nil]
    exact ⟨_, rfl⟩
  case case3 h =>
    rw [foldlM_step_cons (step_keep (by simpa using h)), List.append_nil]
    exact ⟨_, rfl⟩
  case case4 l next ls h ih =>
    have ⟨isOpen, ih⟩ := ih (kept ++ [l]) rs
    rw [foldlM_step_cons (step_keep (by simpa using h)), ih, List.append_assoc]
    exact ⟨isOpen, rfl⟩
  case case5 l next ls h hc ih =>
    have ⟨isOpen, ih⟩ := ih kept (rs ++ [⟨field, l.index + 1, 2⟩])
    simp only [Bool.and_eq_true, Bool.not_eq_true'] at hc
    rw [foldlM_step_cons (step_declaration (by simpa using h)), hc.1, Bool.not_false,
      foldlM_step_cons (step_continuation hc.2 _), ih, List.append_assoc]
    exact ⟨isOpen, rfl⟩
  case case6 l next ls h hc ih =>
    have ⟨isOpen, ih⟩ := ih kept (rs ++ [⟨field, l.index + 1, 1⟩])
    rw [foldlM_step_cons (step_declaration (by simpa using h))]
    -- Either the declaration is closed, or the next line does not continue it.
    have hn : (next :: ls).foldlM (step field)
          ⟨!l.line.endsWithComma, kept, rs ++ [⟨field, l.index + 1, 1⟩]⟩ =
        (next :: ls).foldlM (step field) ⟨false, kept, rs ++ [⟨field, l.index + 1, 1⟩]⟩ := by
      cases he : l.line.endsWithComma
      case true  => rfl
      case false =>
        simp only [he, Bool.not_false, Bool.true_and, Bool.not_eq_true] at hc
        rw [List.foldlM_cons, List.foldlM_cons, step_isOpen hc]
    rw [hn, ih, List.append_assoc]
    exact ⟨isOpen, rfl⟩

end FieldScan

-- One pass per field; what the log tells of a pass is by how much the removals have grown.
def checkedPasses (fields : List String) (ls : List NumberedLine) (rs : List FieldRemoval) :
    Checked Stripping :=
  match fields with
  | []              => .ok ⟨ls, rs⟩
  | field :: fields => do
    let s ← ls.foldlM (FieldScan.step field) { removals := rs }
    let _ ← sub s.removals.length rs.length
    checkedPasses fields s.kept s.removals

theorem checkedPasses_eq_ok (fields : List String) (ls : List NumberedLine)
    (rs : List FieldRemoval) : checkedPasses fields ls rs =
      .ok ⟨(stripFields fields ls).kept, rs ++ (stripFields fields ls).removals⟩ := by
  induction fields generalizing ls rs
  case nil => rw [checkedPasses, stripFields, List.append_nil]
  case cons field fields ih =>
    have ⟨_, h⟩ := FieldScan.foldlM_step field ls [] rs
    rw [checkedPasses, h, ok_bind, sub_eq_ok (by simp), ok_bind, ih, List.append_assoc]
    rfl

namespace Document

def checkedStrip (d : Document) (fields : List String) : Checked Stripping :=
  checkedPasses fields d.numbered []

theorem checkedStrip_eq_ok (d : Document) (fields : List String) :
    d.checkedStrip fields = .ok (d.strip fields) :=
  checkedPasses_eq_ok fields d.numbered []

end Document

end TabPruning
