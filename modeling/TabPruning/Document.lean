namespace TabPruning

theorem not_mem_of_mem_splitOn (c : Char) (cs : List Char) : ∀ l ∈ cs.splitOn c, c ∉ l := by
  induction cs with
  | nil => simp
  | cons d cs ih =>
    obtain ⟨l, ls, hls⟩ := List.exists_cons_of_ne_nil (List.splitOn_ne_nil c cs)
    rw [List.splitOn_cons_eq_if_modifyHead]
    rw [hls] at ih ⊢
    split
    · exact List.forall_mem_cons.mpr ⟨List.not_mem_nil, ih⟩
    · have ⟨hl, hls⟩ := List.forall_mem_cons.mp ih
      exact List.forall_mem_cons.mpr ⟨by simp_all [Ne.symm], hls⟩

abbrev Line := List Char

-- The lines that a text splits into at its line feeds. A carriage return belongs to its line, and a
-- text that ends with a line feed has an empty last line.
abbrev Document := List Line

namespace Document

def ofText (cs : List Char) : Document :=
  cs.splitOn '\n'

def toText (d : Document) : List Char :=
  ['\n'].intercalate d

theorem not_mem_of_mem_ofText {cs : List Char} : ∀ l ∈ ofText cs, '\n' ∉ l :=
  not_mem_of_mem_splitOn '\n' cs

theorem toText_ofText (cs : List Char) : (ofText cs).toText = cs :=
  List.intercalate_splitOn '\n'

theorem ofText_toText {d : Document} (hd : d ≠ []) (h : ∀ l ∈ d, '\n' ∉ l) :
    ofText d.toText = d :=
  List.splitOn_intercalate '\n' h hd

end Document

end TabPruning
