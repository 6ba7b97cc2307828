import TabPruning.Json.Decoder

namespace TabPruning.Json

-- The scan of `s` gives the value and leaves `rest`.
def Reads (f : Scanner α) (s : List Char) (a : α) (rest : List Char) : Prop :=
  ∃ h, f s = .ok ⟨a, rest, h⟩

-- The text is a way to write the value, whatever follows it.
def Spells (f : Scanner α) (text : List Char) (a : α) : Prop :=
  ∀ rest, Reads f (text ++ rest) a rest

-- White space, and behind the first element or member a comma with white space around it.
inductive Separator : Bool → List Char → Prop
  | first : w.all isSpace → Separator true w
  | later : w.all isSpace → u.all isSpace → Separator false (w ++ ',' :: u)

variable {f : Scanner α} {s rest ws : List Char} {c : Char} {a : α} {first : Bool}

theorem skipSpace_append (hw : ws.all isSpace) (hc : isSpace c = false) :
    ∃ h, skipSpace (ws ++ c :: s) = ⟨c :: s, h⟩ := by
  have h : (ws ++ c :: s).dropWhile isSpace = c :: s := by
    rw [List.dropWhile_append_of_pos <| List.all_eq_true.mp hw,
      List.dropWhile_cons_of_neg <| by simp [hc]]
  exact ⟨by simp, Subtype.ext h⟩

theorem Reads.spaced (hw : ws.all isSpace) (hc : isSpace c = false)
    (h : Reads f (c :: s) a rest) : Reads f.spaced (ws ++ c :: s) a rest := by
  have ⟨_, hs⟩ := skipSpace_append (s := s) hw hc
  have ⟨hr, hf⟩ := h
  refine ⟨by simp at hr ⊢; omega, ?_⟩
  rw [Scanner.spaced, hs]
  simp only [hf]
  rfl

theorem expectColon_append (hw : ws.all isSpace) :
    ∃ h, expectColon (ws ++ ':' :: s) = .ok ⟨s, h⟩ := by
  have ⟨_, hs⟩ := skipSpace_append (s := s) (c := ':') hw (by decide)
  rw [expectColon, hs]
  exact ⟨_, rfl⟩

theorem endList_append (hw : ws.all isSpace) : Reads endList (ws ++ ']' :: s) () s := by
  have ⟨h, hs⟩ := skipSpace_append (s := s) (c := ']') hw (by decide)
  refine ⟨h, ?_⟩
  rw [endList, hs]
  rfl

theorem endObject_append (hw : ws.all isSpace) : Reads endObject (ws ++ '}' :: s) () s := by
  have ⟨h, hs⟩ := skipSpace_append (s := s) (c := '}') hw (by decide)
  refine ⟨h, ?_⟩
  rw [endObject, hs]
  rfl

theorem nextElement_end (hw : ws.all isSpace) : nextElement first (ws ++ ']' :: s) = .ok none := by
  have ⟨_, hs⟩ := skipSpace_append (s := s) (c := ']') hw (by decide)
  rw [nextElement, hs]
  rfl

theorem nextKey_end (hw : ws.all isSpace) : nextKey first (ws ++ '}' :: s) = .ok none := by
  have ⟨_, hs⟩ := skipSpace_append (s := s) (c := '}') hw (by decide)
  rw [nextKey, hs]
  rfl

theorem Separator.nextElement_eq (h : Separator first ws) (hc : isSpace c = false) (hne : c ≠ ']') :
    ∃ h, nextElement first (ws ++ c :: s) = .ok (some ⟨c :: s, h⟩) := by
  cases h
  case first hw =>
    have ⟨_, hs⟩ := skipSpace_append (s := s) hw hc
    rw [nextElement, hs]
    split <;> simp_all
  case later ws ws' hw hw' =>
    have ⟨_, hs⟩ := skipSpace_append (s := ws' ++ c :: s) (c := ',') hw (by decide)
    have ⟨_, hs'⟩ := skipSpace_append (s := s) hw' hc
    rw [List.append_assoc, List.cons_append, nextElement, hs]
    refine ⟨by simp; omega, ?_⟩
    split
    case h_3 he =>
      cases he
      rw [if_neg Bool.false_ne_true, if_pos rfl, hs']
      split <;> simp_all
    all_goals simp_all

theorem Separator.nextKey_eq (h : Separator first ws) :
    ∃ h, nextKey first (ws ++ '"' :: s) = .ok (some ⟨s, h⟩) := by
  cases h
  case first hw =>
    have ⟨_, hs⟩ := skipSpace_append (s := s) (c := '"') hw (by decide)
    rw [nextKey, hs]
    exact ⟨_, rfl⟩
  case later ws ws' hw hw' =>
    have ⟨_, hs⟩ := skipSpace_append (s := ws' ++ '"' :: s) (c := ',') hw (by decide)
    have ⟨_, hs'⟩ := skipSpace_append (s := s) (c := '"') hw' (by decide)
    rw [List.append_assoc, List.cons_append, nextKey, hs]
    split
    case h_3 he =>
      cases he
      rw [if_neg Bool.false_ne_true, if_pos rfl, hs']
      exact ⟨by simp; omega, rfl⟩
    all_goals simp_all

theorem Reads.elements_nil (hn : nextElement first s = .ok none) (he : Reads endList s () rest) :
    Reads (f.elements first) s [] rest := by
  have ⟨h, he⟩ := he
  refine ⟨h, ?_⟩
  rw [Scanner.elements, hn]
  simp only [bind, Except.bind, he]
  rfl

theorem Reads.elements_cons {t u : List Char} {as : List α}
    (hn : ∃ h, nextElement first s = .ok (some ⟨t, h⟩)) (hf : Reads f t a u)
    (he : Reads (f.elements false) u as rest) : Reads (f.elements first) s (a :: as) rest := by
  have ⟨ht, hn⟩ := hn
  have ⟨hu, hf⟩ := hf
  have ⟨h, he⟩ := he
  refine ⟨Nat.lt_of_lt_of_le (Nat.lt_trans h hu) ht, ?_⟩
  rw [Scanner.elements, hn]
  simp only [bind, Except.bind, hf, he]
  rfl

theorem Reads.members_nil {σ : Type} {fields : List (Field σ)} {d : σ}
    (hn : nextKey first s = .ok none) (he : Reads endObject s () rest) :
    Reads (members fields d first) s d rest := by
  have ⟨h, he⟩ := he
  refine ⟨h, ?_⟩
  rw [members, hn]
  simp only [bind, Except.bind, he]
  rfl

theorem Reads.members_cons {σ : Type} {fields : List (Field σ)} {d d' d'' : σ} {t u v k : List Char}
    (hn : ∃ h, nextKey first s = .ok (some ⟨t, h⟩)) (hk : Reads stringBody t k u)
    (hm : ∃ h, memberValue fields (String.ofList k) d u = .ok (d', ⟨v, h⟩))
    (hr : Reads (members fields d' false) v d'' rest) :
    Reads (members fields d first) s d'' rest := by
  have ⟨ht, hn⟩ := hn
  have ⟨hu, hk⟩ := hk
  have ⟨hv, hm⟩ := hm
  have ⟨h, hr⟩ := hr
  refine ⟨by omega, ?_⟩
  rw [members, hn]
  simp only [bind, Except.bind, hk, hm, hr]
  rfl

theorem memberValue_of_field {σ : Type} {fields : List (Field σ)} {fd : Field σ} {d : σ}
    {k : String} {g : σ → σ} (hf : fields.find? (·.key = k) = some fd)
    (hd : fd.filled d = false) (hw : ws.all isSpace) (hv : Reads fd.fill s g rest) :
    ∃ h, memberValue fields k d (ws ++ ':' :: s) = .ok (g d, ⟨rest, h⟩) := by
  have ⟨hc, hc'⟩ := expectColon_append (s := s) hw
  have ⟨h, hv⟩ := hv
  refine ⟨by omega, ?_⟩
  rw [memberValue, hf]
  simp only [hd, Bool.false_eq_true, if_false, bind, Except.bind, hc', hv]
  rfl

end TabPruning.Json
