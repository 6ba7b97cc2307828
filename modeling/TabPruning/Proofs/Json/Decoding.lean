import TabPruning.Proofs.Json.Strings

namespace TabPruning.Json

def unit? : Json → Option Unit
  | null => some ()
  | _    => none

def bool? : Json → Option Bool
  | bool b => some b
  | _      => none

def string? : Json → Option String
  | string s => some (String.ofList s)
  | _        => none

-- A name, or an object with the name as its only key and nothing as its value.
def variant? (ofName? : String → Option α) : Json → Option α
  | string s           => ofName? (String.ofList s)
  | object [(k, null)] => ofName? (String.ofList k)
  | _                  => none

def list? (item : Json → Option α) : Json → Option (List α)
  | list vs => vs.mapM item
  | _       => none

-- The scan of `s` gives what there is and leaves `rest`, and fails if there is nothing.
inductive Gives (f : Scanner α) (s : List Char) : Option α → List Char → Prop
  | reads : (Reads f s a rest) → Gives f s (some a) rest
  | fails : (f s = .error e) → Gives f s none rest

-- Every text of a value is read as what the value decodes to.
def Decodes (f : Scanner α) (decode : Json → Option α) : Prop :=
  ∀ v t w rest, ValueText v t → w.all isSpace → Gives f (w ++ (t ++ rest)) (decode v) rest

variable {f : Scanner α} {decode : Json → Option α} {a? : Option α} {a : α} {b : Bool}
variable {c : Char} {s t u w rest : List Char} {v : Json} {first : Bool}

namespace Gives

theorem of_some (h : Gives f s (some a) rest) : Reads f s a rest := by
  cases h
  assumption

theorem of_none (h : Gives f s none rest) : ∃ e, f s = .error e := by
  cases h
  exact ⟨_, ‹_›⟩

theorem spaced (hw : w.all isSpace) (hc : isSpace c = false) (h : Gives f (c :: s) a? rest) :
    Gives f.spaced (w ++ c :: s) a? rest := by
  cases h
  case reads h => exact .reads <| h.spaced hw hc
  case fails e h =>
    have ⟨_, hs⟩ := skipSpace_append (s := s) hw hc
    refine .fails (e := e) ?_
    rw [Scanner.spaced, hs]
    simp only [h]
    rfl

theorem map {β : Type} {g : α → β} (h : Gives f s a? rest) :
    Gives (fun s => do let r ← f s; return r.map g) s (a?.map g) rest := by
  cases h
  case reads h =>
    have ⟨h', h⟩ := h
    refine .reads ⟨h', ?_⟩
    simp only [h]
    rfl
  case fails e h =>
    refine .fails (e := e) ?_
    simp only [h]
    rfl

-- What is given for the rest is given for the whole, if its first character is only passed over.
theorem behind {g : Scanner α} (h : Gives f s a? rest)
    (hg : g (c :: s) = do let r ← f s; return r.behind) : Gives g (c :: s) a? rest := by
  cases h
  case reads h =>
    have ⟨h', h⟩ := h
    refine .reads ⟨Nat.lt_succ_of_lt h', ?_⟩
    rw [hg, h]
    rfl
  case fails e h =>
    refine .fails (e := e) ?_
    rw [hg, h]
    rfl

-- No number is read where none is expected.
theorem number {digits : List Char} (h : NumberText digits) (hw : w.all isSpace)
    (hf : ∀ c s, c = '-' ∨ c.isDigit → ∃ e, f (c :: s) = .error e) :
    Gives f.spaced (w ++ (digits ++ rest)) none rest := by
  obtain ⟨c, s, rfl, hc⟩ := h.starts
  have he : c = '-' ∨ c.isDigit := by
    cases hc
    case minus   => exact .inl rfl
    case digit h => exact .inr h
  have ⟨_, he⟩ := hf c (s ++ rest) he
  exact .spaced hw hc.visible.1 (.fails he)

end Gives

theorem ne_of_number (h : c = '-' ∨ c.isDigit) (hd : d.isDigit = false) (hm : d ≠ '-') : c ≠ d := by
  obtain rfl | h := h
  · exact hm.symm
  · exact ne_of_isDigit h hd

namespace Decodes

theorem map {β : Type} {g : α → β} (h : Decodes f decode) :
    Decodes (fun s => do let r ← f s; return r.map g) (fun v => (decode v).map g) :=
  fun v t w rest ht hw => (h v t w rest ht hw).map

theorem unit : Decodes Scanner.unit unit? := by
  intro v t w rest h hw
  cases h
  case null     => exact .spaced hw rfl (.reads ⟨by simp; omega, rfl⟩)
  case number h =>
    refine .number h hw fun c s hc => ⟨wrongType "unit" (c :: s), ?_⟩
    have hn : c ≠ 'n' := ne_of_number hc rfl (by decide)
    simp [hn]
  all_goals exact .spaced hw rfl (.fails rfl)

theorem bool : Decodes Scanner.bool bool? := by
  intro v t w rest h hw
  cases h
  case boolTrue  => exact .spaced hw rfl (.reads ⟨by simp; omega, rfl⟩)
  case boolFalse => exact .spaced hw rfl (.reads ⟨by simp; omega, rfl⟩)
  case number h =>
    refine .number h hw fun c s hc => ⟨wrongType "a boolean" (c :: s), ?_⟩
    have ht : c ≠ 't' := ne_of_number hc rfl (by decide)
    have hf : c ≠ 'f' := ne_of_number hc rfl (by decide)
    simp [ht, hf]
  all_goals exact .spaced hw rfl (.fails rfl)

theorem string (expected : String) : Decodes (Scanner.string expected) string? := by
  intro v t w rest h hw
  cases h
  case string h =>
    have ⟨h', h⟩ := h.spells rest
    refine .spaced hw rfl (.reads ⟨Nat.lt_succ_of_lt h', ?_⟩)
    simp only [List.append_eq, bind, Except.bind, h]
    rfl
  case number h =>
    refine .number h hw fun c s hc => ⟨wrongType expected (c :: s), ?_⟩
    have hq : c ≠ '"' := ne_of_number hc rfl (by decide)
    simp [hq]
  all_goals exact .spaced hw rfl (.fails rfl)

end Decodes

-- The only member of an object ends with it.
theorem MembersText.skipSpace_nil (h : MembersText false [] t) (rest : List Char) :
    ∃ h, skipSpace (t ++ rest) = ⟨'}' :: rest, h⟩ := by
  cases h
  case done hw =>
    rw [List.append_assoc]
    exact skipSpace_append hw rfl

theorem MembersText.skipSpace_cons {m : List Char × Json} {ms : List (List Char × Json)}
    (h : MembersText false (m :: ms) t) (rest : List Char) :
    ∃ u h, skipSpace (t ++ rest) = ⟨',' :: u, h⟩ := by
  cases h
  case next hs _ =>
    cases hs
    case later hw _ =>
      rw [List.append_assoc, List.append_assoc]
      exact ⟨_, skipSpace_append hw rfl⟩

section Variant

variable (ofName? : String → Option α) (names : List String) {k : List Char}
variable {ms : List (List Char × Json)}

theorem variant?_object_cons (h : ofName? (String.ofList k) = a?) :
    variant? ofName? (.object ((k, v) :: ms)) =
      if unit? v = some () ∧ ms = [] then a? else none := by
  rw [← h]
  cases v
  case null => cases ms <;> simp [variant?, unit?]
  all_goals simp [variant?, unit?]

theorem StringText.gives_variant {cs : List Char} (h : StringText cs t) (rest : List Char) :
    Gives (Scanner.variant ofName? names) (t ++ rest) (ofName? (String.ofList cs)) rest := by
  have ⟨h', h⟩ := h.spells rest
  cases hf : ofName? (String.ofList cs)
  case none =>
    refine .fails (e := .here (.unknownVariant (String.ofList cs) names) rest) ?_
    simp only [Scanner.variant, bind, Except.bind, h, hf]
    rfl
  case some a =>
    refine .reads ⟨h', ?_⟩
    simp only [Scanner.variant, bind, Except.bind, h, hf]
    rfl

theorem MembersText.gives_variant (h : MembersText true ms t) (hw : w.all isSpace) :
    Gives (Scanner.enumeration ofName? names) (w ++ ('{' :: (t ++ rest)))
      (variant? ofName? (.object ms)) rest := by
  cases h
  case done w' hw' =>
    rw [List.append_assoc, List.singleton_append]
    refine .spaced hw rfl (.fails (e := .past 1 .keyNotString (skipSpace (w' ++ '}' :: rest)).1) ?_)
    simp only [bind, Except.bind, nextKey_end hw']
    rfl
  case next k key v t ms more w' w'' hk hw' hw'' hv hms hsep =>
    simp only [List.append_assoc, List.cons_append]
    have ⟨_, hn⟩ := hsep.nextKey_eq (s := key ++ (w' ++ ':' :: (w'' ++ (t ++ (more ++ rest)))))
    have ⟨_, hc⟩ := expectColon_append (s := w'' ++ (t ++ (more ++ rest))) hw'
    have hk := hk.gives_variant ofName? names (w' ++ ':' :: (w'' ++ (t ++ (more ++ rest))))
    have hu := Decodes.unit v t w'' (more ++ rest) hv hw''
    rw [variant?_object_cons ofName? rfl]
    generalize ofName? (String.ofList k) = a? at hk ⊢
    generalize unit? v = u? at hu ⊢
    cases hk
    case fails e hk =>
      rw [ite_self]
      refine .spaced hw rfl (.fails (e := e) ?_)
      simp only [bind, Except.bind, hn, hk]
    case reads hk =>
      have ⟨_, hk⟩ := hk
      cases hu
      case fails e hu =>
        refine .spaced hw rfl (.fails (e := e) ?_)
        simp only [bind, Except.bind, hn, hk, hc, hu]
      case reads hu =>
        have ⟨_, hu⟩ := hu
        cases ms
        case nil =>
          have ⟨_, hs⟩ := hms.skipSpace_nil rest
          refine .spaced hw rfl (.reads ⟨by simp; omega, ?_⟩)
          simp only [bind, Except.bind, hn, hk, hc, hu, hs]
          rfl
        case cons =>
          have ⟨u, _, hs⟩ := hms.skipSpace_cons rest
          refine .spaced hw rfl (.fails (e := .here .expectedValue (',' :: u)) ?_)
          simp only [bind, Except.bind, hn, hk, hc, hu, hs]
          rfl

theorem Decodes.enumeration : Decodes (Scanner.enumeration ofName? names) (variant? ofName?) := by
  intro v t w rest h hw
  cases h
  case string h =>
    exact .spaced hw rfl ((h.gives_variant ofName? names rest).behind rfl)
  case object h => exact h.gives_variant ofName? names hw
  case number h =>
    refine .number h hw fun c s hc => ⟨.past 1 .expectedValue (c :: s), ?_⟩
    have hb : c ≠ '{' := ne_of_number hc rfl (by decide)
    have hq : c ≠ '"' := ne_of_number hc rfl (by decide)
    simp
  all_goals exact .spaced hw rfl (.fails rfl)

end Variant

theorem gives_elements_nil (hw : w.all isSpace) :
    Gives (f.elements first) (w ++ ']' :: rest) (some []) rest :=
  .reads <| .elements_nil (nextElement_end hw) (endList_append hw)

theorem gives_elements_cons {as? : Option (List α)}
    (hn : ∃ h, nextElement first s = .ok (some ⟨t, h⟩)) (hf : Gives f t a? u)
    (he : Gives (f.elements false) u as? rest) :
    Gives (f.elements first) s (a?.bind fun a => as?.map (a :: ·)) rest := by
  cases hf
  case fails e hf =>
    obtain ⟨_, hn⟩ := hn
    refine .fails (e := e) ?_
    rw [Scanner.elements, hn]
    simp only [bind, Except.bind, hf]
  case reads hf =>
    cases he
    case reads he   => exact .reads <| .elements_cons hn hf he
    case fails e he =>
      obtain ⟨_, hn⟩ := hn
      obtain ⟨_, hf⟩ := hf
      refine .fails (e := e) ?_
      rw [Scanner.elements, hn]
      simp only [bind, Except.bind, hf, he]

theorem ElementsText.gives {vs : List Json} (hd : Decodes f decode) (h : ElementsText first vs t)
    (rest : List Char) : Gives (f.elements first) (t ++ rest) (vs.mapM decode) rest := by
  induction vs generalizing first t
  case nil =>
    cases h
    case done hw =>
      rw [List.append_assoc]
      exact gives_elements_nil hw
  case cons v vs ih =>
    cases h
    case next more hs hv hvs =>
      have ⟨c, t', ht, hc⟩ := hv.starts
      have hf := hd v _ [] (more ++ rest) hv rfl
      have hm : (v :: vs).mapM decode = (decode v).bind fun a => (vs.mapM decode).map (a :: ·) := by
        rw [List.mapM_cons]
        cases decode v <;> cases vs.mapM decode <;> rfl
      rw [hm]
      simp only [List.append_assoc]
      rw [ht] at hf ⊢
      exact gives_elements_cons (hs.nextElement_eq hc.visible.1 hc.visible.2) hf (ih hvs)

theorem Decodes.list (hd : Decodes f decode) : Decodes f.list (list? decode) := by
  intro v t w rest h hw
  cases h
  case list h   => exact .spaced hw rfl ((h.gives hd rest).behind rfl)
  case number h =>
    refine .number h hw fun c s hc => ⟨wrongType "a sequence" (c :: s), ?_⟩
    have hb : c ≠ '[' := ne_of_number hc rfl (by decide)
    simp [hb]
  all_goals exact .spaced hw rfl (.fails rfl)

theorem skipSpace_all (hw : w.all isSpace) : ∃ h, skipSpace w = ⟨[], h⟩ := by
  have h : w.dropWhile isSpace = [] := by
    rw [← List.append_nil w, List.dropWhile_append_of_pos <| List.all_eq_true.mp hw,
      List.dropWhile_nil]
  exact ⟨Nat.zero_le _, Subtype.ext h⟩

theorem Gives.document (hw : rest.all isSpace) (h : Gives f s a? rest) :
    (Scanner.document f s).toOption = a? := by
  cases h
  case reads h =>
    have ⟨_, h⟩ := h
    have ⟨_, hs⟩ := skipSpace_all hw
    rw [Scanner.document, Scanner.document.read, h]
    simp only [bind, Except.bind, hs]
    rfl
  case fails h =>
    rw [Scanner.document, Scanner.document.read, h]
    rfl

-- A whole text is read as what its value decodes to, if to anything.
theorem Decodes.document (h : Decodes f decode) (ht : DocumentText v t) :
    (Scanner.document f t).toOption = decode v := by
  cases ht
  case spaced hw hv hw' => exact (h _ _ _ _ hv hw).document hw'

end TabPruning.Json
