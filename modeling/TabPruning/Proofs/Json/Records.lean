import TabPruning.Proofs.Json.Skimming
import TabPruning.Proofs.Json.Slots

namespace TabPruning.Json

variable {σ : Type} {slots : List (Slot σ)} {slot : Slot σ} {fields : List (Field σ)} {d : σ}
variable {c : Char} {k key s t u w ws rest : List Char} {v : Json} {vs : List Json}
variable {ms : List (List Char × Json)} {first : Bool}

theorem Starts.ne_comma (h : Starts v c) : c ≠ ',' := by
  cases h
  case digit h => exact ne_of_isDigit h rfl
  all_goals decide

-- Where the end of a list is expected, no element is read.
theorem Separator.endList_fails (h : Separator first ws) (hc : Starts v c) (s : List Char) :
    ∃ e, endList (ws ++ c :: s) = .error e := by
  refine ⟨.past 1 .trailingCharacters (c :: s), ?_⟩
  cases h
  case first hw =>
    obtain ⟨_, hs⟩ := skipSpace_append (s := s) hw hc.visible.1
    rw [endList, hs]
    simp [hc.visible.2, hc.ne_comma]
  case later w w' hw hw' =>
    obtain ⟨_, hs⟩ := skipSpace_append (s := w' ++ c :: s) (c := ',') hw rfl
    obtain ⟨_, hs'⟩ := skipSpace_append (s := s) hw' hc.visible.1
    rw [List.append_assoc, List.cons_append, endList, hs]
    simp [hs', hc.visible.2]

theorem gives_listedFields_end (hw : w.all isSpace) :
    Gives (fun s => listedFields d first s fields) (w ++ ']' :: rest) (some d) rest := by
  have ⟨h, he⟩ := endList_append (s := rest) hw
  refine .reads ⟨h, ?_⟩
  cases fields
  case nil =>
    simp only [listedFields, he]
    rfl
  case cons =>
    simp only [listedFields, nextElement_end hw, bind, Except.bind, he]
    rfl

theorem gives_listedFields_next {a? : Option α} {put : α → σ → σ} {d? : α → Option σ} {f : Field σ}
    (hn : ∃ h, nextElement first s = .ok (some ⟨t, h⟩)) (hf : Gives f.fill t (a?.map put) u)
    (hr : ∀ a, Gives (fun s => listedFields (put a d) false s fields) u (d? a) rest) :
    Gives (fun s => listedFields d first s (f :: fields)) s (a?.bind d?) rest := by
  have ⟨_, hn⟩ := hn
  cases a?
  case none =>
    have ⟨e, hf⟩ := hf.of_none
    refine .fails (e := e) ?_
    simp only [listedFields, hn, bind, Except.bind, hf]
  case some a =>
    have ⟨_, hf⟩ := hf.of_some
    have hr := hr a
    rw [Option.bind_some]
    generalize d? a = d? at hr ⊢
    cases hr
    case fails e hr =>
      refine .fails (e := e) ?_
      simp only [listedFields, hn, bind, Except.bind, hf, hr]
    case reads hr =>
      have ⟨_, hr⟩ := hr
      refine .reads ⟨by omega, ?_⟩
      simp only [listedFields, hn, bind, Except.bind, hf, hr]
      rfl

theorem ElementsText.gives_listedFields (h : ElementsText first vs t) (rest : List Char) :
    Gives (fun s => listedFields d first s (slots.map (·.field))) (t ++ rest)
      (fillListed? d slots vs) rest := by
  induction vs generalizing slots d first t
  case nil =>
    cases h
    case done hw =>
      rw [List.append_assoc, fillListed?]
      exact gives_listedFields_end hw
  case cons v vs ih =>
    cases h
    case next t more hs hv hvs =>
      obtain ⟨c, t', ht, hc⟩ := hv.starts
      simp only [List.append_assoc]
      cases slots
      case nil =>
        rw [ht]
        obtain ⟨e, he⟩ := hs.endList_fails hc (t' ++ (more ++ rest))
        refine .fails (e := e) ?_
        simp only [List.map_nil, listedFields, List.cons_append, he]
        rfl
      case cons slot slots =>
        have hf := slot.decodes v t [] (more ++ rest) hv rfl
        rw [ht] at hf ⊢
        exact gives_listedFields_next (hs.nextElement_eq hc.visible.1 hc.visible.2) hf
          fun _ => ih hvs

theorem find?_fields (slots : List (Slot σ)) (key : String) :
    (slots.map (·.field)).find? (·.key = key) =
      (slots.find? (·.field.key = key)).map (·.field) :=
  List.find?_map ..

theorem memberValue_unknown {key : String} (hf : fields.find? (·.key = key) = none)
    (hw : w.all isSpace) (h : Skips skimValue s rest) :
    ∃ h, memberValue fields key d (w ++ ':' :: s) = .ok (d, ⟨rest, h⟩) := by
  have ⟨_, hc⟩ := expectColon_append (s := s) hw
  have ⟨_, h⟩ := h
  refine ⟨by omega, ?_⟩
  rw [memberValue, hf]
  simp only [bind, Except.bind, hc, h]
  rfl

theorem memberValue_filled {key : String} {f : Field σ}
    (hf : fields.find? (·.key = key) = some f) (hd : f.filled d) :
    memberValue fields key d s = .error (duplicateField key s) := by
  rw [memberValue, hf]
  simp only [hd]
  rfl

theorem memberValue_fails {key : String} {f : Field σ} {e : Stop}
    (hf : fields.find? (·.key = key) = some f) (hd : f.filled d = false) (hw : w.all isSpace)
    (h : f.fill s = .error e) : memberValue fields key d (w ++ ':' :: s) = .error e := by
  have ⟨_, hc⟩ := expectColon_append (s := s) hw
  rw [memberValue, hf]
  simp only [hd, Bool.false_eq_true, if_false, bind, Except.bind, hc, h]

theorem gives_members_end (hw : w.all isSpace) :
    Gives (members fields d first) (w ++ '}' :: rest) (some d) rest :=
  .reads <| .members_nil (nextKey_end hw) (endObject_append hw)

-- A member that gives the draft another value, followed by the other members.
theorem gives_members_next {d' : σ} {d'? : Option σ} (hn : ∃ h, nextKey first s = .ok (some ⟨t, h⟩))
    (hk : Reads stringBody t k u)
    (hm : ∃ h, memberValue fields (String.ofList k) d u = .ok (d', ⟨ws, h⟩))
    (hr : Gives (members fields d' false) ws d'? rest) :
    Gives (members fields d first) s d'? rest := by
  cases hr
  case reads hr   => exact .reads <| .members_cons hn hk hm hr
  case fails e hr =>
    have ⟨_, hn⟩ := hn
    have ⟨_, hk⟩ := hk
    have ⟨_, hm⟩ := hm
    refine .fails (e := e) ?_
    rw [members, hn]
    simp only [bind, Except.bind, hk, hm, hr]

theorem gives_members_fails {e : Stop} (hn : ∃ h, nextKey first s = .ok (some ⟨t, h⟩))
    (hk : Reads stringBody t k u) (hm : memberValue fields (String.ofList k) d u = .error e) :
    Gives (members fields d first) s none rest := by
  have ⟨_, hn⟩ := hn
  have ⟨_, hk⟩ := hk
  refine .fails (e := e) ?_
  rw [members, hn]
  simp only [bind, Except.bind, hk, hm]

theorem MembersText.gives_members (h : MembersText first ms t) (rest : List Char) :
    Gives (members (slots.map (·.field)) d first) (t ++ rest) (fillMembers? slots d ms) rest := by
  induction ms generalizing d first t
  case nil =>
    cases h
    case done hw =>
      rw [List.append_assoc, fillMembers?]
      exact gives_members_end hw
  case cons m ms ih =>
    cases h
    case next k key v t more w w' hk hw hw' hv hs hms =>
      simp only [List.append_assoc, List.cons_append]
      have hn := hs.nextKey_eq (s := key ++ (w ++ ':' :: (w' ++ (t ++ (more ++ rest)))))
      have hk := hk.spells (w ++ ':' :: (w' ++ (t ++ (more ++ rest))))
      have hf := find?_fields slots (String.ofList k)
      rw [fillMembers?]
      cases hslot : slots.find? (·.field.key = String.ofList k)
      case none =>
        rw [hslot] at hf
        have hskip := hv.skips_skimValue hw' (hms.endsNumber rest)
        exact gives_members_next hn hk (memberValue_unknown hf hw hskip) (ih hms)
      case some slot =>
        rw [hslot] at hf
        cases hd : slot.field.filled d
        case true =>
          simp only [hd, if_true]
          exact gives_members_fails hn hk (memberValue_filled hf hd)
        case false =>
          have hv : Gives slot.field.fill (w' ++ (t ++ (more ++ rest)))
              ((slot.decode v).map slot.put) (more ++ rest) :=
            slot.decodes v t w' (more ++ rest) hv hw'
          simp only [hd, Bool.false_eq_true, if_false]
          cases ha : slot.decode v
          case none =>
            rw [ha] at hv
            obtain ⟨_, hv⟩ := hv.of_none
            exact gives_members_fails hn hk (memberValue_fails hf hd hw hv)
          case some a =>
            rw [ha] at hv
            exact gives_members_next hn hk (memberValue_of_field hf hd hw hv.of_some) (ih hms)

theorem Decodes.record {rec : Record σ} (hr : rec.fields = slots.map (·.field)) :
    Decodes (rec.scan d) (record? slots d) := by
  intro v t w rest h hw
  cases h
  case list h   =>
    refine .spaced hw rfl ((h.gives_listedFields rest).behind ?_)
    rw [← hr]
    rfl
  case object h =>
    refine .spaced hw rfl ((h.gives_members rest).behind ?_)
    rw [← hr]
    rfl
  case number h =>
    refine .number h hw fun c s hc => ⟨wrongType rec.name (c :: s), ?_⟩
    have hl : c ≠ '[' := ne_of_number hc rfl (by decide)
    have ho : c ≠ '{' := ne_of_number hc rfl (by decide)
    simp [hl, ho]
  all_goals exact .spaced hw rfl (.fails rfl)

-- A record is what its draft is completed to, and that depends on the values of each key only.
theorem Decodes.completed {rec : Record σ} {complete : σ → α}
    {ofMembers? : List (List Char × Json) → Option α} (hr : rec.fields = slots.map (·.field))
    (hp : slots.Pairwise Slot.Apart) (hd : ∀ slot ∈ slots, slot.value? d = none)
    (hc : ∀ ms, (fillMembers? slots d ms).map complete = ofMembers? ms) :
    Decodes (fun s => do let r ← rec.scan d s; return r.map complete)
      fun v => (v.members? (slots.map (·.field.key))).bind ofMembers? := by
  have h := (Decodes.record (d := d) hr).map (g := complete)
  simpa only [record?_eq hp hd, Option.map_bind, Function.comp_def, hc] using h

end TabPruning.Json
