import Mathlib.Data.List.TFAE
import Mathlib.Tactic.TFAE
import TabPruning.Proofs.Prune.Declarations
import TabPruning.Proofs.Text.Pattern

namespace TabPruning

open Pattern

-- The text of the pattern for the declarations of a name.
def RegexEngine.declarationPattern (e : RegexEngine) (name : List Char) : List Char :=
  "^\\s*".toList ++ (e.escape name ++ "\\s*:".toList)

namespace Pattern

-- What this text spells.
def declaration (name : List Char) : Pattern :=
  [.start, .many .blank] ++ literal name ++ [.many .blank, .one (.char ':')]

theorem declaration_isFoundIn_iff {name : List Char} {l : Line} :
    (declaration name).IsFoundIn l ↔ l.IsDeclaration name := by
  simp only [IsFoundIn, declaration, List.cons_append, List.nil_append, MatchesAt,
    matchesAt_literal_append_iff]
  constructor
  case mp =>
    rintro ⟨_, _, rfl, rfl, before, _, rfl, hb, _, rfl, after, _, rfl, ha, _, rest, rfl, hc, _⟩
    obtain rfl := of_decide_eq_true hc
    exact ⟨before, after, rest, by simp, hb, ha⟩
  case mpr =>
    rintro ⟨before, after, rest, rfl, hb, ha⟩
    refine ⟨[], _, rfl, rfl, before, name ++ (after ++ ':' :: rest), by simp, hb, _, rfl, ?_⟩
    exact ⟨after, _, rfl, ha, ':', rest, rfl, by decide, trivial⟩

end Pattern

namespace RegexEngine.Documented

variable {e : RegexEngine} {name : List Char} {l : Line}

theorem ofText?_declarationPattern (he : e.Documented) (name : List Char) :
    ofText? (e.declarationPattern name) = some (declaration name) := by
  let front : List Token := [.start, .symbol .blank, .star]
  let behind : List Token := [.symbol .blank, .star, .symbol (.char ':')]
  have hf : tokens? "^\\s*".toList = some front := by decide
  have hb : tokens? "\\s*:".toList = some behind := by decide
  have hn : tokens? (e.escape name ++ "\\s*:".toList) =
      (tokens? "\\s*:".toList).map (literalTokens name ++ ·) :=
    tokens?_append <| he.escape name
  have hs : behind.head? ≠ some .star := nofun
  calc ofText? (e.declarationPattern name)
    _ = ((tokens? (e.escape name ++ "\\s*:".toList)).map (front ++ ·)).bind ofTokens? :=
      congrArg (·.bind ofTokens?) <| tokens?_append hf
    _ = ofTokens? (front ++ (literalTokens name ++ behind)) := by rw [hn, hb]; rfl
    _ = (ofTokens? (literalTokens name ++ behind)).map (.start :: .many .blank :: ·) :=
      Option.map_map ..
    _ = some (declaration name) := by rw [ofTokens?_literalTokens_append hs]; rfl

example : backtracking.declarationPattern "a*b".toList = "^\\s*a\\*b\\s*:".toList := by
  decide

theorem isMatch_declarationPattern_iff (he : e.Documented) :
    e.isMatch (e.declarationPattern name) l ↔ l.IsDeclaration name :=
  (he.isMatch <| he.ofText?_declarationPattern name).trans declaration_isFoundIn_iff

end RegexEngine.Documented

-- A line matches the pattern for a name if and only if it begins with the name as it is, between
-- white space, and a colon. This is what stripping looks for. No line matches the patterns for two
-- names that validated settings may have.
theorem Line.declares_iff_pattern_found (e : RegexEngine) (he : e.Documented) (l : Line) :
    (∀ name : String, [
      e.isMatch (e.declarationPattern name.toList) l = true,
      l.declares name.toList = true,
      ∃ before after rest, l = before ++ name.toList ++ after ++ ':' :: rest ∧
        before.all isBlank ∧ after.all isBlank].TFAE) ∧
    ∀ c c' : Config, c.validate = .ok () → c'.validate = .ok () →
      ∀ f ∈ c.fields, ∀ f' ∈ c'.fields, e.isMatch (e.declarationPattern f.toList) l →
        e.isMatch (e.declarationPattern f'.toList) l → f = f' := by
  constructor
  case left =>
    intro name
    tfae_have 1 ↔ 3 := he.isMatch_declarationPattern_iff
    tfae_have 2 ↔ 3 := declares_iff
    tfae_finish
  case right =>
    intro c c' hc hc' f hf f' hf' h h'
    have hb := Config.isBareName_of_mem hc f hf
    have hb' := Config.isBareName_of_mem hc' f' hf'
    have h := he.isMatch_declarationPattern_iff.mp h
    have h' := he.isMatch_declarationPattern_iff.mp h'
    exact String.toList_inj.mp <| h.name_unique hb hb' h'

-- The name ` a*b` begins with white space and holds a character that repeats the one before it in
-- patterns. Of the fields in the settings only one is declared.
theorem Line.declares_iff_pattern_found_of_odd_name :
    let e := RegexEngine.backtracking
    let l : Line := "\u3000 a*b\t: 1".toList
    let c : Config := { fields := ["größe", "a*b"] }
    e.Documented ∧ e.isMatch (e.declarationPattern " a*b".toList) l ∧ c.validate = .ok () ∧
      ∀ f ∈ c.fields, e.isMatch (e.declarationPattern f.toList) l ↔ f = "a*b" := by
  intro e l c
  have he : e.Documented := RegexEngine.backtracking_documented
  have hc : c.validate = .ok () := rfl
  have ⟨hp, hu⟩ := declares_iff_pattern_found e he l
  have hm (name : String) :
      e.isMatch (e.declarationPattern name.toList) l ↔ l.IsDeclaration name.toList :=
    (hp name).out 0 2
  have hl := (hm "a*b").mpr ⟨['\u3000', ' '], ['\t'], [' ', '1'], by decide⟩
  refine ⟨he, (hm " a*b").mpr ⟨['\u3000'], ['\t'], [' ', '1'], by decide⟩, hc, ?_⟩
  exact fun f hf => ⟨fun h => hu c c hc hc f hf "a*b" (by decide) h hl, fun h => h ▸ hl⟩

end TabPruning
