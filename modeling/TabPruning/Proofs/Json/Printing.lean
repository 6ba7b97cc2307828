import TabPruning.Proofs.Json.Grammar

namespace TabPruning.Json

variable {n : Nat} {v : Json} {vs : List Json} {ms : List (List Char × Json)} {first : Bool}
variable {sep more : List Char}

theorem CodeText.digits (h : n < 0x20) :
    CodeText n ['0', '0', Nat.digitChar (n / 16), Nat.digitChar (n % 16)] where
  four  := rfl
  value := by
    have hv : ∀ n < 0x20,
        hexValue? ['0', '0', Nat.digitChar (n / 16), Nat.digitChar (n % 16)] = some n := by decide
    exact hv n h

theorem CharText.escapeChar (c : Char) : CharText c (escapeChar c) := by
  fun_cases Json.escapeChar c
  case case8 hc                => exact .code (.digits hc)
  case case9 hq hb _ _ _ _ _ hc =>
    exact .plain hq hb (by simpa [isControl] using hc)
  all_goals exact .short rfl

-- Printing a string puts what is below between two quotes.
theorem StringText.printed (s : List Char) : StringText s (s.flatMap escapeChar ++ ['"']) := by
  induction s
  case nil => exact .done
  case cons c s ih =>
    rw [List.flatMap_cons, List.append_assoc]
    exact .next (.escapeChar c) ih

theorem newLine_isSpace (level : Nat) : (newLine level).all isSpace := by
  simp [newLine, isSpace]

theorem Separator.newLine (level : Nat) : Separator true (newLine level) :=
  .first (newLine_isSpace level)

theorem Separator.comma_newLine (level : Nat) : Separator false (',' :: Json.newLine level) :=
  .later (w := []) rfl (newLine_isSpace level)

-- Printed at any level, the value is well written.
def Prints (v : Json) : Prop :=
  ∀ level, ValueText v (v.print level)

theorem ElementsText.printElements (h : ∀ v ∈ vs, Prints v) (level level' : Nat) :
    ElementsText false vs (printElements level vs ++ newLine level' ++ [']']) := by
  induction vs
  case nil => exact .done (newLine_isSpace level')
  case cons v vs ih =>
    have ⟨hv, hvs⟩ := List.forall_mem_cons.mp h
    have ih := ih hvs
    simp only [Json.printElements, List.append_assoc] at ih ⊢
    exact .next (.comma_newLine level) (hv level) ih

theorem MembersText.print_next (hs : Separator first sep) (k : List Char) (hv : Prints v)
    (hm : MembersText false ms more) (level : Nat) :
    MembersText first ((k, v) :: ms)
      (sep ++ (printString k ++ ([':', ' '] ++ (v.print level ++ more)))) := by
  have h := MembersText.next hs (.printed k) (w := []) rfl (u := [' ']) rfl (hv level) hm
  simpa [printString] using h

theorem MembersText.printMembers (h : ∀ m ∈ ms, Prints m.2) (level level' : Nat) :
    MembersText false ms (printMembers level ms ++ newLine level' ++ ['}']) := by
  induction ms
  case nil => exact .done (newLine_isSpace level')
  case cons m ms ih =>
    have ⟨hv, hms⟩ := List.forall_mem_cons.mp h
    have ih := ih hms
    simp only [Json.printMembers, List.append_assoc] at ih ⊢
    exact .print_next (.comma_newLine level) m.1 hv ih level

namespace Prints

theorem string (s : List Char) : Prints (.string s) := by
  intro level
  rw [print]
  exact .string (.printed s)

theorem bool (b : Bool) : Prints (.bool b) := by
  intro level
  cases b
  case false => exact .boolFalse
  case true  => exact .boolTrue

theorem list (h : ∀ v ∈ vs, Prints v) : Prints (.list vs) := by
  intro level
  cases vs
  case nil => exact .list (.done (w := []) rfl)
  case cons v vs =>
    have ⟨hv, hvs⟩ := List.forall_mem_cons.mp h
    have he := ElementsText.printElements hvs (level + 1) level
    simp only [print, List.cons_append, List.append_assoc] at he ⊢
    exact .list (.next (.newLine _) (hv _) he)

theorem object (h : ∀ m ∈ ms, Prints m.2) : Prints (.object ms) := by
  intro level
  cases ms
  case nil => exact .object (.done (w := []) rfl)
  case cons m ms =>
    have ⟨hv, hms⟩ := List.forall_mem_cons.mp h
    have hm := MembersText.printMembers hms (level + 1) level
    simp only [print, List.cons_append, List.append_assoc] at hm ⊢
    exact .object (.print_next (.newLine _) m.1 hv hm _)

end Prints

end TabPruning.Json
