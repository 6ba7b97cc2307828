import Mathlib.Data.List.Induction
import Mathlib.Data.List.Infix
import TabPruning.Proofs.Block.Balance

namespace TabPruning

namespace Line

-- Every closing brace closes an opening one of the same text.
def ClosesOwn (l : Line) : Prop :=
  ∀ p, p <+: l → p.count '}' ≤ p.count '{'

structure Nested (l : Line) : Prop where
  closesOwn : l.ClosesOwn
  balanced  : l.count '{' = l.count '}'

instance (l : Line) : Decidable l.ClosesOwn :=
  decidable_of_iff (∀ p ∈ l.inits, p.count '}' ≤ p.count '{') <| by simp [ClosesOwn]

theorem nested_iff {l : Line} : l.Nested ↔ l.ClosesOwn ∧ l.count '{' = l.count '}' where
  mp  := fun ⟨closesOwn, balanced⟩ => ⟨closesOwn, balanced⟩
  mpr := fun ⟨closesOwn, balanced⟩ => ⟨closesOwn, balanced⟩

instance (l : Line) : Decidable l.Nested :=
  decidable_of_iff _ nested_iff.symm

@[simp]
theorem braceDelta_nil : braceDelta [] = 0 :=
  rfl

@[simp]
theorem braceDelta_open (l : Line) : braceDelta ('{' :: l) = 1 + l.braceDelta := by
  simp [braceDelta]
  omega

@[simp]
theorem braceDelta_close (l : Line) : braceDelta ('}' :: l) = -1 + l.braceDelta := by
  simp [braceDelta]
  omega

theorem braceDelta_cases (c : Char) : (c = '{' ∧ braceDelta [c] = 1) ∨
    (c = '}' ∧ braceDelta [c] = -1) ∨ braceDelta [c] = 0 := by
  by_cases ho : c = '{'
  case pos => simp [ho]
  case neg =>
    by_cases hc : c = '}'
    case pos => simp [hc]
    case neg => simp [braceDelta, ho, hc]

variable {l l' : Line}

theorem Nested.braceDelta_eq_zero (h : l.Nested) : l.braceDelta = 0 := by
  simp [braceDelta, h.balanced]

namespace ClosesOwn

theorem braceDelta_nonneg (h : l.ClosesOwn) : 0 ≤ l.braceDelta := by
  have := h l <| List.prefix_refl _
  simp only [braceDelta]
  omega

theorem nested_of_braceDelta_eq_zero (h : l.ClosesOwn) (hz : l.braceDelta = 0) : l.Nested where
  closesOwn := h
  balanced  := by
    simp only [braceDelta] at hz
    omega

theorem of_prefix (h : l.ClosesOwn) (hp : l' <+: l) : l'.ClosesOwn :=
  fun _ hq => h _ <| hq.trans hp

theorem nil : ClosesOwn [] := by
  simp [ClosesOwn]

theorem concat (h : l.ClosesOwn) (hc : 0 ≤ braceDelta (l ++ [c])) : ClosesOwn (l ++ [c]) := by
  intro p hp
  cases List.prefix_concat_iff.mp hp
  case inr hp => exact h p hp
  case inl hp =>
    subst hp
    simp only [braceDelta] at hc
    omega

theorem append (h : l.ClosesOwn) (h' : l'.ClosesOwn) : ClosesOwn (l ++ l') := by
  induction l' using List.reverseRecOn
  case nil => simpa using h
  case append_singleton l' c ih =>
    have hd := h.braceDelta_nonneg
    have hd' := h'.braceDelta_nonneg
    rw [← List.append_assoc]
    refine (ih <| h'.of_prefix <| List.prefix_append ..).concat ?_
    rw [List.append_assoc, braceDelta_append]
    omega

end ClosesOwn

-- The last time that the text rises above some level, it does so by a brace that stays open.
theorem exists_open {k : Int} (hk : 0 ≤ k) (h : k < l.braceDelta) :
    ∃ before after, l = before ++ '{' :: after ∧ before.braceDelta = k ∧ ClosesOwn after := by
  induction l using List.reverseRecOn
  case nil => exact absurd h <| by simpa using hk
  case append_singleton l c ih =>
    by_cases hl : k < braceDelta l
    case pos =>
      obtain ⟨before, after, hl, hb, ha⟩ := ih hl
      subst hl
      refine ⟨before, after ++ [c], by simp, hb, ha.concat ?_⟩
      rw [List.append_assoc, List.cons_append, braceDelta_append, braceDelta_open] at h
      omega
    case neg =>
      rw [braceDelta_append] at h
      rcases braceDelta_cases c with ⟨rfl, hc⟩ | ⟨_, hc⟩ | hc
      · exact ⟨l, [], rfl, by omega, .nil⟩
      all_goals omega

-- The first brace that closes none of its own text has a nested text before it.
theorem exists_close (h : ¬l.ClosesOwn) :
    ∃ before after, l = before ++ '}' :: after ∧ Nested before := by
  induction l using List.reverseRecOn
  case nil => exact absurd .nil h
  case append_singleton l c ih =>
    by_cases hl : ClosesOwn l
    case neg =>
      obtain ⟨before, after, hl, hb⟩ := ih hl
      subst hl
      exact ⟨before, after ++ [c], by simp, hb⟩
    case pos =>
      have hd := hl.braceDelta_nonneg
      have hc : braceDelta (l ++ [c]) < 0 := by
        by_contra hc
        exact h <| hl.concat <| Int.not_lt.mp hc
      rw [braceDelta_append] at hc
      rcases braceDelta_cases c with ⟨_, hd'⟩ | ⟨rfl, hd'⟩ | hd'
      case inr.inl => exact ⟨l, [], rfl, hl.nested_of_braceDelta_eq_zero <| by omega⟩
      all_goals omega

end Line

end TabPruning
