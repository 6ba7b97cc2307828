import Mathlib.Data.List.Pairwise
import TabPruning.Proofs.Json.Decoding

namespace TabPruning.Json

-- A field together with its place in the draft and the meaning of its values.
structure Slot (σ : Type) where
  Value      : Type
  field      : Field σ
  value?     : σ → Option Value
  put        : Value → σ → σ
  decode     : Json → Option Value
  filled_eq  : ∀ d, field.filled d = (value? d).isSome
  value?_put : ∀ a d, value? (put a d) = some a
  decodes    : Decodes field.fill fun v => (decode v).map put

-- Slots of different keys, of which filling one leaves the other as it is.
structure Slot.Apart (slot slot' : Slot σ) : Prop where
  key        : slot.field.key ≠ slot'.field.key
  value?_put : ∀ a d, slot'.value? (slot.put a d) = slot'.value? d
  put_value? : ∀ a d, slot.value? (slot'.put a d) = slot.value? d

-- Each member fills its slot, which must not be filled yet; a key without a slot is passed over.
def fillMembers? (slots : List (Slot σ)) (draft : σ) : List (List Char × Json) → Option σ
  | []           => some draft
  | (k, v) :: ms =>
    match slots.find? (·.field.key = String.ofList k) with
    | none      => fillMembers? slots draft ms
    | some slot =>
      if slot.field.filled draft then none
      else (slot.decode v).bind fun a => fillMembers? slots (slot.put a draft) ms

-- The elements fill the slots in their order.
def fillListed? (draft : σ) : List (Slot σ) → List Json → Option σ
  | _, []                  => some draft
  | [], _ :: _             => none
  | slot :: slots, v :: vs => (slot.decode v).bind fun a => fillListed? (slot.put a draft) slots vs

def record? (slots : List (Slot σ)) (empty : σ) : Json → Option σ
  | list vs   => fillListed? empty slots vs
  | object ms => fillMembers? slots empty ms
  | _         => none

-- The members of an object, and of a list its elements under the first of the keys.
def members? (keys : List String) : Json → Option (List (List Char × Json))
  | object ms => some ms
  | list vs   => if vs.length ≤ keys.length then some ((keys.map String.toList).zip vs) else none
  | _         => none

-- The values that members give to a key.
def valuesOf (ms : List (List Char × Json)) (key : String) : List Json :=
  (ms.filter (String.ofList ·.1 = key)).map (·.2)

-- What the values of a key settle: without one there is the default, and two are a contradiction.
def settle? (decode : Json → Option α) (default : α) : List Json → Option α
  | []  => some default
  | [v] => decode v
  | _   => none

-- What the values of a key make of a slot that may be filled already.
def extend? (decode : Json → Option α) (a? : Option α) : List Json → Option (Option α)
  | []      => some a?
  | v :: vs => if a?.isSome then none else (decode v).bind fun a => extend? decode (some a) vs

def Slot.extend? (slot : Slot σ) (d : σ) (ms : List (List Char × Json)) :
    Option (Option slot.Value) :=
  Json.extend? slot.decode (slot.value? d) (valuesOf ms slot.field.key)

-- The members extend each slot on its own, and there is no draft if they cannot extend all.
inductive Settles (slots : List (Slot σ)) (d : σ) (ms : List (List Char × Json)) : Option σ → Prop
  | settled : (∀ slot ∈ slots, slot.extend? d ms = some (slot.value? d')) →
    Settles slots d ms (some d')
  | stuck   : slot ∈ slots → slot.extend? d ms = none → Settles slots d ms none

variable {σ α : Type} {slots all : List (Slot σ)} {slot slot' : Slot σ} {d d' : σ} {d? : Option σ}
variable {k : List Char} {v : Json} {vs : List Json} {ms ms' : List (List Char × Json)}

theorem settle?_eq_extend? (decode : Json → Option α) (default : α) (vs : List Json) :
    settle? decode default vs = (extend? decode none vs).map (·.getD default) := by
  match vs with
  | []          => rfl
  | [v]         => cases h : decode v <;> simp [settle?, extend?, h]
  | v :: _ :: _ => cases h : decode v <;> simp [settle?, extend?, h]

theorem valuesOf_cons (k : List Char) (v : Json) (ms : List (List Char × Json)) (key : String) :
    valuesOf ((k, v) :: ms) key =
      if key = String.ofList k then v :: valuesOf ms key else valuesOf ms key := by
  by_cases h : key = String.ofList k <;> simp [valuesOf, h, eq_comm]

namespace Slot

instance : Std.Symm (Apart (σ := σ)) where
  symm _ _ h := ⟨h.key.symm, h.put_value?, h.value?_put⟩

theorem Apart.of_mem (hp : slots.Pairwise Apart) (h : slot ∈ slots) (h' : slot' ∈ slots)
    (hne : slot ≠ slot') : slot.Apart slot' :=
  hp.forall h h' hne

theorem extend?_of_ne (d : σ) (h : slot.field.key ≠ String.ofList k) :
    slot.extend? d ((k, v) :: ms) = slot.extend? d ms := by
  rw [extend?, valuesOf_cons, if_neg h, extend?]

theorem extend?_of_eq (d : σ) (v : Json) (ms : List (List Char × Json))
    (h : slot.field.key = String.ofList k) :
    slot.extend? d ((k, v) :: ms) =
      if slot.field.filled d then none
      else (slot.decode v).bind fun a => slot.extend? (slot.put a d) ms := by
  simp only [extend?, valuesOf_cons, if_pos h, Json.extend?, slot.filled_eq, slot.value?_put]

theorem find?_of_mem (hp : slots.Pairwise Apart) (h : slot ∈ slots) :
    slots.find? (·.field.key = slot.field.key) = some slot := by
  cases hf : slots.find? (·.field.key = slot.field.key)
  case none =>
    have hk := List.find?_eq_none.mp hf slot h
    simp at hk
  case some slot' =>
    have hk : slot'.field.key = slot.field.key := by simpa using List.find?_some hf
    by_cases he : slot = slot'
    case pos => rw [he]
    case neg => exact absurd hk.symm (Apart.of_mem hp h (List.mem_of_find?_eq_some hf) he).key

end Slot

namespace Settles

theorem congr (h : Settles slots d ms d?)
    (he : ∀ slot ∈ slots, slot.extend? d' ms' = slot.extend? d ms) : Settles slots d' ms' d? := by
  cases h
  case settled h  => exact .settled fun slot hs => (he slot hs).trans (h slot hs)
  case stuck hs h => exact .stuck hs ((he _ hs).trans h)

theorem settle?_eq_some (h : Settles slots d ms (some d')) (hs : slot ∈ slots)
    (hd : slot.value? d = none) (default : slot.Value) :
    settle? slot.decode default (valuesOf ms slot.field.key) =
      some ((slot.value? d').getD default) := by
  cases h
  case settled h =>
    have h := h slot hs
    rw [Slot.extend?, hd] at h
    rw [settle?_eq_extend?, h, Option.map_some]

theorem settle?_eq_none (h : Settles slots d ms none) (hd : ∀ slot ∈ slots, slot.value? d = none) :
    ∃ slot ∈ slots, ∀ default,
      settle? slot.decode default (valuesOf ms slot.field.key) = none := by
  cases h
  case stuck slot hs h =>
    refine ⟨slot, hs, fun default => ?_⟩
    rw [Slot.extend?, hd slot hs] at h
    rw [settle?_eq_extend?, h, Option.map_none]

end Settles

theorem fillMembers?_settles (hp : slots.Pairwise Slot.Apart) (d : σ)
    (ms : List (List Char × Json)) : Settles slots d ms (fillMembers? slots d ms) := by
  induction ms generalizing d
  case nil => exact .settled fun _ _ => rfl
  case cons m ms ih =>
    obtain ⟨k, v⟩ := m
    rw [fillMembers?]
    cases hf : slots.find? (·.field.key = String.ofList k)
    case none =>
      refine (ih d).congr fun slot hs => slot.extend?_of_ne d ?_
      simpa using List.find?_eq_none.mp hf slot hs
    case some slot =>
      have hs := List.mem_of_find?_eq_some hf
      have hk : slot.field.key = String.ofList k := by simpa using List.find?_some hf
      have he := slot.extend?_of_eq d v ms hk
      cases hd : slot.field.filled d
      case true =>
        simp only [hd, if_true] at he ⊢
        exact .stuck hs he
      case false =>
        simp only [hd, Bool.false_eq_true, if_false] at he ⊢
        cases ha : slot.decode v
        case none =>
          rw [ha] at he
          exact .stuck hs he
        case some a =>
          rw [ha, Option.bind_some] at he
          refine (ih (slot.put a d)).congr fun slot' hs' => ?_
          by_cases h : slot = slot'
          case pos => exact h ▸ he
          case neg =>
            have h := Slot.Apart.of_mem hp hs hs' h
            rw [slot'.extend?_of_ne d (hk ▸ h.key.symm), Slot.extend?, Slot.extend?, h.value?_put]

-- The elements of a list fill the slots as the members of an object with their keys do.
theorem fillListed?_eq (hp : all.Pairwise Slot.Apart) (hs : slots.Sublist all)
    (hd : ∀ slot ∈ slots, slot.value? d = none) (vs : List Json) : fillListed? d slots vs =
      if vs.length ≤ slots.length then
        fillMembers? all d ((slots.map (·.field.key.toList)).zip vs)
      else none := by
  induction vs generalizing slots d
  case nil => simp [fillListed?, fillMembers?]
  case cons v vs ih =>
    cases slots
    case nil => rfl
    case cons slot slots =>
      have hm := hs.subset List.mem_cons_self
      have hf := Slot.find?_of_mem hp hm
      have hn : slot.field.filled d = false := by
        rw [slot.filled_eq, hd slot List.mem_cons_self, Option.isSome_none]
      simp only [fillListed?, fillMembers?, List.length_cons, Nat.add_le_add_iff_right,
        List.map_cons, List.zip_cons_cons, String.ofList_toList, hf, hn, Bool.false_eq_true,
        if_false]
      cases slot.decode v
      case none => simp
      case some a =>
        refine ih (List.sublist_of_cons_sublist hs) fun slot' hs' => ?_
        have ha := List.rel_of_pairwise_cons (hp.sublist hs) hs'
        rw [ha.value?_put, hd slot' (List.mem_cons_of_mem _ hs')]

theorem record?_eq (hp : slots.Pairwise Slot.Apart) (hd : ∀ slot ∈ slots, slot.value? d = none)
    (v : Json) :
    record? slots d v = (v.members? (slots.map (·.field.key))).bind (fillMembers? slots d) := by
  cases v
  case list vs =>
    rw [record?, fillListed?_eq hp (.refl slots) hd, members?, List.length_map, List.map_map]
    split <;> rfl
  all_goals rfl

end TabPruning.Json
