import TabPruning.Json.Fault

namespace TabPruning.Json

-- What was read from the front of a text. The rest is shorter, so that reading on until the text
-- ends does end.
structure Scan (α : Type) (s : List Char) where
  value   : α
  rest    : List Char
  shorter : rest.length < s.length

abbrev Scanner (α : Type) :=
  (s : List Char) → Except Stop (Scan α s)

-- What is left of a text after some of its front is passed over.
abbrev Tail (s : List Char) :=
  { t : List Char // t.length ≤ s.length }

-- A scan that started later.
def Scan.after {s t : List Char} (h : t.length ≤ s.length) (r : Scan α t) : Scan α s :=
  ⟨r.value, r.rest, Nat.lt_of_lt_of_le r.shorter h⟩

-- A scan that started one character later.
def Scan.behind (r : Scan α s) : Scan α (c :: s) :=
  r.after (Nat.le_succ _)

-- One character was read.
def Scan.one (a : α) : Scan α (c :: s) :=
  ⟨a, s, Nat.lt_succ_self _⟩

def Scan.map (f : α → β) (r : Scan α s) : Scan β s :=
  ⟨f r.value, r.rest, r.shorter⟩

namespace Tail

def all (s : List Char) : Tail s :=
  ⟨s, Nat.le_refl _⟩

-- What is left of the text without its first character.
def behind (t : Tail s) : Tail (c :: s) :=
  ⟨t.1, Nat.le_succ_of_le t.2⟩

def scan (a : α) (t : Tail s) : Scan α (c :: s) :=
  ⟨a, t.1, Nat.lt_succ_of_le t.2⟩

end Tail

def isSpace (c : Char) : Bool :=
  c = ' ' || c = '\n' || c = '\t' || c = '\r'

-- The text from its next character that is not white space on.
def skipSpace (s : List Char) : Tail s :=
  ⟨s.dropWhile isSpace, (List.dropWhile_sublist isSpace).length_le⟩

def expectLetters (letters s : List Char) : Except Stop (Tail s) :=
  match letters, s with
  | [], s                => .ok (.all s)
  | _ :: _, []           => .error (.here .endInValue [])
  | c :: letters, d :: s =>
    if c = d then do
      let t ← expectLetters letters s
      return .behind t
    else .error (.past 1 .expectedIdent (d :: s))

def expectColon (s : List Char) : Except Stop (Tail s) :=
  match skipSpace s with
  | ⟨':' :: t, h⟩ => .ok ⟨t, Nat.le_of_succ_le h⟩
  | ⟨[], _⟩       => .error (.here .endInObject [])
  | ⟨c :: t, _⟩   => .error (.past 1 .expectedColon (c :: t))

-- Goes to the next element of a list, if there is one; the list's end is left in place.
def nextElement (first : Bool) (s : List Char) : Except Stop (Option (Tail s)) :=
  match skipSpace s with
  | ⟨[], _⟩       => .error (.here .endInList [])
  | ⟨']' :: _, _⟩ => .ok none
  | ⟨c :: t, h⟩   =>
    if first then .ok (some ⟨c :: t, h⟩)
    else if c = ',' then
      match skipSpace t with
      | ⟨[], _⟩       => .error (.here .endInValue [])
      | ⟨']' :: u, _⟩ => .error (.past 1 .trailingComma (']' :: u))
      | ⟨d :: u, h'⟩  => .ok (some ⟨d :: u, Nat.le_trans h' (Nat.le_of_succ_le h)⟩)
    else .error (.past 1 .expectedListCommaOrEnd (c :: t))

-- The end of a list after which no more elements are taken.
def endList : Scanner Unit := fun s =>
  match skipSpace s with
  | ⟨[], _⟩       => .error (.here .endInList [])
  | ⟨']' :: t, h⟩ => .ok ⟨(), t, h⟩
  | ⟨',' :: t, _⟩ =>
    match skipSpace t with
    | ⟨[], _⟩       => .error (.past 1 .trailingCharacters [])
    | ⟨']' :: u, _⟩ => .error (.past 1 .trailingComma (']' :: u))
    | ⟨c :: u, _⟩   => .error (.past 1 .trailingCharacters (c :: u))
  | ⟨c :: t, _⟩   => .error (.past 1 .trailingCharacters (c :: t))

-- Goes to the next key of an object, past its opening quote, if there is one; the object's end is
-- left in place.
def nextKey (first : Bool) (s : List Char) : Except Stop (Option (Tail s)) :=
  match skipSpace s with
  | ⟨[], _⟩       => .error (.here .endInObject [])
  | ⟨'}' :: _, _⟩ => .ok none
  | ⟨c :: t, h⟩   =>
    if first then
      if c = '"' then .ok (some ⟨t, Nat.le_of_succ_le h⟩)
      else .error (.past 1 .keyNotString (c :: t))
    else if c = ',' then
      match skipSpace t with
      | ⟨[], _⟩       => .error (.here .endInValue [])
      | ⟨'"' :: u, h'⟩ =>
        .ok (some ⟨u, Nat.le_trans (Nat.le_of_succ_le h') (Nat.le_of_succ_le h)⟩)
      | ⟨'}' :: u, _⟩ => .error (.past 1 .trailingComma ('}' :: u))
      | ⟨d :: u, _⟩   => .error (.past 1 .keyNotString (d :: u))
    else .error (.past 1 .expectedObjectCommaOrEnd (c :: t))

def endObject : Scanner Unit := fun s =>
  match skipSpace s with
  | ⟨[], _⟩       => .error (.here .endInObject [])
  | ⟨'}' :: t, h⟩ => .ok ⟨(), t, h⟩
  | ⟨',' :: t, _⟩ => .error (.past 1 .trailingComma (',' :: t))
  | ⟨c :: t, _⟩   => .error (.past 1 .trailingCharacters (c :: t))

end TabPruning.Json
