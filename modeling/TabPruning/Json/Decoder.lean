import TabPruning.Json.Skim

namespace TabPruning.Json

-- The error for a value of another type than expected; its text starts at `s`. What is wrong with
-- that text comes first.
def wrongType (expected : String) (s : List Char) : Stop :=
  match s with
  | []     => .here .endInValue []
  | c :: t =>
    if c = 'n' then letters "ull" .null t
    else if c = 't' then letters "rue" (.bool true) t
    else if c = 'f' then letters "alse" (.bool false) t
    else if c = '-' then ofNumber (scanNumber true t)
    else if c.isDigit then ofNumber (scanNumber false (c :: t))
    else if c = '"' then
      match stringBody t with
      | .ok r    => found (.string (String.ofList r.value)) r.rest
      | .error e => e
    else if c = '[' then found .sequence (c :: t)
    else if c = '{' then found .map (c :: t)
    else .past 1 .expectedValue (c :: t)
where
  found (f : Found) (rest : List Char) : Stop :=
    .here (.wrongType f expected) rest
  letters (more : String) (f : Found) (s : List Char) : Stop :=
    match expectLetters more.toList s with
    | .ok t    => found f t.1
    | .error e => e
  ofNumber : Except Stop (Number × List Char) → Stop
    | .ok (n, rest) => found (.number n) rest
    | .error e      => e

-- Turns the scan of a value, from its first character on, into one that allows white space before
-- it.
def Scanner.spaced (f : Scanner α) : Scanner α := fun s => do
  let ⟨t, h⟩ := skipSpace s
  let r ← f t
  return r.after h

def Scanner.string (expected : String) : Scanner String :=
  Scanner.spaced fun
    | '"' :: t => do
      let r ← stringBody t
      return (r.map String.ofList).behind
    | s        => .error (wrongType expected s)

def Scanner.bool : Scanner Bool :=
  Scanner.spaced fun
    | 't' :: s => do
      let t ← expectLetters "rue".toList s
      return t.scan true
    | 'f' :: s => do
      let t ← expectLetters "alse".toList s
      return t.scan false
    | s        => .error (wrongType "a boolean" s)

-- The value of a variant that carries nothing.
def Scanner.unit : Scanner Unit :=
  Scanner.spaced fun
    | 'n' :: s => do
      let t ← expectLetters "ull".toList s
      return t.scan ()
    | s        => .error (wrongType "unit" s)

-- A value by its name, one of those given; starts behind the opening quote.
def Scanner.variant (ofName? : String → Option α) (names : List String) : Scanner α := fun s => do
  let r ← stringBody s
  match ofName? (String.ofList r.value) with
  | some a => return r.map fun _ => a
  | none   => throw (.here (.unknownVariant (String.ofList r.value) names) r.rest)

-- A name, or an object with the name as its only key and nothing as its value.
def Scanner.enumeration (ofName? : String → Option α) (names : List String) : Scanner α :=
  Scanner.spaced fun
    | []       => .error (.here .endInValue [])
    | '{' :: s => do
      match ← nextKey true s with
      | none        => throw (.past 1 .keyNotString (skipSpace s).1)
      | some ⟨k, h⟩ =>
        let r ← Scanner.variant ofName? names k
        let t ← expectColon r.rest
        let u ← Scanner.unit t.1
        match skipSpace u.rest with
        | ⟨[], _⟩        => throw (.here .endInObject [])
        | ⟨'}' :: v, h'⟩ =>
          return ⟨r.value, v, by
            have := r.shorter; have := t.2; have := u.shorter; simp at h' ⊢; omega⟩
        | ⟨c :: v, _⟩    => throw (.here .expectedValue (c :: v))
    | '"' :: s => do
      let r ← Scanner.variant ofName? names s
      return r.behind
    | c :: s   => .error (.past 1 .expectedValue (c :: s))

def Scanner.elements (item : Scanner α) (first : Bool) (s : List Char) :
    Except Stop (Scan (List α) s) := do
  match ← nextElement first s with
  | none        =>
    let r ← endList s
    return r.map fun _ => []
  | some ⟨t, h⟩ =>
    let r ← item t
    let rs ← Scanner.elements item false r.rest
    return ⟨r.value :: rs.value, rs.rest, by have := r.shorter; have := rs.shorter; omega⟩
  termination_by s.length
  decreasing_by have := r.shorter; omega

def Scanner.list (item : Scanner α) : Scanner (List α) :=
  Scanner.spaced fun
    | '[' :: s => do
      let r ← Scanner.elements item true s
      return r.behind
    | s        => .error (wrongType "a sequence" s)

-- A field of a record that is being read: how it is read, and whether it has been.
structure Field (σ : Type) where
  key    : String
  filled : σ → Bool
  fill   : Scanner (σ → σ)

-- The fields of a record in the order in which they are declared.
structure Record (σ : Type) where
  name   : String
  fields : List (Field σ)

-- A record written as a list holds its first fields in order.
def listedFields (draft : σ) (first : Bool) (s : List Char) : List (Field σ) →
    Except Stop (Scan σ s)
  | []          => do
    let r ← endList s
    return r.map fun _ => draft
  | f :: fields => do
    match ← nextElement first s with
    | none        =>
      let r ← endList s
      return r.map fun _ => draft
    | some ⟨t, h⟩ =>
      let r ← f.fill t
      let u ← listedFields (r.value draft) false r.rest fields
      return ⟨u.value, u.rest, by have := r.shorter; have := u.shorter; omega⟩

-- A field given twice. The object's end is used up too if it stands there.
def duplicateField (key : String) (s : List Char) : Stop :=
  match skipSpace s with
  | ⟨'}' :: t, _⟩ => .here (.duplicateField key) t
  | ⟨t, _⟩        => .here (.duplicateField key) t

-- What follows a key: its value, which an unknown key's is only passed over.
def memberValue (fields : List (Field σ)) (key : String) (draft : σ) (s : List Char) :
    Except Stop (σ × Tail s) := do
  match fields.find? (·.key = key) with
  | none   =>
    let t ← expectColon s
    let u ← skimValue t.1
    return (draft, ⟨u.1, Nat.le_trans u.2 t.2⟩)
  | some f =>
    if f.filled draft then throw (duplicateField key s)
    else
      let t ← expectColon s
      let r ← f.fill t.1
      return (r.value draft, ⟨r.rest, Nat.le_trans (Nat.le_of_lt r.shorter) t.2⟩)

def members (fields : List (Field σ)) (draft : σ) (first : Bool) (s : List Char) :
    Except Stop (Scan σ s) := do
  match ← nextKey first s with
  | none        =>
    let r ← endObject s
    return r.map fun _ => draft
  | some ⟨t, h⟩ =>
    let key ← stringBody t
    let (draft, ⟨u, h'⟩) ← memberValue fields (String.ofList key.value) draft key.rest
    let r ← members fields draft false u
    return ⟨r.value, r.rest, by have := key.shorter; have := r.shorter; omega⟩
  termination_by s.length
  decreasing_by have := key.shorter; omega

-- A record, from the draft in which no field is filled.
def Record.scan (rec : Record σ) (empty : σ) : Scanner σ :=
  Scanner.spaced fun
    | '[' :: s => do
      let r ← listedFields empty true s rec.fields
      return r.behind
    | '{' :: s => do
      let r ← members rec.fields empty true s
      return r.behind
    | s        => .error (wrongType rec.name s)

-- Reads a text that is one value and nothing else.
def Scanner.document (value : Scanner α) (text : List Char) : Except Fault α :=
  match read with
  | .ok a    => .ok a
  | .error e => .error (e.toFault text)
where
  read : Except Stop α := do
    let r ← value text
    match skipSpace r.rest with
    | ⟨[], _⟩     => return r.value
    | ⟨c :: t, _⟩ => throw (.past 1 .trailingCharacters (c :: t))

end TabPruning.Json
