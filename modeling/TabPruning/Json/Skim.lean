import TabPruning.Json.Number
import TabPruning.Json.Text

namespace TabPruning.Json

inductive Bracket
  | list
  | object
  deriving DecidableEq, Repr

-- What is read next, inside of the open brackets.
inductive Phase
  | value
  -- The first element or key of the innermost bracket, or its end.
  | opened
  -- A comma or the end of the innermost bracket, or the end of the whole value.
  | closed

-- A scalar, or an opening bracket.
def skimHead : Scanner (Option Bracket)
  | []     => .error (.here .endInValue [])
  | c :: s =>
    if c = 'n' then letters s "ull"
    else if c = 't' then letters s "rue"
    else if c = 'f' then letters s "alse"
    else if c = '-' then do
      let r ← skipNumber s
      return (r.map fun _ => none).behind
    else if c.isDigit then do
      let r ← skipNumber (c :: s)
      return r.map fun _ => none
    else if c = '"' then do
      let r ← skipString s
      return (r.map fun _ => none).behind
    else if c = '[' then .ok (.one (some .list))
    else if c = '{' then .ok (.one (some .object))
    else .error (.past 1 .expectedValue (c :: s))
where
  letters {c : Char} (s : List Char) (more : String) :
      Except Stop (Scan (Option Bracket) (c :: s)) := do
    let t ← expectLetters more.toList s
    return t.scan none

-- An object's key and colon, from its opening quote on.
def skimKey : Scanner Unit
  | []     => .error (.here .endInObject [])
  | c :: s =>
    if c = '"' then do
      let r ← skipString s
      let t ← expectColon r.rest
      return ⟨(), t.1, by have := r.shorter; have := t.2; simp; omega⟩
    else .error (.past 1 .keyNotString (c :: s))

-- What stands where the next element or member of a bracket begins.
def skimEntry (b : Bracket) (s : List Char) : Except Stop (Tail s) :=
  match b with
  | .list   => .ok (.all s)
  | .object => do
    let t := skipSpace s
    let r ← skimKey t.1
    return ⟨r.rest, by have := t.2; have := r.shorter; omega⟩

def Bracket.closer : Bracket → Char
  | list   => ']'
  | object => '}'

def Bracket.endOfText : Bracket → Cause
  | list   => .endInList
  | object => .endInObject

def Bracket.expected : Bracket → Cause
  | list   => .expectedListCommaOrEnd
  | object => .expectedObjectCommaOrEnd

-- The brackets that are open are on a stack, so that values may be nested to any depth.
def skim (phase : Phase) (stack : List Bracket) (s : List Char) : Except Stop (Tail s) :=
  match phase, stack with
  | .value, stack => do
    let ⟨t, h⟩ := skipSpace s
    let ⟨head, rest, h'⟩ ← skimHead t
    let u ← skim (if head.isSome then .opened else .closed) (head.toList ++ stack) rest
    return ⟨u.1, by have := u.2; omega⟩
  | .opened, [] => .ok (.all s)
  | .opened, b :: stack =>
    match skipSpace s with
    | ⟨[], _⟩     => .error (.here b.endOfText [])
    | ⟨c :: t, h⟩ =>
      if c = b.closer then do
        let u ← skim .closed stack t
        return ⟨u.1, by have := u.2; simp at h; omega⟩
      else do
        let v ← skimEntry b (c :: t)
        let u ← skim .value (b :: stack) v.1
        return ⟨u.1, by have := v.2; have := u.2; omega⟩
  | .closed, [] => .ok (.all s)
  | .closed, b :: stack =>
    match skipSpace s with
    | ⟨[], _⟩     => .error (.here b.endOfText [])
    | ⟨c :: t, h⟩ =>
      if c = ',' then do
        let v ← skimEntry b t
        let u ← skim .value (b :: stack) v.1
        return ⟨u.1, by have := v.2; have := u.2; simp at h; omega⟩
      else if c = b.closer then do
        let u ← skim .closed stack t
        return ⟨u.1, by have := u.2; simp at h; omega⟩
      else .error (.past 1 b.expected (c :: t))
  termination_by (s.length, match phase with | .opened => 1 | _ => 0)
  decreasing_by all_goals grind

def skimValue (s : List Char) : Except Stop (Tail s) :=
  skim .value [] s

end TabPruning.Json
