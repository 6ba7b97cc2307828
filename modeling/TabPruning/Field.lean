import TabPruning.Excision
import TabPruning.Text.Unicode

namespace TabPruning

-- The text that follows `start`, if it begins so.
def afterPrefix? (start : List Char) (cs : List Char) : Option (List Char) :=
  if start <+: cs then some (cs.drop start.length) else none

namespace Line

-- The name stands at the very start of the line.
def opensWith (name : List Char) (l : Line) : Bool :=
  match afterPrefix? name l with
  | none      => false
  | some rest => (trimStart rest).head? = some ':'

-- The name may itself begin with white space, so every amount of indentation is tried.
def declares (name : List Char) : Line → Bool
  | []      => opensWith name []
  | c :: cs => opensWith name (c :: cs) || (isBlank c && declares name cs)

def isNameStart (c : Char) : Bool :=
  c.isAlpha || c = '_' || c = '$'

def isNamePart (c : Char) : Bool :=
  isNameStart c || c.isDigit

-- Some name of ASCII letters, digits, `_` and `$` is declared.
def declaresSome (l : Line) : Bool :=
  match trimStart l with
  | []      => false
  | c :: cs => isNameStart c && (trimStart (cs.dropWhile isNamePart)).head? = some ':'

def endsWithComma (l : Line) : Bool :=
  (trimEnd l).getLast? = some ','

def startsWithCloser (l : Line) : Bool :=
  match trimStart l with
  | []     => false
  | c :: _ => c = '}' || c = ']' || c = ')'

-- The rest of a declaration that was left open on the line before.
def isContinuation (l : Line) : Bool :=
  l.endsWithComma && !l.declaresSome && !l.startsWithCloser

end Line

-- One removed declaration: the field, the number of its line and how many lines went with it.
structure FieldRemoval where
  field        : String
  line         : Nat
  linesRemoved : Nat
  deriving DecidableEq, Repr

-- What removing declarations leaves, and what it removed.
structure Stripping where
  kept     : List NumberedLine
  removals : List FieldRemoval
  deriving DecidableEq, Repr

namespace Stripping

def keep (l : NumberedLine) (s : Stripping) : Stripping :=
  { s with kept := l :: s.kept }

def remove (r : FieldRemoval) (s : Stripping) : Stripping :=
  { s with removals := r :: s.removals }

end Stripping

-- One pass over the lines, for one field. A declaration that does not end with a comma takes the
-- next line with it if that line is its continuation.
def stripField (field : String) : List NumberedLine → Stripping
  | []      => ⟨[], []⟩
  | [l]     =>
    if l.line.declares field.toList then ⟨[], [⟨field, l.index + 1, 1⟩]⟩ else ⟨[l], []⟩
  | l :: next :: ls =>
    if !l.line.declares field.toList then
      (stripField field (next :: ls)).keep l
    else if !l.line.endsWithComma && next.line.isContinuation then
      (stripField field ls).remove ⟨field, l.index + 1, 2⟩
    else
      (stripField field (next :: ls)).remove ⟨field, l.index + 1, 1⟩

-- One pass per field, each over what the passes before it left.
def stripFields (fields : List String) (ls : List NumberedLine) : Stripping :=
  match fields with
  | []              => ⟨ls, []⟩
  | field :: fields =>
    let first := stripField field ls
    let others := stripFields fields first.kept
    ⟨others.kept, first.removals ++ others.removals⟩

namespace Document

def numbered (d : Document) : List NumberedLine :=
  d.zipIdx.map fun (l, i) => ⟨i, l⟩

def strip (d : Document) (fields : List String) : Stripping :=
  stripFields fields d.numbered

end Document

namespace Stripping

def toText (s : Stripping) : List Char :=
  Document.toText (s.kept.map (·.line))

end Stripping

end TabPruning
