import TabPruning.Marker

namespace TabPruning

-- How much a line deepens the nesting: its opening braces less its closing ones.
def Line.braceDelta (l : Line) : Int :=
  (l.count '{' : Int) - l.count '}'

structure BlockEnd where
  index  : Nat
  closed : Bool
  deriving DecidableEq, Repr

-- `depth` is the balance of the lines so far, the last of which has the given index.
def BlockEnd.scan (depth : Int) (index : Nat) : Document → BlockEnd
  | []      => ⟨index, false⟩
  | l :: ls =>
    let depth := depth + l.braceDelta
    if depth = 0 then ⟨index + 1, true⟩ else scan depth (index + 1) ls

-- Where the block that starts on the line of index `start` ends; nothing if there is no such
-- line.
def Document.blockEnd? (d : Document) (start : Nat) : Option BlockEnd :=
  match d.drop start with
  | []      => none
  | l :: ls => some (.scan l.braceDelta start ls)

-- A range of lines, by the indices of its first and last line.
structure Block where
  first  : Nat
  last   : Nat
  marker : Marker
  closed : Bool
  deriving DecidableEq, Repr

namespace Block

def length (b : Block) : Nat :=
  b.last - b.first + 1

def firstLine (b : Block) : Nat :=
  b.first + 1

def lastLine (b : Block) : Nat :=
  b.last + 1

end Block

-- The blocks removed from a document, in the order of their removal.
structure BlockLog where
  blocks : List Block := []
  deriving DecidableEq, Repr

namespace BlockLog

def push (log : BlockLog) (b : Block) : BlockLog :=
  ⟨log.blocks ++ [b]⟩

def length (log : BlockLog) : Nat :=
  log.blocks.length

def isEmpty (log : BlockLog) : Bool :=
  log.blocks.isEmpty

def removedLineCount (log : BlockLog) : Nat :=
  log.blocks.foldr (·.length + ·) 0

def hasUnclosed (log : BlockLog) : Bool :=
  log.blocks.any (!·.closed)

end BlockLog

end TabPruning
