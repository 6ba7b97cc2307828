namespace TabPruning

namespace Path

def parts (path : List Char) : List (List Char) :=
  path.splitOn '/'

def isFiller (part : List Char) : Bool :=
  part = [] || part = ['.']

-- The slash of an absolute path, or the dot with which a relative one starts.
def root (path : List Char) : List Char :=
  match path with
  | '/' :: _        => ['/']
  | ['.']           => ['.']
  | '.' :: '/' :: _ => ['.']
  | _               => []

def body (path : List Char) : List Char :=
  path.drop (root path).length

-- The root, if there is one, and the names behind it.
def components (path : String) : List (List Char) :=
  let cs := path.toList
  (if root cs = [] then [] else [root cs]) ++ (parts (body cs)).filter (!isFiller ·)

-- Empty parts and dots do not count, except for a dot at the very front.
def same (p q : String) : Bool :=
  components p = components q

-- Drops empty parts and dots at the end.
def dropFillers (ps : List (List Char)) : List (List Char) :=
  (ps.reverse.dropWhile isFiller).reverse

-- The path without its last name; nothing if it has neither a name nor a dot.
def parent? (path : String) : Option String :=
  let cs := path.toList
  match dropFillers (parts (body cs)) with
  | [] => if root cs = ['.'] then some "" else none
  | ps => some (String.ofList (root cs ++ ['/'].intercalate (dropFillers ps.dropLast)))

-- The directory that holds the last name: the working directory if the path names none.
def directory (path : String) : String :=
  match parent? path with
  | some p => if p.isEmpty then "." else p
  | none   => "."

def isAbsolute (path : String) : Bool :=
  path.toList.head? = some '/'

-- The second path, seen from the first one.
def join (base path : String) : String :=
  if isAbsolute path then path
  else if base.toList.getLast? = some '/' then base ++ path
  else base ++ "/" ++ path

end Path

end TabPruning
