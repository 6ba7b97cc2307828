namespace TabPruning

inductive Json
  | null
  | bool (b : Bool)
  | number (spelling : List Char)
  | string (s : List Char)
  | list (vs : List Json)
  | object (ms : List (List Char × Json))

namespace Json

-- Quotes, backslashes and controls are escaped, by a letter if they have one.
def escapeChar (c : Char) : List Char :=
  match c with
  | '"'    => ['\\', '"']
  | '\\'   => ['\\', '\\']
  | '\x08' => ['\\', 'b']
  | '\x0c' => ['\\', 'f']
  | '\n'   => ['\\', 'n']
  | '\r'   => ['\\', 'r']
  | '\t'   => ['\\', 't']
  | c      =>
    if c.toNat < 0x20 then
      ['\\', 'u', '0', '0', Nat.digitChar (c.toNat / 16), Nat.digitChar (c.toNat % 16)]
    else [c]

def printString (s : List Char) : List Char :=
  '"' :: s.flatMap escapeChar ++ ['"']

-- A new line, indented by two spaces per level.
def newLine (level : Nat) : List Char :=
  '\n' :: List.replicate (2 * level) ' '

mutual

def print (level : Nat) : Json → List Char
  | null       => "null".toList
  | bool true  => "true".toList
  | bool false => "false".toList
  | number s   => s
  | string s   => printString s
  | list []         => ['[', ']']
  | list (v :: vs)  =>
    '[' :: newLine (level + 1) ++ print (level + 1) v ++ printElements (level + 1) vs ++
      newLine level ++ [']']
  | object []              => ['{', '}']
  | object ((k, v) :: ms)  =>
    '{' :: newLine (level + 1) ++ printString k ++ [':', ' '] ++ print (level + 1) v ++
      printMembers (level + 1) ms ++ newLine level ++ ['}']

-- The elements after the first.
def printElements (level : Nat) : List Json → List Char
  | []      => []
  | v :: vs => ',' :: newLine level ++ print level v ++ printElements level vs

-- The members after the first.
def printMembers (level : Nat) : List (List Char × Json) → List Char
  | []           => []
  | (k, v) :: ms =>
    ',' :: newLine level ++ printString k ++ [':', ' '] ++ print level v ++ printMembers level ms

end

end Json

end TabPruning
