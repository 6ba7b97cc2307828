import TabPruning.Json.Scan

namespace TabPruning.Json

def hexDigit? (c : Char) : Option Nat :=
  if '0' ≤ c && c ≤ '9' then some (c.toNat - '0'.toNat)
  else if 'a' ≤ c && c ≤ 'f' then some (c.toNat - 'a'.toNat + 10)
  else if 'A' ≤ c && c ≤ 'F' then some (c.toNat - 'A'.toNat + 10)
  else none

def hexValue? (digits : List Char) : Option Nat :=
  digits.foldlM (fun n c => (hexDigit? c).map (16 * n + ·)) 0

-- Four hexadecimal digits. Four bytes are used even where they are not digits.
def hexEscape : Scanner Nat
  | a :: b :: c :: d :: rest =>
    match hexValue? [a, b, c, d] with
    | some n => .ok ⟨n, rest, by simp; omega⟩
    | none   => .error (.past 4 .invalidEscape (a :: b :: c :: d :: rest))
  | s =>
    if byteLength s < 4 then .error (.here .endInString [])
    else .error (.past 4 .invalidEscape s)

def isLeadingSurrogate (n : Nat) : Bool :=
  0xD800 ≤ n && n ≤ 0xDBFF

def isTrailingSurrogate (n : Nat) : Bool :=
  0xDC00 ≤ n && n ≤ 0xDFFF

def combineSurrogates (leading trailing : Nat) : Char :=
  Char.ofNat ((leading - 0xD800) * 0x400 + (trailing - 0xDC00) + 0x10000)

-- The second half of a pair, from its backslash on.
def trailingEscape (leading : Nat) : Scanner Char
  | []               => .error (.here .endInString [])
  | ['\\']           => .error (.here .endInString [])
  | '\\' :: 'u' :: s => do
    let r ← hexEscape s
    if isTrailingSurrogate r.value then
      return ⟨combineSurrogates leading r.value, r.rest, by have := r.shorter; simp; omega⟩
    else throw (.here .loneSurrogate r.rest)
  | '\\' :: c :: s   => .error (.past 1 .unexpectedEndOfHexEscape (c :: s))
  | c :: s           => .error (.past 1 .unexpectedEndOfHexEscape (c :: s))

-- What follows a backslash and a `u`.
def unicodeEscape : Scanner Char := fun s => do
  let r ← hexEscape s
  if isTrailingSurrogate r.value then throw (.here .loneSurrogate r.rest)
  else if isLeadingSurrogate r.value then
    let t ← trailingEscape r.value r.rest
    return t.after (Nat.le_of_lt r.shorter)
  else return r.map Char.ofNat

-- The characters with an escape of one letter.
def shortEscape? : Char → Option Char
  | '"'  => some '"'
  | '\\' => some '\\'
  | '/'  => some '/'
  | 'b'  => some '\x08'
  | 'f'  => some '\x0c'
  | 'n'  => some '\n'
  | 'r'  => some '\r'
  | 't'  => some '\t'
  | _    => none

def escape : Scanner Char
  | []     => .error (.here .endInString [])
  | c :: s =>
    match shortEscape? c with
    | some d => .ok (.one d)
    | none   =>
      if c = 'u' then do
        let r ← unicodeEscape s
        return r.behind
      else .error (.past 1 .invalidEscape (c :: s))

def isControl (c : Char) : Bool :=
  c.toNat < 0x20

-- The next character of a string, or nothing at its closing quote.
def stringItem : Scanner (Option Char)
  | []     => .error (.here .endInString [])
  | c :: s =>
    if c = '"' then .ok (.one none)
    else if c = '\\' then do
      let r ← escape s
      return (r.map some).behind
    else if isControl c then .error (.past 1 .controlCharacter (c :: s))
    else .ok (.one (some c))

def stringBody (s : List Char) : Except Stop (Scan (List Char) s) := do
  match ← stringItem s with
  | ⟨none, rest, h⟩   => return ⟨[], rest, h⟩
  | ⟨some c, rest, h⟩ =>
    let r ← stringBody rest
    return (r.map (c :: ·)).after (Nat.le_of_lt h)
  termination_by s.length

-- Where a string's contents do not matter, surrogates need not pair up, and a control character
-- stops the reading before it.
def skipEscape : Scanner Unit
  | []     => .error (.here .endInString [])
  | c :: s =>
    if (shortEscape? c).isSome then .ok (.one ())
    else if c = 'u' then do
      let r ← hexEscape s
      return (r.map fun _ => ()).behind
    else .error (.past 1 .invalidEscape (c :: s))

-- Whether the string goes on.
def skipItem : Scanner Bool
  | []     => .error (.here .endInString [])
  | c :: s =>
    if c = '"' then .ok (.one false)
    else if c = '\\' then do
      let r ← skipEscape s
      return (r.map fun _ => true).behind
    else if isControl c then .error (.here .controlCharacter (c :: s))
    else .ok (.one true)

def skipString (s : List Char) : Except Stop (Scan Unit s) := do
  match ← skipItem s with
  | ⟨false, rest, h⟩ => return ⟨(), rest, h⟩
  | ⟨true, rest, h⟩  =>
    let r ← skipString rest
    return r.after (Nat.le_of_lt h)
  termination_by s.length

end TabPruning.Json
