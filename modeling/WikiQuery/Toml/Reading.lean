import WikiQuery.Toml.Basic

/- Reading TOML text. Readers take what they need from the front and leave the rest; those that
   loop are bounded by the length of the text. -/
set_option autoImplicit false

namespace WikiQuery.Toml

def isControl (c : Char) : Bool := (c.toNat < 0x20 && c ≠ '\t') || c.toNat = 0x7F

def skipBlanks (cs : List Char) : List Char := cs.dropWhile fun c => c = ' ' || c = '\t'

def newline? (cs : List Char) : Option (List Char) :=
  match cs with
  | '\n' :: rest => some rest
  | '\r' :: '\n' :: rest => some rest
  | _ => none

def skipComment : List Char → Option (List Char)
  | [] => some []
  | '\n' :: rest => some ('\n' :: rest)
  | '\r' :: '\n' :: rest => some ('\r' :: '\n' :: rest)
  | c :: rest => if isControl c then none else skipComment rest

def skipLineEnd (cs : List Char) : Option (List Char) :=
  match skipBlanks cs with
  | '#' :: rest => skipComment rest
  | rest => some rest

def skipLines : Nat → List Char → Option (List Char)
  | 0, cs => some cs
  | fuel + 1, cs => do
      let rest ← skipLineEnd cs
      match newline? rest with
      | some rest => skipLines fuel rest
      | none => some rest

def skipAll (cs : List Char) : Option (List Char) := skipLines (cs.length + 1) cs

def hexChar (width : Nat) (cs : List Char) : Option (Char × List Char) :=
  let digits := cs.take width
  if digits.length = width ∧ digits.all fun c => (hexDigit? c).isSome then
    let n := radixValue 16 digits
    if n < 0xD800 ∨ (0xDFFF < n ∧ n < 0x110000) then some (Char.ofNat n, cs.drop width) else none
  else none

def escape? (cs : List Char) : Option (Char × List Char) :=
  match cs with
  | 'b' :: rest => some ('\x08', rest)
  | 't' :: rest => some ('\t', rest)
  | 'n' :: rest => some ('\n', rest)
  | 'f' :: rest => some ('\x0c', rest)
  | 'r' :: rest => some ('\r', rest)
  | 'e' :: rest => some ('\x1b', rest)
  | '"' :: rest => some ('"', rest)
  | '\\' :: rest => some ('\\', rest)
  | 'x' :: rest => hexChar 2 rest
  | 'u' :: rest => hexChar 4 rest
  | 'U' :: rest => hexChar 8 rest
  | _ => none

def basicText : Nat → List Char → Option (List Char × List Char)
  | 0, _ => none
  | _ + 1, [] => none
  | _ + 1, '"' :: rest => some ([], rest)
  | fuel + 1, '\\' :: rest => do
      let (c, rest) ← escape? rest
      let (cs, rest) ← basicText fuel rest
      some (c :: cs, rest)
  | fuel + 1, c :: rest =>
      if isControl c then none
      else do
        let (cs, rest) ← basicText fuel rest
        some (c :: cs, rest)

def literalText : List Char → Option (List Char × List Char)
  | [] => none
  | '\'' :: rest => some ([], rest)
  | c :: rest =>
      if isControl c then none
      else do
        let (cs, rest) ← literalText rest
        some (c :: cs, rest)

-- A run of quotes inside a long text: three close it, and one or two before them belong to the
-- text. Gives the quotes that belong to the text, and whether it closes.
def quoteRun (quote : Char) (cs : List Char) : Option (List Char × Bool × List Char) :=
  let run := cs.takeWhile (· = quote)
  let rest := cs.dropWhile (· = quote)
  if run.length < 3 then some (run, false, rest)
  else if run.length ≤ 5 then some (run.drop 3, true, rest)
  else none

def skipBreaks : List Char → List Char
  | ' ' :: rest => skipBreaks rest
  | '\t' :: rest => skipBreaks rest
  | '\n' :: rest => skipBreaks rest
  | '\r' :: '\n' :: rest => skipBreaks rest
  | rest => rest

def skipContinuation (cs : List Char) : Option (List Char) :=
  (newline? (skipBlanks cs)).map skipBreaks

def longText (quote : Char) (escapes : Bool) : Nat → List Char → Option (List Char × List Char)
  | 0, _ => none
  | _ + 1, [] => none
  | fuel + 1, c :: rest =>
      if c = quote then do
        let (run, closes, rest) ← quoteRun quote (c :: rest)
        if closes then some (run, rest)
        else do
          let (cs, rest) ← longText quote escapes fuel rest
          some (run ++ cs, rest)
      else if escapes ∧ c = '\\' then
        match skipContinuation rest with
        | some rest => longText quote escapes fuel rest
        | none => do
            let (e, rest) ← escape? rest
            let (cs, rest) ← longText quote escapes fuel rest
            some (e :: cs, rest)
      else
        match newline? (c :: rest) with
        | some rest => do
            let (cs, rest) ← longText quote escapes fuel rest
            some ('\n' :: cs, rest)
        | none =>
            if isControl c then none
            else do
              let (cs, rest) ← longText quote escapes fuel rest
              some (c :: cs, rest)

-- A long text starts behind the line end that may follow its opening quotes.
def openLong (cs : List Char) : List Char := (newline? cs).getD cs

def readLong (quote : Char) (escapes : Bool) (cs : List Char) : Option (String × List Char) :=
  (longText quote escapes (cs.length + 1) (openLong cs)).map fun (inside, rest) =>
    (String.ofList inside, rest)

def isBare (c : Char) : Bool := c.isAlphanum || c = '_' || c = '-'

def readName (cs : List Char) : Option (String × List Char) :=
  match cs with
  | '"' :: rest => (basicText (rest.length + 1) rest).map fun (s, rest) => (String.ofList s, rest)
  | '\'' :: rest => (literalText rest).map fun (s, rest) => (String.ofList s, rest)
  | cs =>
      let name := cs.takeWhile isBare
      if name = [] then none else some (String.ofList name, cs.dropWhile isBare)

def readSegments : Nat → List Char → Option (List String × List Char)
  | 0, _ => none
  | count + 1, cs => do
      let (name, rest) ← readName (skipBlanks cs)
      match skipBlanks rest with
      | '.' :: rest => do
          let (names, rest) ← readSegments count rest
          some (name :: names, rest)
      | rest => some ([name], rest)

def deepest : Nat := 80

def readKey (cs : List Char) : Option (List String × List Char) := readSegments deepest cs

def isWordChar (c : Char) : Bool :=
  c.isAlphanum || c = '_' || c = '-' || c = '+' || c = '.' || c = ':'

-- A bare word; a time of day may follow a date behind one space.
def readWord (cs : List Char) : List Char × List Char :=
  let word := cs.takeWhile isWordChar
  match date? word, cs.dropWhile isWordChar with
  | some [], ' ' :: rest =>
      match rest with
      | c :: _ =>
          if isDigit c then (word ++ ' ' :: rest.takeWhile isWordChar, rest.dropWhile isWordChar)
          else (word, ' ' :: rest)
      | [] => (word, ' ' :: rest)
  | _, rest => (word, rest)

mutual
-- One value; the first count bounds the steps, the second the nesting.
def readValue : Nat → Nat → List Char → Option (Toml × List Char)
  | 0, _, _ => none
  | fuel + 1, depth, cs =>
      match cs with
      | '"' :: '"' :: '"' :: rest => (readLong '"' true rest).map fun (s, rest) => (.text s, rest)
      | '\'' :: '\'' :: '\'' :: rest =>
          (readLong '\'' false rest).map fun (s, rest) => (.text s, rest)
      | '"' :: rest =>
          (basicText (rest.length + 1) rest).map fun (s, rest) => (.text (String.ofList s), rest)
      | '\'' :: rest =>
          (literalText rest).map fun (s, rest) => (.text (String.ofList s), rest)
      | '[' :: rest =>
          match depth with
          | 0 => none
          | depth + 1 => do
              let rest ← skipAll rest
              let (items, rest) ← readItems fuel depth rest
              some (.array items, rest)
      | '\x7b' :: rest =>
          match depth with
          | 0 => none
          | depth + 1 => do
              let rest ← skipAll rest
              let (pairs, rest) ← readPairs fuel depth rest
              let members ← assignAll [] pairs
              some (.table .inline members, rest)
      | cs =>
          let (word, rest) := readWord cs
          (scalar? word).map fun value => (value, rest)

def readItems : Nat → Nat → List Char → Option (List Toml × List Char)
  | 0, _, _ => none
  | fuel + 1, depth, cs =>
      match cs with
      | ']' :: rest => some ([], rest)
      | cs => do
          let (item, rest) ← readValue fuel depth cs
          let rest ← skipAll rest
          match rest with
          | ',' :: rest => do
              let rest ← skipAll rest
              let (items, rest) ← readItems fuel depth rest
              some (item :: items, rest)
          | ']' :: rest => some ([item], rest)
          | _ => none

-- The pairs of an inline table up to its closing brace; a comma may follow the last one. Lines may
-- end anywhere but inside a key.
def readPairs : Nat → Nat → List Char → Option (List (List String × Toml) × List Char)
  | 0, _, _ => none
  | fuel + 1, depth, cs =>
      match cs with
      | '\x7d' :: rest => some ([], rest)
      | cs => do
          let (key, rest) ← readKey cs
          let rest ← skipAll rest
          match rest with
          | '=' :: rest => do
              let rest ← skipAll rest
              let (value, rest) ← readValue fuel depth rest
              let rest ← skipAll rest
              match rest with
              | ',' :: rest => do
                  let rest ← skipAll rest
                  let (pairs, rest) ← readPairs fuel depth rest
                  some ((key, value) :: pairs, rest)
              | '\x7d' :: rest => some ([(key, value)], rest)
              | _ => none
          | _ => none
end

def readPair (cs : List Char) : Option ((List String × Toml) × List Char) := do
  let (key, rest) ← readKey cs
  match rest with
  | '=' :: rest => do
      let (value, rest) ← readValue (2 * rest.length + 2) deepest (skipBlanks rest)
      some ((key, value), rest)
  | _ => none

def readHeader (cs : List Char) : Option ((Bool × List String) × List Char) :=
  match cs with
  | '[' :: rest => do
      let (path, rest) ← readKey rest
      match rest with
      | ']' :: ']' :: rest => some ((true, path), rest)
      | _ => none
  | cs => do
      let (path, rest) ← readKey cs
      match rest with
      | ']' :: rest => some ((false, path), rest)
      | _ => none

def endLine (cs : List Char) : Option (List Char) := do
  let rest ← skipLineEnd cs
  match rest with
  | [] => some []
  | rest => newline? rest

def readBody : Nat → List Char → Option (List (List String × Toml) × List Char)
  | 0, _ => none
  | fuel + 1, cs => do
      match ← skipAll cs with
      | [] => some ([], [])
      | '[' :: rest => some ([], '[' :: rest)
      | cs => do
          let (pair, rest) ← readPair cs
          let rest ← endLine rest
          let (pairs, rest) ← readBody fuel rest
          some (pair :: pairs, rest)

def readSections : Nat → List Char → Option (List Section)
  | 0, _ => none
  | fuel + 1, cs =>
      match cs with
      | [] => some []
      | '[' :: rest => do
          let ((repeated, path), rest) ← readHeader rest
          let rest ← endLine rest
          let (body, rest) ← readBody (rest.length + 1) rest
          let sections ← readSections fuel rest
          some (⟨repeated, path, body⟩ :: sections)
      | _ => none

def dropMark (cs : List Char) : List Char :=
  match cs with
  | '\uFEFF' :: rest => rest
  | cs => cs

def read (s : String) : Option Members := do
  let cs := dropMark s.toList
  let (body, rest) ← readBody (cs.length + 1) cs
  let sections ← readSections (rest.length + 1) rest
  let members ← assignAll [] body
  placeAll members sections

end WikiQuery.Toml
