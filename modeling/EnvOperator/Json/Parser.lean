import EnvOperator.Json.Number

/-! # Reading JSON text

A reader takes characters from the front of its input and hands back the rest.
What keeps to the grammar is read, with unreadable parts for what stands for no
document: `Json.scan` gives the document with such parts, and `Json.parse` only
documents without any.

A document has at most `maxDepth` levels. Deeper values are skipped with a list of
the brackets that are still open.
-/
namespace EnvOperator
namespace Json
open Text

/-- Arrays and objects may be nested this deep. -/
def maxDepth : Nat := 127

def isBlank (c : Char) : Bool := c == ' ' || c == '\n' || c == '\r' || c == '\t'

def skipBlanks (cs : List Char) : List Char := cs.dropWhile isBlank

def hexUnit (a b c d : Char) : Option Nat := do
  return (((← hexDigit a) * 16 + (← hexDigit b)) * 16 + (← hexDigit c)) * 16 + (← hexDigit d)

def isHighSurrogate (unit : Nat) : Bool := 0xD800 ≤ unit && unit < 0xDC00

def isLowSurrogate (unit : Nat) : Bool := 0xDC00 ≤ unit && unit < 0xE000

/-- The character of a surrogate pair. -/
def pairChar (high low : Nat) : Char :=
  Char.ofNat (0x10000 + (high - 0xD800) * 0x400 + (low - 0xDC00))

/-- The character of an escape with one letter. -/
def escaped? (c : Char) : Option Char :=
  match c with
  | '"' | '\\' | '/' => some c
  | 'b' => some '\x08'
  | 'f' => some '\x0c'
  | 'n' => some '\n'
  | 'r' => some '\r'
  | 't' => some '\t'
  | _ => none

/-- The characters of a string up to its closing quote, after those found so far in reverse; they
are no text once a surrogate stands alone. -/
def readChars (found : Option (List Char)) : List Char → Option (Option (List Char) × List Char)
  | '"' :: rest => some (found.map List.reverse, rest)
  | '\\' :: 'u' :: a :: b :: c :: d :: rest =>
    match hexUnit a b c d with
    | none => none
    | some unit =>
      if isLowSurrogate unit then readChars none rest
      else if !isHighSurrogate unit then readChars (found.map (Char.ofNat unit :: ·)) rest
      else match rest with
        | '\\' :: 'u' :: e :: f :: g :: h :: more =>
          match hexUnit e f g h with
          | none => none
          | some low =>
            if isLowSurrogate low then readChars (found.map (pairChar unit low :: ·)) more
            else readChars none ('\\' :: 'u' :: e :: f :: g :: h :: more)
        | rest => readChars none rest
  | '\\' :: c :: rest =>
    match escaped? c with
    | none => none
    | some x => readChars (found.map (x :: ·)) rest
  | c :: rest => if c.toNat < 0x20 ∨ c = '\\' then none else readChars (found.map (c :: ·)) rest
  | [] => none

/-- A string behind its opening quote, and its text if it has one. -/
def readString (cs : List Char) : Option (Option String × List Char) :=
  (readChars (some []) cs).map fun r => (r.1.map String.ofList, r.2)

/-- Take a fixed word off the front. -/
def readWord : List Char → List Char → Option (List Char)
  | [], cs => some cs
  | w :: ws, c :: cs => if w = c then readWord ws cs else none
  | _ :: _, [] => none

/-- A value that is neither an array nor an object. -/
def readScalar (cs : List Char) : Option (Json × List Char) :=
  match cs with
  | 'n' :: rest => (readWord ['u', 'l', 'l'] rest).map fun r => (null, r)
  | 't' :: rest => (readWord ['r', 'u', 'e'] rest).map fun r => (bool true, r)
  | 'f' :: rest => (readWord ['a', 'l', 's', 'e'] rest).map fun r => (bool false, r)
  | '"' :: rest => (readString rest).map fun r => ((r.1.map string).getD unreadable, r.2)
  | cs => readNumber cs

inductive Bracket
  | square
  | curly

/-- What has to come next while a value is skipped. -/
inductive Due
  | value
  | member
  | separator

/-- Skip a value within the brackets that are open, the innermost first, and what follows it up to
the last closing bracket. -/
def skipNested : Nat → List Bracket → Due → List Char → Option (List Char)
  | 0, _, _, _ => none
  | fuel + 1, brackets, .value, cs =>
    match skipBlanks cs with
    | '[' :: rest =>
      match skipBlanks rest with
      | ']' :: rest => skipNested fuel brackets .separator rest
      | rest => skipNested fuel (.square :: brackets) .value rest
    | '{' :: rest =>
      match skipBlanks rest with
      | '}' :: rest => skipNested fuel brackets .separator rest
      | rest => skipNested fuel (.curly :: brackets) .member rest
    | rest =>
      match readScalar rest with
      | some (_, rest) => skipNested fuel brackets .separator rest
      | none => none
  | fuel + 1, brackets, .member, cs =>
    match skipBlanks cs with
    | '"' :: rest =>
      match readString rest with
      | some (_, rest) =>
        match skipBlanks rest with
        | ':' :: rest => skipNested fuel brackets .value rest
        | _ => none
      | none => none
    | _ => none
  | _ + 1, [], .separator, cs => some cs
  | fuel + 1, .square :: outer, .separator, cs =>
    match skipBlanks cs with
    | ',' :: rest => skipNested fuel (.square :: outer) .value rest
    | ']' :: rest => skipNested fuel outer .separator rest
    | _ => none
  | fuel + 1, .curly :: outer, .separator, cs =>
    match skipBlanks cs with
    | ',' :: rest => skipNested fuel (.curly :: outer) .member rest
    | '}' :: rest => skipNested fuel outer .separator rest
    | _ => none

mutual
/-- A value at the front of the input; `fuel` bounds the number of steps. -/
def readValue : Nat → Nat → List Char → Option (Json × List Char)
  | 0, _, _ => none
  | fuel + 1, 0, cs =>
    match skipBlanks cs with
    | '[' :: rest => (skipNested fuel [] .value ('[' :: rest)).map fun r => (unreadable, r)
    | '{' :: rest => (skipNested fuel [] .value ('{' :: rest)).map fun r => (unreadable, r)
    | rest => readScalar rest
  | fuel + 1, depth + 1, cs =>
    match skipBlanks cs with
    | '[' :: rest =>
      match skipBlanks rest with
      | ']' :: rest => some (array [], rest)
      | rest => (readItems fuel depth [] rest).map fun r => (array r.1, r.2)
    | '{' :: rest =>
      match skipBlanks rest with
      | '}' :: rest => some (object [], rest)
      | rest =>
        (readMembers fuel depth (some []) rest).map fun r => ((r.1.map object).getD unreadable, r.2)
    | rest => readScalar rest
/-- One or more items and the closing bracket, after those found so far in reverse. -/
def readItems : Nat → Nat → List Json → List Char → Option (List Json × List Char)
  | 0, _, _, _ => none
  | fuel + 1, depth, found, cs =>
    match readValue fuel depth cs with
    | none => none
    | some (x, rest) =>
      match skipBlanks rest with
      | ',' :: rest => readItems fuel depth (x :: found) rest
      | ']' :: rest => some ((x :: found).reverse, rest)
      | _ => none
/-- One or more members and the closing brace, after those found so far in reverse; an object has no
members to speak of once the name of one is no text. -/
def readMembers : Nat → Nat → Option Members → List Char → Option (Option Members × List Char)
  | 0, _, _, _ => none
  | fuel + 1, depth, found, cs =>
    match skipBlanks cs with
    | '"' :: rest =>
      match readString rest with
      | none => none
      | some (name, rest) =>
        match skipBlanks rest with
        | ':' :: rest =>
          match readValue fuel depth rest with
          | none => none
          | some (x, rest) =>
            let found := do return (← name, x) :: (← found)
            match skipBlanks rest with
            | ',' :: rest => readMembers fuel depth found rest
            | '}' :: rest => some (found.map List.reverse, rest)
            | _ => none
        | _ => none
    | _ => none
end

/-- The document a text spells, if it is one JSON value with blanks around it. -/
def scan (text : String) : Option Json :=
  let cs := text.toList
  match readValue (2 * cs.length + 2) maxDepth cs with
  | some (j, rest) => if (skipBlanks rest).isEmpty then some j else none
  | none => none

/-- The document a text spells, if all of it can be read. -/
def parse (text : String) : Option Json := (scan text).filter isReadable

end Json
end EnvOperator
