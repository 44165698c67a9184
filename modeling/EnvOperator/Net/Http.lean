import EnvOperator.Text.Bytes

/-! # Messages over HTTP

A message is for a URI, which names a path, alone or behind a scheme and an authority, or an
authority alone. What follows a question mark is a query, and what follows a number sign is dropped.
`Uri.path?` gives the path that a request for a URI is about.
-/
namespace EnvOperator

structure HttpReply where
  status : Nat
  body : String

/-- A word that may stand for a method. -/
def isMethodName (s : String) : Bool :=
  !s.isEmpty && s.toList.all fun c => c.isAlphanum || "!#$%&'*+-.^_|~".toList.contains c ||
    c.toNat == 0x60

namespace Uri

/-- The most bytes a URI may have. -/
def longest : Nat := 65534

def isTooLong (uri : String) : Bool := longest < (Bytes.ofText uri).length

def isPathByte (b : UInt8) : Bool :=
  b == 0x21 || b == 0x22 || (0x24 ≤ b && b ≤ 0x3B) || b == 0x3D || (0x40 ≤ b && b ≤ 0x5F) ||
    (0x61 ≤ b && b != 0x7F)

def isQueryByte (b : UInt8) : Bool :=
  b == 0x21 || (0x24 ≤ b && b ≤ 0x3B) || b == 0x3D || (0x3F ≤ b && b != 0x7F)

/-- The query up to the fragment has only bytes of a query. -/
def validQuery : Bytes → Bool
  | [] => true
  | b :: rest => b == 0x23 || (isQueryByte b && validQuery rest)

/-- The path up to the query or the fragment has only bytes of a path, and the query only its
own. -/
def validPath : Bytes → Bool
  | [] => true
  | b :: rest =>
    if b == 0x3F then validQuery rest
    else b == 0x23 || (isPathByte b && validPath rest)

/-- The path in front of a query and a fragment, if they are all well-formed. -/
def pathOf? (cs : List Char) : Option String :=
  if validPath (Bytes.ofText (String.ofList cs)) then
    some (String.ofList (cs.takeWhile fun c => c != '?' && c != '#'))
  else none

def isLetterOrDigit (c : Char) : Bool := c.isAlphanum

def isSchemeChar (c : Char) : Bool := isLetterOrDigit c || ['+', '-', '.', '~'].contains c

/-- The longest name of a scheme. -/
def longestScheme : Nat := 64

/-- What follows the scheme, if there is one; `://` alone is none. -/
def afterScheme? (cs : List Char) : Option (List Char) :=
  let name := cs.takeWhile isSchemeChar
  match cs.drop name.length with
  | ':' :: '/' :: '/' :: rest =>
    if name.length ≤ longestScheme ∧ 0 < name.length + rest.length then some rest else none
  | _ => none

/-- Characters of an authority that have no part in its structure. -/
def isAuthorityChar (c : Char) : Bool :=
  isLetterOrDigit c || "!$&'()*+,-.;=_~".toList.contains c

/-- What has been seen of an authority. -/
structure AuthorityState where
  /-- Colons outside of user names and brackets. -/
  colons : Nat := 0
  opened : Bool := false
  closed : Bool := false
  /-- A percent sign outside of user names and brackets. -/
  percent : Bool := false
  /-- The last character ends a user name. -/
  atSign : Bool := false

namespace AuthorityState

/-- An address in brackets has at most this many colons. -/
def mostColons : Nat := 8

/-- Take one more character. What stands before an at sign is a user name and what stands in
brackets an address; both may hold colons and percent signs. -/
def push (s : AuthorityState) (c : Char) : Option AuthorityState :=
  let s := { s with atSign := false }
  match c with
  | ':' => if s.colons < mostColons then some { s with colons := s.colons + 1 } else none
  | '[' => if s.percent || s.opened then none else some { s with opened := true }
  | ']' =>
    if !s.opened || s.closed then
      none else some { s with closed := true, colons := 0, percent := false }
  | '@' => some { s with colons := 0, percent := false, atSign := true }
  | '%' => some { s with percent := true }
  | c => if isAuthorityChar c then some s else none

/-- Brackets are closed, at most one colon stands before a port, and a host follows the user
name. -/
def isComplete (s : AuthorityState) : Bool :=
  s.opened == s.closed && s.colons ≤ 1 && !s.percent && !s.atSign

end AuthorityState

def isAuthority (cs : List Char) : Bool :=
  match cs.foldlM AuthorityState.push {} with
  | some s => s.isComplete
  | none => false

/-- The authority at the front and what follows it. -/
def splitAuthority (cs : List Char) : List Char × List Char :=
  cs.span fun c => c != '/' && c != '?' && c != '#'

/-- The path of a URI: that of the server as a whole is a star, that of an authority alone is empty,
and behind an authority an empty path is the root. -/
def path? (uri : String) : Option String :=
  if isTooLong uri then none
  else
    match uri.toList with
    | ['*'] => some "*"
    | '/' :: rest => pathOf? ('/' :: rest)
    | cs =>
      match afterScheme? cs with
      | none => if !cs.isEmpty && isAuthority cs then some "" else none
      | some rest =>
        let (authority, rest) := splitAuthority rest
        if !authority.isEmpty && isAuthority authority then
          (pathOf? rest).map fun path => if path = "" then "/" else path
        else none

end Uri
end EnvOperator
