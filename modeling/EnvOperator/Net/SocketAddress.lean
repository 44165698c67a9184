import EnvOperator.Text.Digit

/-! # Socket addresses

An address and a port. An IPv4 address is four numbers below 256 without extra
zeros; an IPv6 address stands in brackets, is eight groups of up to four
hexadecimal digits, of which one run of zeros may be left out and the last two
may be given as an IPv4 address, and may name a scope.
-/
namespace EnvOperator

inductive SocketAddress
  | v4 (octets : List Nat) (port : Nat)
  | v6 (groups : List Nat) (scope port : Nat)
deriving DecidableEq

namespace SocketAddress
open Text

/-! ## Reading -/

def expect (c : Char) : List Char → Option (List Char)
  | d :: rest => if d = c then some rest else none
  | [] => none

/-- All digits at the front, as the list of their values. -/
def takeDigits (value : Char → Option Nat) : List Char → List Nat × List Char
  | [] => ([], [])
  | c :: rest =>
    match value c with
    | some d => let r := takeDigits value rest; (d :: r.1, r.2)
    | none => ([], c :: rest)

def numeral (base : Nat) (digits : List Nat) : Nat := digits.foldl (fun n d => n * base + d) 0

/-- A decimal number up to `bound`, of any length. -/
def readBounded (bound : Nat) (cs : List Char) : Option (Nat × List Char) :=
  match takeDigits decimalDigit cs with
  | ([], _) => none
  | (ds, rest) => if numeral 10 ds ≤ bound then some (numeral 10 ds, rest) else none

def readPort (cs : List Char) : Option (Nat × List Char) := do readBounded 65535 (← expect ':' cs)

def readOctet (cs : List Char) : Option (Nat × List Char) :=
  match takeDigits decimalDigit cs with
  | ([], _) => none
  | (ds, rest) =>
    if 3 < ds.length ∨ 255 < numeral 10 ds ∨ (1 < ds.length ∧ ds.head? = some 0) then none
    else some (numeral 10 ds, rest)

def readV4 (cs : List Char) : Option (List Nat × List Char) := do
  let (a, cs) ← readOctet cs
  let (b, cs) ← readOctet (← expect '.' cs)
  let (c, cs) ← readOctet (← expect '.' cs)
  let (d, cs) ← readOctet (← expect '.' cs)
  return ([a, b, c, d], cs)

def readGroup (cs : List Char) : Option (Nat × List Char) :=
  match takeDigits hexDigit cs with
  | ([], _) => none
  | (ds, rest) => if 4 < ds.length then none else some (numeral 16 ds, rest)

/-- Up to `room` groups with colons between them, and whether they end in an IPv4 address. -/
def readGroups (first : Bool) : Nat → List Char → List Nat × Bool × List Char
  | 0, cs => ([], false, cs)
  | room + 1, cs =>
    let after := if first then some cs else expect ':' cs
    let embedded := if room = 0 then none else after.bind readV4
    match embedded, after.bind readGroup with
    | some (octets, rest), _ =>
      match octets with
      | [a, b, c, d] => ([a * 256 + b, c * 256 + d], true, rest)
      | _ => ([], false, cs)
    | none, some (g, rest) => let r := readGroups false room rest; (g :: r.1, r.2.1, r.2.2)
    | none, none => ([], false, cs)

def readV6 (cs : List Char) : Option (List Nat × List Char) :=
  match readGroups true 8 cs with
  | (head, embedded, rest) =>
    if head.length = 8 then some (head, rest)
    else if embedded then none
    else do
      let rest ← expect ':' (← expect ':' rest)
      match readGroups true (7 - head.length) rest with
      | (tail, _, rest) =>
        return (head ++ List.replicate (8 - head.length - tail.length) 0 ++ tail, rest)

def readScope (cs : List Char) : Nat × List Char :=
  ((do readBounded 4294967295 (← expect '%' cs)) : Option (Nat × List Char)).getD (0, cs)

def readChars (cs : List Char) : Option (SocketAddress × List Char) :=
  let plain : Option (SocketAddress × List Char) := do
    let (octets, cs) ← readV4 cs
    let (port, cs) ← readPort cs
    return (v4 octets port, cs)
  plain.or do
    let (groups, cs) ← readV6 (← expect '[' cs)
    let (scope, cs) := readScope cs
    let (port, cs) ← readPort (← expect ']' cs)
    return (v6 groups scope port, cs)

def parse (s : String) : Option SocketAddress :=
  match readChars s.toList with
  | some (a, []) => some a
  | _ => none

/-! ## Writing -/

/-- Start and length of the first longest run of zeros. -/
def longestZeros (groups : List Nat) : Nat × Nat :=
  let step (s : Nat × (Nat × Nat) × (Nat × Nat)) (g : Nat) : Nat × (Nat × Nat) × (Nat × Nat) :=
    match s with
    | (i, run, best) =>
      if g = 0 then
        let run := if run.2 = 0 then (i, 1) else (run.1, run.2 + 1)
        (i + 1, run, if best.2 < run.2 then run else best)
      else (i + 1, (0, 0), best)
  (groups.foldl step (0, (0, 0), (0, 0))).2.2

def groupsText (groups : List Nat) : String :=
  String.intercalate ":" (groups.map (fun g => String.ofList (Nat.toDigits 16 g)))

def v4Text (octets : List Nat) : String := String.intercalate "." (octets.map toString)

def v6Text (groups : List Nat) : String :=
  match groups with
  | [0, 0, 0, 0, 0, 65535, a, b] => "::ffff:" ++ v4Text [a / 256, a % 256, b / 256, b % 256]
  | _ =>
    let (start, length) := longestZeros groups
    if 1 < length then groupsText (groups.take start) ++ "::" ++
      groupsText (groups.drop (start + length))
    else groupsText groups

def text : SocketAddress → String
  | v4 octets port => v4Text octets ++ ":" ++ toString port
  | v6 groups scope port =>
    "[" ++ v6Text groups ++ (if scope = 0 then "" else "%" ++ toString scope) ++ "]:" ++
      toString port

/-- Every IPv4 interface of the host, at a port. -/
def anyV4 (port : Nat) : SocketAddress := v4 [0, 0, 0, 0] port

end SocketAddress
end EnvOperator
