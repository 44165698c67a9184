/-! # Trimming

Repeated removal of a character or of a fixed text from the ends of a string.
-/
namespace EnvOperator
namespace Text

def trimStart (c : Char) (s : String) : String := String.ofList (s.toList.dropWhile (· == c))

def trimEndChars (c : Char) (cs : List Char) : List Char := (cs.reverse.dropWhile (· == c)).reverse

def trimEnd (c : Char) (s : String) : String := String.ofList (trimEndChars c s.toList)

/-- Both ends lose every `c`. -/
def trim (c : Char) (s : String) : String :=
  String.ofList (trimEndChars c (s.toList.dropWhile (· == c)))

/-- What follows `front`, if the text starts with it. -/
def stripChars : List Char → List Char → Option (List Char)
  | [], cs => some cs
  | _ :: _, [] => none
  | x :: xs, c :: cs => if x = c then stripChars xs cs else none

/-- Remove `front` from the start at most `times` times. -/
def dropFront (front : List Char) : Nat → List Char → List Char
  | 0, cs => cs
  | times + 1, cs =>
    match stripChars front cs with
    | some rest => dropFront front times rest
    | none => cs

/-- Remove `front` from the start as often as it stands there. -/
def dropRepeated (front : String) (s : String) : String :=
  String.ofList (dropFront front.toList s.toList.length s.toList)

def startsWith (front s : String) : Bool := (stripChars front.toList s.toList).isSome

end Text
end EnvOperator
