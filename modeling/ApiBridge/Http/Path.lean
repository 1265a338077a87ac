import ApiBridge.Http.Percent

namespace ApiBridge.Http.Path

def isSingleDot (segment : List Char) : Bool :=
  let lower := String.ofList (segment.map Char.toLower)
  lower == "." || lower == "%2e"

def isDoubleDot (segment : List Char) : Bool :=
  let lower := String.ofList (segment.map Char.toLower)
  lower == ".." || lower == ".%2e" || lower == "%2e." || lower == "%2e%2e"

def areDrive (letter mark : Char) : Bool := letter.isAlpha && (mark == ':' || mark == '|')

def isDrive : List Char → Bool
  | [letter, mark] => areDrive letter mark
  | _ => false

/-- Whether a segment stays although what follows means the segment above it. -/
def stays : List Char → Bool
  | [letter, mark] | letter :: mark :: '\\' :: _ => areDrive letter mark
  | _ => false

/-- Resolves the dots among segments; `above` holds the segments so far, in reverse. -/
def resolveDots (above : List (List Char)) : List (List Char) → List (List Char)
  | [] => above.reverse
  | segment :: rest =>
      let resolved :=
        if isDoubleDot segment then if above.head?.any stays then above else above.tail
        else if isSingleDot segment then above
        else segment :: above
      -- A path that ends in dots ends in a slash.
      let atEnd := rest.isEmpty && (isDoubleDot segment || isSingleDot segment)
      resolveDots (if atEnd then [] :: resolved else resolved) rest

/-- The segments of a path, without a slash in front, as they are written in a URL. -/
def segments (isSlash : Char → Bool) (path : List Char) : List (List Char) :=
  resolveDots [] ((path.splitOnP isSlash).map (Percent.encode Percent.inPath))

def text (segments : List (List Char)) : String :=
  String.ofList (segments.flatMap fun segment => '/' :: segment)

end ApiBridge.Http.Path
