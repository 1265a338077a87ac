import ApiBridge.Unicode.Composition

/-!
The composed normal form of texts: characters are taken apart, marks are put into the order of their
classes, and what has a character of its own is put together again. The characters that the domain
mapping replaces are left as they are.
-/

namespace ApiBridge.Unicode.Normalization

def leadBase : Nat := 0x1100

def vowelBase : Nat := 0x1161

def tailBase : Nat := 0x11A7

def syllableBase : Nat := 0xAC00

def vowelCount : Nat := 21

/-- How many tails there are, with none as the first. -/
def tailCount : Nat := 28

def leadCount : Nat := 19

def syllableParts? (code : Nat) : Option (List Nat) :=
  let index := code - syllableBase
  if code < syllableBase ∨ leadCount * vowelCount * tailCount ≤ index then none
  else
    let lead := leadBase + index / (vowelCount * tailCount)
    let vowel := vowelBase + index % (vowelCount * tailCount) / tailCount
    let tail := index % tailCount
    some (if tail = 0 then [lead, vowel] else [lead, vowel, tailBase + tail])

/-- The syllable of a lead and a vowel, or of a syllable without a tail and a tail. -/
def syllable? (code next : Nat) : Option Nat :=
  if leadBase ≤ code ∧ code < leadBase + leadCount ∧ vowelBase ≤ next ∧
      next < vowelBase + vowelCount then
    some (syllableBase + ((code - leadBase) * vowelCount + (next - vowelBase)) * tailCount)
  else if syllableBase ≤ code ∧ code < syllableBase + leadCount * vowelCount * tailCount ∧
      (code - syllableBase) % tailCount = 0 ∧ tailBase < next ∧ next < tailBase + tailCount then
    some (code + (next - tailBase))
  else none

/-- The parts of a character; a first part may have parts of its own. -/
def parts : Nat → Char → List Char
  | 0, c => [c]
  | fuel + 1, c =>
      match syllableParts? c.toNat with
      | some codes => codes.map Char.ofNat
      | none =>
          match composites.find? c, replaced.find? c with
          | some (first, second), _ => parts fuel (Char.ofNat first) ++ [Char.ofNat second]
          | none, some codes => codes.map Char.ofNat
          | none, none => [c]

/-- The class by which a mark is ordered; zero for what is no mark. -/
def order (c : Char) : Nat := (combiningClasses.find? c).getD 0

/-- Puts a mark in front of marks of higher classes. The characters are in reverse. -/
def placeMark (c : Char) : List Char → List Char
  | [] => [c]
  | other :: rest =>
      if order c ≠ 0 ∧ order c < order other then other :: placeMark c rest else c :: other :: rest

def decompose (text : List Char) : List Char :=
  -- No character has parts of parts more than three levels deep.
  ((text.flatMap (parts 4)).foldl (fun placed c => placeMark c placed) []).reverse

def compose? (first second : Char) : Option Char :=
  match syllable? first.toNat second.toNat with
  | some code => some (Char.ofNat code)
  | none =>
      let isOfBoth (entry : Span × (Nat × Nat)) : Bool := entry.2 == (first.toNat, second.toNat)
      (Array.find? isOfBoth composites).map fun entry => Char.ofNat entry.1.first

/-- What is put together so far: what is done, in reverse; the last character that is no mark; and
the marks after it that stay, in reverse. -/
structure Composed where
  done : List Char
  base : Option Char
  marks : List Char

namespace Composed

def toList (state : Composed) : List Char :=
  state.done.reverse ++ state.base.toList ++ state.marks.reverse

/-- Takes the next character. A mark meets its base unless a mark of its class or a higher one
stands between. -/
def take (state : Composed) (c : Char) : Composed :=
  let meets := state.marks.head?.all fun last => order last < order c
  match state.base.bind fun base => if meets then compose? base c else none with
  | some composite => { state with base := some composite }
  | none =>
      if order c = 0 then
        { done := state.marks ++ state.base.toList ++ state.done, base := some c, marks := [] }
      else { state with marks := c :: state.marks }

end Composed

def compose (text : List Char) : List Char :=
  ((decompose text).foldl Composed.take { done := [], base := none, marks := [] }).toList

end ApiBridge.Unicode.Normalization
