/-!
Tables of properties of code points. A table is written as text: entries apart by blanks, each a
code point or a run of them in hexadecimal, with its value after an equals sign. The entries are
ascending and apart. The tables are those of Unicode 17.
-/

namespace ApiBridge.Unicode

structure Span where
  first : Nat
  last : Nat
  deriving DecidableEq, Repr

abbrev Properties (α : Type) := Array (Span × α)

namespace Properties

variable {α : Type}

def number (digits : List Char) : Nat :=
  digits.foldl
    (fun value c =>
      value * 16 + if c.isDigit then c.toNat - '0'.toNat else c.toNat - 'A'.toNat + 10) 0

def span (text : List Char) : Span :=
  match text.splitOn '-' with
  | [first, last] => ⟨number first, number last⟩
  | _ => ⟨number text, number text⟩

def words (text : String) : List (List Char) :=
  (text.toList.splitOnP fun c => c == ' ' || c == '\n').filter fun word => !word.isEmpty

def ofText (value : List Char → α) (text : String) : Properties α :=
  ((words text).map fun word =>
    (span (word.takeWhile (· != '=')), value ((word.dropWhile (· != '=')).drop 1))).toArray

/-- The value of a code point among the entries from `low` up to `high`, which are halved until one
is left. -/
def search (table : Properties α) (code low high : Nat) : Option α :=
  if low < high then
    match table[(low + high) / 2]? with
    | none => none
    | some (span, value) =>
        if code < span.first then search table code low ((low + high) / 2)
        else if span.last < code then search table code ((low + high) / 2 + 1) high
        else some value
  else none
termination_by high - low

def find? (table : Properties α) (c : Char) : Option α := search table c.toNat 0 table.size

end Properties

abbrev Class := Properties Unit

def Class.ofText (text : String) : Class := Properties.ofText (fun _ => ()) text

def Class.has (characters : Class) (c : Char) : Bool := (characters.find? c).isSome

end ApiBridge.Unicode
