import ApiBridge.EventStream.Event
import ApiBridge.Json.Reader
import ApiBridge.Text.Blank

namespace ApiBridge.EventStream

structure Block where
  id : Option String
  name : String
  dataLines : List String
  retry : Option Nat
  deriving DecidableEq, Repr

namespace Block

def empty : Block := { id := none, name := defaultName, dataLines := [], retry := none }

/-- A line as the name of a field and its value: what stands before and after the first colon, less
one blank after it. -/
def splitField (line : String) : String × String :=
  let chars := line.toList
  let name := chars.takeWhile (· != ':')
  match chars.dropWhile (· != ':') with
  | [] => (line, "")
  | _ :: ' ' :: value => (String.ofList name, String.ofList value)
  | _ :: value => (String.ofList name, String.ofList value)

/-- A block with one more field; a field with another name changes nothing. -/
def addField (block : Block) (name value : String) : Block :=
  match name with
  | "event" => { block with name := if value.isEmpty then defaultName else value }
  | "data" => { block with dataLines := block.dataLines ++ [value] }
  | "id" => if value.toList.contains '\x00' then block else { block with id := some value }
  | "retry" =>
      match Numeral.natural? UInt64.size value with
      | some millis => { block with retry := some millis }
      | none => block
  | _ => block

/-- A block with one more line; a line that starts with a colon is a comment. -/
def addLine (block : Block) (line : String) : Block :=
  if line.toList.head? = some ':' then block
  else block.addField (splitField line).1 (splitField line).2

/-- What the lines of a block say, or nothing if they hold neither data nor a retry time nor an
id. -/
def ofLines? (lines : List String) : Option Block :=
  let block := lines.foldl addLine empty
  if block.dataLines.isEmpty && block.retry.isNone && block.id.isNone then none else some block

def raw (block : Block) : String := String.intercalate "\n" block.dataLines

def isDispatchable (block : Block) : Bool := !block.dataLines.isEmpty

/-- The value of an event's data: the JSON value of the text where JSON is asked for and the text
is JSON, and else the text itself. -/
def decodeData (raw : String) (decodeJson : Bool) : Json :=
  if !decodeJson || Text.isAllBlank raw then .string raw else (Json.parse? raw).getD (.string raw)

/-- The event of a block as it stands; a block without data has null for it. -/
def toEvent (block : Block) (decodeJson : Bool) : Event :=
  { id := block.id, name := block.name,
    data := if block.isDispatchable then decodeData block.raw decodeJson else .null,
    retry := block.retry, raw := block.raw }

def event? (block : Block) (decodeJson : Bool) : Option Event :=
  if block.isDispatchable then some (block.toEvent decodeJson) else none

end Block

end ApiBridge.EventStream
