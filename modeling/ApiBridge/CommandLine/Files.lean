import ApiBridge.Table
import ApiBridge.Text.Utf8

namespace ApiBridge.CommandLine

/-- The files of the one directory from which all names lead; nothing is known of the directories
around it but that they are there. -/
abbrev Files := Table (List UInt8)

inductive FileFault where
  | missing
  | noDirectory
  | directory
  | nameTooLong
  | nullCharacter
  | notText
  deriving DecidableEq, Repr

def FileFault.message : FileFault → String
  | .missing => "No such file or directory (os error 2)"
  | .noDirectory => "Not a directory (os error 20)"
  | .directory => "Is a directory (os error 21)"
  | .nameTooLong => "File name too long (os error 36)"
  | .nullCharacter => "file name contained an unexpected NUL byte"
  | .notText => "stream did not contain valid UTF-8"

namespace Files

inductive Place where
  | home
  | outside
  | file (bytes : List UInt8)

def maxPart : Nat := 255

def maxName : Nat := 4095

def step (files : Files) (place : Place) (part : String) : Except FileFault Place :=
  match place with
  | .file _ => .error .noDirectory
  | .home | .outside =>
      if part = "" ∨ part = "." then .ok place
      else if part = ".." then .ok .outside
      else if maxPart < part.utf8ByteSize then .error .nameTooLong
      else
        match place, files.find? part with
        | .home, some bytes => .ok (.file bytes)
        | _, _ => .error .missing

def bytes (files : Files) (name : String) : Except FileFault (List UInt8) := do
  let characters := name.toList
  if characters.contains (Char.ofNat 0) then throw .nullCharacter
  if characters.isEmpty then throw .missing
  if maxName < name.utf8ByteSize then throw .nameTooLong
  if let some bytes := files.find? name then return bytes
  let start := if characters.head? = some '/' then .outside else .home
  match ← ((characters.splitOn '/').map String.ofList).foldlM (step files) start with
  | .file bytes => pure bytes
  | _ => throw .directory

def text (files : Files) (name : String) : Except FileFault String := do
  match Utf8.decode? (← files.bytes name) with
  | some text => pure text
  | none => throw .notText

end Files

end ApiBridge.CommandLine
