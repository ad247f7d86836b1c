import DiagramRepair.CommandLine.Run

/-! The command line program: a run whose steps act on the world. The words and the standard input
of a program hold characters alone here, so nothing has to stand in for halves.
-/

namespace DiagramRepair

open CommandLine

/-- The bytes of a stream up to its end, behind those read before. -/
partial def readAll (stream : IO.FS.Stream) (read : ByteArray) : IO ByteArray := do
  let more ← stream.read 65536
  if more.isEmpty then return read
  readAll stream (read ++ more)

def ofDecoded {ε : Type} : Except ε Text → IO Text
  | .ok text => return text
  | .error _ => throw (IO.userError "the input is not UTF-8")

/-- A file that cannot be opened counts as missing. -/
instance : Shell IO where
  isThere path := do
    match ← (IO.FS.Handle.mk (String.ofList path.text) .read).toBaseIO with
    | .ok _ => return true
    | .error _ => return false
  readFile path := do
    let handle ← IO.FS.Handle.mk (String.ofList path.text) .read
    ofDecoded (decodeInput (← handle.readBinToEnd).toList)
  readInput := do
    let content ← readAll (← IO.getStdin) .empty
    ofDecoded (Encoding.decodeUtf8 content.toList)
  writeFile path text := do
    IO.FS.createDirAll (String.ofList path.parent.text)
    IO.FS.writeFile (String.ofList path.text) (String.ofList text)
  print text := IO.print (String.ofList text)
  warn text := IO.eprint (String.ofList text)
  breakOff reason :=
    throw <| IO.userError <|
      match reason with
      | .namelessExpectation => "the expected type has no name"
      | .file _ => "a file cannot be used"
      | .unprintable => "the output cannot be printed"

end DiagramRepair

def main (words : List String) : IO UInt32 := do
  let code ← DiagramRepair.CommandLine.perform Char.toNat (words.map String.toList)
  return code.toUInt32
