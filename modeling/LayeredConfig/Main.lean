import LayeredConfig.Command.Run
import LayeredConfig.Document.Yaml

/-!
# The program

Reads the variables of the process and the files that the command line names, answers, and prints
the answer.
-/

namespace LayeredConfig

/-- Adds what is on disk at a path, and the directories on the way, to a tree of files. -/
def lookAt (t : FileTree) (path : Path) : IO FileTree := do
  let here ← IO.currentDir
  let places := (List.range (path.parts.length + 1)).map fun n =>
    { path with parts := path.parts.take n }
  places.foldlM (fun t p => do
    let place := FileTree.placeOf t.root p
    let file := here / p.text
    if ← file.isDir then pure { t with directories := place :: t.directories }
    else if ← file.pathExists then do
      let bytes ← IO.FS.readBinFile file
      pure { t with files := (place, bytes.toList) :: t.files }
    else pure t) t

/-- The variables of the process. -/
def readVariables : IO (List (String × Value)) := do
  let block ← IO.FS.readBinFile "/proc/self/environ"
  pure (Variables.ofBlock block.toList)

/-- Answers a command line; the result is the exit status. -/
def runProgram (arguments : List String) : IO UInt32 := do
  let root := Path.ofString (← IO.currentDir).toString
  let paths := (Command.Request.ofArguments arguments).toOption.map fun r => r.paths root
  let t ← (paths.getD []).foldlM lookAt ⟨root, [], []⟩
  let environ ← readVariables
  let outcome : Outcome Unit Command.Output := Command.run ⟨t, Yaml.read⟩ environ arguments ()
  match outcome.result with
  | .ok output => do
    IO.print output.stdout
    IO.eprint output.stderr
    pure (UInt32.ofNat output.status)
  | .error e => do
    IO.eprintln ("Error: " ++ e.message)
    pure (UInt32.ofNat (Command.errorStatus e))

end LayeredConfig

def main (arguments : List String) : IO UInt32 :=
  LayeredConfig.runProgram arguments
