import RefactorAdvice.Cli.Run

/-!
The command line. Files are read beforehand, as far as the words name them; all else is decided
by the run itself. Paths lead down from the folder at hand. There are no names of characters at
hand, so that a text that uses one counts as none.
-/

open RefactorAdvice

namespace RefactorAdvice.Main

def deepest : Nat := 64

def place (text : String) : List String := (Path.ofText text).parts

/-- Adds what is found on the disk at a path: a file, or a folder with the modules below it. Links
to folders are not entered. -/
def gather : Nat → String → Store → IO Store
  | 0, _, store => return store
  | fuel + 1, text, store => do
    try
      let here ← IO.FS.realPath text
      if ← here.isDir then
        let mut store := if (place text).isEmpty then store else store.insert (place text) .folder
        for entry in ← here.readDir do
          let inner := (Path.ofText text).child entry.fileName
          let isLink := (← entry.path.symlinkMetadata).type == .symlink
          if ← entry.path.isDir then
            unless isLink do store ← gather fuel inner.text store
          else if entry.fileName.endsWith ".py" then
            store ← gather fuel inner.text store
        return store
      else
        return store.insert (place text) (.file (← IO.FS.readBinFile text))
    catch _ => return store

def wanted (words : List String) : List String :=
  match Cli.read words with
  | .ok (.run request) =>
    (request.paths ++ request.config.toList ++ [Settings.projectFile, Settings.sectionsFile]).map
      Path.text
  | _ => []

end RefactorAdvice.Main

open RefactorAdvice.Main in
def main (words : List String) : IO UInt32 := do
  let folder ← IO.currentDir
  let store ← (wanted words).foldlM (fun store text => gather deepest text store)
    ({ home := folder.toString } : Store)
  let session := Cli.session "pyrefactor" (Cli.Host.ofStore Code.noNames store) words
  (← IO.getStdout).putStr session.out
  (← IO.getStderr).putStr session.err
  match session.ending with
  | .ok code => return UInt32.ofNat code
  | .error failure =>
    IO.eprintln (failure.kind.name ++ ": " ++ failure.message)
    return 1
