/-
# The program

The command line on the files of this computer. Everything that stands below the chosen folder is
read before the command runs. There is no way to a server from here, so an execution reports that
the server was not reached.
-/

import ChartQuery.Command.Run

open ChartQuery ChartQuery.Command

/-- What stands at a place on the disk, and everything below it to a depth. -/
def readSources : Nat → String → IO (List Source)
  | 0, _ => pure []
  | depth + 1, place => do
    let real ← IO.FS.realPath place
    if ← real.isDir then
      let entries ← real.readDir
      let below ← entries.toList.mapM fun entry =>
        readSources depth (place ++ "/" ++ entry.fileName)
      pure (⟨.ofText place, .folder⟩ :: below.flatten)
    else if ← real.pathExists then
      let bytes ← IO.FS.readBinFile place
      pure [⟨.ofText place, .file bytes.toList⟩]
    else pure []

/-- How deep folders are read. -/
def deepest : Nat := 64

/-- The files below the folder that an invocation is about. -/
def readFiles (invocation : Invocation) : IO FileTree := do
  match invocation.folder? with
  | none => pure ⟨[]⟩
  | some folder =>
    let sources ← (readSources deepest (folder.text.string?.getD "")).toBaseIO
    pure ⟨(sources.toOption).getD []⟩

/-- The variables that settings are read from, in capitals and in small letters. -/
def variableNames : List String := [
  "VIZFORGE_BASE_URL", "VIZFORGE_TIMEOUT", "VIZFORGE_VERIFY", "VIZFORGE_HTTPS_VERIFY",
  "vizforge_base_url", "vizforge_timeout", "vizforge_verify", "vizforge_https_verify"]

/-- The variables of this process. -/
def readEnvironment : IO Environment := do
  let found ← variableNames.mapM fun name => do
    pure ((← IO.getEnv name).map fun value => (Text.ofString name, Text.ofString value))
  pure (found.filterMap id)

/-- The cells of a line when nothing is said about it. -/
def standardWidth : Nat := 80

/-- The screen, with lines of at least two cells. -/
def readScreen : IO Terminal.Screen := do
  let stated ← IO.getEnv "COLUMNS"
  let width := (stated.bind String.toNat?).getD standardWidth
  pure (.ofWidth width)

/-- The server that is never reached. -/
def noServer : Server := fun _ => .unreached "ConnectError" "All connection attempts failed"

/-- Run the command line. -/
def main (args : List String) : IO UInt32 := do
  match Invocation.ofArguments (args.map .ofString) with
  | .error fault =>
    IO.eprintln (String.ofList (Text.characters fault.message.toList))
    pure (UInt32.ofNat misused)
  | .ok invocation =>
    let outcome :=
      perform ⟨← readEnvironment, ← readFiles invocation, noServer, ← readScreen⟩ invocation
    IO.print outcome.output
    pure (UInt32.ofNat outcome.exit)
