import ForeignBridge.Cli.Run
import Std.Time.DateTime.Timestamp

/-!
The tool as a program: it reads the variables, the files that may be meant and the clock, runs, and writes out
what the run left behind. No native library can be loaded from here.
-/

namespace ForeignBridge.Cli

/-- The texts of those paths that can be read, and the directories that they lead through. -/
def readFiles (paths : List String) : IO Files := do
  let found ← paths.filterMapM fun (p : String) =>
    tryCatch (do return some (Path.names p, ← IO.FS.readFile p)) fun _ => return none
  return ⟨found.map fun f => (Files.placeNamed f.1, f.2),
    found.flatMap fun f => (List.range f.1.length).map fun n => Files.placeNamed (f.1.take n)⟩

def readVariables : IO Environment :=
  RuntimeConfig.knownVariables.filterMapM fun v => do
    let name := RuntimeConfig.variableStart ++ v.1
    return (← IO.getEnv name).map fun s => (name, s)

def pathsNamed (around : Surroundings) (args : List String) : List String :=
  args ++ args.filterMap (fun a => (Piece.splitEquals a).2) ++ around.environment.map Prod.snd

/-- The path of the manifest that the configuration names. -/
def manifestNamed? (around : Surroundings) (files : Files) (args : List String) : Option String :=
  match tool.read args with
  | .run _ settings _ =>
    match configuration around files settings with
    | .ok c => c.contract.value.manifestFile.value
    | .error _ => none
  | _ => none

def Printed.shown : Printed → String
  | .text s => s
  | .logged line => line.shown ++ "\n"

def makeWay (path : String) : IO Unit := do
  let parent := (Path.names path).dropLast
  if !parent.isEmpty then IO.FS.createDirAll (Path.ofNames parent)

/-- Writes the files that are new or changed, and the lines of log files at their ends. -/
def writeFiles (before : Files) (l : Logging) : IO Unit := do
  for (path, text) in l.files.texts do
    let lines := l.linesTo (.file path)
    if Value.lookup path before.texts != some text || !lines.isEmpty then
      makeWay path
      if !text.isEmpty && Value.lookup path before.texts != some text then IO.FS.writeFile path text
      let handle ← IO.FS.Handle.mk path .append
      for line in lines do
        handle.putStr (line.shown ++ "\n")

/-- The number of seconds since 1970-01-01. -/
def clock : IO Double := do
  let now ← Std.Time.Timestamp.now
  let nanos := now.toNanosecondsSinceUnixEpoch.toInt
  return .ofRatio (nanos < 0) nanos.natAbs 1000000000

def runProgram (args : List String) : IO UInt32 := do
  let around : Surroundings := ⟨← readVariables, []⟩
  let named ← readFiles (pathsNamed around args)
  let manifest ← readFiles (manifestNamed? around named args).toList
  let files : Files := ⟨named.texts ++ manifest.texts, named.directories ++ manifest.directories⟩
  let (result, s) := outcome around files (← clock) args
  for p in s.printed do
    IO.print p.shown
  writeFiles files s.logging
  match result with
  | .returned => return 0
  | .exited code =>
    if code = 2 then IO.eprintln tool.usage
    return code.toUInt32
  | .failed why =>
    IO.eprintln s!"{why.className}: {why.message}"
    return 1

end ForeignBridge.Cli

def main (args : List String) : IO UInt32 := ForeignBridge.Cli.runProgram args
