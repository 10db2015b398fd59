import Montage.CommandLine.Run

/-!
The program: commands at work on the disk of the machine.
-/

namespace Montage.CommandLine

def diskError : IO.Error → DiskError
  | .noFileOrDirectory .. => .notFound
  | .alreadyExists .. => .alreadyExists
  | .inappropriateType .. => .isADirectory
  | e => .other (toString e)

def onMachine {α : Type} (step : IO α) : IO (Except DiskError α) := do
  try
    return .ok (← step)
  catch e => return .error (diskError e)

def machineDisk : Disk IO where
  read path := onMachine (IO.FS.readBinFile path)
  makeDirectories path := onMachine (IO.FS.createDirAll path)
  write path text := onMachine (IO.FS.writeFile path text)

end Montage.CommandLine

def main (args : List String) : IO UInt32 := do
  let outcome ← Montage.CommandLine.run Montage.CommandLine.machineDisk "montage" args
  for line in outcome.out do
    IO.println line
  for line in outcome.err do
    IO.eprintln line
  return outcome.code
