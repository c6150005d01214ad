import DiceBot.Startup

namespace DiceBot

def Storage.Error.ofIO (e : IO.Error) : Storage.Error :=
  match e with
  | .noFileOrDirectory .. => .notFound
  | .alreadyExists .. => .exists
  | .inappropriateType _ code _ | .invalidArgument _ code _ =>
    if code = 20 then .notDirectory
    else if code = 21 then .isDirectory
    else if code = 36 then .nameTooLong
    else .other (toString e)
  | e => .other (toString e)

def Storage.attempt {α : Type} (x : IO α) : ExceptT Storage.Error IO α :=
  ExceptT.mk do
    try return .ok (← x)
    catch e => return .error (.ofIO e)

def Storage.ofMachine : Storage IO where
  isPresent p := do
    try
      discard (IO.FS.realPath p.text)
      return true
    catch _ => return false
  isDirectory p := do
    try return (← (← IO.FS.realPath p.text).isDir)
    catch _ => return false
  makeDirectory p := attempt (IO.FS.createDir p.text)
  write p content := attempt (IO.FS.writeBinFile p.text ⟨content.toArray⟩)
  read p := attempt do return (← IO.FS.readBinFile p.text).toList

def variableNames : List String :=
  [Configuration.directoryVariable, Configuration.fileVariable] ++
    Setting.all.filterMap Setting.environmentName?

end DiceBot

open DiceBot in
/-- Starts the service. Connections are taken by what runs it, at the address of the last line. -/
def main : IO UInt32 := do
  let environment ← variableNames.mapM fun name => return (name, ← IO.getEnv name)
  let launch ← start Storage.ofMachine fun name => (environment.lookup name).join
  for line in launch.log do
    IO.println line
  match launch.result with
  | .ok _ => return 0
  | .error e =>
    IO.eprintln ("Error: " ++ e.message)
    return 1
