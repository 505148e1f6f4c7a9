import SymbolDocs.Command

open SymbolDocs

def showJson (j : Json) : IO UInt32 := do
  IO.println (String.ofList (j.pretty 0))
  return 0

def complain (message : Text) : IO UInt32 := do
  IO.eprintln ("error: " ++ String.ofList message)
  return 1

def readConfig : Option String → IO (Except ConfigFault Config)
  | none => return .ok {}
  | some file => return Config.parse (← IO.FS.readFile file).toList

def runCommand : Command → IO UInt32
  | .resolve raw configFile => do
    match ← readConfig configFile with
    | .error fault => complain (Fault.config fault).message
    | .ok config =>
      match ({ config } : Resolver).resolveOffline raw with
      | some record => showJson record.toJson
      | none => complain "an address cannot be read"
  | .docstring file => do showJson (Docstring.parse (← IO.FS.readFile file).toList).toJson
  | .helpText file => do showJson (HelpPage.parse (← IO.FS.readFile file).toList).toJson
  | .stub file symbol => do
    match StubInfo.ofSource? (← IO.FS.readFile file).toList symbol with
    | some info => showJson info.toJson
    | none => complain ("no signature for " ++ symbol ++ " in " ++ file.toList)

def main (args : List String) : IO UInt32 := do
  match Command.ofArguments? args with
  | some command => runCommand command
  | none =>
    IO.eprint Command.usage
    return 2
