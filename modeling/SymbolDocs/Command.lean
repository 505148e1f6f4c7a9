import SymbolDocs.Json.Writer
import SymbolDocs.Lookup.Resolve

namespace SymbolDocs

/-- What the program is asked to do. -/
inductive Command where
  | resolve (raw : RawSymbol) (configFile : Option String)
  | docstring (file : String)
  | helpText (file : String)
  | stub (file : String) (symbol : Text)
  deriving Repr

namespace Command

/-- Reads the options of a lookup. -/
def withOptions? (raw : RawSymbol) (configFile : Option String) : List String → Option Command
  | [] => some (.resolve raw configFile)
  | "--stdlib" :: more => withOptions? { raw with isStdlib := true } configFile more
  | "--module" :: value :: more => withOptions? { raw with module := some value } configFile more
  | "--qualified-name" :: value :: more =>
    withOptions? { raw with qualifiedName := some value } configFile more
  | "--version" :: value :: more =>
    withOptions? { raw with version := some value } configFile more
  | "--config" :: value :: more => withOptions? raw (some value) more
  | _ => none

def ofArguments? : List String → Option Command
  | "resolve" :: name :: options => withOptions? { name } none options
  | ["docstring", file] => some (.docstring file)
  | ["help-text", file] => some (.helpText file)
  | ["stub", file, symbol] => some (.stub file symbol)
  | _ => none

def usage : String :=
  "usage:\n" ++
  "  resolve SYMBOL [--module M] [--qualified-name Q] [--stdlib] [--version V] [--config FILE]\n" ++
  "  docstring FILE\n" ++
  "  help-text FILE\n" ++
  "  stub FILE SYMBOL\n"

end Command

/-- The documentation of a symbol as far as it is known without a connection. -/
def Resolver.resolveOffline (resolver : Resolver) (raw : RawSymbol) : Option Record :=
  ((resolver.resolveSymbol raw {}) { client := (Site.client {}) }).1.map (·.1)

end SymbolDocs
