import SymbolDocs.Text.Quoted
import SymbolDocs.Limits

namespace SymbolDocs

/-- What can be wrong with a configuration. -/
inductive ConfigFault where
  | unreadable
  | zeroTimeout
  | versionLabel (label : Text)
  | notHttp (url : Text)
  | blankPackage
  | libraryDocs (package url : Text)
  | libraryInventory (package url : Text)
  deriving DecidableEq, Repr

/-- Why bytes are no UTF-8: where the valid part ends, and how many bytes after it cannot start a
character; none when the text merely stops too early. -/
structure Utf8Fault where
  validUpTo : Nat
  badBytes : Option Nat
  deriving DecidableEq, Repr

/-- What can be wrong with an inventory file. -/
inductive InventoryFault where
  | noSentinel
  | truncated
  | corrupt
  | notUtf8 (fault : Utf8Fault)
  deriving DecidableEq, Repr

/-- Why an operation has no answer. -/
inductive Fault where
  | refused (url : Text)
  | status (code : Nat) (url : Text)
  | tooManyRedirects (url : Text)
  | inventory (fault : InventoryFault)
  | registryDocument
  | config (fault : ConfigFault)
  | notASymbol (qualified module : Text)
  | helper (report : Text)
  | invalidStubText
  | json
  deriving DecidableEq, Repr

namespace ConfigFault

def message : ConfigFault → Text
  | unreadable => "invalid resolver config"
  | zeroTimeout => "timeout_ms must be positive"
  | versionLabel label => "python_version must look like '3.12', got " ++ Text.quoted label
  | notHttp url => "not an http(s) URL: " ++ Text.quoted url
  | blankPackage => "custom library entry has an empty package name"
  | libraryDocs package url =>
    "custom library '" ++ package ++ "' has a non-http docs_url: " ++ Text.quoted url
  | libraryInventory package url =>
    "custom library '" ++ package ++ "' has a non-http inventory_url: " ++ Text.quoted url

end ConfigFault

def Utf8Fault.message (f : Utf8Fault) : Text :=
  match f.badBytes with
  | some n => "invalid utf-8 sequence of " ++ Text.ofNat n ++ " bytes from index " ++
      Text.ofNat f.validUpTo
  | none => "incomplete utf-8 byte sequence from index " ++ Text.ofNat f.validUpTo

def InventoryFault.message : InventoryFault → Text
  | noSentinel => "missing zlib compression sentinel"
  | truncated => "truncated zlib stream"
  | corrupt => "decompression failed: deflate decompression error"
  | notUtf8 f => "inventory body is not UTF-8: " ++ f.message

namespace Fault

/-- Failures of the remote side or of the transport, as opposed to malformed data. -/
def isNetwork : Fault → Bool
  | refused _ | status _ _ | tooManyRedirects _ => true
  | _ => false

def message : Fault → Text
  | refused url => "Network error: connection refused: " ++ url
  | status code url => "HTTP " ++ Text.ofNat code ++ ": " ++ url
  | tooManyRedirects url =>
    "Too many redirects (>" ++ Text.ofNat Limits.redirects ++ ") while fetching " ++ url
  | inventory f => "Inventory format error: " ++ f.message
  | registryDocument => "Registry error: malformed registry metadata"
  | config f => "Config error: " ++ f.message
  | notASymbol qualified module =>
    "Parse error: not a symbol name: " ++ Text.quoted qualified ++ " in " ++ Text.quoted module
  | helper report => "Parse error: runtime helper reported: " ++ report
  | invalidStubText => "IO error: stream did not contain valid UTF-8"
  | json => "JSON error"

end Fault
end SymbolDocs
