import SymbolDocs.Config
import SymbolDocs.Lookup.Registry
import SymbolDocs.Page.Section
import SymbolDocs.Page.Summary

namespace SymbolDocs.Lookup

/-- The page in the store, or else the one on the web, which is stored. -/
def loadPage (c : Config) (url : Text) : Web (Option Text) := do
  match ← Web.stored? c.pageMaxAgeSecs (Json.required? Json.text?) url with
  | some html => return some html
  | none =>
    match ← Web.fetch url with
    | .ok bytes =>
      let html := Utf8.decodeLossy bytes
      Web.keep url (.string html)
      return some html
    | .error _ => return none

/-- The source of the page at an address. -/
def page? (c : Config) (url : Text) : Lookup (Option Text) := do
  let url ← Web.withHttps (withoutFragment url)
  if url.isEmpty then return none
  remember (·.pages) (fun pair m => { m with pages := pair :: m.pages }) url (loadPage c url)

/-- What the page says about the fragment of its address, or as a whole. -/
def content? (c : Config) (url : Text) : Lookup (Option Text) := do
  match ← page? c url with
  | none => return none
  | some html =>
    match fragmentOf? url with
    | some anchor => return Page.sectionText? html anchor (withoutFragment url)
    | none => return Page.summaryText? html (withoutFragment url)

end SymbolDocs.Lookup
