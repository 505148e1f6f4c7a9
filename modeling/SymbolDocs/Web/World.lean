import SymbolDocs.Store.Entry
import SymbolDocs.Text.Layout
import SymbolDocs.Url.Parse
import SymbolDocs.Web.Client

namespace SymbolDocs

/-- The trimmed address, with `https` in the place of `http`. None when the seven bytes that would
hold the scheme end inside a character. -/
def withHttps? (url : Text) : Option Text :=
  let url := Text.trim url
  if url.byteLength < 7 then some url
  else (Text.dropBytes? 7 url).map fun rest =>
    if Text.eqIgnoreCase (url.take 7) "http://" then "https://" ++ rest else url

/-- Where a redirect leads: its target is relative to the page, unless that has no address. -/
def redirectTarget (current location : Text) : Text :=
  match (Url.ofText? current).bind (Url.join? · location) with
  | some url => url.toText
  | none => location

def withoutFragment (url : Text) : Text := Text.firstPart '#' url

/-- What stands outside of a lookup: the web, a store, a clock, and what has been done so far, the
latest first. -/
structure World where
  client : Client
  store : Store := .recent {}
  /-- Milliseconds. -/
  now : Nat := 0
  requests : List Request := []
  /-- Keys looked up or set in the store. -/
  storeUses : List Text := []
  /-- Texts taken for addresses. -/
  addresses : List Text := []

/-- Work on the web. It has no outcome when an address would be cut inside a character; what has been
done by then stays done. -/
abbrev Web := OptionT (StateM World)

namespace Web

def head (url : Text) : Web (Except Fault Nat) := fun w =>
  (some (w.client.head w.requests url), { w with requests := .head url :: w.requests })

def get (url : Text) : Web (Except Fault Reply) := fun w =>
  (some (w.client.get w.requests url), { w with requests := .get url :: w.requests })

def withHttps (url : Text) : Web Text := fun w =>
  (withHttps? url, { w with addresses := url :: w.addresses })

def stored? (maxAgeSecs : Nat) (decode : Option Json → Option α) (key : Text) :
    Web (Option α) := fun w =>
  (some (w.store.read? w.now maxAgeSecs decode key), { w with storeUses := key :: w.storeUses })

def keep (key : Text) (data : Json) : Web Unit := fun w =>
  (some (), { w with
    store := w.store.write w.now key data
    storeUses := key :: w.storeUses })

end Web

/-- Where a reply leaves a download. -/
inductive Hop where
  | arrived (body : Bytes)
  | failed (fault : Fault)
  | moved (location : Text)
  deriving DecidableEq, Repr

def Reply.hop (reply : Reply) (url : Text) : Hop :=
  if isRedirection reply.status then
    match reply.location with
    | some location => .moved location
    | none => .failed (.status reply.status url)
  else if isSuccess reply.status then .arrived reply.body
  else .failed (.status reply.status url)

namespace Web

def visit (url : Text) : Web Hop := do
  match ← get url with
  | .ok reply => return reply.hop url
  | .error fault => return .failed fault

/-- Downloads a page, following a number of redirects. The address where the download began is
named when there are more. -/
def follow (start : Text) : Nat → Text → Web (Except Fault Bytes)
  | 0, url => do
    match ← visit url with
    | .arrived body => return .ok body
    | .failed fault => return .error fault
    | .moved _ => return .error (.tooManyRedirects start)
  | hops + 1, url => do
    match ← visit url with
    | .arrived body => return .ok body
    | .failed fault => return .error fault
    | .moved location => follow start hops (← withHttps (redirectTarget url location))

def fetch (url : Text) : Web (Except Fault Bytes) := do
  follow url Limits.redirects (← withHttps url)

end Web
end SymbolDocs
