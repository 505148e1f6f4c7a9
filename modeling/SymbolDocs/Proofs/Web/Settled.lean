import SymbolDocs.Lookup.Page
import SymbolDocs.Lookup.Inventory
import SymbolDocs.Proofs.Web.Run

namespace SymbolDocs

variable {α β : Type}

/-- A client that answers a request always in the same way. -/
structure Client.IsFixed (client : Client) : Prop where
  head (requests requests' : List Request) (url : Text) :
    client.head requests url = client.head requests' url
  get (requests requests' : List Request) (url : Text) :
    client.get requests url = client.get requests' url

theorem Site.isFixed_client (site : Site) : site.client.IsFixed :=
  ⟨fun _ _ _ => rfl, fun _ _ _ => rfl⟩

namespace Web

/-- Work on the web that has one outcome with a client, and leaves the store as it is. -/
def Settled (client : Client) (x : Web α) : Prop :=
  ∃ outcome, ∀ w : World, w.client = client →
    (x w).1 = outcome ∧ (x w).2.client = client ∧ (x w).2.store = w.store

/-- The outcome of work on the web that nothing has gone before. -/
def outcome (client : Client) (x : Web α) : Option α := (x { client }).1

namespace Settled

variable {client : Client}

theorem outcome_eq {x : Web α} (h : Settled client x) {w : World} (same : w.client = client) :
    (x w).1 = x.outcome client := by
  obtain ⟨outcome, settled⟩ := h
  exact (settled w same).1.trans (settled { client } rfl).1.symm

theorem pure (a : α) : Settled client (pure a : Web α) := ⟨some a, fun _ same => ⟨rfl, same, rfl⟩⟩

theorem bind {x : Web α} {f : α → Web β} (hx : Settled client x)
    (hf : ∀ a, Settled client (f a)) : Settled client (x >>= f) := by
  obtain ⟨outcome, settled⟩ := hx
  cases outcome with
  | none =>
    refine ⟨none, fun w same => ?_⟩
    obtain ⟨none, client', store⟩ := settled w same
    have run : x w = (.none, (x w).2) := Prod.ext none rfl
    rw [bind_of_none run]
    exact ⟨rfl, client', store⟩
  | some a =>
    obtain ⟨outcome', settled'⟩ := hf a
    refine ⟨outcome', fun w same => ?_⟩
    obtain ⟨some, client', store⟩ := settled w same
    have run : x w = (.some a, (x w).2) := Prod.ext some rfl
    obtain ⟨eq, client'', store'⟩ := settled' (x w).2 client'
    rw [bind_of_some run]
    exact ⟨eq, client'', store'.trans store⟩

theorem withHttps (url : Text) : Settled client (withHttps url) :=
  ⟨withHttps? url, fun _ same => ⟨rfl, same, rfl⟩⟩

section Fixed

variable (fixed : client.IsFixed)

include fixed

theorem head (url : Text) : Settled client (head url) := by
  refine ⟨some (client.head [] url), fun w same => ⟨?_, same, rfl⟩⟩
  rw [Web.head, same, fixed.head w.requests []]

theorem visit (url : Text) : Settled client (visit url) := by
  have got : Settled client (get url) := by
    refine ⟨some (client.get [] url), fun w same => ⟨?_, same, rfl⟩⟩
    rw [Web.get, same, fixed.get w.requests []]
  refine got.bind fun reply => ?_
  cases reply with
  | error fault => exact .pure _
  | ok reply => exact .pure _

theorem follow (start : Text) (hops : Nat) (url : Text) :
    Settled client (follow start hops url) := by
  induction hops generalizing url with
  | zero =>
    refine (visit fixed url).bind fun hop => ?_
    cases hop <;> exact .pure _
  | succ hops ih =>
    refine (visit fixed url).bind fun hop => ?_
    cases hop with
    | arrived body => exact .pure _
    | failed fault => exact .pure _
    | moved location => exact (withHttps _).bind fun target => ih target

theorem fetch (url : Text) : Settled client (fetch url) :=
  (withHttps url).bind fun target => follow fixed _ _ target

theorem downloadRegistry (c : Config) (package : Text) :
    Settled client (Lookup.downloadRegistry c package) := by
  refine (fetch fixed _).bind fun reply => ?_
  cases reply with
  | error fault => exact .pure none
  | ok bytes =>
    dsimp only
    cases RegistryInfo.ofBytes bytes with
    | error fault => exact .pure none
    | ok info => exact .pure (some info)

theorem firstInventory (home : Text) (places : List Text) :
    Settled client (Lookup.firstInventory home places) := by
  induction places with
  | nil => exact .pure none
  | cons place more ih =>
    refine (head fixed _).bind fun answer => ?_
    cases answer with
    | error fault => exact ih
    | ok status =>
      dsimp only
      split
      · exact .pure _
      · exact ih

theorem fetchInventory (root url : Text) : Settled client (Lookup.fetchInventory root url) := by
  refine (fetch fixed url).bind fun reply => ?_
  cases reply with
  | error fault => exact .pure []
  | ok bytes =>
    dsimp only
    cases Inventory.symbolMap bytes root with
    | error fault => exact .pure []
    | ok map => exact .pure map

end Fixed

end Settled
end Web
end SymbolDocs
