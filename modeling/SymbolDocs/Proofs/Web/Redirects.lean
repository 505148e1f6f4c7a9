import SymbolDocs.Proofs.Web.Run

namespace SymbolDocs

/-- The answer is a redirection that names a location. -/
def RedirectsTo (answer : Except Fault Reply) (location : Text) : Prop :=
  ∃ reply, answer = .ok reply ∧ isRedirection reply.status ∧ reply.location = some location

/-- What a download ends in at an address where the answer leads no further. -/
inductive Concludes (url : Text) : Except Fault Reply → Except Fault Bytes → Prop
  | fault (fault : Fault) : Concludes url (.error fault) (.error fault)
  | body {reply : Reply} : isSuccess reply.status → Concludes url (.ok reply) (.ok reply.body)
  | status {reply : Reply} : ¬ isSuccess reply.status →
      (isRedirection reply.status → reply.location = none) →
      Concludes url (.ok reply) (.error (.status reply.status url))

/-- Requests for the pages of a trail behind earlier requests, the latest first. -/
def askedAlong (trail : List Text) (before : List Request) : List Request :=
  (trail.map Request.get).reverse ++ before

/-- The addresses that a download visits from the first one on, and what it ends in. Each address
but the first is the upgraded target of the answer before; at most so many redirections are
followed, and one more is a fault that names the address where the download started. -/
structure IsTrail (client : Client) (start : Text) (hops : Nat) (before : List Request)
    (trail : List Text) (result : Except Fault Bytes) : Prop where
  bounded : trail.length ≤ hops + 1
  moves {visited more : List Text} {url next : Text} : trail = visited ++ url :: next :: more →
    ∃ location, RedirectsTo (client.get (askedAlong visited before) url) location ∧
      withHttps? (redirectTarget url location) = some next
  ends : ∃ visited url, trail = visited ++ [url] ∧
    (Concludes url (client.get (askedAlong visited before) url) result ∨
      trail.length = hops + 1 ∧
        (∃ location, RedirectsTo (client.get (askedAlong visited before) url) location) ∧
        result = .error (.tooManyRedirects start))

variable {client : Client} {start url next : Text} {hops : Nat} {before : List Request}
  {trail more : List Text} {answer : Except Fault Reply} {result : Except Fault Bytes}

theorem askedAlong_cons (url : Text) (trail : List Text) (before : List Request) :
    askedAlong (url :: trail) before = askedAlong trail (.get url :: before) := by
  rw [askedAlong, askedAlong, List.map_cons, List.reverse_cons, List.append_assoc]
  rfl

theorem isTrail_singleton : IsTrail client start hops before [url] result ↔
    Concludes url (client.get before url) result ∨
      hops = 0 ∧ (∃ location, RedirectsTo (client.get before url) location) ∧
        result = .error (.tooManyRedirects start) := by
  have alone {visited : List Text} {last : Text} (eq : [url] = visited ++ [last]) :
      visited = [] ∧ last = url := by
    have whole : [] ++ [url] = visited ++ [last] := eq
    obtain ⟨nothing, same⟩ := List.append_inj' whole rfl
    exact ⟨nothing.symm, (List.singleton_inj.mp same).symm⟩
  constructor
  · intro h
    obtain ⟨visited, last, eq, ends⟩ := h.ends
    obtain ⟨rfl, rfl⟩ := alone eq
    rcases ends with concludes | ⟨size, located, eq⟩
    · exact .inl concludes
    · have none : hops = 0 := by
        have one : [last].length = 1 := rfl
        omega
      exact .inr ⟨none, located, eq⟩
  · intro ends
    refine ⟨by simp, ?_, [], url, rfl, ?_⟩
    · intro visited more here next eq
      have size := congrArg List.length eq
      rw [List.length_append, List.length_singleton] at size
      simp only [List.length_cons] at size
      omega
    · rcases ends with concludes | ⟨none, located, eq⟩
      · exact .inl concludes
      · exact .inr ⟨by rw [none]; rfl, located, eq⟩

theorem isTrail_cons : IsTrail client start (hops + 1) before (url :: next :: more) result ↔
    (∃ location, RedirectsTo (client.get before url) location ∧
      withHttps? (redirectTarget url location) = some next) ∧
    IsTrail client start hops (.get url :: before) (next :: more) result := by
  constructor
  · intro h
    have split : url :: next :: more = [] ++ url :: next :: more := rfl
    refine ⟨h.moves split, ?_, ?_, ?_⟩
    · have bound := h.bounded
      rw [List.length_cons] at bound
      omega
    · intro visited more' here next' eq
      have split : url :: next :: more = (url :: visited) ++ here :: next' :: more' :=
        congrArg (url :: ·) eq
      have moved := h.moves split
      rwa [askedAlong_cons] at moved
    · obtain ⟨visited, last, eq, ends⟩ := h.ends
      cases visited with
      | nil => cases eq
      | cons first visited =>
        obtain ⟨rfl, rest⟩ := List.cons.inj eq
        rw [askedAlong_cons, List.length_cons, Nat.add_right_cancel_iff] at ends
        exact ⟨visited, last, rest, ends⟩
  · rintro ⟨first, h⟩
    refine ⟨Nat.succ_le_succ h.bounded, ?_, ?_⟩
    · intro visited more' here next' eq
      cases visited with
      | nil =>
        cases eq
        exact first
      | cons one visited =>
        obtain ⟨rfl, rest⟩ := List.cons.inj eq
        rw [askedAlong_cons]
        exact h.moves rest
    · obtain ⟨visited, last, eq, ends⟩ := h.ends
      refine ⟨url :: visited, last, congrArg (url :: ·) eq, ?_⟩
      rw [askedAlong_cons, List.length_cons, Nat.add_right_cancel_iff]
      exact ends

/-- Some trail from an address on has made these requests and ended so. -/
def HasTrail (client : Client) (start : Text) (hops : Nat) (before : List Request) (url : Text)
    (requests : List Request) (result : Except Fault Bytes) : Prop :=
  ∃ trail, trail.head? = some url ∧ requests = askedAlong trail before ∧
    IsTrail client start hops before trail result

theorem hasTrail_iff {requests : List Request} :
    HasTrail client start hops before url requests result ↔
      (requests = .get url :: before ∧ (Concludes url (client.get before url) result ∨
        hops = 0 ∧ (∃ location, RedirectsTo (client.get before url) location) ∧
          result = .error (.tooManyRedirects start))) ∨
      ∃ n next, hops = n + 1 ∧
        (∃ location, RedirectsTo (client.get before url) location ∧
          withHttps? (redirectTarget url location) = some next) ∧
        HasTrail client start n (.get url :: before) next requests result := by
  constructor
  · rintro ⟨trail, first, asked, isTrail⟩
    rcases trail with _ | ⟨url', _ | ⟨next, more⟩⟩
    · cases first
    · obtain rfl := Option.some.inj first
      exact .inl ⟨asked, isTrail_singleton.mp isTrail⟩
    · obtain rfl := Option.some.inj first
      have bound : more.length + 2 ≤ hops + 1 := isTrail.bounded
      obtain ⟨n, rfl⟩ := Nat.exists_eq_succ_of_ne_zero (show hops ≠ 0 by omega)
      obtain ⟨moved, rest⟩ := isTrail_cons.mp isTrail
      rw [askedAlong_cons] at asked
      exact .inr ⟨n, next, rfl, moved, next :: more, rfl, asked, rest⟩
  · rintro (⟨asked, ends⟩ | ⟨n, next, rfl, moved, trail, first, asked, rest⟩)
    · exact ⟨[url], rfl, asked, isTrail_singleton.mpr ends⟩
    · rcases trail with _ | ⟨next', more⟩
      · cases first
      · obtain rfl := Option.some.inj first
        rw [← askedAlong_cons] at asked
        exact ⟨url :: next' :: more, rfl, asked, isTrail_cons.mpr ⟨moved, rest⟩⟩

theorem Concludes.unique {result' : Except Fault Bytes} (h : Concludes url answer result)
    (h' : Concludes url answer result') : result = result' := by
  cases h with
  | fault fault =>
    cases h'
    rfl
  | body success =>
    cases h' with
    | body => rfl
    | status unsuccessful => exact absurd success unsuccessful
  | status unsuccessful =>
    cases h' with
    | body success => exact absurd success unsuccessful
    | status => rfl

theorem not_isRedirection {status : Nat} (success : isSuccess status) :
    ¬ isRedirection status := by
  simp only [isSuccess, isRedirection, Bool.and_eq_true, decide_eq_true_eq] at success ⊢
  omega

theorem Concludes.not_redirectsTo {location : Text} (h : Concludes url answer result) :
    ¬ RedirectsTo answer location := by
  rintro ⟨reply, rfl, redirection, named⟩
  cases h with
  | body success => exact not_isRedirection success redirection
  | status _ unnamed =>
    rw [unnamed redirection] at named
    cases named

theorem RedirectsTo.unique {location location' : Text} (h : RedirectsTo answer location)
    (h' : RedirectsTo answer location') : location = location' := by
  obtain ⟨reply, rfl, -, named⟩ := h
  obtain ⟨reply', same, -, named'⟩ := h'
  obtain rfl := Except.ok.inj same
  exact Option.some.inj (named.symm.trans named')

theorem hasTrail_of_concludes {requests : List Request} {result' : Except Fault Bytes}
    (h : Concludes url (client.get before url) result) :
    HasTrail client start hops before url requests result' ↔
      result = result' ∧ .get url :: before = requests := by
  rw [hasTrail_iff]
  constructor
  · rintro (⟨rfl, h' | ⟨-, ⟨location, located⟩, -⟩⟩ | ⟨n, next, -, ⟨location, located, -⟩, -⟩)
    · exact ⟨h.unique h', rfl⟩
    · exact absurd located h.not_redirectsTo
    · exact absurd located h.not_redirectsTo
  · rintro ⟨rfl, rfl⟩
    exact .inl ⟨rfl, .inl h⟩

section Redirected

variable {requests : List Request} {location : Text}
  (located : RedirectsTo (client.get before url) location)

include located

theorem hasTrail_zero_of_redirectsTo : HasTrail client start 0 before url requests result ↔
    .error (.tooManyRedirects start) = result ∧ .get url :: before = requests := by
  rw [hasTrail_iff]
  constructor
  · rintro (⟨rfl, concludes | ⟨-, -, rfl⟩⟩ | ⟨n, next, longer, -⟩)
    · exact absurd located concludes.not_redirectsTo
    · exact ⟨rfl, rfl⟩
    · omega
  · rintro ⟨rfl, rfl⟩
    exact .inl ⟨rfl, .inr ⟨rfl, ⟨location, located⟩, rfl⟩⟩

theorem hasTrail_succ_of_redirectsTo :
    HasTrail client start (hops + 1) before url requests result ↔
      ∃ next, withHttps? (redirectTarget url location) = some next ∧
        HasTrail client start hops (.get url :: before) next requests result := by
  rw [hasTrail_iff]
  constructor
  · rintro (⟨-, concludes | ⟨none, -⟩⟩ | ⟨n, next, same, ⟨location', located', upgraded⟩, rest⟩)
    · exact absurd located concludes.not_redirectsTo
    · omega
    · obtain rfl := Nat.succ.inj same
      obtain rfl := located.unique located'
      exact ⟨next, upgraded, rest⟩
  · rintro ⟨next, upgraded, rest⟩
    exact .inr ⟨hops, next, rfl, ⟨location, located, upgraded⟩, rest⟩

end Redirected

namespace Web

/-- Where an answer leaves a download. -/
def hopOf (url : Text) : Except Fault Reply → Hop
  | .ok reply => reply.hop url
  | .error fault => .failed fault

theorem visit_eq (url : Text) (w : World) : visit url w =
    (some (hopOf url (w.client.get w.requests url)),
      { w with requests := .get url :: w.requests }) := by
  have asked : get url w = (some (w.client.get w.requests url),
      { w with requests := .get url :: w.requests }) := rfl
  rw [visit, bind_of_some asked]
  cases w.client.get w.requests url <;> rfl

theorem hopOf_eq_moved_iff {location : Text} :
    hopOf url answer = .moved location ↔ RedirectsTo answer location := by
  constructor
  · intro moved
    cases answer with
    | error fault => cases moved
    | ok reply =>
      rw [hopOf, Reply.hop] at moved
      split at moved
      · next redirection =>
        split at moved
        · next location' named =>
          cases moved
          exact ⟨reply, rfl, redirection, named⟩
        · cases moved
      · split at moved <;> cases moved
  · rintro ⟨reply, rfl, redirection, named⟩
    rw [hopOf, Reply.hop, if_pos redirection, named]

theorem hopOf_eq_failed_iff {fault : Fault} :
    hopOf url answer = .failed fault ↔ Concludes url answer (.error fault) := by
  constructor
  · intro failed
    cases answer with
    | error fault =>
      cases failed
      exact .fault fault
    | ok reply =>
      rw [hopOf, Reply.hop] at failed
      split at failed
      · next redirection =>
        split at failed
        · cases failed
        · next unnamed =>
          cases failed
          exact .status (fun success => not_isRedirection success redirection) fun _ => unnamed
      · next elsewhere =>
        split at failed
        · cases failed
        · next unsuccessful =>
          cases failed
          exact .status unsuccessful fun redirection => absurd redirection elsewhere
  · intro concludes
    cases concludes with
    | fault => rfl
    | @status reply unsuccessful unnamed =>
      rw [hopOf, Reply.hop]
      by_cases redirection : isRedirection reply.status
      · rw [if_pos redirection, unnamed redirection]
      · rw [if_neg redirection, if_neg unsuccessful]

theorem hopOf_eq_arrived_iff {body : Bytes} :
    hopOf url answer = .arrived body ↔ Concludes url answer (.ok body) := by
  constructor
  · intro arrived
    cases answer with
    | error fault => cases arrived
    | ok reply =>
      rw [hopOf, Reply.hop] at arrived
      split at arrived
      · split at arrived <;> cases arrived
      · split at arrived
        · next success =>
          cases arrived
          exact .body success
        · cases arrived
  · rintro ⟨⟩
    next success => rw [hopOf, Reply.hop, if_neg (not_isRedirection success), if_pos success]

theorem withHttps_bind_iff {α : Type} {f : Text → Web α} {a : α} {w : World}
    {requests : List Request} :
    (((withHttps url >>= f) w).1 = some a ∧ ((withHttps url >>= f) w).2.requests = requests) ↔
      ∃ address, withHttps? url = some address ∧
        (f address { w with addresses := url :: w.addresses }).1 = some a ∧
        (f address { w with addresses := url :: w.addresses }).2.requests = requests := by
  cases upgraded : withHttps? url with
  | none =>
    have run : withHttps url w = (none, { w with addresses := url :: w.addresses }) := by
      rw [withHttps, upgraded]
    simp [bind_of_none run]
  | some address =>
    have run : withHttps url w = (some address, { w with addresses := url :: w.addresses }) := by
      rw [withHttps, upgraded]
    simp [bind_of_some run]

section Follow

variable {w : World} {location : Text}

theorem follow_of_concludes (h : Concludes url (w.client.get w.requests url) result) :
    follow start hops url w = (some result, { w with requests := .get url :: w.requests }) := by
  cases result with
  | ok body =>
    have arrived := hopOf_eq_arrived_iff.mpr h
    cases hops <;> rw [follow, bind_of_some (visit_eq url w), arrived] <;> rfl
  | error fault =>
    have failed := hopOf_eq_failed_iff.mpr h
    cases hops <;> rw [follow, bind_of_some (visit_eq url w), failed] <;> rfl

theorem follow_zero_of_redirectsTo (h : RedirectsTo (w.client.get w.requests url) location) :
    follow start 0 url w = (some (.error (.tooManyRedirects start)),
      { w with requests := .get url :: w.requests }) := by
  rw [follow, bind_of_some (visit_eq url w), hopOf_eq_moved_iff.mpr h]
  rfl

theorem follow_succ_of_redirectsTo (h : RedirectsTo (w.client.get w.requests url) location) :
    follow start (hops + 1) url w =
      (withHttps (redirectTarget url location) >>= fun next => follow start hops next)
        { w with requests := .get url :: w.requests } := by
  rw [follow, bind_of_some (visit_eq url w), hopOf_eq_moved_iff.mpr h]

theorem exists_redirectsTo_or_concludes (url : Text) (answer : Except Fault Reply) :
    (∃ location, RedirectsTo answer location) ∨ ∃ result, Concludes url answer result := by
  cases hop : hopOf url answer with
  | moved location => exact .inl ⟨location, hopOf_eq_moved_iff.mp hop⟩
  | arrived body => exact .inr ⟨_, hopOf_eq_arrived_iff.mp hop⟩
  | failed fault => exact .inr ⟨_, hopOf_eq_failed_iff.mp hop⟩

end Follow

theorem follow_iff (w : World) (requests : List Request) :
    ((follow start hops url w).1 = some result ∧ (follow start hops url w).2.requests = requests) ↔
      HasTrail w.client start hops w.requests url requests result := by
  -- By induction on the redirections that are left, for every address and all that was requested.
  induction hops generalizing url w with
  | zero =>
    rcases exists_redirectsTo_or_concludes url (w.client.get w.requests url) with
      ⟨location, located⟩ | ⟨result', concludes⟩
    · rw [follow_zero_of_redirectsTo located, hasTrail_zero_of_redirectsTo located,
        Option.some_inj]
    · rw [follow_of_concludes concludes, hasTrail_of_concludes concludes, Option.some_inj]
  | succ hops ih =>
    rcases exists_redirectsTo_or_concludes url (w.client.get w.requests url) with
      ⟨location, located⟩ | ⟨result', concludes⟩
    · rw [follow_succ_of_redirectsTo located, hasTrail_succ_of_redirectsTo located]
      rw [withHttps_bind_iff]
      simp only [ih]
    · rw [follow_of_concludes concludes, hasTrail_of_concludes concludes, Option.some_inj]

theorem fetch_iff {w : World} {requests : List Request} :
    ((fetch url w).1 = some result ∧ (fetch url w).2.requests = requests) ↔
      ∃ address, withHttps? url = some address ∧
        HasTrail w.client url Limits.redirects w.requests address requests result := by
  rw [fetch, withHttps_bind_iff]
  simp only [follow_iff]

/-- A download returns a result exactly if there is a trail from the upgraded address on that ends
in the result. Then it requests the addresses of the trail in order, and nothing else. -/
theorem fetch_iff_isTrail (url : Text) (w : World) (requests : List Request)
    (result : Except Fault Bytes) :
    ((fetch url w).1 = some result ∧ (fetch url w).2.requests = requests) ↔
      ∃ trail, trail.head? = withHttps? url ∧ requests = askedAlong trail w.requests ∧
        IsTrail w.client url Limits.redirects w.requests trail result := by
  rw [fetch_iff]
  constructor
  · rintro ⟨address, upgraded, trail, first, asked, isTrail⟩
    exact ⟨trail, first.trans upgraded.symm, asked, isTrail⟩
  · rintro ⟨trail, first, asked, isTrail⟩
    obtain ⟨visited, last, split, -⟩ := isTrail.ends
    have some : trail ≠ [] := by
      rw [split]
      exact List.append_ne_nil_of_right_ne_nil visited (List.cons_ne_nil last [])
    have here : trail.head? = .some (trail.head some) := List.head?_eq_some_head some
    exact ⟨trail.head some, first.symm.trans here, trail, here, asked, isTrail⟩

example : (fetch "http://a.b/" { client := ({ gets := [("https://a.b/",
    { status := 302, location := some "/" })] } : Site).client }).2.requests =
    List.replicate 6 (.get "https://a.b/") := by
  decide +kernel

variable {α β : Type}

/-- Work on the web that requests nothing but pages, if it has an outcome. -/
def OnlyGets (x : Web α) : Prop :=
  ∀ ⦃w w' a⦄, x w = (some a, w') →
    ∃ pages : List Text, w'.requests = pages.map Request.get ++ w.requests

namespace OnlyGets

theorem of_requests_eq {x : Web α} (h : ∀ ⦃w w' a⦄, x w = (some a, w') → w'.requests = w.requests) :
    OnlyGets x := by
  intro w w' a run
  exact ⟨[], h run⟩

theorem pure (a : α) : OnlyGets (pure a : Web α) := by
  refine of_requests_eq ?_
  rintro w w' b ⟨⟩
  rfl

theorem bind {x : Web α} {f : α → Web β} (hx : OnlyGets x) (hf : ∀ a, OnlyGets (f a)) :
    OnlyGets (x >>= f) := by
  intro w w'' b run
  obtain ⟨a, w', first, second⟩ := bind_eq_some_iff.mp run
  obtain ⟨pages, grown⟩ := hx first
  obtain ⟨more, grown'⟩ := hf a second
  refine ⟨more ++ pages, ?_⟩
  rw [grown', grown, List.map_append, List.append_assoc]

theorem fetch (url : Text) : OnlyGets (Web.fetch url) := by
  intro w w' result run
  have outcome : (Web.fetch url w).1 = some result ∧
      (Web.fetch url w).2.requests = w'.requests := by
    rw [run]
    exact ⟨rfl, rfl⟩
  obtain ⟨address, -, trail, -, asked, -⟩ := fetch_iff.mp outcome
  refine ⟨trail.reverse, ?_⟩
  rw [asked, askedAlong, List.map_reverse]

end OnlyGets

end Web
end SymbolDocs
