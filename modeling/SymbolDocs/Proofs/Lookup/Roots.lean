import SymbolDocs.Proofs.Lookup.Outcome
import SymbolDocs.Proofs.Lookup.Probe
import SymbolDocs.Proofs.Text.Cut
import SymbolDocs.Proofs.Web.Redirects

namespace SymbolDocs

namespace Lookup

theorem onlyGets_loadRegistry (c : Config) (package : Text) :
    Web.OnlyGets (loadRegistry c package) := by
  have download : Web.OnlyGets (downloadRegistry c package) := by
    refine .bind (.fetch _) fun reply => ?_
    cases reply with
    | error fault => exact .pure none
    | ok bytes =>
      dsimp only
      cases RegistryInfo.ofBytes bytes with
      | error fault => exact .pure none
      | ok info => exact .pure (some info)
  refine .bind (.of_requests_eq ?_) fun found => ?_
  · rintro w w' found ⟨⟩
    rfl
  · cases found with
    | some info => exact .pure info
    | none =>
      refine .bind download fun info => .bind (.of_requests_eq ?_) fun _ => .pure info
      rintro w w' _ ⟨⟩
      rfl

theorem exists_pages_of_registryInfo? {c : Config} {package : Text} {m m' : Memory} {w w' : World}
    {info : Option RegistryInfo} (run : registryInfo? c package m w = (some (info, m'), w')) :
    ∃ pages : List Text, w'.requests = pages.map Request.get ++ w.requests := by
  rw [registryInfo?] at run
  split at run
  · obtain ⟨-, -, rfl⟩ := pure_eq_some_iff.mp run
    exact ⟨[], rfl⟩
  · rcases remember_cases run with ⟨-, -, rfl⟩ | ⟨-, loaded, first, -⟩
    · exact ⟨[], rfl⟩
    · exact onlyGets_loadRegistry c _ (lift_eq_some_iff.mp first).1

variable {c : Config} {r : InventoryRequest} {m m' : Memory} {w w' : World} {root : Text}

theorem docsRoot_of_library {lib : CustomLibrary} (outside : r.isStdlib = false)
    (given : c.libraryOf? r.package = some lib)
    (run : docsRoot c r m w = (some (root, m'), w')) :
    ∃ home, withHttps? lib.docsUrl = some home ∧ root = asFolder home ∧ m' = m ∧
      w'.requests = w.requests := by
  rw [docsRoot, outside, given] at run
  obtain ⟨home, m₁, w₁, upgraded, rest⟩ := bind_eq_some_iff.mp run
  obtain ⟨made, rfl⟩ := lift_eq_some_iff.mp upgraded
  obtain ⟨rfl, rfl, rfl⟩ := pure_eq_some_iff.mp rest
  have address : withHttps? lib.docsUrl = some home := congrArg Prod.fst made
  have left : { w with addresses := lib.docsUrl :: w.addresses } = w₁ := congrArg Prod.snd made
  exact ⟨home, address, rfl, rfl, by rw [← left]⟩

theorem docsRoot_of_open (outside : r.isStdlib = false) (free : c.libraryOf? r.package = none)
    (run : docsRoot c r m w = (some (root, m'), w')) :
    (m.roots.lookup r.package = some root ∧ m' = m ∧ w' = w) ∨
      (m.roots.lookup r.package = none ∧
        ∃ loaded, discoverRoot c r.package r.version m w = (some (root, loaded), w') ∧
          m' = { loaded with roots := (r.package, root) :: m.roots }) := by
  rw [docsRoot_eq outside free] at run
  rcases remember_cases run with known | ⟨new, loaded, first, rfl⟩
  · exact .inl known
  · right
    have same : loaded.roots = m.roots := (discoverRoot_moves c r.package r.version first).2
    exact ⟨new, loaded, first, by rw [same]⟩

end Lookup

/-- A request for the root of a documentation, the state in which it was made, and what it gave. -/
structure RootCall where
  request : InventoryRequest
  memory : Memory
  before : World
  root : Text
  after : World

namespace RootCall

/-- What was requested during the call, the latest first. -/
def requests (call : RootCall) : List Request :=
  call.after.requests.take (call.after.requests.length - call.before.requests.length)

def headUrl? : Request → Option Text
  | .head url => some url
  | .get _ => none

/-- The addresses of which the heads were requested, in order. -/
def probed (call : RootCall) : List Text := call.requests.reverse.filterMap headUrl?

/-- The call is about a package of which neither the language nor the configuration gives the
root. -/
def IsOpen (c : Config) (call : RootCall) : Prop :=
  call.request.isStdlib = false ∧ c.libraryOf? call.request.package = none

/-- The call is about the package, which is not taken for a part of the standard library. -/
def IsOf (call : RootCall) (package : Text) : Prop :=
  call.request.isStdlib = false ∧ call.request.package = package

theorem requests_eq {call : RootCall} {made : List Request}
    (grown : call.after.requests = made ++ call.before.requests) : call.requests = made := by
  rw [requests, grown, List.length_append, Nat.add_sub_cancel]
  exact List.take_left

theorem probed_eq_nil {call : RootCall} (same : call.after.requests = call.before.requests) :
    call.probed = [] := by
  have none : call.requests = [] := requests_eq same
  rw [probed, none]
  rfl

theorem probed_eq {call : RootCall} {home : Text} {asked pages : List Text}
    (grown : call.after.requests =
      askedPlaces home asked (pages.map Request.get ++ call.before.requests)) :
    call.probed = asked.map (inventoryUrl home) := by
  rw [askedPlaces, ← List.append_assoc] at grown
  rw [probed, requests_eq grown, List.reverse_append, List.reverse_reverse, List.filterMap_append,
    ← List.map_reverse]
  have pages_none : (pages.reverse.map Request.get).filterMap headUrl? = [] := by
    rw [List.filterMap_map]
    exact List.filterMap_eq_nil_iff.mpr fun _ _ => rfl
  have heads_all : (asked.map fun place => .head (inventoryUrl home place)).filterMap headUrl? =
      asked.map (inventoryUrl home) := by
    rw [List.filterMap_map]
    exact congrFun (List.filterMap_eq_map (f := inventoryUrl home)) asked
  rw [pages_none, heads_all, List.nil_append]

end RootCall

open RootCall

/-- What a call gives for the root, in the order in which the ways to a root are tried, and what it
looks for on the web meanwhile. -/
inductive IsRootOf (c : Config) (earlier : List RootCall) (call : RootCall) : Prop
  | stdlib : call.request.isStdlib = true → call.root = c.stdlibHome → call.probed = [] →
      IsRootOf c earlier call
  | library {lib : CustomLibrary} {home : Text} : call.request.isStdlib = false →
      c.libraryOf? call.request.package = some lib → withHttps? lib.docsUrl = some home →
      call.root = asFolder home → call.probed = [] → IsRootOf c earlier call
  | remembered {first : RootCall} : call.IsOpen c → first ∈ earlier →
      first.IsOf call.request.package → call.root = first.root → call.probed = [] →
      IsRootOf c earlier call
  | searched {info : RegistryInfo} {m : Memory} {w : World} {url home : Text} {found : Option Text}
      {asked : List Text} : call.IsOpen c → (∀ other ∈ earlier, ¬ other.IsOf call.request.package) →
      Lookup.registryInfo? c call.request.package call.memory call.before =
        (some (some info, m), w) →
      info.bestUrl? = some url → withHttps? url = some home →
      Finds w.client w.requests home usualPlaces found asked →
      call.root = found.getD (conventionalUrl call.request.package call.request.version) →
      call.probed = asked.map (inventoryUrl home) → IsRootOf c earlier call
  | unsearched {info : Option RegistryInfo} {m : Memory} {w : World} : call.IsOpen c →
      (∀ other ∈ earlier, ¬ other.IsOf call.request.package) →
      Lookup.registryInfo? c call.request.package call.memory call.before = (some (info, m), w) →
      info.bind RegistryInfo.bestUrl? = none →
      call.root = conventionalUrl call.request.package call.request.version →
      call.probed = [] → IsRootOf c earlier call

/-- Calls for roots, the latest first, by someone who remembers no roots at first. Between two calls
the world may change, and the memory apart from the roots. -/
inductive RootRun (c : Config) : List RootCall → Memory → Prop
  | start {m : Memory} : m.roots = [] → RootRun c [] m
  | call {calls : List RootCall} {m m' : Memory} {w w' : World} {root : Text}
      (r : InventoryRequest) : RootRun c calls m →
      Lookup.docsRoot c r m w = (some (root, m'), w') → RootRun c (⟨r, m, w, root, w'⟩ :: calls) m'
  | elsewhere {calls : List RootCall} {m m' : Memory} : RootRun c calls m → m'.roots = m.roots →
      RootRun c calls m'

/-- The roots in memory are those that calls gave, and no call's root is forgotten. -/
structure RemembersRoots (c : Config) (calls : List RootCall) (m : Memory) : Prop where
  given {package root : Text} : m.roots.lookup package = some root →
    ∃ call ∈ calls, call.IsOf package ∧ call.root = root
  known {call : RootCall} : call ∈ calls → call.IsOpen c →
    (m.roots.lookup call.request.package).isSome

variable {c : Config} {calls : List RootCall} {m m' : Memory} {w w' : World} {root : Text}
  {r : InventoryRequest}

theorem RemembersRoots.same (h : RemembersRoots c calls m) {call : RootCall}
    (settled : call.IsOpen c → (m.roots.lookup call.request.package).isSome) :
    RemembersRoots c (call :: calls) m where
  given known := by
    obtain ⟨first, mem, same⟩ := h.given known
    exact ⟨first, List.mem_cons_of_mem call mem, same⟩
  known {other} mem isOpen := by
    rcases List.mem_cons.mp mem with rfl | mem
    · exact settled isOpen
    · exact h.known mem isOpen

theorem RemembersRoots.added (h : RemembersRoots c calls m) {call : RootCall}
    (isOpen : call.IsOpen c) (grown : m'.roots = (call.request.package, call.root) :: m.roots) :
    RemembersRoots c (call :: calls) m' where
  given {package root} known := by
    rw [grown] at known
    rcases Lookup.Faithful.eq_or_of_lookup_cons known with ⟨rfl, rfl⟩ | old
    · exact ⟨call, List.mem_cons_self, ⟨isOpen.1, rfl⟩, rfl⟩
    · obtain ⟨first, mem, same⟩ := h.given old
      exact ⟨first, List.mem_cons_of_mem call mem, same⟩
  known {other} mem isOpen' := by
    rw [grown]
    rcases List.mem_cons.mp mem with rfl | mem
    · rw [List.lookup_cons_self]
      rfl
    · exact Lookup.Faithful.isSome_lookup_cons (h.known mem isOpen')

theorem RemembersRoots.isNew (h : RemembersRoots c calls m) {call : RootCall}
    (isOpen : call.IsOpen c) (new : m.roots.lookup call.request.package = none) :
    ∀ other ∈ calls, ¬ other.IsOf call.request.package := by
  rintro other mem ⟨outside, package⟩
  have isOpen' : other.IsOpen c := ⟨outside, package ▸ isOpen.2⟩
  have known := h.known mem isOpen'
  rw [package, new] at known
  cases known

theorem isRootOf_discovered {call : RootCall} (isOpen : call.IsOpen c)
    (isNew : ∀ other ∈ calls, ¬ other.IsOf call.request.package)
    (run : Lookup.discoverRoot c call.request.package call.request.version call.memory call.before =
      (some (call.root, m'), call.after)) : IsRootOf c calls call := by
  obtain ⟨info, w, answered, rest⟩ := Lookup.discoverRoot_cases run
  obtain ⟨pages, gets⟩ := Lookup.exists_pages_of_registryInfo? answered
  rcases rest with
    ⟨unknown, root, same⟩ | ⟨url, home, found, asked, known, upgraded, finds, root, grown⟩
  · have silent : call.probed = [] := by
      have none : call.after.requests =
          askedPlaces [] [] (pages.map .get ++ call.before.requests) := same.trans gets
      exact probed_eq none
    exact .unsearched isOpen isNew answered unknown root silent
  · obtain ⟨info, rfl, reported⟩ := Option.bind_eq_some_iff.mp known
    rw [gets] at grown
    exact .searched isOpen isNew answered reported upgraded finds root (probed_eq grown)

theorem RemembersRoots.call (h : RemembersRoots c calls m)
    (run : Lookup.docsRoot c r m w = (some (root, m'), w')) :
    IsRootOf c calls ⟨r, m, w, root, w'⟩ ∧
      RemembersRoots c (⟨r, m, w, root, w'⟩ :: calls) m' := by
  let call : RootCall := ⟨r, m, w, root, w'⟩
  cases outside : r.isStdlib with
  | true =>
    have closed : ¬ call.IsOpen c := fun isOpen => by
      have other : r.isStdlib = false := isOpen.1
      rw [outside] at other
      cases other
    rw [Lookup.docsRoot, outside, if_pos rfl] at run
    obtain ⟨rfl, rfl, rfl⟩ := Lookup.pure_eq_some_iff.mp run
    exact ⟨.stdlib outside rfl (probed_eq_nil rfl), h.same fun isOpen => absurd isOpen closed⟩
  | false =>
    cases given : c.libraryOf? r.package with
    | some lib =>
      have closed : ¬ call.IsOpen c := fun isOpen => by
        have free : c.libraryOf? r.package = none := isOpen.2
        rw [given] at free
        cases free
      obtain ⟨home, upgraded, rfl, rfl, same⟩ := Lookup.docsRoot_of_library outside given run
      exact ⟨.library outside given upgraded rfl (probed_eq_nil same),
        h.same fun isOpen => absurd isOpen closed⟩
    | none =>
      have isOpen : call.IsOpen c := ⟨outside, given⟩
      rcases Lookup.docsRoot_of_open outside given run with
        ⟨known, rfl, rfl⟩ | ⟨new, loaded, discovered, rfl⟩
      · obtain ⟨first, mem, isOf, same⟩ := h.given known
        refine ⟨.remembered isOpen mem isOf same.symm (probed_eq_nil rfl), h.same fun _ => ?_⟩
        exact Option.isSome_of_eq_some known
      · have isNew := h.isNew isOpen new
        exact ⟨isRootOf_discovered isOpen isNew discovered, h.added isOpen rfl⟩

theorem RootRun.remembers (run : RootRun c calls m) : RemembersRoots c calls m := by
  induction run with
  | start none =>
    refine ⟨?_, fun mem => nomatch mem⟩
    intro package root known
    rw [none] at known
    cases known
  | call r _ rooted ih => exact (ih.call rooted).2
  | elsewhere _ same ih =>
    refine ⟨?_, ?_⟩
    · rw [same]
      exact ih.given
    · rw [same]
      exact ih.known

theorem RootRun.isRootOf (run : RootRun c calls m) {later earlier : List RootCall} {call : RootCall}
    (split : calls = later ++ call :: earlier) : IsRootOf c earlier call := by
  induction run generalizing later with
  | start => simp at split
  | call r before rooted ih =>
    cases later with
    | nil =>
      obtain ⟨rfl, rfl⟩ := List.cons.inj split
      exact (before.remembers.call rooted).1
    | cons last later => exact ih (List.cons.inj split).2
  | elsewhere _ _ ih => exact ih split

theorem endsWith_asFolder (url : Text) : Text.endsWith (asFolder url) "/" := by
  rw [asFolder]
  split
  · assumption
  · exact Text.endsWith_iff_suffix.mpr ⟨url, rfl⟩

theorem endsWith_conventionalUrl (package : Text) (version : Option Text) :
    Text.endsWith (conventionalUrl package version) "/" :=
  Text.endsWith_iff_suffix.mpr ⟨_, rfl⟩

variable {call : RootCall} {earlier : List RootCall}

theorem IsRootOf.endsWith (h : IsRootOf c earlier call)
    (before : ∀ first ∈ earlier, Text.endsWith first.root "/") : Text.endsWith call.root "/" := by
  cases h with
  | stdlib _ root =>
    rw [root]
    exact Text.endsWith_iff_suffix.mpr ⟨_, rfl⟩
  | library _ _ _ root =>
    rw [root]
    exact endsWith_asFolder _
  | remembered _ mem _ root =>
    rw [root]
    exact before _ mem
  | searched _ _ _ _ _ finds root =>
    rw [root]
    cases finds with
    | hit => exact endsWith_asFolder _
    | miss => exact endsWith_conventionalUrl _ _
  | unsearched _ _ _ _ root =>
    rw [root]
    exact endsWith_conventionalUrl _ _

theorem IsRootOf.length_probed_le (h : IsRootOf c earlier call) : call.probed.length ≤ 8 := by
  cases h with
  | stdlib _ _ silent | library _ _ _ _ silent | remembered _ _ _ _ silent
  | unsearched _ _ _ _ _ silent =>
    rw [silent]
    exact Nat.zero_le 8
  | searched _ _ _ _ _ finds _ probed =>
    rw [probed, List.length_map]
    exact finds.isPrefix.length_le

theorem IsRootOf.isNew_of_probed (h : IsRootOf c earlier call) (probed : call.probed ≠ []) :
    call.IsOpen c ∧ ∀ other ∈ earlier, ¬ other.IsOf call.request.package := by
  cases h with
  | stdlib _ _ silent | library _ _ _ _ silent | remembered _ _ _ _ silent
  | unsearched _ _ _ _ _ silent => exact absurd silent probed
  | searched isOpen isNew => exact ⟨isOpen, isNew⟩

theorem RootRun.endsWith (run : RootRun c calls m) :
    ∀ call ∈ calls, Text.endsWith call.root "/" := by
  induction run with
  | start => exact fun _ mem => nomatch mem
  | call r before rooted ih =>
    exact List.forall_mem_cons.mpr ⟨(before.remembers.call rooted).1.endsWith ih, ih⟩
  | elsewhere _ _ ih => exact ih

/-- The calls for a package during which something was looked for. -/
def roundsOf (package : Text) (calls : List RootCall) : List RootCall :=
  calls.filter fun call => call.request.package = package ∧ call.probed ≠ []

theorem RootRun.length_roundsOf_le (run : RootRun c calls m) (package : Text) :
    (roundsOf package calls).length ≤ 1 := by
  induction run with
  | start => exact Nat.zero_le 1
  | elsewhere _ _ ih => exact ih
  | @call calls m m' w w' root r before rooted ih =>
    let call : RootCall := ⟨r, m, w, root, w'⟩
    have unfolded : roundsOf package (call :: calls) =
        if call.request.package = package ∧ call.probed ≠ [] then call :: roundsOf package calls
        else roundsOf package calls := by
      simp [roundsOf, List.filter_cons]
    rw [unfolded]
    split
    · next round =>
      obtain ⟨rfl, probed⟩ := round
      -- A round is made only for a package that nobody has asked for, so there was none before.
      have isNew := ((before.remembers.call rooted).1.isNew_of_probed probed).2
      have none : roundsOf call.request.package calls = [] := by
        refine List.filter_eq_nil_iff.mpr ?_
        intro other mem round
        obtain ⟨same, probed'⟩ := of_decide_eq_true round
        obtain ⟨later, earlier, split⟩ := List.append_of_mem mem
        have isOpen := ((before.isRootOf split).isNew_of_probed probed').1
        exact isNew other mem ⟨isOpen.1, same⟩
      rw [none]
      exact Nat.le_refl 1
    · exact ih

/-- In a run of calls every root is a folder and comes from the first way there is to it, and every
package is looked for in one round of at most eight requests. -/
theorem RootRun.roots_and_rounds (run : RootRun c calls m) :
    (∀ later call earlier, calls = later ++ call :: earlier →
      Text.endsWith call.root "/" ∧ IsRootOf c earlier call ∧ call.probed.length ≤ 8) ∧
    ∀ package, (roundsOf package calls).length ≤ 1 := by
  refine ⟨?_, run.length_roundsOf_le⟩
  intro later call earlier split
  have isRoot := run.isRootOf split
  have mem : call ∈ calls := by
    rw [split]
    exact List.mem_append_right later List.mem_cons_self
  exact ⟨run.endsWith call mem, isRoot, isRoot.length_probed_le⟩

/-- A registry that knows a home page, with an inventory at the third usual place below it. -/
def Site.withStableDocs : Site :=
  { gets := [("https://pypi.org/pypi/foo/json",
      { status := 200
        body := Utf8.encode
          "\x7b\"info\":\x7b\"home_page\":\"http://foo.dev/docs\"\x7d\x7d".toList })]
    heads := [("https://foo.dev/docs/objects.inv", none),
      ("https://foo.dev/docs/en/stable/objects.inv", some 301)] }

theorem Lookup.exists_runs_of_both {x y : Lookup Text} {m : Memory} {w : World} {a b : Text}
    (both : ((x >>= fun first => y >>= fun second => pure (first, second)) m w).1.map (·.1) =
      some (a, b)) :
    ∃ m₁ w₁ m₂ w₂, x m w = (some (a, m₁), w₁) ∧ y m₁ w₁ = (some (b, m₂), w₂) := by
  rcases run : (x >>= fun first => y >>= fun second => pure (first, second)) m w with
    ⟨_ | ⟨roots, m₂⟩, w₂⟩
  · rw [run] at both
    cases both
  · rw [run] at both
    obtain rfl : roots = (a, b) := Option.some.inj both
    obtain ⟨first, m₁, w₁, ran, rest⟩ := bind_eq_some_iff.mp run
    obtain ⟨second, m₂, w₂, ran', rest'⟩ := bind_eq_some_iff.mp rest
    obtain ⟨eq, -, -⟩ := pure_eq_some_iff.mp rest'
    obtain ⟨rfl, rfl⟩ := Prod.mk.inj eq
    exact ⟨m₁, w₁, m₂, w₂, ran, ran'⟩

theorem RootRun.roots_and_rounds_stableDocs : ∃ first second m, RootRun {} [second, first] m ∧
    first.root = "https://foo.dev/docs/en/stable/".toList ∧ second.root = first.root ∧
    second.request.version = some ("2" : Text) ∧ IsRootOf {} [] first ∧ IsRootOf {} [first] second ∧
    (roundsOf "foo" [second, first]).length ≤ 1 := by
  have found : ((Lookup.docsRoot {} ⟨"foo", none, false⟩ >>= fun first =>
      Lookup.docsRoot {} ⟨"foo", some "2", false⟩ >>= fun second => pure (first, second)) {}
        { client := Site.withStableDocs.client }).1.map (·.1) = some
          ("https://foo.dev/docs/en/stable/".toList, "https://foo.dev/docs/en/stable/".toList) := by
    decide +kernel
  -- Only the equation is used below: what the calls run through is not to be evaluated again.
  generalize Site.withStableDocs.client = client at found
  generalize "https://foo.dev/docs/en/stable/".toList = root at found ⊢
  obtain ⟨m₁, w₁, m₂, w₂, run, run'⟩ := Lookup.exists_runs_of_both found
  have begins : RootRun {} [] {} := .start rfl
  have both := (begins.call _ run).call _ run'
  obtain ⟨all, rounds⟩ := both.roots_and_rounds
  exact ⟨_, _, m₂, both, rfl, rfl, rfl, (all [_] _ [] rfl).2.1, (all [] _ [_] rfl).2.1,
    rounds "foo"⟩

end SymbolDocs
