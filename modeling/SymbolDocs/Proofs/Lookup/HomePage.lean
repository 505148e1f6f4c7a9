import Mathlib.Data.List.TakeWhile
import SymbolDocs.Proofs.Inventory.Chosen
import SymbolDocs.Proofs.Lookup.Probe

namespace SymbolDocs

/-- The address without its fragment and its query. -/
def bareAddress (url : Text) : Text := Text.firstPart '?' (withoutFragment url)

/-- A request for the head of an inventory file. -/
def AsksForInventory (request : Request) : Prop :=
  ∃ url, request = .head url ∧ Text.endsWith (bareAddress url) "/objects.inv"

/-- The character begins a fragment or a query. -/
def isDelimiter (c : Char) : Bool := c == '#' || c == '?'

theorem bareAddress_eq (url : Text) : bareAddress url = url.takeWhile fun c => !isDelimiter c := by
  rw [bareAddress, withoutFragment, Text.firstPart, Text.firstPart, List.takeWhile_takeWhile]
  congr 1
  funext c
  rw [isDelimiter, Bool.not_or, Bool.and_comm, Bool.decide_and]
  simp only [bne, Bool.decide_eq_true]

theorem bareAddress_eq_self_iff {url : Text} :
    bareAddress url = url ↔ ∀ c ∈ url, ¬ isDelimiter c := by
  rw [bareAddress_eq, List.takeWhile_eq_self_iff]
  simp

theorem bareAddress_of_prefix {url lead : Text} {d : Char} (plain : ∀ c ∈ lead, ¬ isDelimiter c)
    (delimiter : isDelimiter d) (starts : lead ++ [d] <+: url) : bareAddress url = lead := by
  obtain ⟨rest, rfl⟩ := starts
  have all : ∀ c ∈ lead, !isDelimiter c := by simpa using plain
  rw [bareAddress_eq, List.append_assoc, List.singleton_append,
    Text.takeWhile_append_cons (by simpa using delimiter), List.takeWhile_eq_self_iff.mpr all]

theorem exists_delimiter {url : Text} (h : bareAddress url ≠ url) :
    ∃ d, isDelimiter d ∧ bareAddress url ++ [d] <+: url := by
  have whole := List.takeWhile_append_dropWhile (p := fun c => !isDelimiter c) (l := url)
  rw [← bareAddress_eq] at whole
  cases behind : url.dropWhile fun c => !isDelimiter c with
  | nil =>
    rw [behind, List.append_nil] at whole
    exact absurd whole h
  | cons d rest =>
    have stops := List.head?_dropWhile_not (fun c => !isDelimiter c) url
    rw [behind] at stops whole
    refine ⟨d, by simpa using stops, rest, ?_⟩
    rw [List.append_assoc]
    exact whole

theorem prefix_withoutTrailingSlashes {s lead : Text} {d : Char} (starts : lead ++ [d] <+: s)
    (ne : d ≠ '/') : lead ++ [d] <+: withoutTrailingSlashes s := by
  obtain ⟨n, whole, -⟩ := isLeftBefore_dropEndWhile '/' s
  have stem : withoutTrailingSlashes s <+: s := ⟨_, whole.symm⟩
  by_cases inside : (lead ++ [d]).length ≤ (withoutTrailingSlashes s).length
  · exact List.prefix_of_prefix_length_le starts stem inside
  · -- Otherwise the character would be one of the slashes behind.
    obtain ⟨rest, here⟩ := starts
    have outside : (withoutTrailingSlashes s).length ≤ lead.length := by
      rw [List.length_append, List.length_singleton] at inside
      omega
    have at_lead : s[lead.length]? = some d := by
      rw [← here, List.append_assoc, List.getElem?_append_right (Nat.le_refl _), Nat.sub_self]
      rfl
    rw [whole, ← withoutTrailingSlashes, List.getElem?_append_right outside] at at_lead
    exact absurd (List.eq_of_mem_replicate (List.mem_of_getElem? at_lead)) ne

/-- The part of a home page before its fragment and its query stays so below it. -/
theorem bareAddress_inventoryUrl {home : Text} (h : bareAddress home ≠ home) (place : Text) :
    bareAddress (inventoryUrl home place) = bareAddress home := by
  obtain ⟨d, delimiter, starts⟩ := exists_delimiter h
  have ne : d ≠ '/' := by
    rintro rfl
    cases delimiter
  have below {s : Text} (starts : bareAddress home ++ [d] <+: s) (path : Text) :
      bareAddress home ++ [d] <+: urlBelow s path :=
    (prefix_withoutTrailingSlashes starts ne).trans (List.prefix_append _ _)
  have folder : bareAddress home ++ [d] <+: asFolder (urlBelow home place) := by
    rw [asFolder]
    split
    · exact below starts place
    · exact (below starts place).trans (List.prefix_append _ _)
  refine bareAddress_of_prefix ?_ delimiter (below folder inventoryName)
  intro c mem
  rw [bareAddress_eq] at mem
  simpa using List.mem_takeWhile_imp mem

theorem mem_urlBelow {base path : Text} {c : Char} (mem : c ∈ urlBelow base path) :
    c ∈ base ∨ c = '/' ∨ c ∈ path := by
  obtain ⟨n, whole, -⟩ := isLeftBefore_dropEndWhile '/' base
  rcases List.mem_append.mp mem with stem | mem
  · left
    rw [whole]
    exact List.mem_append_left _ stem
  · rcases List.mem_cons.mp mem with slash | rest
    · exact .inr (.inl slash)
    · exact .inr (.inr ((List.dropWhile_suffix _).mem rest))

theorem mem_asFolder {url : Text} {c : Char} (mem : c ∈ asFolder url) : c ∈ url ∨ c = '/' := by
  rw [asFolder] at mem
  split at mem
  · exact .inl mem
  · rcases List.mem_append.mp mem with here | slash
    · exact .inl here
    · exact .inr (List.mem_singleton.mp slash)

theorem bareAddress_inventoryUrl_of_plain {home place : Text} (plain : bareAddress home = home)
    (usual : place ∈ usualPlaces) :
    bareAddress (inventoryUrl home place) = inventoryUrl home place := by
  have places : ∀ place ∈ usualPlaces, bareAddress place = place := by decide
  have name : bareAddress inventoryName = inventoryName := by decide
  rw [bareAddress_eq_self_iff] at plain ⊢
  intro c mem
  rcases mem_urlBelow mem with mem | rfl | mem
  · rcases mem_asFolder mem with mem | rfl
    · rcases mem_urlBelow mem with mem | rfl | mem
      · exact plain c mem
      · decide
      · exact bareAddress_eq_self_iff.mp (places place usual) c mem
    · decide
  · decide
  · exact bareAddress_eq_self_iff.mp name c mem

theorem endsWith_inventoryUrl (home place : Text) :
    Text.endsWith (inventoryUrl home place) "/objects.inv" :=
  Text.endsWith_iff_suffix.mpr ⟨_, rfl⟩

namespace Lookup

variable {c : Config} {package : Text} {m m₁ : Memory} {w w₁ : World} {info : RegistryInfo}
  {url home : Text}

/-- All that is requested below a home page are inventory files exactly if the page has neither a
fragment nor a query, or if it has such a file in front of them. -/
theorem discoverRoot_asksForInventories_iff (version : Option Text)
    (answered : registryInfo? c package m w = (some (some info, m₁), w₁))
    (reported : info.bestUrl? = some url) (upgraded : withHttps? url = some home) :
    ∃ made, (discoverRoot c package version m w).2.requests = made ++ w₁.requests ∧
      ((∀ request ∈ made, AsksForInventory request) ↔
        bareAddress home = home ∨ Text.endsWith (bareAddress home) "/objects.inv") := by
  obtain ⟨found, asked, finds, run⟩ := discoverRoot_of_home answered reported upgraded
  refine ⟨(asked.map fun place => .head (inventoryUrl home place)).reverse, by rw [run]; rfl, ?_⟩
  simp only [List.mem_reverse, List.forall_mem_map]
  constructor
  · intro all
    by_cases plain : bareAddress home = home
    · exact .inl plain
    · right
      obtain ⟨place, more, rfl⟩ := List.exists_cons_of_ne_nil (finds.ne_nil (by decide))
      obtain ⟨address, same, file⟩ := all place List.mem_cons_self
      obtain rfl := Request.head.inj same
      rwa [bareAddress_inventoryUrl plain] at file
  · rintro covered place mem
    refine ⟨_, rfl, ?_⟩
    by_cases plain : bareAddress home = home
    · rw [bareAddress_inventoryUrl_of_plain plain (finds.isPrefix.mem mem)]
      exact endsWith_inventoryUrl home place
    · rw [bareAddress_inventoryUrl plain]
      exact covered.resolve_left plain

theorem exists_reported {run : Option (Option RegistryInfo × Memory) × World} {url : Text}
    (h : (run.1.bind fun result => result.1.bind RegistryInfo.bestUrl?) = some url) :
    ∃ info m, run = (some (some info, m), run.2) ∧ info.bestUrl? = some url := by
  rcases run with ⟨outcome, w⟩
  obtain ⟨⟨answer, m⟩, rfl, known⟩ := Option.bind_eq_some_iff.mp h
  obtain ⟨info, same, reported⟩ := Option.bind_eq_some_iff.mp known
  dsimp only at same
  rw [same]
  exact ⟨info, m, rfl, reported⟩

/-- A registry that knows a home page, and the page with whatever comes behind it. -/
def homePageSite (home : String) : Site :=
  { gets := [("https://pypi.org/pypi/foo/json",
      { status := 200
        body := Utf8.encode
          ("\x7b\"info\":\x7b\"home_page\":\"".toList ++ home.toList ++ "\"\x7d\x7d".toList) })]
    heads := [(home.toList ++ "/objects.inv".toList, some 200)] }

theorem discoverRoot_asksForInventories_docs : ∃ info m₁ w₁ made,
    registryInfo? {} "foo" {} { client := (homePageSite "https://foo.dev/docs").client } =
      (some (some info, m₁), w₁) ∧
    info.bestUrl? = some "https://foo.dev/docs" ∧
    (discoverRoot {} "foo" none {}
      { client := (homePageSite "https://foo.dev/docs").client }).2.requests =
        made ++ w₁.requests ∧
    ∀ request ∈ made, AsksForInventory request := by
  have known : ((registryInfo? {} "foo" {}
      { client := (homePageSite "https://foo.dev/docs").client }).1.bind
        fun result => result.1.bind RegistryInfo.bestUrl?) = some "https://foo.dev/docs" := by
    decide +kernel
  obtain ⟨info, m₁, answered, reported⟩ := exists_reported known
  have upgraded : withHttps? "https://foo.dev/docs" = some "https://foo.dev/docs".toList := by
    decide
  obtain ⟨made, asked, all⟩ :=
    discoverRoot_asksForInventories_iff none answered reported upgraded
  have plain : bareAddress "https://foo.dev/docs" = "https://foo.dev/docs" := by decide
  exact ⟨info, m₁, _, made, answered, reported, asked, all.mpr (.inl plain)⟩

/-- The head of a page that has a fragment is taken for that of an inventory. -/
theorem discoverRoot_asksForPage : ¬ ∀ (c : Config) (package : Text) (version : Option Text)
    (m m₁ : Memory) (w w₁ : World) (info : RegistryInfo) (url home : Text) (made : List Request),
    registryInfo? c package m w = (some (some info, m₁), w₁) → info.bestUrl? = some url →
    withHttps? url = some home →
    (discoverRoot c package version m w).2.requests = made ++ w₁.requests →
    ∀ request ∈ made, AsksForInventory request := by
  intro asksForInventories
  have known : ((registryInfo? {} "foo" {}
      { client := (homePageSite "https://foo.dev/foo#readme").client }).1.bind
        fun result => result.1.bind RegistryInfo.bestUrl?) = some "https://foo.dev/foo#readme" := by
    decide +kernel
  obtain ⟨info, m₁, answered, reported⟩ := exists_reported known
  have asked : (discoverRoot {} "foo" none {}
      { client := (homePageSite "https://foo.dev/foo#readme").client }).2.requests =
        [.head "https://foo.dev/foo#readme/objects.inv"] ++ (registryInfo? {} "foo" {}
          { client := (homePageSite "https://foo.dev/foo#readme").client }).2.requests := by
    decide +kernel
  have upgraded : withHttps? "https://foo.dev/foo#readme" =
      some "https://foo.dev/foo#readme".toList := by decide
  obtain ⟨url, same, file⟩ := asksForInventories {} "foo" none {} m₁ _ _ info _ _ _ answered
    reported upgraded asked _ List.mem_cons_self
  obtain rfl := Request.head.inj same
  exact absurd file (by decide)

end Lookup
end SymbolDocs
