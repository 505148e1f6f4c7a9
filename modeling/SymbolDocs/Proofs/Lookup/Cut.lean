import SymbolDocs.Proofs.Lookup.Invariant
import SymbolDocs.Proofs.Web.Run

namespace SymbolDocs

/-- No address was cut since some world. A lookup without an outcome took one that was. -/
def Lookup.Invariant.wholeSince (start : World) : Invariant where
  holds _ w := ∃ taken, w.addresses = taken ++ start.addresses ∧ ∀ url ∈ taken, ¬ IsCut url
  failed w := ∃ taken, w.addresses = taken ++ start.addresses ∧ ∃ url ∈ taken, IsCut url
  isAddress _ := True
  isMap _ := True
  whole {m w url address} inv made := by
    obtain ⟨taken, grown, whole⟩ := inv
    have here : ¬ IsCut url := by
      rw [← withHttps?_eq_none_iff, made]
      exact Option.some_ne_none address
    exact ⟨⟨url :: taken, congrArg (url :: ·) grown, List.forall_mem_cons.mpr ⟨here, whole⟩⟩, trivial⟩
  cut {m w url} inv none := by
    obtain ⟨taken, grown, -⟩ := inv
    exact ⟨url :: taken, congrArg (url :: ·) grown, url, List.mem_cons_self,
      (withHttps?_eq_none_iff url).mp none⟩
  get inv _ := inv
  head inv _ _ := inv
  used _ inv := inv
  keepMap _ inv _ := inv
  keepRegistry _ _ inv := inv
  keepPage _ _ inv := inv
  noMap := trivial
  readMap _ := trivial
  storedMap _ _ := trivial
  rememberedMap _ _ := trivial
  inventories _ inv _ := inv
  roots _ inv := inv
  registry _ inv := inv
  pages _ inv := inv

/-- A lookup has a record, unless some text that it took for an address was cut. -/
theorem Resolver.resolve_eq_none_iff (resolver : Resolver) (key : SymbolKey) (m : Memory)
    (w : World) : ∃ taken, (resolver.resolve key m w).2.addresses = taken ++ w.addresses ∧
      ((resolver.resolve key m w).1 = none ↔ ∃ url ∈ taken, IsCut url) := by
  have ends := (Lookup.Invariant.wholeSince w).resolve resolver key m w ⟨[], rfl, by simp⟩
  rcases run : resolver.resolve key m w with ⟨_ | result, w'⟩
  · rw [run] at ends
    obtain ⟨taken, grown, cut⟩ := ends
    exact ⟨taken, grown, iff_of_true rfl cut⟩
  · rw [run] at ends
    obtain ⟨⟨taken, grown, whole⟩, -⟩ := ends
    refine ⟨taken, grown, iff_of_false (Option.some_ne_none result) ?_⟩
    rintro ⟨url, mem, cut⟩
    exact whole url mem cut

/-- A home page in the registry that is no address, with a character across its seventh byte. -/
def Site.withCutHomePage : Site :=
  { gets := [("https://pypi.org/pypi/foo/json",
      { status := 200
        body := Utf8.encode "\x7b\"info\":\x7b\"home_page\":\"résumé.html\"\x7d\x7d".toList })] }

theorem Resolver.resolve_cut_homePage : ¬ ∀ (resolver : Resolver) (key : SymbolKey) (m : Memory)
    (w : World), resolver.config.check = .ok () → (resolver.resolve key m w).1 ≠ none := by
  intro returns
  have fails : (({} : Resolver).resolve ⟨"foo", "foo", "bar", "bar", false, none⟩ {}
      { client := Site.withCutHomePage.client }).1.isNone := by decide +kernel
  exact returns _ _ _ _ rfl (Option.isNone_iff_eq_none.mp fails)

end SymbolDocs
