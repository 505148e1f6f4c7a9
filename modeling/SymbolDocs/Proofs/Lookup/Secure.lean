import SymbolDocs.Proofs.Lookup.Invariant
import SymbolDocs.Proofs.Web.Secure

namespace SymbolDocs

theorem asFolder_eq (url : Text) : asFolder url = url ∨ asFolder url = urlBelow url [] := by
  by_cases folder : Text.endsWith url "/"
  · exact .inl (if_pos folder)
  · right
    obtain ⟨n, whole, -⟩ := isLeftBefore_dropEndWhile '/' url
    have none : n = 0 := by
      by_contra some
      obtain ⟨k, rfl⟩ := Nat.exists_eq_succ_of_ne_zero some
      rw [List.replicate_succ', ← List.append_assoc] at whole
      exact folder (Text.endsWith_iff_suffix.mpr ⟨_, whole.symm⟩)
    rw [none, List.replicate_zero, List.append_nil] at whole
    have kept : withoutTrailingSlashes url = url := whole.symm
    rw [asFolder, if_neg folder, urlBelow, kept]
    rfl

theorem not_isPlainHttp_asFolder {url : Text} (h : ¬ IsPlainHttp url) :
    ¬ IsPlainHttp (asFolder url) := by
  rcases asFolder_eq url with same | below
  · rw [same]
    exact h
  · rw [below]
    exact not_isPlainHttp_urlBelow h []

namespace Lookup

/-- Nothing has been requested from a plain address since some requests were made. -/
def Invariant.secureSince (start : List Request) : Invariant where
  holds _ w := ∃ made, w.requests = made ++ start ∧ ∀ request ∈ made, ¬ IsPlainHttp request.url
  failed w := ∃ made, w.requests = made ++ start ∧ ∀ request ∈ made, ¬ IsPlainHttp request.url
  isAddress url := ¬ IsPlainHttp url
  isMap _ := True
  whole secure upgraded := ⟨secure, not_isPlainHttp_withHttps upgraded⟩
  cut secure _ := secure
  get {m w url} secure address := by
    obtain ⟨made, grown, all⟩ := secure
    exact ⟨.get url :: made, congrArg (Request.get url :: ·) grown,
      List.forall_mem_cons.mpr ⟨address, all⟩⟩
  head {m w home place} secure address _ := by
    obtain ⟨made, grown, all⟩ := secure
    have folder := not_isPlainHttp_asFolder (not_isPlainHttp_urlBelow address place)
    have below := not_isPlainHttp_urlBelow folder inventoryName
    exact ⟨.head _ :: made, congrArg (_ :: ·) grown, List.forall_mem_cons.mpr ⟨below, all⟩⟩
  used _ secure := secure
  keepMap _ secure _ := secure
  keepRegistry _ _ secure := secure
  keepPage _ _ secure := secure
  noMap := trivial
  readMap _ := trivial
  storedMap _ _ := trivial
  rememberedMap _ _ := trivial
  inventories _ secure _ := secure
  roots _ secure := secure
  registry _ secure := secure
  pages _ secure := secure

end Lookup

/-- What the library is asked for. -/
inductive Call where
  | resolve (key : SymbolKey)
  | inventory (r : InventoryRequest)
  | metadata (package : Text)
  | content (url : Text)

/-- Answers a call, and leaves the answer aside. -/
def Resolver.perform (resolver : Resolver) : Call → Lookup Unit
  | .resolve key => do let _ ← resolver.resolve key
  | .inventory r => do let _ ← Lookup.inventory resolver.config r
  | .metadata package => do let _ ← Lookup.registryInfo? resolver.config package
  | .content url => do let _ ← Lookup.content? resolver.config url

namespace Lookup.Invariant

variable (I : Invariant)

theorem perform (resolver : Resolver) (call : Call) :
    I.Keeps (fun _ => True) (resolver.perform call) := by
  cases call with
  | resolve key => exact (I.resolve resolver key).bind fun _ _ => .pure trivial
  | inventory r => exact (I.inventory resolver.config r).bind fun _ _ => .pure trivial
  | metadata package =>
    exact (I.registryInfo? resolver.config package).bind fun _ _ => .pure trivial
  | content url => exact (I.content? resolver.config url).bind fun _ _ => .pure trivial

theorem run (resolver : Resolver) (calls : List Call) :
    I.Keeps (fun _ => True) (calls.forM resolver.perform) := by
  induction calls with
  | nil => exact .pure trivial
  | cons call calls ih => exact (I.perform resolver call).bind fun _ _ => ih

end Lookup.Invariant

/-- A run of calls requests nothing from a plain address, with any configuration, whatever is
remembered and stored before and whatever the web answers. A run that breaks off does not do so
either. -/
theorem Resolver.not_isPlainHttp_run (resolver : Resolver) (calls : List Call) (m : Memory)
    (w : World) : ∃ made, (calls.forM resolver.perform m w).2.requests = made ++ w.requests ∧
      ∀ request ∈ made, ¬ IsPlainHttp request.url := by
  have ends := (Lookup.Invariant.secureSince w.requests).run resolver calls m w ⟨[], rfl, by simp⟩
  rcases run : calls.forM resolver.perform m w with ⟨_ | result, w'⟩
  · rw [run] at ends
    exact ends
  · rw [run] at ends
    exact ends.1

/-- A registry with a plain home page, and an inventory that has moved to a plain address. -/
def Site.withPlainLinks : Site :=
  { gets := [
      ("https://pypi.org/pypi/foo/json",
        { status := 200
          body := Utf8.encode
            "\x7b\"info\":\x7b\"home_page\":\"HTTP://foo.dev/docs\"\x7d\x7d".toList }),
      ("https://foo.dev/docs/objects.inv",
        { status := 302, location := some "http://foo.dev/moved.inv" })]
    heads := [("https://foo.dev/docs/objects.inv", some 200)] }

theorem Resolver.not_isPlainHttp_run_plainLinks :
    ∃ made, ([Call.resolve ⟨"foo", "foo", "bar", "bar", false, none⟩].forM
      ({} : Resolver).perform {} { client := Site.withPlainLinks.client }).2.requests = made ∧
    made.head? = some (.get "https://foo.dev/moved.inv") ∧ made.length = 4 ∧
    ∀ request ∈ made, ¬ IsPlainHttp request.url := by
  obtain ⟨made, grown, secure⟩ := not_isPlainHttp_run {}
    [.resolve ⟨"foo", "foo", "bar", "bar", false, none⟩] {} { client := Site.withPlainLinks.client }
  rw [List.append_nil] at grown
  refine ⟨made, grown, ?_, ?_, secure⟩
  · rw [← grown]
    decide +kernel
  · rw [← grown]
    decide +kernel

end SymbolDocs
