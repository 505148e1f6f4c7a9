import SymbolDocs.Proofs.Config.Accepted
import SymbolDocs.Proofs.Lookup.Growth
import SymbolDocs.Proofs.Web.Secure

namespace SymbolDocs

open Text

/-- The text begins with a web scheme. -/
def HasWebScheme (url : Text) : Prop := ∃ scheme, IsWebScheme scheme ∧ scheme <+: url

/-- A web scheme with no white space in front of it, and something else than slashes behind it. -/
def IsPlainBase (url : Text) : Prop :=
  ∃ scheme rest, IsWebScheme scheme ∧ (∃ c ∈ rest, c ≠ '/') ∧ url = scheme ++ rest

theorem HasWebScheme.mono {url lead : Text} (web : HasWebScheme lead) (starts : lead <+: url) :
    HasWebScheme url := by
  obtain ⟨scheme, isScheme, begins⟩ := web
  exact ⟨scheme, isScheme, begins.trans starts⟩

theorem hasWebScheme_iff {url : Text} : HasWebScheme url ↔
    ("http:" : Text) ++ ['/', '/'] <+: asciiLower url ∨
      ("https:" : Text) ++ ['/', '/'] <+: asciiLower url := by
  constructor
  · rintro ⟨scheme, web, begins⟩
    have lowered : asciiLower scheme <+: asciiLower url := begins.map Char.toLower
    rcases web with short | long
    · rw [short] at lowered
      exact .inl lowered
    · rw [long] at lowered
      exact .inr lowered
  · rintro (begins | begins)
    · obtain ⟨scheme, rest, lower, rfl⟩ := prefix_asciiLower_iff.mp begins
      exact ⟨scheme, .inl lower, List.prefix_append scheme rest⟩
    · obtain ⟨scheme, rest, lower, rfl⟩ := prefix_asciiLower_iff.mp begins
      exact ⟨scheme, .inr lower, List.prefix_append scheme rest⟩

instance (url : Text) : Decidable (HasWebScheme url) := decidable_of_iff _ hasWebScheme_iff.symm

theorem hasWebScheme_of_join {stem rest : Text} (last : stem.getLast? ≠ some '/')
    (first : rest.head? ≠ some '/') (web : HasWebScheme (stem ++ '/' :: rest)) :
    HasWebScheme stem := by
  rw [hasWebScheme_iff] at web ⊢
  exact web.imp (prefix_asciiLower_of_join _ (by decide) last first)
    (prefix_asciiLower_of_join _ (by decide) last first)

theorem IsWebScheme.getLast? {scheme : Text} (web : IsWebScheme scheme) :
    scheme.getLast? = some '/' := by
  have last : (asciiLower scheme).getLast? = some '/' := by
    rcases web with lower | lower <;> rw [lower] <;> rfl
  rw [asciiLower, List.getLast?_map] at last
  obtain ⟨c, same, slash⟩ := Option.map_eq_some_iff.mp last
  rw [same, (toLower_eq_slash_iff c).mp slash]

/-- Slashes that end an address belong to its scheme if nothing else stands behind that. -/
theorem hasWebScheme_withoutTrailingSlashes_iff (base : Text) :
    HasWebScheme (withoutTrailingSlashes base) ↔ IsPlainBase base := by
  obtain ⟨n, whole, last⟩ := isLeftBefore_dropEndWhile '/' base
  rw [← withoutTrailingSlashes] at whole last
  constructor
  · rintro ⟨scheme, web, more, same⟩
    rw [← same] at whole last
    refine ⟨scheme, more ++ List.replicate n '/', web, ?_, by rw [whole, List.append_assoc]⟩
    obtain ⟨c, ends⟩ : ∃ c, more.getLast? = some c := by
      cases none : more.getLast? with
      | some c => exact ⟨c, rfl⟩
      | none =>
        rw [List.getLast?_eq_none_iff.mp none, List.append_nil] at last
        exact absurd web.getLast? last
    rw [List.getLast?_append, ends] at last
    refine ⟨c, List.mem_append_left _ (List.mem_of_getLast? ends), fun slash => last ?_⟩
    exact congrArg some slash
  · rintro ⟨scheme, rest, web, ⟨c, mem, other⟩, rfl⟩
    rcases List.append_eq_append_iff.mp whole with ⟨more, same, -⟩ | ⟨more, -, slashes⟩
    · exact ⟨scheme, web, more, same.symm⟩
    · -- otherwise all that is behind the scheme would be among the slashes
      have among : c ∈ List.replicate n '/' := by
        rw [slashes]
        exact List.mem_append_right more mem
      exact absurd (List.eq_of_mem_replicate among) other

instance (url : Text) : Decidable (IsPlainBase url) :=
  decidable_of_iff _ (hasWebScheme_withoutTrailingSlashes_iff url)

theorem hasWebScheme_join_iff (base : Text) {rest : Text} (first : rest.head? ≠ some '/') :
    HasWebScheme (withoutTrailingSlashes base ++ '/' :: rest) ↔ IsPlainBase base := by
  rw [← hasWebScheme_withoutTrailingSlashes_iff]
  obtain ⟨-, -, last⟩ := isLeftBefore_dropEndWhile '/' base
  exact ⟨hasWebScheme_of_join last first, fun web => web.mono (List.prefix_append _ _)⟩

theorem IsVersionLabel.exists_cons {label : Text} (version : IsVersionLabel label) :
    ∃ c rest, label = c :: rest ∧ c.isDigit := by
  obtain ⟨runs, ne, digits, rfl⟩ := version
  obtain ⟨run, more, rfl⟩ := List.exists_cons_of_ne_nil ne
  obtain ⟨some, all⟩ := digits run List.mem_cons_self
  obtain ⟨c, run, rfl⟩ := List.exists_cons_of_ne_nil some
  have digit := all c List.mem_cons_self
  by_cases alone : more = []
  · exact ⟨c, run, by rw [alone, joinWith_singleton], digit⟩
  · exact ⟨c, _, by rw [joinWith_cons _ _ alone]; rfl, digit⟩

/-- An address that is accepted is not cut when it is taken for one, and keeps a web scheme. -/
theorem exists_withHttps?_eq {url : Text} (web : isWebUrl url) :
    ∃ home, withHttps? url = some home ∧ HasWebScheme home := by
  obtain ⟨⟨scheme, rest, isScheme, -, whole⟩, -⟩ := (isWebUrl_iff url).mp web
  have kept : HasWebScheme (trim url) := ⟨scheme, isScheme, rest, whole.symm⟩
  -- the first seven bytes end inside the scheme or behind it
  obtain ⟨lead, behind, size, split⟩ :
      ∃ lead behind, byteLength lead = 7 ∧ trim url = lead ++ behind := by
    rcases hasWebScheme_iff.mp kept with begins | begins
    · obtain ⟨lead, behind, lower, split⟩ := prefix_asciiLower_iff.mp begins
      exact ⟨lead, behind, by rw [← byteLength_asciiLower, lower]; decide, split⟩
    · have shorter : ("https:/" : Text) <+: asciiLower (trim url) :=
        (show ("https:/" : Text) <+: "https:" ++ ['/', '/'] by decide).trans begins
      obtain ⟨lead, behind, lower, split⟩ := prefix_asciiLower_iff.mp shorter
      exact ⟨lead, behind, by rw [← byteLength_asciiLower, lower]; decide, split⟩
  have long : ¬ byteLength (trim url) < 7 := by
    rw [split, byteLength_append, size]
    omega
  have cut : dropBytes? 7 (trim url) = some behind :=
    dropBytes?_eq_some_iff.mpr ⟨lead, split, size⟩
  rw [withHttps?, if_neg long, cut, Option.map_some]
  split
  · exact ⟨_, rfl, "https://", .inr rfl, List.prefix_append _ _⟩
  · exact ⟨_, rfl, kept⟩

namespace Config

variable {c : Config}

theorem isWebUrl_docsUrl (accepted : c.check = .ok ()) {package : Text} {lib : CustomLibrary}
    (given : c.libraryOf? package = some lib) : isWebUrl lib.docsUrl := by
  obtain ⟨-, -, -, checked⟩ := c.check_eq_ok_iff_forall.mp accepted
  exact (lib.check_ok_iff.mp (checked lib (List.mem_of_find?_eq_some given))).2 _
    List.mem_cons_self

theorem isVersionLabel (accepted : c.check = .ok ()) : IsVersionLabel c.pythonVersion :=
  (isVersionNumber_iff _).mp (c.check_eq_ok_iff_forall.mp accepted).2.1

theorem hasWebScheme_stdlibHome_append_iff (accepted : c.check = .ok ()) (path : Text) :
    HasWebScheme (c.stdlibHome ++ path) ↔ IsPlainBase c.stdlibDocsUrl := by
  obtain ⟨d, rest, version, digit⟩ := (isVersionLabel accepted).exists_cons
  have parts : c.stdlibHome ++ path = withoutTrailingSlashes c.stdlibDocsUrl ++
      '/' :: (c.pythonVersion ++ ('/' :: path)) := by
    simp [stdlibHome]
  rw [parts]
  refine hasWebScheme_join_iff _ ?_
  rw [version]
  rintro ⟨⟩
  exact absurd digit (by decide)

theorem exists_url_of_referenceRecord? {key : SymbolKey} {record : Record}
    (found : referenceRecord? c key = some record) :
    ∃ path, record.url = some (c.stdlibHome ++ path) := by
  rw [referenceRecord?] at found
  split at found
  · obtain ⟨e, -, rfl⟩ := Option.map_eq_some_iff.mp found
    exact ⟨e.expandedPath, rfl⟩
  · cases found

theorem exists_docsRoot_eq (accepted : c.check = .ok ()) {r : InventoryRequest}
    {lib : CustomLibrary} (outside : r.isStdlib = false)
    (given : c.libraryOf? r.package = some lib) (m : Memory) (w : World) :
    ∃ root w', Lookup.docsRoot c r m w = (some (root, m), w') ∧ HasWebScheme root := by
  obtain ⟨home, upgraded, web⟩ := exists_withHttps?_eq (isWebUrl_docsUrl accepted given)
  refine ⟨asFolder home, { w with addresses := lib.docsUrl :: w.addresses }, ?_, ?_⟩
  · have upgrade : Web.withHttps lib.docsUrl w =
        (some home, { w with addresses := lib.docsUrl :: w.addresses }) := by
      rw [Web.withHttps, upgraded]
    rw [Lookup.docsRoot, outside, given]
    exact Lookup.bind_eq_some_iff.mpr ⟨home, m, _, Lookup.lift_eq_some_iff.mpr ⟨upgrade, rfl⟩, rfl⟩
  · rw [asFolder]
    split
    · exact web
    · exact web.mono (List.prefix_append home _)

/-- What is built from an accepted configuration begins with a web scheme exactly if the address it
is built from is a plain base; what is built for a library of the user always does. -/
theorem hasWebScheme_built_iff (accepted : c.check = .ok ()) :
    (HasWebScheme c.stdlibHome ↔ IsPlainBase c.stdlibDocsUrl) ∧
    (∀ key record, referenceRecord? c key = some record →
      ∃ url, record.url = some url ∧ (HasWebScheme url ↔ IsPlainBase c.stdlibDocsUrl)) ∧
    (∀ name, HasWebScheme (c.aggregatorSearchUrl name) ↔ IsPlainBase c.aggregatorUrl) ∧
    ((∀ package, HasWebScheme (c.registryDocumentUrl package)) ↔ IsPlainBase c.registryUrl) ∧
    ∀ r lib m w, r.isStdlib = false → c.libraryOf? r.package = some lib →
      ∃ root w', Lookup.docsRoot c r m w = (some (root, m), w') ∧ HasWebScheme root := by
  have home := hasWebScheme_stdlibHome_append_iff accepted
  refine ⟨?_, fun key record found => ?_, fun name => ?_, ⟨fun all => ?_, fun plain package => ?_⟩,
    fun r lib m w outside given => exists_docsRoot_eq accepted outside given m w⟩
  · simpa using home []
  · obtain ⟨path, url⟩ := exists_url_of_referenceRecord? found
    exact ⟨_, url, home path⟩
  · have parts : c.aggregatorSearchUrl name =
        withoutTrailingSlashes c.aggregatorUrl ++ '/' :: ("#q=" ++ name) := by
      simp [aggregatorSearchUrl]
    rw [parts]
    exact hasWebScheme_join_iff _ (by simp)
  · have document := all "a"
    rw [registryDocumentUrl, List.append_assoc, List.cons_append] at document
    exact (hasWebScheme_join_iff _ (by simp)).mp document
  · rw [registryDocumentUrl, List.append_assoc]
    exact ((hasWebScheme_withoutTrailingSlashes_iff _).mpr plain).mono (List.prefix_append _ _)

/-- Addresses in capitals and with white space around them, one of them in front of a base. -/
def written : Config where
  registryUrl := "HTTPS://Registry.dev/"
  aggregatorUrl := " https://devdocs.io"
  stdlibDocsUrl := "http://docs.dev// "
  customLibraries := [⟨"Foo", "  HTTP://foo.dev ", none⟩]

theorem hasWebScheme_built_written : written.check = .ok () ∧ HasWebScheme written.stdlibHome ∧
    (∃ record url, referenceRecord? written ⟨[], [], "None", "None", true, none⟩ = some record ∧
      record.url = some url ∧ HasWebScheme url) ∧
    (∀ name, ¬ HasWebScheme (written.aggregatorSearchUrl name)) ∧
    (∀ package, HasWebScheme (written.registryDocumentUrl package)) ∧
    ∃ root w', Lookup.docsRoot written ⟨"foo", none, false⟩ {} { client := Site.client {} } =
      (some (root, {}), w') ∧ HasWebScheme root := by
  have accepted : written.check = .ok () := by decide
  have plain : IsPlainBase written.stdlibDocsUrl := by decide
  obtain ⟨home, static, search, registry, library⟩ := hasWebScheme_built_iff accepted
  obtain ⟨record, found⟩ := Option.isSome_iff_exists.mp
    (show (referenceRecord? written ⟨[], [], "None", "None", true, none⟩).isSome by decide)
  obtain ⟨url, shown, web⟩ := static _ record found
  have other : ¬ IsPlainBase written.aggregatorUrl := by decide
  exact ⟨accepted, home.mpr plain, ⟨record, url, found, shown, web.mpr plain⟩,
    fun name begins => other ((search name).mp begins), registry.mpr (by decide),
    library _ ⟨"Foo", "  HTTP://foo.dev ", none⟩ {} _ rfl (by decide)⟩

/-- A base is accepted without the white space in front of it, but used with it. -/
theorem not_hasWebScheme_stdlibHome :
    ¬ ∀ c : Config, c.check = .ok () → HasWebScheme c.stdlibHome := by
  intro web
  exact absurd (web { stdlibDocsUrl := " https://docs.python.org" } (by decide)) (by decide)

/-- The slashes of a scheme are taken for the end of a base that has nothing else behind it. -/
example : isWebUrl "https:////" ∧ Config.stdlibHome { stdlibDocsUrl := "https:////" } =
    ("https:/3.12/" : Text) := by decide

end Config
end SymbolDocs
