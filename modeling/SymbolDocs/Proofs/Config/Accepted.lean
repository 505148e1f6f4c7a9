import SymbolDocs.Config
import SymbolDocs.Proofs.Text.Tidy

namespace SymbolDocs

namespace Text

theorem utf8Size_toLower (c : Char) : c.toLower.utf8Size = c.utf8Size := by
  by_cases upper : 'A'.val ≤ c.val ∧ c.val ≤ 'Z'.val
  · have greatest : c.val.toNat ≤ 90 := UInt32.le_iff_toNat_le.mp upper.2
    have raised : c.toLower.val = c.val + 32 := congrArg Char.val (dif_pos upper)
    have value : c.toLower.val.toNat = (c.val.toNat + 32) % 2 ^ 32 := congrArg UInt32.toNat raised
    have limit : (127 : UInt32).toNat = 127 := rfl
    rw [Char.utf8Size_eq_one_iff.mpr, Char.utf8Size_eq_one_iff.mpr]
    · exact UInt32.le_iff_toNat_le.mpr (by omega)
    · exact UInt32.le_iff_toNat_le.mpr (by omega)
  · rw [show c.toLower = c from dif_neg upper]

theorem byteLength_asciiLower (s : Text) : byteLength (asciiLower s) = byteLength s := by
  induction s with
  | nil => rfl
  | cons c s ih => exact congrArg₂ (· + ·) (utf8Size_toLower c) ih

theorem byteLength_eq_one_iff {s : Text} :
    byteLength s = 1 ↔ ∃ c : Char, c.utf8Size = 1 ∧ s = [c] := by
  constructor
  · intro size
    have short := length_le_byteLength s
    rw [size] at short
    match s with
    | [] => exact absurd size (by decide)
    | [c] => exact ⟨c, size, rfl⟩
    | c :: d :: s => exact absurd short (by simp)
  · rintro ⟨c, size, rfl⟩
    exact size

theorem prefix_asciiLower_iff {lead s : Text} :
    lead <+: asciiLower s ↔ ∃ start rest, asciiLower start = lead ∧ s = start ++ rest := by
  constructor
  · rintro ⟨tail, whole⟩
    obtain ⟨start, rest, eq, lower, -⟩ := List.map_eq_append_iff.mp whole.symm
    exact ⟨start, rest, lower, eq⟩
  · rintro ⟨start, rest, rfl, rfl⟩
    exact (List.prefix_append start rest).map Char.toLower

end Text

open Text

/-- `http://` or `https://`, in letters of any case. -/
def IsWebScheme (scheme : Text) : Prop :=
  asciiLower scheme = "http://" ∨ asciiLower scheme = "https://"

/-- A web scheme, and at least one character behind it. -/
def IsWebAddress (address : Text) : Prop :=
  ∃ scheme rest, IsWebScheme scheme ∧ rest ≠ [] ∧ address = scheme ++ rest

/-- The shorter scheme, and a single character of one byte behind it. -/
def IsBriefAddress (address : Text) : Prop :=
  ∃ scheme c, asciiLower scheme = "http://" ∧ c.utf8Size = 1 ∧ address = scheme ++ [c]

theorem IsBriefAddress.byteLength {address : Text} (brief : IsBriefAddress address) :
    byteLength address = 8 := by
  obtain ⟨scheme, c, lower, single, rfl⟩ := brief
  rw [byteLength_append, ← byteLength_asciiLower, lower, byteLength_cons, single]
  rfl

theorem lt_byteLength_iff {scheme rest : Text} (web : IsWebScheme scheme) :
    8 < byteLength (scheme ++ rest) ↔ rest ≠ [] ∧ ¬ IsBriefAddress (scheme ++ rest) := by
  have total : byteLength (scheme ++ rest) = byteLength (asciiLower scheme) + byteLength rest := by
    rw [byteLength_append, byteLength_asciiLower]
  constructor
  · intro long
    refine ⟨?_, fun brief => absurd brief.byteLength (Nat.ne_of_gt long)⟩
    rintro rfl
    rcases web with lower | lower
    all_goals
      rw [total, lower] at long
      exact absurd long (by decide)
  · rintro ⟨more, notBrief⟩
    have some := List.length_pos_iff.mpr more
    have enough := Nat.lt_of_lt_of_le some (length_le_byteLength rest)
    rcases web with lower | lower
    · have seven : byteLength ("http://" : Text) = 7 := by decide
      -- one byte more makes a brief address
      have two : byteLength rest ≠ 1 := by
        intro one
        obtain ⟨c, single, rfl⟩ := byteLength_eq_one_iff.mp one
        exact notBrief ⟨scheme, c, lower, single, rfl⟩
      rw [total, lower]
      omega
    · have eight : byteLength ("https://" : Text) = 8 := by decide
      rw [total, lower]
      omega

theorem isWebUrl_iff (url : Text) :
    isWebUrl url ↔ IsWebAddress (trim url) ∧ ¬ IsBriefAddress (trim url) := by
  have accepts : isWebUrl url ↔ (("http://" : Text) <+: asciiLower (trim url) ∨
      ("https://" : Text) <+: asciiLower (trim url)) ∧ 8 < byteLength (trim url) := by
    rw [isWebUrl, Bool.and_eq_true, Bool.or_eq_true, startsWith_iff_prefix, startsWith_iff_prefix,
      byteLength_asciiLower, decide_eq_true_iff]
  rw [accepts, prefix_asciiLower_iff, prefix_asciiLower_iff]
  constructor
  · rintro ⟨⟨scheme, rest, lower, whole⟩ | ⟨scheme, rest, lower, whole⟩, long⟩
    · rw [whole] at long ⊢
      obtain ⟨more, notBrief⟩ := (lt_byteLength_iff (.inl lower)).mp long
      exact ⟨⟨scheme, rest, .inl lower, more, rfl⟩, notBrief⟩
    · rw [whole] at long ⊢
      obtain ⟨more, notBrief⟩ := (lt_byteLength_iff (.inr lower)).mp long
      exact ⟨⟨scheme, rest, .inr lower, more, rfl⟩, notBrief⟩
  · rintro ⟨⟨scheme, rest, web, more, whole⟩, notBrief⟩
    rw [whole] at notBrief ⊢
    refine ⟨?_, (lt_byteLength_iff web).mpr ⟨more, notBrief⟩⟩
    exact web.imp (fun lower => ⟨scheme, rest, lower, rfl⟩) fun lower => ⟨scheme, rest, lower, rfl⟩

/-- One or more runs of digits, with dots between them. -/
def IsVersionLabel (label : Text) : Prop :=
  ∃ runs : List Text, runs ≠ [] ∧ (∀ run ∈ runs, run ≠ [] ∧ ∀ c ∈ run, c.isDigit) ∧
    label = joinWith "." runs

theorem isVersionNumber_iff (label : Text) : isVersionNumber label ↔ IsVersionLabel label := by
  have accepts : isVersionNumber label ↔
      ∀ run ∈ splitOn '.' label, run ≠ [] ∧ ∀ c ∈ run, c.isDigit := by
    simp [isVersionNumber]
  rw [accepts]
  constructor
  · intro digits
    obtain ⟨first, more, split⟩ := exists_splitOn_eq_cons '.' label
    refine ⟨splitOn '.' label, by simp [split], digits, ?_⟩
    exact (joinWith_splitOn '.' label).symm
  · rintro ⟨runs, ne, digits, rfl⟩
    have whole : ∀ run ∈ runs, '.' ∉ run := fun run mem dot =>
      absurd ((digits run mem).2 '.' dot) (by decide)
    have split : splitOn '.' (joinWith "." runs) = runs := splitOn_joinWith ne whole
    rwa [split]

theorem CustomLibrary.check_ok_iff (lib : CustomLibrary) : lib.check = .ok () ↔
    ¬ isBlank lib.package ∧ ∀ url ∈ lib.docsUrl :: lib.inventoryUrl.toList, isWebUrl url := by
  obtain ⟨package, docsUrl, inventoryUrl⟩ := lib
  rw [check]
  by_cases blank : isBlank package
  · simp [blank]
  · by_cases docs : isWebUrl docsUrl
    · cases inventoryUrl with
      | none => simp [blank, docs]
      | some url => by_cases inventory : isWebUrl url <;> simp [blank, docs, inventory]
    · simp [blank, docs]

namespace Config

/-- All addresses of a configuration. -/
def addresses (c : Config) : List Text :=
  [c.registryUrl, c.aggregatorUrl, c.stdlibDocsUrl] ++
    c.customLibraries.flatMap fun lib => lib.docsUrl :: lib.inventoryUrl.toList

theorem forM_check_eq_ok_iff (libs : List CustomLibrary) :
    libs.forM CustomLibrary.check = .ok () ↔ ∀ lib ∈ libs, lib.check = .ok () := by
  induction libs with
  | nil => exact iff_of_true rfl (List.forall_mem_nil _)
  | cons lib libs ih =>
    rw [List.forall_mem_cons, ← ih]
    have step : (lib :: libs).forM CustomLibrary.check =
        (lib.check >>= fun _ => libs.forM CustomLibrary.check) := rfl
    rw [step]
    cases lib.check with
    | error fault => exact iff_of_false nofun fun both => nomatch both.1
    | ok _ => exact (and_iff_right rfl).symm

theorem check_eq_ok_iff_forall (c : Config) : c.check = .ok () ↔
    c.timeoutMs ≠ 0 ∧ isVersionNumber c.pythonVersion ∧
      (∀ url ∈ [c.registryUrl, c.aggregatorUrl, c.stdlibDocsUrl], isWebUrl url) ∧
      ∀ lib ∈ c.customLibraries, lib.check = .ok () := by
  have addressed : [c.registryUrl, c.aggregatorUrl, c.stdlibDocsUrl].find? (!isWebUrl ·) = none ↔
      ∀ url ∈ [c.registryUrl, c.aggregatorUrl, c.stdlibDocsUrl], isWebUrl url := by
    simp
  rw [← forM_check_eq_ok_iff, ← addressed, check]
  by_cases zero : c.timeoutMs = 0
  · rw [if_pos zero]
    exact iff_of_false nofun fun all => all.1 zero
  · by_cases version : isVersionNumber c.pythonVersion
    · cases found : [c.registryUrl, c.aggregatorUrl, c.stdlibDocsUrl].find? (!isWebUrl ·) with
      | none => simp [zero, version]
      | some url =>
        rw [if_neg zero]
        simp only [version, Bool.not_true, Bool.false_eq_true, if_false]
        exact iff_of_false nofun fun all => nomatch all.2.2.1
    · have wrong : (!isVersionNumber c.pythonVersion) = true := by simpa using version
      rw [if_neg zero]
      simp only [if_pos wrong]
      exact iff_of_false nofun fun all => version all.2.1

theorem forall_mem_addresses {c : Config} {p : Text → Prop} : (∀ url ∈ c.addresses, p url) ↔
    (∀ url ∈ [c.registryUrl, c.aggregatorUrl, c.stdlibDocsUrl], p url) ∧
      ∀ lib ∈ c.customLibraries, ∀ url ∈ lib.docsUrl :: lib.inventoryUrl.toList, p url := by
  rw [addresses, List.forall_mem_append]
  simp only [List.mem_flatMap, forall_exists_index, and_imp]
  exact and_congr_right fun _ => ⟨fun all lib mem url => all url lib mem,
    fun all url lib mem => all lib mem url⟩

/-- A configuration is accepted exactly if it has a timeout, its version is made of digits between
dots, its addresses are web addresses, but not the briefest ones, and each library has a name. -/
theorem check_eq_ok_iff (c : Config) : c.check = .ok () ↔
    0 < c.timeoutMs ∧ IsVersionLabel c.pythonVersion ∧
      (∀ url ∈ c.addresses, IsWebAddress (trim url) ∧ ¬ IsBriefAddress (trim url)) ∧
      ∀ lib ∈ c.customLibraries, ¬ isBlank lib.package := by
  rw [check_eq_ok_iff_forall, isVersionNumber_iff, Nat.pos_iff_ne_zero, forall_mem_addresses]
  simp only [CustomLibrary.check_ok_iff, isWebUrl_iff, forall_and]
  constructor
  · rintro ⟨timeout, version, bases, named, addressed⟩
    exact ⟨timeout, version, ⟨bases, addressed⟩, named⟩
  · rintro ⟨timeout, version, ⟨bases, addressed⟩, named⟩
    exact ⟨timeout, version, bases, named, addressed⟩

/-- A registry whose host is a single letter. -/
theorem not_check_eq_ok_iff_brief : ¬ ∀ c : Config, c.check = .ok () ↔
    0 < c.timeoutMs ∧ IsVersionLabel c.pythonVersion ∧
      (∀ url ∈ c.addresses, IsWebAddress (trim url)) ∧
      ∀ lib ∈ c.customLibraries, ¬ isBlank lib.package := by
  intro accepts
  have version : IsVersionLabel "3.12" := (isVersionNumber_iff "3.12").mp (by decide)
  have brief : IsWebAddress (trim "http://a") := ⟨"http://", "a", .inl rfl, by decide, by decide⟩
  have aggregator := ((isWebUrl_iff "https://devdocs.io").mp (by decide)).1
  have stdlib := ((isWebUrl_iff "https://docs.python.org").mp (by decide)).1
  have addressed : ∀ url ∈ addresses { registryUrl := "http://a" }, IsWebAddress (trim url) :=
    List.forall_mem_cons.mpr ⟨brief, List.forall_mem_cons.mpr ⟨aggregator,
      List.forall_mem_cons.mpr ⟨stdlib, List.forall_mem_nil _⟩⟩⟩
  have accepted := (accepts { registryUrl := "http://a" }).mpr
    ⟨by decide, version, addressed, nofun⟩
  exact absurd accepted (by decide)

end Config
end SymbolDocs
