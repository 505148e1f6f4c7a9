import SymbolDocs.Proofs.Inventory.Chosen
import SymbolDocs.Proofs.Web.Run

namespace SymbolDocs

namespace Text

theorem toLower_eq_slash_iff (c : Char) : c.toLower = '/' ↔ c = '/' := by
  constructor
  · intro lower
    by_cases upper : 'A'.val ≤ c.val ∧ c.val ≤ 'Z'.val
    · have least : 65 ≤ c.val.toNat := UInt32.le_iff_toNat_le.mp upper.1
      have greatest : c.val.toNat ≤ 90 := UInt32.le_iff_toNat_le.mp upper.2
      have raised : c.toLower.val = c.val + 32 := congrArg Char.val (dif_pos upper)
      rw [lower] at raised
      have value : 47 = (c.val.toNat + 32) % 2 ^ 32 := congrArg UInt32.toNat raised
      omega
    · have same : c.toLower = c := dif_neg upper
      exact same.symm.trans lower
  · rintro rfl
    rfl

/-- The slash that joins two parts is not one of the two slashes behind some letters. -/
theorem prefix_of_prefix_join {letters stem rest : Text} (word : '/' ∉ letters)
    (last : stem.getLast? ≠ some '/') (first : rest.head? ≠ some '/')
    (begins : letters ++ ['/', '/'] <+: stem ++ '/' :: rest) : letters ++ ['/', '/'] <+: stem := by
  induction letters generalizing stem with
  | nil =>
    match stem with
    | [] =>
      obtain ⟨tail, eq⟩ := begins
      obtain ⟨-, rfl⟩ := List.cons.inj eq
      exact absurd rfl first
    | [c] =>
      obtain ⟨same, -⟩ := List.cons_prefix_cons.mp begins
      exact absurd (congrArg some same.symm) last
    | c :: d :: s =>
      obtain ⟨one, begins⟩ := List.cons_prefix_cons.mp begins
      obtain ⟨two, -⟩ := List.cons_prefix_cons.mp begins
      exact ⟨s, by rw [← one, ← two]; rfl⟩
  | cons l letters ih =>
    obtain ⟨other, word⟩ := not_or.mp (List.mem_cons.not.mp word)
    match stem with
    | [] =>
      obtain ⟨same, -⟩ := List.cons_prefix_cons.mp begins
      exact absurd same.symm other
    | c :: s =>
      obtain ⟨same, begins⟩ := List.cons_prefix_cons.mp begins
      have last : s.getLast? ≠ some '/' := fun slash => last (by simp [List.getLast?_cons, slash])
      exact List.cons_prefix_cons.mpr ⟨same, ih word last begins⟩

theorem prefix_asciiLower_of_join (letters : Text) {stem rest : Text} (word : '/' ∉ letters)
    (last : stem.getLast? ≠ some '/') (first : rest.head? ≠ some '/')
    (begins : letters ++ ['/', '/'] <+: asciiLower (stem ++ '/' :: rest)) :
    letters ++ ['/', '/'] <+: asciiLower stem := by
  have slash {c : Option Char} (lower : c.map Char.toLower = some '/') : c = some '/' := by
    obtain ⟨d, rfl, same⟩ := Option.map_eq_some_iff.mp lower
    rw [(toLower_eq_slash_iff d).mp same]
  have parts : asciiLower (stem ++ '/' :: rest) = asciiLower stem ++ '/' :: asciiLower rest := by
    rw [asciiLower, List.map_append]
    rfl
  rw [parts] at begins
  refine prefix_of_prefix_join word (fun lower => last (slash ?_)) (fun lower => first (slash ?_))
    begins
  · rw [← List.getLast?_map]
    exact lower
  · rw [← List.head?_map]
    exact lower

end Text

/-- The address begins with `http://`, in letters of any case. -/
def IsPlainHttp (url : Text) : Prop := Text.startsWith (Text.asciiLower url) "http://"

theorem isPlainHttp_iff {url : Text} :
    IsPlainHttp url ↔ ("http://" : Text) <+: Text.asciiLower url := Text.startsWith_iff_prefix

theorem IsPlainHttp.mono {url lead : Text} (h : IsPlainHttp lead) (starts : lead <+: url) :
    IsPlainHttp url :=
  isPlainHttp_iff.mpr ((isPlainHttp_iff.mp h).trans (starts.map Char.toLower))

theorem not_isPlainHttp_withHttps {url address : Text} (upgraded : withHttps? url = some address) :
    ¬ IsPlainHttp address := by
  rw [isPlainHttp_iff]
  intro plain
  have size : (Text.asciiLower address).length = address.length := List.length_map _
  rw [withHttps?] at upgraded
  split at upgraded
  · next short =>
    obtain rfl := Option.some.inj upgraded
    have long : 7 ≤ (Text.asciiLower (Text.trim url)).length := plain.length_le
    have bytes := Text.length_le_byteLength (Text.trim url)
    omega
  · obtain ⟨rest, -, made⟩ := Option.map_eq_some_iff.mp upgraded
    split at made
    · have scheme : ("https://" : Text) <+: Text.asciiLower address := by
        rw [← made, Text.asciiLower, List.map_append]
        exact List.prefix_append _ _
      have both := List.prefix_of_prefix_length_le plain scheme (by decide)
      exact absurd both (by decide)
    · next other =>
      have same : Text.asciiLower (address.take 7) = "http://" := by
        rw [Text.asciiLower, List.map_take]
        exact (List.prefix_iff_eq_take.mp plain).symm
      rw [← made] at same
      exact other (beq_iff_eq.mpr same)

theorem not_isPlainHttp_urlBelow {base : Text} (h : ¬ IsPlainHttp base) (path : Text) :
    ¬ IsPlainHttp (urlBelow base path) := by
  intro plain
  obtain ⟨n, whole, last⟩ := isLeftBefore_dropEndWhile '/' base
  obtain ⟨-, -, first⟩ := isLeftBehind_dropWhile '/' path
  have scheme : ("http://" : Text) <+: Text.asciiLower (withoutTrailingSlashes base) :=
    Text.prefix_asciiLower_of_join "http:" (by decide) last first (isPlainHttp_iff.mp plain)
  exact h ((isPlainHttp_iff.mpr scheme).mono ⟨_, whole.symm⟩)

end SymbolDocs
