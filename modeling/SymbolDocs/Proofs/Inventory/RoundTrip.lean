import Mathlib.Data.List.Chain
import SymbolDocs.Inventory.Item
import SymbolDocs.Proofs.Json.Numbers
import SymbolDocs.Proofs.Text.Words

namespace SymbolDocs.InventoryItem

open Text

theorem isDomainRole_iff {token : Text} : isDomainRole token ↔
    ∃ domain role, token = domain ++ ':' :: role ∧ domain ≠ [] ∧ role ≠ [] ∧ ':' ∉ domain := by
  rw [isDomainRole]
  constructor
  · intro shaped
    cases cut : cut? ':' token with
    | none =>
      rw [cut] at shaped
      cases shaped
    | some parts =>
      obtain ⟨domain, role⟩ := parts
      obtain ⟨eq, absent⟩ := cut?_eq_some_iff.mp cut
      rw [cut] at shaped
      have filled : domain ≠ [] ∧ role ≠ [] := by simpa using shaped
      exact ⟨domain, role, eq, filled.1, filled.2, absent⟩
  · rintro ⟨domain, role, rfl, ne, ne', absent⟩
    rw [cut?_append absent]
    simp [ne, ne']

theorem digits?_eq_some {s : Text} {n : Nat} (read : digits? s = some n) :
    ∀ c ∈ s, c.isDigit := by
  rw [digits?] at read
  split at read
  · next all =>
    rw [Bool.and_eq_true, List.all_eq_true] at all
    exact all.2
  · exact absurd read (by simp)

/-- A number has no colon, so no priority has the shape of a role. -/
theorem isPriority_of_mem_colon {token : Text} (colon : ':' ∈ token) : isPriority token = false := by
  have unread {s : Text} (mem : ':' ∈ s) : digits? s = none := by
    cases read : digits? s with
    | none => rfl
    | some n => exact absurd (digits?_eq_some read ':' mem) (by decide)
  unfold isPriority priority?
  split
  · rw [unread (by simpa using colon)]
    rfl
  · rw [unread (by simpa using colon)]
    rfl
  · rw [unread colon]
    rfl

theorem digits?_ofNat (n : Nat) : digits? (ofNat n) = some n := by
  have value := Json.foldl_ofNat n
  have some : (ofNat n).isEmpty = false := by simp [ofNat, Nat.toDigits_ne_nil]
  rw [digits?, some, if_pos (by simpa using Json.digits_ofNat n)]
  simpa [Json.digitValue] using value

def priorityText (i : Int) : Text := (if i < 0 then ['-'] else []) ++ ofNat i.natAbs

theorem priority?_priorityText {i : Int} (least : leastPriority ≤ i) (greatest : i ≤ greatestPriority) :
    priority? (priorityText i) = some i := by
  have bounds : leastPriority ≤ i ∧ i ≤ greatestPriority := ⟨least, greatest⟩
  have read := digits?_ofNat i.natAbs
  by_cases negative : i < 0
  · have value : -(i.natAbs : Int) = i := by omega
    rw [priorityText, if_pos negative, List.singleton_append, priority?]
    have checked : (if leastPriority ≤ -(i.natAbs : Int) ∧ -(i.natAbs : Int) ≤ greatestPriority
        then some (-(i.natAbs : Int)) else none) = some i := by rw [value, if_pos bounds]
    rw [read]
    exact checked
  · have value : (i.natAbs : Int) = i := by omega
    obtain ⟨c, ds, eq⟩ := List.exists_cons_of_ne_nil (Nat.toDigits_ne_nil (n := i.natAbs) (b := 10))
    have digit : c.isDigit :=
      Json.digits_ofNat i.natAbs c (by rw [ofNat, eq]; exact List.mem_cons_self)
    rw [priorityText, if_neg negative, List.nil_append]
    rw [ofNat, eq] at read ⊢
    rw [priority?]
    · have checked : (if leastPriority ≤ (i.natAbs : Int) ∧ (i.natAbs : Int) ≤ greatestPriority
          then some (i.natAbs : Int) else none) = some i := by rw [value, if_pos bounds]
      rw [read]
      exact checked
    · rintro ds' same
      exact absurd digit (by rw [(List.cons.inj same).1]; decide)
    · rintro ds' same
      exact absurd digit (by rw [(List.cons.inj same).1]; decide)

theorem isWord_priorityText (i : Int) : IsWord (priorityText i) := by
  refine ⟨by simp [priorityText, ofNat, Nat.toDigits_ne_nil], fun c mem => ?_⟩
  have digit {c : Char} (h : c.isDigit) : ¬ isBlankChar c := by
    simp only [Char.isDigit, Bool.and_eq_true, decide_eq_true_eq] at h
    have range : 48 ≤ c.toNat ∧ c.toNat ≤ 57 := ⟨h.1, h.2⟩
    simp only [isBlankChar, Bool.or_eq_true, Bool.and_eq_true, decide_eq_true_eq, beq_iff_eq]
    omega
  rcases List.mem_append.mp mem with sign | number
  · split at sign
    · rw [List.mem_singleton.mp sign]
      decide
    · exact absurd sign List.not_mem_nil
  · exact digit (Json.digits_ofNat _ c number)

/-- The role is found behind words none of which is taken for one. -/
theorem roleColumnFrom?_append {more : List Text} {role priority : Text} (shaped : isDomainRole role)
    (number : isPriority priority)
    (noRole : more.IsChain fun word next => isDomainRole word → isPriority next = false)
    (rest : List Text) (column : Nat) :
    roleColumnFrom? column (more ++ role :: priority :: rest) = some (column + more.length) := by
  induction more generalizing column with
  | nil => simp [roleColumnFrom?, shaped, number]
  | cons word more ih =>
    have next := ih noRole.tail (column + 1)
    have passed : ∀ second, (more ++ role :: priority :: rest).head? = some second →
        isDomainRole word → isPriority second = false := by
      intro second first
      cases more with
      | nil =>
        cases first
        obtain ⟨domain, tail, eq, _⟩ := isDomainRole_iff.mp shaped
        exact fun _ => isPriority_of_mem_colon (by rw [eq]; simp)
      | cons second' more =>
        cases first
        exact (List.isChain_cons_cons.mp noRole).1
    obtain ⟨second, tail, eq⟩ := List.exists_cons_of_ne_nil
      (show more ++ role :: priority :: rest ≠ [] by simp)
    rw [eq] at next passed
    rw [List.cons_append, eq, roleColumnFrom?, if_neg (by simpa using passed second rfl), next,
      List.length_cons, Nat.add_right_comm, Nat.add_assoc]

/-- A line is the words of its parts. -/
theorem line_eq {item : InventoryItem} {names shown : List Text}
    (name : item.name = joinWith " " names) (display : item.displayName = joinWith " " shown)
    (named : names ≠ []) (ne : shown ≠ []) : item.line = joinWith " "
      (names ++ item.domainRole :: priorityText item.priority :: item.uri :: shown) := by
  have line : item.line = joinWith " "
      [item.name, item.domainRole, priorityText item.priority, item.uri, item.displayName] := rfl
  rw [line, joinWith_append _ named (by simp), joinWith_cons _ item.name (by simp), name]
  congr 1
  rw [joinWith_cons _ item.domainRole (by simp), joinWith_cons _ item.domainRole (by simp),
    joinWith_cons _ (priorityText _) (by simp), joinWith_cons _ (priorityText _) (by simp),
    joinWith_cons _ item.uri (by simp), joinWith_cons _ item.uri ne, joinWith_singleton, display]

/-- Words that are joined are read as the item of the column where the role is found. -/
theorem ofLine?_joinWith {first role priority uri : Text} {more shown : List Text}
    (all : ∀ w ∈ first :: more ++ role :: priority :: uri :: shown, IsWord w)
    (noComment : first.head? ≠ some '#') (ne : shown ≠ [])
    (column : (roleColumn? (first :: more ++ role :: priority :: uri :: shown)).getD 1 =
      (first :: more).length) :
    ofLine? (joinWith " " (first :: more ++ role :: priority :: uri :: shown)) =
      some ⟨joinWith " " (first :: more), role, (priority? priority).getD 0, uri,
        joinWith " " shown⟩ := by
  have whole := trim_joinWith all
  have tokens := words_joinWith all
  have starts : startsWith (joinWith " " (first :: more ++ role :: priority :: uri :: shown)) "#" =
      false := by
    obtain ⟨c, tail, word⟩ := List.exists_cons_of_ne_nil (all first (by simp)).1
    have code : '#' ≠ c := by
      rintro rfl
      exact noComment (by rw [word]; rfl)
    rw [List.cons_append, joinWith_cons _ first (by simp), word]
    simp [startsWith, after?, code]
  have many : ¬ (first :: more ++ role :: priority :: uri :: shown).length < 4 := by
    have := List.length_pos_iff.mpr ne
    simp only [List.length_append, List.length_cons]
    omega
  have visible : shown.isEmpty = false := by simpa using ne
  rw [ofLine?]
  simp only [whole, tokens, starts, Bool.false_or, decide_eq_true_eq, if_neg many, column,
    List.drop_left, List.take_left, visible, Bool.false_eq_true, if_false]

/-- An item that a line can hold: its parts are words, or several words with single spaces in
between. Behind its first word the name has no domain and role that a number follows. -/
structure IsWritable (item : InventoryItem) : Prop where
  name : ∃ first more, item.name = joinWith " " (first :: more) ∧ (∀ w ∈ first :: more, IsWord w) ∧
    first.head? ≠ some '#' ∧
    more.IsChain fun word next => isDomainRole word → isPriority next = false
  domainRole : IsWord item.domainRole ∧
    ∃ domain role, item.domainRole = domain ++ ':' :: role ∧ domain ≠ [] ∧ role ≠ [] ∧ ':' ∉ domain
  priority : -2147483648 ≤ item.priority ∧ item.priority ≤ 2147483647
  uri : IsWord item.uri
  displayName : ∃ ws, item.displayName = joinWith " " ws ∧ ws ≠ [] ∧ ∀ w ∈ ws, IsWord w

theorem exists_line_eq {item : InventoryItem} (h : item.IsWritable) :
    ∃ first more shown, item.name = joinWith " " (first :: more) ∧
      item.displayName = joinWith " " shown ∧ shown ≠ [] ∧ first.head? ≠ some '#' ∧
      (more.IsChain fun word next => isDomainRole word → isPriority next = false) ∧
      (∀ w ∈ first :: more ++ item.domainRole :: priorityText item.priority :: item.uri :: shown,
        IsWord w) ∧
      item.line = joinWith " "
        (first :: more ++ item.domainRole :: priorityText item.priority :: item.uri :: shown) := by
  obtain ⟨first, more, name, nameWords, noComment, noRole⟩ := h.name
  obtain ⟨shown, display, ne, shownWords⟩ := h.displayName
  refine ⟨first, more, shown, name, display, ne, noComment, noRole, fun w mem => ?_,
    line_eq name display (by simp) ne⟩
  rcases List.mem_append.mp mem with inName | mem
  · exact nameWords w inName
  · rcases List.mem_cons.mp mem with rfl | mem
    · exact h.domainRole.1
    · rcases List.mem_cons.mp mem with rfl | mem
      · exact isWord_priorityText _
      · rcases List.mem_cons.mp mem with rfl | mem
        · exact h.uri
        · exact shownWords w mem

theorem roleColumn?_of_shaped {first role priority uri : Text} {more shown : List Text}
    (shaped : isDomainRole role) (number : isPriority priority)
    (noRole : more.IsChain fun word next => isDomainRole word → isPriority next = false) :
    roleColumn? (first :: more ++ role :: priority :: uri :: shown) =
      some (first :: more).length := by
  rw [roleColumn?, List.cons_append, List.drop_one, List.tail_cons,
    roleColumnFrom?_append shaped number noRole, List.length_cons, Nat.add_comm]

theorem ofLine?_line {item : InventoryItem} (h : item.IsWritable) : ofLine? item.line = some item := by
  obtain ⟨first, more, shown, name, display, ne, noComment, noRole, all, eq⟩ := exists_line_eq h
  have shaped : isDomainRole item.domainRole := isDomainRole_iff.mpr h.domainRole.2
  have number := priority?_priorityText (i := item.priority) h.priority.1 h.priority.2
  have found : roleColumn? (first :: more ++ item.domainRole :: priorityText item.priority ::
      item.uri :: shown) = some (first :: more).length :=
    roleColumn?_of_shaped shaped (by rw [isPriority, number]; rfl) noRole
  rw [eq, ofLine?_joinWith all noComment ne (by rw [found, Option.getD_some]), number,
    Option.getD_some, ← name, ← display]

theorem plain_line {item : InventoryItem} (h : item.IsWritable) :
    item.line ≠ [] ∧ '\n' ∉ item.line ∧ '\r' ∉ item.line := by
  obtain ⟨first, more, shown, _, _, _, _, _, all, eq⟩ := exists_line_eq h
  have start : first ≠ [] := (all first (by simp)).1
  rw [eq]
  refine ⟨?_, not_mem_joinWith all (by decide) (by decide),
    not_mem_joinWith all (by decide) (by decide)⟩
  rw [List.cons_append, joinWith_cons _ first (by simp)]
  simp [start]

/-- A list of items is what is read from the lines that they are written on. -/
theorem ofBody_line {items : List InventoryItem} (writable : ∀ item ∈ items, item.IsWritable) :
    ofBody (joinWith "\n" (items.map line)) = items ∧
      ofBody (items.flatMap fun item => item.line ++ ['\n']) = items := by
  have plain : ∀ l ∈ items.map line, '\n' ∉ l ∧ '\r' ∉ l := by
    intro l mem
    obtain ⟨item, here, rfl⟩ := List.mem_map.mp mem
    exact (plain_line (writable item here)).2
  have filled : ∀ l ∈ items.map line, l ≠ [] := by
    intro l mem
    obtain ⟨item, here, rfl⟩ := List.mem_map.mp mem
    exact (plain_line (writable item here)).1
  have read : (items.map line).filterMap ofLine? = items := by
    rw [List.filterMap_map]
    exact (List.filterMap_congr fun item mem => ofLine?_line (writable item mem)).trans
      List.filterMap_some
  have ended : lines (items.flatMap fun item => item.line ++ ['\n']) = items.map line := by
    have written := lines_flatMap plain
    rwa [List.flatMap_map] at written
  exact ⟨by rw [ofBody, lines_joinWith plain filled, read], by rw [ofBody, ended, read]⟩

/-- A label whose name is a sentence, with the least priority there is. -/
theorem ofBody_line_sentence :
    ofBody (joinWith "\n" (List.map line
      [⟨"see: a:b now 3", "std:label", -2147483648, "x.html#y", "The title: 1 of 2"⟩])) =
      [⟨"see: a:b now 3", "std:label", -2147483648, "x.html#y", "The title: 1 of 2"⟩] := by
  refine (ofBody_line fun item mem => ?_).1
  rw [List.mem_singleton.mp mem]
  exact ⟨⟨"see:", ["a:b", "now", "3"], by decide +kernel, by decide +kernel, by decide +kernel, by decide +kernel⟩,
    ⟨by decide +kernel, "std", "label", by decide +kernel, by decide +kernel, by decide +kernel, by decide +kernel⟩,
    ⟨by decide +kernel, by decide +kernel⟩, by decide +kernel,
    ["The", "title:", "1", "of", "2"], by decide +kernel, by decide +kernel, by decide +kernel⟩

end SymbolDocs.InventoryItem
