import SymbolDocs.Proofs.Inventory.RoundTrip

namespace SymbolDocs.InventoryItem

open Text

/-- A column that was found is the first one with a role that a priority follows. -/
theorem exists_of_roleColumnFrom?_eq_some {column k : Nat} {tokens : List Text}
    (found : roleColumnFrom? column tokens = some k) :
    ∃ more role priority rest, tokens = more ++ role :: priority :: rest ∧
      k = column + more.length ∧ isDomainRole role ∧ isPriority priority ∧
      more.IsChain fun word next => isDomainRole word → isPriority next = false := by
  fun_induction roleColumnFrom? column tokens with
  | case1 column token next rest here =>
    have shape := (Bool.and_eq_true _ _).mp here
    exact ⟨[], token, next, rest, rfl, (Option.some.inj found).symm, shape.1, shape.2, .nil⟩
  | case2 column token next rest here ih =>
    obtain ⟨more, role, priority, rest', eq, place, shaped, number, noRole⟩ := ih found
    have passed : isDomainRole token → isPriority next = false := by simpa using here
    refine ⟨token :: more, role, priority, rest', by rw [List.cons_append, eq], ?_, shaped,
      number, ?_⟩
    · rw [List.length_cons]
      omega
    · cases more with
      | nil => exact .singleton token
      | cons second more =>
        have same : next = second := (List.cons.inj eq).1
        exact .cons_cons (same ▸ passed) noRole
  | case3 => cases found

theorem roleColumnFrom?_eq_none_iff {column : Nat} {tokens : List Text} :
    roleColumnFrom? column tokens = none ↔
      tokens.IsChain fun word next => isDomainRole word → isPriority next = false := by
  fun_induction roleColumnFrom? column tokens with
  | case1 column token next rest here =>
    have shape := (Bool.and_eq_true _ _).mp here
    simp [shape.1, shape.2]
  | case2 column token next rest here ih =>
    have passed : isDomainRole token → isPriority next = false := by simpa using here
    rw [ih, List.isChain_cons_cons]
    exact ⟨fun rest => ⟨passed, rest⟩, fun both => both.2⟩
  | case3 tokens column short =>
    rcases tokens with _ | ⟨token, _ | ⟨next, rest⟩⟩
    · simp
    · simp
    · exact absurd rfl (short token next rest)

theorem one_le_roleColumn (tokens : List Text) : 1 ≤ (roleColumn? tokens).getD 1 := by
  cases found : roleColumn? tokens with
  | none => exact le_rfl
  | some column =>
    obtain ⟨more, _, _, _, _, place, _⟩ := exists_of_roleColumnFrom?_eq_some found
    rw [Option.getD_some]
    omega

theorem head?_ne_of_not_comment {line first : Text} {rest : List Text}
    (noComment : (trim line).startsWith "#" = false) (tokens : words line = first :: rest) :
    first.head? ≠ some '#' := by
  have visible : ¬ isBlank line := by
    intro blank
    rw [words_of_isBlank blank] at tokens
    cases tokens
  obtain ⟨c, tail, starts, seen⟩ := exists_trimStart_eq_cons visible
  have whole : trim line = c :: trimEnd tail := by rw [trim, starts, trimEnd_cons seen]
  obtain ⟨w, ws, cut⟩ := exists_words_cons seen (trimEnd tail)
  rw [← whole, words_trim, tokens] at cut
  rw [(List.cons.inj cut).1, List.head?_cons]
  intro code
  rw [whole, Option.some.inj code] at noComment
  simp [startsWith, after?] at noComment

/-- A line that is read is its words: some of the name, then the role, the priority and the address,
then those of the display name, if there are any. -/
theorem exists_of_ofLine?_eq_some {line : Text} {item : InventoryItem}
    (read : ofLine? line = some item) :
    ∃ first more priority shown,
      words line = first :: more ++ item.domainRole :: priority :: item.uri :: shown ∧
      (roleColumn? (words line)).getD 1 = (first :: more).length ∧ first.head? ≠ some '#' ∧
      item.name = joinWith " " (first :: more) ∧ item.priority = (priority? priority).getD 0 ∧
      item.displayName = if shown.isEmpty then "-".toList else joinWith " " shown := by
  rw [ofLine?] at read
  simp only [words_trim] at read
  split at read
  · cases read
  · next passes =>
    obtain ⟨noComment, long⟩ : (trim line).startsWith "#" = false ∧ 4 ≤ (words line).length := by
      simpa using passes
    have pos := one_le_roleColumn (words line)
    split at read
    · next role priority uri shown parts =>
      cases read
      have whole := List.take_append_drop ((roleColumn? (words line)).getD 1) (words line)
      have size := congrArg List.length parts
      rw [List.length_drop, List.length_cons] at size
      have width : ((words line).take ((roleColumn? (words line)).getD 1)).length =
          (roleColumn? (words line)).getD 1 := List.length_take_of_le (by omega)
      obtain ⟨first, more, named⟩ := List.exists_cons_of_ne_nil
        (List.ne_nil_of_length_pos (width.symm ▸ pos))
      rw [named] at width whole
      rw [parts] at whole
      exact ⟨first, more, priority, shown, whole.symm, width.symm,
        head?_ne_of_not_comment noComment whole.symm, by rw [named], rfl, rfl⟩
    · cases read

theorem bounds_of_priority? {token : Text} {i : Int} (read : priority? token = some i) :
    leastPriority ≤ i ∧ i ≤ greatestPriority := by
  -- the number is checked in the same way behind either sign and without one
  have checked (value : Int)
      (kept : (if leastPriority ≤ value ∧ value ≤ greatestPriority then some value else none) =
        some i) : leastPriority ≤ i ∧ i ≤ greatestPriority := by
    split at kept
    · next bounds =>
      cases kept
      exact bounds
    · cases kept
  unfold priority? at read
  dsimp only at read
  split at read <;> obtain ⟨value, -, kept⟩ := Option.bind_eq_some_iff.mp read <;>
    exact checked value kept

theorem priority?_priorityText_getD (token : Text) :
    priority? (priorityText ((priority? token).getD 0)) = some ((priority? token).getD 0) := by
  have bounds : leastPriority ≤ (priority? token).getD 0 ∧
      (priority? token).getD 0 ≤ greatestPriority := by
    cases read : priority? token with
    | none => decide
    | some i => exact bounds_of_priority? read
  exact priority?_priorityText bounds.1 bounds.2

theorem not_isDomainRole_of_isPriority {token : Text} (number : isPriority token) :
    ¬ isDomainRole token := by
  intro shaped
  obtain ⟨domain, role, eq, -⟩ := isDomainRole_iff.mp shaped
  rw [isPriority_of_mem_colon (by rw [eq]; simp)] at number
  cases number

/-- The column of the role stays where it is when the word behind the role becomes a priority, and
when a missing display name becomes a dash. -/
theorem roleColumn?_rewritten {first role priority number uri : Text} {more shown shown' : List Text}
    (column : (roleColumn? (first :: more ++ role :: priority :: uri :: shown)).getD 1 =
      (first :: more).length)
    (isNumber : isPriority number) (ends : shown' = shown ∨ shown = [] ∧ shown' = ["-".toList]) :
    (roleColumn? (first :: more ++ role :: number :: uri :: shown')).getD 1 =
      (first :: more).length := by
  cases found : roleColumn? (first :: more ++ role :: priority :: uri :: shown) with
  | some k =>
    obtain ⟨more', role', _, _, eq, place, shaped, _, noRole⟩ :=
      exists_of_roleColumnFrom?_eq_some found
    rw [found, Option.getD_some, List.length_cons] at column
    have tail : more ++ role :: priority :: uri :: shown = more' ++ role' :: _ := eq
    obtain ⟨same, next⟩ := List.append_inj tail (by omega)
    obtain ⟨rfl, -⟩ := List.cons.inj next
    subst same
    rw [roleColumn?_of_shaped shaped isNumber noRole, Option.getD_some]
  | none =>
    rw [found, Option.getD_none, List.length_cons] at column
    have alone : more = [] := List.eq_nil_of_length_eq_zero (by omega)
    subst alone
    -- the new priority may make a role of the second word, but of no later one
    by_cases shaped : isDomainRole role
    · rw [roleColumn?_of_shaped shaped isNumber .nil, Option.getD_some]
    · have old : (role :: priority :: uri :: shown).IsChain
          fun word next => isDomainRole word → isPriority next = false :=
        roleColumnFrom?_eq_none_iff.mp found
      have behind : (uri :: shown').IsChain
          fun word next => isDomainRole word → isPriority next = false := by
        rcases ends with rfl | ⟨rfl, rfl⟩
        · exact old.tail.tail
        · exact List.isChain_pair.mpr fun _ => by decide
      have none : roleColumn? ([first] ++ role :: number :: uri :: shown') = none := by
        refine roleColumnFrom?_eq_none_iff.mpr (.cons_cons (fun role => absurd role shaped) ?_)
        exact .cons_cons (fun role => absurd role (not_isDomainRole_of_isPriority isNumber)) behind
      rw [none, Option.getD_none, List.length_singleton]

/-- The words of an item are those of the line it was read from, in their order, and the line that
the item is written on is read as the same item. -/
theorem ofLine?_canonical {line : Text} {item : InventoryItem} (read : ofLine? line = some item) :
    (∃ priority shown, words line =
        words item.name ++ item.domainRole :: priority :: item.uri :: shown ∧
      item.priority = (priority? priority).getD 0 ∧
      (words item.displayName = shown ∨ shown = [] ∧ item.displayName = "-")) ∧
    ofLine? item.line = some item := by
  obtain ⟨first, more, priority, shown, tokens, column, noComment, name, value, display⟩ :=
    exists_of_ofLine?_eq_some read
  have all : ∀ w ∈ first :: more ++ item.domainRole :: priority :: item.uri :: shown, IsWord w :=
    fun w mem => isWord_of_mem_words (tokens ▸ mem)
  obtain ⟨nameWords, others⟩ := List.forall_mem_append.mp all
  obtain ⟨roleWord, others⟩ := List.forall_mem_cons.mp others
  obtain ⟨-, others⟩ := List.forall_mem_cons.mp others
  obtain ⟨uriWord, shownWords⟩ := List.forall_mem_cons.mp others
  obtain ⟨shown', joined, ne, ends⟩ : ∃ shown', item.displayName = joinWith " " shown' ∧
      shown' ≠ [] ∧ (shown' = shown ∨ shown = [] ∧ shown' = ["-".toList]) := by
    cases shown with
    | nil => exact ⟨["-".toList], display, by simp, .inr ⟨rfl, rfl⟩⟩
    | cons w ws => exact ⟨w :: ws, display, by simp, .inl rfl⟩
  have shownWords' : ∀ w ∈ shown', IsWord w := by
    rcases ends with rfl | ⟨-, rfl⟩
    · exact shownWords
    · exact List.forall_mem_singleton.mpr (by decide)
  have named : words item.name = first :: more := by
    rw [name]
    exact words_joinWith nameWords
  refine ⟨⟨priority, shown, by rw [named, tokens], value, ?_⟩, ?_⟩
  · rcases ends with rfl | ⟨rfl, rfl⟩
    · left
      rw [joined]
      exact words_joinWith shownWords
    · exact .inr ⟨rfl, joined⟩
  · have number : priority? (priorityText item.priority) = some item.priority := by
      rw [value]
      exact priority?_priorityText_getD priority
    have isNumber : isPriority (priorityText item.priority) := by rw [isPriority, number]; rfl
    have rest := List.forall_mem_cons.mpr ⟨isWord_priorityText item.priority,
      List.forall_mem_cons.mpr ⟨uriWord, shownWords'⟩⟩
    have all' := List.forall_mem_append.mpr ⟨nameWords, List.forall_mem_cons.mpr ⟨roleWord, rest⟩⟩
    rw [tokens] at column
    rw [line_eq name joined (by simp) ne,
      ofLine?_joinWith all' noComment ne (roleColumn?_rewritten column isNumber ends), number,
      Option.getD_some, ← name, ← joined]

/-- A line whose second word is taken for the role, with a number that is no priority. -/
theorem ofLine?_canonical_secondWord :
    let item : InventoryItem := ⟨"weird", "a:b", 0, "page.html", "-"⟩
    ofLine? "weird  a:b 99999999999 page.html" = some item ∧
    (∃ priority shown, words "weird  a:b 99999999999 page.html" =
        words item.name ++ item.domainRole :: priority :: item.uri :: shown ∧
      item.priority = (priority? priority).getD 0 ∧
      (words item.displayName = shown ∨ shown = [] ∧ item.displayName = "-")) ∧
    ofLine? item.line = some item := by
  have read : ofLine? "weird  a:b 99999999999 page.html" =
      some ⟨"weird", "a:b", 0, "page.html", "-"⟩ := by decide +kernel
  exact ⟨read, ofLine?_canonical read⟩

example : (ofLine? "neither +5 page.html title").map line = some "neither +5 0 title -" ∧
    (ofLine? "a b +5 page.html").map line = some "a b 5 page.html -" := by decide +kernel

end SymbolDocs.InventoryItem
