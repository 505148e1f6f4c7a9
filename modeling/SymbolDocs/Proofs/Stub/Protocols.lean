import SymbolDocs.Proofs.Text.Substitute
import SymbolDocs.Proofs.Text.WholeWords
import SymbolDocs.Stub.ProtocolHint

namespace SymbolDocs.ProtocolHint

open Text

/-- The names of the protocols, in the order of the table. -/
def protocols : List Text := table.map fun row => (row.1 : Text)

/-- The hint for a row of the table. -/
def shown (row : String × String) : Text := (row.1 : Text) ++ ':' :: ' ' :: (row.2 : Text)

theorem isWord_of_mem_protocols {name : Text} (mem : name ∈ protocols) :
    name ≠ [] ∧ ∀ c ∈ name, isWordChar c := by
  have all : ∀ name ∈ protocols, name ≠ [] ∧ name.all isWordChar := by decide +kernel
  exact ⟨(all name mem).1, List.all_eq_true.mp (all name mem).2⟩

theorem nodup_map_shown : (table.map shown).Nodup := by decide +kernel

section Reading

variable {prev : Option Char} {s name run rest : Text} {isWord : Bool}

/-- A protocol is read where its name is a word of its own. -/
theorem exists_of_nameAt?_eq_some (read : nameAt? prev s = some name) :
    name ∈ protocols ∧ isEdge prev ∧ ∃ behind, s = name ++ behind ∧ isEdge behind.head? := by
  rw [nameAt?] at read
  split at read
  · next starts =>
    obtain ⟨row, mem, found⟩ := List.exists_of_findSome?_eq_some read
    obtain ⟨behind, lead, ends⟩ := Option.bind_eq_some_iff.mp found
    split at ends
    · next edge =>
      obtain rfl := Option.some.inj ends
      exact ⟨List.mem_map_of_mem mem, starts, behind, after?_eq_some_iff.mp lead, edge⟩
    · cases ends
  · cases read

theorem nameAt?_eq_none (first : IsFirstRun isWord run rest) (other : run ∉ protocols)
    {lead part : Text} (split : run = lead ++ part) (ne : part ≠ []) (prev : Option Char) :
    nameAt? (lead.getLast?.or prev) (part ++ rest) = none := by
  rw [Option.eq_none_iff_forall_ne_some]
  intro name read
  obtain ⟨mem, starts, behind, eq, ends⟩ := exists_of_nameAt?_eq_some read
  obtain ⟨filled, all⟩ := isWord_of_mem_protocols mem
  exact other (first.eq_of_word split ne eq filled all starts ends ▸ mem)

theorem isWord_eq_true (first : IsFirstRun isWord run rest) (mem : run ∈ protocols) :
    isWord = true := by
  obtain ⟨filled, all⟩ := isWord_of_mem_protocols mem
  obtain ⟨c, more, rfl⟩ := List.exists_cons_of_ne_nil filled
  rw [← first.alike c List.mem_cons_self]
  exact all c List.mem_cons_self

theorem nameAt?_run (first : IsFirstRun isWord run rest) (mem : run ∈ protocols)
    (starts : isEdge prev) : nameAt? prev (run ++ rest) = some run := by
  obtain rfl := isWord_eq_true first mem
  cases read : nameAt? prev (run ++ rest) with
  | none =>
    obtain ⟨⟨name, hint⟩, inside, rfl⟩ := List.mem_map.mp mem
    rw [nameAt?, if_pos starts, List.findSome?_eq_none_iff] at read
    have here := read (name, hint) inside
    dsimp only at here
    rw [after?_append, Option.bind_some, if_pos first.isEdge_head?] at here
    cases here
  | some name =>
    -- the first row that is found is the one of the run
    obtain ⟨mem', _, behind, eq, ends⟩ := exists_of_nameAt?_eq_some read
    obtain ⟨filled, all⟩ := isWord_of_mem_protocols mem'
    have split : run = [] ++ run := rfl
    rw [first.eq_of_word split first.ne_nil eq filled all starts ends]

/-- What belongs to a protocol that has been found is passed over. -/
theorem namesFrom_length (lead rest : Text) (prev : Option Char) :
    namesFrom lead.length prev (lead ++ rest) = namesFrom 0 (lead.getLast?.or prev) rest := by
  induction lead generalizing prev with
  | nil => rfl
  | cons c lead ih => rw [List.cons_append, List.length_cons, namesFrom, ih, getLast?_cons_or]

theorem namesFrom_of_some (ne : run ≠ []) (read : nameAt? prev (run ++ rest) = some run) :
    namesFrom 0 prev (run ++ rest) = run :: namesFrom 0 run.getLast? rest := by
  obtain ⟨c, run, rfl⟩ := List.exists_cons_of_ne_nil ne
  have last : (c :: run).getLast? = run.getLast?.or (some c) := by
    rw [← getLast?_cons_or c run none, Option.or_none]
  rw [List.cons_append] at read ⊢
  simp only [namesFrom, read, List.length_cons, Nat.add_sub_cancel]
  rw [namesFrom_length, last]

theorem namesFrom_of_none {part : Text} (behind : Text)
    (none : ∀ lead rest, part = lead ++ rest → rest ≠ [] →
      nameAt? (lead.getLast?.or prev) (rest ++ behind) = none) :
    namesFrom 0 prev (part ++ behind) = namesFrom 0 (part.getLast?.or prev) behind := by
  induction part generalizing prev with
  | nil => rfl
  | cons c part ih =>
    have here : nameAt? prev (c :: (part ++ behind)) = .none :=
      none [] (c :: part) rfl (List.cons_ne_nil c part)
    have later := @ih (some c) fun lead rest eq ne => by
      have next := none (c :: lead) rest (by rw [eq, List.cons_append]) ne
      rwa [getLast?_cons_or] at next
    simp only [List.cons_append, namesFrom, here]
    rw [later, getLast?_cons_or]

end Reading

/-- The protocols that are found are the words of the text that name one. -/
theorem names_eq_filter (signature : Text) :
    names signature = (wholeWords signature).filter (protocols.contains ·) := by
  -- in front of a word stands no word character
  have anywhere : ∀ prev : Option Char,
      (∀ c, signature.head? = some c → isWordChar c → isEdge prev) →
        namesFrom 0 prev signature = (wholeWords signature).filter (protocols.contains ·) := by
    induction signature using run_induction with
    | nil => exact fun prev _ => rfl
    | run isWord run rest first ih =>
      intro prev starts
      have later := ih run.getLast? fun c head word => first.isEdge_getLast? head word
      by_cases mem : run ∈ protocols
      · obtain rfl := isWord_eq_true first mem
        have edge : isEdge prev := by
          obtain ⟨c, more, rfl⟩ := List.exists_cons_of_ne_nil first.ne_nil
          exact starts c rfl (first.alike c List.mem_cons_self)
        rw [namesFrom_of_some first.ne_nil (nameAt?_run first mem edge), later,
          first.wholeWords_append, List.filter_cons_of_pos (by simpa using mem)]
      · have passed : namesFrom 0 prev (run ++ rest) = namesFrom 0 (run.getLast?.or prev) rest :=
          namesFrom_of_none rest fun lead part split ne => nameAt?_eq_none first mem split ne prev
        obtain ⟨last, ends, -⟩ := first.exists_getLast?
        rw [passed, ends, Option.some_or, ← ends, later]
        cases isWord with
        | true => rw [first.wholeWords_append, List.filter_cons_of_neg (by simpa using mem)]
        | false => rw [first.wholeWords_append_other]
  exact anywhere none fun c head word => by decide

/-- The hints for a signature are those for the rows of the table whose protocol stands in it as a
word of its own, in the order of the table, and none of them comes twice. -/
theorem hints_eq_filter (signature : Text) :
    hints signature =
        (table.filter fun row => IsWholeWord (row.1 : Text) signature).map shown ∧
      (hints signature).Nodup := by
  have same : hints signature =
      (table.filter fun row => IsWholeWord (row.1 : Text) signature).map shown := by
    rw [hints]
    refine congrArg (List.map shown) (List.filter_congr fun row mem => ?_)
    have known : (row.1 : Text) ∈ protocols := List.mem_map_of_mem mem
    rw [names_eq_filter, Bool.eq_iff_iff, List.contains_iff_mem, List.mem_filter,
      mem_wholeWords_iff, decide_eq_true_iff]
    exact ⟨And.left, fun whole => ⟨whole, by simpa using known⟩⟩
  refine ⟨same, ?_⟩
  rw [same]
  exact nodup_map_shown.sublist (List.filter_sublist.map shown)

example : hints "def f(x: Iterable|Iterator, y: SupportsIndex_, z: Iterable) -> éSized" =
    ["Iterable: supports iteration".toList, "Iterator: is an iterator".toList] := by
  decide +kernel

end SymbolDocs.ProtocolHint
