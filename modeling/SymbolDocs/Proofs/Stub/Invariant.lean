import SymbolDocs.Proofs.Stub.Head
import SymbolDocs.Proofs.Stub.Member

namespace SymbolDocs

open Text

/-- An overload begins with a line that defines the name, of which it may lack what stands behind
the name. -/
def IsKeptFrom (name line overload : Text) : Prop :=
  ∃ first behind, overload = first ++ behind ∧ first <+: trim line ∧
    (behind = [] ∨ behind.head? = some '\n') ∧ Signature.openedName? first = some name

theorem IsKeptFrom.openedName?_firstPart {name line overload : Text}
    (kept : IsKeptFrom name line overload) (whole : '\n' ∉ line) :
    Signature.openedName? (firstPart '\n' overload) = some name := by
  obtain ⟨first, behind, rfl, starts, ends, named⟩ := kept
  have none : '\n' ∉ first := fun mem =>
    whole ((List.dropWhile_suffix _).subset ((prefix_trimEnd _).subset (starts.subset mem)))
  have here : firstPart '\n' (first ++ behind) = first := by
    rcases ends with rfl | newline
    · rw [List.append_nil, firstPart_eq_self_iff.mpr none]
    · obtain ⟨rest, rfl⟩ := List.head?_eq_some_iff.mp newline
      rw [firstPart, takeWhile_append_cons (by simp)]
      exact firstPart_eq_self_iff.mpr none
  rw [here, named]

namespace StubQuery

theorem ofQualified_name (qualified : Text) :
    (ofQualified qualified).name = (lastSegment? qualified).getD [] := by
  have parts : (splitOn '.' qualified).filter (!·.isEmpty) = fields (· == '.') qualified := rfl
  rw [ofQualified, parts, lastSegment?]
  rcases List.eq_nil_or_concat (fields (· == '.') qualified) with none | ⟨before, last, eq⟩
  · rw [none]
    rfl
  · rw [eq, List.concat_eq_append, List.reverse_append, List.getLast?_concat]
    cases before.reverse <;> rfl

theorem lastSegment?_eq_some {qualified : Text} (ne : (ofQualified qualified).name ≠ []) :
    lastSegment? qualified = some (ofQualified qualified).name := by
  rw [ofQualified_name] at ne ⊢
  cases last : lastSegment? qualified with
  | none => exact absurd (by rw [last]; rfl) ne
  | some name => rfl

theorem undotted_name (qualified : Text) : '.' ∉ (ofQualified qualified).name := by
  rw [ofQualified_name]
  cases last : lastSegment? qualified with
  | none => exact List.not_mem_nil
  | some name =>
    exact fun dot => (mem_fields (List.mem_of_getLast? last)).2 '.' dot rfl

end StubQuery

namespace PendingHeader

/-- The collection has begun with a line that defines the name. -/
structure IsFrom (name line : Text) (c : PendingHeader) : Prop where
  indent : c.indent = indentWidth line
  first : c.lines.head? = some line
  named : Signature.openedName? (trim line) = some name

variable {name line : Text} {c : PendingHeader}

theorem IsFrom.push (isFrom : c.IsFrom name line) (next : Text) : (c.push next).IsFrom name line := by
  obtain ⟨indent, first, named⟩ := isFrom
  exact ⟨indent, by rw [PendingHeader.push, List.head?_append, first]; rfl, named⟩

theorem isFrom_push (named : Signature.openedName? (trim line) = some name) :
    (push { indent := indentWidth line } line).IsFrom name line := ⟨rfl, rfl, named⟩

theorem IsFrom.isKeptFrom (isFrom : c.IsFrom name line) (undotted : '.' ∉ name) :
    IsKeptFrom name line c.overload := by
  obtain ⟨indent, first, named⟩ := isFrom
  obtain ⟨more, lines⟩ := List.head?_eq_some_iff.mp first
  have firstShown : trimEnd (dropIndent c.indent line) = trim line := by
    rw [indent, dropIndent_indentWidth]
    rfl
  obtain ⟨behind, joined, ends⟩ : ∃ behind,
      joinWith "\n" (c.lines.map fun l => trimEnd (dropIndent c.indent l)) = trim line ++ behind ∧
        (behind = [] ∨ behind.head? = some '\n') := by
    rw [lines, List.map_cons, firstShown]
    by_cases last : more = []
    · exact ⟨[], by rw [last, List.append_nil]; exact joinWith_singleton _ _, .inl rfl⟩
    · rw [joinWith_cons _ _ (by simpa using last), List.append_assoc]
      exact ⟨_, rfl, .inr rfl⟩
  obtain ⟨head, isHead⟩ := Signature.exists_isHead named
  have stays : head <+: c.overload := by
    rw [overload, joined]
    exact isHead.stays_clean undotted (isHead.starts.trans (List.prefix_append _ _))
  have inside : c.overload <+: trim line ++ behind := by
    rw [overload, ← joined]
    exact Signature.prefix_clean _
  -- either the cleaned text ends in its first line, or that line is whole
  rcases List.prefix_or_prefix_of_prefix inside (List.prefix_append (trim line) behind) with
    short | ⟨rest, long⟩
  · exact ⟨c.overload, [], (List.append_nil _).symm, short, .inl rfl,
      isHead.names c.overload stays short⟩
  · refine ⟨trim line, rest, long.symm, List.prefix_rfl, ?_, named⟩
    rw [← long, List.prefix_append_right_inj] at inside
    rcases ends with rfl | newline
    · exact .inl (List.prefix_nil.mp inside)
    · cases rest with
      | nil => exact .inl rfl
      | cons d rest =>
        obtain ⟨after, rfl⟩ := List.head?_eq_some_iff.mp newline
        rw [(List.cons_prefix_cons.mp inside).1]
        exact .inr rfl

end PendingHeader

namespace StubScan

/-- The classes around are nested by their indentation, and what is collected or has been found
begins with one of the lines, which defines the name. -/
structure IsSound (name : Text) (fed : List Text) (st : StubScan) : Prop where
  target : st.target.name = name
  nested : st.classes.Pairwise fun inner outer => outer.2 < inner.2
  pending : ∀ c, st.collecting = some c → ∃ line ∈ fed, c.IsFrom name line
  named : ∀ overload ∈ st.overloads, ∃ line ∈ fed, IsKeptFrom name line overload

theorem lt_of_mem_outside {classes : List (Text × Nat)} {width : Nat}
    (nested : classes.Pairwise fun inner outer => outer.2 < inner.2) :
    ∀ around ∈ outside width classes, around.2 < width := by
  induction classes with
  | nil => exact fun _ mem => absurd mem List.not_mem_nil
  | cons inner classes ih =>
    obtain ⟨below, rest⟩ := List.pairwise_cons.mp nested
    by_cases le : width ≤ inner.2
    · rw [outside_cons_of_le le]
      exact ih rest
    · rw [outside_cons_of_lt (Nat.lt_of_not_le le)]
      intro around mem
      rcases List.mem_cons.mp mem with rfl | mem
      · exact Nat.lt_of_not_le le
      · exact Nat.lt_trans (below around mem) (Nat.lt_of_not_le le)

variable {name : Text} {fed : List Text} {st : StubScan}

namespace IsSound

theorem withClasses (sound : st.IsSound name fed) {classes : List (Text × Nat)}
    (nested : classes.Pairwise fun inner outer => outer.2 < inner.2) :
    IsSound name fed { st with classes } :=
  ⟨sound.target, nested, sound.pending, sound.named⟩

theorem closeHeader (sound : st.IsSound name fed) (undotted : '.' ∉ name) :
    st.closeHeader.IsSound name fed := by
  rw [StubScan.closeHeader]
  split
  · exact sound
  · next c collecting =>
    refine ⟨sound.target, sound.nested, fun c idle => absurd idle.symm (Option.some_ne_none c),
      fun overload mem => ?_⟩
    rcases List.mem_append.mp mem with found | new
    · exact sound.named overload found
    · obtain ⟨line, mem, isFrom⟩ := sound.pending c collecting
      rw [Option.mem_toList, nonEmpty?_eq_some_iff] at new
      exact ⟨line, mem, new.2 ▸ isFrom.isKeptFrom undotted⟩

theorem collect (sound : st.IsSound name fed) (undotted : '.' ∉ name) {c : PendingHeader}
    {line : Text} (started : ∃ first ∈ fed, (c.push line).IsFrom name first) :
    (st.collect c line).IsSound name fed := by
  have going : IsSound name fed { st with collecting := some (c.push line) } :=
    ⟨sound.target, sound.nested, fun _ same => Option.some.inj same ▸ started, sound.named⟩
  rw [StubScan.collect]
  split
  · exact going.closeHeader undotted
  · exact going

theorem classesBehind (sound : st.IsSound name fed) (line : Text) :
    (st.classesBehind line).Pairwise fun inner outer => outer.2 < inner.2 := by
  have nested := sound.nested.sublist (List.dropWhile_sublist fun c => indentWidth line ≤ c.2)
  rw [StubScan.classesBehind]
  split
  · exact List.pairwise_cons.mpr ⟨lt_of_mem_outside sound.nested, nested⟩
  · exact nested

theorem feedFresh (sound : st.IsSound name fed) (undotted : '.' ∉ name) {line : Text}
    (mem : line ∈ fed) : (st.feedFresh line).IsSound name fed := by
  by_cases passed : isBlank line ∨ startsWith (trim line) "#"
  · rwa [feedFresh_of_passed passed]
  · rw [not_or] at passed
    have around : (st.enclosing line).IsSound name fed :=
      sound.withClasses (sound.nested.sublist (List.dropWhile_sublist _))
    rw [feedFresh_of_visible passed.1 passed.2]
    refine withClasses ?_ (sound.classesBehind line)
    split
    · next sought =>
      rw [isSought, Bool.and_eq_true, beq_iff_eq, around.target] at sought
      exact around.collect undotted ⟨line, mem, PendingHeader.isFrom_push sought.1⟩
    · exact around

theorem feed (sound : st.IsSound name fed) (undotted : '.' ∉ name) {line : Text}
    (mem : line ∈ fed) : (st.feed line).IsSound name fed := by
  rw [StubScan.feed]
  split
  · exact sound.feedFresh undotted mem
  · next c collecting =>
    dsimp only
    split
    · exact sound
    · split
      · exact (sound.closeHeader undotted).feedFresh undotted mem
      · obtain ⟨first, inFed, isFrom⟩ := sound.pending c collecting
        exact sound.collect undotted ⟨first, inFed, isFrom.push line⟩

end IsSound

theorem isSound_foldl (undotted : '.' ∉ name) {lines : List Text} (inside : lines ⊆ fed)
    (sound : st.IsSound name fed) : (lines.foldl feed st).IsSound name fed := by
  induction lines generalizing st with
  | nil => exact sound
  | cons line lines ih =>
    rw [List.cons_subset] at inside
    exact ih inside.2 (sound.feed undotted inside.1)

theorem isSound_behind (qualified : Text) (fed : List Text) :
    (behind qualified fed).IsSound (StubQuery.ofQualified qualified).name fed :=
  isSound_foldl (StubQuery.undotted_name qualified) (List.Subset.refl fed)
    ⟨rfl, List.Pairwise.nil, fun c idle => absurd idle.symm (Option.some_ne_none c),
      fun _ none => absurd none List.not_mem_nil⟩

/-- Whatever lines are fed, the classes around the next one are indented ever deeper from the
outermost to the innermost, and every overload that is found begins with a line that defines the
last part of the name that is looked for. -/
theorem behind_keeps (qualified : Text) (fed : List Text) :
    (((behind qualified fed).classes.map (·.2)).reverse.Pairwise (· < ·)) ∧
    ∀ overload, (overload ∈ (behind qualified fed).overloads ∨
        ∃ info, (behind qualified fed).finish = some info ∧ overload ∈ info.overloads) →
      ∃ name, lastSegment? qualified = some name ∧
        (∃ line ∈ fed, IsKeptFrom name line overload) ∧
        ((∀ line ∈ fed, '\n' ∉ line) →
          Signature.openedName? (firstPart '\n' overload) = some name) := by
  have sound := isSound_behind qualified fed
  have closed := sound.closeHeader (StubQuery.undotted_name qualified)
  constructor
  · rw [List.pairwise_reverse, List.pairwise_map]
    exact sound.nested
  · intro overload stored
    obtain ⟨line, mem, kept⟩ : ∃ line ∈ fed,
        IsKeptFrom (StubQuery.ofQualified qualified).name line overload := by
      rcases stored with found | ⟨info, finished, found⟩
      · exact sound.named overload found
      · rw [overloads_of_finish finished] at found
        exact closed.named overload found
    refine ⟨_, ?_, ⟨line, mem, kept⟩, fun whole => kept.openedName?_firstPart (whole line mem)⟩
    obtain ⟨first, _, _, _, _, named⟩ := kept
    exact StubQuery.lastSegment?_eq_some (Signature.openedName?_ne_nil named)

/-- A header that is never closed, a comment that looks like an ending, and an odd indentation. -/
def strayLines : List Text :=
  ["class A:", "    def f(self,", "  y, # z", "    def f\t  # g: ...", "\u3000class B(C):",
   "  def f(x): ...", "class A(B,", "  C): # c", "  class D:"]

theorem behind_keeps_strayLines :
    (behind "m.A.f" strayLines).classes.map (·.2) = [2, 0] ∧
    (behind "m.A.f" strayLines).overloads =
      [("def f(self,\ny, # z" : Text), ("def f" : Text), ("def f(x)" : Text)] ∧
    ∀ overload ∈ (behind "m.A.f" strayLines).overloads,
      Signature.openedName? (firstPart '\n' overload) = some ("f" : Text) := by
  refine ⟨by decide +kernel, by decide +kernel, fun overload found => ?_⟩
  obtain ⟨name, last, -, first⟩ := (behind_keeps "m.A.f" strayLines).2 overload (.inl found)
  rw [first (by decide), ← last]
  decide

end StubScan
end SymbolDocs
