import SymbolDocs.Proofs.Text.Cut
import SymbolDocs.Proofs.Text.Trim
import SymbolDocs.Stub.Scanner

namespace SymbolDocs

open Text

namespace Signature

/-- Where a scan stands behind a text, unless a comment has begun in it. -/
def quotingAfter : Quoting → Text → Option Quoting
  | q, [] => some q
  | .escaped q, _ :: s => quotingAfter (.quoted q) s
  | .quoted q, c :: s =>
    if c = '\\' then quotingAfter (.escaped q) s
    else if c = q then quotingAfter .code s
    else quotingAfter (.quoted q) s
  | .code, c :: s =>
    if c = '\'' ∨ c = '"' then quotingAfter (.quoted c) s
    else if c = '#' then none
    else quotingAfter .code s

/-- Text without a comment only sets the scan of what follows off. -/
theorem netBracketsFrom_append {q q' : Quoting} {s : Text} (ends : quotingAfter q s = some q')
    (depth : Int) (t : Text) :
    netBracketsFrom depth q (s ++ t) = netBracketsFrom (netBracketsFrom depth q s) q' t := by
  induction depth, q, s using netBracketsFrom.induct with
  | case1 depth q =>
    rw [quotingAfter, Option.some.injEq] at ends
    rw [ends]
    cases q' <;> rfl
  | case2 depth mark c s ih => exact ih ends
  | case3 depth mark s ih =>
    rw [quotingAfter, if_pos rfl] at ends
    simpa [netBracketsFrom] using ih ends
  | case4 depth mark s other ih =>
    rw [quotingAfter, if_neg other, if_pos rfl] at ends
    simpa [netBracketsFrom, other] using ih ends
  | case5 depth mark c s other goes ih =>
    rw [quotingAfter, if_neg other, if_neg goes] at ends
    simpa [netBracketsFrom, other, goes] using ih ends
  | case6 depth c s quote ih =>
    rw [quotingAfter, if_pos quote] at ends
    simpa [netBracketsFrom, quote] using ih ends
  | case7 depth s other =>
    rw [quotingAfter, if_neg other, if_pos rfl] at ends
    exact absurd ends (by simp)
  | case8 depth c s other goes opening ih =>
    rw [quotingAfter, if_neg other, if_neg goes] at ends
    simpa [netBracketsFrom, other, goes, opening] using ih ends
  | case9 depth c s other goes opening closing ih =>
    rw [quotingAfter, if_neg other, if_neg goes] at ends
    simpa [netBracketsFrom, other, goes, opening, closing] using ih ends
  | case10 depth c s other goes opening closing ih =>
    rw [quotingAfter, if_neg other, if_neg goes] at ends
    simpa [netBracketsFrom, other, goes, opening, closing] using ih ends

/-- One character either ends the scan or sets it off. -/
theorem netBracketsFrom_cons (depth : Int) (q : Quoting) (c : Char) :
    (∀ s, netBracketsFrom depth q (c :: s) = depth) ∨
      ∃ depth' q', ∀ s, netBracketsFrom depth q (c :: s) = netBracketsFrom depth' q' s := by
  cases q with
  | code =>
    by_cases quote : c = '\'' ∨ c = '"'
    · exact .inr ⟨depth, .quoted c, fun s => by simp [netBracketsFrom, quote]⟩
    · by_cases hash : c = '#'
      · exact .inl fun s => by simp [netBracketsFrom, hash]
      · by_cases opening : isOpening c
        · exact .inr ⟨depth + 1, .code, fun s => by simp [netBracketsFrom, quote, hash, opening]⟩
        · by_cases closing : isClosing c
          · exact .inr ⟨depth - 1, .code, fun s => by
              simp [netBracketsFrom, quote, hash, opening, closing]⟩
          · exact .inr ⟨depth, .code, fun s => by
              simp [netBracketsFrom, quote, hash, opening, closing]⟩
  | quoted mark =>
    by_cases backslash : c = '\\'
    · exact .inr ⟨depth, .escaped mark, fun s => by rw [netBracketsFrom, if_pos backslash]⟩
    · by_cases closes : c = mark
      · exact .inr ⟨depth, .code, fun s => by rw [netBracketsFrom, if_neg backslash, if_pos closes]⟩
      · exact .inr ⟨depth, .quoted mark, fun s => by
          rw [netBracketsFrom, if_neg backslash, if_neg closes]⟩
  | escaped mark => exact .inr ⟨depth, .quoted mark, fun _ => rfl⟩

theorem ne_of_isBlankChar {c d : Char} (blank : isBlankChar c) (seen : isBlankChar d = false) :
    c ≠ d := by
  rintro rfl
  exact absurd blank (by rw [seen]; decide)

theorem isCode_of_isBlankChar {c : Char} (blank : isBlankChar c) :
    ¬ (c = '\'' ∨ c = '"') ∧ c ≠ '#' := by
  refine ⟨?_, ne_of_isBlankChar blank (by decide)⟩
  rintro (eq | eq)
  · exact ne_of_isBlankChar blank (by decide) eq
  · exact ne_of_isBlankChar blank (by decide) eq

theorem netBracketsFrom_cons_of_isBlankChar {c : Char} (blank : isBlankChar c) (depth : Int)
    (s : Text) : netBracketsFrom depth .code (c :: s) = netBracketsFrom depth .code s := by
  obtain ⟨noQuote, noHash⟩ := isCode_of_isBlankChar blank
  have visible : ∀ d, isBlankChar d = false → c ≠ d := fun d => ne_of_isBlankChar blank
  have noOpening : isOpening c = false := by
    simp [isOpening, visible '(' (by decide), visible '[' (by decide), visible '\x7b' (by decide)]
  have noClosing : isClosing c = false := by
    simp [isClosing, visible ')' (by decide), visible ']' (by decide), visible '\x7d' (by decide)]
  simp [netBracketsFrom, noQuote, noHash, noOpening, noClosing]

theorem quotingAfter_of_plain {s : Text} (plain : '\'' ∉ s ∧ '"' ∉ s ∧ '#' ∉ s) :
    quotingAfter .code s = some .code := by
  induction s with
  | nil => rfl
  | cons c s ih =>
    simp only [List.mem_cons, not_or] at plain
    obtain ⟨⟨noApostrophe, tail⟩, ⟨noQuote, tail'⟩, ⟨noHash, tail''⟩⟩ := plain
    rw [quotingAfter, if_neg (not_or.mpr ⟨Ne.symm noApostrophe, Ne.symm noQuote⟩),
      if_neg (Ne.symm noHash)]
    exact ih ⟨tail, tail', tail''⟩

/-- A line that begins with a hash sign is a comment. -/
theorem quotingAfter_eq_none {s rest : Text} (begins : trimStart s = '#' :: rest) :
    quotingAfter .code s = none := by
  induction s with
  | nil => exact absurd begins (by simp [trimStart])
  | cons c s ih =>
    by_cases blank : isBlankChar c
    · obtain ⟨noQuote, noHash⟩ := isCode_of_isBlankChar blank
      rw [trimStart, List.dropWhile_cons_of_pos blank] at begins
      rw [quotingAfter, if_neg noQuote, if_neg noHash]
      exact ih begins
    · rw [trimStart, List.dropWhile_cons_of_neg blank] at begins
      obtain ⟨rfl, _⟩ := List.cons.inj begins
      simp [quotingAfter]

theorem netBracketsFrom_of_isBlank {s : Text} (blank : isBlank s) (depth : Int) (q : Quoting) :
    netBracketsFrom depth q s = depth := by
  induction s generalizing q with
  | nil => cases q <;> rfl
  | cons c s ih =>
    obtain ⟨first, rest⟩ : isBlankChar c ∧ isBlank s := by
      simpa [isBlank, List.all_cons] using blank
    cases q with
    | code => rw [netBracketsFrom_cons_of_isBlankChar first, ih rest]
    | quoted mark =>
      rw [netBracketsFrom, ih rest, ih rest, ih rest, ite_self, ite_self]
    | escaped mark => exact ih rest (.quoted mark)

theorem netBracketsFrom_append_of_isBlank (s : Text) {blank : Text} (h : isBlank blank)
    (depth : Int) (q : Quoting) :
    netBracketsFrom depth q (s ++ blank) = netBracketsFrom depth q s := by
  induction s generalizing depth q with
  | nil =>
    rw [List.nil_append, netBracketsFrom_of_isBlank h]
    cases q <;> rfl
  | cons c s ih =>
    rcases netBracketsFrom_cons depth q c with ends | ⟨depth', q', step⟩
    · rw [List.cons_append, ends, ends]
    · rw [List.cons_append, step, step, ih]

theorem netBrackets_trimStart (s : Text) : netBrackets (trimStart s) = netBrackets s := by
  induction s with
  | nil => rfl
  | cons c s ih =>
    by_cases blank : isBlankChar c
    · have step : netBrackets (c :: s) = netBrackets s :=
        netBracketsFrom_cons_of_isBlankChar blank 0 s
      rw [trimStart, List.dropWhile_cons_of_pos blank, step]
      exact ih
    · rw [trimStart, List.dropWhile_cons_of_neg blank]

theorem netBrackets_trim (s : Text) : netBrackets (trim s) = netBrackets s := by
  obtain ⟨blank, h, eq⟩ := exists_eq_trimEnd_append (trimStart s)
  rw [← netBrackets_trimStart s, eq, trim, netBrackets, netBrackets,
    netBracketsFrom_append_of_isBlank _ h]

theorem netBracketsFrom_comment {gap : Text} (blank : isBlank gap) (comment : Text) (depth : Int) :
    netBracketsFrom depth .code (gap ++ '#' :: comment) = depth := by
  induction gap with
  | nil => rfl
  | cons c gap ih =>
    obtain ⟨first, rest⟩ : isBlankChar c ∧ isBlank gap := by
      simpa [isBlank, List.all_cons] using blank
    rw [List.cons_append, netBracketsFrom_cons_of_isBlankChar first, ih rest]

end Signature

/-- White space, or white space and a comment. -/
def IsTrailer (s : Text) : Prop :=
  isBlank s ∨ ∃ gap comment, isBlank gap ∧ s = gap ++ '#' :: comment

theorem isTrailer_nil : IsTrailer [] := .inl rfl

/-- Nothing visible, or a comment that is set off by two spaces. -/
def IsSetOff (s : Text) : Prop :=
  isBlank s ∨ ∃ gap comment, isBlank gap ∧ s = gap ++ ("  #" ++ comment)

/-- A line of code and what stands behind it. -/
structure CodeLine where
  code : Text
  trailer : Text
  complete : Signature.quotingAfter .code code = some .code
  trails : IsTrailer trailer

namespace CodeLine

def text (line : CodeLine) : Text := line.code ++ line.trailer

/-- A line without quotes and hash signs, and with nothing behind its code. -/
def bare (code : Text) (plain : '\'' ∉ code ∧ '"' ∉ code ∧ '#' ∉ code) : CodeLine where
  code := code
  trailer := []
  complete := Signature.quotingAfter_of_plain plain
  trails := isTrailer_nil

theorem not_isBlank_text (line : CodeLine) (visible : ¬ isBlank line.code) :
    ¬ isBlank line.text := by
  rw [isBlank] at visible
  rw [text, isBlank, List.all_append]
  simp [visible]

/-- What stands behind the code does not count for the nesting. -/
theorem netBrackets_trim_text (line : CodeLine) :
    Signature.netBrackets (trim line.text) = Signature.netBrackets line.code := by
  rw [Signature.netBrackets_trim, text, Signature.netBrackets,
    Signature.netBracketsFrom_append line.complete]
  rcases line.trails with blank | ⟨gap, comment, blank, eq⟩
  · exact Signature.netBracketsFrom_of_isBlank blank _ _
  · rw [eq]
    exact Signature.netBracketsFrom_comment blank comment _

theorem not_startsWith_hash {line : CodeLine} (visible : ¬ isBlank line.code) :
    ¬ startsWith (trim line.text) "#" := by
  intro comment
  obtain ⟨rest, found⟩ := Option.isSome_iff_exists.mp comment
  have begins : trim line.text = '#' :: rest := after?_eq_some_iff.mp found
  obtain ⟨c, tail, starts, seen⟩ := exists_trimStart_eq_cons visible
  rw [trim, text, trimStart_append visible, starts, List.cons_append, trimEnd_cons seen] at begins
  rw [(List.cons.inj begins).1] at starts
  exact absurd line.complete (by simp [Signature.quotingAfter_eq_none starts])

/-- By how much the code of some lines nests deeper. -/
def nesting : List CodeLine → Int
  | [] => 0
  | line :: rest => Signature.netBrackets line.code + nesting rest

theorem nesting_append (lines more : List CodeLine) :
    nesting (lines ++ more) = nesting lines + nesting more := by
  induction lines with
  | nil => exact (Int.zero_add _).symm
  | cons line lines ih => rw [List.cons_append, nesting, nesting, ih, Int.add_assoc]

theorem nesting_singleton (line : CodeLine) :
    nesting [line] = Signature.netBrackets (trim line.text) := by
  rw [line.netBrackets_trim_text]
  exact Int.add_zero _

/-- Whether none of the lines ends a header that has nested to `depth` before them. -/
def stayOpen (depth : Int) : List CodeLine → Bool
  | [] => true
  | line :: rest =>
    let depth := depth + Signature.netBrackets line.code
    (0 < depth || !Signature.closesHeader (trim line.text)) && stayOpen depth rest

/-- The lines of a text that a header keeps. -/
def visible (lines : List CodeLine) : List Text := (lines.map text).filter (!isBlank ·)

theorem visible_cons (line : CodeLine) (lines : List CodeLine) :
    visible (line :: lines) = visible [line] ++ visible lines := by
  rw [visible, visible, visible, ← List.filter_append, ← List.map_append]
  rfl

theorem visible_cons_of_not_isBlank {line : CodeLine} (seen : ¬ isBlank line.text)
    (lines : List CodeLine) : visible (line :: lines) = line.text :: visible lines := by
  rw [visible_cons]
  simp [visible, seen]

end CodeLine

namespace Signature

theorem exists_trimEnd_comment (comment : Text) :
    ∃ rest, trimEnd (("  #" : Text) ++ comment) = ("  #" : Text) ++ rest := by
  by_cases blank : isBlank comment
  · exact ⟨[], trimEnd_append_of_isBlank _ blank⟩
  · exact ⟨trimEnd comment, trimEnd_append _ blank⟩

/-- A comment that is set off by two spaces is seen where it begins. -/
theorem withoutComment_trimEnd {s trailer : Text} (whole : trimEnd s = s)
    (absent : ¬ ("  #" : Text) <:+: s) (setOff : IsSetOff trailer) :
    withoutComment (trimEnd (s ++ trailer)) = s := by
  rcases setOff with blank | ⟨gap, comment, blank, rfl⟩
  · rw [trimEnd_append_of_isBlank s blank, whole, withoutComment, cutAt?_eq_none_iff.mpr absent]
    exact whole
  · obtain ⟨rest, trimmed⟩ := exists_trimEnd_comment comment
    have visible : ¬ isBlank (("  #" : Text) ++ comment) := by simp [isBlank, isBlankChar]
    have avoids : '#' ∉ gap ++ [' ', ' '] := by
      intro mem
      rcases List.mem_append.mp mem with inGap | inSpaces
      · exact absurd (List.all_eq_true.mp blank '#' inGap) (by decide)
      · exact absurd inSpaces (by decide)
    have cut : cutAt? "  #" (s ++ (gap ++ (("  #" : Text) ++ rest))) = some (s ++ gap, rest) :=
      cutAt?_append_gap absent avoids rest
    rw [← List.append_assoc, trimEnd_append _ visible, trimmed, List.append_assoc, withoutComment,
      cut]
    exact (trimEnd_append_of_isBlank s blank).trans whole

/-- A name is read behind one of the words that begin a definition. -/
theorem exists_eq_of_openedName? {line name : Text} (named : openedName? line = some name) :
    (∃ rest, line = ("async def " : Text) ++ rest) ∨ (∃ rest, line = ("def " : Text) ++ rest) ∨
      ∃ rest, line = ("class " : Text) ++ rest := by
  rcases Option.or_eq_some_iff.mp named with function | ⟨_, type⟩
  · obtain ⟨rest, found, _⟩ := Option.bind_eq_some_iff.mp function
    rcases Option.or_eq_some_iff.mp found with async | ⟨_, plain⟩
    · exact .inl ⟨rest, after?_eq_some_iff.mp async⟩
    · exact .inr (.inl ⟨rest, after?_eq_some_iff.mp plain⟩)
  · obtain ⟨rest, found, _⟩ := Option.bind_eq_some_iff.mp type
    exact .inr (.inr ⟨rest, after?_eq_some_iff.mp found⟩)

/-- A line that names a definition begins one, and not with a hash sign. -/
theorem begins_of_openedName? {line name : Text} (named : openedName? line = some name) :
    isDefinitionLine line ∧ ∃ c rest, line = c :: rest ∧ c ∈ ['a', 'c', 'd'] := by
  have begins (lead rest : Text) : startsWith (lead ++ rest) lead :=
    startsWith_iff_prefix.mpr (List.prefix_append lead rest)
  rw [isDefinitionLine]
  rcases exists_eq_of_openedName? named with ⟨rest, rfl⟩ | ⟨rest, rfl⟩ | ⟨rest, rfl⟩
  · rw [begins "async def " rest]
    exact ⟨by simp, 'a', _, rfl, by decide⟩
  · rw [begins "def " rest]
    exact ⟨by simp, 'd', _, rfl, by decide⟩
  · rw [begins "class " rest]
    exact ⟨by simp, 'c', _, rfl, by decide⟩

theorem exists_dropEnding_eq_cons {ending : Text} {c : Char} (seen : ¬ isBlankChar c)
    (absent : c ∉ ending) (s : Text) : ∃ t, dropEnding ending (c :: s) = c :: t := by
  rw [dropEnding]
  cases found : before? ending (c :: s) with
  | none => exact ⟨s, rfl⟩
  | some lead =>
    have eq := before?_eq_some_iff.mp found
    cases lead with
    | nil =>
      rw [List.nil_append] at eq
      exact absurd (eq ▸ List.mem_cons_self) absent
    | cons d lead =>
      have same : c = d := (List.cons.inj eq).1
      exact ⟨trimEnd lead, by rw [Option.map_some, Option.getD_some, ← same, trimEnd_cons seen]⟩

end Signature
end SymbolDocs
