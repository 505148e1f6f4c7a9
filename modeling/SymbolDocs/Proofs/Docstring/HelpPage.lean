import SymbolDocs.Docstring.HelpPage
import SymbolDocs.Proofs.Docstring.References

namespace SymbolDocs.HelpPage

open Text Reference

theorem startsWithIgnoreCase_iff {s lead : Text} :
    startsWithIgnoreCase s lead ↔ asciiLower lead <+: asciiLower s := by
  have size : (asciiLower lead).length = lead.length := List.length_map _
  rw [startsWithIgnoreCase, eqIgnoreCase, beq_iff_eq, List.prefix_iff_eq_take, size, asciiLower,
    asciiLower, asciiLower, List.map_take, eq_comm]

/-- Only the first of joined lines tells how they start. -/
theorem startsWithIgnoreCase_joinWith (first : Text) (more : List Text) {lead : Text}
    (whole : ' ' ∉ asciiLower lead) :
    startsWithIgnoreCase (joinWith " " (first :: more)) lead = startsWithIgnoreCase first lead := by
  by_cases alone : more = []
  · rw [alone, joinWith_singleton]
  · have lower : asciiLower (first ++ (" " : Text) ++ joinWith " " more) =
        asciiLower first ++ ' ' :: asciiLower (joinWith " " more) := by
      simp [asciiLower]
    rw [joinWith_cons _ first alone, Bool.eq_iff_iff, startsWithIgnoreCase_iff,
      startsWithIgnoreCase_iff, lower]
    constructor
    · rintro ⟨rest, eq⟩
      rcases List.append_eq_append_iff.mp eq with ⟨tail, whole', _⟩ | ⟨tail, cut, behind⟩
      · exact ⟨tail, whole'.symm⟩
      · have none : ' ' ∉ tail := fun mem => whole (cut ▸ List.mem_append_right _ mem)
        rw [cut, eq_nil_of_prefix_cons none ⟨rest, behind.symm⟩, List.append_nil]
    · exact fun starts => starts.trans (List.prefix_append _ _)

/-- A paragraph that is set apart from the others. -/
def isNote (text : Text) : Bool := startsWithIgnoreCase text "note:"

namespace Block

/-- The words of a block that stand on the page. -/
def ownWords : Block → List Text
  | heading title => words title
  | prose text => words text
  | quote text => words text
  | code lines => lines.flatMap words

/-- The mark that is shown in front of a block. -/
def openingMark : Block → List Text
  | heading _ => ["###"]
  | prose _ => []
  | quote _ => [">"]
  | code lines => [if lines.any (occursIn "::=") then "```" else "```python"]

def closingMark : Block → List Text
  | code _ => ["```"]
  | _ => []

def shownWords (b : Block) : List Text := b.openingMark ++ b.ownWords ++ b.closingMark

theorem words_fenced {mark : Text} (word : IsWord mark) (lines : List Text) :
    words (mark ++ ['\n'] ++ joinWith "\n" lines ++ ("\n```" : Text)) =
      mark :: lines.flatMap words ++ [("```" : Text)] := by
  have fence : ("\n```" : Text) = ['\n'] ++ ("```" : Text) := rfl
  have last : words ("```" : Text) = [("```" : Text)] := words_of_isWord (by decide)
  rw [fence, ← List.append_assoc, words_append_gap (by decide) (by decide),
    words_append_gap (by decide) (by decide), words_of_isWord word, last,
    words_joinWith_eq_flatMap (by decide) (by decide), List.singleton_append]

theorem words_render (b : Block) : words b.render = b.shownWords := by
  cases b with
  | heading title =>
    have marked := words_append_space (show IsWord "###" by decide) title
    exact marked.trans (List.append_nil _).symm
  | prose text => exact (List.append_nil _).symm
  | quote text =>
    have marked := words_append_space (show IsWord ">" by decide) text
    exact marked.trans (List.append_nil _).symm
  | code lines =>
    rw [render, shownWords, openingMark]
    split
    · exact words_fenced (show IsWord "```" by decide) lines
    · exact words_fenced (show IsWord "```python" by decide) lines

/-- A block of the body of a page. The notes, and only they, are quoted. -/
def IsOfBody : Block → Prop
  | heading _ => False
  | prose text => ¬ isNote text
  | quote text => isNote text
  | code lines => lines ≠ []

end Block

namespace Reading

variable {r : Reading} {ws : List Text}

/-- A page of whose body the words `ws` have been read. They stand in the blocks, in the paragraph
and in the code, of which only one is open at a time. -/
structure HasRead (r : Reading) (ws : List Text) : Prop where
  part : r.part = .body
  blocks : ∀ b ∈ r.blocks, b.IsOfBody
  apart : r.code.isSome → r.paragraph = []
  free : ∀ text ∈ r.paragraph, IsLinkFree text
  quote : r.isQuote = r.paragraph.head?.any isNote
  visible : ∀ run, r.code = some run → ∃ line ∈ run.lines, ¬ isBlank line
  words : r.blocks.flatMap Block.ownWords ++ r.paragraph.flatMap words ++
    r.code.toList.flatMap (fun run => run.lines.flatMap Text.words) = ws

theorem hasRead_nil : HasRead {} [] where
  part := rfl
  blocks := nofun
  apart := nofun
  free := nofun
  quote := rfl
  visible := nofun
  words := rfl

/-- What the open paragraph becomes. -/
def paragraphBlock (r : Reading) : Block :=
  if r.isQuote then .quote (joinWith " " r.paragraph) else .prose (joinWith " " r.paragraph)

theorem ownWords_paragraphBlock (r : Reading) :
    r.paragraphBlock.ownWords = r.paragraph.flatMap words := by
  have joined : words (joinWith " " r.paragraph) = r.paragraph.flatMap words :=
    words_joinWith_eq_flatMap (by decide) (by decide) r.paragraph
  rw [paragraphBlock]
  split
  · exact joined
  · exact joined

theorem HasRead.isOfBody_paragraphBlock (read : r.HasRead ws) (ne : r.paragraph ≠ []) :
    r.paragraphBlock.IsOfBody := by
  obtain ⟨first, more, eq⟩ := List.exists_cons_of_ne_nil ne
  have note : isNote (joinWith " " r.paragraph) = r.isQuote := by
    rw [read.quote, eq]
    exact startsWithIgnoreCase_joinWith first more (by decide)
  rw [paragraphBlock]
  split
  · next quoted => exact note.trans quoted
  · next plain => exact fun starts => plain (note.symm.trans starts)

theorem HasRead.closeParagraph_eq (read : r.HasRead ws) (ne : r.paragraph ≠ []) :
    r.closeParagraph =
      { r with blocks := r.blocks ++ [r.paragraphBlock], paragraph := [], isQuote := false } := by
  rw [closeParagraph, if_neg (by rwa [List.isEmpty_iff]),
    toMarkdown_of_isLinkFree (isLinkFree_joinWith read.free)]
  rfl

theorem HasRead.closeParagraph (read : r.HasRead ws) : r.closeParagraph.HasRead ws := by
  by_cases ne : r.paragraph = []
  · rwa [Reading.closeParagraph, if_pos (by rwa [List.isEmpty_iff])]
  · rw [read.closeParagraph_eq ne]
    exact {
      part := read.part
      blocks := fun b mem => (List.mem_append.mp mem).elim (read.blocks b) fun last =>
        List.mem_singleton.mp last ▸ read.isOfBody_paragraphBlock ne
      apart := fun _ => rfl
      free := nofun
      quote := rfl
      visible := read.visible
      words := by
        rw [← read.words, List.flatMap_append, List.flatMap_singleton, ownWords_paragraphBlock]
        simp }

@[simp]
theorem paragraph_closeParagraph (r : Reading) : r.closeParagraph.paragraph = [] := by
  rw [Reading.closeParagraph]
  split
  · next empty => exact List.isEmpty_iff.mp empty
  · rfl

@[simp]
theorem code_closeParagraph (r : Reading) : r.closeParagraph.code = r.code := by
  rw [Reading.closeParagraph]
  split
  · rfl
  · rfl

/-- Lines of code that are added are the last words that have been read. -/
theorem HasRead.setCode {added : List Text} {run : CodeRun} (read : r.HasRead ws)
    (idle : r.paragraph = []) (visible : ∃ line ∈ run.lines, ¬ isBlank line)
    (lines : run.lines.flatMap Text.words =
      r.code.toList.flatMap (fun run => run.lines.flatMap Text.words) ++ added) :
    HasRead { r with code := some run } (ws ++ added) where
  part := read.part
  blocks := read.blocks
  apart := fun _ => idle
  free := read.free
  quote := read.quote
  visible := by
    rintro _ ⟨⟩
    exact visible
  words := by
    rw [← read.words, Option.toList_some, List.flatMap_singleton, lines]
    simp only [List.append_assoc]

theorem HasRead.addText {text : Text} (read : r.HasRead ws) (none : r.code = .none)
    (free : IsLinkFree text) {isQuote : Bool}
    (quote : isQuote = (r.paragraph ++ [text]).head?.any isNote) :
    HasRead { r with isQuote, paragraph := r.paragraph ++ [text] } (ws ++ Text.words text) where
  part := read.part
  blocks := read.blocks
  apart := by
    rw [none]
    exact nofun
  free := fun t mem => (List.mem_append.mp mem).elim (read.free t) fun last =>
    List.mem_singleton.mp last ▸ free
  quote := quote
  visible := read.visible
  words := by
    rw [← read.words, none, List.flatMap_append, List.flatMap_singleton]
    simp

/-- The lines that are shown of a run of code. -/
def shownLines (run : CodeRun) : List Text :=
  ((run.lines.map (dropIndent run.indent)).reverse.dropWhile isBlank).reverse

theorem exists_eq_shownLines_append (run : CodeRun) :
    ∃ ending, (∀ line ∈ ending, isBlank line) ∧
      run.lines.map (dropIndent run.indent) = shownLines run ++ ending :=
  exists_eq_dropEnd_append isBlank _

theorem flatMap_words_shownLines (run : CodeRun) :
    (shownLines run).flatMap words = run.lines.flatMap words := by
  obtain ⟨ending, blank, whole⟩ := exists_eq_shownLines_append run
  have none : ending.flatMap words = [] :=
    List.flatMap_eq_nil_iff.mpr fun line mem => words_of_isBlank (blank line mem)
  calc
    (shownLines run).flatMap words = (shownLines run ++ ending).flatMap words := by
      rw [List.flatMap_append, none, List.append_nil]
    _ = run.lines.flatMap fun line => words (dropIndent run.indent line) := by
      rw [← whole, List.flatMap_map]
    _ = run.lines.flatMap words := by simp only [words_dropIndent]

theorem shownLines_ne_nil {run : CodeRun} (visible : ∃ line ∈ run.lines, ¬ isBlank line) :
    shownLines run ≠ [] := by
  obtain ⟨ending, blank, whole⟩ := exists_eq_shownLines_append run
  obtain ⟨line, mem, seen⟩ := visible
  intro empty
  rw [empty, List.nil_append] at whole
  have moved : dropIndent run.indent line ∈ ending := whole ▸ List.mem_map_of_mem mem
  exact not_isBlank_dropIndent seen run.indent (blank _ moved)

theorem HasRead.closeCode (read : r.HasRead ws) : r.closeCode.HasRead ws := by
  cases code : r.code with
  | none => rwa [Reading.closeCode, code]
  | some run =>
    have idle := read.apart (by rw [code]; rfl)
    have left := shownLines_ne_nil (read.visible run code)
    have closed : r.closeCode =
        { r with code := none, blocks := r.blocks ++ [.code (shownLines run)] } := by
      rw [Reading.closeCode, code]
      have some : ¬ (shownLines run).isEmpty := by rwa [List.isEmpty_iff]
      exact congrArg (fun blocks => { r with code := none, blocks }) (if_neg some)
    rw [closed]
    exact {
      part := read.part
      blocks := fun b mem => (List.mem_append.mp mem).elim (read.blocks b) fun last =>
        List.mem_singleton.mp last ▸ left
      apart := nofun
      free := read.free
      quote := read.quote
      visible := nofun
      words := by
        have own : (Block.code (shownLines run)).ownWords = run.lines.flatMap Text.words :=
          flatMap_words_shownLines run
        rw [← read.words, code, idle, List.flatMap_append, List.flatMap_singleton, own]
        simp }

@[simp]
theorem paragraph_closeCode (r : Reading) : r.closeCode.paragraph = r.paragraph := by
  rw [Reading.closeCode]
  split
  · rfl
  · rfl

@[simp]
theorem code_closeCode (r : Reading) : r.closeCode.code = none := by
  rw [Reading.closeCode]
  split
  · next none => exact none
  · rfl

/-- A line that belongs to no code that is open. -/
def addFreshLine (r : Reading) (relative : Nat) (line : Text) : Reading :=
  let text := trim line
  if text.isEmpty then r.closeParagraph
  else if occursIn "::=" text || text.startsWith ">>>" || codeDepth ≤ relative then
    { r.closeParagraph with code := some ⟨indentWidth line, text.startsWith ">>>", [line]⟩ }
  else
    let r := if isNote text then { r.closeParagraph with isQuote := true } else r
    { r with paragraph := r.paragraph ++ [text] }

theorem HasRead.addFreshLine {line : Text} (read : r.HasRead ws) (none : r.code = .none)
    (free : IsLinkFree line) (relative : Nat) :
    (r.addFreshLine relative line).HasRead (ws ++ Text.words line) := by
  have trimmed : IsLinkFree (trim line) := free.of_words (words_trim line ▸ List.Subset.refl _)
  have closed := read.closeParagraph
  rw [Reading.addFreshLine]
  split
  · next empty =>
    have blank := trim_eq_nil_iff.mp (List.isEmpty_iff.mp empty)
    rwa [words_of_isBlank blank, List.append_nil]
  · next filled =>
    split
    · have visible : ¬ isBlank line := by rwa [← trim_eq_nil_iff, ← List.isEmpty_iff]
      refine closed.setCode (paragraph_closeParagraph r) ⟨line, by simp, visible⟩ ?_
      rw [code_closeParagraph, none, List.flatMap_singleton]
      rfl
    · rw [← words_trim line]
      split
      · next note =>
        have idle := paragraph_closeParagraph r
        exact closed.addText (by rwa [code_closeParagraph]) trimmed
          (by rw [idle]; exact note.symm)
      · next other =>
        refine read.addText none trimmed ?_
        rw [read.quote]
        cases eq : r.paragraph with
        | nil => exact (Bool.eq_false_iff.mpr other).symm
        | cons first more => rfl

/-- Whether a line that is not blank belongs to the code that is open. -/
def continues (run : CodeRun) (relative : Nat) (line : Text) : Bool :=
  let text := trim line
  run.isTranscript || text.startsWith ">>>" || occursIn "::=" text || text.startsWith "..." ||
    codeDepth ≤ relative

theorem addBodyLine_of_none (none : r.code = .none) (relative : Nat) (line : Text) :
    r.addBodyLine relative line = r.addFreshLine relative line := by
  rw [addBodyLine, none]
  rfl

theorem addBodyLine_of_some {run : CodeRun} (code : r.code = some run) (relative : Nat)
    (line : Text) :
    r.addBodyLine relative line =
      if (trim line).isEmpty then
        if run.isTranscript then r.closeCode
        else { r with code := some { run with lines := run.lines ++ [[]] } }
      else if continues run relative line then
        { r with code := some { run with
            isTranscript := run.isTranscript || (trim line).startsWith ">>>"
            lines := run.lines ++ [line] } }
      else r.closeCode.addFreshLine relative line := by
  rw [addBodyLine, code]
  rfl

theorem HasRead.addBodyLine {line : Text} (read : r.HasRead ws) (free : IsLinkFree line)
    (relative : Nat) : (r.addBodyLine relative line).HasRead (ws ++ Text.words line) := by
  cases code : r.code with
  | none =>
    rw [addBodyLine_of_none code]
    exact read.addFreshLine code free relative
  | some run =>
    have idle := read.apart (by rw [code]; rfl)
    obtain ⟨first, mem, seen⟩ := read.visible run code
    have grown : ∀ last, (run.lines ++ [last]).flatMap Text.words =
        r.code.toList.flatMap (fun run => run.lines.flatMap Text.words) ++ Text.words last := by
      intro last
      rw [code, Option.toList_some, List.flatMap_singleton, List.flatMap_append,
        List.flatMap_singleton]
    rw [addBodyLine_of_some code]
    split
    · next empty =>
      have blank := trim_eq_nil_iff.mp (List.isEmpty_iff.mp empty)
      split
      · rw [words_of_isBlank blank, List.append_nil]
        exact read.closeCode
      · have same : Text.words line = Text.words [] := words_of_isBlank blank
        rw [same]
        exact read.setCode idle ⟨first, List.mem_append_left _ mem, seen⟩ (grown [])
    · split
      · exact read.setCode idle ⟨first, List.mem_append_left _ mem, seen⟩ (grown line)
      · exact read.closeCode.addFreshLine (code_closeCode r) free relative

end Reading

/-- Whether a line starts another part of the page. -/
def startsPart (line : Text) : Bool :=
  let text := trim line
  startsWithIgnoreCase text "see also:" || eqIgnoreCase text "examples:" ||
    eqIgnoreCase text "example:" || startsWithIgnoreCase text footerTitle

namespace Reading

variable {r : Reading} {ws : List Text} {line : Text} {lines : List Text}

theorem addLine_of_not_startsPart (body : r.part = .body) (stays : ¬ startsPart line)
    (baseline : Nat) :
    r.addLine baseline line = r.addBodyLine (indentWidth line - baseline) line := by
  simp only [startsPart, Bool.or_eq_true, not_or] at stays
  obtain ⟨⟨⟨noTopics, noExamples⟩, noExample⟩, _⟩ := stays
  have none : ¬ (eqIgnoreCase (trim line) "examples:" || eqIgnoreCase (trim line) "example:") := by
    rw [Bool.or_eq_true]
    exact not_or.mpr ⟨noExamples, noExample⟩
  rw [addLine, if_neg noTopics, if_neg none, body]

/-- Without titles the lines are read one by one. -/
theorem addLines_eq_foldl (noTitle : lines.IsChain fun line next => ¬ isSectionTitle line next)
    (baseline : Nat) (r : Reading) :
    r.addLines baseline lines = lines.foldl (addLine baseline) r := by
  induction lines generalizing r with
  | nil => rfl
  | cons line lines ih =>
    cases lines with
    | nil => rfl
    | cons next rest =>
      obtain ⟨plain, more⟩ := List.isChain_cons_cons.mp noTitle
      rw [addLines, if_neg plain, List.foldl_cons]
      exact ih more _

theorem HasRead.foldl_addLine (read : r.HasRead ws) (stays : ∀ line ∈ lines, ¬ startsPart line)
    (free : ∀ line ∈ lines, IsLinkFree line) (baseline : Nat) :
    (lines.foldl (addLine baseline) r).HasRead (ws ++ lines.flatMap Text.words) := by
  induction lines generalizing r ws with
  | nil => rwa [List.flatMap_nil, List.append_nil]
  | cons line lines ih =>
    have next := read.addBodyLine (free line List.mem_cons_self) (indentWidth line - baseline)
    rw [← addLine_of_not_startsPart read.part (stays line List.mem_cons_self)] at next
    rw [List.flatMap_cons, ← List.append_assoc]
    exact ih next (fun l mem => stays l (List.mem_cons_of_mem line mem))
      fun l mem => free l (List.mem_cons_of_mem line mem)

/-- At the end of the page all that has been read stands in the blocks. -/
theorem HasRead.flatMap_ownWords (read : r.HasRead ws) :
    (∀ b ∈ (r.enter .body).blocks, b.IsOfBody) ∧
      (r.enter .body).blocks.flatMap Block.ownWords = ws := by
  have closed := read.closeParagraph.closeCode
  have same : (r.enter .body).blocks = r.closeParagraph.closeCode.blocks := by
    rw [enter, closeExamples, closed.part]
    rfl
  have all := closed.words
  rw [paragraph_closeCode, paragraph_closeParagraph, code_closeCode, List.flatMap_nil,
    List.append_nil, Option.toList_none, List.flatMap_nil, List.append_nil] at all
  rw [same]
  exact ⟨closed.blocks, all⟩

end Reading

theorem cutFooter_eq_self {lines : List Text}
    (none : ∀ line ∈ lines, ¬ startsWithIgnoreCase (trim line) footerTitle) :
    cutFooter lines = (lines, .none) := by
  have all : ∀ line ∈ lines.reverse, !startsWithIgnoreCase (trim line) footerTitle := by
    intro line mem
    simpa using none line (List.mem_reverse.mp mem)
  have whole := span_append all [] nofun
  rw [List.append_nil] at whole
  rw [cutFooter, whole]

/-- The blocks of a page, in order. -/
def blocks (s : Text) : List Block :=
  let lines := (cutFooter (plainLines s)).1
  ((Reading.addLines (margin lines) {} lines).enter .body).blocks

/-- The description has the words of the shown blocks, each with its marks. -/
theorem words_description (s : Text) :
    words ((parse s).description.getD []) = (shownBlocks (blocks s)).flatMap Block.shownWords := by
  have shown : (parse s).description =
      nonEmpty? (joinWith "\n\n" ((shownBlocks (blocks s)).map Block.render)) := by
    rw [parse, blocks]
  have text : ∀ t : Text, (nonEmpty? t).getD [] = t := by
    intro t
    cases t with
    | nil => rfl
    | cons c t => rfl
  rw [shown, text, words_joinWith_eq_flatMap (by decide) (by decide), List.flatMap_map]
  simp only [Block.words_render]

/-- A page that is all body, without titles and without anything that becomes a link. -/
structure IsPlainPage (s : Text) : Prop where
  free : IsLinkFree s
  noTitle : (plainLines s).IsChain fun line next => ¬ isSectionTitle line next
  noPart : ∀ line ∈ plainLines s, ¬ startsPart line

instance (s : Text) : Decidable (IsPlainPage s) :=
  decidable_of_iff (IsLinkFree s ∧
      (plainLines s).IsChain (fun line next => ¬ isSectionTitle line next) ∧
      ∀ line ∈ plainLines s, ¬ startsPart line)
    ⟨fun ⟨free, noTitle, noPart⟩ => ⟨free, noTitle, noPart⟩,
      fun plain => ⟨plain.free, plain.noTitle, plain.noPart⟩⟩

theorem IsPlainPage.isLinkFree_of_mem {s line : Text} (plain : IsPlainPage s)
    (mem : line ∈ plainLines s) : IsLinkFree line := by
  refine plain.free.of_words fun w inside => ?_
  rw [words_eq_flatMap_plainLines]
  exact List.mem_flatMap.mpr ⟨line, mem, inside⟩

theorem shownBlocks_of_isOfBody {bs : List Block} (body : ∀ b ∈ bs, b.IsOfBody) :
    shownBlocks bs = bs := by
  cases bs with
  | nil => rfl
  | cons b bs =>
    have first := body b List.mem_cons_self
    cases b with
    | heading title => exact first.elim
    | prose text => rfl
    | quote text => rfl
    | code lines => rfl

/-- The description of a plain page has all words of the page, in order, and only the marks of its
notes and of its code beside them. -/
theorem words_description_of_isPlainPage {s : Text} (plain : IsPlainPage s) :
    words ((parse s).description.getD []) = (blocks s).flatMap Block.shownWords ∧
      (blocks s).flatMap Block.ownWords = words s ∧ ∀ b ∈ blocks s, b.IsOfBody := by
  have noFooter : ∀ line ∈ plainLines s, ¬ startsWithIgnoreCase (trim line) footerTitle :=
    fun line mem footer => plain.noPart line mem (by simp [startsPart, footer])
  have read := Reading.hasRead_nil.foldl_addLine plain.noPart (fun line => plain.isLinkFree_of_mem)
    (margin (plainLines s))
  rw [← Reading.addLines_eq_foldl plain.noTitle, List.nil_append, ← words_eq_flatMap_plainLines]
    at read
  obtain ⟨body, own⟩ := read.flatMap_ownWords
  have same : blocks s =
      ((Reading.addLines (margin (plainLines s)) {} (plainLines s)).enter .body).blocks := by
    rw [blocks, cutFooter_eq_self noFooter]
  rw [← same] at body own
  have shown := words_description s
  rw [shownBlocks_of_isOfBody body] at shown
  exact ⟨shown, own, body⟩

def loopPage : Text := "Loops\n  run.\n\n    f()\n\n    g()\nNote: once\nor more.\n>>> f()\n3\n\nEnd."

theorem words_description_loopPage :
    IsPlainPage loopPage ∧
      blocks loopPage = [.prose "Loops run.", .code ["f()", "", "g()"],
        .quote "Note: once or more.", .code [">>> f()", "3"], .prose "End."] ∧
      words ((parse loopPage).description.getD []) =
        (blocks loopPage).flatMap Block.shownWords ∧
      (blocks loopPage).flatMap Block.ownWords = words loopPage := by
  have plain : IsPlainPage loopPage := by decide +kernel
  obtain ⟨shown, own, _⟩ := words_description_of_isPlainPage plain
  exact ⟨plain, by decide +kernel, shown, own⟩

end SymbolDocs.HelpPage
