import Mathlib.Data.List.Chain
import SymbolDocs.Page.Summary
import SymbolDocs.Proofs.Html.Walk
import SymbolDocs.Proofs.Markdown.Units

namespace SymbolDocs.Markdown

open Text Html Node

/-- A link in a page that shows some text and leads somewhere. -/
structure Link (base : Option Url) where
  element : Element
  texts : List Text
  target : Text
  isAnchor : element.name = "a"
  isOwn : ¬ element.hasClass "headerlink"
  leads : (element.attribute? "href").bind ({ base } : Writer).target? = some target

/-- A piece of a paragraph. -/
inductive Piece (base : Option Url) where
  | text (s : Text)
  | link (link : Link base)

variable {base : Option Url}

namespace Link

def words (l : Link base) : List Text := Text.words (withoutPilcrows l.texts.flatten)

def shown (l : Link base) : Text := "[" ++ joinWith " " l.words ++ linkEnd l.target

/-- In a page whose URL has been read no link leads to a target with a line feed. -/
theorem not_mem_target (page : ∃ u ∈ base, u.IsParsed) (l : Link base) : '\n' ∉ l.target := by
  obtain ⟨href, -, leads⟩ := Option.bind_eq_some_iff.mp l.leads
  exact Writer.not_mem_of_target?_eq_some page leads

/-- A link with something to read in it, none of whose words could be taken for its beginning. -/
def IsSound (l : Link base) : Prop := l.words ≠ [] ∧ ∀ w ∈ l.words, ¬ EndsOpen w

instance : DecidablePred (@IsSound base) := fun l =>
  inferInstanceAs (Decidable (l.words ≠ [] ∧ ∀ w ∈ l.words, ¬ EndsOpen w))

end Link

namespace Piece

def node : Piece base → Node
  | text s => .text s
  | link l => .element l.element (l.texts.map .text)

/-- What is to be read of a piece, to be joined by single spaces. -/
def shown : Piece base → List Text
  | text s => words (withoutPilcrows s)
  | link l => [l.shown]

def beginsApart : Piece base → Bool
  | text s => (withoutPilcrows s).head?.any isBlankChar
  | link _ => false

def endsApart : Piece base → Bool
  | text s => (withoutPilcrows s).getLast?.any isBlankChar
  | link _ => false

def IsSound : Piece base → Prop
  | text _ => True
  | link l => l.IsSound

instance : DecidablePred (@IsSound base)
  | text _ => inferInstanceAs (Decidable True)
  | link l => inferInstanceAs (Decidable l.IsSound)

/-- There is white space between a piece and the next one. -/
def IsSetOff (piece next : Piece base) : Prop := piece.endsApart ∨ next.beginsApart

/-- What has been written with a piece behind it. -/
def write (written : Text) : Piece base → Text
  | text s => (withoutPilcrows s).foldl withChar written
  | link l => closed l.target ((withoutPilcrows l.texts.flatten).foldl withChar ('[' :: written))

/-- What has been written with the words of a piece behind it, when all is set off. -/
def writeApart (written : Text) : Piece base → Text
  | text s => withWords written (words (withoutPilcrows s))
  | link l => gapped (closed l.target (withWords ('[' :: written) l.words))

end Piece

theorem withoutPilcrows_append (s t : Text) :
    withoutPilcrows (s ++ t) = withoutPilcrows s ++ withoutPilcrows t := List.filter_append ..

/-- A gap makes no difference to the end of a link. -/
theorem closed_gapped (target written : Text) :
    closed target (gapped written) = closed target written := by
  cases written with
  | nil => rfl
  | cons c written =>
    rw [gapped]
    split
    · rfl
    · next off =>
      have other : c ≠ '[' := by
        rintro rfl
        exact off rfl
      have trimmed : (' ' :: c :: written).dropWhile isBlankOrTab =
          (c :: written).dropWhile isBlankOrTab := List.dropWhile_cons_of_pos (by decide)
      unfold closed
      split
      · next eq => exact absurd (List.cons.inj eq).1 (by decide)
      · split
        · next eq => exact absurd (List.cons.inj eq).1 other
        · rw [trimmed]

namespace Writer

theorem closeLink_eq {w : Writer} {target : Text} {links : List (Option Text)}
    (opened : w.links = some target :: links) :
    w.closeLink = { w with written := closed target w.written, links } := by
  rw [closeLink, opened]
  dsimp only
  split
  · next written eq =>
    rw [eq]
    rfl
  · next other =>
    unfold closed
    split
    · next eq => exact absurd eq (other _)
    · rfl

theorem feedAll_texts {w : Writer} (read : w.skipDepth = 0) (prose : w.preDepth = 0)
    (texts : List Text) : w.feedAll (eventsOf (texts.map .text)) =
      { w with written := (withoutPilcrows texts.flatten).foldl withChar w.written } := by
  induction texts generalizing w with
  | nil => rfl
  | cons s texts ih =>
    have step : w.feedAll (eventsOf ((s :: texts).map .text)) =
        (w.addText s).feedAll (eventsOf (texts.map .text)) := rfl
    have later := @ih (w.addText s)
    rw [addText_eq read prose] at step later
    rw [step, later read prose, List.flatten_cons, withoutPilcrows_append, List.foldl_append]

/-- What a piece does to a writer is done to what has been written. -/
theorem feedAll_piece {w : Writer} (page : w.base = base) (read : w.skipDepth = 0)
    (prose : w.preDepth = 0) (piece : Piece base) :
    w.feedAll piece.node.events = { w with written := piece.write w.written } := by
  subst page
  cases piece with
  | text s => exact addText_eq read prose s
  | link l =>
    have isLink : Style.ofName l.element.name = .link := by
      rw [l.isAnchor]
      rfl
    have kept : ¬ isLeftOut l.element := by
      rw [isLeftOut, l.isAnchor, Bool.or_eq_true, Bool.and_eq_true]
      rintro (listed | ⟨-, permalink⟩)
      · exact absurd listed (by decide)
      · exact l.isOwn permalink
    have leads : (l.element.attribute? "href").bind w.target? = some l.target := l.leads
    have opened : w.enter l.element =
        { w with written := '[' :: w.written, links := some l.target :: w.links } := by
      rw [enter, if_neg (by simp [read]), if_neg kept, isLink]
      dsimp only
      rw [openLink, leads]
      rfl
    have parts : w.feedAll (Piece.link l).node.events =
        ((w.enter l.element).feedAll (eventsOf (l.texts.map .text))).leave l.element := by
      rw [Piece.node, events, feedAll_append]
      rfl
    have inner := @feedAll_texts (w.enter l.element)
    rw [opened] at inner parts
    rw [parts, inner read prose, leave, if_neg (by simp [read]), isLink]
    exact closeLink_eq rfl

end Writer

theorem Link.isUnit_shown (l : Link base) : IsUnit l.shown := by
  rw [Link.shown, linkEnd, ← List.append_assoc]
  exact ⟨_, ')', rfl, by decide⟩

theorem Piece.isUnit_of_mem_shown {piece : Piece base} {u : Text} (mem : u ∈ piece.shown) :
    IsUnit u := by
  cases piece with
  | text s => exact isUnit_of_isWord (isWord_of_mem_words mem)
  | link l =>
    rw [List.mem_singleton.mp mem]
    exact l.isUnit_shown

section Bracket

variable {w : Text} {more : List Text}

theorem endsOpen_bracket_cons (ne : w ≠ []) : EndsOpen ('[' :: w) ↔ EndsOpen w := by
  rw [EndsOpen, EndsOpen, List.getLast?_cons_of_ne_nil ne]

theorem isUnit_bracket_cons (word : IsWord w) : IsUnit ('[' :: w) := by
  obtain ⟨s, c, rfl, visible⟩ := isUnit_of_isWord word
  exact ⟨'[' :: s, c, rfl, visible⟩

theorem withWords_bracket_cons (written w : Text) (more : List Text) :
    withWords written (('[' :: w) :: more) = withWords ('[' :: written) (w :: more) := by
  rw [withWords, List.foldl_cons, List.reverse_cons, List.append_assoc]
  rfl

theorem joinWith_bracket_cons (w : Text) (more : List Text) :
    joinWith " " (('[' :: w) :: more) = "[" ++ joinWith " " (w :: more) := by
  by_cases alone : more = []
  · rw [alone, joinWith_singleton, joinWith_singleton]
    rfl
  · rw [joinWith_cons _ _ alone, joinWith_cons _ _ alone]
    rfl

end Bracket

namespace Tracks

variable {well : Prop} {units : List Text} {written : Text}

/-- A link without words leaves nothing behind. -/
theorem emptyLink (tracks : Tracks well units written) (target : Text) :
    IsShort (units ++ ["[" ++ joinWith " " [] ++ linkEnd target]) (gapped written) := by
  have size := length_le_joinWith_concat units ("[" ++ joinWith " " [] ++ linkEnd target)
  have marks : ("[" ++ joinWith " " [] ++ linkEnd target).length = target.length + 4 := by
    simp [linkEnd, joinWith]
  have before := tracks.length_le
  exact isShort_gapped (by omega)

theorem link (tracks : Tracks well units written) (sound : ∀ v ∈ units, IsUnit v)
    (l : Link base) :
    Tracks (well ∧ l.IsSound) (units ++ [l.shown]) ((Piece.link l).writeApart written) := by
  have all : ∀ w ∈ l.words, IsWord w := fun w mem => isWord_of_mem_words mem
  rw [Piece.writeApart, Link.shown, Link.IsSound]
  generalize l.words = ws at all
  cases ws with
  | nil => exact ⟨fun good => absurd rfl good.2.1, fun _ => tracks.emptyLink l.target⟩
  | cons w more =>
    have word := all w List.mem_cons_self
    have units' : ∀ v ∈ ('[' :: w) :: more, IsUnit v := by
      intro v mem
      rcases List.mem_cons.mp mem with rfl | mem
      · exact isUnit_bracket_cons word
      · exact isUnit_of_isWord (all v (List.mem_cons_of_mem w mem))
    have ends : (∀ v ∈ ('[' :: w) :: more, ¬ EndsOpen v) ↔
        (w :: more ≠ [] ∧ ∀ v ∈ w :: more, ¬ EndsOpen v) := by
      rw [List.forall_mem_cons, List.forall_mem_cons, endsOpen_bracket_cons word.1]
      simp
    obtain ⟨init, last, eq⟩ : ∃ init last, ('[' :: w) :: more = init ++ [last] :=
      ⟨_, _, (List.dropLast_concat_getLast (List.cons_ne_nil _ _)).symm⟩
    have inner := tracks.words sound units'
    rw [withWords_bracket_cons, eq] at inner
    have closed := inner.close (units' last (by simp [eq])) l.target
    rwa [← eq, ends, joinWith_bracket_cons] at closed

/-- Pieces that are set off from each other are written with single spaces between them as long as
their links are sound and no bracket stands in the way. -/
theorem pieces (tracks : Tracks well units written) (sound : ∀ v ∈ units, IsUnit v)
    (pieces : List (Piece base)) : Tracks (well ∧ ∀ piece ∈ pieces, piece.IsSound)
      (units ++ pieces.flatMap Piece.shown) (pieces.foldl Piece.writeApart written) := by
  induction pieces generalizing well units written with
  | nil =>
    rw [List.flatMap_nil, List.append_nil]
    simpa using tracks
  | cons piece pieces ih =>
    have here : Tracks (well ∧ piece.IsSound) (units ++ piece.shown)
        (piece.writeApart written) := by
      cases piece with
      | text s =>
        have units' : ∀ v ∈ (Piece.text s : Piece base).shown, IsUnit v := fun v mem =>
          Piece.isUnit_of_mem_shown mem
        rw [Piece.IsSound, and_true]
        exact tracks.words sound units'
      | link l => exact tracks.link sound l
    have sound' : ∀ v ∈ units ++ piece.shown, IsUnit v := by
      intro v mem
      rcases List.mem_append.mp mem with mem | mem
      · exact sound v mem
      · exact piece.isUnit_of_mem_shown mem
    have rest := ih here sound'
    rwa [List.append_assoc, and_assoc, ← List.forall_mem_cons] at rest

end Tracks

namespace Piece

theorem foldl_withChar_of_begins {s : Text} (blank : s.head?.any isBlankChar) (written : Text) :
    s.foldl withChar written = s.foldl withChar (gapped written) := by
  cases s with
  | nil => exact absurd blank Bool.false_ne_true
  | cons c s =>
    have here : isBlankChar c := blank
    rw [List.foldl_cons, List.foldl_cons, withChar, withChar, if_pos here, if_pos here,
      gapped_gapped]

theorem gapped_foldl_withChar_of_ends {s : Text} (blank : s.getLast?.any isBlankChar)
    (written : Text) : gapped (s.foldl withChar written) = s.foldl withChar written := by
  rcases List.eq_nil_or_concat s with rfl | ⟨init, c, eq⟩
  · exact absurd blank Bool.false_ne_true
  · rw [List.concat_eq_append] at eq
    rw [eq, List.getLast?_concat] at blank
    have here : isBlankChar c := blank
    rw [eq, List.foldl_concat, withChar, if_pos here, gapped_gapped]

theorem gapped_write {piece : Piece base} {written : Text}
    (start : gapped written = written ∨ piece.beginsApart) :
    gapped (piece.write written) = piece.writeApart (gapped written) := by
  cases piece with
  | text s =>
    have same : (withoutPilcrows s).foldl withChar written =
        (withoutPilcrows s).foldl withChar (gapped written) := by
      rcases start with off | begins
      · rw [off]
      · exact foldl_withChar_of_begins begins written
    rw [write, same, gapped_foldl_withChar, writeApart]
  | link l =>
    have off : gapped written = written := start.resolve_right Bool.false_ne_true
    have inner := gapped_foldl_withChar (withoutPilcrows l.texts.flatten) ('[' :: written)
    rw [gapped_bracket] at inner
    rw [write, writeApart, off, ← closed_gapped, inner, Link.words]

theorem gapped_write_of_endsApart {piece : Piece base} (ends : piece.endsApart) (written : Text) :
    gapped (piece.write written) = piece.write written := by
  cases piece with
  | text s => exact gapped_foldl_withChar_of_ends ends written
  | link l => exact absurd ends Bool.false_ne_true

/-- Where there is white space between pieces it makes no difference which of them has it. -/
theorem gapped_foldl_write {pieces : List (Piece base)} (apart : pieces.IsChain IsSetOff)
    {written : Text} (start : gapped written = written ∨ ∀ x ∈ pieces.head?, x.beginsApart) :
    gapped (pieces.foldl write written) = pieces.foldl writeApart (gapped written) := by
  induction pieces generalizing written with
  | nil => rfl
  | cons piece pieces ih =>
    obtain ⟨next, rest⟩ := List.isChain_cons.mp apart
    have here : gapped (piece.write written) = piece.writeApart (gapped written) :=
      gapped_write (start.imp_right fun begins => begins piece rfl)
    rw [List.foldl_cons, List.foldl_cons, ← here]
    refine ih rest ?_
    by_cases ends : piece.endsApart
    · exact .inl (gapped_write_of_endsApart ends written)
    · exact .inr fun x mem => (next x mem).resolve_left ends

end Piece

namespace Writer

theorem feedAll_pieces {w : Writer} (page : w.base = base) (read : w.skipDepth = 0)
    (prose : w.preDepth = 0) (pieces : List (Piece base)) :
    w.feedAll (eventsOf (pieces.map Piece.node)) =
      { w with written := pieces.foldl Piece.write w.written } := by
  induction pieces generalizing w with
  | nil => rfl
  | cons piece pieces ih =>
    have here := feedAll_piece page read prose piece
    have rest := @ih (w.feedAll piece.node.events)
    rw [here] at rest
    rw [List.map_cons, eventsOf, feedAll_append, here, rest page read prose, List.foldl_cons]

theorem dropWhile_blankLine (w : Writer) :
    w.blankLine.written.dropWhile isBlankChar = w.written.dropWhile isBlankChar := by
  have trimmed : w.trimBlanks.written.dropWhile isBlankChar = w.written.dropWhile isBlankChar :=
    dropWhile_dropWhile_isBlankOrTab w.written
  rw [blankLine]
  split
  · exact trimmed
  · exact trimmed
  · exact trimmed
  · exact trimmed

end Writer

theorem finished_reverse_congr {written written' : Text}
    (same : written.dropWhile isBlankChar = written'.dropWhile isBlankChar) :
    finished written.reverse = finished written'.reverse := by
  refine finished_congr ?_
  rw [trimEnd_reverse, trimEnd_reverse, same]

namespace Tracks

variable {well : Prop} {units : List Text} {written : Text}

theorem finished_eq (tracks : Tracks well units (gapped written))
    (good : well ∧ AreSpaced units) :
    finished written.reverse = finished (joinWith " " units) := by
  have visible := congrArg (List.dropWhile isBlankChar) (tracks.whole good.1 good.2)
  rw [dropWhile_gapped, dropWhile_gapped] at visible
  have shown := finished_reverse_congr visible
  rwa [List.reverse_reverse] at shown

theorem length_finished_lt (tracks : Tracks well units (gapped written))
    (bad : ¬ (well ∧ AreSpaced units)) :
    (finished written.reverse).length < (joinWith " " units).length := by
  have short := (tracks.short bad).trimmed
  have trimmed := length_dropWhile_isBlankChar_le (gapped written)
  rw [dropWhile_gapped] at trimmed
  have finish := length_finished_le written.reverse
  rw [trimEnd_reverse, List.length_reverse] at finish
  exact (finish.trans trimmed).trans_lt short

end Tracks

/-- A paragraph of some pieces, as it is written. -/
theorem render_paragraph {p : Element} (isParagraph : p.name = "p") (pieces : List (Piece base)) :
    render base (.element p (pieces.map Piece.node)) =
      finished (pieces.foldl Piece.write []).reverse := by
  have isBlock : Style.ofName p.name = .block := by
    rw [isParagraph]
    rfl
  have kept : ¬ isLeftOut p := by
    rw [isLeftOut, isParagraph]
    exact Bool.false_ne_true
  have opened : ({ base } : Writer).enter p = { base } := by
    rw [Writer.enter, if_neg (Nat.lt_irrefl 0), if_neg kept, isBlock]
    rfl
  have parts : ({ base } : Writer).feedAll (Node.element p (pieces.map Piece.node)).events =
      ((({ base } : Writer).enter p).feedAll (eventsOf (pieces.map Piece.node))).leave p := by
    rw [events, Writer.feedAll_append]
    rfl
  rw [render, parts, opened, Writer.feedAll_pieces rfl rfl rfl, Writer.leave,
    if_neg (Nat.lt_irrefl 0), isBlock, Writer.finish_eq]
  exact finished_reverse_congr (Writer.dropWhile_blankLine _)

theorem trimmed_of_mem_shown {piece : Piece base} {u : Text} (mem : u ∈ piece.shown) :
    ¬ isBlank u ∧ trimStart u = u ∧ trimEnd u = u := by
  cases piece with
  | text s =>
    have word : IsWord u := isWord_of_mem_words mem
    exact ⟨not_isBlank_of_isWord word, trim_of_isWord word⟩
  | link l =>
    obtain ⟨s, c, eq, visible⟩ := l.isUnit_shown
    have starts : l.shown = '[' :: (joinWith " " l.words ++ linkEnd l.target) := by
      rw [Link.shown, List.append_assoc]
      rfl
    rw [List.mem_singleton.mp mem]
    refine ⟨?_, ?_, ?_⟩
    · rw [starts]
      exact not_isBlank_cons (by decide) _
    · rw [starts]
      exact List.dropWhile_cons_of_neg (by decide)
    · rw [eq]
      exact trimEnd_concat s visible

theorem not_mem_of_mem_shown {piece : Piece base} {u : Text} (mem : u ∈ piece.shown)
    (whole : ∀ l, piece = .link l → '\n' ∉ l.target) : '\n' ∉ u := by
  cases piece with
  | text s => exact fun here => (isWord_of_mem_words mem).2 '\n' here (by decide)
  | link l =>
    have words : '\n' ∉ joinWith " " l.words :=
      not_mem_joinWith (fun w mem => isWord_of_mem_words mem) (by decide) (by decide)
    have target := whole l rfl
    rw [List.mem_singleton.mp mem, Link.shown, linkEnd]
    simp only [List.mem_append, not_or]
    exact ⟨⟨by decide, words⟩, ⟨by decide, target⟩, by decide⟩

/-- What is to be read of pieces is left as it is when it is finished. -/
theorem finished_shown {pieces : List (Piece base)}
    (whole : ∀ l, .link l ∈ pieces → '\n' ∉ l.target) :
    finished (joinWith " " (pieces.flatMap Piece.shown)) =
      joinWith " " (pieces.flatMap Piece.shown) := by
  have line : '\n' ∉ joinWith " " (pieces.flatMap Piece.shown) := by
    refine not_mem_joinWith_of_not_mem (by decide) fun u mem => ?_
    obtain ⟨piece, inside, mem⟩ := List.mem_flatMap.mp mem
    exact not_mem_of_mem_shown mem fun l eq => whole l (eq ▸ inside)
  rw [finished_of_line line]
  refine trim_joinWith_of_trimmed " " fun u mem => ?_
  obtain ⟨piece, -, mem⟩ := List.mem_flatMap.mp mem
  exact trimmed_of_mem_shown mem

/-- A paragraph of text and links with white space between them is shown word for word, with single
spaces, exactly if every link has a word, no word of a link ends in an opening bracket, and of the
other words only one at the very end does; and if the targets of the links have no line breaks that
are changed when a text is finished, as they have none in a page whose URL has been read. -/
theorem render_paragraph_eq_iff {p : Element} (isParagraph : p.name = "p")
    {pieces : List (Piece base)} (apart : pieces.IsChain Piece.IsSetOff) :
    (render base (.element p (pieces.map Piece.node)) =
        joinWith " " (pieces.flatMap Piece.shown) ↔
      (∀ piece ∈ pieces, piece.IsSound) ∧ AreSpaced (pieces.flatMap Piece.shown) ∧
        finished (joinWith " " (pieces.flatMap Piece.shown)) =
          joinWith " " (pieces.flatMap Piece.shown)) ∧
    ((∃ u ∈ base, u.IsParsed) ∨ (∀ l, .link l ∈ pieces → '\n' ∉ l.target) →
      finished (joinWith " " (pieces.flatMap Piece.shown)) =
        joinWith " " (pieces.flatMap Piece.shown)) := by
  have tracks := Tracks.nil.pieces (fun _ mem => absurd mem List.not_mem_nil) pieces
  have gaps : gapped (pieces.foldl Piece.write []) = pieces.foldl Piece.writeApart [] :=
    Piece.gapped_foldl_write apart (.inl rfl)
  rw [List.nil_append, ← gaps, true_and] at tracks
  rw [render_paragraph isParagraph]
  constructor
  · by_cases good : (∀ piece ∈ pieces, piece.IsSound) ∧ AreSpaced (pieces.flatMap Piece.shown)
    · rw [tracks.finished_eq good, ← and_assoc, and_iff_right good]
    · have less := tracks.length_finished_lt good
      refine iff_of_false (fun same => ?_) fun all => good ⟨all.1, all.2.1⟩
      rw [same] at less
      exact Nat.lt_irrefl _ less
  · rintro (page | whole)
    · exact finished_shown fun l _ => l.not_mem_target page
    · exact finished_shown whole

/-- Brackets in the middle of words, and one at the end of the last word of a paragraph. -/
theorem render_paragraph_brackets : ∃ u, Url.ofText? "https://d.dev/" = some u ∧
    render (some u) (.element { name := "p" } [.text "See \u00b6 a[0]\n of ",
      .element { name := "a", attributes := [("href", "/x")] } [.text " the [new]", .text " list "],
      .text "\n [ed] a["]) = "See a[0] of [the [new] list](https://d.dev/x) [ed] a[".toList := by
  obtain ⟨u, read, leads⟩ : ∃ u, Url.ofText? "https://d.dev/" = some u ∧
      ({ base := some u } : Writer).target? "/x" = some "https://d.dev/x".toList :=
    Option.bind_eq_some_iff.mp (by decide +kernel)
  let link : Link (some u) :=
    { element := { name := "a", attributes := [("href", "/x")] }
      texts := [" the [new]", " list "]
      target := "https://d.dev/x"
      isAnchor := rfl
      isOwn := by decide
      leads }
  let pieces : List (Piece (some u)) :=
    [.text "See \u00b6 a[0]\n of ", .link link, .text "\n [ed] a["]
  have apart : pieces.IsChain Piece.IsSetOff :=
    .cons_cons (.inl rfl) (.cons_cons (.inr rfl) (.singleton _))
  have sound : ∀ piece ∈ pieces, piece.IsSound := of_decide_eq_true rfl
  have spaced : AreSpaced (pieces.flatMap Piece.shown) := of_decide_eq_true rfl
  obtain ⟨whole, kept⟩ := @render_paragraph_eq_iff (some u) { name := "p" } rfl pieces apart
  exact ⟨u, read, whole.mpr ⟨sound, spaced, kept (.inl ⟨u, rfl, .ofText read⟩)⟩⟩

/-- White space behind a bracket is taken for white space at the beginning of a link, and a link
whose text ends in a bracket for one without text. -/
theorem toMarkdown_paragraph_ne :
    Page.toMarkdown "<p>a [ b</p>" "https://d.dev/" = "a [b".toList ∧
      Page.toMarkdown "<p>a [ b</p>" "https://d.dev/" ≠
        joinWith " " ([@Piece.text none "a [ b"].flatMap Piece.shown) ∧
      Page.toMarkdown "<p><a href=\"/x\">foo [</a> bar</p>" "https://d.dev/" =
        "[foo bar".toList := by
  decide +kernel

end SymbolDocs.Markdown
