import SymbolDocs.Page.Summary
import SymbolDocs.Proofs.Markdown.BlankLines
import SymbolDocs.Proofs.Markdown.Inline

namespace SymbolDocs.Markdown

open Text Html Node

/-- No white space is at the ends of a text or at the end of one of its lines. -/
structure IsTrimmed (s : Text) : Prop where
  whole : trim s = s
  lines : ∀ line ∈ splitOn '\n' s, trimEnd line = line

/-- A trimmed text in which no two blank lines come in a row. -/
structure IsNormal (s : Text) : Prop extends IsTrimmed s where
  apart : (splitOn '\n' s).IsChain IsApart

theorem isTrimmed_finished (s : Text) : IsTrimmed (finished s) :=
  ⟨trim_finished s, fun _ mem => trimEnd_of_mem_splitOn_finished mem⟩

theorem isNormal_finished_iff (s : Text) :
    IsNormal (finished s) ↔ (dropBlankEnds (splitOn '\n' s)).IsChain IsEven := by
  rw [← isChain_splitOn_finished_iff]
  exact ⟨IsNormal.apart, fun apart => ⟨isTrimmed_finished s, apart⟩⟩

/-- White space other than a line feed does not follow a line feed. -/
def MayFollow (c before : Char) : Prop := isBlankChar c → before = '\n' → c = '\n'

/-- No line begins with white space. The text has its last character first. -/
def IsFlush (written : Text) : Prop := (written ++ ['\n']).IsChain MayFollow

section Flush

variable {written s : Text} {c : Char}

theorem isFlush_nil : IsFlush [] := .singleton _

theorem IsFlush.of_suffix (flush : IsFlush written) (tail : s <:+ written) : IsFlush s := by
  obtain ⟨lead, rfl⟩ := tail
  rw [IsFlush, List.append_assoc] at flush
  exact flush.right_of_append

theorem IsFlush.cons (flush : IsFlush written) (fits : isBlankChar c → c = '\n') :
    IsFlush (c :: written) :=
  List.isChain_cons.mpr ⟨fun _ _ blank _ => fits blank, flush⟩

theorem IsFlush.cons_cons {d : Char} (flush : IsFlush (d :: written)) (other : d ≠ '\n') :
    IsFlush (c :: d :: written) :=
  List.isChain_cons_cons.mpr ⟨fun _ feed => absurd feed other, flush⟩

/-- What begins with a visible character and has no line feed can be written anywhere. -/
theorem IsFlush.append_visible (flush : IsFlush written) (visible : ¬ isBlankChar c)
    (whole : '\n' ∉ s) : IsFlush ((c :: s).reverse ++ written) := by
  rw [List.reverse_cons, List.append_assoc, List.singleton_append]
  have whole' : '\n' ∉ s.reverse := fun mem => whole (List.mem_reverse.mp mem)
  generalize s.reverse = behind at whole'
  induction behind with
  | nil => exact flush.cons fun blank => absurd blank visible
  | cons d behind ih =>
    have rest := ih (List.not_mem_of_not_mem_cons whole')
    cases behind with
    | nil =>
      refine rest.cons_cons ?_
      rintro rfl
      exact visible (by decide)
    | cons d' behind =>
      refine rest.cons_cons ?_
      rintro rfl
      exact whole' (by simp)

/-- A line of such a text is empty if it is blank. -/
theorem IsFlush.eq_nil_of_isBlank (flush : IsFlush written) {line : Text}
    (mem : line ∈ splitOn '\n' written.reverse) (blank : isBlank line) : line = [] := by
  cases line with
  | nil => rfl
  | cons c line =>
    have whole := not_of_mem_splitWhen mem c List.mem_cons_self
    have inside := cons_infix_of_mem_splitOn mem
    have chain : ('\n' :: written.reverse).IsChain (fun before c => MayFollow c before) := by
      have turned := List.isChain_reverse.mpr flush
      rwa [List.reverse_append] at turned
    have part := List.IsChain.infix chain inside
    obtain ⟨follows, -⟩ := List.isChain_cons_cons.mp part
    rw [isBlank_cons, Bool.and_eq_true] at blank
    exact absurd (follows blank.1 rfl) (by simpa using whole)

end Flush

/-- An event that neither begins nor ends preformatted text. -/
def IsProse : Event → Prop
  | .enter e => Style.ofName e.name ≠ .preformatted
  | .text _ => True
  | .leave e => Style.ofName e.name ≠ .preformatted

instance : DecidablePred IsProse
  | .enter _ => inferInstanceAs (Decidable (_ ≠ _))
  | .text _ => inferInstanceAs (Decidable True)
  | .leave _ => inferInstanceAs (Decidable (_ ≠ _))

/-- An event that opens no link with a line feed in its target. -/
def HasPlainTarget (base : Option Url) : Event → Prop
  | .enter e => ∀ target ∈ (e.attribute? "href").bind ({ base } : Writer).target?, '\n' ∉ target
  | .text _ => True
  | .leave _ => True

theorem hasPlainTarget_of_isParsed {base : Option Url} (page : ∃ u ∈ base, u.IsParsed)
    (event : Event) : HasPlainTarget base event := by
  cases event with
  | enter e =>
    intro target mem
    obtain ⟨href, -, leads⟩ := Option.bind_eq_some_iff.mp mem
    exact Writer.not_mem_of_target?_eq_some page leads
  | text _ => trivial
  | leave _ => trivial

/-- Headings have a sign in front of them, and what marks an element inside a line is visible. -/
def Style.IsMarked : Style → Prop
  | .heading level => 0 < level
  | .inline mark => IsWord mark
  | _ => True

theorem Style.isMarked_ofName (name : String) : (Style.ofName name).IsMarked := by
  unfold Style.ofName
  split
  case h_23 => split <;> trivial
  all_goals simp only [IsMarked]; try decide

namespace Writer

/-- A writer outside preformatted text, none of whose lines begins with white space. -/
structure WritesProse (base : Option Url) (w : Writer) : Prop where
  page : w.base = base
  outside : w.preDepth = 0
  flush : IsFlush w.written
  targets : ∀ target, some target ∈ w.links → '\n' ∉ target

namespace WritesProse

variable {base : Option Url} {w : Writer}

theorem withWritten (prose : w.WritesProse base) {written : Text} (flush : IsFlush written) :
    ({ w with written } : Writer).WritesProse base :=
  ⟨prose.page, prose.outside, flush, prose.targets⟩

theorem withSkipDepth (prose : w.WritesProse base) (skipDepth : Nat) :
    ({ w with skipDepth } : Writer).WritesProse base :=
  ⟨prose.page, prose.outside, prose.flush, prose.targets⟩

theorem push (prose : w.WritesProse base) {c : Char} {s : Text} (visible : ¬ isBlankChar c)
    (whole : '\n' ∉ s) : (w.push (c :: s)).WritesProse base :=
  prose.withWritten (prose.flush.append_visible visible whole)

theorem pushWord (prose : w.WritesProse base) {word : Text} (isWord : IsWord word) :
    (w.push word).WritesProse base := by
  obtain ⟨c, s, rfl⟩ := List.exists_cons_of_ne_nil isWord.1
  refine prose.push (isWord.2 c List.mem_cons_self) fun mem => ?_
  exact isWord.2 '\n' (List.mem_cons_of_mem c mem) (by decide)

theorem pushFeed (prose : w.WritesProse base) : (w.push "\n").WritesProse base :=
  prose.withWritten (prose.flush.cons fun _ => rfl)

theorem trimBlanks (prose : w.WritesProse base) : w.trimBlanks.WritesProse base :=
  prose.withWritten (prose.flush.of_suffix (List.dropWhile_suffix isBlankOrTab))

theorem gap (prose : w.WritesProse base) : w.gap.WritesProse base := by
  rw [Writer.gap]
  split
  · exact prose
  · next c written eq =>
    split
    · exact prose
    · next off =>
      have flush := prose.flush
      rw [eq] at flush
      have spaced : IsFlush (' ' :: c :: written) := by
        refine flush.cons_cons ?_
        rintro rfl
        exact off rfl
      rw [← eq] at spaced
      exact prose.withWritten spaced

theorem gapIf (prose : w.WritesProse base) (b : Bool) :
    (if b then w.gap else w).WritesProse base := by
  cases b with
  | false => exact prose
  | true => exact prose.gap

theorem freshLine (prose : w.WritesProse base) : w.freshLine.WritesProse base := by
  rw [Writer.freshLine]
  split
  · exact prose.trimBlanks
  · exact prose.trimBlanks
  · exact prose.trimBlanks.pushFeed

theorem blankLine (prose : w.WritesProse base) : w.blankLine.WritesProse base := by
  rw [Writer.blankLine]
  split
  · exact prose.trimBlanks
  · exact prose.trimBlanks
  · exact prose.trimBlanks.pushFeed
  · exact prose.trimBlanks.pushFeed.pushFeed

theorem openLink (prose : w.WritesProse base) {e : Element}
    (target : HasPlainTarget base (.enter e)) : (w.openLink e).WritesProse base := by
  have same : (e.attribute? "href").bind w.target? =
      (e.attribute? "href").bind ({ base } : Writer).target? := by
    rw [← prose.page]
    rfl
  rw [HasPlainTarget, ← same] at target
  rw [Writer.openLink]
  generalize (e.attribute? "href").bind w.target? = link at target
  have marked : (if link.isSome then w.push "[" else w).WritesProse base := by
    split
    · exact prose.push (by decide) List.not_mem_nil
    · exact prose
  refine ⟨marked.page, marked.outside, marked.flush, fun t mem => ?_⟩
  rcases List.mem_cons.mp mem with rfl | mem
  · exact target t rfl
  · exact marked.targets t mem

theorem popLink (prose : w.WritesProse base) {links : List (Option Text)} {link : Option Text}
    (top : w.links = link :: links) : ({ w with links } : Writer).WritesProse base :=
  ⟨prose.page, prose.outside, prose.flush, fun t mem => prose.targets t (by simp [top, mem])⟩

theorem closeLink (prose : w.WritesProse base) : w.closeLink.WritesProse base := by
  rw [Writer.closeLink]
  split
  · exact prose
  · next links eq => exact prose.popLink eq
  · next target links eq =>
    have popped := prose.popLink eq
    dsimp only
    split
    · next written eq' =>
      have fewer : written <:+ _ := List.suffix_cons '[' written
      exact popped.withWritten (popped.flush.of_suffix (eq' ▸ fewer))
    · have whole := prose.targets target (by simp [eq])
      refine popped.trimBlanks.push (s := '(' :: (target ++ ")")) (by decide) ?_
      simp [whole]

theorem enter (prose : w.WritesProse base) {e : Element} (event : IsProse (.enter e))
    (target : HasPlainTarget base (.enter e)) : (w.enter e).WritesProse base := by
  have marked := Style.isMarked_ofName e.name
  rw [Writer.enter]
  split
  · exact prose.withSkipDepth _
  split
  · exact prose.withSkipDepth 1
  split
  · next level style =>
    rw [style] at marked
    obtain ⟨n, rfl⟩ := Nat.exists_eq_add_one.mpr marked
    exact prose.blankLine.push (s := List.replicate n '#' ++ [' ']) (by decide) (by simp)
  · exact prose.blankLine.push (by decide) (by decide)
  · next style => exact absurd style event
  · next mark style =>
    rw [style] at marked
    split
    · exact prose.pushWord marked
    · exact prose
  · exact prose.freshLine.push (by decide) (by decide)
  · exact prose.pushFeed
  · exact prose.freshLine
  · exact prose.gap
  · exact prose.openLink target
  · exact prose.blankLine
  · exact prose

theorem leave (prose : w.WritesProse base) {e : Element} (event : IsProse (.leave e)) :
    (w.leave e).WritesProse base := by
  have marked := Style.isMarked_ofName e.name
  rw [Writer.leave]
  split
  · exact prose.withSkipDepth _
  split
  · exact prose.blankLine
  · exact (prose.trimBlanks.push (by decide) (by decide)).blankLine
  · next style => exact absurd style event
  · next mark style =>
    rw [style] at marked
    split
    · exact prose.pushWord marked
    · exact prose
  · exact prose.freshLine
  · exact prose.closeLink
  · exact prose.blankLine
  all_goals exact prose

theorem pushWords (prose : w.WritesProse base) {ws : List Text} (all : ∀ word ∈ ws, IsWord word) :
    (w.pushWords ws).WritesProse base := by
  induction ws generalizing w with
  | nil => exact prose
  | cons word more ih =>
    have here := prose.pushWord (all word List.mem_cons_self)
    cases more with
    | nil => exact here
    | cons next more => exact ih here.gap fun v mem => all v (List.mem_cons_of_mem word mem)

theorem addText (prose : w.WritesProse base) (s : Text) : (w.addText s).WritesProse base := by
  rw [Writer.addText]
  split
  · exact prose
  split
  · next inside => exact absurd inside (by simp [prose.outside])
  exact ((prose.gapIf _).pushWords fun word mem => isWord_of_mem_words mem).gapIf _

theorem feed (prose : w.WritesProse base) {event : Event} (allowed : IsProse event)
    (target : HasPlainTarget base event) : (w.feed event).WritesProse base := by
  cases event with
  | enter e => exact prose.enter allowed target
  | text s => exact prose.addText s
  | leave e => exact prose.leave allowed

theorem feedAll (prose : w.WritesProse base) {events : List Event}
    (allowed : ∀ event ∈ events, IsProse event)
    (targets : ∀ event ∈ events, HasPlainTarget base event) :
    (w.feedAll events).WritesProse base := by
  induction events generalizing w with
  | nil => exact prose
  | cons event events ih =>
    have here := prose.feed (allowed event List.mem_cons_self) (targets event List.mem_cons_self)
    exact ih here (fun later mem => allowed later (List.mem_cons_of_mem event mem))
      fun later mem => targets later (List.mem_cons_of_mem event mem)

end WritesProse
end Writer

/-- What a walk through some nodes writes, before it is finished. -/
def rawText (base : Option Url) (nodes : List Node) : Text :=
  (({ base } : Writer).feedAll (eventsOf nodes)).written.reverse

theorem isNormal_finished_of_isFlush {written : Text} (flush : IsFlush written) :
    IsNormal (finished written.reverse) := by
  refine (isNormal_finished_iff _).mpr ?_
  have inside : ∀ line ∈ dropBlankEnds (splitOn '\n' written.reverse),
      line ∈ splitOn '\n' written.reverse := by
    obtain ⟨lead, ending, parts, -, -⟩ := exists_eq_dropBlankEnds (splitOn '\n' written.reverse)
    intro line mem
    rw [parts]
    simp [mem]
  refine (List.pairwise_of_forall_mem_list fun line mem next mem' blank blank' => ?_).isChain
  exact ⟨flush.eq_nil_of_isBlank (inside line mem) blank,
    flush.eq_nil_of_isBlank (inside next mem') blank'⟩

/-- The Markdown of any nodes has no white space at its ends or at the ends of its lines. It has two
blank lines in a row exactly if two that are not both empty are written in a row between visible
lines. That takes preformatted text or a link with a line feed in its target, which there is not in
a page whose URL has been read. -/
theorem isNormal_renderAll_iff (base : Option Url) (nodes : List Node) :
    IsTrimmed (renderAll base nodes) ∧
      (IsNormal (renderAll base nodes) ↔
        (dropBlankEnds (splitOn '\n' (rawText base nodes))).IsChain IsEven) ∧
      ((∀ event ∈ eventsOf nodes, IsProse event) →
        ((∃ u ∈ base, u.IsParsed) ∨ ∀ event ∈ eventsOf nodes, HasPlainTarget base event) →
        IsNormal (renderAll base nodes)) := by
  refine ⟨isTrimmed_finished _, isNormal_finished_iff _, fun prose plain => ?_⟩
  have start : ({ base } : Writer).WritesProse base := ⟨rfl, rfl, isFlush_nil, nofun⟩
  have targets : ∀ event ∈ eventsOf nodes, HasPlainTarget base event := by
    rcases plain with page | all
    · exact fun event _ => hasPlainTarget_of_isParsed page event
    · exact all
  exact isNormal_finished_of_isFlush (start.feedAll prose targets).flush

/-- A paragraph with a link, and a list that begins with an empty item. -/
def linkedList : List Node :=
  [.element { name := "p" } [.text "See ",
      .element { name := "a", attributes := [("href", "/x y")] } [.text "there"], .text "."],
    .element { name := "ul" } [.element { name := "li" } [], .text "\n \n",
      .element { name := "li" } [.element { name := "p" } [.text " One. "]]]]

theorem isNormal_renderAll_linkedList : ∃ u, Url.ofText? "https://d.dev/" = some u ∧
    (∀ event ∈ eventsOf linkedList, IsProse event) ∧ IsNormal (renderAll (some u) linkedList) := by
  have prose : ∀ event ∈ eventsOf linkedList, IsProse event := by decide
  obtain ⟨u, read⟩ : ∃ u, Url.ofText? "https://d.dev/" = some u :=
    Option.isSome_iff_exists.mp (by decide +kernel)
  exact ⟨u, read, prose,
    (isNormal_renderAll_iff (some u) linkedList).2.2 prose (.inl ⟨u, rfl, .ofText read⟩)⟩

/-- A line of white space keeps the empty lines around it from being taken for a run. -/
theorem not_isNormal_toMarkdown_pre :
    Page.toMarkdown "<pre>a\n \n \nb</pre>" "https://d.dev/" = "```python\na\n\n\nb\n```".toList ∧
      ¬ IsNormal (Page.toMarkdown "<pre>a\n \n \nb</pre>" "https://d.dev/") := by
  have text : Page.toMarkdown "<pre>a\n \n \nb</pre>" "https://d.dev/" =
      "```python\na\n\n\nb\n```".toList := by decide +kernel
  refine ⟨text, fun normal => ?_⟩
  have apart := normal.apart
  rw [text] at apart
  exact absurd apart (by decide +kernel)

end SymbolDocs.Markdown
