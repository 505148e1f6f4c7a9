import SymbolDocs.Proofs.Docstring.Written

namespace SymbolDocs

open Text

namespace Docstring

section Spans

variable {stop : List Text → Bool} {line : Text} {lines next rest : List Text}

theorem spanUntil_of_stops (stops : next = [] ∨ stop next) : spanUntil stop next = ([], next) := by
  cases next with
  | nil => rfl
  | cons line rest => rw [spanUntil, if_pos (stops.resolve_left (List.cons_ne_nil line rest))]

theorem spanUntil_cons_of_neg (passes : ¬ stop (line :: rest)) :
    spanUntil stop (line :: rest) =
      (line :: (spanUntil stop rest).1, (spanUntil stop rest).2) := by
  rw [spanUntil, if_neg passes]

theorem spanUntil_append (passes : ∀ l more, l :: more <:+ lines → ¬ stop (l :: more ++ next))
    (stops : next = [] ∨ stop next) : spanUntil stop (lines ++ next) = (lines, next) := by
  induction lines with
  | nil => exact spanUntil_of_stops stops
  | cons line lines ih =>
    have later := ih fun l more ends => passes l more (ends.trans (List.suffix_cons line lines))
    have here := passes line lines (List.suffix_refl _)
    rw [List.cons_append] at here ⊢
    rw [spanUntil_cons_of_neg here, later]

theorem spanUntil_append_eq (stop : List Text → Bool) (lines : List Text) :
    (spanUntil stop lines).1 ++ (spanUntil stop lines).2 = lines := by
  induction lines with
  | nil => rfl
  | cons line lines ih =>
    rw [spanUntil]
    split
    · rfl
    · rw [List.cons_append, ih]

/-- The search stops at the latest where it has to. -/
theorem stops_spanUntil (ends : rest <:+ lines) (stops : stop rest) (ne : rest ≠ []) :
    rest <:+ (spanUntil stop lines).2 ∧ stop (spanUntil stop lines).2 := by
  induction lines with
  | nil => exact absurd (List.suffix_nil.mp ends) ne
  | cons line lines ih =>
    by_cases here : stop (line :: lines)
    · rw [spanUntil_of_stops (.inr here)]
      exact ⟨ends, here⟩
    · rw [spanUntil_cons_of_neg here]
      rcases List.suffix_cons_iff.mp ends with rfl | later
      · exact absurd stops here
      · exact ih later

end Spans

section Prose

variable {isHeader : List Text → Bool} {summary : Text} {rest : List Text}

theorem withProse_suffix (isHeader : List Text → Bool) (lines : List Text) :
    (withProse isHeader lines).2 <:+ lines := by
  have whole : List.dropWhile isBlank lines <:+ lines := List.dropWhile_suffix isBlank
  exact (List.IsSuffix.trans ⟨_, spanUntil_append_eq _ _⟩ ⟨_, spanUntil_append_eq _ _⟩).trans whole

/-- Prose ends at a header if there is one. -/
theorem isHeader_withProse {lines : List Text} (ends : summary :: rest <:+ lines)
    (visible : ¬ isBlank summary) (header : isHeader (summary :: rest)) :
    isHeader (withProse isHeader lines).2 := by
  have filled : summary :: rest ≠ [] := List.cons_ne_nil summary rest
  have shown : summary :: rest <:+ lines.dropWhile isBlank := by
    obtain ⟨lead, rfl⟩ := ends
    rw [dropWhile_append_of_neg visible]
    exact List.suffix_append _ _
  have early : (summary :: rest).head?.any isBlank || isHeader (summary :: rest) := by
    rw [header, Bool.or_true]
  have first := @stops_spanUntil (fun rest => rest.head?.any isBlank || isHeader rest) _ _ shown
    early filled
  exact (stops_spanUntil first.1 header filled).2

theorem withProse_of_header (visible : ¬ isBlank summary) (header : isHeader (summary :: rest)) :
    withProse isHeader (summary :: rest) = ({}, summary :: rest) := by
  have first : spanUntil (fun rest => rest.head?.any isBlank || isHeader rest)
      (summary :: rest) = ([], summary :: rest) :=
    spanUntil_of_stops (.inr (by simp [header]))
  rw [withProse, splitProse, List.dropWhile_cons_of_neg visible, first]
  simp only [@spanUntil_of_stops isHeader _ (.inr header)]
  rfl

/-- One line with an empty line behind it, up to the first header. -/
theorem withProse_line (visible : ¬ isBlank summary) (plain : ¬ isHeader (summary :: [] :: rest))
    (plainGap : ¬ isHeader ([] :: rest)) (header : rest = [] ∨ isHeader rest) :
    withProse isHeader (summary :: [] :: rest) =
      ({ summary := if isTitleRule summary then none else nonEmpty? (trim summary) }, rest) := by
  have shown : isBlank summary = false := by simpa using visible
  have first : spanUntil (fun rest => rest.head?.any isBlank || isHeader rest)
      (summary :: [] :: rest) = ([summary], [] :: rest) := by
    rw [spanUntil_cons_of_neg (by simpa [shown] using plain), spanUntil_of_stops (.inr rfl)]
  have body : spanUntil isHeader ([] :: rest) = ([[]], rest) := by
    rw [spanUntil_cons_of_neg plainGap, spanUntil_of_stops header]
  have nothing : paragraphText? [[]] = none := rfl
  rw [withProse, splitProse, List.dropWhile_cons_of_neg visible, first]
  simp only [body, nothing]
  by_cases rule : isTitleRule summary
  · simp [rule, joinWith, nonEmpty?]
  · simp [rule, joinWith_singleton]

theorem withProse_summary (phrase : IsPhrase summary)
    (plain : ¬ isHeader (summary :: [] :: rest)) (plainGap : ¬ isHeader ([] :: rest))
    (header : isHeader rest) :
    withProse isHeader (summary :: [] :: rest) =
      ({ summary := if isTitleRule summary then none else some summary }, rest) := by
  rw [withProse_line phrase.visible plain plainGap (.inr header), phrase.trimmed,
    nonEmpty?_eq_some phrase.ne_nil]

end Prose

/-- Lines that are put behind each other, a space between. -/
theorem foldl_extendedBy_some {lines : List Text} (all : ∀ l ∈ lines, IsPhrase l) {said : Text}
    (ne : said ≠ []) :
    lines.foldl extendedBy (some said) = some (joinWith " " (said :: lines)) := by
  induction lines generalizing said with
  | nil => rw [List.foldl_nil, joinWith_singleton]
  | cons line lines ih =>
    have phrase := all line List.mem_cons_self
    have rest : lines.foldl extendedBy (some (said ++ ' ' :: line)) =
        some (joinWith " " ((said ++ ' ' :: line) :: lines)) :=
      ih (fun l mem => all l (List.mem_cons_of_mem line mem)) (by simp)
    have step : extendedBy (some said) line = some (said ++ ' ' :: line) := by
      obtain ⟨c, more, rfl⟩ := List.exists_cons_of_ne_nil ne
      simp [extendedBy, phrase.trimmed, phrase.ne_nil]
    rw [List.foldl_cons, step, rest]
    cases lines with
    | nil => rw [joinWith_singleton, joinWith_cons _ _ (by simp), joinWith_singleton]; simp
    | cons next lines => simp [joinWith_cons]

theorem foldl_extendedBy_none {lines : List Text} (all : ∀ l ∈ lines, IsPhrase l) :
    lines.foldl extendedBy none = joined? lines := by
  cases lines with
  | nil => rfl
  | cons line lines =>
    have phrase := all line List.mem_cons_self
    have step : extendedBy none line = some line := by
      simp [extendedBy, phrase.trimmed, phrase.ne_nil]
    rw [List.foldl_cons, step]
    exact foldl_extendedBy_some (fun l mem => all l (List.mem_cons_of_mem line mem)) phrase.ne_nil

/-- The first line gives an entry, the others are put to its description. -/
theorem foldl_entry {σ ε : Type} {step : σ → Text → σ} (add : σ → List ε → σ)
    (describe : ε → Text → ε) {head : Text} {entry : ε} (more : List Text) (s : σ)
    (first : step s head = add s [entry])
    (further : ∀ e, ∀ line ∈ more, step (add s [e]) line = add s [describe e (trim line)]) :
    (head :: more).foldl step s = add s [(more.map trim).foldl describe entry] := by
  rw [List.foldl_cons, first]
  clear first
  induction more generalizing entry with
  | nil => rfl
  | cons line more ih =>
    have rest : more.foldl step (add s [describe entry (trim line)]) =
        add s [(more.map trim).foldl describe (describe entry (trim line))] :=
      ih fun e l mem => further e l (List.mem_cons_of_mem line mem)
    rw [List.foldl_cons, further entry line List.mem_cons_self, rest]
    rfl

/-- Entries that are written below each other are added in their order. -/
theorem foldl_entries {σ ε ω : Type} {step : σ → Text → σ} {add : σ → List ε → σ}
    {written : ω → List Text} {value : ω → ε} {ws : List ω} (none : ∀ s, add s [] = s)
    (more : ∀ s xs ys, add (add s xs) ys = add s (xs ++ ys))
    (each : ∀ w ∈ ws, ∀ s, (written w).foldl step s = add s [value w]) (s : σ) :
    (ws.flatMap written).foldl step s = add s (ws.map value) := by
  induction ws generalizing s with
  | nil => exact (none s).symm
  | cons w ws ih =>
    have first := each w List.mem_cons_self s
    have rest := ih (fun v mem => each v (List.mem_cons_of_mem w mem)) (add s [value w])
    rw [List.flatMap_cons, List.foldl_append, first, rest, more, List.map_cons,
      List.singleton_append]

/-- Describing again and again only changes the description. -/
theorem foldl_describe {ε : Type} (describe : ε → Text → ε) (description : ε → Option Text)
    (withDescription : ε → Option Text → ε)
    (step : ∀ e line, describe e line = withDescription e (extendedBy (description e) line))
    (get : ∀ e slot, description (withDescription e slot) = slot)
    (set : ∀ e slot slot', withDescription (withDescription e slot) slot' = withDescription e slot')
    (same : ∀ e, withDescription e (description e) = e) (lines : List Text) (e : ε) :
    lines.foldl describe e = withDescription e (lines.foldl extendedBy (description e)) := by
  induction lines generalizing e with
  | nil => exact (same e).symm
  | cons line lines ih => rw [List.foldl_cons, ih, step, get, set, List.foldl_cons]

def addParameters (doc : Docstring) (more : List Parameter) : Docstring :=
  { doc with parameters := doc.parameters ++ more }

def addRaises (doc : Docstring) (more : List Raise) : Docstring :=
  { doc with raises := doc.raises ++ more }

theorem addParameters_nil (doc : Docstring) : doc.addParameters [] = doc := by
  rw [addParameters, List.append_nil]

theorem addParameters_addParameters (doc : Docstring) (xs ys : List Parameter) :
    (doc.addParameters xs).addParameters ys = doc.addParameters (xs ++ ys) := by
  simp only [addParameters, List.append_assoc]

theorem addRaises_nil (doc : Docstring) : doc.addRaises [] = doc := by
  rw [addRaises, List.append_nil]

theorem addRaises_addRaises (doc : Docstring) (xs ys : List Raise) :
    (doc.addRaises xs).addRaises ys = doc.addRaises (xs ++ ys) := by
  simp only [addRaises, List.append_assoc]

theorem modify_concat {ε : Type} (entries : List ε) (last : ε) (f : ε → ε) :
    (entries ++ [last]).modify ((entries ++ [last]).length - 1) f = entries ++ [f last] := by
  induction entries with
  | nil => rfl
  | cons entry entries ih => simpa using ih

theorem describeLastParameter_addParameters (doc : Docstring) (p : Parameter) (line : Text) :
    (doc.addParameters [p]).describeLastParameter line = doc.addParameters [p.describe line] := by
  rw [describeLastParameter, addParameters, modify_concat]
  rfl

theorem describeLastRaise_addRaises (doc : Docstring) (r : Raise) (line : Text) :
    (doc.addRaises [r]).describeLastRaise line = doc.addRaises [r.describe line] := by
  rw [describeLastRaise, addRaises, modify_concat]
  rfl

def WrittenParameter.entry (p : WrittenParameter) : Parameter :=
  { name := p.name, type := p.type, description := joined? p.lines }

def WrittenResult.value (r : WrittenResult) : Returns :=
  { type := some r.type, description := joined? r.lines }

def WrittenResult.raise (r : WrittenResult) : Raise :=
  { type := r.type, description := joined? r.lines }

theorem foldl_describe_entry (p : WrittenParameter) (all : ∀ line ∈ p.lines, IsPhrase line) :
    p.lines.foldl Parameter.describe { name := p.name, type := p.type } = p.entry := by
  have described := foldl_describe Parameter.describe Parameter.description
    (fun p slot => { p with description := slot }) (fun _ _ => rfl) (fun _ _ => rfl)
    (fun _ _ _ => rfl) (fun _ => rfl) p.lines { name := p.name, type := p.type }
  rw [described, foldl_extendedBy_none all, WrittenParameter.entry]

theorem foldl_describe_value (r : WrittenResult) (all : ∀ line ∈ r.lines, IsPhrase line) :
    r.lines.foldl Returns.describe { type := some r.type } = r.value := by
  have described := foldl_describe Returns.describe Returns.description
    (fun r slot => { r with description := slot }) (fun _ _ => rfl) (fun _ _ => rfl)
    (fun _ _ _ => rfl) (fun _ => rfl) r.lines { type := some r.type }
  rw [described, foldl_extendedBy_none all, WrittenResult.value]

theorem foldl_describe_raise (r : WrittenResult) (all : ∀ line ∈ r.lines, IsPhrase line) :
    r.lines.foldl Raise.describe { type := r.type } = r.raise := by
  have described := foldl_describe Raise.describe Raise.description
    (fun r slot => { r with description := slot }) (fun _ _ => rfl) (fun _ _ => rfl)
    (fun _ _ _ => rfl) (fun _ => rfl) r.lines { type := r.type }
  rw [described, foldl_extendedBy_none all, WrittenResult.raise]

/-- What is to be read before references become links. -/
def Written.unlinked (w : Written) : Docstring :=
  { summary := if isTitleRule w.summary then none else some w.summary
    parameters := w.parameters.map (·.entry)
    returns := w.returns.map (·.value)
    raises := w.raises.map (·.raise) }

theorem Written.withMarkdown_unlinked (w : Written) : w.unlinked.withMarkdown = w.docstring := by
  have summary : (if isTitleRule w.summary then none else some w.summary).map Reference.toMarkdown =
      if isTitleRule w.summary then none else some (Reference.toMarkdown w.summary) := by
    split <;> rfl
  simp only [unlinked, withMarkdown, docstring, summary, List.map_map, Option.map_map,
    Function.comp_def, Option.map_none, List.map_nil, WrittenParameter.entry, WrittenResult.value,
    WrittenResult.raise]

/-- Sections that are read off one by one are added in their order. -/
theorem Layout.foldl_sectionLines {style : Layout} {gap : Nat} {σ : Type}
    {sections : List Text → List σ} {add : Docstring → σ → Docstring}
    {addTitled : Docstring → Text × List Text → Docstring} {secs : List (Text × List Text)}
    {IsWritten : Text × List Text → Prop} (none : sections [] = [])
    (each : ∀ title body more between, IsWritten (title, body) → (∀ sec ∈ more, IsWritten sec) →
      (∀ line ∈ between, line = []) →
      ∃ s, sections (style.header title ++ (body ++ between ++ style.sectionLines gap more)) =
          s :: sections (style.sectionLines gap more) ∧
        ∀ doc, add doc s = addTitled doc (title, body))
    (written : ∀ sec ∈ secs, IsWritten sec) (doc : Docstring) :
    (sections (style.sectionLines gap secs)).foldl add doc = secs.foldl addTitled doc := by
  induction secs generalizing doc with
  | nil => rw [sectionLines, none]; rfl
  | cons sec more ih =>
    obtain ⟨title, body⟩ := sec
    have later : ∀ sec ∈ more, IsWritten sec := fun sec mem =>
      written sec (List.mem_cons_of_mem _ mem)
    have empty : ∀ line ∈ (if more.isEmpty then [] else List.replicate gap ([] : Text)),
        line = [] := by
      intro line mem
      split at mem
      · exact absurd mem List.not_mem_nil
      · exact List.eq_of_mem_replicate mem
    obtain ⟨s, split, added⟩ := each title body more _ (written _ List.mem_cons_self) later empty
    rw [sectionLines, split, List.foldl_cons, added, ih later, List.foldl_cons]

/-- Sections are added one by one: the parameters, the value and the errors. -/
theorem Layout.foldl_sections (style : Layout) {w : Written}
    {add : Docstring → Text × List Text → Docstring}
    (parameters : ∀ doc, add doc (style.parametersTitle, w.parameters.flatMap style.parameter) =
      doc.addParameters (w.parameters.map (·.entry)))
    (returns : ∀ r ∈ w.returns, ∀ doc, doc.returns = none →
      add doc ("Returns", style.result r) = { doc with returns := some r.value })
    (raises : w.raises ≠ [] → ∀ doc, add doc ("Raises", w.raises.flatMap style.result) =
      doc.addRaises (w.raises.map (·.raise))) :
    (style.sections w).foldl add { summary := w.unlinked.summary } = w.unlinked := by
  have value : ∀ doc : Docstring, doc.returns = none →
      (w.returns.toList.map fun r => (("Returns" : Text), style.result r)).foldl add doc =
        { doc with returns := w.returns.map (·.value) } := by
    intro doc fresh
    cases known : w.returns with
    | none => rw [Option.map_none, ← fresh]; rfl
    | some r => exact returns r known doc fresh
  have errors : ∀ doc : Docstring, (if w.raises.isEmpty then []
      else [(("Raises" : Text), w.raises.flatMap style.result)]).foldl add doc =
        doc.addRaises (w.raises.map (·.raise)) := by
    intro doc
    by_cases empty : w.raises = []
    · rw [empty, List.map_nil, addRaises_nil]
      rfl
    · rw [if_neg (by simpa using empty)]
      exact raises empty doc
  simp only [sections]
  rw [List.foldl_cons, parameters, List.foldl_append, value _ rfl, errors]
  rfl

theorem parser_nil (kind : DocstringStyle) : kind.parser [] = {} := by
  cases kind with
  | numpy =>
    have none : NumPy.sections [] = [] := by rw [NumPy.sections]
    exact congrArg (List.foldl NumPy.addSection {}) none
  | google =>
    have none : Google.sections [] = [] := by rw [Google.sections]
    exact congrArg (List.foldl Google.addSection {}) none
  | fieldList =>
    have none : FieldList.addLines {} .nothing [] = {} := by rw [FieldList.addLines]
    exact none

/-- A text without lines is no exception. -/
theorem parse_eq (text : Text) :
    parse text = ((DocstringStyle.detect text).parser (tidyLines text)).withMarkdown := by
  rw [parse]
  cases tidyLines text with
  | nil => rw [parser_nil]; rfl
  | cons line lines => rfl

/-- What a parser finds in the lines is what parsing the text gives. -/
theorem Layout.IsVisible.parse_text {style : Layout} {gap : Nat} {w : Written}
    (seen : style.IsVisible w) {kind : DocstringStyle}
    (told : DocstringStyle.detect (style.text gap w) = kind)
    (read : kind.parser (style.lines gap w) = w.unlinked) :
    parse (style.text gap w) = w.docstring := by
  rw [parse_eq, told, seen.tidyLines_text, read, w.withMarkdown_unlinked]

end Docstring
end SymbolDocs
