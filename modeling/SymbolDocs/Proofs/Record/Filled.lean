import SymbolDocs.Enrichment
import SymbolDocs.Proofs.Record.Badges
import SymbolDocs.Proofs.Text.Names

namespace SymbolDocs

namespace Parameter

/-- What a parameter says is still said. -/
structure Keeps (p q : Parameter) : Prop where
  name : q.name = p.name
  default : q.default = p.default
  type {t : Text} : p.type = some t → q.type = some t
  description {d : Text} : p.description = some d → q.description = some d

theorem Keeps.refl (p : Parameter) : p.Keeps p := ⟨rfl, rfl, id, id⟩

theorem Keeps.trans {p q s : Parameter} (h : p.Keeps q) (h' : q.Keeps s) : p.Keeps s where
  name := h'.name.trans h.name
  default := h'.default.trans h.default
  type set := h'.type (h.type set)
  description set := h'.description (h.description set)

theorem keeps_fill (p other : Parameter) : p.Keeps (p.fill other) where
  name := rfl
  default := rfl
  type set := by rw [fill, set, Option.some_or]
  description set := by rw [fill, set, Option.some_or]

theorem fill_fill (p other : Parameter) : (p.fill other).fill other = p.fill other := by
  simp only [fill, Option.or_assoc, Option.or_self]

/-- A parameter with nothing to add has nothing to add to what another one has filled. -/
theorem fill_of_fill {p other : Parameter} (idle : p.fill other = p) (next : Parameter) :
    (p.fill next).fill other = p.fill next := by
  have type : p.type.or other.type = p.type := congrArg Parameter.type idle
  have description : p.description.or other.description = p.description :=
    congrArg Parameter.description idle
  have merged {a b c : Option Text} (h : a.or c = a) : (a.or b).or c = a.or b := by
    cases a with
    | some x => rfl
    | none => rw [Option.none_or] at h; rw [h, Option.or_none]
  simp only [fill, merged type, merged description]

end Parameter

/-- Steps that do nothing once they have been taken do nothing when all are taken again. -/
theorem foldl_foldl {σ α : Type} (step : σ → α → σ) (again : ∀ s a, step (step s a) a = step s a)
    (stays : ∀ s a b, step s a = s → step (step s b) a = step s b) (as : List α) (s : σ) :
    as.foldl step (as.foldl step s) = as.foldl step s := by
  have kept (a : α) (as : List α) (s : σ) (idle : step s a = s) :
      step (as.foldl step s) a = as.foldl step s := by
    induction as generalizing s with
    | nil => exact idle
    | cons b as ih => exact ih _ (stays s a b idle)
  have taken (as : List α) (s : σ) : ∀ a ∈ as, step (as.foldl step s) a = as.foldl step s := by
    induction as generalizing s with
    | nil => intro a mem; exact absurd mem List.not_mem_nil
    | cons b as ih =>
      intro a mem
      rcases List.mem_cons.mp mem with rfl | mem
      · exact kept a as _ (again s a)
      · exact ih _ a mem
  exact foldl_eq_self (taken as s)

section Parameters

variable {p : Parameter} {ps : List Parameter}

theorem addParameter_addParameter (p : Parameter) (ps : List Parameter) :
    addParameter p (addParameter p ps) = addParameter p ps := by
  induction ps with
  | nil =>
    have same : p.fill p = p := by simp only [Parameter.fill, Option.or_self]
    simp only [addParameter, same, if_true]
  | cons q ps ih =>
    by_cases named : q.name = p.name
    · have named' : (q.fill p).name = p.name := named
      rw [addParameter, if_pos named, addParameter, if_pos named', Parameter.fill_fill]
    · rw [addParameter, if_neg named, addParameter, if_neg named, ih]

theorem addParameter_of_addParameter (idle : addParameter p ps = ps) (q : Parameter) :
    addParameter p (addParameter q ps) = addParameter q ps := by
  induction ps with
  | nil => simp [addParameter] at idle
  | cons s ps ih =>
    have sameName : (s.fill q).name = s.name := rfl
    by_cases named : s.name = p.name
    · rw [addParameter, if_pos named] at idle
      have filled := (List.cons.inj idle).1
      by_cases next : s.name = q.name
      · rw [addParameter, if_pos next, addParameter, if_pos (sameName.trans named),
          Parameter.fill_of_fill filled]
      · rw [addParameter, if_neg next, addParameter, if_pos named, filled]
    · rw [addParameter, if_neg named] at idle
      have rest := (List.cons.inj idle).2
      by_cases next : s.name = q.name
      · rw [addParameter, if_pos next, addParameter, if_neg (sameName ▸ named), rest]
      · rw [addParameter, if_neg next, addParameter, if_neg named, ih rest]

/-- All parameters stay in their places. -/
def KeepsPlaces (ps qs : List Parameter) : Prop :=
  ∀ {i : Nat} {p : Parameter}, ps[i]? = some p → ∃ q, qs[i]? = some q ∧ p.Keeps q

theorem keepsPlaces_addParameter (p : Parameter) (ps : List Parameter) :
    KeepsPlaces ps (addParameter p ps) := by
  induction ps with
  | nil => intro i s at_i; simp at at_i
  | cons q ps ih =>
    intro i s at_i
    by_cases named : q.name = p.name
    · rw [addParameter, if_pos named]
      cases i with
      | zero =>
        obtain rfl : q = s := by simpa using at_i
        exact ⟨q.fill p, rfl, q.keeps_fill p⟩
      | succ i => exact ⟨s, at_i, .refl s⟩
    · rw [addParameter, if_neg named]
      cases i with
      | zero =>
        obtain rfl : q = s := by simpa using at_i
        exact ⟨q, rfl, .refl q⟩
      | succ i => exact ih at_i

theorem keepsPlaces_foldl (added ps : List Parameter) :
    KeepsPlaces ps (added.foldl (fun ps p => addParameter p ps) ps) := by
  induction added generalizing ps with
  | nil => intro i p at_i; exact ⟨p, at_i, .refl p⟩
  | cons p added ih =>
    intro i s at_i
    obtain ⟨q, at_i', kept⟩ := keepsPlaces_addParameter p ps at_i
    obtain ⟨t, at_i'', kept'⟩ := ih (addParameter p ps) at_i'
    exact ⟨t, at_i'', kept.trans kept'⟩

/-- Names that are not known, each of them once. -/
def newNames (known names : List Text) : List Text := (names.removeAll known).eraseDups

theorem newNames_nil (known : List Text) : newNames known [] = [] := rfl

theorem nodup_append_newNames {known : List Text} (distinct : known.Nodup) (names : List Text) :
    (known ++ newNames known names).Nodup := by
  refine List.nodup_append.mpr ⟨distinct, Text.nodup_eraseDups _, ?_⟩
  intro name mem name' mem' same
  rw [newNames, List.mem_eraseDups, List.removeAll, List.mem_filter, ← same] at mem'
  simp [mem] at mem'

theorem map_name_addParameter (p : Parameter) (ps : List Parameter) :
    (addParameter p ps).map (·.name) = Text.withName p.name (ps.map (·.name)) := by
  induction ps with
  | nil => rfl
  | cons q ps ih =>
    have sameName : (q.fill p).name = q.name := rfl
    rw [addParameter, List.map_cons]
    by_cases named : q.name = p.name
    · rw [if_pos named, List.map_cons, sameName, named, Text.withName_cons_self]
    · rw [if_neg named, List.map_cons, ih, Text.withName_cons_of_ne named]

theorem map_name_foldl (added ps : List Parameter) :
    (added.foldl (fun ps p => addParameter p ps) ps).map (·.name) =
      ps.map (·.name) ++ newNames (ps.map (·.name)) (added.map (·.name)) := by
  induction added generalizing ps with
  | nil => simp [newNames, List.removeAll]
  | cons p added ih =>
    rw [List.foldl_cons, ih, map_name_addParameter, List.map_cons, newNames, newNames]
    by_cases known : p.name ∈ ps.map (·.name)
    · have skipped : (p.name :: added.map (·.name)).removeAll (ps.map (·.name)) =
          (added.map (·.name)).removeAll (ps.map (·.name)) := by
        rw [List.removeAll, List.filter_cons_of_neg (by simpa using known), List.removeAll]
      rw [Text.withName_of_mem known, skipped]
    · have first : (p.name :: added.map (·.name)).removeAll (ps.map (·.name)) =
          p.name :: (added.map (·.name)).removeAll (ps.map (·.name)) := by
        rw [List.removeAll, List.filter_cons_of_pos (by simpa using known), List.removeAll]
      have others : (added.map (·.name)).removeAll (ps.map (·.name) ++ [p.name]) =
          ((added.map (·.name)).removeAll (ps.map (·.name))).filter (!· == p.name) := by
        rw [List.removeAll, List.removeAll, List.filter_filter]
        refine List.filter_congr fun name _ => ?_
        rw [List.elem_eq_contains, List.elem_eq_contains, List.contains_append, Bool.not_or,
          Bool.and_comm, List.contains_cons, List.contains_nil, Bool.or_false]
      rw [Text.withName_of_notMem known, first, List.eraseDups_cons, others, List.append_assoc,
        List.singleton_append]

end Parameters

namespace Record

def parameterNames (r : Record) : List Text := r.parameters.map (·.name)

/-- All that a record says is still said. -/
structure Keeps (r s : Record) : Prop where
  title : s.title = r.title
  source : s.source = r.source
  confidence : s.confidence = r.confidence
  links : s.links = r.links
  related : s.related = r.related
  summary {text : Text} : r.summary = some text → ¬ Text.isBlank text → ¬ isStandInSummary text →
    s.summary = some text
  signature {text : Text} : r.signature = some text → s.signature = some text
  kind {text : Text} : r.kind = some text → s.kind = some text
  url {text : Text} : r.url = some text → s.url = some text
  returns {x : Returns} : r.returns = some x → s.returns = some x
  raises : r.raises ≠ [] → s.raises = r.raises
  examples : r.examples ≠ [] → s.examples = r.examples
  parameters : KeepsPlaces r.parameters s.parameters
  badges : r.badges <+: s.badges

/-- Work on records that keeps what they say, adds parameters of the new names only, so that
different names stay different, and has nothing to do a second time. -/
structure IsFilling (names : List Text) (fill : Record → Record) : Prop where
  keeps (r : Record) : r.Keeps (fill r)
  names (r : Record) : (fill r).parameterNames =
    r.parameterNames ++ newNames r.parameterNames names
  distinct {r : Record} : r.parameterNames.Nodup → (fill r).parameterNames.Nodup
  again (r : Record) : fill (fill r) = fill r

theorem IsFilling.of_parameters_eq {fill : Record → Record} (keeps : ∀ r : Record, r.Keeps (fill r))
    (parameters : ∀ r, (fill r).parameters = r.parameters) (again : ∀ r, fill (fill r) = fill r) :
    IsFilling [] fill where
  keeps := keeps
  names r := by
    rw [newNames_nil, List.append_nil, parameterNames, parameters, parameterNames]
  distinct {r} distinct := by
    rwa [parameterNames, parameters]
  again := again

theorem Keeps.trans {r s t : Record} (h : r.Keeps s) (h' : s.Keeps t) : r.Keeps t where
  title := h'.title.trans h.title
  source := h'.source.trans h.source
  confidence := h'.confidence.trans h.confidence
  links := h'.links.trans h.links
  related := h'.related.trans h.related
  summary set said real := h'.summary (h.summary set said real) said real
  signature set := h'.signature (h.signature set)
  kind set := h'.kind (h.kind set)
  url set := h'.url (h.url set)
  returns set := h'.returns (h.returns set)
  raises set := (h'.raises (h.raises set ▸ set)).trans (h.raises set)
  examples set := (h'.examples (h.examples set ▸ set)).trans (h.examples set)
  parameters at_i := by
    obtain ⟨q, at_i', kept⟩ := h.parameters at_i
    obtain ⟨t, at_i'', kept'⟩ := h'.parameters at_i'
    exact ⟨t, at_i'', kept.trans kept'⟩
  badges := h.badges.trans h'.badges

/-- One filling after another, if the second leaves nothing to the first. -/
theorem IsFilling.comp {names : List Text} {fill next : Record → Record} (h : IsFilling [] fill)
    (h' : IsFilling names next) (swap : ∀ r, fill (next r) = next (fill r)) :
    IsFilling names fun r => next (fill r) := by
  have same (r : Record) : (fill r).parameterNames = r.parameterNames := by
    rw [h.names, newNames_nil, List.append_nil]
  exact
    { keeps := fun r => (h.keeps r).trans (h'.keeps (fill r))
      names := fun r => by rw [h'.names, same]
      distinct := fun {r} distinct => h'.distinct ((same r).symm ▸ distinct)
      again := fun r => by rw [swap, h.again, h'.again] }

theorem needsSummary_eq_false {r : Record} {text : Text} (set : r.summary = some text)
    (said : ¬ Text.isBlank text) (real : ¬ isStandInSummary text) : r.needsSummary = false := by
  simp [needsSummary, set, said, real]

theorem keeps_withDocstring (r : Record) (doc : Docstring) : r.Keeps (r.withDocstring doc) where
  title := rfl
  source := rfl
  confidence := rfl
  links := rfl
  related := rfl
  summary set said real := by
    rw [withDocstring, needsSummary_eq_false set said real]
    exact set
  signature := id
  kind := id
  url := id
  returns set := by rw [withDocstring, set, Option.some_or]
  raises set := if_neg (by simpa using set)
  examples set := if_neg (by simpa using set)
  parameters := keepsPlaces_foldl doc.parameters r.parameters
  badges := List.prefix_rfl

theorem withDocstring_withDocstring (r : Record) (doc : Docstring) :
    (r.withDocstring doc).withDocstring doc = r.withDocstring doc := by
  have summary : ((r.withDocstring doc).withDocstring doc).summary =
      (r.withDocstring doc).summary := by
    by_cases needs : r.needsSummary
    · -- what has been written may be in need of a summary itself
      have written : (r.withDocstring doc).summary = doc.markdown?.or r.summary := if_pos needs
      rw [withDocstring]
      simp only [written]
      split
      · rw [← Option.or_assoc, Option.or_self]
      · rfl
    · have kept : (r.withDocstring doc).summary = r.summary := if_neg needs
      have needs' : ¬ (r.withDocstring doc).needsSummary := by rwa [needsSummary, kept]
      exact if_neg needs'
  have parameters : ((r.withDocstring doc).withDocstring doc).parameters =
      (r.withDocstring doc).parameters :=
    foldl_foldl (fun ps p => addParameter p ps) (fun ps p => addParameter_addParameter p ps)
      (fun _ _ q idle => addParameter_of_addParameter idle q) doc.parameters r.parameters
  have filled {α : Type} (xs ys : List α) :
      (if (if xs.isEmpty then ys else xs).isEmpty then ys else if xs.isEmpty then ys else xs) =
        if xs.isEmpty then ys else xs := by
    cases xs <;> simp
  have raises : ((r.withDocstring doc).withDocstring doc).raises = (r.withDocstring doc).raises :=
    filled r.raises doc.raises
  have examples : ((r.withDocstring doc).withDocstring doc).examples =
      (r.withDocstring doc).examples := filled r.examples doc.examples
  have returns : ((r.withDocstring doc).withDocstring doc).returns =
      (r.withDocstring doc).returns := by
    show (r.returns.or doc.returns).or doc.returns = r.returns.or doc.returns
    rw [Option.or_assoc, Option.or_self]
  rw [withDocstring] at summary parameters raises examples returns ⊢
  simp only at summary parameters raises examples returns
  rw [summary, parameters, raises, examples, returns]

theorem isFilling_withDocstring (doc : Docstring) :
    IsFilling (doc.parameters.map (·.name)) (·.withDocstring doc) where
  keeps r := r.keeps_withDocstring doc
  names r := map_name_foldl doc.parameters r.parameters
  distinct {r} distinct := by
    have names := map_name_foldl doc.parameters r.parameters
    show ((r.withDocstring doc).parameters.map (·.name)).Nodup
    rw [withDocstring, names]
    exact nodup_append_newNames distinct _
  again r := r.withDocstring_withDocstring doc

theorem keeps_withStub (r : Record) (stub : StubInfo) : r.Keeps (r.withStub stub) := by
  obtain ⟨more, added⟩ := exists_withStub_eq r stub
  rw [added]
  exact
    { title := rfl, source := rfl, confidence := rfl, links := rfl, related := rfl
      summary := fun set _ _ => set
      signature := fun set => by rw [set, Option.some_or]
      kind := id, url := id, returns := id
      raises := fun _ => rfl
      examples := fun _ => rfl
      parameters := fun at_i => ⟨_, at_i, .refl _⟩
      badges := List.prefix_append r.badges more }

theorem withStub_withStub (r : Record) (stub : StubInfo) :
    (r.withStub stub).withStub stub = r.withStub stub := by
  have signature : (r.withStub stub).signature = r.signature.or stub.signature := by
    obtain ⟨more, added⟩ := exists_withStub_eq r stub
    rw [added]
  have same : { r.withStub stub with
      signature := (r.withStub stub).signature.or stub.signature } = r.withStub stub := by
    rw [signature, Option.or_assoc, Option.or_self, ← signature]
  rw [withStub, same, withStub, addBadges_addBadges]

theorem isFilling_withStub (stub : StubInfo) : IsFilling [] (·.withStub stub) := by
  refine .of_parameters_eq (·.keeps_withStub stub) (fun r => ?_) (·.withStub_withStub stub)
  obtain ⟨more, added⟩ := exists_withStub_eq r stub
  rw [added]

/-- The signature, the kind and the address where they are missing. -/
def filledFrom (info : RuntimeInfo) (r : Record) : Record :=
  { r with
    signature := r.signature.or (info.signature.filter (!Text.isBlank ·))
    kind := r.kind.or info.kind
    url := r.url.or info.url }

theorem keeps_filledFrom (info : RuntimeInfo) (r : Record) : r.Keeps (r.filledFrom info) where
  title := rfl
  source := rfl
  confidence := rfl
  links := rfl
  related := rfl
  summary set _ _ := set
  signature set := by rw [filledFrom, set, Option.some_or]
  kind set := by rw [filledFrom, set, Option.some_or]
  url set := by rw [filledFrom, set, Option.some_or]
  returns := id
  raises _ := rfl
  examples _ := rfl
  parameters at_i := ⟨_, at_i, .refl _⟩
  badges := List.prefix_rfl

theorem filledFrom_filledFrom (info : RuntimeInfo) (r : Record) :
    (r.filledFrom info).filledFrom info = r.filledFrom info := by
  simp only [filledFrom, Option.or_assoc, Option.or_self]

theorem filledFrom_withDocstring (info : RuntimeInfo) (doc : Docstring) (r : Record) :
    (r.withDocstring doc).filledFrom info = (r.filledFrom info).withDocstring doc := rfl

/-- The names of the parameters that an interpreter's docstring describes. -/
def describedNames (info : RuntimeInfo) : List Text :=
  (info.docs?.map fun doc => doc.parameters.map (·.name)).getD []

theorem isFilling_filledFrom (info : RuntimeInfo) : IsFilling [] (filledFrom info) :=
  .of_parameters_eq (keeps_filledFrom info) (fun _ => rfl) (filledFrom_filledFrom info)

theorem isFilling_withRuntime (info : RuntimeInfo) :
    IsFilling (describedNames info) (·.withRuntime info) := by
  have filling := isFilling_filledFrom info
  cases docs : info.docs? with
  | none =>
    have runs : (fun r : Record => r.withRuntime info) = filledFrom info := by
      funext r
      rw [withRuntime, docs]
      rfl
    rw [runs, describedNames, docs]
    exact filling
  | some doc =>
    have runs : (fun r : Record => r.withRuntime info) =
        fun r => (r.filledFrom info).withDocstring doc := by
      funext r
      rw [withRuntime, docs]
      rfl
    rw [runs, describedNames, docs]
    exact filling.comp (isFilling_withDocstring doc) (filledFrom_withDocstring info doc)

/-- Every enrichment only fills what is open. -/
theorem isFilling_enrichments :
    (∀ doc : Docstring, IsFilling (doc.parameters.map (·.name)) (·.withDocstring doc)) ∧
    (∀ stub : StubInfo, IsFilling [] (·.withStub stub)) ∧
    ∀ info : RuntimeInfo, IsFilling (describedNames info) (·.withRuntime info) :=
  ⟨isFilling_withDocstring, isFilling_withStub, isFilling_withRuntime⟩

example : ((titled "f" .runtime).withDocstring
    { parameters := [⟨"x", none, none, none⟩, ⟨"x", some "int", none, none⟩] }).parameters =
    [⟨"x", some "int", none, none⟩] := by decide

end Record
end SymbolDocs
