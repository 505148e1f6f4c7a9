import SymbolDocs.Lookup.Registry
import SymbolDocs.Proofs.Web.Run

namespace SymbolDocs

variable {α β : Type}

/-- Work on the web keeps an invariant and has a value as stated, or it has no outcome and leaves a
world as stated. -/
def Web.Yields (I failed : World → Prop) (post : α → Prop) (x : Web α) : Prop :=
  Triple I x (fun a w => I w ∧ post a) failed

/-- The same for lookups. -/
def Lookup.Yields (I : Memory → World → Prop) (failed : World → Prop) (post : α → Prop)
    (x : Lookup α) : Prop :=
  ∀ m, Web.Triple (I m) (x m) (fun result w => I result.2 w ∧ post result.1) failed

namespace Web.Yields

variable {I failed : World → Prop} {post : α → Prop} {next : β → Prop}

theorem pure {a : α} (h : post a) : Yields I failed post (pure a : Web α) :=
  Triple.pure fun _ inv => ⟨inv, h⟩

theorem bind {x : Web α} {f : α → Web β} (hx : Yields I failed post x)
    (hf : ∀ a, post a → Yields I failed next (f a)) : Yields I failed next (x >>= f) :=
  Triple.bind hx fun a w here => hf a here.2 w here.1

end Web.Yields

namespace Lookup

theorem bind_eq_some_iff {x : Lookup α} {f : α → Lookup β} {m m'' : Memory} {w w'' : World} {b : β} :
    (x >>= f) m w = (some (b, m''), w'') ↔
      ∃ a m' w', x m w = (some (a, m'), w') ∧ f a m' w' = (some (b, m''), w'') := by
  constructor
  · intro run
    obtain ⟨⟨a, m'⟩, w', first, second⟩ := Web.bind_eq_some_iff.mp run
    exact ⟨a, m', w', first, second⟩
  · rintro ⟨a, m', w', first, second⟩
    exact Web.bind_eq_some_iff.mpr ⟨(a, m'), w', first, second⟩

theorem exists_of_isSome {x : Lookup α} {m : Memory} {w : World} (h : (x m w).1.isSome) :
    ∃ a m' w', x m w = (some (a, m'), w') := by
  rcases run : x m w with ⟨_ | ⟨a, m'⟩, w'⟩
  · rw [run] at h
    cases h
  · exact ⟨a, m', w', rfl⟩

theorem pure_eq_some_iff {a b : α} {m m' : Memory} {w w' : World} :
    (pure a : Lookup α) m w = (some (b, m'), w') ↔ a = b ∧ m = m' ∧ w = w' := by
  constructor
  · intro run
    cases run
    exact ⟨rfl, rfl, rfl⟩
  · rintro ⟨rfl, rfl, rfl⟩
    rfl

theorem triple_bind {x : Lookup α} {f : α → Lookup β} {m : Memory} {pre failed : World → Prop}
    {mid : α × Memory → World → Prop} {post : β × Memory → World → Prop}
    (hx : Web.Triple pre (x m) mid failed)
    (hf : ∀ a m', Web.Triple (mid (a, m')) (f a m') post failed) :
    Web.Triple pre ((x >>= f) m) post failed := Web.Triple.bind hx fun (a, m') => hf a m'

section Remember

variable {table : Memory → List (Text × α)} {extend : (Text × α) → Memory → Memory} {key : Text}
  {m : Memory}

theorem get_bind (f : Memory → Lookup α) (m : Memory) : (get >>= f) m = f m m := rfl

theorem remember_of_some {a : α} (known : (table m).lookup key = some a) (load : Lookup α) :
    remember table extend key load m = pure (a, m) := by
  rw [remember, get_bind, known]
  rfl

theorem remember_of_none (new : (table m).lookup key = none) (load : Lookup α) :
    remember table extend key load m =
      load m >>= fun loaded => pure (loaded.1, extend (key, loaded.1) loaded.2) := by
  rw [remember, get_bind, new]
  rfl

/-- A value was known before, or else it was loaded and is remembered. -/
theorem remember_cases {load : Lookup α} {m' : Memory} {w w' : World} {a : α}
    (run : remember table extend key load m w = (some (a, m'), w')) :
    ((table m).lookup key = some a ∧ m' = m ∧ w' = w) ∨
      ((table m).lookup key = none ∧
        ∃ loaded, load m w = (some (a, loaded), w') ∧ m' = extend (key, a) loaded) := by
  cases known : (table m).lookup key with
  | some b =>
    rw [remember_of_some known] at run
    cases run
    exact .inl ⟨rfl, rfl, rfl⟩
  | none =>
    rw [remember_of_none known] at run
    obtain ⟨⟨b, loaded⟩, w₁, first, second⟩ := Web.bind_eq_some_iff.mp run
    cases second
    exact .inr ⟨rfl, loaded, first, rfl⟩

end Remember

end Lookup

namespace Lookup.Yields

variable {I : Memory → World → Prop} {failed : World → Prop} {post : α → Prop} {next : β → Prop}

theorem value {x : Lookup α} (h : Yields I failed post x) {m m' : Memory} {w w' : World} {a : α}
    (inv : I m w) (run : x m w = (some (a, m'), w')) : I m' w' ∧ post a :=
  (h m w inv).of_some run

theorem pure {a : α} (h : post a) : Yields I failed post (pure a : Lookup α) := fun _ =>
  Web.Triple.pure fun _ inv => ⟨inv, h⟩

theorem bind {x : Lookup α} {f : α → Lookup β} (hx : Yields I failed post x)
    (hf : ∀ a, post a → Yields I failed next (f a)) : Yields I failed next (x >>= f) := fun m =>
  Web.Triple.bind (hx m) fun (a, m') w here => hf a here.2 m' w here.1

theorem lift {x : Web α} (h : ∀ m, Web.Yields (I m) failed post x) :
    Yields I failed post (liftM x) := fun m =>
  Web.Triple.bind (h m) fun _ => Web.Triple.pure fun _ here => here

/-- What is remembered is as stated if it was so when it was loaded. -/
theorem remember {table : Memory → List (Text × α)} {extend : (Text × α) → Memory → Memory}
    {key : Text} {load : Lookup α}
    (found : ∀ m w a, I m w → (table m).lookup key = some a → post a)
    (added : ∀ m w a, I m w → post a → I (extend (key, a) m) w)
    (h : Yields I failed post load) : Yields I failed post (remember table extend key load) := by
  intro m
  cases known : (table m).lookup key with
  | some a =>
    rw [remember_of_some known]
    exact Web.Triple.pure fun w inv => ⟨inv, found m w a inv known⟩
  | none =>
    rw [remember_of_none known]
    exact Web.Triple.bind (h m) fun (a, m') => Web.Triple.pure fun w here =>
      ⟨added m' w a here.1 here.2, here.2⟩

end Lookup.Yields
end SymbolDocs
