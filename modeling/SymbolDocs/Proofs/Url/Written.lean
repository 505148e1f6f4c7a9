import SymbolDocs.Url.Parse
import SymbolDocs.Proofs.Text.Cut
import SymbolDocs.Proofs.Text.Words

namespace SymbolDocs

open Text

/-- Text without control characters of ASCII up to the space. -/
def Text.IsControlFree (s : Text) : Prop := ∀ c ∈ s, 0x20 ≤ c.toNat

namespace Text.IsControlFree

variable {s t : Text}

instance (s : Text) : Decidable s.IsControlFree :=
  List.decidableBAll (fun c : Char => 0x20 ≤ c.toNat) s

theorem nil : IsControlFree [] := fun _ mem => absurd mem List.not_mem_nil

theorem append (free : s.IsControlFree) (free' : t.IsControlFree) : (s ++ t).IsControlFree :=
  fun c mem => (List.mem_append.mp mem).elim (free c) (free' c)

theorem cons {c : Char} (here : 0x20 ≤ c.toNat) (free : s.IsControlFree) :
    IsControlFree (c :: s) := fun d mem => by
  rcases List.mem_cons.mp mem with rfl | mem
  · exact here
  · exact free d mem

theorem slash : IsControlFree ['/'] := by decide

theorem of_subset (free : s.IsControlFree) (inside : t ⊆ s) : t.IsControlFree :=
  fun c mem => free c (inside mem)

theorem joinWith {sep : Text} {pieces : List Text} (free : sep.IsControlFree)
    (all : ∀ p ∈ pieces, p.IsControlFree) : (joinWith sep pieces).IsControlFree := by
  intro c mem
  by_contra control
  refine not_mem_joinWith_of_not_mem (fun here => control (free c here)) ?_ mem
  exact fun p inside here => control (all p inside c here)

end Text.IsControlFree

theorem digitChar_ge {n : Nat} (small : n < 16) :
    0x20 ≤ (Nat.digitChar n).toNat ∧ 0x20 ≤ (Nat.digitChar n).toUpper.toNat := by
  have all : ∀ m : Fin 16,
      0x20 ≤ (Nat.digitChar m).toNat ∧ 0x20 ≤ (Nat.digitChar m).toUpper.toNat := by decide
  exact all ⟨n, small⟩

theorem isControlFree_toDigits {base : Nat} (least : 1 < base) (most : base ≤ 16) (n : Nat) :
    Text.IsControlFree (Nat.toDigits base n) := by
  induction n using Nat.strongRecOn with
  | ind n ih =>
    by_cases small : n < base
    · rw [Nat.toDigits_of_lt_base small]
      exact .cons (digitChar_ge (by omega)).1 .nil
    · have digit : n % base < 16 := (Nat.mod_lt n (by omega)).trans_le most
      have less : n / base < n := Nat.div_lt_self (by omega) least
      rw [Nat.toDigits_of_base_le least (Nat.le_of_not_lt small)]
      exact (ih (n / base) less).append (.cons (digitChar_ge digit).1 .nil)

/-- Characters of a kind that no control character is of. -/
theorem ge_of_none {p : Char → Bool} (none : ∀ n : Fin 0x20, ¬ p (Char.ofNat n)) {c : Char}
    (here : p c) : 0x20 ≤ c.toNat := by
  by_contra control
  have not := none ⟨c.toNat, Nat.lt_of_not_le control⟩
  rw [Char.ofNat_toNat] at not
  exact not here

theorem ge_toLower {c : Char} (shown : 0x20 ≤ c.toNat) : 0x20 ≤ c.toLower.toNat := by
  by_cases upper : c.val ≥ 'A'.val ∧ c.val ≤ 'Z'.val
  · have raised : c.toLower.val = c.val + 32 := congrArg Char.val (dif_pos upper)
    have greatest : c.val.toNat ≤ 90 := UInt32.le_iff_toNat_le.mp upper.2
    have value : c.toLower.toNat = (c.val.toNat + 32) % 2 ^ 32 := congrArg UInt32.toNat raised
    omega
  · have same : c.toLower = c := dif_neg upper
    rwa [same]

namespace Url

theorem isControlFree_percentByte (b : UInt8) : (percentByte b).IsControlFree := by
  have digit : ∀ n : Nat, 0x20 ≤ (upperHexDigit n).toNat := fun n =>
    (digitChar_ge (Nat.mod_lt n (by decide))).2
  exact .cons (by decide) (.cons (digit _) (.cons (digit _) .nil))

/-- Percent-encoding leaves no control character. -/
theorem isControlFree_percentEncode {inSet : Char → Bool} (all : ∀ {c}, inControlSet c → inSet c)
    (s : Text) : (percentEncode inSet s).IsControlFree := by
  intro c mem
  obtain ⟨d, -, mem⟩ := List.mem_flatMap.mp mem
  by_cases encoded : inSet d
  · rw [if_pos encoded] at mem
    obtain ⟨b, -, mem⟩ := List.mem_flatMap.mp mem
    exact isControlFree_percentByte b c mem
  · rw [if_neg encoded] at mem
    rw [List.mem_singleton.mp mem]
    by_contra control
    refine encoded (all ?_)
    rw [inControlSet, Bool.or_eq_true, decide_eq_true_eq]
    exact .inl (Nat.lt_of_not_le control)

section Sets

variable {c : Char}

theorem inFragmentSet_of_inControlSet (control : inControlSet c) : inFragmentSet c := by
  rw [inFragmentSet, control, Bool.true_or]

theorem inQuerySet_of_inControlSet (control : inControlSet c) : inQuerySet c := by
  rw [inQuerySet, control, Bool.true_or]

theorem inSpecialQuerySet_of_inControlSet (control : inControlSet c) : inSpecialQuerySet c := by
  rw [inSpecialQuerySet, inQuerySet_of_inControlSet control, Bool.true_or]

theorem inPathSet_of_inControlSet (control : inControlSet c) : inPathSet c := by
  rw [inPathSet, inQuerySet_of_inControlSet control, Bool.true_or]

theorem inUserinfoSet_of_inControlSet (control : inControlSet c) : inUserinfoSet c := by
  rw [inUserinfoSet, inPathSet_of_inControlSet control, Bool.true_or]

end Sets

section Path

variable {path : Text}

theorem ge_of_isAlpha {c : Char} (letter : c.isAlpha) : 0x20 ≤ c.toNat :=
  ge_of_none (p := Char.isAlpha) (by decide) letter

theorem isControlFree_of_isDriveLetter {s : Text} (drive : isDriveLetter s) :
    s.IsControlFree := by
  unfold isDriveLetter at drive
  split at drive
  · next letter mark =>
    rw [Bool.and_eq_true, Bool.or_eq_true, beq_iff_eq, beq_iff_eq] at drive
    have ends : 0x20 ≤ mark.toNat := by
      rcases drive.2 with rfl | rfl
      · decide
      · decide
    exact .cons (ge_of_isAlpha drive.1) (.cons ends .nil)
  · exact absurd drive Bool.false_ne_true

theorem parentPath_subset (isFile : Bool) (path : Text) : parentPath isFile path ⊆ path := by
  rw [parentPath]
  split
  · exact fun _ mem => mem
  · exact (List.take_sublist _ _).subset

theorem upPath_subset (isFile : Bool) (path : Text) : upPath isFile path ⊆ path := by
  rw [upPath]
  split
  · next front eq =>
    have whole := before?_eq_some_iff.mp eq
    have inside : front ⊆ path := by
      rw [whole]
      exact List.subset_append_left ..
    split
    · exact List.Subset.trans (parentPath_subset isFile front) inside
    · exact fun _ mem => mem
  · exact parentPath_subset isFile path

theorem isControlFree_closedPath (free : path.IsControlFree) : (closedPath path).IsControlFree := by
  rw [closedPath]
  split
  · exact free
  · exact free.append .slash

theorem isControlFree_of_brokenDrive? {segment drive name : Text}
    (broken : brokenDrive? segment = some (drive, name)) : drive.IsControlFree := by
  rw [brokenDrive?] at broken
  obtain ⟨⟨letter, s⟩, -, broken⟩ := Option.bind_eq_some_iff.mp broken
  obtain ⟨⟨mark, s'⟩, -, broken⟩ := Option.bind_eq_some_iff.mp broken
  dsimp only at broken
  split at broken
  · next normal =>
    obtain ⟨rfl, -⟩ := Prod.mk.inj (Option.some.inj broken)
    rw [Bool.and_eq_true, Bool.and_eq_true, isNormalDriveLetter, Bool.and_eq_true] at normal
    exact isControlFree_of_isDriveLetter normal.1.1.1
  · exact absurd broken (by simp)

theorem isControlFree_addSegment {draft : PathDraft} (free : draft.text.IsControlFree)
    (isFile : Bool) (segment : Text) (isLast : Bool) :
    (addSegment isFile draft segment isLast).text.IsControlFree := by
  have slash : (if isLast then [] else ['/'] : Text).IsControlFree := by
    split
    · exact .nil
    · exact .slash
  have named := fun name : Text => isControlFree_percentEncode inPathSet_of_inControlSet name
  rw [addSegment]
  dsimp only
  generalize path_eq : (if isFile && !(plain segment).isEmpty &&
      isNormalDriveLetter (draft.text.drop 1) then draft.text ++ ['/'] else draft.text) = path
  have free' : path.IsControlFree := by
    rw [← path_eq]
    split
    · exact free.append .slash
    · exact free
  split
  · next drive name broken =>
    have letters : drive.IsControlFree := by
      split at broken
      · exact isControlFree_of_brokenDrive? broken
      · exact absurd broken (by simp)
    have bar : 0x20 ≤ '/'.toNat := by decide
    exact ((free'.append letters).append (.cons bar (named name))).append slash
  · split
    · have up := free'.of_subset (upPath_subset isFile path)
      split
      · exact up
      · exact isControlFree_closedPath up
    split
    · exact isControlFree_closedPath free'
    split
    · next drive =>
      rw [Bool.and_eq_true] at drive
      have letter := (isControlFree_of_isDriveLetter drive.2).of_subset (List.take_subset 1 _)
      have mark : 0x20 ≤ ':'.toNat := by decide
      exact (free'.append letter).append (.cons mark slash)
    · exact (free'.append (named _)).append slash

theorem isControlFree_addSegments {draft : PathDraft} (free : draft.text.IsControlFree)
    (isFile : Bool) (segments : List Text) :
    (addSegments isFile draft segments).text.IsControlFree := by
  induction segments generalizing draft with
  | nil => exact free
  | cons segment more ih =>
    cases more with
    | nil => exact isControlFree_addSegment free isFile segment true
    | cons next more => exact ih (isControlFree_addSegment free isFile segment false)

theorem isControlFree_pathFrom (free : path.IsControlFree) (isFile : Bool) (segments : List Text) :
    (pathFrom isFile path segments).text.IsControlFree := by
  have read := @isControlFree_addSegments { text := path } free isFile segments
  rw [pathFrom]
  split
  · exact .cons (by decide) (read.of_subset (List.dropWhile_suffix _).subset)
  · exact read

end Path

/-- A URL all of whose parts are free of control characters. -/
structure IsControlFree (u : Url) : Prop where
  scheme : u.scheme.IsControlFree
  username : u.username.IsControlFree
  password : u.password.IsControlFree
  host : ∀ host ∈ u.host, host.IsControlFree
  path : u.path.IsControlFree
  query : ∀ query ∈ u.query, query.IsControlFree
  fragment : ∀ fragment ∈ u.fragment, fragment.IsControlFree

variable {u base : Url}

theorem isControlFree_ofNat (n : Nat) : (Text.ofNat n).IsControlFree :=
  isControlFree_toDigits (by decide) (by decide) n

namespace IsControlFree

theorem of_some {u' : Url} (read : some u' = some u) (free : u'.IsControlFree) :
    u.IsControlFree := Option.some.inj read ▸ free

theorem ofScheme {scheme : Text} (free : scheme.IsControlFree) : IsControlFree { scheme } :=
  ⟨free, .nil, .nil, nofun, .nil, nofun, nofun⟩

theorem withTail (free : u.IsControlFree) (s : Text) : (u.withTail s).IsControlFree := by
  have querySet : ∀ {c}, inControlSet c →
      (if u.isSpecial then inSpecialQuerySet else inQuerySet) c := by
    split
    · exact inSpecialQuerySet_of_inControlSet
    · exact inQuerySet_of_inControlSet
  refine ⟨free.scheme, free.username, free.password, free.host, free.path, ?_, ?_⟩
  · intro query mem
    dsimp only [Url.withTail] at mem
    split at mem
    · rw [← Option.some.inj mem]
      exact isControlFree_percentEncode querySet _
    · exact absurd mem (by simp)
  · intro fragment mem
    rw [Url.withTail] at mem
    dsimp only at mem
    split at mem
    · rw [← Option.some.inj mem]
      exact isControlFree_percentEncode inFragmentSet_of_inControlSet _
    · exact absurd mem (by simp)

theorem withPath (free : u.IsControlFree) {path : Text} (lead : path.IsControlFree) (s : Text)
    (dropsHost : Bool) : (u.withPath path s dropsHost).IsControlFree := by
  rw [Url.withPath]
  dsimp only
  apply IsControlFree.withTail
  refine ⟨free.scheme, free.username, free.password, fun host mem => ?_, ?_, free.query,
    free.fragment⟩
  · dsimp only at mem
    split at mem
    · rw [← Option.some.inj mem]
      exact .nil
    · exact free.host host mem
  · exact isControlFree_pathFrom lead _ _

theorem withPathStart (free : u.IsControlFree) (s : Text) : (u.withPathStart s).IsControlFree := by
  rw [Url.withPathStart]
  split
  · refine free.withPath ?_ [] false
    split
    · exact .slash
    · exact .nil
  · split
    · exact free.withPath .slash _ true
    split
    · exact free.withTail s
    · exact free.withPath .slash s true

theorem withCredentials (free : u.IsControlFree) (s : Text) :
    (u.withCredentials s).IsControlFree := by
  have encoded := isControlFree_percentEncode inUserinfoSet_of_inControlSet
  exact ⟨free.scheme, encoded _, encoded _, free.host, free.path, free.query, free.fragment⟩

end IsControlFree

theorem isControlFree_ipv6Text (groups : List Nat) : (ipv6Text groups).IsControlFree := by
  have hex : ∀ gs : List Nat,
      (joinWith ":" (gs.map fun g => Nat.toDigits 16 g)).IsControlFree := by
    intro gs
    refine .joinWith (by decide) fun p mem => ?_
    obtain ⟨g, -, rfl⟩ := List.mem_map.mp mem
    exact isControlFree_toDigits (by decide) (by decide) g
  rw [ipv6Text]
  dsimp only
  split
  · exact hex groups
  · exact ((hex _).append (by decide)).append (hex _)

theorem isControlFree_of_ipv4? {s address : Text} (read : ipv4? s = some address) :
    address.IsControlFree := by
  rw [ipv4?] at read
  obtain ⟨numbers, -, read⟩ := Option.bind_eq_some_iff.mp read
  obtain ⟨last, -, read⟩ := Option.bind_eq_some_iff.mp read
  dsimp only at read
  split at read
  · exact absurd read (by simp)
  · rw [← Option.some.inj read]
    refine .joinWith (by decide) fun p mem => ?_
    obtain ⟨shift, -, rfl⟩ := List.mem_map.mp mem
    exact isControlFree_ofNat _

theorem isControlFree_of_host? {isSpecial : Bool} {s host : Text}
    (read : host? isSpecial s = some host) : host.IsControlFree := by
  unfold host? at read
  split at read
  · obtain ⟨inner, -, read⟩ := Option.bind_eq_some_iff.mp read
    obtain ⟨groups, -, read⟩ := Option.bind_eq_some_iff.mp read
    rw [← Option.some.inj read]
    exact .append (.cons (by decide) (isControlFree_ipv6Text groups)) (by decide)
  · split at read
    · obtain ⟨domain, -, read⟩ := Option.bind_eq_some_iff.mp read
      split at read
      · exact absurd read (by simp)
      · next allowed =>
        split at read
        · exact isControlFree_of_ipv4? read
        · rw [← Option.some.inj read]
          intro c mem
          by_contra control
          have forbidden : isForbiddenInDomain c := by
            rw [isForbiddenInDomain, decide_eq_true (Nat.lt_of_not_le control)]
            simp
          rw [Bool.or_eq_true] at allowed
          exact allowed (.inr (List.any_eq_true.mpr ⟨c, mem, forbidden⟩))
    · split at read
      · exact absurd read (by simp)
      · rw [← Option.some.inj read]
        exact isControlFree_percentEncode id s

namespace IsControlFree

theorem withHost (free : u.IsControlFree) {host : Text} (named : host.IsControlFree)
    (portNumber : Option Nat) :
    IsControlFree { u with host := some host, portNumber } := by
  refine ⟨free.scheme, free.username, free.password, fun host' mem => ?_, free.path, free.query,
    free.fragment⟩
  rw [← Option.some.inj mem]
  exact named

/-- A URL whose host and place to listen at are known is free if the host is. -/
theorem of_place {u' : Url} (free : u.IsControlFree) {named : Option Text}
    (hosts : ∀ host ∈ named, host.IsControlFree) {number : Option (Option Nat)} {rest : Text}
    (read : (do
      let host ← named
      let portNumber ← number
      return { u with host := some host, portNumber }.withPathStart rest) = some u') :
    u'.IsControlFree := by
  obtain ⟨host, named, read⟩ := Option.bind_eq_some_iff.mp read
  obtain ⟨portNumber, -, read⟩ := Option.bind_eq_some_iff.mp read
  exact .of_some read ((free.withHost (hosts host named) portNumber).withPathStart rest)

theorem of_withAuthority {u' : Url} (free : u.IsControlFree) {s : Text}
    (read : u.withAuthority s = some u') : u'.IsControlFree := by
  have empty : ∀ host ∈ some ([] : Text), Text.IsControlFree host := by
    intro host mem
    rw [← Option.some.inj mem]
    exact .nil
  unfold Url.withAuthority at read
  split at read
  dsimp only at read
  split at read
  all_goals
    split at read
    · obtain ⟨_, no, -⟩ := Option.bind_eq_some_iff.mp read
      exact absurd no (by simp)
    split at read
    · exact (free.withCredentials _).of_place empty read
    · exact (free.withCredentials _).of_place (fun host named => isControlFree_of_host? named) read

theorem of_withFileHost {u' : Url} (free : u.IsControlFree) {s : Text}
    (read : u.withFileHost s = some u') : u'.IsControlFree := by
  unfold Url.withFileHost at read
  dsimp only at read
  split at read
  · exact .of_some read (free.withPath .slash s false)
  split at read
  · exact .of_some read (free.withPath .slash _ false)
  · obtain ⟨host, named, read⟩ := Option.bind_eq_some_iff.mp read
    split at read
    · exact .of_some read (free.withPath .slash _ false)
    · refine .of_some read ?_
      exact (free.withHost (isControlFree_of_host? named) u.portNumber).withPathStart _

theorem dropFragment (free : u.IsControlFree) : IsControlFree { u with fragment := none } :=
  ⟨free.scheme, free.username, free.password, free.host, free.path, free.query, nofun⟩

theorem withFragment (free : u.IsControlFree) (s : Text) :
    IsControlFree { u.withTail s with query := u.query } := by
  have tail := free.withTail s
  exact ⟨tail.scheme, tail.username, tail.password, tail.host, tail.path, free.query,
    tail.fragment⟩

theorem fromRoot {base : Option Url} (bases : ∀ b ∈ base, b.IsControlFree)
    (free : u.IsControlFree) (s : Text) : (withFile.fromRoot base u s).IsControlFree := by
  unfold Url.withFile.fromRoot
  split
  · exact free.withPath .slash s false
  · next b =>
    have known := bases b rfl
    have drive : Text.IsControlFree ('/' :: firstPart '/' (b.path.drop 1) ++ ['/']) := by
      have inside : firstPart '/' (b.path.drop 1) ⊆ b.path :=
        List.Subset.trans (List.takeWhile_subset _) (List.drop_subset 1 _)
      exact .append (.cons (by decide) (known.path.of_subset inside)) .slash
    dsimp only
    split
    · exact free.withPath .slash s false
    split
    · exact free.withPath drive s false
    · refine IsControlFree.withPath ?_ .slash s false
      exact ⟨free.scheme, free.username, free.password, known.host, free.path, free.query,
        free.fragment⟩

theorem of_withFile {base : Option Url} (bases : ∀ b ∈ base, b.IsControlFree) {s : Text}
    (read : withFile base s = some u) : u.IsControlFree := by
  have start : IsControlFree { scheme := "file", host := some [] } := by
    refine ⟨by decide, .nil, .nil, fun host mem => ?_, .nil, nofun, nofun⟩
    rw [← Option.some.inj mem]
    exact .nil
  unfold Url.withFile at read
  dsimp only at read
  split at read
  · next a s' _ =>
    split at read
    · split at read
      · split at read
        · exact start.of_withFileHost read
        · exact .of_some read (fromRoot bases start s')
      · exact .of_some read (fromRoot bases start s')
    · split at read
      · exact .of_some read (start.withPath .slash s false)
      · next b =>
        have known := bases b rfl
        split at read
        · exact .of_some read (known.withTail s)
        split at read
        · exact .of_some read (known.withFragment s)
        split at read
        · exact .of_some read (start.withPath .slash s false)
        · refine .of_some read ?_
          exact known.withPath (known.path.of_subset (parentPath_subset true b.path)) s false
  · split at read
    · exact .of_some read (start.withPath .slash [] false)
    · next b => exact .of_some read (bases b rfl).dropFragment

theorem of_withRelative {base : Url} (free : base.IsControlFree) {s : Text}
    (read : withRelative base s = some u) : u.IsControlFree := by
  unfold Url.withRelative at read
  dsimp only at read
  split at read
  · exact .of_some read free.dropFragment
  · split at read
    · split at read
      · split at read
        · exact (ofScheme free.scheme).of_withAuthority read
        · exact .of_some read (free.withPath .slash _ false)
      · exact .of_some read (free.withPath .slash _ false)
    split at read
    · exact .of_some read (free.withTail s)
    split at read
    · exact .of_some read (free.withFragment s)
    · rw [← Option.some.inj read]
      refine free.withPath ?_ s false
      split
      · exact .slash
      · exact free.path.of_subset (parentPath_subset false base.path)

theorem of_withScheme {base : Option Url} (bases : ∀ b ∈ base, b.IsControlFree) {scheme s : Text}
    (free : scheme.IsControlFree) (read : withScheme base scheme s = some u) :
    u.IsControlFree := by
  have start := ofScheme free
  have filtered : ∀ p : Url → Bool, ∀ b ∈ base.filter p, b.IsControlFree := by
    intro p b mem
    exact bases b (Option.filter_eq_some_iff.mp mem).1
  unfold Url.withScheme at read
  dsimp only at read
  split at read
  · exact of_withFile (filtered _) read
  split at read
  · split at read
    · next b eq _ => exact of_withRelative (filtered _ b eq) read
    · exact start.of_withAuthority read
  · split at read
    · split at read
      · exact start.of_withAuthority read
      · exact .of_some read (start.withPath .slash _ false)
    · rw [← Option.some.inj read]
      apply IsControlFree.withTail
      exact ⟨free, .nil, .nil, nofun, isControlFree_percentEncode id _, nofun,
        nofun⟩

end IsControlFree

theorem isControlFree_of_scheme? {s scheme rest : Text} (read : scheme? s = some (scheme, rest)) :
    scheme.IsControlFree := by
  obtain ⟨⟨name, tail⟩, -, read⟩ := Option.bind_eq_some_iff.mp read
  dsimp only at read
  split at read
  · next allowed =>
    obtain ⟨rfl, -⟩ := Prod.mk.inj (Option.some.inj read)
    intro c mem
    obtain ⟨d, inside, rfl⟩ := List.mem_map.mp mem
    rw [Bool.and_eq_true] at allowed
    let isSchemeChar (c : Char) : Bool := c.isAlphanum || c == '+' || c == '-' || c == '.'
    have none : ∀ n : Fin 0x20, ¬ isSchemeChar (Char.ofNat n) := by decide
    exact ge_toLower (ge_of_none none (List.all_eq_true.mp allowed.2 d inside))
  · exact absurd read (by simp)

/-- What is read of a URL, perhaps relative to one without control characters, has none. -/
theorem isControlFree_of_parse? {base : Option Url} (bases : ∀ b ∈ base, b.IsControlFree)
    {input : Text} (read : parse? base input = some u) : u.IsControlFree := by
  unfold parse? at read
  dsimp only at read
  split at read
  · next scheme rest eq => exact .of_withScheme bases (isControlFree_of_scheme? eq) read
  · exact absurd read (by simp)
  · next b eq =>
    have known := bases b rfl
    split at read
    · split at read
      · exact .of_some read (known.withFragment _)
      · exact absurd read (by simp)
    split at read
    · exact .of_withFile bases read
    · exact .of_withRelative known read

theorem IsControlFree.toText (free : u.IsControlFree) : u.toText.IsControlFree := by
  have credentials : u.credentialsText.IsControlFree := by
    rw [credentialsText]
    split
    · exact .nil
    · refine .append (.append free.username ?_) (by decide)
      split
      · exact .nil
      · exact .cons (by decide) free.password
  have path : u.pathText.IsControlFree := by
    rw [pathText]
    split
    · exact .cons (by decide) (.cons (by decide) free.path)
    · exact free.path
  rw [Url.toText]
  refine .append (.append (.append (free.scheme.append (.cons (by decide) ?host)) path) ?query) ?part
  case host =>
    split
    · next host eq =>
      refine .append (.append (.cons (by decide) (.cons (by decide) credentials))
        (free.host host eq)) ?_
      split
      · exact .cons (by decide) (isControlFree_ofNat _)
      · exact .nil
    · exact .nil
  case query =>
    split
    · next query eq => exact .cons (by decide) (free.query query eq)
    · exact .nil
  case part =>
    split
    · next fragment eq => exact .cons (by decide) (free.fragment fragment eq)
    · exact .nil

/-- A URL that has been read from text, or from a reference in a page of such a URL. -/
inductive IsParsed : Url → Prop where
  | ofText {s : Text} {u : Url} (read : ofText? s = some u) : IsParsed u
  | join {base u : Url} {reference : Text} (page : IsParsed base)
      (read : base.join? reference = some u) : IsParsed u

/-- No URL that has been read is written with a control character. -/
theorem IsParsed.isControlFree (parsed : u.IsParsed) : u.IsControlFree := by
  induction parsed with
  | ofText read =>
    have bases : ∀ b ∈ (none : Option Url), b.IsControlFree := nofun
    exact isControlFree_of_parse? bases read
  | join page read free =>
    refine isControlFree_of_parse? (fun b mem => ?_) read
    rw [← Option.some.inj mem]
    exact free

end Url
end SymbolDocs
