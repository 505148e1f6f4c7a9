import SymbolDocs.Inventory.File
import SymbolDocs.Proofs.Deflate.Stream
import SymbolDocs.Proofs.Text.Cut

namespace SymbolDocs.Inventory

open Deflate

theorem sentinel_ne_nil : sentinel ≠ [] := by decide

/-- The position where the zlib stream of a file ends. -/
def streamEnd? (file : Bytes) : Option Nat :=
  (payload? file).bind fun payload =>
    match readStream (capacity payload) (bitsOf payload) with
    | .ok (_, behind) => some (file.length - behind.length / 8)
    | .error _ => none

theorem capacity_mono {payload payload' : Bytes} (le : payload.length ≤ payload'.length) :
    capacity payload ≤ capacity payload' := by
  rw [capacity, capacity]
  omega

theorem body_of_decodeZlib {file payload content : Bytes} {text : Text}
    (found : payload? file = some payload)
    (decoded : decodeZlib (capacity payload) payload = .ok content)
    (valid : Utf8.decode content = .ok text) : body file = .ok text := by
  rw [body, found]
  simp only [decoded, valid]

theorem body_of_stop {file payload : Bytes} {stop : Stop} (found : payload? file = some payload)
    (stopped : decodeZlib (capacity payload) payload = .error stop) :
    body file = .error .truncated ∨ body file = .error .corrupt := by
  rw [body, found]
  simp only [stopped]
  cases stop <;> simp

theorem exists_of_body {file : Bytes} {text : Text} (h : body file = .ok text) :
    ∃ payload content, payload? file = some payload ∧
      decodeZlib (capacity payload) payload = .ok content ∧ Utf8.decode content = .ok text := by
  cases found : payload? file with
  | none => simp [body, found] at h
  | some payload =>
    cases decoded : decodeZlib (capacity payload) payload with
    | error stop => rcases body_of_stop found decoded with stops | stops <;> simp [stops] at h
    | ok content =>
      cases valid : Utf8.decode content with
      | error fault => simp [body, found, decoded, valid] at h
      | ok text' =>
        rw [body_of_decodeZlib found decoded valid] at h
        exact ⟨payload, content, rfl, decoded, by rw [valid, Except.ok.inj h]⟩

/-- A file with a stream of some content behind its header, and other bytes behind the stream. -/
structure IsFileOf (content lead stream behind : Bytes) (file : Bytes) : Prop where
  cut : Text.cutAt? sentinel file = some (lead, stream ++ behind)
  holds : HoldsStream (capacity (stream ++ behind)) content stream behind

namespace IsFileOf

variable {content lead stream behind file : Bytes}

theorem eq (h : IsFileOf content lead stream behind file) :
    file = lead ++ sentinel ++ stream ++ behind := by
  rw [(Text.eq_of_cutAt?_eq_some h.cut).1]
  simp

theorem header_eq (h : IsFileOf content lead stream behind file) :
    header file = lead ++ sentinel := by
  rw [header, h.cut]

theorem payload?_eq (h : IsFileOf content lead stream behind file) :
    payload? file = some (stream ++ behind) := by
  rw [payload?, h.cut]
  rfl

theorem take_eq (h : IsFileOf content lead stream behind file) :
    file.take (lead ++ sentinel ++ stream).length = lead ++ sentinel ++ stream := by
  rw [h.eq, List.take_left]

theorem streamEnd?_eq (h : IsFileOf content lead stream behind file) :
    streamEnd? file = some (lead ++ sentinel ++ stream).length := by
  have size := congrArg List.length h.eq
  rw [List.length_append] at size
  rw [streamEnd?, h.payload?_eq, Option.bind_some, h.holds]
  simp only [bitsOf_length]
  congr 1
  omega

/-- The bytes behind the stream can be others, no fewer. -/
theorem replace (h : IsFileOf content lead stream behind file) {behind' : Bytes}
    (le : behind.length ≤ behind'.length) :
    IsFileOf content lead stream behind' (lead ++ sentinel ++ stream ++ behind') where
  cut := by
    rw [List.append_assoc, List.append_assoc]
    exact Text.cutAt?_of_cutAt? sentinel_ne_nil h.cut (stream ++ behind')
  holds := h.holds.replace (capacity_mono (by simpa using le)) le

theorem body_eq (h : IsFileOf content lead stream behind file) {text : Text}
    (valid : Utf8.decode content = .ok text) : body file = .ok text :=
  body_of_decodeZlib h.payload?_eq h.holds.decode valid

theorem body_take_of_lt (h : IsFileOf content lead stream behind file) {k : Nat}
    (lt : k < (lead ++ sentinel).length) : body (file.take k) = .error .noSentinel := by
  rw [body, payload?, Text.cutAt?_take_eq_none h.cut lt]
  rfl

theorem payload?_take (h : IsFileOf content lead stream behind file) {k : Nat}
    (le : (lead ++ sentinel).length ≤ k) : payload? (file.take k) =
      some ((stream ++ behind).take (k - (lead ++ sentinel).length)) := by
  rw [h.eq, List.append_assoc, List.take_append, List.take_of_length_le le, payload?,
    List.append_assoc, Text.cutAt?_of_cutAt? sentinel_ne_nil h.cut]
  rfl

/-- Whatever is left of the content when the file is cut is all of it. -/
theorem of_decodeZlib_take (h : IsFileOf content lead stream behind file) {content' : Bytes}
    {n : Nat} (decoded : decodeZlib (capacity ((stream ++ behind).take n)) ((stream ++ behind).take n) =
      .ok content') : content' = content ∧ stream.length ≤ n :=
  h.holds.of_take (capacity_mono (List.length_take_le' n _)) decoded

theorem body_take_stops (h : IsFileOf content lead stream behind file) {k : Nat}
    (le : (lead ++ sentinel).length ≤ k) (lt : k < (lead ++ sentinel ++ stream).length) :
    body (file.take k) = .error .truncated ∨ body (file.take k) = .error .corrupt := by
  have found := h.payload?_take le
  cases decoded : decodeZlib _ ((stream ++ behind).take (k - (lead ++ sentinel).length)) with
  | ok content' =>
    have size := (h.of_decodeZlib_take decoded).2
    rw [List.length_append] at lt
    omega
  | error stop => exact body_of_stop found decoded

theorem eq_of_body_take (h : IsFileOf content lead stream behind file) {text text' : Text}
    (valid : Utf8.decode content = .ok text) {k : Nat} (read : body (file.take k) = .ok text') :
    text' = text := by
  rcases Nat.lt_or_ge k (lead ++ sentinel).length with lt | le
  · rw [h.body_take_of_lt lt] at read
    exact nomatch read
  · obtain ⟨payload, content', found, decoded, valid'⟩ := exists_of_body read
    rw [h.payload?_take le] at found
    rw [← Option.some.inj found] at decoded
    rw [(h.of_decodeZlib_take decoded).1, valid] at valid'
    exact (Except.ok.inj valid').symm

end IsFileOf

theorem exists_isFileOf {file : Bytes} {text : Text} (h : body file = .ok text) :
    ∃ content lead stream behind, Utf8.decode content = .ok text ∧
      IsFileOf content lead stream behind file := by
  obtain ⟨payload, content, found, decoded, valid⟩ := exists_of_body h
  obtain ⟨⟨lead, payload⟩, cut, rfl⟩ := Option.map_eq_some_iff.mp found
  obtain ⟨stream, behind, rfl, holds⟩ := HoldsStream.of_decode decoded
  exact ⟨content, lead, stream, behind, valid, cut, holds⟩

/-- What is read from a file is what its stream holds: bytes behind the stream do not matter, and a
file that is cut in front of its end is refused. -/
theorem body_complete {file : Bytes} {text : Text} (read : body file = .ok text) :
    ∃ e ≤ file.length, streamEnd? file = some e ∧ (∀ more, body (file ++ more) = .ok text) ∧
      (∀ more, file.length ≤ e + more.length → body (file.take e ++ more) = .ok text) ∧
      (∀ k < (header file).length, body (file.take k) = .error .noSentinel) ∧
      (∀ k, (header file).length ≤ k → k < e →
        body (file.take k) = .error .truncated ∨ body (file.take k) = .error .corrupt) ∧
      ∀ k text', body (file.take k) = .ok text' → text' = text := by
  obtain ⟨content, lead, stream, behind, valid, h⟩ := exists_isFileOf read
  have size := congrArg List.length h.eq
  rw [List.length_append] at size
  rw [h.streamEnd?_eq, h.header_eq]
  refine ⟨_, by omega, rfl, fun more => ?_, fun more le => ?_, fun k lt => h.body_take_of_lt lt,
    fun k le lt => h.body_take_stops le lt, fun k text' read' => h.eq_of_body_take valid read'⟩
  · have longer : behind.length ≤ (behind ++ more).length := by simp
    have same : file ++ more = lead ++ sentinel ++ stream ++ (behind ++ more) := by
      rw [← List.append_assoc, ← h.eq]
    rw [same]
    exact (h.replace longer).body_eq valid
  · rw [h.take_eq]
    exact (h.replace (by omega)).body_eq valid

def smallFile : Bytes :=
  [35, 32] ++ sentinel ++ [120, 1, 1, 2, 0, 253, 255, 104, 105, 1, 59, 0, 210]

theorem body_complete_smallFile : body smallFile = .ok "hi" ∧
    body (smallFile ++ [0, 1]) = .ok "hi" ∧
    ∀ k < smallFile.length, ∃ fault, body (smallFile.take k) = .error fault := by
  have read : body smallFile = .ok "hi" := by decide +kernel
  have atEnd : streamEnd? smallFile = some smallFile.length := by decide +kernel
  obtain ⟨e, -, found, more, -, inHeader, inStream, -⟩ := body_complete read
  rw [atEnd] at found
  refine ⟨read, more [0, 1], fun k lt => ?_⟩
  rcases Nat.lt_or_ge k (header smallFile).length with lt' | le
  · exact ⟨_, inHeader k lt'⟩
  · rw [Option.some.inj found] at lt
    rcases inStream k le lt with stops | stops
    · exact ⟨_, stops⟩
    · exact ⟨_, stops⟩

end SymbolDocs.Inventory
