import DocExamples.Documentation.Source
import DocExamples.Proofs.Effects
import DocExamples.Proofs.Markup.Progress

namespace DocExamples.Documentation

open Text Files Markup

/-- A source of which every error is one to report. -/
structure IsSound (tree : Tree) (fetch : Fetch) (source : Source) : Prop where
  /-- The system lets it be looked at whether there is a file. -/
  lookedAt : ∀ path, source = .file path → ∃ found, tree.isFile path = .ok found
  /-- What is fetched is UTF-8. -/
  decoded : ∀ url bytes, source = .address url → fetch (.ofUrl url) = .ok bytes →
    ∃ text, Utf8.decode (Utf8.dropMark bytes) = .ok text
  /-- Markup that is read is not rejected. -/
  accepted : ∀ text, readSource tree fetch source = .ok text → Content.ofText? text ≠ none

/-- Requests fail in no other way than as requests. -/
def OnlyRequestsFail (fetch : Fetch) : Prop :=
  ∀ request kind message, fetch request ≠ .error (.other kind message)

variable {tree : Tree} {fetch : Fetch}

section Files

variable {path : Path} {bytes : Bytes}

theorem readText_of_read (stored : tree.read path = .ok bytes) :
    readText tree path = (decodeFile bytes).mapError .undecodable := by
  rw [readText, stored]
  rfl

theorem isFile_of_read (stored : tree.read path = .ok bytes) : tree.isFile path = .ok true := by
  obtain ⟨place, located, read⟩ := Effects.exists_of_bind_eq_ok stored
  obtain ⟨content, found, -⟩ := Effects.exists_of_bind_eq_ok read
  rw [Tree.isFile, located]
  dsimp only
  unfold Tree.content at found
  split at found
  · next here =>
    rw [here]
    rfl
  · cases found

/-- A file that can be read is there. -/
theorem readFile_of_read (stored : tree.read path = .ok bytes) :
    readFile tree path = (decodeFile bytes).mapError fun error => .unreadable path.text (.undecodable error) := by
  rw [readFile, isFile_of_read stored, readText_of_read stored]
  cases decodeFile bytes <;> rfl

end Files

theorem isReported_readFile_iff (path : Path) :
    (∀ error, readFile tree path = .error error → error.isReported = true) ↔
      ∃ found, tree.isFile path = .ok found := by
  unfold readFile
  cases tree.isFile path with
  | error error => simp [LoadError.isReported]
  | ok found =>
    cases found with
    | false => simp [LoadError.isReported]
    | true =>
      dsimp only
      cases readText tree path with
      | error failure => simp [Except.mapError, LoadError.isReported]
      | ok text => simp [Except.mapError]

theorem isReported_readAddress_iff (requests : OnlyRequestsFail fetch) (url : Text) :
    (∀ error, readAddress fetch (.ofUrl url) = .error error → error.isReported = true) ↔
      ∀ bytes, fetch (.ofUrl url) = .ok bytes → ∃ text, Utf8.decode (Utf8.dropMark bytes) = .ok text := by
  unfold readAddress
  cases found : fetch (.ofUrl url) with
  | error error =>
    cases error with
    | failed message => simp [LoadError.isReported]
    | other kind message => exact absurd found (requests _ kind message)
  | ok bytes =>
    cases decoded : Utf8.decode (Utf8.dropMark bytes) with
    | error error => simp [Except.mapError, LoadError.isReported, decoded]
    | ok text => simp [Except.mapError, decoded]

theorem readTree_of_ofText? {text : Text} {content : Content} (h : Content.ofText? text = some content) :
    readTree text = .ok content := by
  rw [readTree, Effects.eq_ok_of_toOption h]
  rfl

theorem parse_of_ofText? {text : Text} {content : Content} (h : Content.ofText? text = some content) :
    parse text = if hasDoc content then .ok (recordsOf content) else .error .noDocElement := by
  rw [parse, readTree_of_ofText? h]
  rfl

theorem exists_of_parse {text : Text} {records : List Record} (h : parse text = .ok records) :
    ∃ content, Content.ofText? text = some content ∧ recordsOf content = records := by
  obtain ⟨content, read, h⟩ := Effects.exists_of_bind_eq_ok h
  refine ⟨content, ?_, ?_⟩
  · rw [Content.ofText?, Effects.eq_ok_of_mapError read]
    rfl
  · split at h
    · exact Except.ok.inj h
    · cases h

theorem parse_of_fault {text : Text} {fault : Fault} (h : Content.ofText text = .error fault) :
    parse text = .error (.ofFault fault) := by
  rw [parse, readTree, h]
  rfl

/-- Of what can be read only a faulty document fails without a report. -/
theorem isReported_parse_iff (text : Text) :
    (∀ error, (parse text).mapError LoadError.unparsed = .error error → error.isReported = true) ↔
      Content.ofText? text ≠ none := by
  cases read : Content.ofText text with
  | error fault =>
    have rejected : Content.ofText? text = none := by rw [Content.ofText?, read]; rfl
    rw [parse_of_fault read, rejected]
    cases fault <;> simp [Except.mapError, LoadError.isReported, ReadError.ofFault]
  | ok content =>
    have accepted : Content.ofText? text = some content := by rw [Content.ofText?, read]; rfl
    rw [parse_of_ofText? accepted, accepted]
    cases hasDoc content <;> simp [Except.mapError, LoadError.isReported]

theorem load_isReported_iff (requests : OnlyRequestsFail fetch) (source : Source) :
    (∀ error, load tree fetch source = .error error → error.isReported = true) ↔
      IsSound tree fetch source := by
  have readable : (∀ error, readSource tree fetch source = .error error → error.isReported = true) ↔
      (∀ path, source = .file path → ∃ found, tree.isFile path = .ok found) ∧
      ∀ url bytes, source = .address url → fetch (.ofUrl url) = .ok bytes →
        ∃ text, Utf8.decode (Utf8.dropMark bytes) = .ok text := by
    cases source with
    | address url =>
      refine (isReported_readAddress_iff requests url).trans ⟨fun decoded => ⟨?_, ?_⟩, ?_⟩
      · rintro path ⟨⟩
      · rintro _ bytes ⟨⟩ fetched
        exact decoded bytes fetched
      · rintro ⟨-, decoded⟩ bytes
        exact decoded url bytes rfl
    | file path => simpa [readSource] using isReported_readFile_iff path
  have split : (∀ error, load tree fetch source = .error error → error.isReported = true) ↔
      (∀ error, readSource tree fetch source = .error error → error.isReported = true) ∧
      ∀ text, readSource tree fetch source = .ok text → Content.ofText? text ≠ none := by
    unfold load
    cases readSource tree fetch source with
    | error error => simp [bind, Except.bind]
    | ok text => simpa [bind, Except.bind] using isReported_parse_iff text
  rw [split, readable]
  constructor
  · rintro ⟨⟨lookedAt, decoded⟩, accepted⟩
    exact ⟨lookedAt, decoded, accepted⟩
  · intro sound
    exact ⟨⟨sound.lookedAt, sound.decoded⟩, sound.accepted⟩

end DocExamples.Documentation
