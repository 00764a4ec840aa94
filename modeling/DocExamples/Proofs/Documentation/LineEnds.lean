import DocExamples.Proofs.DocTest.Annotation
import DocExamples.Proofs.DocTest.LineEnds
import DocExamples.Proofs.Documentation.Loading
import DocExamples.Proofs.Markup.LineEnds.Trees

namespace DocExamples

open Text Markup Documentation Files Relations
open List (Forall₂)

variable {lone : Prop}

namespace Markup

theorem LikeValue.nil : LikeValue lone [] [] := ⟨[], [], .nil, rfl, rfl⟩

/-- A value without CR is the same with other line ends. -/
theorem LikeValue.eq_of_not_mem {value value' : Text} (h : LikeValue lone value value')
    (noReturn : '\r' ∉ value) : value = value' := by
  obtain ⟨raw, raw', soft, decoded, decoded'⟩ := h
  rw [soft.eq_of_not_mem fun inside => noReturn (Reference.mem_decode rfl inside decoded)] at decoded
  exact Except.ok.inj (decoded.symm.trans decoded')

theorem LikeValue.eq_iff {value value' word : Text} (h : LikeValue lone value value')
    (inner : word.all isInner = true) : value = word ↔ value' = word := by
  have absent {c : Char} (hc : isInner c = false) : c ∉ word := by
    intro inside
    rw [List.all_eq_true.mp inner c inside] at hc
    cases hc
  constructor
  · rintro rfl
    exact (h.eq_of_not_mem (absent rfl)).symm
  · rintro rfl
    obtain ⟨raw, raw', soft, decoded, decoded'⟩ := h
    have noReturn : '\r' ∉ raw := by
      intro inside
      rcases soft.mem_of_mem inside with there | there
      · exact absent rfl (Reference.mem_decode rfl there decoded')
      · exact absent rfl (Reference.mem_decode rfl there decoded')
    rw [soft.eq_of_not_mem noReturn] at decoded
    exact Except.ok.inj (decoded.symm.trans decoded')

theorem Tag.Alike.attribute? {tag tag' : Tag} (h : tag.Alike lone tag') (name : Text) :
    Option.Rel (LikeValue lone) (tag.attribute? name) (tag'.attribute? name) := by
  have found {pairs pairs' : List (Text × Text)} (h : Forall₂ (LikeAttribute lone) pairs pairs') :
      Option.Rel (LikeValue lone) (pairs.lookup name) (pairs'.lookup name) := by
    induction h with
    | nil => exact .none
    | @cons pair pair' _ _ same _ ih =>
      obtain ⟨key, value⟩ := pair
      obtain ⟨key', value'⟩ := pair'
      obtain ⟨keys, values⟩ := same
      dsimp only at keys values
      subst keys
      rw [List.lookup_cons, List.lookup_cons]
      split
      · exact .some values
      · exact ih
  exact found (List.forall₂_reverse_iff.mpr h.attributes)

end Markup

namespace Documentation

structure CodeBlock.Alike (lone : Prop) (block block' : CodeBlock) : Prop where
  text : LikeString lone block.text block'.text
  doctest : block.doctest = block'.doctest

structure Section.Alike (lone : Prop) (part part' : Section) : Prop where
  name : Option.Rel (LikeValue lone) part.name part'.name
  blocks : Forall₂ (CodeBlock.Alike lone) part.blocks part'.blocks

structure Record.Alike (lone : Prop) (record record' : Record) : Prop where
  name : LikeValue lone record.name record'.name
  examples : Forall₂ (Section.Alike lone) record.examples record'.examples

variable {element element' : Tag × Content} {tree tree' : Content}

theorem CodeBlock.ofElement_alike (h : Content.LikeElement lone element element') :
    CodeBlock.Alike lone (.ofElement element) (.ofElement element') := by
  refine ⟨h.inside.prose, ?_⟩
  have values := h.tag.attribute? "doctest".toList
  rw [CodeBlock.ofElement, CodeBlock.ofElement, Bool.eq_iff_iff, beq_iff_eq, beq_iff_eq]
  generalize element.1.attribute? "doctest".toList = value at values
  generalize element'.1.attribute? "doctest".toList = value' at values
  cases values with
  | none => rfl
  | some same => rw [Option.some_inj, Option.some_inj, same.eq_iff (by decide)]

theorem Section.ofElement_alike (h : Content.LikeElement lone element element') :
    Section.Alike lone (.ofElement element) (.ofElement element') := by
  refine ⟨h.tag.attribute? _, ?_⟩
  exact forall₂_map (h.inside.childrenNamed _) fun _ _ => CodeBlock.ofElement_alike

theorem Record.ofElement_alike (h : Content.LikeElement lone element element') :
    Record.Alike lone (.ofElement element) (.ofElement element') := by
  refine ⟨rel_getD (h.tag.attribute? _) .nil, ?_⟩
  exact forall₂_map (h.inside.findAll _) fun _ _ => Section.ofElement_alike

theorem hasDoc_eq (h : Content.Alike lone tree tree') : hasDoc tree = hasDoc tree' := by
  rw [hasDoc, hasDoc, isEmpty_eq (h.findAll _)]

theorem recordsOf_alike (h : Content.Alike lone tree tree') :
    Forall₂ (Record.Alike lone) (recordsOf tree) (recordsOf tree') :=
  forall₂_map (h.findAll _) fun _ _ => Record.ofElement_alike

end Documentation

namespace Example

/-- Examples of documentation with other line ends. -/
structure Alike (lone : Prop) (e e' : Example) : Prop where
  name : '\r' ∉ e.name → e.name = e'.name
  code : LikeString lone e.code e'.code

variable {record record' : Record} {part part' : Section}

theorem ofSection_alike (hr : record.Alike lone record') (hp : part.Alike lone part') :
    Forall₂ (Alike lone) (ofSection record part) (ofSection record' part') := by
  have blocks : Forall₂ (CodeBlock.Alike lone) (marked part) (marked part') :=
    forall₂_filter hp.blocks fun _ _ same => same.doctest
  have base : LikeValue lone (baseName record part) (baseName record' part') := rel_getD hp.name hr.name
  refine forall₂_mapIdx blocks fun index block block' same => ⟨fun noReturn => ?_, same.text⟩
  dsimp only at noReturn ⊢
  rw [blocks.length_eq] at noReturn ⊢
  have inBase : '\r' ∉ baseName record part := by
    intro inside
    apply noReturn
    rw [nameAt]
    split
    · exact List.mem_append_left _ (List.mem_append_left _ inside)
    · exact inside
  rw [base.eq_of_not_mem inBase]

theorem ofRecords_alike {records records' : List Record}
    (h : Forall₂ (Record.Alike lone) records records') :
    Forall₂ (Alike lone) (ofRecords records) (ofRecords records') := by
  refine List.rel_flatMap h fun record record' same => ?_
  exact List.rel_flatMap same.examples fun part part' parts => ofSection_alike same parts

/-- Examples with the same outcome after any preamble and for any comment token of one line. -/
def SameOutcomes (e e' : Example) : Prop :=
  ∀ (preamble : Context) (comment : Text), '\n' ∉ comment →
    (DocTest.make e.name e.code preamble comment).outcome =
      (DocTest.make e'.name e'.code preamble comment).outcome

theorem Alike.sameOutcomes {e e' : Example} (h : e.Alike False e') (noReturn : '\r' ∉ e.name)
    (code : '\r' ∉ e'.code) (portable : IsPortable e.code) : e.SameOutcomes e' := by
  have name := h.name noReturn
  obtain ⟨paired, unified⟩ := (h.code.resolve_left id).eq_unifyNewlines code
  intro preamble comment inLine
  rw [unified, ← name]
  exact (DocTest.outcome_unifyNewlines paired portable inLine e.name preamble).symm

end Example

namespace Documentation

variable {tree : Tree} {fetch : Fetch} {path : Path} {url text : Text} {bytes : Bytes}

theorem isCutMark_eq_false (decoded : Utf8.decode (Utf8.dropMark bytes) = .ok text) :
    isCutMark bytes = false := by
  rw [Bool.eq_false_iff]
  intro cut
  rw [isCutMark, Bool.or_eq_true, beq_iff_eq, beq_iff_eq] at cut
  rcases cut with rfl | rfl
  · cases decoded
  · cases decoded

theorem load_address (fetched : fetch (.ofUrl url) = .ok bytes)
    (decoded : Utf8.decode (Utf8.dropMark bytes) = .ok text) :
    load tree fetch (.address url) = (parse text).mapError .unparsed := by
  rw [load, readSource, readAddress, fetched]
  dsimp only
  rw [decoded]
  rfl

theorem load_file (stored : tree.read path = .ok bytes)
    (decoded : Utf8.decode (Utf8.dropMark bytes) = .ok text) :
    load tree fetch (.file path) = (parse (unifyNewlines text)).mapError .unparsed := by
  rw [load, readSource, readFile_of_read stored, decodeFile, isCutMark_eq_false decoded, decoded]
  rfl

/-- An address and a file that serve the same bytes are no documentation, both of them, or hold the same
examples in one order: examples of one name if it holds no CR, and of one outcome if moreover every CR of the
text is in a CRLF, none is left in the code in the file, and the code at the address is portable. -/
theorem load_alike (fetched : fetch (.ofUrl url) = .ok bytes) (stored : tree.read path = .ok bytes)
    (decoded : Utf8.decode (Utf8.dropMark bytes) = .ok text) (accepted : Content.ofText? text ≠ none) :
    (load tree fetch (.address url) = .error (.unparsed .noDocElement) ∧
      load tree fetch (.file path) = .error (.unparsed .noDocElement)) ∨
    ∃ records records', load tree fetch (.address url) = .ok records ∧
      load tree fetch (.file path) = .ok records' ∧
      ('\r' ∉ text → records = records') ∧
      Forall₂ (fun e e' : Example => '\r' ∉ e.name → e.name = e'.name ∧
          (isPaired text = true → '\r' ∉ e'.code → IsPortable e.code → e.SameOutcomes e'))
        (Example.ofRecords records) (Example.ofRecords records') := by
  obtain ⟨tree, read⟩ := Option.ne_none_iff_exists'.mp accepted
  have alike := Content.ofText?_alike (softens_unifyNewlines text)
  have paired (h : isPaired text = true) := Content.ofText?_alike (softens_of_isPaired h)
  rw [load_address fetched decoded, load_file stored decoded, parse_of_ofText? read]
  rw [read] at alike paired
  generalize hr : Content.ofText? (unifyNewlines text) = found at alike paired
  cases alike with
  | @some _ tree' shape =>
    rw [parse_of_ofText? hr, ← hasDoc_eq shape]
    cases hasDoc tree with
    | false => exact .inl ⟨rfl, rfl⟩
    | true =>
      refine .inr ⟨_, _, rfl, rfl, ?_, ?_⟩
      · intro noReturn
        rw [unifyNewlines_of_not_mem noReturn, read] at hr
        rw [Option.some.inj hr]
      · by_cases h : isPaired text = true
        · cases paired h with
          | some shape =>
            refine (Example.ofRecords_alike (recordsOf_alike shape)).imp fun e e' like noReturn => ?_
            exact ⟨like.name noReturn, fun _ => like.sameOutcomes noReturn⟩
        · refine (Example.ofRecords_alike (recordsOf_alike shape)).imp fun e e' like noReturn => ?_
          exact ⟨like.name noReturn, fun paired => absurd paired h⟩

/-- A tree in which a file holds a text. -/
def servingTree (text : Text) : Tree :=
  { top := [], files := [(["d.xml".toList], Utf8.encode text)], directories := [], working := [] }

/-- A network on which every address holds a text. -/
def servingFetch (text : Text) : Fetch := fun _ => .ok (Utf8.encode text)

theorem read_servingTree (text : Text) :
    (servingTree text).read (.ofText "d.xml".toList) = .ok (Utf8.encode text) :=
  rfl

/-- A code block with CRLF and without a margin. -/
def flushText : Text :=
  ("<doc><member name=\"m\"><example><code doctest=\"true\">print(1)\r\n\r\n# Output:\r\n# 1\r\n</code>" ++
    "</example></member></doc>").toList

def flushCode : Text := "print(1)\r\n\r\n# Output:\r\n# 1\r\n".toList

/-- The block has the same outcome from both sources, an empty line with CRLF and all. -/
theorem flushText_load_alike :
    (servingFetch flushText (.ofUrl "http://host/d.xml".toList) = .ok (Utf8.encode flushText) ∧
      (servingTree flushText).read (.ofText "d.xml".toList) = .ok (Utf8.encode flushText) ∧
      Utf8.decode (Utf8.dropMark (Utf8.encode flushText)) = .ok flushText ∧
      Content.ofText? flushText ≠ none) ∧
    Example.SameOutcomes ⟨['m'], flushCode, ['m']⟩ ⟨['m'], unifyNewlines flushCode, ['m']⟩ := by
  have fetched : servingFetch flushText (.ofUrl "http://host/d.xml".toList) =
      .ok (Utf8.encode flushText) := rfl
  have stored := read_servingTree flushText
  have decoded : Utf8.decode (Utf8.dropMark (Utf8.encode flushText)) = .ok flushText := by decide +kernel
  have fromAddress : load (servingTree flushText) (servingFetch flushText)
      (.address "http://host/d.xml".toList) = .ok [⟨['m'], [⟨none, [⟨flushCode, true⟩]⟩]⟩] := by decide +kernel
  have fromFile : load (servingTree flushText) (servingFetch flushText) (.file (.ofText "d.xml".toList)) =
      .ok [⟨['m'], [⟨none, [⟨unifyNewlines flushCode, true⟩]⟩]⟩] := by decide +kernel
  have accepted : Content.ofText? flushText ≠ none := by
    rw [load_address fetched decoded] at fromAddress
    obtain ⟨content, read, -⟩ := exists_of_parse (Effects.eq_ok_of_mapError fromAddress)
    simp [read]
  refine ⟨⟨fetched, stored, decoded, accepted⟩, ?_⟩
  rcases load_alike fetched stored decoded accepted with
    ⟨none, -⟩ | ⟨records, records', loaded, loaded', -, alike⟩
  · cases fromAddress.symm.trans none
  · obtain rfl := Except.ok.inj (fromAddress.symm.trans loaded)
    obtain rfl := Except.ok.inj (fromFile.symm.trans loaded')
    have portable : IsPortable flushCode :=
      ⟨by decide +kernel, fun _ => ⟨[], by decide +kernel, by decide +kernel⟩⟩
    cases alike with
    | cons first _ => exact (first (by decide)).2 (by decide +kernel) (by decide +kernel) portable

/-- A section with a name of two lines, and a code block with a margin. -/
def brokenText : Text :=
  ("<doc><member name=\"m\"><example name=\"a\r\nb\"><code doctest=\"true\">\r\n  pass\r\n</code>" ++
    "</example></member></doc>").toList

/-- At an address the name of a section keeps the CR of its line end, and the CR of a blank line keeps the
margin of a code block from being removed, so that its doctest does not pass. -/
theorem brokenText_load_apart :
    load (servingTree brokenText) (servingFetch brokenText) (.address "http://host/d.xml".toList) =
      .ok [⟨['m'], [⟨some "a\r\nb".toList, [⟨"\r\n  pass\r\n".toList, true⟩]⟩]⟩] ∧
    load (servingTree brokenText) (servingFetch brokenText) (.file (.ofText "d.xml".toList)) =
      .ok [⟨['m'], [⟨some "a\nb".toList, [⟨"\n  pass\n".toList, true⟩]⟩]⟩] ∧
    ¬ (DocTest.make "a\r\nb".toList "\r\n  pass\r\n".toList (.preamble []) ['#']).Passes .initial ∧
    (DocTest.make "a\nb".toList "\n  pass\n".toList (.preamble []) ['#']).Passes .initial := by
  refine ⟨by decide +kernel, by decide +kernel, ?_, ?_⟩
  · rw [DocTest.passes_iff _ rfl rfl]
    decide +kernel
  · rw [DocTest.passes_iff _ rfl rfl]
    decide +kernel

end Documentation

end DocExamples
