import DocExamples.Example.Extraction
import DocExamples.Proofs.Documentation.Loading
import DocExamples.Proofs.Markup.Addresses

namespace DocExamples

open Text Documentation Markup
open List (Forall₂)

namespace Example

/-- The examples of a section are those of its marked blocks, one by one. -/
theorem forall₂_ofSection (record : Record) (part : Section) :
    Forall₂ (fun block e => e.record = record.name ∧ e.code = block.text) (marked part)
      (ofSection record part) := by
  rw [List.forall₂_iff_get]
  refine ⟨by simp [ofSection], ?_⟩
  intro index inMarked inExamples
  simp [ofSection]

theorem map_code_ofSection (record : Record) (part : Section) :
    (ofSection record part).map (·.code) = (marked part).map (·.text) := by
  have same := (forall₂_ofSection record part).imp fun _ _ made => made.2.symm
  rw [← List.forall₂_map_right_iff, ← List.forall₂_map_left_iff, List.forall₂_eq_eq_eq] at same
  exact same.symm

/-- The blocks of a record that are run, in order. -/
def markedBlocks (record : Record) : List CodeBlock := record.examples.flatMap marked

theorem map_code_ofRecord (record : Record) :
    (ofRecord record).map (·.code) = (markedBlocks record).map (·.text) := by
  rw [ofRecord, markedBlocks, List.map_flatMap, List.map_flatMap]
  exact List.flatMap_congr fun part _ => map_code_ofSection record part

theorem marked_ofElement (part : Tag × Content) :
    marked (Section.ofElement part) =
      (part.2.childrenNamed "code".toList).filterMap
        fun found => Option.guard (·.doctest) (CodeBlock.ofElement found) := by
  rw [marked, Section.ofElement, ← List.filterMap_eq_filter, List.filterMap_map]
  rfl

/-- The marked blocks among the children of an element make the examples of its section. -/
theorem enumerates_ofSection (record : Record) (part : Tag × Content) :
    Enumerates (· < ·)
      (fun index e => ∃ tag inside, part.2.at? [index] = some (.element tag inside) ∧
        tag.name = "code".toList ∧ tag.attribute? "doctest".toList = some "true".toList ∧
        e.record = record.name ∧ inside.IsProse e.code)
      (ofSection record (Section.ofElement part)) := by
  have unique (index : Nat) (found found' : Tag × Content)
      (h : part.2.at? [index] = some (.element found.1 found.2) ∧ found.1.name = "code".toList)
      (h' : part.2.at? [index] = some (.element found'.1 found'.2) ∧ found'.1.name = "code".toList) :
      found' = found := Content.unique_of_at?_element h.1 h'.1
  have listed := (part.2.enumerates_childrenNamed "code".toList).filterMap unique
    fun found => Option.guard (·.doctest) (CodeBlock.ofElement found)
  rw [← marked_ofElement] at listed
  apply listed.of_forall₂ (forall₂_ofSection record (Section.ofElement part))
  · rintro index block e ⟨⟨tag, inside⟩, ⟨stands, named⟩, made⟩ ⟨ofRecord, code⟩
    rw [Option.guard_eq_some_iff] at made
    obtain ⟨rfl, marked⟩ := made
    refine ⟨tag, inside, stands, named, beq_iff_eq.mp marked, ofRecord, ?_⟩
    rw [code]
    exact inside.isProse_prose
  · rintro index e ⟨tag, inside, stands, named, marked, -, -⟩
    refine ⟨CodeBlock.ofElement (tag, inside), (tag, inside), ⟨stands, named⟩, ?_⟩
    rw [Option.guard_eq_some_iff]
    exact ⟨rfl, beq_iff_eq.mpr marked⟩

/-- Where a block of an example stands: the address of a member, the way from there to a section in it, and
the place of a block in the section. -/
abbrev Occurrence := Address × Address × Nat

/-- Members come in document order, then sections in a member, then blocks in a section. -/
def Occurrence.Before : Occurrence → Occurrence → Prop :=
  Prod.Lex (· < ·) (Prod.Lex (· < ·) (· < ·))

def Occurrence.address (place : Occurrence) : Address := place.1 ++ place.2.1 ++ [place.2.2]

/-- A marked block, which is a child of a section anywhere in a member, and an example that it makes. -/
inductive Makes (tree : Content) : Occurrence → Example → Prop
  | intro {address way : Address} {index : Nat} {memberTag blockTag : Tag}
    {memberInside blockInside : Content} {e : Example}
    (member : tree.at? address = some (.element memberTag memberInside))
    (memberName : memberTag.name = "member".toList)
    (further : way ≠ [])
    (part : tree.HasElement "example".toList (address ++ way))
    (block : tree.at? (address ++ way ++ [index]) = some (.element blockTag blockInside))
    (blockName : blockTag.name = "code".toList)
    (marked : blockTag.attribute? "doctest".toList = some "true".toList)
    (record : e.record = (memberTag.attribute? "name".toList).getD [])
    (code : blockInside.IsProse e.code) : Makes tree (address, way, index) e

theorem ofRecords_recordsOf (tree : Content) :
    ofRecords (recordsOf tree) = (tree.findAll "member".toList).flatMap fun member =>
      (member.2.findAll "example".toList).flatMap fun part =>
        ofSection (Record.ofElement member) (Section.ofElement part) := by
  rw [ofRecords, recordsOf, List.flatMap_map]
  apply List.flatMap_congr
  intro member _
  rw [ofRecord, Record.ofElement, List.flatMap_map]

/-- The examples of a tree are those that its marked blocks make, in their order. -/
theorem enumerates_ofRecords (tree : Content) :
    Enumerates Occurrence.Before (Makes tree) (ofRecords (recordsOf tree)) := by
  have unique (content : Content) (name : Text) (address : Address) (found found' : Tag × Content)
      (h : content.at? address = some (.element found.1 found.2) ∧ found.1.name = name)
      (h' : content.at? address = some (.element found'.1 found'.2) ∧ found'.1.name = name) :
      found' = found := Content.unique_of_at?_element h.1 h'.1
  have parts (member : Tag × Content) := (member.2.enumerates_findAll "example".toList).flatMap
    (unique member.2 "example".toList) (enumerates_ofSection (Record.ofElement member))
  have members := (tree.enumerates_findAll "member".toList).flatMap (unique tree "member".toList) parts
  rw [ofRecords_recordsOf]
  apply members.of_imp
  · rintro ⟨address, way, index⟩ e ⟨member, ⟨stands, named⟩, part, ⟨partStands, partNamed⟩, tag, inside,
      blockStands, blockNamed, marked, record, code⟩
    have further := Content.ne_nil_of_at? partStands
    have partHere : tree.at? (address ++ way) = some (.element part.1 part.2) := by
      rw [Content.at?_append stands further, partStands]
    refine .intro stands named further ⟨part.1, part.2, partHere, partNamed⟩ ?_ blockNamed marked record code
    rw [Content.at?_append partHere (by simp), blockStands]
  · rintro ⟨address, way, index⟩ e made
    cases made with
    | @intro _ _ _ memberTag blockTag memberInside blockInside _ stands named further part block blockNamed
      marked record code =>
      obtain ⟨partTag, partInside, partHere, partNamed⟩ := part
      refine ⟨e, (memberTag, memberInside), ⟨stands, named⟩, (partTag, partInside), ⟨?_, partNamed⟩, blockTag,
        blockInside, ?_, blockNamed, marked, record, code⟩
      · rw [← Content.at?_append stands further, partHere]
      · rw [← Content.at?_append partHere (by simp), block]

/-- Where neither members nor sections are nested, blocks that come later stand at later addresses. -/
theorem Makes.address_lt {tree : Content} (members : tree.IsFlat "member".toList)
    (parts : tree.IsFlat "example".toList) {place place' : Occurrence} {e e' : Example}
    (h : Makes tree place e) (h' : Makes tree place' e') (before : place.Before place') :
    place.address < place'.address := by
  cases h with
  | @intro address way index memberTag _ memberInside _ _ member memberName _ part =>
    cases h' with
    | @intro address' way' index' memberTag' _ memberInside' _ _ member' memberName' _ part' =>
      cases before with
      | left _ _ earlier =>
        have less := members.append_lt_append ⟨memberTag, memberInside, member, memberName⟩
          ⟨memberTag', memberInside', member', memberName'⟩ earlier (way ++ [index]) (way' ++ [index'])
        rwa [← List.append_assoc, ← List.append_assoc] at less
      | right _ within =>
        cases within with
        | left _ _ earlier =>
          exact parts.append_lt_append part part' (Content.append_lt_append_left address earlier)
            [index] [index']
        | right _ earlier =>
          apply Content.append_lt_append_left
          exact List.cons_lt_cons_iff.mpr (.inl earlier)

end Example

/-- A document with a `doc` element gives, for each member, each section anywhere in it and each marked
block directly in that, one example with the block's text and the member's name, in this order, and nothing
else. Where no member is inside a member and no section inside a section, there is one example for each
such block, in the order of the document. -/
theorem parse_enumerates_blocks {text : Text} {tree : Content} (accepted : Content.ofText? text = some tree)
    {root : Address} (doc : tree.HasElement "doc".toList root) :
    ∃ records, Documentation.parse text = .ok records ∧
      Enumerates Example.Occurrence.Before (Example.Makes tree) (Example.ofRecords records) ∧
      (tree.IsFlat "member".toList → tree.IsFlat "example".toList →
        Enumerates (· < ·) (fun address e => ∃ place : Example.Occurrence,
          place.address = address ∧ Example.Makes tree place e) (Example.ofRecords records)) := by
  have listed := Example.enumerates_ofRecords tree
  refine ⟨recordsOf tree, ?_, listed, ?_⟩
  · have found : hasDoc tree = true := by
      simpa [hasDoc] using Content.exists_hasElement_iff.mp ⟨root, doc⟩
    rw [parse_of_ofText? accepted, if_pos found]
  · intro members parts
    apply listed.rekey Example.Occurrence.address
    intro place place' e e' made made' before
    exact made.address_lt members parts made' before

/-- Two members, the first one with blocks that are not run: one without its mark, and one that is no child
of a section. A comment stands in a block that is run. -/
def scatteredText : Text :=
  ["<doc><member name=\"m\"><example><code doctest=\"true\">", "a<!--b--><i>c</i></code><code>d</code>",
    "<p><code doctest=\"true\">e</code></p></example></member>", "<member><p><example>",
    "<code doctest=\"true\">f</code></example></p></member></doc>"].flatMap String.toList

/-- The tree of this document. -/
def scatteredTree : Content :=
  let bare (name : String) : Tag := ⟨name.toList, []⟩
  let marked : Tag := ⟨"code".toList, [("doctest".toList, "true".toList)]⟩
  .element (bare "doc")
    (.element ⟨"member".toList, [("name".toList, "m".toList)]⟩
      (.element (bare "example")
        (.element marked
          (.string .plain ['a'] (.string .hidden ['b'] (.element (bare "i") (.string .plain ['c'] .done) .done)))
          (.element (bare "code") (.string .plain ['d'] .done)
            (.element (bare "p") (.element marked (.string .plain ['e'] .done) .done) .done))) .done)
      (.element (bare "member")
        (.element (bare "p")
          (.element (bare "example") (.element marked (.string .plain ['f'] .done) .done) .done) .done)
        .done)) .done

theorem scatteredText_enumerates :
    Content.ofText? scatteredText = some scatteredTree ∧ scatteredTree.HasElement "doc".toList [0] ∧
    scatteredTree.IsFlat "member".toList ∧ scatteredTree.IsFlat "example".toList ∧
    ∃ records, Documentation.parse scatteredText = .ok records ∧
      (Example.ofRecords records).map (fun e => (e.record, e.code)) =
        [(['m'], ['a', 'c']), ([], ['f'])] ∧
      Enumerates Example.Occurrence.Before (Example.Makes scatteredTree) (Example.ofRecords records) ∧
      Enumerates (· < ·) (fun address e => ∃ place : Example.Occurrence,
        place.address = address ∧ Example.Makes scatteredTree place e) (Example.ofRecords records) := by
  have accepted : Content.ofText? scatteredText = some scatteredTree := by decide +kernel
  have doc : scatteredTree.HasElement "doc".toList [0] := ⟨_, _, rfl, rfl⟩
  have members : scatteredTree.IsFlat "member".toList := Content.isFlat_iff.mpr (by decide +kernel)
  have parts : scatteredTree.IsFlat "example".toList := Content.isFlat_iff.mpr (by decide +kernel)
  have made : (Example.ofRecords (recordsOf scatteredTree)).map (fun e => (e.record, e.code)) =
      [(['m'], ['a', 'c']), ([], ['f'])] := by decide +kernel
  obtain ⟨records, read, listed, flat⟩ := parse_enumerates_blocks accepted doc
  have same : Documentation.parse scatteredText = .ok (recordsOf scatteredTree) := by
    rw [parse_of_ofText? accepted]
    rfl
  obtain rfl := Except.ok.inj (same.symm.trans read)
  exact ⟨accepted, doc, members, parts, _, read, made, listed, flat members parts⟩

end DocExamples
