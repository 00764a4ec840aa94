import DocExamples.Proofs.Documentation.Loading
import DocExamples.Proofs.Markup.Building

namespace DocExamples.Documentation

open Text Markup

def CodeBlock.write (block : CodeBlock) : Text :=
  (if block.doctest then "<code doctest=\"true\">" else "<code>").toList ++ escape block.text ++
    "</code>".toList

def Section.write : Section → Text
  | { name, blocks } =>
    (match name with
      | some name => "<example name=\"".toList ++ escape name ++ "\">".toList
      | none => "<example>".toList) ++ blocks.flatMap CodeBlock.write ++ "</example>".toList

def Record.write (record : Record) : Text :=
  "<member name=\"".toList ++ escape record.name ++ "\">".toList ++
    record.examples.flatMap Section.write ++ "</member>".toList

/-- A documentation file of records, without white space between its elements. -/
def write (records : List Record) : Text :=
  "<doc>".toList ++ ("<members>".toList ++ records.flatMap Record.write ++ "</members>".toList) ++
    "</doc>".toList

/-- A block that reading keeps as it is: white space alone would be collapsed. -/
def CodeBlock.IsKept (block : CodeBlock) : Prop :=
  block.text = [] ∨ ∃ c ∈ block.text, isMarkupBlank c = false

/-- The markup of an element. -/
def writeElement (element : Tag × Content) : Text :=
  element.1.write ++ (element.2.write ++ ('<' :: '/' :: element.1.name ++ ['>']))

/-- Elements one after another. -/
def siblings (elements : List (Tag × Content)) : Content :=
  elements.foldr (fun element next => .element element.1 element.2 next) .done

def CodeBlock.element (block : CodeBlock) : Tag × Content :=
  ({ name := "code".toList
     attributes := if block.doctest then [("doctest".toList, "true".toList)] else [] },
    if block.text = [] then .done else .string .plain block.text .done)

def Section.element : Section → Tag × Content
  | { name, blocks } =>
    ({ name := "example".toList, attributes := name.toList.map fun name => ("name".toList, name) },
      siblings (blocks.map CodeBlock.element))

def Record.element (record : Record) : Tag × Content :=
  ({ name := "member".toList, attributes := [("name".toList, record.name)] },
    siblings (record.examples.map Section.element))

/-- The element tree of a documentation file. -/
def treeOf (records : List Record) : Content :=
  siblings [(⟨"doc".toList, []⟩, siblings [(⟨"members".toList, []⟩,
    siblings (records.map Record.element))])]

section Siblings

variable {elements : List (Tag × Content)}

theorem children_siblings (elements : List (Tag × Content)) : (siblings elements).children = elements := by
  induction elements with
  | nil => rfl
  | cons element elements ih => rw [siblings, List.foldr_cons, Content.children, ← siblings, ih]

theorem findAll_siblings (name : Text) (elements : List (Tag × Content)) :
    (siblings elements).findAll name =
      elements.flatMap fun element =>
        (if element.1.name == name then [element] else []) ++ element.2.findAll name := by
  induction elements with
  | nil => rfl
  | cons element elements ih =>
    rw [List.flatMap_cons, ← ih, Content.findAll, Content.findAll, Content.findAll, siblings,
      List.foldr_cons, Content.descendants, ← siblings, List.cons_append, List.filter_cons,
      List.filter_append]
    split <;> rfl

theorem write_siblings (elements : List (Tag × Content)) :
    (siblings elements).write = elements.flatMap writeElement := by
  induction elements with
  | nil => rfl
  | cons element elements ih =>
    rw [List.flatMap_cons, ← ih, siblings, List.foldr_cons, Content.write, ← siblings, writeElement]
    simp

theorem isWritable_siblings (h : ∀ element ∈ elements, element.1.IsOrdinary ∧ element.2.IsWritable) :
    (siblings elements).IsWritable := by
  induction elements with
  | nil => exact .done
  | cons element elements ih =>
    obtain ⟨ordinary, inside⟩ := h element List.mem_cons_self
    exact .element ordinary inside (ih fun other hm => h other (List.mem_cons_of_mem element hm))

end Siblings

theorem CodeBlock.writeElement_element (block : CodeBlock) : writeElement block.element = block.write := by
  obtain ⟨text, doctest⟩ := block
  have flag : escape "true".toList = "true".toList := by decide
  have inside : (if text = [] then Content.done else .string .plain text .done).write = escape text := by
    split
    · next empty =>
      subst empty
      rfl
    · simp [Content.write]
  unfold element write writeElement Tag.write
  dsimp only
  rw [inside]
  cases doctest with
  | true =>
    simp only [if_true, List.flatMap_cons, List.flatMap_nil, Tag.writeAttribute, flag]
    simp
  | false => simp

theorem Section.writeElement_element (part : Section) : writeElement part.element = part.write := by
  obtain ⟨name, blocks⟩ := part
  have inside : (siblings (blocks.map CodeBlock.element)).write = blocks.flatMap CodeBlock.write := by
    rw [write_siblings, List.flatMap_map]
    exact List.flatMap_congr fun block _ => block.writeElement_element
  unfold element write writeElement Tag.write
  dsimp only
  rw [inside]
  cases name <;> simp [Tag.writeAttribute]

theorem Record.writeElement_element (record : Record) : writeElement record.element = record.write := by
  obtain ⟨name, examples⟩ := record
  have inside : (siblings (examples.map Section.element)).write = examples.flatMap Section.write := by
    rw [write_siblings, List.flatMap_map]
    exact List.flatMap_congr fun part _ => part.writeElement_element
  unfold element write writeElement Tag.write
  dsimp only
  rw [inside]
  simp [Tag.writeAttribute]

theorem writeElement_bare (name : Text) (content : Content) :
    writeElement (⟨name, []⟩, content) =
      '<' :: name ++ ['>'] ++ content.write ++ ('<' :: '/' :: name ++ ['>']) := by
  simp [writeElement, Tag.write]

theorem write_treeOf (records : List Record) : (treeOf records).write = write records := by
  have inside : (siblings (records.map Record.element)).write = records.flatMap Record.write := by
    rw [write_siblings, List.flatMap_map]
    exact List.flatMap_congr fun record _ => record.writeElement_element
  have doc (content : Content) : (siblings [(⟨"doc".toList, []⟩, content)]).write =
      "<doc>".toList ++ content.write ++ "</doc>".toList := by
    rw [write_siblings, List.flatMap_singleton, writeElement_bare]
    simp
  have members (content : Content) : (siblings [(⟨"members".toList, []⟩, content)]).write =
      "<members>".toList ++ content.write ++ "</members>".toList := by
    rw [write_siblings, List.flatMap_singleton, writeElement_bare]
    simp
  have whole : (treeOf records).write = "<doc>".toList ++
      ("<members>".toList ++ records.flatMap Record.write ++ "</members>".toList) ++ "</doc>".toList := by
    rw [← inside, ← members, ← doc]
    rfl
  exact whole

def elementNames : List Text := ["doc", "members", "member", "example", "code"].map String.toList

def attributeNames : List Text := ["name", "doctest"].map String.toList

theorem isOrdinary_of_mem {name : Text} {attributes : List (Text × Text)} (named : name ∈ elementNames)
    (keyed : ∀ pair ∈ attributes, pair.1 ∈ attributeNames) : (Tag.mk name attributes).IsOrdinary := by
  have elements : ∀ name ∈ elementNames, name ≠ [] ∧ name.all (fun c => decide (c ∈ smallLetters)) = true ∧
      name ∉ Builder.voidNames ∧ name ∉ Builder.preservingNames ∧ name ∉ Builder.embeddingNames := by
    decide
  have keys : ∀ name ∈ attributeNames, name ≠ [] ∧ name.all (fun c => decide (c ∈ smallLetters)) = true := by
    decide
  obtain ⟨nonempty, letters, holds, collapses, prose⟩ := elements name named
  refine ⟨⟨⟨nonempty, forall_mem_of_all letters⟩, ?_⟩, holds, collapses, prose⟩
  intro pair hp
  obtain ⟨nonempty, letters⟩ := keys pair.1 (keyed pair hp)
  exact ⟨nonempty, forall_mem_of_all letters⟩

theorem CodeBlock.isWritable_element {block : CodeBlock} (kept : block.IsKept) :
    block.element.1.IsOrdinary ∧ block.element.2.IsWritable := by
  obtain ⟨text, doctest⟩ := block
  constructor
  · refine isOrdinary_of_mem (by decide) ?_
    intro pair hp
    cases doctest with
    | true =>
      obtain rfl := List.mem_singleton.mp hp
      exact List.mem_cons_of_mem _ List.mem_cons_self
    | false => cases hp
  · unfold element
    dsimp only
    split
    · exact .done
    · next nonempty =>
      refine .lastString ?_
      obtain ⟨c, hc, visible⟩ := kept.resolve_left nonempty
      exact List.all_eq_false.mpr ⟨c, hc, by simp [visible]⟩

theorem Section.isWritable_element {part : Section} (kept : ∀ block ∈ part.blocks, block.IsKept) :
    part.element.1.IsOrdinary ∧ part.element.2.IsWritable := by
  obtain ⟨name, blocks⟩ := part
  constructor
  · refine isOrdinary_of_mem (by decide) ?_
    intro pair hp
    obtain ⟨text, -, rfl⟩ := List.mem_map.mp hp
    exact List.mem_cons_self
  · refine isWritable_siblings fun element he => ?_
    obtain ⟨block, hb, rfl⟩ := List.mem_map.mp he
    exact CodeBlock.isWritable_element (kept block hb)

theorem Record.isWritable_element {record : Record}
    (kept : ∀ part ∈ record.examples, ∀ block ∈ part.blocks, block.IsKept) :
    record.element.1.IsOrdinary ∧ record.element.2.IsWritable := by
  constructor
  · refine isOrdinary_of_mem (by decide) ?_
    intro pair hp
    obtain rfl := List.mem_singleton.mp hp
    exact List.mem_cons_self
  · refine isWritable_siblings fun element he => ?_
    obtain ⟨part, hp, rfl⟩ := List.mem_map.mp he
    exact Section.isWritable_element (kept part hp)

theorem isWritable_treeOf {records : List Record}
    (kept : ∀ record ∈ records, ∀ part ∈ record.examples, ∀ block ∈ part.blocks, block.IsKept) :
    (treeOf records).IsWritable := by
  refine .element (isOrdinary_of_mem (by decide) (by simp)) ?_ .done
  refine .element (isOrdinary_of_mem (by decide) (by simp)) ?_ .done
  refine isWritable_siblings fun element he => ?_
  obtain ⟨record, hr, rfl⟩ := List.mem_map.mp he
  exact Record.isWritable_element (kept record hr)

theorem CodeBlock.ofElement_element (block : CodeBlock) : CodeBlock.ofElement block.element = block := by
  obtain ⟨text, doctest⟩ := block
  cases doctest <;> cases text <;> simp [element, ofElement, Content.prose, Tag.attribute?]

theorem findAll_code (name : Text) (block : CodeBlock) : block.element.2.findAll name = [] := by
  unfold CodeBlock.element
  dsimp only
  split <;> rfl

theorem findAll_blocks {name : Text} (other : name ≠ "code".toList) (blocks : List CodeBlock) :
    (siblings (blocks.map CodeBlock.element)).findAll name = [] := by
  rw [findAll_siblings, List.flatMap_map, List.flatMap_eq_nil_iff]
  intro block _
  have apart : (block.element.1.name == name) = false := beq_false_of_ne (Ne.symm other)
  rw [findAll_code, apart]
  rfl

theorem Section.ofElement_element (part : Section) : Section.ofElement part.element = part := by
  obtain ⟨name, blocks⟩ := part
  have found : (siblings (blocks.map CodeBlock.element)).childrenNamed "code".toList =
      blocks.map CodeBlock.element := by
    rw [Content.childrenNamed, children_siblings, List.filter_eq_self]
    intro element he
    obtain ⟨block, -, rfl⟩ := List.mem_map.mp he
    rfl
  have same : CodeBlock.ofElement ∘ CodeBlock.element = id := funext CodeBlock.ofElement_element
  have named : (Tag.mk "example".toList (name.toList.map fun name => ("name".toList, name))).attribute?
      "name".toList = name := by
    cases name <;> rfl
  unfold element ofElement
  dsimp only
  rw [found, named, List.map_map, same, List.map_id]

theorem findAll_sections (parts : List Section) :
    (siblings (parts.map Section.element)).findAll "example".toList = parts.map Section.element := by
  rw [findAll_siblings, List.flatMap_map]
  induction parts with
  | nil => rfl
  | cons part parts ih =>
    have inside : part.element.2.findAll "example".toList = [] := findAll_blocks (by decide) part.blocks
    rw [List.flatMap_cons, ih, inside]
    rfl

theorem findAll_other {name : Text} (h : name ≠ "code".toList) (h' : name ≠ "example".toList)
    (parts : List Section) : (siblings (parts.map Section.element)).findAll name = [] := by
  rw [findAll_siblings, List.flatMap_map, List.flatMap_eq_nil_iff]
  intro part _
  have apart : (part.element.1.name == name) = false := beq_false_of_ne (Ne.symm h')
  have inside : part.element.2.findAll name = [] := findAll_blocks h part.blocks
  rw [inside, apart]
  rfl

theorem Record.ofElement_element (record : Record) : Record.ofElement record.element = record := by
  have same : Section.ofElement ∘ Section.element = id := funext Section.ofElement_element
  unfold element ofElement
  dsimp only
  rw [findAll_sections, List.map_map, same, List.map_id]
  rfl

theorem findAll_records (records : List Record) :
    (siblings (records.map Record.element)).findAll "member".toList = records.map Record.element := by
  rw [findAll_siblings, List.flatMap_map]
  induction records with
  | nil => rfl
  | cons record records ih =>
    have inside : record.element.2.findAll "member".toList = [] :=
      findAll_other (by decide) (by decide) record.examples
    rw [List.flatMap_cons, ih, inside]
    rfl

theorem recordsOf_treeOf (records : List Record) : recordsOf (treeOf records) = records := by
  have same : Record.ofElement ∘ Record.element = id := funext Record.ofElement_element
  have found : (treeOf records).findAll "member".toList = records.map Record.element := by
    rw [treeOf, findAll_siblings, List.flatMap_singleton, findAll_siblings, List.flatMap_singleton,
      findAll_records]
    rfl
  rw [recordsOf, found, List.map_map, same, List.map_id]

/-- Reading a written documentation file gives its records back. -/
theorem parse_write (records : List Record)
    (kept : ∀ record ∈ records, ∀ part ∈ record.examples, ∀ block ∈ part.blocks, block.IsKept) :
    parse (write records) = .ok records := by
  have doc : hasDoc (treeOf records) = true := rfl
  rw [← write_treeOf, parse_of_ofText? (Content.ofText?_write (isWritable_treeOf kept)), doc, if_pos rfl,
    recordsOf_treeOf]

/-- Names and text that hold the characters of markup, a reference and a line end. -/
theorem markedRecord_parse :
    let records : List Record := [⟨"T:A<B>".toList, [⟨some [], [⟨"&lt;\r\n".toList, true⟩, ⟨[], false⟩]⟩,
      ⟨none, []⟩]⟩, ⟨[], []⟩]
    (∀ record ∈ records, ∀ part ∈ record.examples, ∀ block ∈ part.blocks, block.IsKept) ∧
      parse (write records) = .ok records := by
  intro records
  have kept : ∀ record ∈ records, ∀ part ∈ record.examples, ∀ block ∈ part.blocks, block.IsKept := by
    simp [records, CodeBlock.IsKept, isMarkupBlank]
  exact ⟨kept, parse_write records kept⟩

end DocExamples.Documentation
