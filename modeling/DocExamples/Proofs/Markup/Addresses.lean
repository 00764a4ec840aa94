import DocExamples.Markup.Tree
import DocExamples.Proofs.Enumeration

namespace DocExamples.Markup

open Text

/-- A string, or an element with what is inside it. -/
inductive Node
  | string (kind : StringKind) (text : Text)
  | element (tag : Tag) (inside : Content)

/-- The way to a node: at each level, how many siblings stand before it. -/
abbrev Address := List Nat

namespace Node

def element? : Node → Option (Tag × Content)
  | string _ _ => none
  | element tag inside => some (tag, inside)

/-- The text of a string that is prose. -/
def prose? : Node → Option Text
  | string kind text => if kind = .plain || kind = .cdata then some text else none
  | element _ _ => none

end Node

namespace Content

/-- The node at an address. -/
def at? : Content → Address → Option Node
  | done, _ => none
  | string _ _ _, [] => none
  | string kind text _, [0] => some (.string kind text)
  | string _ _ _, 0 :: _ :: _ => none
  | string _ _ next, (index + 1) :: way => next.at? (index :: way)
  | element _ _ _, [] => none
  | element tag inside _, [0] => some (.element tag inside)
  | element _ inside _, 0 :: index :: way => inside.at? (index :: way)
  | element _ _ next, (index + 1) :: way => next.at? (index :: way)

/-- Whether an element of a name stands at an address. -/
def HasElement (content : Content) (name : Text) (address : Address) : Prop :=
  ∃ tag inside, content.at? address = some (.element tag inside) ∧ tag.name = name

/-- No element of a name stands inside another one. -/
def IsFlat (content : Content) (name : Text) : Prop :=
  ∀ address way, way ≠ [] → content.HasElement name address → ¬ content.HasElement name (address ++ way)

/-- The siblings as nodes. -/
def siblings : Content → List Node
  | done => []
  | string kind text next => .string kind text :: next.siblings
  | element tag inside next => .element tag inside :: next.siblings

/-- The nodes at any depth, in document order. -/
def nodes : Content → List Node
  | done => []
  | string kind text next => .string kind text :: next.nodes
  | element tag inside next => .element tag inside :: (inside.nodes ++ next.nodes)

variable {content inside : Content} {tag : Tag}

theorem at?_nil (content : Content) : content.at? [] = none := by
  cases content <;> rfl

theorem at?_singleton (content : Content) (index : Nat) :
    content.at? [index] = content.siblings[index]? := by
  induction content generalizing index with
  | done => rfl
  | string kind text next ih =>
    cases index with
    | zero => rfl
    | succ index => exact ih index
  | element tag inside next _ ih =>
    cases index with
    | zero => rfl
    | succ index => exact ih index

/-- What is inside an element stands at the addresses that go on from its own. -/
theorem at?_append {address : Address} (h : content.at? address = some (.element tag inside))
    {way : Address} (further : way ≠ []) : content.at? (address ++ way) = inside.at? way := by
  obtain ⟨first, way, rfl⟩ := List.exists_cons_of_ne_nil further
  clear further
  induction content generalizing address with
  | done => cases h
  | string kind text next ih =>
    match address with
    | [] => cases h
    | [0] => cases h
    | 0 :: _ :: _ => cases h
    | (index + 1) :: rest => exact @ih (index :: rest) h
  | element outer within next inIH nextIH =>
    match address with
    | [] => cases h
    | [0] =>
      cases h
      rfl
    | 0 :: index :: rest => exact @inIH (index :: rest) h
    | (index + 1) :: rest => exact @nextIH (index :: rest) h

/-- What stands before something outside it stands before everything in it, and so does all that is in it. -/
theorem append_lt_append {first second : Address} (h : first < second) (apart : ¬ first <+: second)
    (way way' : Address) : first ++ way < second ++ way' := by
  induction first generalizing second with
  | nil => exact absurd List.nil_prefix apart
  | cons index first ih =>
    match second with
    | [] => exact absurd h (List.not_lt_nil _)
    | index' :: second =>
      rw [List.cons_lt_cons_iff] at h
      rw [List.cons_append, List.cons_append, List.cons_lt_cons_iff]
      rcases h with less | ⟨rfl, less⟩
      · exact .inl less
      · refine .inr ⟨rfl, ih less ?_⟩
        intro start
        exact apart (List.cons_prefix_cons.mpr ⟨rfl, start⟩)

theorem append_lt_append_left (address : Address) {way way' : Address} (h : way < way') :
    address ++ way < address ++ way' := by
  induction address with
  | nil => exact h
  | cons index address ih => exact List.cons_lt_cons_iff.mpr (.inr ⟨rfl, ih⟩)

/-- Of two elements of a name of which none stands inside another one, all that is in the first stands
before all that is in the second. -/
theorem IsFlat.append_lt_append {name : Text} (flat : content.IsFlat name) {first second : Address}
    (h : content.HasElement name first) (h' : content.HasElement name second) (less : first < second)
    (way way' : Address) : first ++ way < second ++ way' := by
  apply Content.append_lt_append less
  rintro ⟨further, rfl⟩
  have filled : further ≠ [] := by
    rintro rfl
    rw [List.append_nil] at less
    exact List.lt_irrefl first less
  exact flat first further filled h h'

/-- The same address among siblings that stand one place further. -/
def shifted : Address → Address
  | [] => []
  | index :: way => (index + 1) :: way

theorem shifted_lt_shifted {first second : Address} (filled : first ≠ []) (h : first < second) :
    shifted first < shifted second := by
  match first, second with
  | [], _ => exact absurd rfl filled
  | _ :: _, [] => exact absurd h (List.not_lt_nil _)
  | i :: way, j :: way' =>
    rw [shifted, shifted, List.cons_lt_cons_iff]
    rw [List.cons_lt_cons_iff] at h
    rcases h with less | ⟨rfl, less⟩
    · exact .inl (Nat.succ_lt_succ less)
    · exact .inr ⟨rfl, less⟩

theorem ne_nil_of_at? {address : Address} {node : Node} (h : content.at? address = some node) :
    address ≠ [] := by
  rintro rfl
  rw [at?_nil] at h
  cases h

section Siblings

variable {kind : StringKind} {text : Text} {next : Content} {address : Address} {node : Node}

theorem at?_string_iff : (string kind text next).at? address = some node ↔
    (address = [0] ∧ node = .string kind text) ∨
      ∃ way, shifted way = address ∧ next.at? way = some node := by
  constructor
  · intro h
    match address with
    | [] => cases h
    | [0] =>
      cases h
      exact .inl ⟨rfl, rfl⟩
    | 0 :: _ :: _ => cases h
    | (index + 1) :: way => exact .inr ⟨index :: way, rfl, h⟩
  · rintro (⟨rfl, rfl⟩ | ⟨way, rfl, h⟩)
    · rfl
    · obtain ⟨index, way, rfl⟩ := List.exists_cons_of_ne_nil (ne_nil_of_at? h)
      exact h

theorem at?_element_iff : (element tag inside next).at? address = some node ↔
    (address = [0] ∧ node = .element tag inside) ∨
      (∃ way, 0 :: way = address ∧ inside.at? way = some node) ∨
        ∃ way, shifted way = address ∧ next.at? way = some node := by
  constructor
  · intro h
    match address with
    | [] => cases h
    | [0] =>
      cases h
      exact .inl ⟨rfl, rfl⟩
    | 0 :: index :: way => exact .inr (.inl ⟨index :: way, rfl, h⟩)
    | (index + 1) :: way => exact .inr (.inr ⟨index :: way, rfl, h⟩)
  · rintro (⟨rfl, rfl⟩ | ⟨way, rfl, h⟩ | ⟨way, rfl, h⟩)
    · rfl
    · obtain ⟨index, way, rfl⟩ := List.exists_cons_of_ne_nil (ne_nil_of_at? h)
      exact h
    · obtain ⟨index, way, rfl⟩ := List.exists_cons_of_ne_nil (ne_nil_of_at? h)
      exact h

theorem zero_cons_lt_shifted {first second : Address} (filled : second ≠ []) :
    0 :: first < shifted second := by
  obtain ⟨index, way, rfl⟩ := List.exists_cons_of_ne_nil filled
  exact List.cons_lt_cons_iff.mpr (.inl (Nat.succ_pos index))

theorem zero_lt_zero_cons {way : Address} (filled : way ≠ []) : [0] < 0 :: way := by
  obtain ⟨index, way, rfl⟩ := List.exists_cons_of_ne_nil filled
  exact List.cons_lt_cons_iff.mpr (.inr ⟨rfl, List.nil_lt_cons index way⟩)

end Siblings

/-- Every node is listed once, in the order of the addresses. -/
theorem enumerates_nodes (content : Content) :
    Enumerates (· < ·) (fun address node => content.at? address = some node) content.nodes := by
  -- The siblings that come next stand one place further.
  have further {next : Content} (h : Enumerates (· < ·) (fun way node => next.at? way = some node)
      next.nodes) : Enumerates (· < ·)
        (fun address node => ∃ way, shifted way = address ∧ next.at? way = some node) next.nodes := by
    apply h.rekey shifted
    intro first second _ _ stood _ earlier
    exact shifted_lt_shifted (ne_nil_of_at? stood) earlier
  induction content with
  | done => exact .nil fun _ _ stood => nomatch stood
  | string kind text next ih =>
    refine ((Enumerates.singleton [0] (.string kind text)).append (further ih) ?_).congr ?_
    · rintro _ _ _ node ⟨rfl, -⟩ ⟨way, rfl, stood⟩
      exact zero_cons_lt_shifted (ne_nil_of_at? stood)
    · intro address node
      exact at?_string_iff
  | element tag inside next inIH nextIH =>
    have within : Enumerates (· < ·)
        (fun address node => ∃ way, 0 :: way = address ∧ inside.at? way = some node) inside.nodes := by
      apply inIH.rekey (0 :: ·)
      intro first second _ _ _ _ earlier
      exact List.cons_lt_cons_iff.mpr (.inr ⟨rfl, earlier⟩)
    have below := within.append (further nextIH) ?_
    · refine ((Enumerates.singleton [0] (.element tag inside)).append below ?_).congr ?_
      · rintro _ _ _ node ⟨rfl, -⟩ (⟨way, rfl, stood⟩ | ⟨way, rfl, stood⟩)
        · exact zero_lt_zero_cons (ne_nil_of_at? stood)
        · exact zero_cons_lt_shifted (ne_nil_of_at? stood)
      · intro address node
        exact at?_element_iff
    · rintro _ _ _ node ⟨way, rfl, -⟩ ⟨way', rfl, stood⟩
      exact zero_cons_lt_shifted (ne_nil_of_at? stood)

theorem filterMap_element (tag : Tag) (inside : Content) (others : List Node) :
    (Node.element tag inside :: others).filterMap Node.element? =
      (tag, inside) :: others.filterMap Node.element? := rfl

theorem descendants_eq (content : Content) :
    content.descendants = content.nodes.filterMap Node.element? := by
  induction content with
  | done => rfl
  | string kind text next ih => exact ih
  | element tag inside next inIH nextIH =>
    rw [descendants, nodes, filterMap_element, List.filterMap_append, inIH, nextIH, List.cons_append]

theorem children_eq (content : Content) :
    content.children = content.siblings.filterMap Node.element? := by
  induction content with
  | done => rfl
  | string kind text next ih => exact ih
  | element tag inside next _ ih => rw [children, siblings, filterMap_element, ih]

theorem prose_eq (content : Content) :
    content.prose = (content.nodes.filterMap Node.prose?).flatten := by
  induction content with
  | done => rfl
  | string kind text next ih =>
    rw [prose, nodes, List.filterMap_cons, Node.prose?]
    split
    · rw [List.flatten_cons, ih]
    · exact ih
  | element tag inside next inIH nextIH =>
    rw [prose, nodes, List.filterMap_cons_none rfl, List.filterMap_append, List.flatten_append, inIH,
      nextIH]

theorem element?_eq_some_iff {node : Node} {found : Tag × Content} :
    node.element? = some found ↔ node = .element found.1 found.2 := by
  cases node <;> simp [Node.element?, Prod.ext_iff]

theorem unique_of_at? {address : Address} {node node' : Node} (h : content.at? address = some node)
    (h' : content.at? address = some node') : node' = node := by
  rw [h] at h'
  exact (Option.some.inj h').symm

theorem unique_of_at?_element {address : Address} {found found' : Tag × Content}
    (h : content.at? address = some (.element found.1 found.2))
    (h' : content.at? address = some (.element found'.1 found'.2)) : found' = found := by
  obtain ⟨sameTag, sameInside⟩ := Node.element.inj (unique_of_at? h h')
  exact Prod.ext sameTag sameInside

/-- The elements of a name are listed in document order, each once. -/
theorem enumerates_findAll (name : Text) (content : Content) :
    Enumerates (· < ·)
      (fun address (found : Tag × Content) =>
        content.at? address = some (.element found.1 found.2) ∧ found.1.name = name)
      (content.findAll name) := by
  have listed := content.enumerates_nodes.filterMap (fun _ _ _ h h' => unique_of_at? h h')
    fun node => node.element?.filter fun found => found.1.name == name
  rw [findAll, descendants_eq, List.filter_filterMap]
  apply listed.congr
  intro address found
  constructor
  · rintro ⟨stands, named⟩
    exact ⟨.element found.1 found.2, stands, by simp [Node.element?, named]⟩
  · rintro ⟨node, stands, read⟩
    rw [Option.filter_eq_some_iff, element?_eq_some_iff] at read
    obtain ⟨rfl, named⟩ := read
    exact ⟨stands, by simpa using named⟩

theorem mem_findAll_iff {name : Text} {found : Tag × Content} :
    found ∈ content.findAll name ↔
      ∃ address, content.at? address = some (.element found.1 found.2) ∧ found.1.name = name := by
  obtain ⟨keys, -, placed, complete⟩ := content.enumerates_findAll name
  constructor
  · intro mem
    obtain ⟨address, -, stood⟩ := Enumerates.exists_mem_of_mem placed.flip mem
    exact ⟨address, stood⟩
  · rintro ⟨address, stood⟩
    obtain ⟨found', mem, stood'⟩ := Enumerates.exists_mem_of_mem placed (complete address found stood)
    rw [unique_of_at?_element stood'.1 stood.1]
    exact mem

/-- A name is found exactly where an element has it. -/
theorem exists_hasElement_iff {name : Text} :
    (∃ address, content.HasElement name address) ↔ content.findAll name ≠ [] := by
  constructor
  · rintro ⟨address, tag, inside, stands, named⟩
    have mem : (tag, inside) ∈ content.findAll name := mem_findAll_iff.mpr ⟨address, stands, named⟩
    exact List.ne_nil_of_mem mem
  · intro some
    obtain ⟨found, mem⟩ := List.exists_mem_of_ne_nil _ some
    obtain ⟨address, stands, named⟩ := mem_findAll_iff.mp mem
    exact ⟨address, found.1, found.2, stands, named⟩

/-- Whether elements of a name are nested is seen from what is found. -/
theorem isFlat_iff {name : Text} :
    content.IsFlat name ↔ ∀ found ∈ content.findAll name, found.2.findAll name = [] := by
  constructor
  · intro flat found mem
    obtain ⟨address, stands, named⟩ := mem_findAll_iff.mp mem
    by_contra inside
    obtain ⟨way, tag, within, stands', named'⟩ := exists_hasElement_iff.mpr inside
    have further := ne_nil_of_at? stands'
    rw [← at?_append stands further] at stands'
    exact flat address way further ⟨found.1, found.2, stands, named⟩ ⟨tag, within, stands', named'⟩
  · rintro flat address way further ⟨tag, inside, stands, named⟩ ⟨tag', within, stands', named'⟩
    rw [at?_append stands further] at stands'
    have none := flat (tag, inside) (mem_findAll_iff.mpr ⟨address, stands, named⟩)
    exact exists_hasElement_iff.mp ⟨way, tag', within, stands', named'⟩ none

/-- The elements of a name among the siblings are listed in their order, each once. -/
theorem enumerates_childrenNamed (name : Text) (content : Content) :
    Enumerates (· < ·)
      (fun index (found : Tag × Content) =>
        content.at? [index] = some (.element found.1 found.2) ∧ found.1.name = name)
      (content.childrenNamed name) := by
  have listed := (Enumerates.getElem? content.siblings).filterMap
    (fun _ _ _ h h' => Option.some.inj (h'.symm.trans h))
    fun node => node.element?.filter fun found => found.1.name == name
  rw [childrenNamed, children_eq, List.filter_filterMap]
  apply listed.congr
  intro index found
  constructor
  · rintro ⟨stands, named⟩
    rw [at?_singleton] at stands
    exact ⟨.element found.1 found.2, stands, by simp [Node.element?, named]⟩
  · rintro ⟨node, stands, read⟩
    rw [Option.filter_eq_some_iff, element?_eq_some_iff] at read
    obtain ⟨rfl, named⟩ := read
    exact ⟨(at?_singleton content index).trans stands, by simpa using named⟩

/-- A text that is put together from the plain and CDATA strings at any depth, in document order. -/
def IsProse (content : Content) (text : Text) : Prop :=
  ∃ strings : List Text, text = strings.flatten ∧
    Enumerates (· < ·)
      (fun address string => ∃ kind, (kind = .plain ∨ kind = .cdata) ∧
        content.at? address = some (.string kind string)) strings

theorem isProse_prose (content : Content) : content.IsProse content.prose := by
  refine ⟨_, content.prose_eq, ?_⟩
  have listed := content.enumerates_nodes.filterMap (fun _ _ _ h h' => unique_of_at? h h') Node.prose?
  apply listed.congr
  intro address string
  constructor
  · rintro ⟨kind, prose, stands⟩
    refine ⟨.string kind string, stands, ?_⟩
    rcases prose with rfl | rfl <;> rfl
  · rintro ⟨node, stands, read⟩
    cases node with
    | element tag inside => cases read
    | string kind text =>
      rw [Node.prose?] at read
      split at read
      · next prose =>
        cases read
        exact ⟨kind, by simpa using prose, stands⟩
      · cases read

end Content

end DocExamples.Markup
