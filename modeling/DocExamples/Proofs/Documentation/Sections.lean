import DocExamples.Proofs.Documentation.Writing
import DocExamples.Proofs.Markup.Prose
import DocExamples.Proofs.Markup.Sections

namespace DocExamples.Documentation

open Text Markup

/-- The end tags at the end of a file with one block. -/
def closings : Text := ["</code>", "</example>", "</member>", "</doc>"].flatMap String.toList

/-- A documentation file with one flagged block of the given markup. -/
def blockDocument (markup : Text) : Text :=
  ["<doc>", "<member name=\"m\">", "<example name=\"e\">", "<code doctest=\"true\">"].flatMap String.toList ++
    markup ++ closings

/-- A documentation file with a code block in a section. -/
def sectionDocument (code : Text) : Text :=
  blockDocument ("<![CDATA[".toList ++ code ++ "]]>".toList)

/-- A documentation file with an escaped code block. -/
def escapedDocument (code : Text) : Text := blockDocument (escapeText code)

/-- The record of a file with one flagged block. -/
def blockRecord (code : Text) : Record :=
  { name := "m".toList
    examples := [{ name := some "e".toList, blocks := [{ text := code, doctest := true }] }] }

def docTag : Tag := ⟨"doc".toList, []⟩

def memberTag : Tag := ⟨"member".toList, [("name".toList, "m".toList)]⟩

def exampleTag : Tag := ⟨"example".toList, [("name".toList, "e".toList)]⟩

def codeTag : Tag := ⟨"code".toList, [("doctest".toList, "true".toList)]⟩

theorem isOrdinary_tags : docTag.IsOrdinary ∧ memberTag.IsOrdinary ∧ exampleTag.IsOrdinary ∧
    codeTag.IsOrdinary :=
  ⟨isOrdinary_of_mem (by decide) (by decide), isOrdinary_of_mem (by decide) (by decide),
    isOrdinary_of_mem (by decide) (by decide), isOrdinary_of_mem (by decide) (by decide)⟩

/-- The markup of an element with the given tag. -/
def wrap (tag : Tag) (markup : Text) : Text := tag.write ++ (markup ++ ('<' :: '/' :: tag.name ++ ['>']))

theorem blockDocument_eq (markup : Text) :
    blockDocument markup = wrap docTag (wrap memberTag (wrap exampleTag (wrap codeTag markup))) := by
  have nested {a b c d a' b' c' d' : Text} (ha : a = docTag.write) (hb : b = memberTag.write)
      (hc : c = exampleTag.write) (hd : d = codeTag.write)
      (hd' : d' = '<' :: '/' :: codeTag.name ++ ['>']) (hc' : c' = '<' :: '/' :: exampleTag.name ++ ['>'])
      (hb' : b' = '<' :: '/' :: memberTag.name ++ ['>']) (ha' : a' = '<' :: '/' :: docTag.name ++ ['>']) :
      a ++ (b ++ (c ++ (d ++ []))) ++ markup ++ (d' ++ (c' ++ (b' ++ (a' ++ [])))) =
        wrap docTag (wrap memberTag (wrap exampleTag (wrap codeTag markup))) := by
    simp [wrap, ha, hb, hc, hd, ha', hb', hc', hd']
  exact nested (by decide) (by decide) (by decide) (by decide) (by decide) (by decide) (by decide) (by decide)

theorem blockDocument_eq_append (markup : Text) :
    blockDocument markup =
      docTag.write ++ (memberTag.write ++ (exampleTag.write ++ (codeTag.write ++ (markup ++ closings)))) := by
  have nested {a b c d : Text} (ha : a = docTag.write) (hb : b = memberTag.write) (hc : c = exampleTag.write)
      (hd : d = codeTag.write) : a ++ (b ++ (c ++ (d ++ []))) ++ markup ++ closings =
        docTag.write ++ (memberTag.write ++ (exampleTag.write ++ (codeTag.write ++ (markup ++ closings)))) := by
    simp only [ha, hb, hc, hd, List.append_assoc, List.append_nil]
  exact nested (by decide) (by decide) (by decide) (by decide)

variable {markup code : Text}

/-- The tree of a file with one flagged block. -/
def blockTree (kind : StringKind) (code : Text) : Content :=
  .element docTag (.element memberTag (.element exampleTag (.element codeTag
    (.string kind code .done) .done) .done) .done) .done

theorem recordsOf_blockTree {kind : StringKind} (spoken : kind = .plain ∨ kind = .cdata) (code : Text) :
    recordsOf (blockTree kind code) = [blockRecord code] := by
  have prose : (Content.string kind code .done).prose = code := by
    rcases spoken with rfl | rfl <;> exact List.append_nil code
  have records : recordsOf (blockTree kind code) =
      [{ name := "m".toList
         examples := [{ name := some "e".toList
                        blocks := [{ text := (Content.string kind code .done).prose, doctest := true }] }] }] :=
    rfl
  rw [records, prose]
  rfl

/-- A file whose markup is that of a string has a record with a block of the string. -/
theorem parse_blockDocument {kind : StringKind} (spoken : kind = .plain ∨ kind = .cdata)
    (h : Marks markup (.string kind code .done)) : parse (blockDocument markup) = .ok [blockRecord code] := by
  obtain ⟨doc, member, sample, block⟩ := isOrdinary_tags
  have whole := (((h.element block).element sample).element member).element doc
  have tree : Content.ofText? (blockDocument markup) = some (blockTree kind code) := by
    rw [blockDocument_eq]
    exact whole.ofText?
  have hasDoc : hasDoc (blockTree kind code) = true := rfl
  rw [parse_of_ofText? tree, hasDoc, if_pos rfl, recordsOf_blockTree spoken]

theorem parse_escapedDocument (visible : code.all isMarkupBlank = false) :
    parse (escapedDocument code) = .ok [blockRecord code] :=
  parse_blockDocument (.inl rfl) (.escapeText visible)

theorem parse_sectionDocument (visible : code.all isMarkupBlank = false) (h : ¬ HoldsClose code) :
    parse (sectionDocument code) = .ok [blockRecord code] := by
  rw [sectionDocument, List.append_assoc]
  exact parse_blockDocument (.inr rfl) (.inSection visible h)

/-- A block says a part of what the tree says. -/
theorem infix_prose_of_mem {tree : Content} {record : Record} {part : Section} {block : CodeBlock}
    (hr : record ∈ recordsOf tree) (hp : part ∈ record.examples) (hb : block ∈ part.blocks) :
    block.text <:+: tree.prose := by
  obtain ⟨member, hm, rfl⟩ := List.mem_map.mp hr
  obtain ⟨sample, hs, rfl⟩ := List.mem_map.mp hp
  obtain ⟨element, he, rfl⟩ := List.mem_map.mp hb
  have inTree := Content.prose_infix_of_mem_descendants (List.mem_of_mem_filter hm)
  have inMember := Content.prose_infix_of_mem_descendants (List.mem_of_mem_filter hs)
  have inSample := Content.prose_infix_of_mem_descendants
    (Content.mem_descendants_of_mem_children (List.mem_of_mem_filter he))
  exact inSample.trans (inMember.trans inTree)

/-- The tokens at the start of a file. -/
def openings : List Token :=
  [.start docTag false, .start memberTag false, .start exampleTag false, .start codeTag false]

theorem wholePass_openings (rest : Text) :
    Token.wholePass false none
        (docTag.write ++ (memberTag.write ++ (exampleTag.write ++ (codeTag.write ++ rest)))) =
      (Token.wholePass false none rest).map (·.after openings) := by
  obtain ⟨doc, member, sample, block⟩ := isOrdinary_tags
  have start {tag : Tag} (ordinary : tag.IsOrdinary) (rest : Text) :
      Token.wholePass false none (tag.write ++ rest) =
        (Token.wholePass false none rest).map (·.after [.start tag false]) :=
    Token.wholePass_of_step (Token.step_start ordinary.toIsPlain ordinary.notRaw false rest)
  rw [start doc, start member, start sample, start block]
  simp only [Effects.map_map, Function.comp_def, Token.Pass.after_after]
  rfl

/-- What ends a section is `]]>`, or holds white space. -/
theorem weight_of_isClose {close : Text} (h : IsClose close) :
    close = "]]>".toList ∨ 1 ≤ weight close := by
  obtain ⟨gap, gap', blank, blank', rfl⟩ := h
  have heavy {gap : Text} (blank : gap.all isBlank = true) (nonempty : gap ≠ []) : 1 ≤ weight gap := by
    obtain ⟨c, gap, rfl⟩ := List.exists_cons_of_ne_nil nonempty
    have first : isBlank c = true := List.all_eq_true.mp blank c List.mem_cons_self
    have other : c ≠ '&' := by
      rintro rfl
      exact absurd first (by decide)
    rw [weight_cons, weigh, if_neg other, first, Bool.or_true, if_pos rfl]
    omega
  by_cases both : gap = [] ∧ gap' = []
  · left
    rw [both.1, both.2]
    rfl
  · right
    rw [not_and_or] at both
    simp only [weight_cons, weight_append]
    rcases both with nonempty | nonempty
    · have inside := heavy blank nonempty
      omega
    · have inside := heavy blank' nonempty
      omega

/-- A file with a section that ends early says the text before the close, and then no more white space than
there is after the close. -/
theorem exists_prose_sectionDocument {before after : Text} {tree : Content}
    (cut : Token.cutSection? code = some (before, after))
    (read : Content.ofText? (sectionDocument code) = some tree) :
    ∃ said, tree.prose = Builder.collapse before ++ said ∧ weight said ≤ weight after := by
  obtain ⟨tokens, found, rfl⟩ := Effects.exists_of_map_eq_ok (Effects.eq_ok_of_toOption read)
  have ends := Token.cutSection?_append code closings
  rw [cut] at ends
  have light : weight ("]]>".toList ++ closings) = 0 := by decide
  have start : Token.wholePass false none (sectionDocument code) =
      (Token.wholePass false none (after ++ ("]]>".toList ++ closings))).map
        (·.after (openings ++ [.aside .cdata before])) := by
    rw [sectionDocument, blockDocument_eq_append, wholePass_openings, List.append_assoc, List.append_assoc,
      ← List.append_assoc code, Token.wholePass_of_step (Token.step_section false ends), Effects.map_map,
      List.append_assoc]
    simp only [Function.comp_def, Token.Pass.after_after]
  obtain ⟨later, rfl, lighter⟩ := Token.exists_later_of_ofText start found
  obtain ⟨said, prose, weighs⟩ :=
    Content.exists_prose_ofTokens (openings ++ [.aside .cdata before]) later rfl
  have first : ((openings ++ [Token.aside .cdata before]).foldl Builder.take Builder.empty).spoken =
      Builder.collapse before ++ [] ++ [] := rfl
  rw [first, List.append_nil, List.append_nil] at prose
  refine ⟨said, prose, ?_⟩
  rw [weight_append, light] at lighter
  omega

/-- A file with a section that ends early does not say the code. -/
theorem parse_sectionDocument_ne (noEnd : ¬ "]]>".toList <:+: code) (h : HoldsClose code) :
    parse (sectionDocument code) ≠ .ok [blockRecord code] := by
  intro parsed
  obtain ⟨tree, read, records⟩ : ∃ tree, Content.ofText? (sectionDocument code) = some tree ∧
      recordsOf tree = [blockRecord code] := by
    obtain ⟨tree, read, records⟩ := exists_of_parse parsed
    exact ⟨tree, read, records⟩
  have inTree : code <:+: tree.prose := by
    have record : blockRecord code ∈ recordsOf tree := by
      rw [records]
      exact List.mem_singleton_self _
    exact @infix_prose_of_mem tree _ _ ⟨code, true⟩ record List.mem_cons_self List.mem_cons_self
  obtain ⟨⟨before, after⟩, cut⟩ := Option.ne_none_iff_exists'.mp fun none =>
    Token.cutSection?_eq_none_iff.mp none h
  obtain ⟨close, isClose, whole⟩ := Token.exists_close_of_cutSection? cut
  obtain ⟨said, prose, light⟩ := exists_prose_sectionDocument cut read
  have heavy : 1 ≤ weight close := by
    refine (weight_of_isClose isClose).resolve_left ?_
    rintro rfl
    exact noEnd ⟨before, after, by rw [whole, List.append_assoc]⟩
  have weighs : weight code = weight before + (weight close + weight after) := by
    rw [whole, weight_append, weight_append]
  rw [prose] at inTree
  by_cases empty : before = []
  · -- The space that is put for nothing is not the bracket that the code starts with.
    obtain ⟨gap, gap', -, -, rfl⟩ := isClose
    rw [empty] at inTree whole
    rcases List.infix_cons_iff.mp inTree with first | later
    · rw [whole] at first
      exact absurd (List.cons_prefix_cons.mp first).1 (by decide)
    · have inside : code <:+: said := later
      have lighter := weight_le_of_sublist inside.sublist
      omega
  · have lighter := weight_le_of_sublist inTree.sublist
    have string := Builder.weight_collapse_le before
    rw [held_of_ne_nil empty] at string
    rw [weight_append] at lighter
    omega

/-- For code without `]]>` that is not white space alone: escaped, it is the text of the one block that is
read; and so it is in a section exactly if it holds no close. -/
theorem parse_sectionDocument_iff (noEnd : ¬ "]]>".toList <:+: code)
    (visible : ∃ c ∈ code, isMarkupBlank c = false) :
    parse (escapedDocument code) = .ok [blockRecord code] ∧
      (parse (sectionDocument code) = parse (escapedDocument code) ↔ ¬ HoldsClose code) := by
  have shown : code.all isMarkupBlank = false := by
    obtain ⟨c, mem, dark⟩ := visible
    exact List.all_eq_false.mpr ⟨c, mem, by simp [dark]⟩
  have escaped := parse_escapedDocument shown
  rw [escaped]
  refine ⟨rfl, ?_, fun h => parse_sectionDocument shown h⟩
  intro same h
  exact parse_sectionDocument_ne noEnd h same

/-- Code with nested subscripts, a comparison, and a reference and a tag in a string. -/
theorem nestedSubscripts_parse :
    let code := "print(a[b[0]] < 1, '&lt;<b>')\n".toList
    (¬ "]]>".toList <:+: code) ∧ (∃ c ∈ code, isMarkupBlank c = false) ∧ (¬ HoldsClose code) ∧
      parse (sectionDocument code) = parse (escapedDocument code) := by
  intro code
  have noEnd : ¬ "]]>".toList <:+: code := by decide +kernel
  have visible : ∃ c ∈ code, isMarkupBlank c = false := ⟨'p', by decide, by decide⟩
  have noClose : ¬ HoldsClose code := Token.cutSection?_eq_none_iff.mp (by decide +kernel)
  exact ⟨noEnd, visible, noClose, (parse_sectionDocument_iff noEnd visible).2.mpr noClose⟩

/-- A comparison after nested subscripts ends the section, because white space may stand in its close. -/
theorem comparison_parse_ne :
    let code := "x = a[b[0] ] > 1".toList
    (¬ "]]>".toList <:+: code) ∧ (∃ c ∈ code, isMarkupBlank c = false) ∧
      parse (escapedDocument code) = .ok [blockRecord code] ∧
      parse (sectionDocument code) = .ok [blockRecord "x = a[b[0 1]]>".toList] ∧
      parse (sectionDocument code) ≠ parse (escapedDocument code) := by
  intro code
  have noEnd : ¬ "]]>".toList <:+: code := by decide +kernel
  have visible : ∃ c ∈ code, isMarkupBlank c = false := ⟨'x', by decide, by decide⟩
  have escaped : parse (escapedDocument code) = .ok [blockRecord code] := parse_escapedDocument (by decide)
  have cut : parse (sectionDocument code) = .ok [blockRecord "x = a[b[0 1]]>".toList] := by decide +kernel
  refine ⟨noEnd, visible, escaped, cut, ?_⟩
  rw [escaped, cut]
  decide +kernel

end DocExamples.Documentation
