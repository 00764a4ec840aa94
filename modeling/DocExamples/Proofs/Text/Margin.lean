import DocExamples.Proofs.Text.Lines
import DocExamples.Text.Margin
import Mathlib.Data.List.TakeWhile

namespace DocExamples.Text

theorem pieces_eq_splitOn (mark : Char) (t : Text) : pieces mark t = t.splitOn mark := by
  induction t with
  | nil => simp [pieces]
  | cons c t ih =>
    rw [pieces, List.splitOn_cons_eq_if_modifyHead, ih]
    by_cases hc : c = mark
    · simp [hc]
    · simp only [hc, if_false, beq_iff_eq]
      cases hs : t.splitOn mark with
      | nil => exact absurd hs (List.splitOn_ne_nil mark t)
      | cons piece rest => rfl

theorem joinWith_eq_intercalate (between : Text) (ts : List Text) :
    joinWith between ts = between.intercalate ts := by
  induction ts with
  | nil => rfl
  | cons t ts ih =>
    cases ts with
    | nil => simp [joinWith]
    | cons u ts => rw [joinWith, ih, List.intercalate_cons_cons]

theorem pieces_ne_nil (mark : Char) (t : Text) : pieces mark t ≠ [] := by
  simp [pieces_eq_splitOn]

theorem joinWith_pieces (mark : Char) (t : Text) : joinWith [mark] (pieces mark t) = t := by
  rw [joinWith_eq_intercalate, pieces_eq_splitOn, List.intercalate_splitOn]

theorem pieces_joinWith {mark : Char} {ts : List Text} (h : ∀ t ∈ ts, mark ∉ t) (hne : ts ≠ []) :
    pieces mark (joinWith [mark] ts) = ts := by
  rw [joinWith_eq_intercalate, pieces_eq_splitOn, List.splitOn_intercalate mark h hne]

theorem pieces_of_not_mem {mark : Char} {t : Text} (h : mark ∉ t) : pieces mark t = [t] := by
  rw [pieces_eq_splitOn, List.splitOn_eq_singleton h]

theorem pieces_append_mark (mark : Char) (t u : Text) :
    pieces mark (t ++ mark :: u) = pieces mark t ++ pieces mark u := by
  simp only [pieces_eq_splitOn, List.splitOn_append_cons_self]

theorem not_mem_of_mem_pieces {mark : Char} {t piece : Text} (h : piece ∈ pieces mark t) :
    mark ∉ piece := by
  induction t generalizing piece with
  | nil => simp_all [pieces]
  | cons c t ih =>
    rw [pieces] at h
    by_cases hc : c = mark
    · rw [if_pos hc] at h
      rcases List.mem_cons.mp h with rfl | h
      · simp
      · exact ih h
    · rw [if_neg hc] at h
      cases hp : pieces mark t with
      | nil => exact absurd hp (pieces_ne_nil mark t)
      | cons first rest =>
        rw [hp] at h ih
        rcases List.mem_cons.mp h with rfl | h
        · have := ih (List.mem_cons_self (a := first))
          simp [Ne.symm hc, this]
        · exact ih (List.mem_cons_of_mem _ h)

/-- Every piece of a text stands between marks, or at an end of the text. -/
theorem exists_of_mem_pieces {mark : Char} {t piece : Text} (h : piece ∈ pieces mark t) :
    ∃ before after, t = before ++ piece ++ after ∧ (before = [] ∨ before.getLast? = some mark) ∧
      (after = [] ∨ after.head? = some mark) := by
  have whole := joinWith_pieces mark t
  rw [joinWith_eq_intercalate] at whole
  obtain ⟨first, last, hl⟩ := List.append_of_mem h
  rw [hl] at whole
  clear hl h
  induction first generalizing t with
  | nil =>
    cases last with
    | nil => exact ⟨[], [], by simpa using whole.symm, .inl rfl, .inl rfl⟩
    | cons next last =>
      exact ⟨[], mark :: [mark].intercalate (next :: last), by simpa using whole.symm, .inl rfl,
        .inr rfl⟩
  | cons line first ih =>
    obtain ⟨before, after, hw, hb, ha⟩ := ih rfl
    refine ⟨line ++ mark :: before, after, ?_, .inr ?_, ha⟩
    · rw [← whole, List.cons_append, List.intercalate_cons_of_ne_nil (by simp), hw]
      simp
    · rcases hb with rfl | hb
      · simp
      · simp [List.getLast?_append, List.getLast?_cons, hb]

/-- What stands between marks without holding one is a piece. -/
theorem mem_pieces_of_eq {mark : Char} {before piece after : Text} (hp : mark ∉ piece)
    (hb : before = [] ∨ before.getLast? = some mark) (ha : after = [] ∨ after.head? = some mark) :
    piece ∈ pieces mark (before ++ piece ++ after) := by
  have tail : piece ∈ pieces mark (piece ++ after) := by
    rcases ha with rfl | ha
    · simp [pieces_of_not_mem hp]
    · obtain ⟨rest, rfl⟩ := List.head?_eq_some_iff.mp ha
      simp [pieces_append_mark, pieces_of_not_mem hp]
  rcases hb with rfl | hb
  · simpa using tail
  · obtain ⟨start, rfl⟩ := List.getLast?_eq_some_iff.mp hb
    simpa [pieces_append_mark] using Or.inr tail

theorem cutAt?_eq_some_iff {mark : Char} {t first rest : Text} :
    cutAt? mark t = some (first, rest) ↔ t = first ++ mark :: rest ∧ mark ∉ first := by
  induction t generalizing first with
  | nil => simp [cutAt?]
  | cons c t ih =>
    rw [cutAt?]
    by_cases hc : c = mark
    · rw [if_pos hc]
      constructor
      · rintro h
        obtain ⟨rfl, rfl⟩ : [] = first ∧ t = rest := by simpa using h
        simp [hc]
      · rintro ⟨h, hn⟩
        cases first with
        | nil => simp_all
        | cons d first => simp_all
    · rw [if_neg hc]
      constructor
      · intro h
        obtain ⟨⟨before, after⟩, hcut, heq⟩ := Option.map_eq_some_iff.mp h
        obtain ⟨rfl, rfl⟩ : c :: before = first ∧ after = rest := by simpa using heq
        obtain ⟨rfl, hn⟩ := ih.mp hcut
        simp [Ne.symm hc, hn]
      · rintro ⟨h, hn⟩
        cases first with
        | nil => simp_all
        | cons d first =>
          simp only [List.cons_append, List.cons.injEq, List.mem_cons, not_or] at h hn
          rw [ih.mpr ⟨h.2, hn.2⟩, h.1]
          rfl

theorem isPrefix_commonStart (a b : Text) : commonStart a b <+: a ∧ commonStart a b <+: b := by
  induction a generalizing b with
  | nil => simp [commonStart]
  | cons c a ih =>
    cases b with
    | nil => simp [commonStart]
    | cons d b =>
      by_cases hc : c = d
      · simpa [commonStart, hc] using ih b
      · simp [commonStart, hc]

theorem isPrefix_foldl_commonStart (first : Text) (others : List Text) :
    others.foldl commonStart first <+: first ∧
      ∀ other ∈ others, others.foldl commonStart first <+: other := by
  induction others generalizing first with
  | nil => simp
  | cons other others ih =>
    obtain ⟨hfirst, hall⟩ := ih (commonStart first other)
    obtain ⟨left, right⟩ := isPrefix_commonStart first other
    refine ⟨hfirst.trans left, fun next hn => ?_⟩
    rcases List.mem_cons.mp hn with rfl | hn
    · exact hfirst.trans right
    · exact hall next hn

/-- Each line that is not hollow starts with the margin. -/
theorem isPrefix_margin {lines : List Text} {line : Text} (h : line ∈ lines)
    (visible : isHollow line = false) : margin lines <+: line.takeWhile isIndent := by
  have mem : line.takeWhile isIndent ∈
      (lines.filter fun line => !isHollow line).map (·.takeWhile isIndent) :=
    List.mem_map_of_mem (List.mem_filter.mpr ⟨h, by simp [visible]⟩)
  rw [margin]
  cases hl : (lines.filter fun line => !isHollow line).map (·.takeWhile isIndent) with
  | nil => simp [hl] at mem
  | cons indent rest =>
    rw [hl] at mem
    obtain ⟨first, others⟩ := isPrefix_foldl_commonStart indent rest
    rcases List.mem_cons.mp mem with heq | hr
    · exact heq ▸ first
    · exact others _ hr

theorem exists_visible_of_margin_ne_nil {lines : List Text} (h : margin lines ≠ []) :
    ∃ line ∈ lines, isHollow line = false := by
  by_contra none
  simp only [not_exists, not_and, Bool.not_eq_false] at none
  have empty : lines.filter (fun line => !isHollow line) = [] := by simpa using none
  simp [margin, empty] at h

/-- Text in which the lines of spaces and tabs are empty. -/
def IsTidy (t : Text) : Prop := ∀ line ∈ pieces '\n' t, isHollow line = true → line = []

theorem isHollow_append (a b : Text) : isHollow (a ++ b) = (isHollow a && isHollow b) := by
  simp [isHollow]

theorem dropMargin_isTidy {lines : List Text} {line : Text} (h : line ∈ lines)
    (hollow : isHollow (dropMargin (margin lines) line) = true) :
    dropMargin (margin lines) line = [] := by
  rw [dropMargin] at hollow ⊢
  cases visible : isHollow line with
  | true => simp
  | false =>
    simp only [visible, Bool.false_eq_true, if_false] at hollow
    obtain ⟨rest, hr⟩ := (isPrefix_margin h visible).trans ( List.takeWhile_prefix isIndent)
    obtain ⟨more, hm⟩ := isPrefix_margin h visible
    have indent : isHollow (margin lines) = true := by
      have := List.all_takeWhile (p := isIndent) (l := line)
      rw [← hm, List.all_append, Bool.and_eq_true] at this
      exact this.1
    rw [← hr, List.drop_left] at hollow
    rw [← hr, isHollow_append, indent, hollow] at visible
    simp at visible

theorem not_mem_dropMargin {m line : Text} {c : Char} (h : c ∉ line) : c ∉ dropMargin m line := by
  rw [dropMargin]
  split
  · simp
  · exact fun hc => h (List.mem_of_mem_drop hc)

theorem mem_joinWith {between : Text} {ts : List Text} {c : Char} (h : c ∈ joinWith between ts) :
    c ∈ between ∨ ∃ t ∈ ts, c ∈ t := by
  induction ts with
  | nil => simp [joinWith] at h
  | cons t ts ih =>
    cases ts with
    | nil => exact .inr ⟨t, by simp, by simpa [joinWith] using h⟩
    | cons next ts =>
      rw [joinWith, List.mem_append, List.mem_append] at h
      rcases h with (h | h) | h
      · exact .inr ⟨t, by simp, h⟩
      · exact .inl h
      · rcases ih h with h | ⟨u, hu, h⟩
        · exact .inl h
        · exact .inr ⟨u, List.mem_cons_of_mem t hu, h⟩

/-- Removing a margin brings in no other characters than line ends. -/
theorem not_mem_dedent {t : Text} {c : Char} (h : c ∉ t) (newline : c ≠ '\n') : c ∉ dedent t := by
  intro hc
  rcases mem_joinWith hc with hc | ⟨line, hl, hc⟩
  · exact newline (by simpa using hc)
  · obtain ⟨piece, hp, rfl⟩ := List.mem_map.mp hl
    obtain ⟨before, after, rfl, -, -⟩ := exists_of_mem_pieces hp
    refine not_mem_dropMargin (fun hc => h ?_) hc
    simp [hc]

/-- Removing a margin takes away spaces and tabs only. -/
theorem mem_dropMargin {lines : List Text} {line : Text} {c : Char} (h : line ∈ lines) (mem : c ∈ line)
    (visible : isIndent c = false) : c ∈ dropMargin (margin lines) line := by
  have solid : isHollow line = false := by
    rw [isHollow, List.all_eq_false]
    exact ⟨c, mem, by simp [visible]⟩
  have start := isPrefix_margin h solid
  obtain ⟨rest, whole⟩ := start.trans (List.takeWhile_prefix isIndent)
  have outside : c ∉ margin lines := by
    intro inside
    have indent := List.mem_takeWhile_imp (start.subset inside)
    simp [visible] at indent
  rw [dropMargin, solid, if_neg Bool.false_ne_true, ← whole, List.drop_left]
  rw [← whole] at mem
  exact (List.mem_append.mp mem).resolve_left outside

theorem pieces_dedent (t : Text) : pieces '\n' (dedent t) = dedentLines (pieces '\n' t) := by
  apply pieces_joinWith
  · intro line hl
    obtain ⟨piece, hp, rfl⟩ := List.mem_map.mp hl
    exact not_mem_dropMargin (not_mem_of_mem_pieces hp)
  · simpa [dedentLines] using pieces_ne_nil '\n' t

theorem mem_dedent {t : Text} {c : Char} (mem : c ∈ t) (newline : c ≠ '\n')
    (visible : isIndent c = false) : c ∈ dedent t := by
  rw [← joinWith_pieces '\n' t] at mem
  rcases mem_joinWith mem with between | ⟨piece, hp, inside⟩
  · exact absurd (List.mem_singleton.mp between) newline
  · have line : dropMargin (margin (pieces '\n' t)) piece ∈ pieces '\n' (dedent t) := by
      rw [pieces_dedent]
      exact List.mem_map_of_mem hp
    obtain ⟨before, after, whole, -, -⟩ := exists_of_mem_pieces line
    rw [whole]
    exact List.mem_append_left after (List.mem_append_right before (mem_dropMargin hp inside visible))

theorem isTidy_dedent (t : Text) : IsTidy (dedent t) := by
  intro line hl hollow
  rw [pieces_dedent] at hl
  obtain ⟨piece, hp, rfl⟩ := List.mem_map.mp hl
  exact dropMargin_isTidy hp hollow

/-- A tidy text is left as it is exactly when it has no margin. -/
theorem dedent_eq_self_iff {t : Text} (tidy : IsTidy t) :
    dedent t = t ↔ margin (pieces '\n' t) = [] := by
  constructor
  · intro h
    by_contra hm
    obtain ⟨line, hl, visible⟩ := exists_visible_of_margin_ne_nil hm
    have same : dedentLines (pieces '\n' t) = pieces '\n' t := by rw [← pieces_dedent, h]
    have kept : dropMargin (margin (pieces '\n' t)) line = line :=
      List.map_inj_left.mp (same.trans (List.map_id _).symm) line hl
    rw [dropMargin, visible, if_neg (by simp)] at kept
    have shorter := congrArg List.length kept
    have nonempty : line ≠ [] := by
      rintro rfl
      simp [isHollow] at visible
    have hlen := List.length_pos_iff.mpr hm
    have hline := List.length_pos_iff.mpr nonempty
    simp only [List.length_drop] at shorter
    omega
  · intro hm
    have same : dedentLines (pieces '\n' t) = pieces '\n' t := by
      rw [dedentLines, hm]
      refine (List.map_congr_left fun line hl => ?_).trans (List.map_id _)
      rw [dropMargin]
      cases hollow : isHollow line with
      | true => simp [tidy line hl hollow]
      | false => simp
    rw [dedent, same, joinWith_pieces]

theorem isHollow_eq_false_of_head {line : Text} {c : Char} (h : line.head? = some c)
    (hc : isIndent c = false) : isHollow line = false := by
  obtain ⟨rest, rfl⟩ := List.head?_eq_some_iff.mp h
  simp [isHollow, hc]

theorem isIndent_eq_false {c : Char} (h : isBlank c = false) : isIndent c = false := by
  cases hi : isIndent c with
  | false => rfl
  | true => simp [isBlank_of_isIndent hi] at h

theorem exists_head_of_startsInTag {first rest : Text} (h : startsInTag first rest = true) :
    ∃ c, first.head? = some c ∧ isBlank c = false := by
  simp only [startsInTag, Bool.and_eq_true] at h
  cases first with
  | nil => simp at h
  | cons c first => exact ⟨c, rfl, by simpa using h.1.1⟩

theorem not_mem_dedentCode {code : Text} {c : Char} (h : c ∉ code) (newline : c ≠ '\n') :
    c ∉ dedentCode code := by
  rw [dedentCode]
  split
  · rename_i first rest hcut
    obtain ⟨rfl, -⟩ := cutAt?_eq_some_iff.mp hcut
    simp only [List.mem_append, List.mem_cons, not_or] at h
    split
    · simp [h.1, newline, not_mem_dedent h.2.2 newline]
    · exact not_mem_dedent (by simp [h]) newline
  · exact not_mem_dedent h newline

theorem mem_dedentCode {code : Text} {c : Char} (mem : c ∈ code) (newline : c ≠ '\n')
    (visible : isIndent c = false) : c ∈ dedentCode code := by
  rw [dedentCode]
  split
  · next first rest cut =>
    split
    · obtain ⟨rfl, -⟩ := cutAt?_eq_some_iff.mp cut
      rcases List.mem_append.mp mem with inside | below
      · exact List.mem_append_left _ inside
      · have later := (List.mem_cons.mp below).resolve_left newline
        exact List.mem_append_right first (List.mem_cons_of_mem _ (mem_dedent later newline visible))
    · exact mem_dedent mem newline visible
  · exact mem_dedent mem newline visible

theorem isTidy_dedentCode (code : Text) : IsTidy (dedentCode code) := by
  rw [dedentCode]
  split
  · rename_i first rest hcut
    split
    · rename_i inTag
      obtain ⟨c, hhead, hc⟩ := exists_head_of_startsInTag inTag
      have hn := (cutAt?_eq_some_iff.mp hcut).2
      intro line hl hollow
      rw [pieces_append_mark, pieces_of_not_mem hn] at hl
      rcases List.mem_append.mp hl with hl | hl
      · obtain rfl : line = first := by simpa using hl
        simp [isHollow_eq_false_of_head hhead (isIndent_eq_false hc)] at hollow
      · exact isTidy_dedent rest line hl hollow
    · exact isTidy_dedent code
  · exact isTidy_dedent code

/-- Texts of which the last one is empty end in what stands between them. -/
theorem getLast?_joinWith {mark : Char} {ts : List Text} (hne : ts ≠ []) :
    (joinWith [mark] (ts ++ [[]])).getLast? = some mark := by
  induction ts with
  | nil => exact absurd rfl hne
  | cons t ts ih =>
    cases ts with
    | nil => simp [joinWith]
    | cons u ts =>
      have further : (joinWith [mark] (u :: (ts ++ [[]]))).getLast? = some mark := ih (by simp)
      rw [List.cons_append, List.cons_append, joinWith, List.getLast?_append, further]
      rfl

/-- A text of whole lines stays one without its margin. -/
theorem getLast?_dedent {t : Text} (h : t.getLast? = some '\n') : (dedent t).getLast? = some '\n' := by
  obtain ⟨lines, rfl⟩ := List.getLast?_eq_some_iff.mp h
  have whole : pieces '\n' (lines ++ ['\n']) = pieces '\n' lines ++ [[]] :=
    pieces_append_mark '\n' lines []
  have hne : (pieces '\n' lines).map (dropMargin (margin (pieces '\n' lines ++ [[]]))) ≠ [] := by
    simpa using pieces_ne_nil '\n' lines
  rw [dedent, dedentLines, whole, List.map_append]
  exact getLast?_joinWith hne

theorem getLast?_dedentCode {code : Text} (h : code.getLast? = some '\n') :
    (dedentCode code).getLast? = some '\n' := by
  rw [dedentCode]
  split
  · next first rest cut =>
    obtain ⟨rfl, -⟩ := cutAt?_eq_some_iff.mp cut
    split
    · next inTag =>
      have below : rest ≠ [] := by
        rintro rfl
        simp [startsInTag] at inTag
      have last : rest.getLast? = some '\n' := by
        obtain ⟨c, others, rfl⟩ := List.exists_cons_of_ne_nil below
        rwa [List.getLast?_append, List.getLast?_cons_cons, List.getLast?_cons, Option.some_or,
          ← List.getLast?_cons] at h
      rw [List.getLast?_append, List.getLast?_cons, getLast?_dedent last]
      rfl
    · exact getLast?_dedent h
  · exact getLast?_dedent h

end DocExamples.Text
