import Mathlib.Data.List.Basic

/-!
# Texts with holes

A line of a report is a text with holes: constants, and values between them.  Where a value
does not hold the first character of the constant after it, the reader can tell where it ends:
two lines of one form with the same text have the same values (`Line.eq_of_text`), and texts
of lines that hold no separator are of the same lines (`texts_of_intercalate`).
-/

namespace ExtractApi.FilledText

variable {α : Type*}

/-- The holes, each a constant and the value after it, and the last constant. -/
structure Line (α : Type*) where
  holes : List (List α × List α)
  last : List α

namespace Line

def text (line : Line α) : List α :=
  line.holes.flatMap (fun hole => hole.1 ++ hole.2) ++ line.last

/-- What is constant about the line. -/
def form (line : Line α) : List (List α) × List α := (line.holes.map Prod.fst, line.last)

/-- The constant that the line begins with. -/
def leading (line : Line α) : List α := (line.holes.head?.map Prod.fst).getD line.last

theorem text_cons (constant value : List α) (holes : List (List α × List α)) (last : List α) :
    text ⟨(constant, value) :: holes, last⟩ = constant ++ (value ++ text ⟨holes, last⟩) := by
  simp [text]

theorem text_leading (line : Line α) : ∃ tail, line.text = line.leading ++ tail := by
  obtain ⟨_ | ⟨⟨constant, value⟩, holes⟩, last⟩ := line
  · exact ⟨[], (List.append_nil last).symm⟩
  · exact ⟨value ++ text ⟨holes, last⟩, text_cons constant value holes last⟩

end Line

/-- Every value ends where the next constant begins. -/
def Separated (last : List α) : List (List α × List α) → Prop
  | [] => True
  | (_, value) :: holes =>
      (∃ c ∈ (Line.leading ⟨holes, last⟩).head?, c ∉ value) ∧ Separated last holes

theorem value_ends {c : α} {value value' tail tail' : List α} (h : c ∉ value) (h' : c ∉ value')
    (heq : value ++ c :: tail = value' ++ c :: tail') : value = value' := by
  induction value generalizing value' with
  | nil =>
    rcases value' with _ | ⟨d, value'⟩
    · rfl
    · rw [List.nil_append, List.cons_append, List.cons.injEq] at heq
      exact absurd (heq.1 ▸ List.mem_cons_self) h'
  | cons d value ih =>
    rcases value' with _ | ⟨d', value'⟩
    · rw [List.nil_append, List.cons_append, List.cons.injEq] at heq
      exact absurd (heq.1 ▸ List.mem_cons_self) h
    · rw [List.cons_append, List.cons_append, List.cons.injEq] at heq
      rw [List.mem_cons, not_or] at h h'
      rw [heq.1, ih h.2 h'.2 heq.2]

theorem holes_of_text {last : List α} {holes holes' : List (List α × List α)}
    (hconstants : holes.map Prod.fst = holes'.map Prod.fst) (h : Separated last holes)
    (h' : Separated last holes') (heq : Line.text ⟨holes, last⟩ = Line.text ⟨holes', last⟩) :
    holes = holes' := by
  induction holes generalizing holes' with
  | nil => exact (List.map_eq_nil_iff.mp hconstants.symm).symm
  | cons hole holes ih =>
    rcases holes' with _ | ⟨hole', holes'⟩
    · cases hconstants
    obtain ⟨constant, value⟩ := hole
    obtain ⟨constant', value'⟩ := hole'
    rw [List.map_cons, List.map_cons, List.cons.injEq] at hconstants
    obtain ⟨rfl, hconstants⟩ := hconstants
    have hleading : Line.leading ⟨holes, last⟩ = Line.leading ⟨holes', last⟩ := by
      have hhead := congrArg List.head? hconstants
      rw [List.head?_map, List.head?_map] at hhead
      exact congrArg (fun found => Option.getD found last) hhead
    obtain ⟨⟨c, hc, hvalue⟩, hholes⟩ := h
    obtain ⟨⟨c', hc', hvalue'⟩, hholes'⟩ := h'
    rw [← hleading] at hc'
    obtain rfl : c = c' := Option.some.inj (hc.symm.trans hc')
    rw [Line.text_cons, Line.text_cons, List.append_cancel_left_eq] at heq
    -- both rests begin with the character at which the values end
    obtain ⟨tail, htail⟩ := Line.text_leading ⟨holes, last⟩
    obtain ⟨tail', htail'⟩ := Line.text_leading ⟨holes', last⟩
    obtain ⟨after, hafter⟩ := List.head?_eq_some_iff.mp hc
    rw [hafter, List.cons_append] at htail
    rw [← hleading, hafter, List.cons_append] at htail'
    have hvalues := heq
    rw [htail, htail'] at hvalues
    obtain rfl := value_ends hvalue hvalue' hvalues
    rw [ih hconstants hholes hholes' (List.append_cancel_left heq)]

/-- **The values of a line are read off its text.** -/
theorem Line.eq_of_text {line line' : Line α} (hform : line.form = line'.form)
    (h : Separated line.last line.holes) (h' : Separated line'.last line'.holes)
    (heq : line.text = line'.text) : line = line' := by
  obtain ⟨holes, last⟩ := line
  obtain ⟨holes', last'⟩ := line'
  obtain ⟨hconstants, hlast⟩ := Prod.mk.inj hform
  obtain rfl : last = last' := hlast
  obtain rfl : holes = holes' := holes_of_text hconstants h h' heq
  rfl

/-- No constant and no value holds the character. -/
structure Line.Avoids (c : α) (line : Line α) : Prop where
  holes : ∀ hole ∈ line.holes, c ∉ hole.1 ∧ c ∉ hole.2
  last : c ∉ line.last

theorem Line.Avoids.text {c : α} {line : Line α} (h : line.Avoids c) : c ∉ line.text := by
  rw [Line.text, List.mem_append, List.mem_flatMap, not_or]
  refine ⟨?_, h.last⟩
  rintro ⟨hole, hmem, hc⟩
  rcases List.mem_append.mp hc with hc | hc
  · exact (h.holes hole hmem).1 hc
  · exact (h.holes hole hmem).2 hc

/-- The lines, each but the last followed by the separator. -/
def unlines (separator : α) (lines : List (Line α)) : List α :=
  [separator].intercalate (lines.map Line.text)

/-- Lines that hold no separator are told apart in the text that they make. -/
theorem texts_of_unlines [BEq α] [LawfulBEq α] {separator : α} {lines lines' : List (Line α)}
    (h : ∀ line ∈ lines, line.Avoids separator) (h' : ∀ line ∈ lines', line.Avoids separator)
    (hne : lines ≠ []) (hne' : lines' ≠ [])
    (heq : unlines separator lines = unlines separator lines') :
    lines.map Line.text = lines'.map Line.text := by
  have hsplit : ∀ {lines : List (Line α)}, (∀ line ∈ lines, line.Avoids separator) → lines ≠ [] →
      (unlines separator lines).splitOn separator = lines.map Line.text := by
    intro lines havoids hnonempty
    apply List.splitOn_intercalate
    · intro text htext
      obtain ⟨line, hline, rfl⟩ := List.mem_map.mp htext
      exact (havoids line hline).text
    · simpa using hnonempty
  rw [← hsplit h hne, heq, hsplit h' hne']

/-- Lines of the same forms, read off their texts. -/
theorem lines_of_texts {lines lines' : List (Line α)}
    (hform : lines.map Line.form = lines'.map Line.form)
    (h : ∀ line ∈ lines, Separated line.last line.holes)
    (h' : ∀ line ∈ lines', Separated line.last line.holes)
    (heq : lines.map Line.text = lines'.map Line.text) : lines = lines' := by
  induction lines generalizing lines' with
  | nil => exact (List.map_eq_nil_iff.mp heq.symm).symm
  | cons line lines ih =>
    rcases lines' with _ | ⟨line', lines'⟩
    · cases heq
    obtain ⟨htext, htexts⟩ := List.cons.inj heq
    obtain ⟨hfirst, hforms⟩ := List.cons.inj hform
    rw [List.forall_mem_cons] at h h'
    rw [Line.eq_of_text hfirst h.1 h'.1 htext, ih hforms h.2 h'.2 htexts]

end ExtractApi.FilledText
