import Mathlib
import WifiLink.Text.Lines

/-!
# Lines of a text

What a text is cut into, said without the order in which it is read: a line has no line end
inside, and every line but an unended last one is followed by its end.
-/

namespace WifiLink.Text

/-- A carriage return before a line feed, or one character that ends a line. -/
def IsEnding (ending : List Char) : Prop :=
  ending = ['\r', '\n'] ∨ ∃ c, isLineEnd c ∧ ending = [c]

/-- A text and the lines it is cut into. -/
inductive CutIntoLines : List Char → List (List Char) → Prop
  | empty : CutIntoLines [] []
  | unended {line : List Char} :
      line ≠ [] → (∀ c ∈ line, ¬isLineEnd c) → CutIntoLines line [line]
  | ended {line ending rest : List Char} {others : List (List Char)} :
      (∀ c ∈ line, ¬isLineEnd c) → IsEnding ending →
        (ending = ['\r'] → rest.head? ≠ some '\n') → CutIntoLines rest others →
          CutIntoLines (line ++ (ending ++ rest)) (line :: others)

section LinesAfter

variable {start line rest : List Char}

theorem linesAfter_append (inside : ∀ c ∈ line, ¬isLineEnd c) :
    linesAfter start (line ++ rest) = linesAfter (line.reverse ++ start) rest := by
  induction line generalizing start with
  | nil => rfl
  | cons c others inductionHypothesis =>
      have first : ¬isLineEnd c := inside c List.mem_cons_self
      have later : ∀ c ∈ others, ¬isLineEnd c := fun c member =>
        inside c (List.mem_cons_of_mem _ member)
      have notReturn : c ≠ '\r' := by
        rintro rfl
        exact first (by decide)
      rw [List.cons_append, linesAfter.eq_3 _ _ _ (fun _ isReturn _ => notReturn isReturn),
        if_neg first, inductionHypothesis later, List.reverse_cons, List.append_assoc]
      rfl

theorem linesAfter_ending {ending : List Char} (ends : IsEnding ending)
    (whole : ending = ['\r'] → rest.head? ≠ some '\n') :
    linesAfter start (ending ++ rest) = start.reverse :: linesAfter [] rest := by
  rcases ends with rfl | ⟨c, ends, rfl⟩
  · rfl
  · have alone (tail : List Char) (isReturn : c = '\r') (feed : rest = '\n' :: tail) : False := by
      subst isReturn feed
      exact whole rfl rfl
    rw [List.singleton_append, linesAfter.eq_3 _ _ _ alone, if_pos ends]

end LinesAfter

theorem lines_of_cut {text : List Char} {parts : List (List Char)}
    (cut : CutIntoLines text parts) :
    lines text = parts := by
  induction cut with
  | empty => rfl
  | @unended line nonempty inside =>
      have read : linesAfter [] (line ++ []) = linesAfter (line.reverse ++ []) [] :=
        linesAfter_append inside
      have begun : line.reverse ≠ [] := mt List.reverse_eq_nil_iff.mp nonempty
      rw [List.append_nil, List.append_nil] at read
      rw [lines, read, linesAfter, if_neg begun, List.reverse_reverse]
  | ended inside ends whole _ inductionHypothesis =>
      rw [lines, linesAfter_append inside, linesAfter_ending ends whole, List.append_nil,
        List.reverse_reverse, ← lines, inductionHypothesis]

theorem cut_linesAfter (start text : List Char) (inside : ∀ c ∈ start, ¬isLineEnd c) :
    CutIntoLines (start.reverse ++ text) (linesAfter start text) := by
  have nothing : ∀ c ∈ ([] : List Char), ¬isLineEnd c := fun _ member =>
    absurd member List.not_mem_nil
  have reversed (start : List Char) (inside : ∀ c ∈ start, ¬isLineEnd c) :
      ∀ c ∈ start.reverse, ¬isLineEnd c := fun c member => inside c (List.mem_reverse.mp member)
  induction start, text using linesAfter.induct with
  | case1 => exact .empty
  | case2 start begun =>
      rw [linesAfter, if_neg begun, List.append_nil]
      exact .unended (mt List.reverse_eq_nil_iff.mp begun) (reversed start inside)
  | case3 start rest inductionHypothesis =>
      rw [linesAfter]
      exact .ended (reversed start inside) (Or.inl rfl) (by rintro ⟨⟩)
        (inductionHypothesis nothing)
  | case4 start c rest alone ends inductionHypothesis =>
      rw [linesAfter.eq_3 _ _ _ alone, if_pos ends]
      have whole : [c] = ['\r'] → rest.head? ≠ some '\n' := by
        rintro ⟨⟩ feed
        obtain ⟨tail, rest_eq⟩ := List.head?_eq_some_iff.mp feed
        exact alone tail rfl rest_eq
      exact .ended (reversed start inside) (Or.inr ⟨c, ends, rfl⟩) whole
        (inductionHypothesis nothing)
  | case5 start c rest alone goesOn inductionHypothesis =>
      rw [linesAfter.eq_3 _ _ _ alone, if_neg goesOn]
      have read := inductionHypothesis (by
        intro other member
        rcases List.mem_cons.mp member with rfl | earlier
        · exact goesOn
        · exact inside other earlier)
      rw [List.reverse_cons, List.append_assoc, List.singleton_append] at read
      exact read

/-- The reader cuts every text into its lines, and there is one way to do so. -/
theorem cut_iff {text : List Char} {parts : List (List Char)} :
    CutIntoLines text parts ↔ lines text = parts := by
  constructor
  · exact lines_of_cut
  · rintro rfl
    exact cut_linesAfter [] text (fun c member => absurd member List.not_mem_nil)

/-! ## Texts joined by a line feed -/

/-- The line feed ends the last line of the text before it. Where that line has an end already, it
is one more line end and leads to an empty line, unless the two ends are one. -/
theorem exists_seam (start text : List Char) :
    ∃ seam, (seam = [] ∨ seam = [[]]) ∧
      ∀ rest, linesAfter start (text ++ '\n' :: rest) =
        linesAfter start text ++ seam ++ linesAfter [] rest := by
  induction start, text using linesAfter.induct with
  | case1 => exact ⟨[[]], Or.inr rfl, fun _ => rfl⟩
  | case2 start begun =>
      refine ⟨[], Or.inl rfl, fun rest => ?_⟩
      rw [linesAfter, if_neg begun]
      rfl
  | case3 start rest inductionHypothesis =>
      obtain ⟨seam, empty, joined⟩ := inductionHypothesis
      refine ⟨seam, empty, fun others => ?_⟩
      rw [List.cons_append, List.cons_append, linesAfter, joined, linesAfter]
      rfl
  | case4 start c rest alone ends inductionHypothesis =>
      obtain ⟨seam, empty, joined⟩ := inductionHypothesis
      by_cases split : c = '\r' ∧ rest = []
      · obtain ⟨rfl, rfl⟩ := split
        exact ⟨[], Or.inl rfl, fun _ => rfl⟩
      · refine ⟨seam, empty, fun others => ?_⟩
        have apart (tail : List Char) (isReturn : c = '\r')
            (feed : rest ++ '\n' :: others = '\n' :: tail) : False := by
          cases rest with
          | nil => exact split ⟨isReturn, rfl⟩
          | cons next further =>
              cases feed
              exact alone further isReturn rfl
        rw [List.cons_append, linesAfter.eq_3 _ _ _ apart, if_pos ends, joined,
          linesAfter.eq_3 _ _ _ alone, if_pos ends]
        rfl
  | case5 start c rest alone goesOn inductionHypothesis =>
      obtain ⟨seam, empty, joined⟩ := inductionHypothesis
      refine ⟨seam, empty, fun others => ?_⟩
      have notReturn : c ≠ '\r' := by
        rintro rfl
        exact goesOn (by decide)
      rw [List.cons_append, linesAfter.eq_3 _ _ _ (fun _ isReturn _ => notReturn isReturn),
        if_neg goesOn, joined, linesAfter.eq_3 _ _ _ alone, if_neg goesOn]

theorem lines_append_lineFeed (text rest : List Char) :
    lines (text ++ '\n' :: rest) = lines (text ++ ['\n']) ++ lines rest := by
  obtain ⟨seam, _, joined⟩ := exists_seam [] text
  have ended := joined []
  rw [show linesAfter [] [] = [] from rfl, List.append_nil] at ended
  rw [lines, joined, lines, ended, lines]

theorem lines_lineFeed (text : List Char) :
    lines (text ++ ['\n']) = lines text ∨ lines (text ++ ['\n']) = lines text ++ [[]] := by
  obtain ⟨seam, empty, joined⟩ := exists_seam [] text
  have ended := joined []
  rw [show linesAfter [] [] = [] from rfl, List.append_nil] at ended
  rw [lines, ended, lines]
  rcases empty with rfl | rfl
  · exact Or.inl (List.append_nil _)
  · exact Or.inr rfl

/-! ## Line ends made one kind -/

theorem linesAfter_lineFeed (start rest : List Char) :
    linesAfter start ('\n' :: rest) = start.reverse :: linesAfter [] rest :=
  linesAfter_ending (.inr ⟨'\n', by decide, rfl⟩) nofun

/-- A line feed in the place of a carriage return, alone or before a line feed, ends the same
line. -/
theorem linesAfter_unifyLineEnds (start text : List Char) :
    linesAfter start (unifyLineEnds text) = linesAfter start text := by
  induction start, text using linesAfter.induct with
  | case1 => rfl
  | case2 start begun => rfl
  | case3 start rest inductionHypothesis =>
      rw [unifyLineEnds, linesAfter_lineFeed, inductionHypothesis, linesAfter]
  | case4 start c rest alone ends inductionHypothesis =>
      rw [unifyLineEnds.eq_3 _ _ alone, linesAfter.eq_3 _ _ _ alone, if_pos ends]
      by_cases isReturn : c = '\r'
      · rw [if_pos isReturn, linesAfter_lineFeed, inductionHypothesis]
      · rw [if_neg isReturn, linesAfter.eq_3 _ _ _ fun _ same _ => isReturn same, if_pos ends,
          inductionHypothesis]
  | case5 start c rest alone goesOn inductionHypothesis =>
      have notReturn : c ≠ '\r' := by
        rintro rfl
        exact goesOn (by decide)
      rw [unifyLineEnds.eq_3 _ _ alone, if_neg notReturn, linesAfter.eq_3 _ _ _ alone,
        linesAfter.eq_3 _ _ _ fun _ same _ => notReturn same, if_neg goesOn, if_neg goesOn,
        inductionHypothesis]

theorem lines_unifyLineEnds (text : List Char) : lines (unifyLineEnds text) = lines text :=
  linesAfter_unifyLineEnds [] text

end WifiLink.Text
