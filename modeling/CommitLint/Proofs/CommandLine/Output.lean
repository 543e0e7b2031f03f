import CommitLint.CommandLine.Output
import CommitLint.Proofs.Json.Alphabet
import CommitLint.Report

/-!
# What is said, line by line

Taking the codes of a terminal out of a text never joins two lines or words,
since no code goes on over a line end or a space, and leaves a text without
codes as it is. Every document is such a text.
-/

namespace CommitLint

namespace Terminal

theorem plain_of_code {text rest : List Char} (found : afterCode? text = some rest) :
    plain ('\x1B' :: '[' :: text) = plain rest := by
  rw [plain]
  split
  · next tail same =>
      cases found.symm.trans same
      rfl
  · next none => cases found.symm.trans none

theorem plain_of_bracket {text : List Char} (none : afterCode? text = none) :
    plain ('\x1B' :: '[' :: text) = '\x1B' :: '[' :: plain text := by
  rw [plain]
  split
  · next tail found => cases none.symm.trans found
  · rfl

theorem plain_of_char {first : Char} {rest : List Char}
    (bare : ∀ text, first = '\x1B' → rest ≠ '[' :: text) :
    plain (first :: rest) = first :: plain rest := by
  rw [plain]
  exact fun text starts cut => bare text starts cut

/-- The characters that end a code without being a part of it. -/
structure IsBreak (c : Char) : Prop where
  noParameter : isParameter c = false
  noLetter : isLetter c = false
  noEscape : c ≠ '\x1B'
  noBracket : c ≠ '['

theorem isBreak_line : IsBreak '\n' :=
  ⟨by decide, by decide, by decide, by decide⟩

theorem isBreak_space : IsBreak ' ' :=
  ⟨by decide, by decide, by decide, by decide⟩

section

variable {ends : Char} (isBreak : IsBreak ends)

include isBreak

theorem afterCode?_append_break {first rest : List Char} :
    afterCode? (first ++ ends :: rest) = (afterCode? first).map (· ++ ends :: rest) := by
  unfold afterCode?
  rw [List.dropWhile_append]
  cases left : first.dropWhile isParameter with
  | nil => simp [isBreak.noParameter, isBreak.noLetter]
  | cons c tail => cases isLetter c <;> simp [*]

/-- No code goes on over a break. -/
theorem plain_append_break (first rest : List Char) :
    plain (first ++ ends :: rest) = plain first ++ ends :: plain rest := by
  have single : ∀ text, plain (ends :: text) = ends :: plain text :=
    fun text => plain_of_char fun _ same => absurd same isBreak.noEscape
  fun_induction plain first with
  | case1 => exact single rest
  | case2 text tail found _ ih =>
      have longer : afterCode? (text ++ ends :: rest) = some (tail ++ ends :: rest) := by
        rw [afterCode?_append_break isBreak, found, Option.map_some]
      rw [List.cons_append, List.cons_append, plain_of_code longer, ih]
  | case3 text none ih =>
      have longer : afterCode? (text ++ ends :: rest) = Option.none := by
        rw [afterCode?_append_break isBreak, none, Option.map_none]
      rw [List.cons_append, List.cons_append, plain_of_bracket longer, ih]
      rfl
  | case4 c text bare ih =>
      have bare' : ∀ others, c = '\x1B' → text ++ ends :: rest ≠ '[' :: others := by
        intro others starts cut
        cases text with
        | nil => exact isBreak.noBracket (List.head_eq_of_cons_eq cut)
        | cons next tail =>
            cases cut
            exact bare tail starts rfl
      rw [List.cons_append, plain_of_char bare', ih]
      rfl

end

theorem plain_append_line (first rest : List Char) :
    plain (first ++ '\n' :: rest) = plain first ++ '\n' :: plain rest :=
  plain_append_break isBreak_line first rest

theorem plain_append_of_no_code {first : List Char} (free : '\x1B' ∉ first) (rest : List Char) :
    plain (first ++ rest) = first ++ plain rest := by
  induction first with
  | nil => rfl
  | cons c first ih =>
      obtain ⟨apart, freeRest⟩ := List.ne_and_not_mem_of_not_mem_cons free
      rw [List.cons_append, plain_of_char fun _ starts => absurd starts.symm apart, ih freeRest,
        List.cons_append]

/-- What a terminal shows of a text when the codes are taken out. -/
def shown (text : String) : String :=
  String.ofList (plain text.toList)

theorem shown_append_of_no_code {mark : String} (free : '\x1B' ∉ mark.toList) (text : String) :
    shown (mark ++ text) = mark ++ shown text := by
  rw [shown, String.toList_append, plain_append_of_no_code free, String.ofList_append,
    String.ofList_toList, shown]

theorem shown_append_of_break {ends : Char} {others : List Char} {rest : String}
    (isBreak : IsBreak ends) (starts : rest.toList = ends :: others) (text : String) :
    shown (text ++ rest) = shown text ++ shown rest := by
  have single : plain (ends :: others) = ends :: plain others :=
    plain_of_char fun _ same => absurd same isBreak.noEscape
  rw [shown, shown, shown, String.toList_append, starts, plain_append_break isBreak, single,
    String.ofList_append]

theorem shown_of_no_code {text : String} (free : '\x1B' ∉ text.toList) : shown text = text := by
  rw [shown, ← List.append_nil text.toList, plain_append_of_no_code free, plain, List.append_nil,
    String.ofList_toList]

end Terminal

namespace Emission

theorem line_eq (text : String) : line text = Terminal.shown text ++ "\n" := by
  have cut : (text ++ "\n").toList = text.toList ++ '\n' :: [] := String.toList_append
  rw [line, cut, Terminal.plain_append_line, String.ofList_append, Terminal.shown, Terminal.plain]

theorem line_append_line (first rest : String) :
    line (first ++ "\n" ++ rest) = line first ++ line rest := by
  have cut : (first ++ "\n" ++ rest).toList = first.toList ++ '\n' :: rest.toList := by
    simp [String.toList_append]
  rw [line_eq, line_eq, line_eq, Terminal.shown, cut, Terminal.plain_append_line]
  simp [Terminal.shown, ← String.toList_inj]

/-- A text of several lines is said as they are one by one. -/
theorem line_intercalate {first : String} {rest : List String} :
    line ("\n".intercalate (first :: rest)) = String.join ((first :: rest).map line) := by
  induction rest generalizing first with
  | nil => simp
  | cons next rest ih =>
      rw [String.intercalate_cons_cons, line_append_line, ih]
      simp only [List.map_cons, String.join_cons]

end Emission

/-! ## Documents -/

/-- A document is said as it is. -/
theorem Json.line_render (ascii : Bool) (document : Json) :
    Emission.line (document.render ascii) = document.render ascii ++ "\n" := by
  rw [Emission.line_eq, Terminal.shown_of_no_code (not_mem_render ascii document)]

theorem Diagnostics.line_json (diagnostics : Diagnostics) :
    Emission.line diagnostics.json = diagnostics.json ++ "\n" :=
  Json.line_render true diagnostics.toJson

theorem Parsed.line_json (parsed : Parsed) :
    Emission.line parsed.json = parsed.json ++ "\n" :=
  Json.line_render false parsed.toJson

end CommitLint
