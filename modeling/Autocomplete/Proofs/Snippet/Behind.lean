import Autocomplete.Proofs.Snippet.Pieces

namespace Autocomplete.Snippet

open Element

theorem textBefore_empty (elements : List Element) : textBefore "" elements = elements := if_pos rfl

theorem textBefore_of_not_text {text : String} (nonempty : text ≠ "") {elements : List Element}
    (stop : ¬ StartsWithText elements) : textBefore text elements = .text text :: elements := by
  unfold textBefore
  rw [if_neg nonempty]
  split
  · next value rest => exact absurd ⟨value, rfl⟩ stop
  · rfl

theorem textBefore_append (text : String) {a b : List Element}
    (apart : a ≠ [] ∨ ¬ StartsWithText b) :
    textBefore text (a ++ b) = textBefore text a ++ b := by
  by_cases empty : text = ""
  · rw [empty, textBefore_empty, textBefore_empty]
  · cases a with
    | nil =>
        have stop : ¬ StartsWithText b := apart.resolve_left (not_not_intro rfl)
        rw [List.nil_append, textBefore_of_not_text empty stop,
          textBefore_of_not_text empty not_startsWithText_nil]
        rfl
    | cons element rest =>
        unfold textBefore
        rw [if_neg empty, if_neg empty]
        cases element <;> rfl

theorem charsAll_textBefore (text : String) (elements : List Element) :
    charsAll (textBefore text elements) = text.toList ++ charsAll elements := by
  unfold textBefore
  split
  · next empty => simp [empty]
  · split <;> simp [charsAll, chars]

theorem spansAll_textBefore (text : String) (elements : List Element) (start : Int) :
    spansAll start (textBefore text elements) = spansAll (start + text.length) elements := by
  unfold textBefore
  split
  · next empty => simp [empty]
  · split <;> simp [spansAll, Element.spans, Element.length, Int.add_assoc]

def behind (text : String) (elements : List Element) : List Element :=
  (textBefore text elements.reverse).reverse

theorem behind_cons (text : String) {element : Element} {before : List Element}
    (apart : before ≠ [] ∨ ¬ StartsWithText [element]) :
    behind text (element :: before) = element :: behind text before := by
  have apart : before.reverse ≠ [] ∨ ¬ StartsWithText [element] :=
    apart.imp_left (mt List.reverse_eq_nil_iff.1)
  rw [behind, List.reverse_cons, textBefore_append text apart, List.reverse_append]
  rfl

namespace Progress

def behindFrom (text : String) (elements : List Element) : List Level → Progress
  | [] => ⟨Snippet.behind text elements, []⟩
  | level :: levels =>
    let around := behindFrom text level.before levels
    ⟨elements, ⟨level.index, around.elements⟩ :: around.levels⟩

def behind (text : String) (progress : Progress) : Progress :=
  behindFrom text progress.elements progress.levels

variable (text : String) {progress next : Progress}

theorem length_levels_behind (progress : Progress) :
    (progress.behind text).levels.length = progress.levels.length := by
  obtain ⟨elements, levels⟩ := progress
  induction levels generalizing elements with
  | nil => rfl
  | cons level levels ih => exact congrArg (· + 1) (ih level.before)

theorem levels_behind_eq_nil_iff :
    (progress.behind text).levels = [] ↔ progress.levels = [] := by
  rw [← List.length_eq_zero_iff, ← List.length_eq_zero_iff, length_levels_behind]

theorem behindFrom_cons {element : Element} (stop : ¬ StartsWithText [element])
    (before : List Element) (levels : List Level) :
    behindFrom text (element :: before) levels = (behindFrom text before levels).push element := by
  cases levels with
  | nil => rw [behindFrom, behind_cons text (.inr stop)]; rfl
  | cons level levels => rfl

theorem behind_push {element : Element} (stop : ¬ StartsWithText [element]) (progress : Progress) :
    (progress.push element).behind text = (progress.behind text).push element :=
  behindFrom_cons text stop progress.elements progress.levels

theorem behindFrom_closed (elements : List Element) (level : Level) (levels : List Level) :
    behindFrom text (closed elements level) levels =
      (behindFrom text level.before levels).push (.placeholder level.index elements.reverse) :=
  behindFrom_cons text (not_startsWithText_placeholder _ _ _) level.before levels

section Split

variable {level : Level} {levels : List Level} (split : progress.levels = level :: levels)

include split

theorem levels_behind :
    let around := behindFrom text level.before levels
    (progress.behind text).levels = ⟨level.index, around.elements⟩ :: around.levels := by
  rw [behind, split]
  rfl

theorem behind_close :
    let around := behindFrom text level.before levels
    behind text ⟨closed progress.elements level, levels⟩ =
      ⟨closed (progress.behind text).elements ⟨level.index, around.elements⟩, around.levels⟩ := by
  rw [behind, behindFrom_closed, behind, split]
  rfl

end Split

theorem behindFrom_empty (elements : List Element) (levels : List Level) :
    behindFrom "" elements levels = ⟨elements, levels⟩ := by
  induction levels generalizing elements with
  | nil => rw [behindFrom, Snippet.behind, textBefore_empty, List.reverse_reverse]
  | cons level levels ih => rw [behindFrom, ih]

theorem behind_literal (progress : Progress) (c : Char) :
    (progress.literal c).behind text = (progress.behind text).literal c := by
  by_cases empty : text = ""
  · rw [empty, behind, behind, behindFrom_empty, behindFrom_empty]
  obtain ⟨elements, levels⟩ := progress
  cases levels with
  | nil =>
      have top (elements : List Element) :
          (Progress.mk elements []).behind text = ⟨Snippet.behind text elements, []⟩ := rfl
      rcases elements with _ | ⟨⟨value⟩ | ⟨index⟩ | ⟨index, children⟩, before⟩
      · simp [top, literal, Snippet.behind, textBefore, empty, String.append_singleton]
      · rcases before with _ | ⟨next, before⟩
        · have pushed : text ++ value.push c = (text ++ value).push c := by
            simp [← String.toList_inj]
          simp [top, literal, Snippet.behind, textBefore, empty, pushed]
        · simp [top, literal, behind_cons]
      · simp [top, literal, behind_cons, StartsWithText]
      · simp [top, literal, behind_cons, StartsWithText]
  | cons level levels =>
      -- The innermost level is inside a placeholder, away from the text.
      cases elements with
      | nil => rfl
      | cons element before => cases element <;> rfl

theorem finish_behind (progress : Progress) :
    (progress.behind text).finish = textBefore text progress.finish := by
  obtain ⟨elements, levels⟩ := progress
  induction levels generalizing elements with
  | nil => exact List.reverse_reverse _
  | cons level levels ih =>
      -- The innermost placeholder is closed first, and its level does not hold the text.
      have step := ih (closed elements level)
      rw [behind, behindFrom_closed] at step
      exact step

theorem Moves.behind {token : Token} (moves : progress.Moves token next) :
    (progress.behind text).Moves token (next.behind text) := by
  cases moves with
  | plain c | escaped c =>
      rw [behind_literal]
      constructor
  | tabstop value =>
      rw [behind_push text (not_startsWithText_tabstop _ [])]
      exact .tabstop value
  | emptyDefault value =>
      rw [behind_push text (not_startsWithText_placeholder _ _ [])]
      exact .emptyDefault value
  | opening value => exact .opening value
  | brace top =>
      rw [behind_literal]
      exact .brace ((levels_behind_eq_nil_iff text).2 top)
  | close split =>
      rw [behind_close text split]
      exact .close (levels_behind text split)
  | dropped c split =>
      rw [behind_close text split]
      exact .dropped c (levels_behind text split)

end Progress

def Reading.behind (text : String) (reading : Reading) : Reading :=
  { reading with elements := textBefore text reading.elements }

/-- A reading that goes on behind a text ends as it does without the text. -/
theorem readTokens_behind (text : String) (progress : Progress) (ts : List Token) :
    readTokens (progress.behind text) ts = (readTokens progress ts).map (Reading.behind text) := by
  induction ts generalizing progress with
  | nil =>
      rw [readTokens, readTokens, Progress.finish_behind, Progress.length_levels_behind]
      rfl
  | cons token rest ih =>
      rcases readTokens_step progress token rest with
        ⟨next, moves, step⟩ | ⟨c, rfl, top, stop⟩ | ⟨digits, number, long, fail⟩
      · rw [step, ← ih, readTokens_of_moves (moves.behind text)]
      · rw [stop, readTokens, (Progress.levels_behind_eq_nil_iff text).2 top]
        dsimp only
        rw [Progress.finish_behind]
        rfl
      · rw [fail, readTokens_of_long _ number long]
        rfl

theorem behind_start (text : String) :
    Progress.behind text {} = Progress.literals {} text.toList := by
  by_cases empty : text = ""
  · rw [empty]
    rfl
  · rw [Progress.literals_of_not_text not_startsWithText_nil empty, Progress.behind,
      Progress.behindFrom, behind, List.reverse_nil,
      textBefore_of_not_text empty not_startsWithText_nil]
    rfl

theorem readChars_escapeChars_append (text : String) (cs : List Char) :
    readChars (escapeChars text.toList ++ cs) = (readChars cs).map (Reading.behind text) := by
  rw [readChars, readTokens_escapeChars, ← behind_start, readTokens_behind]
  rfl

theorem stopOf_behind (text : String) {cs : List Char} {reading : Reading}
    (read : readChars cs = .ok reading) :
    stopOf (escapeChars text.toList ++ cs) (reading.behind text) =
      (escape text).length + stopOf cs reading := by
  have left := (source_unread_suffix read).length_le
  rw [stopOf, stopOf, List.length_append, escape, String.length_ofList]
  dsimp only [Reading.behind]
  omega

def withTextBefore (snippet : Snippet) (text : String) : Snippet :=
  ⟨textBefore text snippet.elements⟩

/-- Escaped text before a template becomes text before the snippet, whatever the template: the
elements stay the same, the stops move by the text, and the reading ends where it did. -/
theorem read_escape_append (text template : String) :
    ofTemplate (escape text ++ template) = (ofTemplate template).map (·.withTextBefore text) ∧
    read (escape text ++ template) = (read template).map
      (fun (snippet, stop) => (snippet.withTextBefore text, (escape text).length + stop)) ∧
    ∀ snippet : Snippet, (snippet.withTextBefore text).text = text ++ snippet.text ∧
      ∀ start, (snippet.withTextBefore text).spans start = snippet.spans (start + text.length) := by
  have whole : (escape text ++ template).toList = escapeChars text.toList ++ template.toList := by
    rw [String.toList_append, escape, String.toList_ofList]
  refine ⟨?_, ?_, fun snippet => ⟨?_, spansAll_textBefore text snippet.elements⟩⟩
  · rw [ofTemplate, ofTemplate, whole, readChars_escapeChars_append]
    cases readChars template.toList <;> rfl
  · rw [read, read, whole, readChars_escapeChars_append]
    cases reads : readChars template.toList with
    | ok reading =>
        rw [Except.map]
        dsimp only
        rw [stopOf_behind text reads]
        rfl
    | error overflow => rfl
  · rw [Snippet.text, Snippet.text, withTextBefore, charsAll_textBefore, String.ofList_append,
      String.ofList_toList]

example : read (escape "$\\" ++ "\x7d$\x7b1:a$b\x7d$c") = .ok (⟨[.text "$\\\x7d",
    .placeholder 1 [.text "a"], .text "b\x7d"]⟩, 4 + 9) := by
  cbv

end Autocomplete.Snippet
