import Autocomplete.Proofs.Snippet.Normal

namespace Autocomplete

namespace Snippet

inductive Step where
  | literal (c : Char)
  | tabstop (index : Int)
  | emptyDefault (index : Int)
  | opening (index : Int)
  | closing

def Step.template : Step → List Char
  | literal c => [c]
  | tabstop index => '$' :: Number.decimal index
  | emptyDefault index => '$' :: '\x7b' :: (Number.decimal index ++ [':', '\x7d'])
  | opening index => '$' :: '\x7b' :: (Number.decimal index ++ [':'])
  | closing => ['\x7d']

def templateOf (steps : List Step) : List Char := steps.flatMap Step.template

theorem templateOf_cons (step : Step) (steps : List Step) :
    templateOf (step :: steps) = step.template ++ templateOf steps := rfl

theorem templateOf_append (a b : List Step) :
    templateOf (a ++ b) = templateOf a ++ templateOf b := List.flatMap_append

theorem templateOf_literals (cs : List Char) : templateOf (cs.map .literal) = cs := by
  induction cs with
  | nil => rfl
  | cons c cs ih => rw [List.map_cons, templateOf_cons, ih]; rfl

end Snippet

namespace Element

open Snippet

mutual

def steps : Element → List Step
  | text value => value.toList.map .literal
  | tabstop index => [.tabstop index]
  | placeholder index children =>
    if children = [.text ""] then [.emptyDefault index]
    else .opening index :: (stepsAll children ++ [.closing])

def stepsAll : List Element → List Step
  | [] => []
  | element :: rest => element.steps ++ stepsAll rest

end

mutual

theorem templateOf_steps : (element : Element) → templateOf element.steps = element.template
  | text value => templateOf_literals value.toList
  | tabstop _ => List.append_nil _
  | placeholder index children => by
    rw [steps]
    split
    · next empty => simp [empty, templateOf, Step.template, template, templateAll]
    · rw [templateOf_cons, templateOf_append, templateOf_stepsAll children]
      simp [templateOf, Step.template, template]

theorem templateOf_stepsAll : (elements : List Element) →
    templateOf (stepsAll elements) = templateAll elements
  | [] => rfl
  | element :: rest => by
    rw [stepsAll, templateOf_append, templateOf_steps element, templateOf_stepsAll rest, templateAll]

end

theorem stepsAll_append (a b : List Element) : stepsAll (a ++ b) = stepsAll a ++ stepsAll b := by
  induction a with
  | nil => rfl
  | cons element rest ih => simp [stepsAll, ih]

theorem stepsAll_concat (elements : List Element) (element : Element) :
    stepsAll (elements ++ [element]) = stepsAll elements ++ element.steps := by
  rw [stepsAll_append, stepsAll, stepsAll, List.append_nil]

end Element

namespace Snippet

open Element

namespace Progress

def stepsBefore : List Level → List Step
  | [] => []
  | level :: levels => stepsBefore levels ++ stepsAll level.before.reverse ++ [.opening level.index]

def steps (progress : Progress) : List Step :=
  stepsBefore progress.levels ++ stepsAll progress.elements.reverse

theorem levels_literal (progress : Progress) (c : Char) :
    (progress.literal c).levels = progress.levels := by
  unfold literal
  split <;> rfl

theorem steps_push (progress : Progress) (element : Element) :
    (progress.push element).steps = progress.steps ++ element.steps := by
  simp [push, steps, stepsAll_concat]

theorem steps_literal (progress : Progress) (c : Char) :
    (progress.literal c).steps = progress.steps ++ [.literal c] := by
  by_cases text : StartsWithText progress.elements
  · obtain ⟨value, first⟩ := text
    obtain ⟨before, text⟩ := List.head?_eq_some_iff.1 first
    rw [literal_of_text text]
    simp [steps, text, stepsAll_concat, Element.steps]
  · rw [literal_of_not_text text, steps_push]
    simp [Element.steps]

theorem steps_openLevel (progress : Progress) (index : Int) :
    (progress.openLevel index).steps = progress.steps ++ [.opening index] := by
  simp [openLevel, steps, stepsBefore, stepsAll]

theorem steps_closed {progress : Progress} (normal : progress.IsNormal) {level : Level}
    {levels : List Level} (split : progress.levels = level :: levels) :
    steps ⟨closed progress.elements level, levels⟩ = progress.steps ++ [.closing] := by
  simp [steps, stepsBefore, closed, stepsAll_concat, Element.steps, normal.elements.ne_empty, split]

theorem stepsAll_finish {progress : Progress} (normal : progress.IsNormal) :
    stepsAll progress.finish =
      progress.steps ++ List.replicate progress.levels.length .closing := by
  obtain ⟨elements, levels⟩ := progress
  induction levels generalizing elements with
  | nil => simp [finish, steps, stepsBefore]
  | cons level levels ih =>
      have closing := ih _ (normal.close rfl)
      rw [steps_closed normal rfl, List.append_assoc] at closing
      rw [List.length_cons, List.replicate_succ]
      exact closing

end Progress

inductive Takes : (depth : Nat) → (cs : List Char) → List Step → Prop
  | finished : Takes 0 [] []
  | unclosed {depth steps} (takes : Takes depth [] steps) :
      Takes (depth + 1) [] (.closing :: steps)
  | plain {depth cs c rest steps} (begins : Begins cs (.plain c) rest)
      (takes : Takes depth rest steps) : Takes depth cs (.literal c :: steps)
  | escaped {depth cs c rest steps} (begins : Begins cs (.escaped c) rest)
      (takes : Takes depth rest steps) : Takes depth cs (.literal c :: steps)
  | tabstop {depth cs digits braced rest steps} {n : Nat}
      (begins : Begins cs (.tabstop digits braced) rest) (value : Number.ofDigits digits = .ok n)
      (takes : Takes depth rest steps) : Takes depth cs (.tabstop n :: steps)
  | emptyDefault {depth cs digits rest steps} {n : Nat}
      (begins : Begins cs (.emptyDefault digits) rest) (value : Number.ofDigits digits = .ok n)
      (takes : Takes depth rest steps) : Takes depth cs (.emptyDefault n :: steps)
  | opening {depth cs digits rest steps} {n : Nat}
      (begins : Begins cs (.opening digits) rest) (value : Number.ofDigits digits = .ok n)
      (takes : Takes (depth + 1) rest steps) : Takes depth cs (.opening n :: steps)
  | closing {depth cs rest steps} (begins : Begins cs .brace rest)
      (takes : Takes depth rest steps) : Takes (depth + 1) cs (.closing :: steps)
  | brace {cs rest steps} (begins : Begins cs .brace rest) (takes : Takes 0 rest steps) :
      Takes 0 cs (.literal '\x7d' :: steps)
  | dropped {depth cs c rest steps} (begins : Begins cs (.stray c) rest)
      (takes : Takes depth rest steps) : Takes (depth + 1) cs (.closing :: steps)
  | stopped {cs c rest} (begins : Begins cs (.stray c) rest) : Takes 0 cs []

theorem takes_nil (depth : Nat) : Takes depth [] (List.replicate depth .closing) := by
  induction depth with
  | zero => exact .finished
  | succ depth ih => exact .unclosed ih

theorem Progress.Moves.takes {progress next : Progress} {token : Token}
    (moves : progress.Moves token next) (normal : progress.IsNormal) {cs rest : List Char}
    (begins : Begins cs token rest) :
    ∃ step, next.steps = progress.steps ++ [step] ∧
      ∀ {steps}, Takes next.levels.length rest steps →
        Takes progress.levels.length cs (step :: steps) := by
  cases moves with
  | plain c =>
      refine ⟨_, progress.steps_literal c, ?_⟩
      rw [progress.levels_literal]
      exact .plain begins
  | escaped c =>
      refine ⟨_, progress.steps_literal c, ?_⟩
      rw [progress.levels_literal]
      exact .escaped begins
  | tabstop value => exact ⟨_, progress.steps_push _, .tabstop begins value⟩
  | emptyDefault value =>
      refine ⟨_, ?_, .emptyDefault begins value⟩
      rw [progress.steps_push, Element.steps, if_pos rfl]
  | opening value => exact ⟨_, progress.steps_openLevel _, .opening begins value⟩
  | brace top =>
      refine ⟨_, progress.steps_literal _, ?_⟩
      rw [progress.levels_literal, top]
      exact .brace begins
  | close split =>
      refine ⟨_, progress.steps_closed normal split, ?_⟩
      rw [split]
      exact .closing begins
  | dropped c split =>
      refine ⟨_, progress.steps_closed normal split, ?_⟩
      rw [split]
      exact .dropped begins

theorem takes_of_readTokens {progress : Progress} (normal : progress.IsNormal) {cs : List Char}
    {reading : Reading} (read : readTokens progress (tokens cs) = .ok reading) :
    ∃ steps, Takes progress.levels.length cs steps ∧
      stepsAll reading.elements = progress.steps ++ steps := by
  induction cs using tokens.induct generalizing progress with
  | case1 =>
      rw [tokens] at read
      cases read
      exact ⟨_, takes_nil _, Progress.stepsAll_finish normal⟩
  | case2 c cs ih =>
      have begins := begins_next c cs
      rw [tokens_cons] at read
      rcases readTokens_cons read with ⟨next, moves, more⟩ | ⟨d, stray, top, rfl⟩
      · obtain ⟨step, taken, before⟩ := moves.takes normal begins
        obtain ⟨steps, takes, elements⟩ := ih (normal.moves moves) more
        rw [taken, List.append_assoc] at elements
        exact ⟨step :: steps, before takes, elements⟩
      · have finished := Progress.stepsAll_finish normal
        rw [stray] at begins
        rw [top] at finished
        rw [top]
        exact ⟨[], .stopped begins, finished⟩

end Snippet

end Autocomplete
