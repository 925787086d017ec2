import Autocomplete.Proofs.Snippet.Pieces
import Autocomplete.Proofs.Snippet.Steps

/-!
# Reading level by level

What the reader does with a stack of open placeholders can be said level by level: an element is
taken from between two positions of a template, and the children of a placeholder are a level of
their own, which begins behind the colon and goes on until it is stuck. The placeholder ends one
position later, whatever stands there, or beyond the end if nothing does. `read_eq_ok_iff` says that
a template reads as just the snippets whose elements can be taken in this way.
-/

namespace Autocomplete.Snippet

def Token.literal? (inside : Bool) : Token → Option Char
  | plain c | escaped c => some c
  | brace => if inside then none else some '\x7d'
  | tabstop _ _ | emptyDefault _ | opening _ | stray _ => none

def EndsText (inside : Bool) (cs : List Char) : Prop :=
  ∀ token rest, Begins cs token rest → token.literal? inside = none

def IsStuck (inside : Bool) (cs : List Char) : Prop :=
  ∀ token rest, Begins cs token rest → token.literal? inside = none ∧ token.number? = none

inductive Run (inside : Bool) : (cs value rest : List Char) → Prop
  | ended {cs} (ends : EndsText inside cs) : Run inside cs [] cs
  | more {cs token middle c value rest} (begins : Begins cs token middle)
      (literal : token.literal? inside = some c) (run : Run inside middle value rest) :
      Run inside cs (c :: value) rest

structure TokenAt (cs : List Char) (start : Nat) (token : Token) (stop : Nat) : Prop where
  begins : Begins (cs.drop start) token (cs.drop stop)
  within : stop ≤ cs.length

mutual

inductive ReadsElement (cs : List Char) :
    (inside : Bool) → (start : Nat) → Element → (stop : Nat) → Prop
  | text {inside start value stop} (run : Run inside (cs.drop start) value (cs.drop stop))
      (nonempty : value ≠ []) (within : stop ≤ cs.length) :
      ReadsElement cs inside start (.text (String.ofList value)) stop
  | tabstop {inside start digits braced stop} {n : Nat}
      (token : TokenAt cs start (.tabstop digits braced) stop)
      (value : Number.ofDigits digits = .ok n) : ReadsElement cs inside start (.tabstop n) stop
  | emptyDefault {inside start digits stop} {n : Nat}
      (token : TokenAt cs start (.emptyDefault digits) stop)
      (value : Number.ofDigits digits = .ok n) :
      ReadsElement cs inside start (.placeholder n [.text ""]) stop
  | placeholder {inside start digits first children last} {n : Nat}
      (token : TokenAt cs start (.opening digits) first)
      (value : Number.ofDigits digits = .ok n) (default : ReadsLevel cs true first children last) :
      ReadsElement cs inside start (.placeholder n children) (last + 1)

inductive ReadsLevel (cs : List Char) :
    (inside : Bool) → (start : Nat) → List Element → (stop : Nat) → Prop
  | stuck {inside start} (stuck : IsStuck inside (cs.drop start)) :
      ReadsLevel cs inside start [] start
  | cons {inside start element middle rest stop}
      (first : ReadsElement cs inside start element middle)
      (more : ReadsLevel cs inside middle rest stop) :
      ReadsLevel cs inside start (element :: rest) stop

end

/-! ## Tokens and positions -/

theorem Token.ne_stray_of_literal {inside : Bool} {token : Token} {c : Char}
    (literal : token.literal? inside = some c) (d : Char) : token ≠ .stray d := by
  rintro rfl
  cases literal

theorem Token.ne_stray_of_number {token : Token} {digits : List Char}
    (number : token.number? = some digits) (d : Char) : token ≠ .stray d := by
  rintro rfl
  cases number

namespace Begins

variable {cs rest : List Char} {token : Token} (begins : Begins cs token rest)

include begins

theorem source_append : token.source ++ rest = cs := by
  cases begins <;> simp [Token.source]

theorem suffix : rest <:+ cs := ⟨token.source, begins.source_append⟩

theorem length_source_add : token.source.length + rest.length = cs.length := by
  rw [← List.length_append, begins.source_append]

theorem tokens (known : ∀ c, token ≠ .stray c) :
    Snippet.tokens cs = token :: Snippet.tokens rest := by
  cases begins with
  | plain dollar brace backslash => exact tokens_plain dollar brace backslash rest
  | escaped special => exact tokens_escaped special rest
  | tabstop isNumber boundary => exact tokens_number isNumber boundary
  | braced isNumber => exact tokens_braced isNumber rest
  | emptyDefault isNumber => exact tokens_emptyDefault isNumber rest
  | opening isNumber nonempty closes => exact tokens_opening isNumber nonempty closes
  | brace => exact tokens_brace rest
  | stray _ => exact absurd rfl (known _)

end Begins

theorem not_begins_nil {token : Token} {rest : List Char} : ¬ Begins [] token rest := nofun

theorem next_eq_of_begins {c : Char} {cs rest : List Char} {token : Token}
    (begins : Begins (c :: cs) token rest) (known : ∀ d, token ≠ .stray d) :
    (Token.next c cs).1 = token := by
  have same := begins.tokens known
  rw [tokens_cons] at same
  exact (List.cons.inj same).1

theorem endsText_nil (inside : Bool) : EndsText inside [] :=
  fun _ _ begins => absurd begins not_begins_nil

theorem endsText_cons {inside : Bool} {c : Char} {cs : List Char}
    (none : (Token.next c cs).1.literal? inside = none) : EndsText inside (c :: cs) := by
  intro token rest begins
  cases literal : token.literal? inside with
  | none => rfl
  | some d =>
      rw [next_eq_of_begins begins (Token.ne_stray_of_literal literal), literal] at none
      cases none

theorem isStuck_nil (inside : Bool) : IsStuck inside [] :=
  fun _ _ begins => absurd begins not_begins_nil

theorem isStuck_cons {inside : Bool} {c : Char} {cs : List Char}
    (literal : (Token.next c cs).1.literal? inside = none)
    (number : (Token.next c cs).1.number? = none) : IsStuck inside (c :: cs) := by
  intro token rest begins
  refine ⟨endsText_cons literal token rest begins, ?_⟩
  cases numbered : token.number? with
  | none => rfl
  | some digits =>
      rw [next_eq_of_begins begins (Token.ne_stray_of_number numbered), numbered] at number
      cases number

namespace TokenAt

theorem of_begins {cs rest : List Char} {start : Nat} {token : Token}
    (begins : Begins (cs.drop start) token rest) :
    TokenAt cs start token (start + token.source.length) := by
  have after : cs.drop (start + token.source.length) = rest := by
    rw [← List.drop_drop, ← begins.source_append, List.drop_left]
  refine ⟨after ▸ begins, ?_⟩
  have lengths := begins.length_source_add
  have positive := token.source_length_pos
  rw [List.length_drop] at lengths
  omega

variable {cs : List Char} {start stop : Nat} {token : Token} (here : TokenAt cs start token stop)

include here

theorem stop_eq : stop = start + token.source.length := by
  have lengths := here.begins.length_source_add
  have positive := token.source_length_pos
  have within := here.within
  rw [List.length_drop, List.length_drop] at lengths
  omega

theorem lt : start < stop := by
  have positive := token.source_length_pos
  rw [here.stop_eq]
  omega

end TokenAt

namespace Run

theorem ends {inside : Bool} {cs value rest : List Char} (run : Run inside cs value rest) :
    EndsText inside rest := by
  induction run with
  | ended ends => exact ends
  | more _ _ _ ih => exact ih

theorem length_le {inside : Bool} {cs value rest : List Char} (run : Run inside cs value rest) :
    value.length + rest.length ≤ cs.length := by
  induction run with
  | ended _ => exact Nat.le_of_eq (Nat.zero_add _)
  | @more _ token _ _ _ _ begins _ _ ih =>
      have lengths := begins.length_source_add
      have positive := token.source_length_pos
      rw [List.length_cons]
      omega

theorem eq_nil_of_endsText {inside : Bool} {cs value rest : List Char}
    (run : Run inside cs value rest) (ends : EndsText inside cs) : value = [] := by
  cases run with
  | ended _ => rfl
  | more begins literal _ => cases (ends _ _ begins).symm.trans literal

theorem exists_run (inside : Bool) (cs : List Char) :
    ∃ value rest, Run inside cs value rest ∧ rest <:+ cs := by
  induction cs using tokens.induct with
  | case1 => exact ⟨[], [], .ended (endsText_nil inside), List.suffix_rfl⟩
  | case2 c cs ih =>
      have begins := begins_next c cs
      cases literal : (Token.next c cs).1.literal? inside with
      | none => exact ⟨[], c :: cs, .ended (endsText_cons literal), List.suffix_rfl⟩
      | some d =>
          obtain ⟨value, rest, run, suffix⟩ := ih
          exact ⟨d :: value, rest, .more begins literal run, suffix.trans begins.suffix⟩

end Run

/-! ## Every element takes something -/

mutual

theorem ReadsElement.lt {cs : List Char} {inside : Bool} {start stop : Nat} {element : Element}
    (reads : ReadsElement cs inside start element stop) : start < stop := by
  cases reads with
  | text run nonempty within =>
      have lengths := run.length_le
      have positive := List.length_pos_iff.2 nonempty
      rw [List.length_drop, List.length_drop] at lengths
      omega
  | tabstop token _ | emptyDefault token _ => exact token.lt
  | placeholder token _ default => exact Nat.lt_succ_of_lt (Nat.lt_of_lt_of_le token.lt default.le)

theorem ReadsLevel.le {cs : List Char} {inside : Bool} {start stop : Nat} {elements : List Element}
    (reads : ReadsLevel cs inside start elements stop) : start ≤ stop := by
  cases reads with
  | stuck _ => exact Nat.le_refl _
  | cons first more => exact Nat.le_trans (Nat.le_of_lt first.lt) more.le

end

theorem ReadsLevel.isStuck {cs : List Char} {inside : Bool} {start stop : Nat}
    {elements : List Element} (reads : ReadsLevel cs inside start elements stop) :
    IsStuck inside (cs.drop stop) := by
  induction elements generalizing start with
  | nil =>
      cases reads with
      | stuck stuck => exact stuck
  | cons element rest ih =>
      cases reads with
      | cons _ more => exact ih more

theorem ReadsLevel.apart {cs : List Char} {inside : Bool} {start middle stop : Nat}
    {element : Element} {rest : List Element}
    (first : ReadsElement cs inside start element middle)
    (more : ReadsLevel cs inside middle rest stop) :
    StartsWithText rest → ∀ before, ¬ StartsWithText (element :: before) := by
  rintro ⟨value, next⟩ before
  cases first with
  | text run _ _ =>
      cases more with
      | stuck _ => cases next
      | cons second _ =>
          obtain rfl := Option.some.inj next
          cases second with
          | text run' nonempty _ => exact absurd (run'.eq_nil_of_endsText run.ends) nonempty
  | tabstop _ _ => exact not_startsWithText_tabstop _ before
  | emptyDefault _ _ | placeholder _ _ _ => exact not_startsWithText_placeholder _ _ before

/-! ## The reader at a position -/

def Progress.IsInside (progress : Progress) (inside : Bool) : Prop :=
  inside = false ↔ progress.levels = []

theorem Progress.isInside_start : Progress.IsInside {} false := iff_of_true rfl rfl

theorem Progress.isInside_openLevel (progress : Progress) (index : Int) :
    (progress.openLevel index).IsInside true := iff_of_false nofun nofun

theorem Progress.IsInside.literal {progress : Progress} {inside : Bool}
    (level : progress.IsInside inside) (c : Char) : (progress.literal c).IsInside inside := by
  rwa [IsInside, levels_literal]

def resume (cs : List Char) (progress : Progress) (start : Nat) :
    Except Number.DigitOverflow (List Element × Nat) :=
  (readTokens progress (tokens (cs.drop start))).map fun reading =>
    (reading.elements,
      max start cs.length - (source reading.unread).length + reading.unclosed)

theorem read_eq_resume (template : String) :
    read template =
      (resume template.toList {} 0).map fun (elements, stop) => (⟨elements⟩, stop) := by
  rw [read, resume, List.drop_zero, ← readChars]
  cases readChars template.toList with
  | ok reading => simp [Except.map, stopOf]
  | error overflow => rfl

theorem resume_of_moves {cs : List Char} {start stop : Nat} {token : Token}
    (here : TokenAt cs start token stop) (known : ∀ c, token ≠ .stray c)
    {progress next : Progress} (moves : progress.Moves token next) :
    resume cs progress start = resume cs next stop := by
  have before := Nat.le_trans (Nat.le_of_lt here.lt) here.within
  rw [resume, resume, here.begins.tokens known, readTokens_of_moves moves, Nat.max_eq_right before,
    Nat.max_eq_right here.within]

theorem tokens_of_isStuck {inside : Bool} {c : Char} {cs : List Char}
    (stuck : IsStuck inside (c :: cs)) :
    inside = true ∧ tokens (c :: cs) = .brace :: tokens cs ∨
      tokens (c :: cs) = .stray c :: tokens cs := by
  have begins := begins_next c cs
  obtain ⟨literal, number⟩ := stuck _ _ begins
  rw [tokens_cons]
  generalize Token.next c cs = next at begins literal number
  obtain ⟨token, rest⟩ := next
  dsimp only at begins literal number
  cases begins with
  | plain | escaped => cases literal
  | tabstop | braced | emptyDefault | opening => cases number
  | brace =>
      cases inside with
      | true => exact .inl ⟨rfl, rfl⟩
      | false => cases literal
  | stray => exact .inr rfl

theorem resume_of_isStuck {cs : List Char} {stop : Nat} (stuck : IsStuck true (cs.drop stop))
    {progress : Progress} {level : Level} {levels : List Level}
    (split : progress.levels = level :: levels) :
    resume cs progress stop =
      resume cs ⟨Progress.closed progress.elements level, levels⟩ (stop + 1) := by
  rcases Nat.lt_or_ge stop cs.length with inside | beyond
  · rw [List.drop_eq_getElem_cons inside] at stuck
    rw [resume, resume, List.drop_eq_getElem_cons inside, Nat.max_eq_right (Nat.le_of_lt inside),
      Nat.max_eq_right inside]
    rcases tokens_of_isStuck stuck with ⟨_, brace⟩ | stray
    · rw [brace, readTokens_of_moves (.close split)]
    · rw [stray, readTokens_of_moves (.dropped _ split)]
  · have nothing := List.drop_eq_nil_of_le beyond
    have still := List.drop_eq_nil_of_le (Nat.le_succ_of_le beyond)
    rw [resume, resume, nothing, still, tokens, readTokens, readTokens, split,
      Nat.max_eq_left beyond, Nat.max_eq_left (Nat.le_succ_of_le beyond)]
    simp [Except.map, Progress.finish, split, source]
    omega

theorem resume_top {cs : List Char} {stop : Nat} (stuck : IsStuck false (cs.drop stop))
    (elements : List Element) :
    resume cs ⟨elements, []⟩ stop = .ok (elements.reverse, stop) := by
  rcases Nat.lt_or_ge stop cs.length with inside | beyond
  · have ahead := source_tokens (cs.drop stop)
    rw [List.drop_eq_getElem_cons inside] at stuck
    rcases tokens_of_isStuck stuck with ⟨top, _⟩ | stray
    · cases top
    · rw [← List.drop_eq_getElem_cons inside] at stray
      rw [stray] at ahead
      rw [resume, Nat.max_eq_right (Nat.le_of_lt inside), stray, readTokens]
      simp only [Except.map, ahead, List.length_drop, Progress.finish, List.foldl_nil]
      congr 2
      omega
  · rw [resume, List.drop_eq_nil_of_le beyond, tokens, readTokens, Nat.max_eq_left beyond]
    simp [Except.map, Progress.finish, source]

theorem readTokens_of_run {inside : Bool} {cs value rest : List Char}
    (run : Run inside cs value rest) {progress : Progress} (level : progress.IsInside inside) :
    readTokens progress (tokens cs) = readTokens (progress.literals value) (tokens rest) := by
  induction run generalizing progress with
  | ended _ => rfl
  | @more _ token _ c _ _ begins literal _ ih =>
      have moves : progress.Moves token (progress.literal c) := by
        cases token with
        | plain d | escaped d =>
            obtain rfl := Option.some.inj literal
            constructor
        | brace =>
            cases inside with
            | true => cases literal
            | false =>
                obtain rfl := Option.some.inj literal
                exact .brace (level.1 rfl)
        | tabstop _ _ | emptyDefault _ | opening _ | stray _ => cases literal
      rw [begins.tokens (Token.ne_stray_of_literal literal), readTokens_of_moves moves]
      exact ih (level.literal c)

mutual

theorem resume_of_readsElement {cs : List Char} {inside : Bool} {start stop : Nat}
    {element : Element} (reads : ReadsElement cs inside start element stop) {progress : Progress}
    (level : progress.IsInside inside)
    (apart : StartsWithText [element] → ¬ StartsWithText progress.elements) :
    resume cs progress start = resume cs (progress.push element) stop := by
  cases reads with
  | @text _ _ value _ run nonempty within =>
      have before := Nat.le_trans (Nat.le_of_lt (ReadsElement.text run nonempty within).lt) within
      have pushed := Progress.literals_of_not_text (apart ⟨_, rfl⟩)
        (mt String.ofList_eq_empty_iff.1 nonempty)
      rw [String.toList_ofList] at pushed
      rw [resume, resume, readTokens_of_run run level, pushed, Nat.max_eq_right before,
        Nat.max_eq_right within]
  | tabstop token value => exact resume_of_moves token nofun (.tabstop value)
  | emptyDefault token value => exact resume_of_moves token nofun (.emptyDefault value)
  | placeholder token value default =>
      rw [resume_of_moves token nofun (.opening value),
        resume_of_readsLevel default (progress.isInside_openLevel _)
          fun _ => not_startsWithText_nil,
        resume_of_isStuck default.isStuck rfl]
      simp [Progress.closed, Progress.append, Progress.openLevel, Progress.push]

theorem resume_of_readsLevel {cs : List Char} {inside : Bool} {start stop : Nat}
    {elements : List Element} (reads : ReadsLevel cs inside start elements stop)
    {progress : Progress} (level : progress.IsInside inside)
    (apart : StartsWithText elements → ¬ StartsWithText progress.elements) :
    resume cs progress start = resume cs (progress.append elements) stop := by
  cases reads with
  | stuck _ => rfl
  | @cons _ _ element _ _ _ first more =>
      have apart : StartsWithText [element] → ¬ StartsWithText progress.elements :=
        fun ⟨value, text⟩ => apart ⟨value, text⟩
      have stillLevel : (progress.push element).IsInside inside := level
      rw [Progress.append_cons, resume_of_readsElement first level apart,
        resume_of_readsLevel more stillLevel fun next => more.apart first next _]

end

/-! ## Every template that reads is read level by level -/

theorem exists_value_of_resume {cs : List Char} {start stop : Nat} {token : Token}
    {digits : List Char} (here : TokenAt cs start token stop)
    (number : token.number? = some digits) {progress : Progress} {result : List Element × Nat}
    (reads : resume cs progress start = .ok result) : ∃ n, Number.ofDigits digits = .ok n := by
  refine (ofDigits_cases digits).resolve_right fun long => ?_
  rw [resume, here.begins.tokens (Token.ne_stray_of_number number),
    readTokens_of_long progress number long] at reads
  cases reads

theorem exists_text {cs : List Char} {inside : Bool} {start : Nat}
    (begins : ¬ EndsText inside (cs.drop start)) :
    ∃ value stop, ReadsElement cs inside start (.text value) stop ∧
      EndsText inside (cs.drop stop) := by
  obtain ⟨value, rest, run, suffix⟩ := Run.exists_run inside (cs.drop start)
  have after := List.suffix_iff_eq_drop.1 (suffix.trans (List.drop_suffix start cs))
  have nonempty : value ≠ [] := by
    rintro rfl
    cases run with
    | ended ends => exact begins ends
  rw [after] at run
  exact ⟨_, _, .text run nonempty (Nat.sub_le _ _), run.ends⟩

theorem exists_number {cs : List Char} {inside : Bool} {start : Nat}
    (free : ¬ IsStuck inside (cs.drop start)) (ends : EndsText inside (cs.drop start)) :
    ∃ token digits stop, TokenAt cs start token stop ∧ token.number? = some digits := by
  cases front : cs.drop start with
  | nil =>
      rw [front] at free
      exact absurd (isStuck_nil inside) free
  | cons c rest =>
      have begins := begins_next c rest
      rw [front] at free ends
      cases number : (Token.next c rest).1.number? with
      | none => exact absurd (isStuck_cons (ends _ _ begins) number) free
      | some digits =>
          rw [← front] at begins
          exact ⟨_, digits, _, .of_begins begins, number⟩

theorem exists_readsElement {cs : List Char} {inside : Bool} {start : Nat} {progress : Progress}
    {result : List Element × Nat} (free : ¬ IsStuck inside (cs.drop start))
    (reads : resume cs progress start = .ok result)
    (nested : ∀ digits first (n : Nat), TokenAt cs start (.opening digits) first →
      resume cs (progress.openLevel n) first = .ok result →
      ∃ children last, ReadsLevel cs true first children last) :
    ∃ element stop, ReadsElement cs inside start element stop ∧ (StartsWithText [element] →
      ¬ EndsText inside (cs.drop start) ∧ EndsText inside (cs.drop stop)) := by
  by_cases ends : EndsText inside (cs.drop start)
  · obtain ⟨token, digits, stop, here, number⟩ := exists_number free ends
    obtain ⟨n, value⟩ := exists_value_of_resume here number reads
    cases token with
    | tabstop digits braced =>
        obtain rfl := Option.some.inj number
        exact ⟨_, _, .tabstop here value, fun text =>
          absurd text (not_startsWithText_tabstop _ [])⟩
    | emptyDefault digits =>
        obtain rfl := Option.some.inj number
        exact ⟨_, _, .emptyDefault here value, fun text =>
          absurd text (not_startsWithText_placeholder _ _ [])⟩
    | opening digits =>
        obtain rfl := Option.some.inj number
        rw [resume_of_moves here nofun (.opening value)] at reads
        obtain ⟨children, last, default⟩ := nested digits stop n here reads
        exact ⟨_, _, .placeholder here value default, fun text =>
          absurd text (not_startsWithText_placeholder _ _ [])⟩
    | plain _ | escaped _ | brace | stray _ => cases number
  · obtain ⟨value, stop, first, after⟩ := exists_text ends
    exact ⟨_, stop, first, fun _ => ⟨ends, after⟩⟩

theorem exists_readsLevel {cs : List Char} {inside : Bool} {start : Nat} {progress : Progress}
    (level : progress.IsInside inside)
    (apart : StartsWithText progress.elements → EndsText inside (cs.drop start))
    {result : List Element × Nat} (reads : resume cs progress start = .ok result) :
    ∃ elements stop, ReadsLevel cs inside start elements stop := by
  by_cases stuck : IsStuck inside (cs.drop start)
  · exact ⟨[], start, .stuck stuck⟩
  have free : start < cs.length := by
    refine Nat.lt_of_not_ge fun beyond => stuck ?_
    rw [List.drop_eq_nil_of_le beyond]
    exact isStuck_nil inside
  obtain ⟨element, middle, first, text⟩ := exists_readsElement stuck reads
    fun digits behind n here reads => by
      -- The nested level begins behind the colon, so there is less left of the template.
      have ahead := here.lt
      exact exists_readsLevel (progress.isInside_openLevel n)
        (fun text => absurd text not_startsWithText_nil) reads
  have ahead := first.lt
  -- The level goes on behind the element, with what the reader has got from it.
  rw [resume_of_readsElement first level fun new before => (text new).1 (apart before)] at reads
  have stillLevel : (progress.push element).IsInside inside := level
  obtain ⟨rest, stop, more⟩ := exists_readsLevel stillLevel
    (fun ⟨value, new⟩ => (text ⟨value, new⟩).2) reads
  exact ⟨element :: rest, stop, .cons first more⟩
termination_by cs.length - start

/-- The reader gives what is read level by level from the start, and stops where that is stuck. -/
theorem read_eq_ok_iff {template : String} {snippet : Snippet} {stop : Nat} :
    read template = .ok (snippet, stop) ↔
      ReadsLevel template.toList false 0 snippet.elements stop := by
  have fresh : ¬ StartsWithText ({} : Progress).elements := not_startsWithText_nil
  have whole {elements : List Element} {stop : Nat}
      (reads : ReadsLevel template.toList false 0 elements stop) :
      read template = .ok (⟨elements⟩, stop) := by
    rw [read_eq_resume, resume_of_readsLevel reads Progress.isInside_start fun _ => fresh]
    have ended := resume_top reads.isStuck (elements.reverse ++ [])
    rw [List.append_nil, List.reverse_reverse] at ended
    rw [Progress.append, List.append_nil, ended]
    rfl
  constructor
  · intro given
    cases reads : resume template.toList {} 0 with
    | ok result =>
        obtain ⟨elements, stop', level⟩ :=
          exists_readsLevel Progress.isInside_start (fun text => absurd text fresh) reads
        cases given.symm.trans (whole level)
        exact level
    | error overflow =>
        rw [read_eq_resume, reads] at given
        cases given
  · exact whole

end Autocomplete.Snippet
