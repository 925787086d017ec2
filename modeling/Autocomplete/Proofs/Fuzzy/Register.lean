import Autocomplete.Fuzzy.Table
import Mathlib.Tactic.Common

namespace Autocomplete.Fuzzy

def IsBest (wins : (chosen other : Nat) → Prop) (scores : Nat → Option Int) : Option Link → Prop
  | none => ∀ k, scores k = none
  | some link =>
    scores link.origin = some link.score ∧
      ∀ k score, scores k = some score →
        score < link.score ∨ score = link.score ∧ wins link.origin k

abbrev IsLatest := IsBest fun chosen other => other ≤ chosen

abbrev IsEarliest := IsBest fun chosen other => chosen ≤ other

section Best

variable {wins : Nat → Nat → Prop} {scores : Nat → Option Int}

theorem IsBest.congr {scores' : Nat → Option Int} {link : Option Link}
    (best : IsBest wins scores link) (same : ∀ k, scores k = scores' k) :
    IsBest wins scores' link := by
  rwa [← funext same]

theorem IsBest.add {link : Option Link} (best : IsBest wins scores link) (d : Int) :
    IsBest wins (fun k => (scores k).map (· + d))
      (link.map fun link => ⟨link.score + d, link.origin⟩) := by
  cases link with
  | none =>
      intro k
      change (scores k).map (· + d) = none
      rw [best k, Option.map_none]
  | some link =>
      obtain ⟨attained, bound⟩ := best
      refine ⟨?_, ?_⟩
      · change (scores link.origin).map (· + d) = some (link.score + d)
        rw [attained, Option.map_some]
      · intro k score found
        obtain ⟨before, at_k, rfl⟩ := Option.map_eq_some_iff.1 found
        rcases bound k before at_k with less | ⟨same, first⟩
        · exact .inl (Int.add_lt_add_right less d)
        · exact .inr ⟨by rw [same], first⟩

theorem IsBest.le {link : Link} (best : IsBest wins scores (some link)) {k : Nat} {score : Int}
    (found : scores k = some score) : score ≤ link.score := by
  rcases best.2 k score found with less | ⟨same, _⟩
  · exact Int.le_of_lt less
  · exact Int.le_of_eq same

variable (wins) in
theorem isBest_at {j : Nat} (self : wins j j) (score : Option Int) :
    IsBest wins (fun k => if k = j then score else none) (score.map fun score => ⟨score, j⟩) := by
  cases score with
  | none =>
      intro k
      exact ite_self none
  | some score =>
      refine ⟨if_pos rfl, ?_⟩
      intro k other found
      by_cases same : k = j
      · subst same
        have equal : some score = some other := by simpa using found
        exact .inr ⟨(Option.some.inj equal).symm, self⟩
      · simp [same] at found

theorem isBest_better {near far : Nat → Option Int} {run gap : Option Link}
    (ran : IsBest wins near run) (skipped : IsBest wins far gap)
    (apart : ∀ i k score score', near i = some score → far k = some score' → i ≠ k ∧ wins i k) :
    IsBest wins (fun k => (near k).or (far k)) (better run gap) := by
  match run, gap with
  | none, gap =>
      have same : ∀ k, far k = (near k).or (far k) := fun k => by rw [ran k, Option.none_or]
      exact skipped.congr same
  | some run, none =>
      have same : ∀ k, near k = (near k).or (far k) := fun k => by rw [skipped k, Option.or_none]
      exact ran.congr same
  | some run, some gap =>
      have either : ∀ k score, (near k).or (far k) = some score →
          near k = some score ∨ far k = some score := by
        intro k score found
        rcases Option.or_eq_some_iff.1 found with here | ⟨_, here⟩
        · exact .inl here
        · exact .inr here
      by_cases lower : run.score < gap.score
      · rw [better, if_pos lower]
        refine ⟨?_, ?_⟩
        · change (near gap.origin).or (far gap.origin) = some gap.score
          have absent : near gap.origin = none := by
            cases here : near gap.origin with
            | none => rfl
            | some score => exact absurd rfl (apart _ _ _ _ here skipped.1).1
          rw [absent, Option.none_or, skipped.1]
        · intro k score found
          rcases either k score found with here | here
          · exact .inl (Int.lt_of_le_of_lt (ran.le here) lower)
          · exact skipped.2 k score here
      · rw [better, if_neg lower]
        refine ⟨?_, ?_⟩
        · change (near run.origin).or (far run.origin) = some run.score
          rw [ran.1, Option.some_or]
        · intro k score found
          rcases either k score found with here | here
          · exact ran.2 k score here
          · have first := (apart _ _ _ _ ran.1 here).2
            have bound := skipped.le here
            rcases Int.lt_or_eq_of_le (Int.le_trans bound (Int.not_lt.1 lower)) with less | same
            · exact .inl less
            · exact .inr ⟨same, first⟩

end Best

theorem getElem?_of_drop {α : Type} {elements rest : List α} {j : Nat} {element : α}
    (dropped : elements.drop j = element :: rest) :
    elements[j]? = some element ∧ elements.drop (j + 1) = rest := by
  constructor
  · rw [← List.head?_drop, dropped, List.head?_cons]
  · rw [← List.drop_drop, dropped, List.drop_one, List.tail_cons]

def scoreAt? (row : Row) (k : Nat) : Option Int := row[k]?.join.map Cell.score

def gapScore (row : Row) (j k : Nat) : Option Int :=
  if k + 2 ≤ j then
    (scoreAt? row k).map (· + -(gapOpening + gapExtension * ((j : Int) - k - 2)))
  else none

theorem gapScore_of_lt {row : Row} {j k : Nat} (close : j < k + 2) : gapScore row j k = none :=
  if_neg (Nat.not_le.2 close)

theorem gapScore_succ {row : Row} {j k : Nat} (gap : k + 2 ≤ j) :
    gapScore row (j + 1) k = (gapScore row j k).map (· + -gapExtension) := by
  rw [gapScore, gapScore, if_pos gap, if_pos (Nat.le_succ_of_le gap), Option.map_map]
  congr 1
  funext score
  simp only [Function.comp_apply, gapExtension]
  omega

theorem gapScore_opening (row : Row) (k : Nat) :
    gapScore row (k + 2) k = (scoreAt? row k).map (· + -gapOpening) := by
  rw [gapScore, if_pos (Nat.le_refl _)]
  congr 1
  funext score
  simp only [gapExtension]
  omega

theorem advance_eq_better (k : Nat) (gap : Option Link) (cell : Option Cell) :
    advance k gap cell =
      better (((cell.map Cell.score).map (· + -gapOpening)).map fun score => ⟨score, k⟩)
        (gap.map fun link => ⟨link.score + -gapExtension, link.origin⟩) := by
  match cell, gap with
  | none, none | none, some _ | some _, none => rfl
  | some cell, some link =>
      change (if link.score - gapExtension ≤ cell.score - gapOpening then _ else _) =
        if cell.score - gapOpening < link.score - gapExtension then _ else _
      by_cases extended : cell.score - gapOpening < link.score - gapExtension
      · rw [if_pos extended, if_neg (Int.not_le.2 extended)]
        rfl
      · rw [if_neg extended, if_pos (Int.not_lt.1 extended)]
        rfl

theorem isLatest_advance {row : Row} {j : Nat} {gap : Option Link} {cell : Option Cell}
    (here : row[j]? = some cell) (held : IsLatest (gapScore row (j + 1)) gap) :
    IsLatest (gapScore row (j + 2)) (advance j gap cell) := by
  rw [advance_eq_better]
  -- A gap is opened at column `j`, or the one in the register becomes longer by one.
  have score : cell.map Cell.score = scoreAt? row j := by rw [scoreAt?, here, Option.join_some]
  have opened := isBest_at (fun chosen other => other ≤ chosen) (Nat.le_refl j)
    ((cell.map Cell.score).map (· + -gapOpening))
  refine (isBest_better opened (held.add (-gapExtension)) ?_).congr ?_
  · intro i k _ _ found skipped
    have at_j : i = j := by
      by_contra other
      simp [other] at found
    have gap : k + 2 ≤ j + 1 := by
      by_contra close
      simp [gapScore_of_lt (Nat.not_le.1 close)] at skipped
    omega
  · intro k
    rcases Nat.lt_trichotomy k j with below | rfl | above
    · rw [if_neg (Nat.ne_of_lt below), Option.none_or, ← gapScore_succ (by omega)]
    · rw [if_pos rfl, gapScore_of_lt (by omega), Option.map_none, Option.or_none, score,
        gapScore_opening]
    · rw [if_neg (Nat.ne_of_gt above), gapScore_of_lt (by omega), gapScore_of_lt (by omega)]
      rfl

theorem isLatest_gapsFrom {row rest : Row} {j : Nat} {gap : Option Link}
    (scanned : row.drop j = rest) (held : IsLatest (gapScore row (j + 1)) gap) {i : Nat}
    {found : Option Link} (look : (gapsFrom j gap rest)[i]? = some found) :
    IsLatest (gapScore row (j + i + 2)) found := by
  induction rest generalizing j gap i with
  | nil => simp [gapsFrom] at look
  | cons cell rest ih =>
      obtain ⟨here, tail⟩ := getElem?_of_drop scanned
      have next := isLatest_advance here held
      cases i with
      | zero =>
          simp only [gapsFrom, List.getElem?_cons_zero, Option.some.injEq] at look
          rwa [← look]
      | succ i =>
          simp only [gapsFrom, List.getElem?_cons_succ] at look
          have later := ih tail next look
          rwa [Nat.add_assoc j, Nat.add_comm 1 i] at later

theorem isLatest_gaps {row : Row} {j : Nat} {gap : Option Link}
    (look : (gaps row)[j]? = some gap) : IsLatest (gapScore row j) gap := by
  have start : ∀ j < 2, IsLatest (gapScore row j) none := fun j low k =>
    gapScore_of_lt (by omega)
  unfold gaps at look
  match j with
  | 0 =>
      obtain rfl : none = gap := by simpa using look
      exact start 0 (by omega)
  | 1 =>
      obtain rfl : none = gap := by simpa using look
      exact start 1 (by omega)
  | j + 2 =>
      have found := isLatest_gapsFrom List.drop_zero (start 1 (by omega)) look
      rwa [Nat.zero_add] at found

theorem bestFrom_cons (j : Nat) (found : Option Link) (cell : Option Cell) (row : Row) :
    bestFrom j found (cell :: row) =
      bestFrom (j + 1) (better found ((cell.map Cell.score).map fun score => ⟨score, j⟩)) row := by
  match cell, found with
  | none, none | none, some _ | some _, none => rfl
  | some cell, some link =>
      change (if link.score < cell.score then _ else _) =
        bestFrom (j + 1) (if link.score < cell.score then _ else _) row
      by_cases lower : link.score < cell.score
      · rw [if_pos lower, if_pos lower]
      · rw [if_neg lower, if_neg lower]

theorem isEarliest_bestFrom {row rest : Row} {j : Nat} {found : Option Link}
    (scanned : row.drop j = rest)
    (held : IsEarliest (fun k => if k < j then scoreAt? row k else none) found) :
    IsEarliest (scoreAt? row) (bestFrom j found rest) := by
  induction rest generalizing j found with
  | nil =>
      refine held.congr fun k => ?_
      by_cases seen : k < j
      · rw [if_pos seen]
      · have beyond : row.length ≤ k := Nat.le_trans (List.drop_eq_nil_iff.1 scanned) (Nat.not_lt.1 seen)
        rw [if_neg seen, scoreAt?, List.getElem?_eq_none beyond]
        rfl
  | cons cell rest ih =>
      obtain ⟨here, tail⟩ := getElem?_of_drop scanned
      have score : cell.map Cell.score = scoreAt? row j := by rw [scoreAt?, here, Option.join_some]
      rw [bestFrom_cons]
      apply ih tail
      have added := isBest_at (fun chosen other => chosen ≤ other) (Nat.le_refl j)
        (cell.map Cell.score)
      refine (isBest_better held added ?_).congr ?_
      · intro i k _ _ before found
        have below : i < j := by
          by_contra above
          simp [above] at before
        have at_j : k = j := by
          by_contra other
          simp [other] at found
        omega
      · intro k
        rcases Nat.lt_trichotomy k j with below | rfl | above
        · rw [if_pos below, if_neg (Nat.ne_of_lt below), if_pos (Nat.lt_succ_of_lt below),
            Option.or_none]
        · rw [if_neg (Nat.lt_irrefl _), if_pos rfl, if_pos (Nat.lt_succ_self _), score,
            Option.none_or]
        · rw [if_neg (Nat.not_lt.2 (Nat.le_of_lt above)), if_neg (Nat.ne_of_gt above),
            if_neg (by omega), Option.none_or]

theorem isEarliest_best (row : Row) : IsEarliest (scoreAt? row) (best row) :=
  isEarliest_bestFrom List.drop_zero fun _ => if_neg (Nat.not_lt_zero _)

end Autocomplete.Fuzzy
