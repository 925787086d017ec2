import Autocomplete.Proofs.Ranking
import Autocomplete.Session.Basic
import Mathlib.Data.List.Nodup

namespace Autocomplete

theorem pairwise_mergeSort_stable {α : Type} {le : α → α → Bool} {R : α → α → Prop}
    (trans : ∀ a b c, le a b → le b c → le a c) (total : ∀ a b, le a b || le b a) {l : List α}
    (ordered : l.Pairwise R) :
    (l.mergeSort le).Pairwise fun a b => le a b ∧ (le b a → R a b) := by
  rw [← List.mergeSort_zipIdx, List.pairwise_map]
  have sorted := List.pairwise_mergeSort (List.zipIdxLE_trans trans) (List.zipIdxLE_total total)
    l.zipIdx
  have perm := List.mergeSort_perm l.zipIdx (List.zipIdxLE le)
  have distinct : ((l.zipIdx.mergeSort (List.zipIdxLE le)).map Prod.snd).Nodup := by
    rw [(perm.map _).nodup_iff, List.zipIdx_map_snd]
    exact List.nodup_range'
  rw [List.Nodup, List.pairwise_map] at distinct
  refine (sorted.and distinct).imp_of_mem ?_
  rintro ⟨a, i⟩ ⟨b, j⟩ inA inB ⟨before, apart⟩
  rw [perm.mem_iff, List.mk_mem_zipIdx_iff_getElem?] at inA inB
  unfold List.zipIdxLE at before
  split at before
  · next better =>
    refine ⟨better, fun draw => ?_⟩
    rw [if_pos draw, decide_eq_true_iff] at before
    obtain ⟨_, rfl⟩ := List.getElem?_eq_some_iff.1 inA
    obtain ⟨_, rfl⟩ := List.getElem?_eq_some_iff.1 inB
    exact List.pairwise_iff_getElem.1 ordered i j _ _ (Nat.lt_of_le_of_ne before apart)
  · cases before

namespace Candidate

def Outranks (a b : Candidate) : Prop :=
  b.score < a.score ∨ a.score = b.score ∧
    (b.labelScore < a.labelScore ∨ a.labelScore = b.labelScore ∧
      a.item.label.length < b.item.label.length)

def Draws (a b : Candidate) : Prop :=
  a.score = b.score ∧ a.labelScore = b.labelScore ∧ a.item.label.length = b.item.label.length

theorem precedes_iff {a b : Candidate} : a.precedes b ↔ a.Outranks b ∨ a.Draws b := by
  simp only [precedes, Bool.or_eq_true, Bool.and_eq_true, decide_eq_true_eq, beq_iff_eq, Outranks,
    Draws]
  omega

theorem precedes_trans (a b c : Candidate) (ab : a.precedes b) (bc : b.precedes c) :
    a.precedes c := by
  simp only [precedes_iff, Outranks, Draws] at *
  omega

theorem precedes_total (a b : Candidate) : a.precedes b || b.precedes a := by
  simp only [Bool.or_eq_true, precedes_iff, Outranks, Draws]
  omega

theorem Draws.symm {a b : Candidate} (draws : a.Draws b) : b.Draws a :=
  ⟨draws.1.symm, draws.2.1.symm, draws.2.2.symm⟩

end Candidate

namespace Scorer

/-- What a scorer makes of an item that takes part in the ranking. -/
inductive Rates (scorer : Scorer) (input : String) (item : Item) : Candidate → Prop
  | labelled {shift : Nat} {found label : Match}
      (occurs : Text.IsFirstOccurrence item.filter.toList item.label.toList shift)
      (onFilter : scorer item.filter input = .ok (some found))
      (onLabel : scorer item.label input = .ok (some label)) :
      Rates scorer input item
        ⟨item, found.score, label.score, found.indices.map fun i => i + (shift : Int)⟩
  | unlabelled {shift : Nat} {found : Match}
      (occurs : Text.IsFirstOccurrence item.filter.toList item.label.toList shift)
      (onFilter : scorer item.filter input = .ok (some found))
      (onLabel : scorer item.label input = .ok none) :
      Rates scorer input item
        ⟨item, found.score, found.score, found.indices.map fun i => i + (shift : Int)⟩

def TakesPart (scorer : Scorer) (input : String) (item : Item) : Prop :=
  item.filter.toList <:+: item.label.toList ∧
    ∃ found, scorer item.filter input = .ok (some found)

/-- The entries are candidates, each with the place of its item in the pool. -/
structure IsRanking (scorer : Scorer) (input : String) (pool : List Item)
    (entries : List (Candidate × Nat)) : Prop where
  once : (entries.map Prod.snd).Nodup
  listed : ∀ n item, pool[n]? = some item →
    (n ∈ entries.map Prod.snd ↔ scorer.TakesPart input item)
  rated : ∀ candidate n, (candidate, n) ∈ entries →
    ∃ item, pool[n]? = some item ∧ scorer.Rates input item candidate
  ordered : entries.Pairwise fun a b => a.1.Outranks b.1 ∨ a.1.Draws b.1 ∧ a.2 < b.2

variable {scorer : Scorer} {input : String}

theorem Rates.unique {item : Item} {a b : Candidate} (rates : scorer.Rates input item a)
    (rates' : scorer.Rates input item b) : a = b := by
  cases rates with
  | labelled occurs onFilter onLabel =>
      cases rates' with
      | labelled occurs' onFilter' onLabel' =>
          obtain rfl := occurs.unique occurs'
          cases onFilter.symm.trans onFilter'
          cases onLabel.symm.trans onLabel'
          rfl
      | unlabelled _ _ onLabel' => cases onLabel.symm.trans onLabel'
  | unlabelled occurs onFilter onLabel =>
      cases rates' with
      | labelled _ _ onLabel' => cases onLabel.symm.trans onLabel'
      | unlabelled occurs' onFilter' _ =>
          obtain rfl := occurs.unique occurs'
          cases onFilter.symm.trans onFilter'
          rfl

theorem IsRanking.mem_of_mem {pool : List Item} {a b : List (Candidate × Nat)}
    (ranking : scorer.IsRanking input pool a) (ranking' : scorer.IsRanking input pool b)
    {entry : Candidate × Nat} (member : entry ∈ a) : entry ∈ b := by
  obtain ⟨candidate, n⟩ := entry
  obtain ⟨item, atN, rates⟩ := ranking.rated candidate n member
  have takesPart := (ranking.listed n item atN).1 (List.mem_map_of_mem member)
  obtain ⟨⟨other, _⟩, inside, rfl⟩ := List.mem_map.1 ((ranking'.listed n item atN).2 takesPart)
  obtain ⟨item', atN', rates'⟩ := ranking'.rated other _ inside
  obtain rfl := Option.some.inj (atN.symm.trans atN')
  rwa [rates.unique rates']

theorem IsRanking.unique {pool : List Item} {a b : List (Candidate × Nat)}
    (ranking : scorer.IsRanking input pool a) (ranking' : scorer.IsRanking input pool b) :
    a = b := by
  have perm : a.Perm b := (List.perm_ext_iff_of_nodup ranking.once.of_map ranking'.once.of_map).2
    fun _ => ⟨ranking.mem_of_mem ranking', ranking'.mem_of_mem ranking⟩
  refine perm.eq_of_pairwise ?_ ranking.ordered ranking'.ordered
  -- Neither of two entries can stand before the other, so no two are compared.
  intro x y _ _ before after
  simp only [Candidate.Outranks, Candidate.Draws] at before after
  omega

theorem rates_of_rate {item : Item} {candidate : Candidate}
    (rated : scorer.rate input item = .ok (some candidate)) : scorer.Rates input item candidate := by
  obtain ⟨shift, found, label, occurs, onFilter, onLabel, rfl⟩ := of_rate rated
  cases label with
  | none => exact .unlabelled occurs onFilter onLabel
  | some label => exact .labelled occurs onFilter onLabel

theorem takesPart_iff_of_rate {item : Item} {rated : Option Candidate}
    (ok : scorer.rate input item = .ok rated) :
    scorer.TakesPart input item ↔ ∃ candidate, rated = some candidate := by
  unfold TakesPart
  unfold rate at ok
  split at ok
  · next missing =>
    obtain rfl := Except.ok.inj ok
    simp [Text.occurrence?_eq_none_iff.1 missing]
  · next shift occurs =>
    have inside : item.filter.toList <:+: item.label.toList := by
      by_contra missing
      cases (Text.occurrence?_eq_none_iff.2 missing).symm.trans occurs
    split at ok
    · cases ok
    · next unmatched =>
      obtain rfl := Except.ok.inj ok
      simp [unmatched]
    · next found onFilter =>
      split at ok
      · cases ok
      · obtain rfl := Except.ok.inj ok
        simp [inside, onFilter]

def rated? (scorer : Scorer) (input : String) (item : Item) : Option Candidate :=
  match scorer.rate input item with
  | .ok rated => rated
  | .error _ => none

theorem rate_of_rated? {item : Item} {candidate : Candidate}
    (rated : scorer.rated? input item = some candidate) :
    scorer.rate input item = .ok (some candidate) := by
  unfold rated? at rated
  split at rated
  · next ok => rw [ok, rated]
  · cases rated

theorem of_rateAll {items : List Item} {candidates : List Candidate}
    (ok : scorer.rateAll input items = .ok candidates) :
    (∀ item ∈ items, scorer.rate input item = .ok (scorer.rated? input item)) ∧
      candidates = items.filterMap (scorer.rated? input) := by
  induction items generalizing candidates with
  | nil => exact ⟨nofun, (Except.ok.inj ok).symm⟩
  | cons item rest ih =>
      rw [rateAll] at ok
      split at ok
      · cases ok
      · next rated first =>
        split at ok
        · cases ok
        · next others more =>
          obtain ⟨all, rfl⟩ := ih more
          have same : scorer.rated? input item = rated := by rw [rated?, first]
          refine ⟨List.forall_mem_cons.2 ⟨by rw [same, first], all⟩, ?_⟩
          rw [← Except.ok.inj ok, List.filterMap_cons, same]
          cases rated <;> rfl

def entries (scorer : Scorer) (input : String) (pool : List Item) : List (Candidate × Nat) :=
  pool.zipIdx.filterMap fun (item, n) => (scorer.rated? input item).map (·, n)

theorem mem_entries {pool : List Item} {candidate : Candidate} {n : Nat} :
    (candidate, n) ∈ scorer.entries input pool ↔
      ∃ item, pool[n]? = some item ∧ scorer.rated? input item = some candidate := by
  simp [entries, List.mem_zipIdx_iff_getElem?]

theorem map_fst_entries (scorer : Scorer) (input : String) (pool : List Item) :
    (scorer.entries input pool).map Prod.fst = pool.filterMap (scorer.rated? input) := by
  rw [entries, List.map_filterMap]
  conv_rhs => rw [← List.zipIdx_map_fst 0 pool, List.filterMap_map]
  congr 1
  funext entry
  simp [Function.comp_def]

theorem pairwise_entries (scorer : Scorer) (input : String) (pool : List Item) :
    (scorer.entries input pool).Pairwise fun a b => a.2 < b.2 := by
  have places : pool.zipIdx.Pairwise fun a b => a.2 < b.2 := by
    rw [← List.pairwise_map (f := Prod.snd), List.zipIdx_map_snd]
    exact List.pairwise_lt_range'
  refine List.Pairwise.filterMap _ ?_ places
  rintro ⟨_, i⟩ ⟨_, j⟩ before ⟨_, _⟩ first ⟨_, _⟩ second
  simp only [Option.map_eq_some_iff, Prod.mk.injEq] at first second
  obtain ⟨_, _, _, rfl⟩ := first
  obtain ⟨_, _, _, rfl⟩ := second
  exact before

theorem isRanking_of_rank {pool : List Item} {candidates : List Candidate}
    (ranked : scorer.rank input pool = .ok candidates) :
    ∃ entries, scorer.IsRanking input pool entries ∧ candidates = entries.map Prod.fst := by
  unfold rank at ranked
  split at ranked
  · cases ranked
  · next rated ok =>
    obtain ⟨all, rfl⟩ := of_rateAll ok
    obtain rfl := Except.ok.inj ranked
    let sorted := (scorer.entries input pool).mergeSort fun a b => a.1.precedes b.1
    have perm : sorted.Perm (scorer.entries input pool) := List.mergeSort_perm _ _
    have inOrder := pairwise_entries scorer input pool
    refine ⟨sorted, ⟨?_, ?_, ?_, ?_⟩, ?_⟩
    · rw [(perm.map _).nodup_iff, List.Nodup, List.pairwise_map]
      exact inOrder.imp Nat.ne_of_lt
    · intro n item atN
      rw [takesPart_iff_of_rate (all item (List.mem_of_getElem? atN)), (perm.map _).mem_iff]
      simp [mem_entries, atN]
    · intro candidate n member
      obtain ⟨item, atN, rated⟩ := mem_entries.1 (perm.mem_iff.1 member)
      exact ⟨item, atN, rates_of_rate (rate_of_rated? rated)⟩
    · have stable := pairwise_mergeSort_stable
        (fun a b c : Candidate × Nat => Candidate.precedes_trans a.1 b.1 c.1)
        (fun a b => Candidate.precedes_total a.1 b.1) inOrder
      refine stable.imp fun ⟨before, draw⟩ => ?_
      refine (Candidate.precedes_iff.1 before).imp_right fun draws => ⟨draws, ?_⟩
      exact draw (Candidate.precedes_iff.2 (.inr draws.symm))
    · rw [← map_fst_entries]
      exact (List.map_mergeSort (f := Prod.fst) fun _ _ _ _ => rfl).symm

end Scorer

theorem Session.isRanking_rerank {session : Session} (total : session.scorer.Total)
    (typed : session.input ≠ "") :
    session.rerank.result = .ok () ∧
      ∃ entries, session.scorer.IsRanking session.input
          (session.pool.candidates.map Candidate.item) entries ∧
        session.rerank.session.ranked.candidates = entries.map Prod.fst := by
  obtain ⟨candidates, ranked⟩ := total.rank session.input
    (session.pool.candidates.map Candidate.item)
  obtain ⟨entries, isRanking, same⟩ := Scorer.isRanking_of_rank ranked
  simp only [rerank, if_neg typed, ranked, Listing.candidates_make]
  exact ⟨trivial, entries, isRanking, same⟩

theorem Session.isRanking_rerank_draws :
    let bar (text : String) : Item := { label := "bar", insertText := some text }
    let middle : Item := { label := "foo bar", filterText := some "bar" }
    let inside : Item := { label := "xba", filterText := some "ba" }
    let pool := [middle, bar "1", { label := "zab", filterText := some "bar" }, bar "2",
      { label := "qux" }, inside]
    let session : Session :=
      { scorer := .fuzzy
        status := .started
        input := "ba"
        cache := [("", .make 0 (pool.map fun item => { item := item }))] }
    Scorer.fuzzy.Total ∧ session.input ≠ "" ∧
      ∃ entries, Scorer.fuzzy.IsRanking "ba" pool entries ∧
        entries.map Prod.fst = [⟨bar "1", 52, 52, [0, 1]⟩, ⟨bar "2", 52, 52, [0, 1]⟩,
          ⟨middle, 52, 52, [4, 5]⟩, ⟨inside, 52, 36, [1, 2]⟩] := by
  intro bar middle inside pool session
  have typed : session.input ≠ "" := by decide
  obtain ⟨_, entries, isRanking, listed⟩ := Session.isRanking_rerank Scorer.total_fuzzy typed
  refine ⟨Scorer.total_fuzzy, typed, entries, isRanking, listed.symm.trans ?_⟩
  let one : Candidate := ⟨bar "1", 52, 52, [0, 1]⟩
  let two : Candidate := ⟨bar "2", 52, 52, [0, 1]⟩
  let right : Candidate := ⟨middle, 52, 52, [4, 5]⟩
  let last : Candidate := ⟨inside, 52, 36, [1, 2]⟩
  have rated : session.scorer.rateAll session.input
      (session.pool.candidates.map Candidate.item) = .ok [right, one, two, last] := by
    decide +kernel
  have sorted : [right, one, two, last].mergeSort Candidate.precedes = [one, two, right, last] := by
    have longer : right.precedes one = false ∧ right.precedes two = false := by decide
    have draw : one.precedes two = true := by decide
    have lower : two.precedes last = true ∧ right.precedes last = true := by decide
    simp [List.mergeSort, longer, draw, lower]
  rw [rerank, if_neg typed, Scorer.rank, rated]
  exact (Listing.candidates_make _ _).trans sorted

end Autocomplete
