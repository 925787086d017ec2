import Autocomplete.CommandLine.Run
import Autocomplete.Proofs.Controller.SessionRun
import Autocomplete.Proofs.Session.Ranked
import Autocomplete.Proofs.Session.Selection
import Autocomplete.Proofs.Snippet.Spans

namespace Autocomplete.CommandLine

/-! ## The candidates -/

/-- The candidates are the items as they stand if the input is empty, otherwise their ranking. -/
structure Lists (items : List Item) (input : String) (shown : List Candidate) : Prop where
  whole : input = "" → shown = items.map fun item => { item := item }
  ranked : input ≠ "" → ∃ entries, Scorer.fuzzy.IsRanking input items entries ∧
    shown = entries.map Prod.fst

theorem Lists.unique {items : List Item} {input : String} {a b : List Candidate}
    (lists : Lists items input a) (lists' : Lists items input b) : a = b := by
  by_cases empty : input = ""
  · rw [lists.whole empty, lists'.whole empty]
  · obtain ⟨entries, ranking, rfl⟩ := lists.ranked empty
    obtain ⟨entries', ranking', rfl⟩ := lists'.ranked empty
    rw [ranking.unique ranking']

def cacheOf (items : List Item) : List (String × Listing) :=
  [("", .make 0 (items.map fun item => { item := item }))]

section Showing

variable (settings : Settings) (file : String) (items : List Item) (input : String)

def answered : Controller where
  session :=
    { scorer := .fuzzy
      wrapAround := settings.wrapAround
      requestId := 1
      status := .started
      buffer := .name file
      position := some ⟨0, 0⟩
      cache := cacheOf items
      made := 1 }
  settings := settings
  tickets := [(1, { input := "", answered := true })]

end Showing

/-! ## The selected row -/

section Rows

variable {wrapAround : Bool} {length index : Nat}

end Rows

end Autocomplete.CommandLine
