import Autocomplete.Entries
import Autocomplete.Position
import Autocomplete.Ranking

namespace Autocomplete

inductive Status where
  | inactive
  | started
  deriving DecidableEq, Repr

structure Listing where
  stamp : Nat
  candidates : List Candidate
  deriving DecidableEq, Repr

namespace Listing

def empty : Listing := ⟨0, []⟩

def make (made : Nat) (candidates : List Candidate) : Listing :=
  if candidates.isEmpty then empty else ⟨made + 1, candidates⟩

@[simp] theorem candidates_make (made : Nat) (candidates : List Candidate) :
    (make made candidates).candidates = candidates := by
  unfold make
  split
  · next h => simpa [empty] using h.symm
  · rfl

end Listing

structure Session where
  scorer : Scorer
  wrapAround : Bool := true
  requestId : Int := 0
  status : Status := .inactive
  buffer : BufferId := .unnamed
  position : Option Position := none
  input : String := ""
  index : Nat := 0
  cache : List (String × Listing) := []
  ranked : Listing := .empty
  made : Nat := 0

/-- How an operation ended, and the session after it. An operation that fails may have changed the
session before. -/
structure Session.Outcome (α : Type) where
  result : Except ScorerFailure α
  session : Session

namespace Session

def isActive (session : Session) : Bool := session.status ≠ .inactive

def pool (session : Session) : Listing :=
  ((Entries.find? session.input session.cache).or (Entries.find? "" session.cache)).getD .empty

def displayed (session : Session) : Listing :=
  if session.input = "" then session.pool else session.ranked

def length (session : Session) : Nat := session.displayed.candidates.length

def isEmpty (session : Session) : Bool := session.length == 0

def selected? (session : Session) : Option Candidate :=
  session.displayed.candidates[session.index]?

def cleared (session : Session) : Session :=
  { session with cache := [], ranked := .empty, index := 0 }

/-- Begins a completion, or requests another answer at the same place. At another place the
candidates of the one before are dropped. -/
def start (session : Session) (requestId : Int) (buffer : BufferId) (position : Position) :
    Session :=
  let moved := session.isActive ∧ (session.buffer, session.position) ≠ (buffer, some position)
  let kept := if moved then session.cleared else session
  { kept with
    requestId := requestId, status := .started, buffer := buffer, position := some position }

def cancel (session : Session) : Session :=
  if session.isActive then { session.cleared with status := .inactive, input := "" } else session

def store (session : Session) (input : String) (items : List Item) : Session :=
  { session with
    cache := Entries.insert input (.make session.made (items.map fun item => { item := item }))
      session.cache
    made := session.made + 1 }

def rerank (session : Session) : Outcome Unit :=
  if session.input = "" then ⟨.ok (), session⟩
  else
    match session.scorer.rank session.input (session.pool.candidates.map Candidate.item) with
    | .error failure => ⟨.error failure, session⟩
    | .ok candidates =>
      ⟨.ok (), { session with ranked := .make session.made candidates, made := session.made + 1 }⟩

def enter (session : Session) (input : String) : Outcome Unit :=
  let session := { session with input := input, index := 0 }
  if session.isActive then session.rerank else ⟨.ok (), session⟩

/-- Takes the answer to a request that was made with some input. It is discarded, and the result is
`false`, unless it answers the latest request of an active session. -/
def receive (session : Session) (requestId : Int) (input : String) (items : List Item) :
    Outcome Bool :=
  if session.isActive ∧ session.requestId = requestId then
    let outcome := (session.store input items).rerank
    ⟨outcome.result.map fun _ => true, outcome.session⟩
  else ⟨.ok false, session⟩

def rowAfter (wrapAround : Bool) (length index : Nat) : Nat :=
  if length = 0 then index
  else if wrapAround then (index + 1) % length
  else min (index + 1) (length - 1)

def rowBefore (wrapAround : Bool) (length index : Nat) : Nat :=
  if length = 0 then index
  else if wrapAround then (index + (length - 1)) % length
  else min (index - 1) (length - 1)

def next (session : Session) : Session :=
  { session with index := rowAfter session.wrapAround session.length session.index }

def previous (session : Session) : Session :=
  { session with index := rowBefore session.wrapAround session.length session.index }

def setWrapAround (session : Session) (wrapAround : Bool) : Session :=
  { session with wrapAround := wrapAround }

end Session

end Autocomplete
