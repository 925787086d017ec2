import Autocomplete.LanguageServer.Exchange
import Mathlib.Data.List.Basic
import Mathlib.Data.List.Induction

namespace Autocomplete

def forwarding (requestId : Int) (uri : String) (position : Position) : Response → List Effect
  | .failure error =>
    [.called (.completion uri position), .logged (.requestFailed requestId error),
      .answered (.failure error)]
  | response => [.called (.completion uri position), .answered response]

namespace Errand

def done (errand : Errand) (response : Response) : List Effect :=
  match errand.stage with
  | .scheduled => []
  | .waiting => [.called (.completion errand.uri errand.position)]
  | .finished => forwarding errand.requestId errand.uri errand.position response

theorem done_resume (errand : Errand) (response : Response) :
    (errand.resume response).1.done response =
      errand.done response ++ (errand.resume response).2 := by
  obtain ⟨requestId, uri, position, stage⟩ := errand
  cases stage with
  | scheduled => rfl
  | waiting => cases response <;> rfl
  | finished => exact (List.append_nil _).symm

theorem stage_resume_resume (errand : Errand) (response : Response) :
    ((errand.resume response).1.resume response).1.stage = .finished := by
  obtain ⟨requestId, uri, position, stage⟩ := errand
  cases stage <;> rfl

end Errand

namespace EventLoop

variable {β : Type} {client : Client} {loop : EventLoop β} {buffer : β} {uri : String}
  {number : Nat} {errand : Errand}

/-! ## Steps and runs -/

inductive Step.Requests (requestId : Int) (buffer : β) (position : Position) : Step β → Prop where
  | forward : Requests requestId buffer position (.forward requestId buffer position)
  | offer : Requests requestId buffer position (.offer requestId buffer position)

theorem errand_resume (client : Client) (loop : EventLoop β) (number other : Nat) :
    (loop.resume client number).1.errands[other]? =
      if number = other then
        loop.errands[other]?.map fun errand => (errand.resume (client other)).1
      else loop.errands[other]? := by
  cases found : loop.errands[number]? with
  | none =>
      rw [resume, found]
      by_cases same : number = other
      · rw [if_pos same, ← same, found]
        rfl
      · rw [if_neg same]
  | some errand =>
      have inside : number < loop.errands.length := (List.getElem?_eq_some_iff.1 found).1
      rw [resume, found]
      by_cases same : number = other
      · rw [if_pos same, ← same, found]
        exact List.getElem?_set_self inside
      · rw [if_neg same]
        exact List.getElem?_set_ne same

variable [DecidableEq β]

theorem performAll_append (client : Client) (loop : EventLoop β) (first second : List (Step β)) :
    loop.performAll client (first ++ second) =
      (loop.performAll client first).performAll client second := by
  induction first generalizing loop with
  | nil => rfl
  | cons step rest ih => exact ih _

theorem forward_of_open (opened : loop.server.uri? buffer = some uri) (requestId : Int)
    (position : Position) :
    loop.forward requestId buffer position =
      .ok { loop with errands := loop.errands ++ [{ requestId, uri, position }] } := by
  rw [forward, opened]

theorem forward_of_closed (closed : loop.server.uri? buffer = none) (requestId : Int)
    (position : Position) : loop.forward requestId buffer position = .error buffer := by
  rw [forward, closed]

theorem offer_of_open (opened : loop.server.uri? buffer = some uri) (requestId : Int)
    (position : Position) :
    loop.offer requestId buffer position =
      some { loop with errands := loop.errands ++ [{ requestId, uri, position }] } := by
  rw [offer, forward_of_open opened]
  rfl

theorem offer_of_closed (closed : loop.server.uri? buffer = none) (requestId : Int)
    (position : Position) : loop.offer requestId buffer position = none := by
  rw [offer, forward_of_closed closed]
  rfl

theorem perform_of_open {requestId : Int} {position : Position} {request : Step β}
    (made : request.Requests requestId buffer position)
    (opened : loop.server.uri? buffer = some uri) (client : Client) :
    loop.perform client request =
      ({ loop with errands := loop.errands ++ [{ requestId, uri, position }] }, []) := by
  cases made with
  | forward =>
      rw [perform, forward_of_open opened]
      rfl
  | offer =>
      rw [perform, offer_of_open opened]
      rfl

theorem perform_of_closed {requestId : Int} {position : Position} {request : Step β}
    (made : request.Requests requestId buffer position)
    (closed : loop.server.uri? buffer = none) (client : Client) :
    loop.perform client request = (loop, []) := by
  cases made with
  | forward =>
      rw [perform, forward_of_closed closed]
      rfl
  | offer =>
      rw [perform, offer_of_closed closed]
      rfl

/-! ## Open buffers -/

def effectsOf (number : Nat) (history : List (Nat × Effect)) : List Effect :=
  history.filterMap fun entry => if entry.1 = number then some entry.2 else none

def account (client : Client) (loop : EventLoop β) (number : Nat) : List Effect :=
  match loop.errands[number]? with
  | some errand => errand.done (client number)
  | none => []

def IsIdle (loop : EventLoop β) : Prop := ∀ errand ∈ loop.errands, errand.stage = .finished

theorem effectsOf_append (number : Nat) (first second : List (Nat × Effect)) :
    effectsOf number (first ++ second) = effectsOf number first ++ effectsOf number second :=
  List.filterMap_append

theorem effectsOf_own (number : Nat) (effects : List Effect) :
    effectsOf number (effects.map fun effect => (number, effect)) = effects := by
  have own : ((fun entry : Nat × Effect => if entry.1 = number then some entry.2 else none) ∘
      fun effect => (number, effect)) = some := funext fun _ => if_pos rfl
  rw [effectsOf, List.filterMap_map, own, List.filterMap_some]

theorem effectsOf_other {number other : Nat} (differ : other ≠ number) (effects : List Effect) :
    effectsOf number (effects.map fun effect => (other, effect)) = [] := by
  simp [effectsOf, List.filterMap_map, differ]

theorem errand_perform_cases (client : Client) (loop : EventLoop β) (step : Step β)
    (number : Nat) :
    ((loop.perform client step).1.errands[number]? = loop.errands[number]? ∧
      effectsOf number (loop.perform client step).2 = []) ∨
    (loop.errands[number]? = none ∧
      (∃ requestId uri position, (loop.perform client step).1.errands[number]? =
        some ⟨requestId, uri, position, .scheduled⟩) ∧
      effectsOf number (loop.perform client step).2 = []) ∨
    ∃ errand, loop.errands[number]? = some errand ∧
      (loop.perform client step).1.errands[number]? =
        some (errand.resume (client number)).1 ∧
      effectsOf number (loop.perform client step).2 = (errand.resume (client number)).2 := by
  have requested {requestId : Int} {buffer : β} {position : Position}
      (made : step.Requests requestId buffer position) :
      ((loop.perform client step).1.errands[number]? = loop.errands[number]? ∧
        effectsOf number (loop.perform client step).2 = []) ∨
      loop.errands[number]? = none ∧
        (∃ requestId uri position, (loop.perform client step).1.errands[number]? =
          some ⟨requestId, uri, position, .scheduled⟩) ∧
        effectsOf number (loop.perform client step).2 = [] := by
    cases found : loop.server.uri? buffer with
    | none =>
        rw [perform_of_closed made found]
        exact .inl ⟨rfl, rfl⟩
    | some uri =>
        rw [perform_of_open made found]
        rcases Nat.lt_trichotomy number loop.errands.length with inside | rfl | beyond
        · exact .inl ⟨List.getElem?_append_left inside, rfl⟩
        · exact .inr ⟨List.getElem?_eq_none (Nat.le_refl _),
            ⟨requestId, uri, position, List.getElem?_concat_length⟩, rfl⟩
        · left
          rw [List.getElem?_eq_none (by simp; omega), List.getElem?_eq_none (Nat.le_of_lt beyond)]
          exact ⟨rfl, rfl⟩
  cases step with
  | attach | detach => exact .inl ⟨rfl, rfl⟩
  | forward => exact (requested .forward).imp_right .inl
  | offer => exact (requested .offer).imp_right .inl
  | resume own =>
      have resumed := errand_resume client loop own number
      by_cases same : own = number
      · subst same
        rw [if_pos rfl] at resumed
        cases found : loop.errands[own]? with
        | none =>
            left
            rw [perform, resume, found]
            exact ⟨found, rfl⟩
        | some errand =>
            rw [found] at resumed
            refine .inr (.inr ⟨errand, rfl, resumed, ?_⟩)
            rw [perform, resume, found]
            exact effectsOf_own own _
      · rw [if_neg same] at resumed
        exact .inl ⟨resumed, effectsOf_other same _⟩

theorem account_perform (client : Client) (loop : EventLoop β) (step : Step β) (number : Nat) :
    (loop.perform client step).1.account client number =
      loop.account client number ++ effectsOf number (loop.perform client step).2 := by
  rcases errand_perform_cases client loop step number with
    ⟨same, quiet⟩ | ⟨fresh, ⟨_, _, _, made⟩, quiet⟩ | ⟨errand, found, resumed, effects⟩
  · rw [account, same, quiet, List.append_nil, account]
  · rw [account, made, quiet, List.append_nil, account, fresh]
    rfl
  · rw [account, resumed, effects, account, found]
    exact errand.done_resume (client number)

theorem account_performAll (client : Client) (loop : EventLoop β) (run : List (Step β))
    (number : Nat) :
    (loop.performAll client run).account client number =
      loop.account client number ++ effectsOf number (loop.history client run) := by
  induction run generalizing loop with
  | nil => exact (List.append_nil _).symm
  | cons step rest ih =>
      rw [performAll, ih, account_perform, history, effectsOf_append, List.append_assoc]

theorem number_lt_of_mem_history {run : List (Step β)} {effect : Effect}
    (member : (number, effect) ∈ ({} : EventLoop β).history client run) :
    number < (({} : EventLoop β).performAll client run).errands.length := by
  by_contra beyond
  have all := account_performAll client ({} : EventLoop β) run number
  rw [account, List.getElem?_eq_none (Nat.le_of_not_lt beyond)] at all
  have own : effect ∈ effectsOf number (({} : EventLoop β).history client run) :=
    List.mem_filterMap.2 ⟨(number, effect), member, if_pos rfl⟩
  have none_done : effectsOf number (({} : EventLoop β).history client run) = [] := all.symm
  rw [none_done] at own
  cases own

/-! ## Bringing requests to their end -/

theorem errand_performAll_range (client : Client) (loop : EventLoop β) (count other : Nat) :
    (loop.performAll client
      ((List.range count).flatMap fun number => [.resume number, .resume number])).errands[other]? =
      if other < count then
        loop.errands[other]?.map fun errand =>
          ((errand.resume (client other)).1.resume (client other)).1
      else loop.errands[other]? := by
  induction count with
  | zero => rfl
  | succ count ih =>
      rw [List.range_succ, List.flatMap_append, performAll_append, List.flatMap_singleton]
      change (((loop.performAll client _).resume client count).1.resume client
        count).1.errands[other]? = _
      rw [errand_resume, errand_resume, ih]
      rcases Nat.lt_trichotomy other count with below | rfl | above
      · rw [if_neg (Nat.ne_of_gt below), if_neg (Nat.ne_of_gt below), if_pos below,
          if_pos (Nat.lt_succ_of_lt below)]
      · rw [if_pos rfl, if_pos rfl, if_neg (Nat.lt_irrefl _), if_pos (Nat.lt_succ_self _),
          Option.map_map]
        rfl
      · rw [if_neg (Nat.ne_of_lt above), if_neg (Nat.ne_of_lt above), if_neg (by omega),
          if_neg (by omega)]

/-- Every run can go on until no request is left, whatever the server answers. -/
theorem isIdle_performAll_remaining (client : Client) (loop : EventLoop β) :
    (loop.performAll client loop.remaining).IsIdle := by
  intro errand member
  obtain ⟨number, found⟩ := List.mem_iff_getElem?.1 member
  rw [remaining, errand_performAll_range] at found
  split at found
  · obtain ⟨start, _, rfl⟩ := Option.map_eq_some_iff.1 found
    exact start.stage_resume_resume (client number)
  · rename_i beyond
    rw [List.getElem?_eq_none (Nat.le_of_not_lt beyond)] at found
    cases found

/-! ## Every request is forwarded once -/

end EventLoop

theorem LanguageServer.forward_of_open {server : LanguageServer} {request : Request} {uri : String}
    (opened : server.uri? request.buffer = some uri) (response : Response) :
    server.forward request response =
      .ok (.ofEffects (forwarding request.id uri request.position response)) := by
  rw [forward, EventLoop.forward_of_open opened]
  cases response <;> rfl

end Autocomplete
