/-
# Calls to a catalog whose answer is kept

Any number of callers ask for the plugins at the same time.  The catalog behind may take its time
over each enumeration and may then give any list or any fault, another one every time; so what it
does is an input here, not a function.  A call moves only when it is polled, and may be abandoned at
any time, in line or inside its own enumeration.

Main statements:
* `run_append`, `log_append`: a run goes on from where an earlier one stopped.
-/
import PluginArbiter.Catalog.Basic
import PluginArbiter.Catalog.Cache

namespace PluginArbiter

/-! ## 1. State -/

/-- A call that has not returned.  It is inside once it has started an enumeration. -/
structure KeptCatalog.Call where
  id : Nat
  isInside : Bool := false
  deriving DecidableEq, Inhabited

/-- The kept answer and the calls that have not returned, in the order in which they were made. -/
structure KeptCatalog where
  cache : Cache (List PluginDescriptor) := {}
  calls : List KeptCatalog.Call := []
  made : Nat := 0
  deriving Inhabited

namespace KeptCatalog

/-! ## 2. Steps -/

/-- What can happen to a call.  With a poll comes what the catalog behind answers if this poll
reaches it; without an answer the enumeration is suspended. -/
inductive Action
  | call
  | poll (id : Nat) (inner : Option CatalogAnswer)
  | abandon (id : Nat)

/-- What has come of it; enumerations go by the call that has started them. -/
inductive Event
  | started (id : Nat)
  | ended (id : Nat) (answer : CatalogAnswer)
  | returned (id : Nat) (answer : CatalogAnswer)
  | abandoned (id : Nat) (wasInside : Bool)

/-- Takes a call out. -/
def without (s : KeptCatalog) (id : Nat) : KeptCatalog :=
  { s with calls := s.calls.filter (·.id ≠ id) }

/-- Notes that a call has started an enumeration. -/
def goInside (s : KeptCatalog) (id : Nat) : KeptCatalog :=
  { s with calls := s.calls.map fun c => if c.id = id then { c with isInside := true } else c }

/-- A call returns with the answer of its own enumeration. -/
def conclude (s : KeptCatalog) (id : Nat) (answer : CatalogAnswer) : List Event × KeptCatalog :=
  ([.ended id answer, .returned id answer],
    { s.without id with cache := s.cache.finish answer })

/-- Polls a call. -/
def pollCall (s : KeptCatalog) (c : Call) (inner : Option CatalogAnswer) :
    List Event × KeptCatalog :=
  if c.isInside then
    match inner with
    | none => ([], s)
    | some answer => s.conclude c.id answer
  else
    match s.cache.ask c.id with
    | (.stored plugins, _) => ([.returned c.id (.ok plugins)], s.without c.id)
    | (.wait, cache) => ([], { s with cache })
    | (.turn, cache) =>
      let s := { s with cache }
      match inner with
      | none => ([.started c.id], s.goInside c.id)
      | some answer => (.started c.id :: (s.conclude c.id answer).1, (s.conclude c.id answer).2)

/-- Carries out an action.  What is done to a call that has returned changes nothing. -/
def act (s : KeptCatalog) : Action → List Event × KeptCatalog
  | .call => ([], { s with calls := s.calls ++ [{ id := s.made }], made := s.made + 1 })
  | .poll id inner =>
    match s.calls.find? (·.id == id) with
    | none => ([], s)
    | some c => s.pollCall c inner
  | .abandon id =>
    match s.calls.find? (·.id == id) with
    | none => ([], s)
    | some c => ([.abandoned id c.isInside], { s.without id with cache := s.cache.leave id })

/-! ## 3. Runs -/

/-- Where a run leads. -/
def run (s : KeptCatalog) (actions : List Action) : KeptCatalog :=
  actions.foldl (fun s a => (s.act a).2) s

/-- What has come of a run, in order. -/
def log (s : KeptCatalog) : List Action → List Event
  | [] => []
  | a :: rest => (s.act a).1 ++ log (s.act a).2 rest

@[simp] theorem run_nil (s : KeptCatalog) : s.run [] = s := rfl

@[simp] theorem log_nil (s : KeptCatalog) : s.log [] = [] := rfl

/-- A run goes on from where an earlier one stopped. -/
theorem run_append (s : KeptCatalog) (as bs : List Action) :
    s.run (as ++ bs) = (s.run as).run bs :=
  List.foldl_append

/-- What comes of a run that goes on is what came of the earlier one, continued. -/
theorem log_append (s : KeptCatalog) (as bs : List Action) :
    s.log (as ++ bs) = s.log as ++ (s.run as).log bs := by
  induction as generalizing s with
  | nil => rfl
  | cons a rest ih =>
    rw [List.cons_append, log, log, ih, List.append_assoc]
    rfl

/-- One more action. -/
theorem run_concat (s : KeptCatalog) (actions : List Action) (a : Action) :
    s.run (actions ++ [a]) = ((s.run actions).act a).2 :=
  s.run_append actions [a]

theorem log_concat (s : KeptCatalog) (actions : List Action) (a : Action) :
    s.log (actions ++ [a]) = s.log actions ++ ((s.run actions).act a).1 := by
  rw [log_append, log, log_nil, List.append_nil]

end KeptCatalog

end PluginArbiter
