import SmartThingsLocal.Foundation.Stateful
import SmartThingsLocal.Session.BlockwiseGet
import SmartThingsLocal.Session.Lifecycle
import SmartThingsLocal.Session.Relations
import SmartThingsLocal.Session.RequestOptions

/-!
# Operations on the Observe relations

`subscribe`, `refresh_observes` and `unsubscribe`, which hold the operation lock, so that no
other thread changes the relation indices meanwhile. What the surroundings decide is a
parameter: the draws of `os.urandom`, the flags that each liveness check finds, and
whether the socket takes each datagram.
-/

namespace SmartThingsLocal

open Stateful

namespace Session

def maxObserveRelations : ℕ := 0xFF
def observeTokenLen : ℕ := 8
def observeTokenAllocAttempts : ℕ := 8

/-- `'/' + '/'.join(path_segs)`. -/
def hrefOf (pathSegs : List String) : String := "/" ++ "/".intercalate pathSegs

end Session

namespace Coap

def observeRegister : ByteString := []
def observeDeregister : ByteString := [1]

end Coap

open Session

/-- What the surroundings decide of an operation, each in the order in which it is asked. -/
structure OperationSurroundings where
  urandom : ℕ → ByteString
  length_urandom : ∀ draw, (urandom draw).length = observeTokenLen
  liveness : ℕ → Liveness
  delivered : ℕ → Bool

/-- A datagram given to `_send_dgram`, and what that raised. -/
structure SendAttempt where
  datagram : ByteString
  error : Option SmartThingsLocalError
  deriving DecidableEq, Repr

/-- A registration that is to be made. -/
structure Registration where
  path : List String
  href : String
  query : Query
  deriving DecidableEq, Repr

/-- What an operation reads and changes, and how much it has asked of its surroundings. -/
structure OperationState where
  registry : Registry
  relations : ObserveRelations
  refetch : RefetchQueue
  draws : ℕ := 0
  checks : ℕ := 0
  sends : List SendAttempt := []

abbrev RelationOperation := Stateful GetFailure OperationState

namespace OperationState

variable (surroundings : OperationSurroundings)

/-- The flags as the next check finds them. -/
def nextLiveness : RelationOperation Liveness := do
  let state ← get
  set { state with checks := state.checks + 1 }
  return surroundings.liveness state.checks

def checkLive : RelationOperation Unit := do
  let liveness ← nextLiveness surroundings
  readOnly (liveness.checkLive.mapError .session)

def sendDgram (datagram : ByteString) : RelationOperation Unit := do
  let liveness ← nextLiveness surroundings
  let state ← get
  match liveness.sendDgram (surroundings.delivered state.sends.length) with
  | .error error => do
      set { state with sends := state.sends ++ [SendAttempt.mk datagram (some error)] }
      throw (.session error)
  | .ok () => set { state with sends := state.sends ++ [SendAttempt.mk datagram none] }

def nextMid : RelationOperation ℕ := do
  let state ← get
  let (mid, registry) := state.registry.nextAvailableMid
  set { state with registry }
  readOnly (mid.mapError .session)

/-- The loop of `_next_available_observe_tok_locked`. -/
def nextAvailableObserveTok : ℕ → RelationOperation ByteString
  | 0 => throw (.session .sessionIdentifierError)
  | attempts + 1 => do
      let state ← get
      let token := surroundings.urandom state.draws
      set { state with draws := state.draws + 1 }
      if state.relations.tokens.contains token then nextAvailableObserveTok attempts
      else return token

def retire (tok : ByteString) : RelationOperation Unit :=
  modify fun state => { state with relations := state.relations.retire tok }

/-- A GET with the Observe option, which registers a relation or takes it back. -/
def observeRequest (observe : ByteString) (mid : ℕ) (tok : ByteString) (pathSegs : List String)
    (query : Query) : Except PythonError ByteString :=
  let options := pathSegs.map (fun segment => (Coap.uriPath, optionBytesOf segment)) ++
    query.map (fun value => (Coap.uriQuery, optionBytesOf value)) ++
    [(Coap.observe, observe), (Coap.accept, Coap.cfCbor)]
  buildCoap Coap.typeCon Coap.methodGet mid tok options []

/-- Build such a GET under a fresh Message ID and send it. -/
def sendObserve (observe tok : ByteString) (pathSegs : List String) (query : Query) :
    RelationOperation Unit := do
  let mid ← nextMid
  let datagram ← readOnly ((observeRequest observe mid tok pathSegs query).mapError .python)
  sendDgram surroundings datagram

def subscribe (pathSegs : List String) (query : Query) : RelationOperation ByteString := do
  checkLive surroundings
  let pathSegs ← readOnly ((validatedTextOptions pathSegs "path_segs" false).mapError .python)
  let query ← readOnly ((validatedTextOptions query "query" false).mapError .python)
  checkLive surroundings
  let tok ← nextAvailableObserveTok surroundings observeTokenAllocAttempts
  modify fun state =>
    { state with relations := state.relations.register tok (hrefOf pathSegs) query }
  match ← attempt (sendObserve surroundings Coap.observeRegister tok pathSegs query) with
  | .ok () => return tok
  | .error error => do
      retire tok
      throw error

def sendObserveDereg (tok : ByteString) (pathSegs : List String) (query : Query) :
    RelationOperation Unit :=
  sendObserve surroundings Coap.observeDeregister tok pathSegs query

def discardRefetchesForHrefs (hrefs : List String) : RelationOperation Unit :=
  modify fun state => { state with refetch := { state.refetch with
    pending := (state.refetch.pending.keys.filter (·.href ∈ hrefs)).foldl OrderedDict.erase
      state.refetch.pending } }

/-! ### Refreshing -/

/-- The loop of `_validated_observe_paths` after `count` paths. -/
def observePathsFrom : ℕ → List (List String × String) → List (List String) →
    Except PythonError (List (List String × String))
  | _, result, [] => .ok result
  | count, result, path :: paths => do
      if count ≥ maxObserveRelations then
        .error (.valueError "paths must contain at most 255 paths")
      else
        let normalized ← validatedTextOptions path "path" false
        let href := hrefOf normalized
        if href ∈ result.map Prod.snd then observePathsFrom (count + 1) result paths
        else observePathsFrom (count + 1) (result ++ [(normalized, href)]) paths

def validatedObservePaths (paths : List (List String)) :
    Except PythonError (List (List String × String)) :=
  observePathsFrom 0 [] paths

/-- The loop of `_validated_observe_query_overrides`. -/
def observeQueryOverridesFrom (targetHrefs : List String) :
    List (String × Query) → Except PythonError (List (String × Query))
  | [] => .ok []
  | (href, query) :: overrides => do
      if href ∉ targetHrefs then
        .error (.valueError "queries_by_href contains a non-target href")
      else
        let validated ← validatedTextOptions query "query" false
        let rest ← observeQueryOverridesFrom targetHrefs overrides
        return (href, validated) :: rest

/-- The overrides, href by href; the hrefs of the mapping and of the targets are distinct. -/
def validatedObserveQueryOverrides (queriesByHref : Option (OrderedDict String Query))
    (targetHrefs : List String) : Except PythonError (List (String × Query)) :=
  match queriesByHref with
  | none => .ok []
  | some overrides =>
      if overrides.size > targetHrefs.length then
        .error (.valueError "queries_by_href contains a non-target href")
      else observeQueryOverridesFrom targetHrefs overrides.entries

/-- The relations of some hrefs, oldest first. -/
def observationsOf (relations : ObserveRelations) (hrefs : List String) : List Observation :=
  (relations.tokens.entries.filter fun entry => entry.2 ∈ hrefs).map fun entry =>
    ⟨entry.1, entry.2, relations.query entry.1⟩

/-- The queries of an href's relations, each once, oldest first. -/
def preservedQueries (observations : List Observation) (href : String) : List Query :=
  observations.foldl (fun queries observation =>
    if observation.href = href ∧ observation.query ∉ queries then queries ++ [observation.query]
    else queries) []

/-- The queries to register an href with. -/
def refreshQueries (overrides : List (String × Query)) (observations : List Observation)
    (href : String) : List Query :=
  match overrides.lookup href with
  | some query => [query]
  | none =>
      match preservedQueries observations href with
      | [] => [[]]
      | queries => queries

/-- The first loop of `_refresh_observes_locked`: a relation goes, whatever its send does. -/
def deregisterAll : List Observation → RelationOperation Unit
  | [] => pure ()
  | observation :: rest => do
      let _ ← attempt (sendObserveDereg surroundings observation.tok
        (Lifecycle.hrefSegments observation.href) observation.query)
      retire observation.tok
      deregisterAll rest

/-- The second loop, over the queries of every path: the hrefs that succeeded, and the failures. -/
def registerAll : List Registration → List String × ℕ → RelationOperation (List String × ℕ)
  | [], counted => pure counted
  | registration :: rest, (successful, failures) => do
      match ← attempt (subscribe surroundings registration.path registration.query) with
      | .error _ => registerAll rest (successful, failures + 1)
      | .ok _ =>
          if registration.href ∈ successful then registerAll rest (successful, failures)
          else registerAll rest (successful ++ [registration.href], failures)

def refreshObserves (paths : List (List String))
    (queriesByHref : Option (OrderedDict String Query)) :
    RelationOperation (List String × ℕ) := do
  checkLive surroundings
  let normalizedPaths ← readOnly ((validatedObservePaths paths).mapError .python)
  let targetHrefs := normalizedPaths.map Prod.snd
  let queryOverrides ← readOnly
    ((validatedObserveQueryOverrides queriesByHref targetHrefs).mapError .python)
  let state ← get
  let observations := observationsOf state.relations targetHrefs
  deregisterAll surroundings observations
  discardRefetchesForHrefs targetHrefs
  registerAll surroundings (normalizedPaths.flatMap fun path =>
    (refreshQueries queryOverrides observations path.2).map fun query => ⟨path.1, path.2, query⟩)
    ([], 0)

/-! ### Unsubscribing -/

/-- The loop of `_unsubscribe_locked`: the first failure of the sends. -/
def unsubscribeAll (pathSegs : List String) :
    List Observation → Option GetFailure → RelationOperation (Option GetFailure)
  | [], firstError => pure firstError
  | observation :: rest, firstError => do
      let sent ← attempt (sendObserveDereg surroundings observation.tok pathSegs observation.query)
      retire observation.tok
      match sent, firstError with
      | .error error, none => unsubscribeAll pathSegs rest (some error)
      | _, _ => unsubscribeAll pathSegs rest firstError

def unsubscribe (pathSegs : List String) : RelationOperation ℕ := do
  checkLive surroundings
  let pathSegs ← readOnly ((validatedTextOptions pathSegs "path_segs" false).mapError .python)
  let state ← get
  let observations := observationsOf state.relations [hrefOf pathSegs]
  let firstError ← unsubscribeAll surroundings pathSegs observations none
  discardRefetchesForHrefs [hrefOf pathSegs]
  match firstError with
  | some error => throw error
  | none => return observations.length

end OperationState

end SmartThingsLocal
