import EraRewards.Http.Message

/-!
# Routes

A route is a method and a pattern of path segments, at most one of which is a parameter.  The first
route whose pattern and method fit answers; if only the pattern of some route fits, the method is
refused; if the path fits with its trailing slash changed, it is redirected.
-/

namespace EraRewards
namespace Api

/-- What a request is about. -/
inductive Endpoint
  /-- Description of the interface. -/
  | documentation
  /-- Whether the node is ready. -/
  | health
  /-- Parameters of the ledger. -/
  | parameters
  /-- Report volume. -/
  | reportVolume
  /-- Claim a reward. -/
  | claim
  /-- Recent claims. -/
  | events
  /-- Record of an account. -/
  | reward (account : String)
  /-- Balance of an account. -/
  | balance (account : String)
  /-- Volume of the era around a tick. -/
  | eraVolume (tick : String)
  /-- The current era. -/
  | currentEra
  /-- Counters and gauges. -/
  | metrics
  deriving DecidableEq, Repr

/-- A part of a pattern. -/
inductive Segment
  /-- A fixed text. -/
  | fixed (s : String)
  /-- Any text that is not empty. -/
  | parameter
  deriving DecidableEq, Repr

/-- A route. -/
structure Route where
  /-- Methods that are answered. -/
  methods : List String
  /-- Segments of the path. -/
  pattern : List Segment
  /-- What is asked for, given the parameter. -/
  endpoint : String → Endpoint

/-- Whether the segment of a path is a fixed text; the last one may end in a line break. -/
def fitsFixed (s : String) (last : Bool) (part : List Char) : Bool :=
  part == s.toList || (last && part == s.toList ++ ['\n'])

/-- Parameter of a path that fits a pattern; the empty text if the pattern has none. -/
def parameterOf? : List Segment → List (List Char) → Option String
  | [], [] => some ""
  | .fixed s :: pattern, part :: parts =>
    if fitsFixed s parts.isEmpty part then parameterOf? pattern parts else none
  | .parameter :: pattern, part :: parts =>
    if part.isEmpty then none
    else (parameterOf? pattern parts).map fun _ => String.ofList part
  | _, _ => none

/-- Path made of fixed segments. -/
def fixedPath (parts : List String) : List Segment := (("" :: parts).map Segment.fixed)

/-- Routes to the description of the interface. -/
def documentationRoutes : List Route :=
  [["openapi.json"], ["docs"], ["docs", "oauth2-redirect"], ["redoc"]].map fun path =>
    ⟨["GET", "HEAD"], fixedPath path, fun _ => .documentation⟩

/-- Routes to the ledger. -/
def ledgerRoutes : List Route :=
  [⟨["GET"], fixedPath ["v1", "health"], fun _ => .health⟩,
    ⟨["GET"], fixedPath ["v1", "config"], fun _ => .parameters⟩,
    ⟨["POST"], fixedPath ["v1", "rewards", "volume"], fun _ => .reportVolume⟩,
    ⟨["POST"], fixedPath ["v1", "rewards", "claim"], fun _ => .claim⟩,
    ⟨["GET"], fixedPath ["v1", "rewards", "events"], fun _ => .events⟩,
    ⟨["GET"], fixedPath ["v1", "rewards"] ++ [.parameter], .reward⟩,
    ⟨["GET"], fixedPath ["v1", "balances"] ++ [.parameter], .balance⟩,
    ⟨["GET"], fixedPath ["v1", "eras"] ++ [.parameter, .fixed "volume"], .eraVolume⟩,
    ⟨["GET"], fixedPath ["v1", "eras", "current"], fun _ => .currentEra⟩,
    ⟨["GET"], fixedPath ["v1", "metrics"], fun _ => .metrics⟩]

/-- All routes; the interface is described only where that is wanted. -/
def routes (documented : Bool) : List Route :=
  (if documented then documentationRoutes else []) ++ ledgerRoutes

/-- Where a request leads. -/
inductive Destination
  /-- To an endpoint. -/
  | endpoint (e : Endpoint)
  /-- Nowhere, because of the method. -/
  | methodNotAllowed
  /-- To the same path with the trailing slash changed. -/
  | redirect
  /-- Nowhere. -/
  | notFound
  deriving DecidableEq, Repr

/-- Segments of a path. -/
def segments (path : String) : List (List Char) := Text.splitAt '/' path.toList

/-- Whether the pattern of some route fits a path. -/
def fitsSome (routes : List Route) (path : String) : Bool :=
  routes.any fun route => (parameterOf? route.pattern (segments path)).isSome

/-- A path without its trailing slashes, or with one added. -/
def changeSlash (path : String) : String :=
  let reversed := path.toList.reverse
  if reversed.head? == some '/' then String.ofList (reversed.dropWhile (· == '/')).reverse
  else path ++ "/"

/-- Where a method and a path lead. -/
def resolve (routes : List Route) (method path : String) : Destination :=
  let answer? := routes.findSome? fun route =>
    if route.methods.contains method then
      (parameterOf? route.pattern (segments path)).map route.endpoint
    else none
  match answer? with
  | some endpoint => .endpoint endpoint
  | none =>
    if fitsSome routes path then .methodNotAllowed
    else if path != "/" && fitsSome routes (changeSlash path) then .redirect
    else .notFound

end Api
end EraRewards
