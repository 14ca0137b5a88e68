/-
  Syllabus.Service.CrossOrigin
  ────────────────────────────
  **REQUESTS FROM PAGES OF OTHER ORIGINS.**

  A browser lets a page of another origin use an answer only if the answer
  names that origin; before some requests it asks first whether they are
  welcome.  Such a question is answered here and goes no further; the answer
  lists all that is not welcome about the request.
-/
import Syllabus.Service.Response
import Syllabus.Text.Blank
import Syllabus.Text.Split

namespace Syllabus.Service

/-! ## §1. What is welcome. -/

/-- The methods that are welcome. -/
def welcomeMethods : List String := ["GET", "POST", "PATCH", "OPTIONS"]

/-- The headers that are welcome, as answers list them. -/
def welcomeHeaders : List String :=
  ["Accept", "Accept-Language", "Content-Language", "Content-Type", "authorization", "content-type"]

/-- The headers of answers that pages may see. -/
def exposedHeaders : List String := ["content-length", "x-request-id"]

/-- Words between commas. -/
def commaList (words : List String) : String := String.intercalate ", " words

/-! ## §2. Answers that pass. -/

/-- The headers for an origin: that it may use the answer, if it may. -/
def originHeaders (allowed : List String) (origin : String) : Headers :=
  if allowed.contains origin then [("access-control-allow-origin", origin)] else []

/-- Headers of an answer to a request that may come from another origin. -/
def sharedHeaders (allowed : List String) (request answer : Headers) : Headers :=
  let shared := match request.get? "origin" with
    | some origin =>
        [("access-control-allow-credentials", "true"),
          ("access-control-expose-headers", commaList exposedHeaders)]
          ++ originHeaders allowed origin
    | none => []
  (answer ++ shared).set "vary" "Origin"

/-! ## §3. Questions. -/

/-- A question whether a request would be welcome. -/
structure Preflight where
  /-- Where the request would come from. -/
  origin : String
  /-- Its method. -/
  method : String
  /-- Its headers, if it has any of its own. -/
  headers : Option String
  /-- Whether it comes from a public network into a private one. -/
  intoPrivateNetwork : Bool
  deriving DecidableEq, Repr

namespace Preflight

/-- The question that a request asks, if it asks one. -/
def of? (method : String) (hs : Headers) : Option Preflight := do
  let origin ← hs.get? "origin"
  let asked ← hs.get? "access-control-request-method"
  if method = "OPTIONS" then
    some
      { origin, method := asked, headers := hs.get? "access-control-request-headers"
        intoPrivateNetwork := (hs.get? "access-control-request-private-network").isSome }
  else none

/-- Whether headers, listed with commas, are all welcome. -/
def areWelcome (listed : String) : Bool :=
  (Text.splitOn ',' (Text.lower listed).toList).all fun name =>
    (welcomeHeaders.map Text.lower).contains (Text.strip (String.ofList name))

/-- What is not welcome about the request. -/
def objections (allowed : List String) (p : Preflight) : List String :=
  [(allowed.contains p.origin, "origin"), (welcomeMethods.contains p.method, "method"),
    (p.headers.all areWelcome, "headers"), (!p.intoPrivateNetwork, "private-network")].filterMap
      fun (welcome, name) => if welcome then none else some name

/-- The headers of every answer to a question. -/
def standingHeaders : Headers :=
  [("vary", commaList ["Origin", "Access-Control-Request-Method", "Access-Control-Request-Headers",
      "Access-Control-Request-Private-Network"]),
    ("access-control-allow-methods", commaList welcomeMethods),
    ("access-control-max-age", "600"),
    ("access-control-allow-headers", commaList welcomeHeaders),
    ("access-control-allow-credentials", "true")]

/-- The answer to a question. -/
def answer (allowed : List String) (p : Preflight) : Response :=
  let headers := standingHeaders ++ originHeaders allowed p.origin
  match p.objections allowed with
  | [] => .of 200 headers (.text "OK")
  | objections => .of 400 headers (.text ("Disallowed CORS " ++ commaList objections))

end Preflight

end Syllabus.Service
