import CloudLifecycle.Lifecycle.Online

/-!
# Playing the other side of the web

An `Exchange` is surroundings for a program over the web: requests are answered by given responses,
one after another, the calendar stands still at one moment, every fresh name is the same, and time
passes only by pauses.  A request for which no response is left stays unanswered.
-/

set_option autoImplicit false

namespace CloudLifecycle

/-- The other side of the web, with what a task remembers. -/
structure Exchange where
  /-- Responses to the requests to come. -/
  responses : List HttpResponse
  /-- The requests that were answered, the last one first. -/
  answered : List HttpRequest
  moment : Timestamp
  name : String
  now : Duration
  isCancelled : Bool
  /-- The machine's own id, once it was found. -/
  self : Option ResourceId
deriving DecidableEq

namespace Exchange

/-- An exchange before the first request. -/
def initial (moment : Timestamp) (name : String) : Exchange :=
  ⟨[], [], moment, name, Duration.zero, false, none⟩

/-- Gives the next response, if there is one. -/
def respond (exchange : Exchange) (request : HttpRequest) : Option HttpResponse × Exchange :=
  match exchange.responses with
  | [] => (none, exchange)
  | response :: rest =>
    (some response, { exchange with responses := rest, answered := request :: exchange.answered })

/-- Answers an action of the web. -/
def answerWeb : (action : WebAction) → Exchange → action.Answer × Exchange
  | .send request, exchange => exchange.respond request
  | .now, exchange => (exchange.moment, exchange)
  | .freshName, exchange => (exchange.name, exchange)

/-- Answers an action of a task; what became a request is not asked for any more. -/
def answerTask : (action : Action) → Exchange → Option action.Answer × Exchange
  | .recallSelf, exchange => (some exchange.self, exchange)
  | .rememberSelf found, exchange => (some (), { exchange with self := some found })
  | .lockSelf, exchange => (some (), exchange)
  | .unlockSelf, exchange => (some (), exchange)
  | .sleep span, exchange => (some (), { exchange with now := exchange.now + span.pause })
  | .clock, exchange => (some exchange.now, exchange)
  | .cancelled, exchange => (some exchange.isCancelled, exchange)
  | .freshName, exchange => (some exchange.name, exchange)
  | .provider _, exchange | .settings _, exchange | .lookUpSelf, exchange | .abort, exchange =>
    (none, exchange)

/-- Answers what a program over the web asks for. -/
def answer : (question : Outside) → Exchange → Option question.Answer × Exchange
  | .web action, exchange => (answerWeb action exchange).map some id
  | .task action, exchange => answerTask action exchange

/-- The exchange as surroundings. -/
def surroundings : Surroundings Outside Outside.Answer Exchange := ⟨answer⟩

/-- Plays a program over the web. -/
def play {α : Type} (exchange : Exchange) (p : Online α) : Option α × Exchange :=
  surroundings.run p exchange

/-- The requests that were answered, from the first one on. -/
def requests (exchange : Exchange) : List HttpRequest := exchange.answered.reverse

end Exchange

end CloudLifecycle
