import InfraLint.Inventory.Provider

/-!
# Sessions with the provider

A session remembers every answer, also a refusal, so that each question is sent at most once. A
session without a provider refuses all questions and remembers nothing. Several sessions may follow
one another with one provider, so a session also carries the record of all questions that the
provider has been sent.
-/

namespace InfraLint

/-- The provider together with the answers it has given so far. -/
structure Session where
  provider : Option Provider
  /-- Answers by question; a refusal is remembered by its text. -/
  known : List (Query × Except String Names)
  /-- The number of questions sent in this session. -/
  roundTrips : Nat
  /-- The questions that the provider has been sent, in this session and before it, in order. -/
  sent : List Query

namespace Session

/-- A new session with a provider that has been sent some questions. -/
def start (provider : Provider) (sent : List Query) : Session := ⟨some provider, [], 0, sent⟩

/-- A session without a provider. -/
def offline (sent : List Query) : Session := ⟨none, [], 0, sent⟩

/-- Whether there is a provider to ask. -/
def isAvailable (session : Session) : Bool := session.provider.isSome

/-- What is remembered of an answer. -/
def remembered : Except QueryError Names → Except String Names
  | .ok names => .ok names
  | .error cause => .error cause.message

/-- The answer made from what is remembered. -/
def recalled (query : Query) : Except String Names → Except QueryError Names
  | .ok names => .ok names
  | .error text => .error (.failed query.name text)

/-- The answer to a question, sent to the provider unless the answer is known. -/
def fetch (query : Query) (session : Session) : Except QueryError Names × Session :=
  match session.known.lookup query with
  | some answer => (recalled query answer, session)
  | none =>
    match session.provider with
    | none =>
      (.error (.unavailable ("deep check is disabled, cannot run " ++ query.name)), session)
    | some provider =>
      let answer := provider session.sent query
      (answer, { session with
        known := session.known ++ [(query, remembered answer)]
        roundTrips := session.roundTrips + 1
        sent := session.sent ++ [query] })

/-- The default network of the account, if it has one: the least identifier given. -/
def defaultVpc (session : Session) : Except QueryError (Option String) × Session :=
  match session.fetch .defaultVpc with
  | (.ok names, next) => (.ok names.head?, next)
  | (.error cause, next) => (.error cause, next)

end Session

end InfraLint
