import InfraLint.Proofs.Session
import Mathlib.Data.List.Forall2
import Mathlib.Logic.Function.Basic

/-!
# Sessions that take turns

A session is asked for names and for the default network, any number of times and in any order
(`Session.serve`).  With a steady provider it sends each question once and replies as the provider
would (`Session.hasServed_serve`); without a provider it refuses every request
(`Session.hasRefused_serve`).

Several sessions with one provider may be open at once and take turns (`Sessions.run`).  The provider
has one record of all questions, which every session adds to.  What a session would be if there were
no others is `Sessions.alone`: the session with its own part of the record.  A turn is a request to
the session that takes it, alone, and leaves all others alone as they were (`Sessions.alone_turn`).
So by induction on the turns each session fares as it does with its own requests
(`Sessions.run_alone`), and what is known of one session holds of each.
-/

namespace InfraLint

/-! ## Requests -/

namespace Session

/-- What a session can be asked for. -/
inductive Request where
  /-- The answer to a question. -/
  | names (query : Query)
  /-- The default network of the account. -/
  | network
deriving Repr, DecidableEq

/-- What a request is replied to with. -/
inductive Reply where
  | names (names : Names)
  | network (id : Option String)
deriving Repr, DecidableEq

namespace Request

/-- The question behind a request. -/
def query : Request → Query
  | names query => query
  | network => .defaultVpc

/-- The reply when the question behind a request is answered: the names themselves, or the least of
them, which stands first, as the default network. -/
def reply : Request → Names → Reply
  | names _, found => .names found
  | network, found => .network found.head?

/-- A reply is the one that the provider's own answer leads to: there is one exactly if the provider
answers, and it is made of the same names. -/
def Mirrors (provider : Provider) (request : Request) (reply : Except QueryError Reply) : Prop :=
  reply.toOption = (provider [] request.query).toOption.map request.reply

end Request

/-- Makes a request. -/
def request (session : Session) : Request → Except QueryError Reply × Session
  | .names query => ((session.fetch query).1.map .names, (session.fetch query).2)
  | .network => (session.defaultVpc.1.map .network, session.defaultVpc.2)

/-- Every request fetches the answer to the question behind it. -/
theorem request_eq (session : Session) (request : Request) :
    session.request request =
      ((session.fetch request.query).1.map request.reply, (session.fetch request.query).2) := by
  cases request with
  | names query => rfl
  | network =>
      simp only [Session.request, defaultVpc_eq, Request.query]
      cases (session.fetch .defaultVpc).1 <;> rfl

/-- Makes requests one after the other. -/
def serve (session : Session) : List Request → List (Except QueryError Reply) × Session
  | [] => ([], session)
  | request :: rest =>
    ((session.request request).1 :: ((session.request request).2.serve rest).1,
      ((session.request request).2.serve rest).2)

/-! ## One session -/

/-- What a session with a provider is after requests.  It has sent each question behind them once, at
the first request for it; it has counted these questions and remembers an answer to each; and it has
replied as the provider does. -/
structure HasServed (provider : Provider) (requests : List Request)
    (replies : List (Except QueryError Reply)) (session : Session) : Prop where
  sent : session.sent = (requests.map Request.query).eraseDups
  roundTrips : session.roundTrips = session.sent.length
  known : session.known.map (·.1) = session.sent
  replies : List.Forall₂ (Request.Mirrors provider) requests replies

/-- What a session without a provider is after requests: it has refused all of them, and nothing was
sent, counted or remembered. -/
structure HasRefused (requests : List Request) (replies : List (Except QueryError Reply))
    (session : Session) : Prop where
  sent : session.sent = []
  roundTrips : session.roundTrips = 0
  known : session.known = []
  replies : List.Forall₂ (fun _ reply => ∃ reason, reply = .error (.unavailable reason))
    requests replies

/-- A request takes the session to the one in which its question is needed too. -/
theorem request_having {provider : Provider} (steady : provider.IsSteady) (needed : List Query)
    (request : Request) :
    request.Mirrors provider ((having provider needed).request request).1 ∧
      ((having provider needed).request request).2 =
        having provider (needed ++ [request.query]) := by
  rw [request_eq]
  constructor
  · rw [Request.Mirrors, toOption_map, toOption_fetch_having steady]
  · obtain ⟨answer, asked, -⟩ := fetch_having steady needed request.query
    rw [asked]

theorem serve_having {provider : Provider} (steady : provider.IsSteady) (needed : List Query)
    (requests : List Request) :
    List.Forall₂ (Request.Mirrors provider) requests ((having provider needed).serve requests).1 ∧
      ((having provider needed).serve requests).2 =
        having provider (needed ++ requests.map Request.query) := by
  induction requests generalizing needed with
  | nil =>
      refine ⟨.nil, ?_⟩
      rw [List.map_nil, List.append_nil]
      rfl
  | cons request rest ih =>
      obtain ⟨mirrors, after⟩ := request_having steady needed request
      obtain ⟨others, last⟩ := ih (needed ++ [request.query])
      rw [serve, after]
      refine ⟨.cons mirrors others, ?_⟩
      rw [last, List.map_cons, List.append_assoc, List.singleton_append]

/-- A session with a steady provider serves all requests. -/
theorem hasServed_serve {provider : Provider} (steady : provider.IsSteady)
    (requests : List Request) :
    HasServed provider requests ((start provider []).serve requests).1
      ((start provider []).serve requests).2 := by
  obtain ⟨replies, last⟩ := serve_having steady [] requests
  have fresh : start provider [] = having provider [] := rfl
  rw [fresh, last, List.nil_append]
  refine ⟨rfl, rfl, ?_, replies⟩
  rw [having, List.map_map]
  exact List.map_id' _

/-- A session without a provider stays as it is and refuses all requests. -/
theorem serve_offline (sent : List Query) (requests : List Request) :
    (offline sent).serve requests =
      (requests.map fun request =>
        .error (.unavailable ("deep check is disabled, cannot run " ++ request.query.name)),
        offline sent) := by
  induction requests with
  | nil => rfl
  | cons request rest ih =>
      have refused : (offline sent).request request =
          (.error (.unavailable ("deep check is disabled, cannot run " ++ request.query.name)),
            offline sent) := by
        rw [request_eq]
        rfl
      rw [serve, refused, ih, List.map_cons]

theorem hasRefused_serve (requests : List Request) :
    HasRefused requests ((offline []).serve requests).1 ((offline []).serve requests).2 := by
  rw [serve_offline]
  refine ⟨rfl, rfl, rfl, ?_⟩
  exact List.forall₂_map_right_iff.2 (List.forall₂_same.2 fun request _ => ⟨_, rfl⟩)

/-! ## A session and the record of its provider -/

/-- The session when the record of the provider is another one. -/
def onRecord (session : Session) (sent : List Query) : Session := { session with sent := sent }

@[simp] theorem sent_onRecord (session : Session) (sent : List Query) :
    (session.onRecord sent).sent = sent := rfl

theorem IsSteady.onRecord {session : Session} (steady : session.IsSteady) (sent : List Query) :
    (session.onRecord sent).IsSteady := steady

/-- What a question adds to the record: itself, if there is a provider and the answer is not known. -/
def adds (session : Session) (query : Query) : List Query :=
  if session.isAvailable ∧ session.known.lookup query = none then [query] else []

/-- The record of a steady provider matters neither to the answer nor to what the session is
afterwards; it only grows. -/
theorem fetch_onRecord {session : Session} (steady : session.IsSteady) (sent : List Query)
    (query : Query) :
    (session.onRecord sent).fetch query =
      ((session.fetch query).1, (session.fetch query).2.onRecord (sent ++ session.adds query)) := by
  obtain ⟨provider, known, roundTrips, earlier⟩ := session
  cases found : known.lookup query with
  | some answer => simp [fetch, onRecord, adds, found]
  | none =>
      cases provider with
      | none => simp [fetch, onRecord, adds, found, isAvailable]
      | some provider =>
          have same : provider sent query = provider earlier query := by
            rw [steady provider rfl sent, steady provider rfl earlier]
          simp [fetch, onRecord, adds, found, isAvailable, same]

theorem request_onRecord {session : Session} (steady : session.IsSteady) (sent : List Query)
    (request : Request) :
    (session.onRecord sent).request request =
      ((session.request request).1,
        (session.request request).2.onRecord (sent ++ session.adds request.query)) := by
  rw [request_eq, request_eq, fetch_onRecord steady]

theorem IsSteady.request {session : Session} (steady : session.IsSteady) (request : Request) :
    (session.request request).2.IsSteady := by
  rw [request_eq]
  exact steady.fetch request.query

end Session

/-! ## Sessions side by side -/

/-- The entries of a list that belong to one of several sessions, in order. -/
def partOf {ι α : Type} [DecidableEq ι] (who : ι) (entries : List (ι × α)) : List α :=
  (entries.filter (·.1 = who)).map (·.2)

section

variable {ι α : Type} [DecidableEq ι] {who other : ι}

@[simp] theorem partOf_nil : partOf who ([] : List (ι × α)) = [] := rfl

@[simp] theorem partOf_cons (entry : ι × α) (rest : List (ι × α)) :
    partOf who (entry :: rest) =
      if entry.1 = who then entry.2 :: partOf who rest else partOf who rest := by
  by_cases mine : entry.1 = who <;> simp [partOf, mine]

@[simp] theorem partOf_append (entries others : List (ι × α)) :
    partOf who (entries ++ others) = partOf who entries ++ partOf who others := by
  simp [partOf]

/-- What one session enters belongs to it, and to no other. -/
@[simp] theorem partOf_map_pair (items : List α) :
    partOf who (items.map fun item => (other, item)) = if other = who then items else [] := by
  induction items with
  | nil => simp
  | cons item rest ih => by_cases mine : other = who <;> simp_all

end

/-- Several sessions with one provider. -/
structure Sessions (ι : Type) where
  each : ι → Session
  /-- The questions that the provider has been sent, in order, each with the session that sent it. -/
  record : List (ι × Query)

namespace Sessions

variable {ι : Type}

/-- New sessions, some with the provider and some without. -/
def start (provider : Provider) (online : ι → Bool) : Sessions ι :=
  ⟨fun who => if online who then .start provider [] else .offline [], []⟩

/-- All sessions that have a provider have a steady one. -/
def IsSteady (all : Sessions ι) : Prop := ∀ who, (all.each who).IsSteady

theorem isSteady_start {provider : Provider} (steady : provider.IsSteady) (online : ι → Bool) :
    (start provider online).IsSteady := by
  intro who other given
  simp only [start] at given
  split at given
  · cases given
    exact steady
  · cases given

variable [DecidableEq ι]

/-- One session makes a request, on the record that all sessions have made so far.  What is new on
the record afterwards was sent by this session. -/
def turn (all : Sessions ι) (who : ι) (request : Session.Request) :
    Except QueryError Session.Reply × Sessions ι :=
  let record := all.record.map (·.2)
  let (reply, next) := ((all.each who).onRecord record).request request
  (reply, ⟨Function.update all.each who next,
    all.record ++ (next.sent.drop record.length).map fun query => (who, query)⟩)

/-- Sessions take turns. -/
def run (all : Sessions ι) :
    List (ι × Session.Request) → List (ι × Except QueryError Session.Reply) × Sessions ι
  | [] => ([], all)
  | (who, request) :: rest =>
    ((who, (all.turn who request).1) :: ((all.turn who request).2.run rest).1,
      ((all.turn who request).2.run rest).2)

/-- A session as it would be if there were no others. -/
def alone (all : Sessions ι) (who : ι) : Session :=
  (all.each who).onRecord (partOf who all.record)

/-- What a turn does: only the session that takes it changes, and what it adds to the record is
marked as its own. -/
theorem turn_eq {all : Sessions ι} (steady : all.IsSteady) (who : ι) (request : Session.Request) :
    all.turn who request =
      (((all.each who).request request).1,
        ⟨Function.update all.each who (((all.each who).request request).2.onRecord
          (all.record.map (·.2) ++ (all.each who).adds request.query)),
        all.record ++ ((all.each who).adds request.query).map fun query => (who, query)⟩) := by
  simp only [turn, Session.request_onRecord (steady who), Session.sent_onRecord, List.drop_left]

theorem IsSteady.turn {all : Sessions ι} (steady : all.IsSteady) (who : ι)
    (request : Session.Request) :
    (all.turn who request).2.IsSteady := by
  intro other
  rw [turn_eq steady]
  show (Function.update all.each who _ other).IsSteady
  by_cases same : other = who
  · subst same
    rw [Function.update_self]
    exact ((steady other).request request).onRecord _
  · rw [Function.update_of_ne same]
    exact steady other

/-- A turn seen from each session: the one that takes it replies and goes on as if it were alone, and
every other one stays as it was. -/
theorem alone_turn {all : Sessions ι} (steady : all.IsSteady) (who : ι)
    (request : Session.Request) :
    (all.turn who request).1 = ((all.alone who).request request).1 ∧
      (all.turn who request).2.alone who = ((all.alone who).request request).2 ∧
      ∀ other, other ≠ who → (all.turn who request).2.alone other = all.alone other := by
  rw [turn_eq steady, alone, Session.request_onRecord (steady who)]
  refine ⟨rfl, ?_, fun other apart => ?_⟩
  · simp [alone, Session.onRecord]
  · simp [alone, apart, apart.symm]

/-- Each session fares as it does alone with its own requests. -/
theorem run_alone {all : Sessions ι} (steady : all.IsSteady) (turns : List (ι × Session.Request))
    (who : ι) :
    partOf who (all.run turns).1 = ((all.alone who).serve (partOf who turns)).1 ∧
      (all.run turns).2.alone who = ((all.alone who).serve (partOf who turns)).2 := by
  induction turns generalizing all with
  | nil => exact ⟨rfl, rfl⟩
  | cons turn rest ih =>
      obtain ⟨taker, request⟩ := turn
      obtain ⟨reply, mine, others⟩ := alone_turn steady taker request
      obtain ⟨replies, last⟩ := ih (steady.turn taker request)
      by_cases same : taker = who
      · subst same
        simp [run, Session.serve, replies, last, reply, mine]
      · simp [run, same, replies, last, others who (Ne.symm same)]

/-- Sessions with one steady provider do not get in each other's way, however they take turns.  A
session with the provider has sent each of the questions it was asked once, in the order in which
they were asked first, has counted as many and remembers as many, and has replied to every request as
the provider itself answers.  A session without the provider has refused every request, and has
neither sent nor counted nor remembered anything.  What the other sessions were asked changes nothing
of this: not the replies, not the counters, not the questions sent. -/
theorem run_serves_each_alone {provider : Provider} (steady : provider.IsSteady)
    (online : ι → Bool) (turns : List (ι × Session.Request)) (who : ι) :
    (online who = true →
      Session.HasServed provider (partOf who turns)
        (partOf who ((start provider online).run turns).1)
        (((start provider online).run turns).2.alone who)) ∧
    (online who = false →
      Session.HasRefused (partOf who turns) (partOf who ((start provider online).run turns).1)
        (((start provider online).run turns).2.alone who)) ∧
    ∀ others, partOf who others = partOf who turns →
      partOf who ((start provider online).run others).1 =
        partOf who ((start provider online).run turns).1 ∧
      ((start provider online).run others).2.alone who =
        ((start provider online).run turns).2.alone who := by
  have each (turns : List (ι × Session.Request)) :=
    run_alone (isSteady_start steady online) turns who
  obtain ⟨replies, last⟩ := each turns
  rw [replies, last]
  refine ⟨fun on => ?_, fun off => ?_, fun others same => ?_⟩
  · have fresh : (start provider online).alone who = .start provider [] := by
      simp [alone, start, on, Session.onRecord, Session.start]
    rw [fresh]
    exact Session.hasServed_serve steady _
  · have fresh : (start provider online).alone who = .offline [] := by
      simp [alone, start, off, Session.onRecord, Session.offline]
    rw [fresh]
    exact Session.hasRefused_serve _
  · rw [← same]
    exact each others

/-- A provider that knows its default network and refuses to list subnets. -/
def reluctant : Provider := Canned.provider ⟨[(.defaultVpc, ["vpc-1"])], [(.subnetIds, "denied")]⟩

/-- Turns of three sessions. -/
def threeTurns : List (Nat × Session.Request) :=
  [(0, .network), (1, .names .subnetIds), (2, .network), (0, .names .subnetIds),
    (1, .names .subnetIds), (0, .names .defaultVpc)]

/-- The first two of three sessions have the provider: each of them sends what it needs, and the last
one sends nothing. -/
theorem run_serves_each_alone_threeTurns :
    reluctant.IsSteady ∧
    ((start reluctant (decide <| · < 2)).run threeTurns).2.record =
      [(0, .defaultVpc), (1, .subnetIds), (0, .subnetIds)] ∧
    Session.HasServed reluctant [.network, .names .subnetIds, .names .defaultVpc]
      (partOf 0 ((start reluctant (decide <| · < 2)).run threeTurns).1)
      (((start reluctant (decide <| · < 2)).run threeTurns).2.alone 0) ∧
    Session.HasRefused [.network]
      (partOf 2 ((start reluctant (decide <| · < 2)).run threeTurns).1)
      (((start reluctant (decide <| · < 2)).run threeTurns).2.alone 2) := by
  have steady : reluctant.IsSteady := fun _ _ => rfl
  have each := run_serves_each_alone steady (decide <| · < 2) threeTurns
  exact ⟨steady, by decide, (each 0).1 rfl, (each 2).2.1 rfl⟩

end Sessions

end InfraLint
