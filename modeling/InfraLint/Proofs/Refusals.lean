import InfraLint.Proofs.Isolation
import InfraLint.Proofs.Questions
import InfraLint.Proofs.Requests

/-!
# What becomes of a refusal

A session remembers a refusal by its text, and when the question comes again it gives a refusal that
quotes this text.  So the first refusal of a question is the one of the provider, and all later ones
are alike: they say that the question failed, and name the first text as the reason
(`Session.fetch_serve_of_refused`).  No later text is the first one, since it is longer.

Rules of a module that ask the same question first share one answer (`Lint.shared_of_runRules`).  Either
all of them complete, or all of them fail: the first with the text of the provider's refusal, and the
others with the text that quotes it.
-/

namespace InfraLint

/-! ## Remembered answers -/

namespace Session

variable {session next : Session} {query other : Query}

theorem fetch_of_known {answer : Except String Names}
    (known : session.known.lookup query = some answer) :
    session.fetch query = (recalled query answer, session) := by
  simp only [fetch, known]

theorem fetch_of_fresh {provider : Provider} (given : session.provider = some provider)
    (fresh : session.known.lookup query = none) :
    session.fetch query = (provider session.sent query,
      { session with
        known := session.known ++ [(query, remembered (provider session.sent query))]
        roundTrips := session.roundTrips + 1
        sent := session.sent ++ [query] }) := by
  simp only [fetch, fresh, given]

theorem fetch_of_unavailable (absent : session.provider = none)
    (fresh : session.known.lookup query = none) :
    session.fetch query =
      (.error (.unavailable ("deep check is disabled, cannot run " ++ query.name)), session) := by
  simp only [fetch, fresh, absent]

/-- What is remembered of other questions stays when a question is asked. -/
theorem lookup_fetch_of_ne (apart : query ≠ other) :
    (session.fetch other).2.known.lookup query = session.known.lookup query := by
  cases found : session.known.lookup other with
  | some answer => rw [fetch_of_known found]
  | none =>
      cases given : session.provider with
      | none => rw [fetch_of_unavailable given found]
      | some provider =>
          have unlike : (query == other) = false := beq_false_of_ne apart
          simp [fetch_of_fresh given found, List.lookup_append, List.lookup_cons, unlike]

/-- What is remembered stays whatever is asked. -/
theorem lookup_fetch_of_known {answer : Except String Names}
    (known : session.known.lookup query = some answer) (other : Query) :
    (session.fetch other).2.known.lookup query = some answer := by
  by_cases same : query = other
  · subst same
    rw [fetch_of_known known]
    exact known
  · rw [lookup_fetch_of_ne same, known]

/-- An answer of the provider is remembered. -/
theorem lookup_fetch_of_fresh {provider : Provider} (given : session.provider = some provider)
    (fresh : session.known.lookup query = none) :
    (session.fetch query).2.known.lookup query =
      some (remembered (provider session.sent query)) := by
  simp [fetch_of_fresh given fresh, List.lookup_append, fresh]

theorem lookup_serve_of_known {answer : Except String Names}
    (known : session.known.lookup query = some answer) (requests : List Request) :
    (session.serve requests).2.known.lookup query = some answer := by
  induction requests generalizing session with
  | nil => exact known
  | cons request rest ih =>
      rw [serve, request_eq]
      exact ih (lookup_fetch_of_known known request.query)

/-- A session without a provider is not changed by requests. -/
theorem serve_of_unavailable (absent : session.provider = none) (requests : List Request) :
    (session.serve requests).2 = session := by
  induction requests with
  | nil => rfl
  | cons request rest ih =>
      have same : (session.fetch request.query).2 = session := by
        cases found : session.known.lookup request.query with
        | some answer => rw [fetch_of_known found]
        | none => rw [fetch_of_unavailable absent found]
      rw [serve, request_eq, same, ih]

/-- After a refusal by the provider, and after any requests in between, the question is refused with
a text that quotes the first one, and nothing is sent. -/
theorem fetch_serve_of_refused {cause : QueryError} (available : session.isAvailable = true)
    (fresh : session.known.lookup query = none)
    (refused : session.fetch query = (.error cause, next)) (between : List Request) :
    (next.serve between).2.fetch query =
      (.error (.failed query.name cause.message), (next.serve between).2) := by
  obtain ⟨provider, given⟩ := Option.isSome_iff_exists.1 available
  have answer : provider session.sent query = .error cause := by
    rw [fetch_of_fresh given fresh] at refused
    exact congrArg Prod.fst refused
  have known := lookup_fetch_of_fresh given fresh
  rw [refused, answer] at known
  exact fetch_of_known (lookup_serve_of_known known between)

/-- A refusal is quoted ever after, except that a session without a provider always refuses in the
same words. -/
theorem fetch_serve_of_error {cause : QueryError} (fresh : session.known.lookup query = none)
    (refused : session.fetch query = (.error cause, next)) (between : List Request) :
    (next.serve between).2.fetch query =
      (.error (if session.isAvailable then .failed query.name cause.message else cause),
        (next.serve between).2) := by
  cases available : session.isAvailable with
  | true => exact fetch_serve_of_refused available fresh refused between
  | false =>
      have absent : session.provider = none := by simpa [isAvailable] using available
      have same : next = session := by
        rw [fetch_of_unavailable absent fresh] at refused
        exact (congrArg Prod.snd refused).symm
      rw [same, serve_of_unavailable absent, refused, same]
      rfl

end Session

theorem QueryError.message_failed (query text : String) :
    (QueryError.failed query text).message = "Query " ++ query ++ " failed: " ++ text := rfl

/-- A text that quotes another one is not that one. -/
theorem QueryError.message_failed_ne (query text : String) :
    (QueryError.failed query text).message ≠ text := by
  intro same
  have long := congrArg String.toList same
  rw [message_failed, String.toList_append, List.append_left_eq_self] at long
  simp at long

/-! ## The first question of a check -/

namespace Check

variable {check : Check} {session next : Session} {query : Query}

/-- The question that a check asks first.  If it is refused, the check cannot prepare. -/
def firstQuery? : Check → Option Query
  | reference query _ _ | unique query _ _ => some query
  | _ => none

theorem prepare_of_refused {cause : QueryError} (asks : check.firstQuery? = some query)
    (refused : session.fetch query = (.error cause, next)) :
    check.prepare session = (.error cause, next) := by
  cases check with
  | reference other shape noun =>
      cases asks
      rw [prepare_reference, refused]
      rfl
  | unique other noun within =>
      cases asks
      cases within with
      | none =>
          rw [prepare_unique, refused]
          rfl
      | some attr => exact prepare_within_of_error refused noun attr
  | _ => cases asks

/-- A check that gets an answer to its first question can prepare, and what is remembered of that
question stays. -/
theorem prepare_of_answered {names : Names} (asks : check.firstQuery? = some query)
    (answered : session.fetch query = (.ok names, next)) :
    ∃ facts last, check.prepare session = (.ok facts, last) ∧
      ∀ answer, next.known.lookup query = some answer →
        last.known.lookup query = some answer := by
  cases check with
  | reference other shape noun =>
      cases asks
      rw [prepare_reference, answered]
      exact ⟨_, next, rfl, fun _ known => known⟩
  | unique other noun within =>
      cases asks
      cases within with
      | none =>
          rw [prepare_unique, answered]
          exact ⟨_, next, rfl, fun _ known => known⟩
      | some attr =>
          refine ⟨_, _, prepare_within_of_ok answered noun attr, fun answer known => ?_⟩
          rw [Session.defaultVpc_eq]
          exact Session.lookup_fetch_of_known known .defaultVpc
  | _ => cases asks

/-- A check that does not ask a question first leaves alone what is remembered of it; only the
default network can be asked for later. -/
theorem lookup_prepare_of_ne (apart : check.firstQuery? ≠ some query)
    (named : query ≠ .defaultVpc) :
    (check.prepare session).2.known.lookup query = session.known.lookup query := by
  have unlike {other : Query} (first : check.firstQuery? = some other) : query ≠ other := by
    rintro rfl
    exact apart first
  cases check with
  | reference other shape noun =>
      rw [prepare_reference]
      exact Session.lookup_fetch_of_ne (unlike rfl)
  | unique other noun within =>
      have kept : (session.fetch other).2.known.lookup query = session.known.lookup query :=
        Session.lookup_fetch_of_ne (unlike rfl)
      cases within with
      | none =>
          rw [prepare_unique]
          exact kept
      | some attr =>
          rcases asked : session.fetch other with ⟨cause | known, next⟩
          · rw [prepare_within_of_error asked]
            rwa [asked] at kept
          · rw [prepare_within_of_ok asked, Session.defaultVpc_eq]
            rw [asked] at kept
            rw [Session.lookup_fetch_of_ne named, kept]
  | _ => rfl

theorem needsProvider_of_firstQuery? (asks : check.firstQuery? = some query) :
    check.needsProvider = true := by
  cases check with
  | reference => rfl
  | unique => rfl
  | _ => cases asks

end Check

/-! ## Rules that share a question -/

namespace Lint

variable {lint : Lint} {module : Module} {query : Query}

/-- Whether a rule runs in a module and asks a question first. -/
def asksFirst (lint : Lint) (module : Module) (query : Query) (rule : Rule) : Bool :=
  lint.runsIn module rule && rule.check.firstQuery? == some query

/-- The outcomes of the rules that run in a module and ask a question first, in order. -/
def outcomesOn (lint : Lint) (module : Module) (query : Query) (rules : List Rule)
    (outcomes : List RuleReport) : List Outcome :=
  ((rules.zip outcomes).filter fun pair => lint.asksFirst module query pair.1).map (·.2.outcome)

theorem outcomesOn_cons (rule : Rule) (rules : List Rule) (done : RuleReport)
    (outcomes : List RuleReport) :
    lint.outcomesOn module query (rule :: rules) (done :: outcomes) =
      (if lint.asksFirst module query rule then [done.outcome] else []) ++
        lint.outcomesOn module query rules outcomes := by
  cases asks : lint.asksFirst module query rule <;> simp [outcomesOn, asks]

/-- The outcome of a rule whose first question is refused. -/
def refusedWith (cause : QueryError) : Outcome := .failed (RunError.provider cause).message

theorem isDeep_of_asksFirst {rule : Rule} (asks : lint.asksFirst module query rule = true) :
    lint.isDeep = true := by
  obtain ⟨runs, first⟩ := Bool.and_eq_true_iff.1 asks
  cases deep : lint.isDeep with
  | true => rfl
  | false =>
      have quiet := not_needsProvider_of_runsIn deep runs
      rw [Check.needsProvider_of_firstQuery? (eq_of_beq first)] at quiet
      cases quiet

/-- A rule that does not ask a question first, or does not run, leaves alone what is remembered of
it. -/
theorem Ends.lookup_of_idle {rule : Rule} {session next : Session}
    {result : Except LintError (Outcome × List Issue)} (named : query ≠ .defaultVpc)
    (available : session.isAvailable = lint.isDeep)
    (ends : lint.Ends module rule session result next)
    (idle : lint.asksFirst module query rule = false) :
    next.known.lookup query = session.known.lookup query := by
  -- a rule that prepares runs, so it does not ask the question first
  have ran {learnt : Except QueryError Facts} {next : Session}
      (skip : lint.skipReason? module session.isAvailable rule = none)
      (prepared : rule.check.prepare session = (learnt, next)) :
      next.known.lookup query = session.known.lookup query := by
    rw [available, skipReason?_eq_none_iff] at skip
    have apart : rule.check.firstQuery? ≠ some query := by
      simpa [asksFirst, skip] using idle
    have last : next = (rule.check.prepare session).2 := by rw [prepared]
    rw [last, Check.lookup_prepare_of_ne apart named]
  cases ends with
  | skipped _ => rfl
  | failed skip prepared => exact ran skip prepared
  | stopped skip prepared _ => exact ran skip prepared
  | completed skip prepared _ => exact ran skip prepared

/-- A rule that asks a question first ends as the answer that it gets lets it end. -/
theorem Ends.of_asksFirst {rule : Rule} {session next : Session} {outcome : Outcome}
    {issues : List Issue} (available : session.isAvailable = lint.isDeep)
    (ends : lint.Ends module rule session (.ok (outcome, issues)) next)
    (asks : lint.asksFirst module query rule = true) :
    (∃ cause, session.fetch query = (.error cause, next) ∧ outcome = refusedWith cause) ∨
      ∃ names last, session.fetch query = (.ok names, last) ∧
        (∃ count, outcome = .completed count) ∧
        ∀ answer, last.known.lookup query = some answer →
          next.known.lookup query = some answer := by
  obtain ⟨runs, first⟩ := Bool.and_eq_true_iff.1 asks
  have first := eq_of_beq first
  cases ends with
  | skipped skip =>
      rw [available, skipReason?_eq_none_iff.2 runs] at skip
      cases skip
  | failed _ prepared =>
      rcases asked : session.fetch query with ⟨cause | names, last⟩
      · rw [Check.prepare_of_refused first asked] at prepared
        cases prepared
        exact .inl ⟨_, rfl, rfl⟩
      · obtain ⟨facts, after, prepared', -⟩ := Check.prepare_of_answered first asked
        rw [prepared'] at prepared
        cases prepared
  | completed _ prepared _ =>
      rcases asked : session.fetch query with ⟨cause | names, last⟩
      · rw [Check.prepare_of_refused first asked] at prepared
        cases prepared
      · obtain ⟨facts, after, prepared', kept⟩ := Check.prepare_of_answered first asked
        rw [prepared'] at prepared
        cases prepared
        exact .inr ⟨names, last, rfl, ⟨_, rfl⟩, kept⟩

/-- How a rule ends that asks a question first, by what is remembered of the answer. -/
def EndsBy (query : Query) : Except String Names → Outcome → Prop
  | .error text, outcome => outcome = refusedWith (.failed query.name text)
  | .ok _, outcome => ∃ count, outcome = .completed count

/-- A rule that asks a question first whose answer is remembered ends by it, and it stays
remembered. -/
theorem Ends.endsBy_of_known {rule : Rule} {session next : Session} {outcome : Outcome}
    {issues : List Issue} {answer : Except String Names}
    (available : session.isAvailable = lint.isDeep)
    (ends : lint.Ends module rule session (.ok (outcome, issues)) next)
    (asks : lint.asksFirst module query rule = true)
    (known : session.known.lookup query = some answer) :
    EndsBy query answer outcome ∧ next.known.lookup query = some answer := by
  have asked := Session.fetch_of_known known
  rcases ends.of_asksFirst available asks with
    ⟨cause, refused, rfl⟩ | ⟨names, last, answered, completed, kept⟩
  · rw [asked, Prod.mk.injEq] at refused
    obtain ⟨recalled, rfl⟩ := refused
    cases answer with
    | ok names => cases recalled
    | error text =>
        cases recalled
        exact ⟨rfl, known⟩
  · rw [asked, Prod.mk.injEq] at answered
    obtain ⟨recalled, rfl⟩ := answered
    cases answer with
    | error text => cases recalled
    | ok found => exact ⟨completed, kept _ known⟩

/-- Once the answer to a question is remembered, all rules that ask it first end by it. -/
theorem endsBy_of_known (named : query ≠ .defaultVpc) {answer : Except String Names}
    {rules : List Rule} {session last : Session} {reports : List (RuleReport × List Issue)}
    (available : session.isAvailable = lint.isDeep)
    (known : session.known.lookup query = some answer)
    (ran : lint.runRules module rules session = (.ok reports, last)) :
    ∀ outcome ∈ lint.outcomesOn module query rules (reports.map (·.1)),
      EndsBy query answer outcome := by
  induction rules generalizing session reports with
  | nil => simp [outcomesOn]
  | cons rule rest ih =>
      obtain ⟨outcome, issues, next, others, first, rests, rfl⟩ := runRules_cons_ok_iff.1 ran
      have ends := Ends.of_runRule first
      have available' := ends.isAvailable_eq.trans available
      rw [List.map_cons, outcomesOn_cons]
      cases asks : lint.asksFirst module query rule with
      | false =>
          have kept := ends.lookup_of_idle named available asks
          simpa using ih available' (kept.trans known) rests
      | true =>
          obtain ⟨endsBy, kept⟩ := ends.endsBy_of_known available asks known
          rw [if_pos rfl, List.singleton_append]
          exact List.forall_mem_cons.2 ⟨endsBy, ih available' kept rests⟩

/-- The outcomes of rules that share their first question: all of them complete, or the question is
refused.  Then the first of them fails with the text of the provider's refusal, and the others with a
text that quotes it. -/
inductive Shared (lint : Lint) (query : Query) : List Outcome → Prop where
  | answered {outcomes : List Outcome} :
      (∀ outcome ∈ outcomes, ∃ count, outcome = .completed count) → Shared lint query outcomes
  | refused {provider : Provider} {earlier : List Query} {cause : QueryError}
      {others : List Outcome} :
      lint.provider = some provider → provider earlier query = .error cause →
      (∀ outcome ∈ others, outcome =
        .failed ("Oracle error: " ++ ("Query " ++ query.name ++ " failed: " ++ cause.message))) →
      Shared lint query (.failed ("Oracle error: " ++ cause.message) :: others)

/-- The rules that ask a question first share its answer: the first of them makes the session
remember it, and the others end by what is remembered. -/
theorem shared_of_runRules (named : query ≠ .defaultVpc) {rules : List Rule}
    {session last : Session} {reports : List (RuleReport × List Issue)}
    (available : session.isAvailable = lint.isDeep)
    (given : ∀ provider ∈ session.provider, lint.provider = some provider)
    (fresh : session.known.lookup query = none)
    (ran : lint.runRules module rules session = (.ok reports, last)) :
    lint.Shared query (lint.outcomesOn module query rules (reports.map (·.1))) := by
  induction rules generalizing session reports with
  | nil => exact .answered (by simp [outcomesOn])
  | cons rule rest ih =>
      obtain ⟨outcome, issues, next, others, first, rests, rfl⟩ := runRules_cons_ok_iff.1 ran
      have ends := Ends.of_runRule first
      have available' := ends.isAvailable_eq.trans available
      rw [List.map_cons, outcomesOn_cons]
      cases asks : lint.asksFirst module query rule with
      | false =>
          have kept := ends.lookup_of_idle named available asks
          simpa using ih available' (ends.provider_eq ▸ given) (kept.trans fresh) rests
      | true =>
          rw [if_pos rfl, List.singleton_append]
          obtain ⟨provider, there⟩ :=
            Option.isSome_iff_exists.1 (available.trans (isDeep_of_asksFirst asks))
          have asked := Session.fetch_of_fresh there fresh
          have known := Session.lookup_fetch_of_fresh there fresh
          rcases ends.of_asksFirst available asks with
            ⟨cause, refused, rfl⟩ | ⟨names, held, answered, completed, kept⟩
          · have answer : provider session.sent query = .error cause := by
              rw [asked] at refused
              exact congrArg Prod.fst refused
            rw [refused, answer] at known
            exact .refused (given provider there) answer
              (endsBy_of_known named available' known rests)
          · have answer : provider session.sent query = .ok names := by
              rw [asked] at answered
              exact congrArg Prod.fst answered
            rw [answered, answer] at known
            exact .answered (List.forall_mem_cons.2 ⟨completed,
              endsBy_of_known named available' (kept _ known) rests⟩)

theorem known_session (sent : List Query) : (lint.session sent).known = [] := by
  unfold Lint.session
  cases lint.provider <;> cases lint.settings.deepCheck <;> rfl

/-- No rule of the catalogue asks for the default network first. -/
theorem firstQuery?_ne_defaultVpc {rule : Rule} (member : rule ∈ Rule.catalogue) :
    rule.check.firstQuery? ≠ some .defaultVpc := by
  have every : ∀ rule ∈ Rule.catalogue, rule.check.firstQuery? ≠ some .defaultVpc := by decide
  exact every rule member

/-- Only the first refusal of a question has the text of the provider: whenever the session is asked
again it refuses by quoting that text, which is then never the same.  So of the rules of a module
that ask one question first, either all complete, or the first fails with the text of the refusal
and the others with the text that quotes it.  No rule of the catalogue asks for the default network
first. -/
theorem runModule_quotes_refusal {sent last : List Query} {report : ModuleReport}
    (checked : lint.runModule module sent = (.ok report, last)) :
    (∀ (session next : Session) (query : Query) (cause : QueryError)
        (between : List Session.Request),
      session.known.lookup query = none → session.fetch query = (.error cause, next) →
      (next.serve between).2.fetch query =
        (.error (if session.isAvailable then .failed query.name cause.message else cause),
          (next.serve between).2) ∧
      (QueryError.failed query.name cause.message).message ≠ cause.message) ∧
    (∀ query, query ≠ .defaultVpc →
      lint.Shared query (lint.outcomesOn module query lint.registry.rules report.outcomes)) ∧
    ∀ rule ∈ Rule.catalogue, rule.check.firstQuery? ≠ some .defaultVpc := by
  refine ⟨?_, ?_, fun rule => firstQuery?_ne_defaultVpc⟩
  · intro session next query cause between fresh refused
    exact ⟨Session.fetch_serve_of_error fresh refused between, QueryError.message_failed_ne _ _⟩
  · intro query named
    obtain ⟨reports, session, ran, rfl, rfl⟩ := runModule_ok_iff.1 checked
    have fresh : (lint.session sent).known.lookup query = none := by rw [known_session]; rfl
    exact shared_of_runRules named (isAvailable_session sent)
      (fun _ => lint.provider_of_session) fresh ran

/-- Two rules that ask for the machine images. -/
def imageRules : List Rule :=
  [.reference "aws_launch_configuration_invalid_image_id" "aws_launch_configuration" "image_id"
      .imageIds .scalar "AMI ID",
    .reference "aws_instance_invalid_ami" "aws_instance" "ami" .imageIds .scalar "AMI ID"]

/-- Two rules meet one refusal, and fail with different texts. -/
theorem runModule_quotes_refusal_images :
    ∃ report, (refused imageRules).runModule imageModule [] = (.ok report, [.imageIds]) ∧
      (refused imageRules).outcomesOn imageModule .imageIds imageRules report.outcomes =
        [.failed "Oracle error: Query image_ids failed: denied",
          .failed "Oracle error: Query image_ids failed: Query image_ids failed: denied"] ∧
      (refused imageRules).Shared .imageIds
        ((refused imageRules).outcomesOn imageModule .imageIds imageRules report.outcomes) := by
  refine ⟨_, rfl, by decide, ?_⟩
  have checked : (refused imageRules).runModule imageModule [] = (.ok _, _) := rfl
  exact (runModule_quotes_refusal checked).2.1 .imageIds (by decide)

/-- The text of a refusal does not stay what it was. -/
theorem not_forall_refusal_repeated :
    ¬ ∀ (provider : Provider) (query : Query) (first second : QueryError) (next last : Session),
      (Session.start provider []).fetch query = (.error first, next) →
      next.fetch query = (.error second, last) → second.message = first.message := by
  intro repeated
  have same := repeated Sessions.reluctant .subnetIds _ _ _ _ rfl rfl
  exact QueryError.message_failed_ne _ _ same

end Lint

end InfraLint
