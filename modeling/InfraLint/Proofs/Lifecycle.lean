import InfraLint.Rule.Run

/-!
# The life of a run

The steps of a run can be asked for in any order and any number of times, and each attempt succeeds,
fails or is refused.  `RuleRun.Takes` lists all that an attempt can do.  From it follows what holds of
any sequence of attempts on a new run (`RuleRun.Orderly`): the successful ones are the three steps in
their order, up to where the run got; the session is used by the first attempt to prepare and by no
other; only the successful detection reports; what is refused changes nothing; and a run that is done,
also because it could not prepare, stays as it is.
-/

namespace InfraLint

namespace RuleRun

/-! ## Attempts -/

/-- What can be asked of a run. -/
inductive Step where
  | prepare
  | detect (module : Module) (state : Snapshot)
  | finish

namespace Step

/-- The phase in which a step can be taken. -/
def source : Step → Phase
  | prepare => .unstarted
  | detect _ _ => .prepared
  | finish => .detected

/-- The phase that a step leads to. -/
def target : Step → Phase
  | prepare => .prepared
  | detect _ _ => .detected
  | finish => .done

theorem done_ne_source (step : Step) : .done ≠ step.source := by
  cases step <;> nofun

end Step

/-- A run and the session in which it prepares. -/
structure Live where
  run : RuleRun
  session : Session

/-- Asks for a step. -/
def Live.ask (now : Live) : Step → Except RunError Unit × Live
  | .prepare =>
    let (result, run, session) := now.run.prepare now.session
    (result, ⟨run, session⟩)
  | .detect module state =>
    let (result, run) := now.run.detect module state
    (result, { now with run := run })
  | .finish =>
    let (result, run) := now.run.finish
    (result, { now with run := run })

/-- A step that was asked for: what there was before, how it went, and what there is after. -/
structure Attempt where
  step : Step
  before : Live
  result : Except RunError Unit
  after : Live

namespace Attempt

/-- The attempt to take a step. -/
def make (step : Step) (now : Live) : Attempt := ⟨step, now, (now.ask step).1, (now.ask step).2⟩

/-- Whether the step was taken. -/
def succeeded (attempt : Attempt) : Bool := attempt.result.isOk

end Attempt

/-- The attempts to take steps one after the other. -/
def attempts : List Step → Live → List Attempt
  | [], _ => []
  | step :: rest, now => .make step now :: attempts rest (Attempt.make step now).after

/-! ## What an attempt can do -/

variable {now after : Live} {step : Step} {steps : List Step} {result : Except RunError Unit}

/-- All that can become of an attempt. -/
inductive Takes (now : Live) : Step → Except RunError Unit → Live → Prop where
  /-- The step is not the next one. -/
  | refused {step : Step} : now.run.phase ≠ step.source →
      Takes now step (.error (.order now.run.rule.name now.run.phase step.target)) now
  | prepared {facts : Facts} {session : Session} : now.run.phase = .unstarted →
      now.run.rule.check.prepare now.session = (.ok facts, session) →
      Takes now .prepare (.ok ()) ⟨{ now.run with phase := .prepared, facts := facts }, session⟩
  /-- The provider refuses what the rule needs. -/
  | failed {cause : QueryError} {session : Session} : now.run.phase = .unstarted →
      now.run.rule.check.prepare now.session = (.error cause, session) →
      Takes now .prepare (.error (.provider cause)) ⟨{ now.run with phase := .done }, session⟩
  | detected {module : Module} {state : Snapshot} : now.run.phase = .prepared →
      Takes now (.detect module state) (.ok ()) ⟨{ now.run with
        phase := .detected
        findings := now.run.findings ++ now.run.rule.findings now.run.facts module state },
        now.session⟩
  | finished : now.run.phase = .detected →
      Takes now .finish (.ok ()) ⟨{ now.run with phase := .done }, now.session⟩

theorem ask_of_early (early : now.run.phase ≠ step.source) :
    now.ask step = (.error (.order now.run.rule.name now.run.phase step.target), now) := by
  cases step with
  | prepare =>
      simp only [Live.ask, prepare, if_neg (show now.run.phase ≠ .unstarted from early)]
      rfl
  | detect module state =>
      simp only [Live.ask, detect, if_neg (show now.run.phase ≠ .prepared from early)]
      rfl
  | finish =>
      simp only [Live.ask, finish, if_neg (show now.run.phase ≠ .detected from early)]
      rfl

theorem takes_ask (now : Live) (step : Step) : Takes now step (now.ask step).1 (now.ask step).2 := by
  by_cases due : now.run.phase = step.source
  · cases step with
    | prepare =>
        rcases learnt : now.run.rule.check.prepare now.session with ⟨cause | facts, session⟩
        · simpa [Live.ask, prepare, due, Step.source, learnt] using Takes.failed due learnt
        · simpa [Live.ask, prepare, due, Step.source, learnt] using Takes.prepared due learnt
    | detect module state =>
        simpa [Live.ask, detect, due, Step.source] using Takes.detected due
    | finish => simpa [Live.ask, finish, due, Step.source] using Takes.finished due
  · rw [ask_of_early due]
    exact .refused due

namespace Takes

/-- Exactly the steps that are not the next one are refused. -/
theorem refused_iff (takes : Takes now step result after) :
    result = .error (.order now.run.rule.name now.run.phase step.target) ↔
      now.run.phase ≠ step.source := by
  cases takes with
  | refused early => simp [early]
  | prepared due _ => simp [due, Step.source]
  | failed due _ => simp [due, Step.source]
  | detected due => simp [due, Step.source]
  | finished due => simp [due, Step.source]

/-- What is refused changes nothing. -/
theorem eq_of_early (takes : Takes now step result after) (early : now.run.phase ≠ step.source) :
    after = now := by
  cases takes with
  | refused _ => rfl
  | prepared due _ => exact absurd due early
  | failed due _ => exact absurd due early
  | detected due => exact absurd due early
  | finished due => exact absurd due early

theorem phase_of_ok (takes : Takes now step (.ok ()) after) :
    now.run.phase = step.source ∧ after.run.phase = step.target := by
  cases takes with
  | prepared due _ => exact ⟨due, rfl⟩
  | detected due => exact ⟨due, rfl⟩
  | finished due => exact ⟨due, rfl⟩

theorem rule_eq (takes : Takes now step result after) : after.run.rule = now.run.rule := by
  cases takes <;> rfl

/-- Only a run that prepares uses the session. -/
theorem prepares_of_session_ne (takes : Takes now step result after)
    (used : after.session ≠ now.session) : step = .prepare ∧ now.run.phase = .unstarted := by
  cases takes with
  | prepared due _ => exact ⟨rfl, due⟩
  | failed due _ => exact ⟨rfl, due⟩
  | refused _ => exact absurd rfl used
  | detected _ => exact absurd rfl used
  | finished _ => exact absurd rfl used

/-- A run starts once. -/
theorem started (takes : Takes now step result after) (moved : now.run.phase ≠ .unstarted) :
    after.run.phase ≠ .unstarted := by
  cases takes with
  | refused _ => exact moved
  | prepared _ _ => nofun
  | failed _ _ => nofun
  | detected _ => nofun
  | finished _ => nofun

/-- An attempt to prepare starts a run. -/
theorem started_of_prepare (takes : Takes now .prepare result after) :
    after.run.phase ≠ .unstarted := by
  cases takes with
  | refused early => exact early
  | prepared _ _ => nofun
  | failed _ _ => nofun

/-- A run that is done stays as it is. -/
theorem eq_of_done (takes : Takes now step result after) (done : now.run.phase = .done) :
    after = now := by
  apply takes.eq_of_early
  rw [done]
  exact step.done_ne_source

end Takes

/-! ## Sequences of attempts -/

/-- What every step preserves holds before all attempts. -/
theorem forall_attempts {P : Live → Prop}
    (kept : ∀ {now step result after}, Takes now step result after → P now → P after)
    (holds : P now) :
    ∀ attempt ∈ attempts steps now, P attempt.before ∧
      Takes attempt.before attempt.step attempt.result attempt.after := by
  induction steps generalizing now with
  | nil => simp [attempts]
  | cons step rest ih =>
      have takes := takes_ask now step
      exact List.forall_mem_cons.2 ⟨⟨holds, takes⟩, ih (kept takes holds)⟩

theorem pairwise_attempts {R : Attempt → Attempt → Prop}
    (each : ∀ now step rest, ∀ second ∈ attempts rest (Attempt.make step now).after,
      R (.make step now) second) : (attempts steps now).Pairwise R := by
  induction steps generalizing now with
  | nil => exact .nil
  | cons step rest ih => exact .cons (each now step rest) ih

/-- The phases that are still ahead. -/
def ahead : Phase → List Phase
  | .unstarted => [.prepared, .detected, .done]
  | .prepared => [.detected, .done]
  | .detected => [.done]
  | .done => []

theorem ahead_of_ok (takes : Takes now step (.ok ()) after) :
    ahead now.run.phase = step.target :: ahead after.run.phase := by
  obtain ⟨due, reached⟩ := takes.phase_of_ok
  rw [due, reached]
  cases step <;> rfl

/-- A run that does not take a step has no more ahead of it than before. -/
theorem ahead_of_error {cause : RunError} (takes : Takes now step (.error cause) after) :
    ahead after.run.phase <+: ahead now.run.phase := by
  cases takes with
  | refused _ => exact List.prefix_rfl
  | failed _ _ => exact List.nil_prefix

/-- The successful attempts lead through the phases that are ahead, in order, until they stop. -/
theorem targets_attempts_prefix (steps : List Step) (now : Live) :
    ((attempts steps now).filter (·.succeeded)).map (·.step.target) <+: ahead now.run.phase := by
  induction steps generalizing now with
  | nil => exact List.nil_prefix
  | cons step rest ih =>
      have below := ih (now.ask step).2
      have takes := takes_ask now step
      rcases asked : now.ask step with ⟨cause | _, after⟩
      · rw [asked] at below takes
        simpa [attempts, Attempt.make, Attempt.succeeded, asked, Except.isOk, Except.toBool]
          using below.trans (ahead_of_error takes)
      · rw [asked] at below takes
        simpa [attempts, Attempt.make, Attempt.succeeded, asked, Except.isOk, Except.toBool,
          ahead_of_ok takes] using below

/-- A run of a rule that reports nothing before it detects. -/
structure Quiet (rule : Rule) (now : Live) : Prop where
  rule_eq : now.run.rule = rule
  findings_eq : now.run.phase = .unstarted ∨ now.run.phase = .prepared → now.run.findings = []

theorem quiet_start (rule : Rule) (session : Session) : Quiet rule ⟨start rule, session⟩ :=
  ⟨rfl, fun _ => rfl⟩

theorem Quiet.takes {rule : Rule} (quiet : Quiet rule now)
    (takes : Takes now step result after) : Quiet rule after := by
  refine ⟨takes.rule_eq.trans quiet.rule_eq, ?_⟩
  cases takes with
  | refused _ => exact quiet.findings_eq
  | prepared due _ => exact fun _ => quiet.findings_eq (.inl due)
  | failed _ _ => nofun
  | detected _ => nofun
  | finished _ => nofun

/-- A run that reports takes the step to detect, for the first time. -/
theorem Quiet.detects {rule : Rule} (quiet : Quiet rule now)
    (takes : Takes now step result after) (reported : after.run.findings ≠ now.run.findings) :
    ∃ module state, step = .detect module state ∧ result = .ok () ∧ now.run.findings = [] ∧
      after.run.findings = rule.findings now.run.facts module state := by
  cases takes with
  | @detected module state due =>
      have none := quiet.findings_eq (.inr due)
      refine ⟨module, state, rfl, rfl, none, ?_⟩
      simp only [none, quiet.rule_eq, List.nil_append]
  | refused _ => exact absurd rfl reported
  | prepared _ _ => exact absurd rfl reported
  | failed _ _ => exact absurd rfl reported
  | finished _ => exact absurd rfl reported

theorem Quiet.fails {rule : Rule} {cause : QueryError} (quiet : Quiet rule now)
    (takes : Takes now step (.error (.provider cause)) after) :
    step = .prepare ∧ after.run.phase = .done ∧ after.run.findings = [] := by
  cases takes with
  | failed due _ => exact ⟨rfl, rfl, quiet.findings_eq (.inl due)⟩

/-- Attempts that use the session come before all other attempts to prepare. -/
theorem pairwise_usesFirst (steps : List Step) (now : Live) :
    (attempts steps now).Pairwise fun first second =>
      second.after.session ≠ second.before.session → first.step ≠ .prepare := by
  apply pairwise_attempts
  rintro now step rest second member used rfl
  have moved : (Attempt.make .prepare now).after.run.phase ≠ .unstarted :=
    (takes_ask now .prepare).started_of_prepare
  obtain ⟨started, takes⟩ := forall_attempts Takes.started moved second member
  exact started (takes.prepares_of_session_ne used).2

/-- Attempts on a run that is done find it and leave it as it was. -/
theorem pairwise_ends (steps : List Step) (now : Live) :
    (attempts steps now).Pairwise fun first second => first.after.run.phase = .done →
      second.before = first.after ∧ second.after = first.after := by
  apply pairwise_attempts
  intro now step rest second member done
  obtain ⟨same, takes⟩ := forall_attempts (P := (· = (Attempt.make step now).after))
    (fun takes same => (takes.eq_of_done (same ▸ done)).trans same) rfl second member
  exact ⟨same, (takes.eq_of_done (same ▸ done)).trans same⟩

/-- What holds of all sequences of attempts on a run of a rule. -/
structure Orderly (rule : Rule) (trace : List Attempt) : Prop where
  /-- At most one step of each kind is taken, and they are taken in order. -/
  successes : (trace.filter (·.succeeded)).map (·.step.target) <+: [.prepared, .detected, .done]
  /-- A step that is taken leads from its phase to the next one. -/
  advances : ∀ attempt ∈ trace, attempt.result = .ok () →
    attempt.before.run.phase = attempt.step.source ∧
      attempt.after.run.phase = attempt.step.target
  /-- Only a run that has not started uses the session, and only to prepare. -/
  uses : ∀ attempt ∈ trace, attempt.after.session ≠ attempt.before.session →
    attempt.step = .prepare ∧ attempt.before.run.phase = .unstarted
  /-- No earlier attempt was made to prepare. -/
  usesFirst : trace.Pairwise fun first second =>
    second.after.session ≠ second.before.session → first.step ≠ .prepare
  /-- Only the successful detection reports. -/
  reports : ∀ attempt ∈ trace, attempt.after.run.findings ≠ attempt.before.run.findings →
    ∃ module state, attempt.step = .detect module state ∧ attempt.result = .ok () ∧
      attempt.before.run.findings = [] ∧
      attempt.after.run.findings = rule.findings attempt.before.run.facts module state
  /-- Exactly the steps that are not the next one are refused. -/
  refuses : ∀ attempt ∈ trace,
    attempt.result = .error (.order rule.name attempt.before.run.phase attempt.step.target) ↔
      attempt.before.run.phase ≠ attempt.step.source
  /-- An attempt that is refused changes nothing. -/
  keeps : ∀ attempt ∈ trace, attempt.before.run.phase ≠ attempt.step.source →
    attempt.after = attempt.before
  /-- A run that cannot prepare is done and has reported nothing. -/
  fails : ∀ attempt ∈ trace, ∀ cause, attempt.result = .error (.provider cause) →
    attempt.step = .prepare ∧ attempt.after.run.phase = .done ∧ attempt.after.run.findings = []
  /-- Once a run is done, all is refused and nothing changes. -/
  ends : trace.Pairwise fun first second => first.after.run.phase = .done →
    second.result = .error (.order rule.name .done second.step.target) ∧
      second.after = first.after

/-- Whatever is asked of a new run, in whatever session, keeps to the order of the steps. -/
theorem attempts_orderly (rule : Rule) (session : Session) (steps : List Step) :
    Orderly rule (attempts steps ⟨start rule, session⟩) := by
  have each : ∀ attempt ∈ attempts steps ⟨start rule, session⟩, Quiet rule attempt.before ∧
      Takes attempt.before attempt.step attempt.result attempt.after :=
    forall_attempts (fun takes quiet => quiet.takes takes) (quiet_start rule session)
  constructor
  case successes => exact targets_attempts_prefix steps ⟨start rule, session⟩
  case advances =>
    intro attempt member success
    have takes := (each attempt member).2
    rw [success] at takes
    exact takes.phase_of_ok
  case uses => exact fun attempt member => (each attempt member).2.prepares_of_session_ne
  case usesFirst => exact pairwise_usesFirst steps _
  case reports =>
    intro attempt member
    obtain ⟨quiet, takes⟩ := each attempt member
    exact quiet.detects takes
  case refuses =>
    intro attempt member
    obtain ⟨quiet, takes⟩ := each attempt member
    rw [← quiet.rule_eq]
    exact takes.refused_iff
  case keeps => exact fun attempt member => (each attempt member).2.eq_of_early
  case fails =>
    intro attempt member cause failed
    obtain ⟨quiet, takes⟩ := each attempt member
    rw [failed] at takes
    exact quiet.fails takes
  case ends =>
    refine (pairwise_ends steps _).imp_of_mem fun {first second} _ member kept done => ?_
    obtain ⟨same, unchanged⟩ := kept done
    obtain ⟨quiet, takes⟩ := each second member
    have finished : second.before.run.phase = .done := same ▸ done
    have refused := takes.refused_iff.2 (finished ▸ second.step.done_ne_source)
    rw [quiet.rule_eq, finished] at refused
    exact ⟨refused, unchanged⟩

end RuleRun

end InfraLint
