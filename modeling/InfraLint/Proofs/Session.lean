import InfraLint.Rule.Basic
import Mathlib.Data.List.Induction

/-!
# Sessions with a steady provider

What a steady provider answers does not depend on the questions sent before, so neither does
anything that a session gives: questions sent earlier only stand in front of its record
(`Session.fetch_after`, `Check.prepare_after`).

A session that starts with such a provider is known from the questions that were needed so far:
it has sent each of them once, at the place where it was needed first, and it remembers the answer
to each (`Session.having`).  A further question keeps this form (`Session.fetch_having`).
-/

namespace InfraLint

/-! ## Lists and results -/

/-- The value at a key of a list that pairs keys with values of a function. -/
theorem lookup_map_pair {κ α : Type} [BEq κ] [LawfulBEq κ] (f : κ → α) (key : κ) (keys : List κ) :
    (keys.map fun k => (k, f k)).lookup key = if key ∈ keys then some (f key) else none := by
  induction keys with
  | nil => rfl
  | cons first rest ih =>
      by_cases h : key = first
      · simp [h]
      · have : (key == first) = false := by simpa using h
        simp [List.lookup_cons, this, ih, h]

/-- Keeping first occurrences: one more element is new, or it changes nothing. -/
theorem eraseDups_concat {α : Type} [DecidableEq α] (items : List α) (item : α) :
    (items ++ [item]).eraseDups =
      if item ∈ items then items.eraseDups else items.eraseDups ++ [item] := by
  rw [List.eraseDups_append]
  by_cases h : item ∈ items
  · simp [List.removeAll, h]
  · simp [List.removeAll, h, List.eraseDups_cons]

/-- First occurrences are distinct. -/
theorem nodup_eraseDups {α : Type} [DecidableEq α] (items : List α) : items.eraseDups.Nodup := by
  induction items using List.reverseRecOn with
  | nil => exact List.nodup_nil
  | append_singleton items item ih =>
      rw [eraseDups_concat]
      split
      · exact ih
      · next fresh =>
        refine List.nodup_append.2 ⟨ih, by simp, ?_⟩
        intro other member same known
        rw [List.mem_singleton.1 known]
        exact fun e => fresh (e ▸ List.mem_eraseDups.1 member)

theorem toOption_map {ε α β : Type} (f : α → β) (answer : Except ε α) :
    (answer.map f).toOption = answer.toOption.map f := by
  cases answer <;> rfl

/-! ## Questions sent earlier -/

namespace Session

/-- The session when questions have been sent before all those on its record. -/
def after (earlier : List Query) (session : Session) : Session :=
  { session with sent := earlier ++ session.sent }

@[simp] theorem isAvailable_after (earlier : List Query) (session : Session) :
    (session.after earlier).isAvailable = session.isAvailable := rfl

@[simp] theorem roundTrips_after (earlier : List Query) (session : Session) :
    (session.after earlier).roundTrips = session.roundTrips := rfl

@[simp] theorem sent_after (earlier : List Query) (session : Session) :
    (session.after earlier).sent = earlier ++ session.sent := rfl

/-- The provider of a session, if it has one, is steady. -/
def IsSteady (session : Session) : Prop := ∀ provider ∈ session.provider, provider.IsSteady

/-- A question changes neither the provider nor whether there is one. -/
@[simp] theorem provider_fetch (query : Query) (session : Session) :
    (session.fetch query).2.provider = session.provider := by
  unfold fetch
  split
  · rfl
  · split
    · rfl
    · rfl

theorem IsSteady.fetch {session : Session} (steady : session.IsSteady) (query : Query) :
    (session.fetch query).2.IsSteady := by
  rw [IsSteady, provider_fetch]
  exact steady

/-- A steady provider gives the same answer after earlier questions, and the record grows by the
same question. -/
theorem fetch_after {session : Session} (steady : session.IsSteady) (earlier : List Query)
    (query : Query) :
    (session.after earlier).fetch query =
      ((session.fetch query).1, (session.fetch query).2.after earlier) := by
  obtain ⟨provider, known, roundTrips, sent⟩ := session
  simp only [fetch, after]
  cases known.lookup query with
  | some answer => rfl
  | none =>
      cases provider with
      | none => rfl
      | some provider =>
          have same : provider (earlier ++ sent) query = provider sent query := by
            rw [steady provider rfl (earlier ++ sent), steady provider rfl sent]
          simp only [same, List.append_assoc]

/-- The default network is asked for like anything else. -/
theorem defaultVpc_eq (session : Session) :
    session.defaultVpc =
      ((session.fetch .defaultVpc).1.map (·.head?), (session.fetch .defaultVpc).2) := by
  simp only [defaultVpc]
  rcases session.fetch .defaultVpc with ⟨_ | _, _⟩ <;> rfl

@[simp] theorem provider_defaultVpc (session : Session) :
    session.defaultVpc.2.provider = session.provider := by
  rw [defaultVpc_eq, provider_fetch]

theorem defaultVpc_after {session : Session} (steady : session.IsSteady) (earlier : List Query) :
    (session.after earlier).defaultVpc =
      (session.defaultVpc.1, session.defaultVpc.2.after earlier) := by
  rw [defaultVpc_eq, defaultVpc_eq, fetch_after steady]

/-! ## What a session has sent -/

/-- The session in which some questions were needed, in order. -/
def having (provider : Provider) (needed : List Query) : Session where
  provider := some provider
  known := needed.eraseDups.map fun query => (query, remembered (provider [] query))
  roundTrips := needed.eraseDups.length
  sent := needed.eraseDups

/-- What is remembered of an answer tells whether there was one. -/
@[simp] theorem isOk_recalled_remembered (query : Query) (answer : Except QueryError Names) :
    (recalled query (remembered answer)).isOk = answer.isOk := by
  cases answer <;> rfl

/-- A question to a session, needed after others: it is answered exactly if the provider answers
it. -/
theorem fetch_having {provider : Provider} (steady : provider.IsSteady) (needed : List Query)
    (query : Query) :
    ∃ answer, (having provider needed).fetch query =
        (answer, having provider (needed ++ [query])) ∧
      answer.isOk = (provider [] query).isOk := by
  by_cases h : query ∈ needed
  -- A refusal is remembered by its text only, so just whether there is an answer stays the same.
  · refine ⟨recalled query (remembered (provider [] query)), ?_, by simp⟩
    simp [fetch, having, lookup_map_pair, h, eraseDups_concat]
  · refine ⟨provider [] query, ?_, rfl⟩
    simp [fetch, having, lookup_map_pair, h, eraseDups_concat, steady needed.eraseDups query]

/-- A session gives the answer of the provider, also from memory. -/
theorem toOption_fetch_having {provider : Provider} (steady : provider.IsSteady)
    (needed : List Query) (query : Query) :
    ((having provider needed).fetch query).1.toOption = (provider [] query).toOption := by
  by_cases h : query ∈ needed
  · simp only [fetch, having, lookup_map_pair, List.mem_eraseDups, h, if_true]
    cases provider [] query <;> rfl
  · simp only [fetch, having, lookup_map_pair, List.mem_eraseDups, h, if_false,
      steady needed.eraseDups query]

theorem defaultVpc_having {provider : Provider} (steady : provider.IsSteady)
    (needed : List Query) :
    (having provider needed).defaultVpc.2 = having provider (needed ++ [.defaultVpc]) := by
  obtain ⟨answer, asked, -⟩ := fetch_having steady needed .defaultVpc
  rw [defaultVpc_eq, asked]

end Session

/-! ## What a check asks -/

namespace Check

/-- The questions that a check needs, in order.  The default network is needed only by a check on
names within an attribute, and only if the names are known. -/
def needs (isAnswered : Query → Bool) : Check → List Query
  | reference query _ _ | unique query _ none => [query]
  | unique query _ (some _) => if isAnswered query then [query, .defaultVpc] else [query]
  | _ => []

/-- A check on one question learns the names that are the answer. -/
theorem prepare_reference (query : Query) (shape : Shape) (noun : String) (session : Session) :
    (reference query shape noun).prepare session =
      ((session.fetch query).1.map fun known => ⟨known, .ok none⟩, (session.fetch query).2) := by
  simp only [prepare]
  rcases session.fetch query with ⟨_ | _, _⟩ <;> rfl

theorem prepare_unique (query : Query) (noun : String) (session : Session) :
    (unique query noun none).prepare session =
      ((session.fetch query).1.map fun known => ⟨known, .ok none⟩, (session.fetch query).2) := by
  simp only [prepare]
  rcases session.fetch query with ⟨_ | _, _⟩ <;> rfl

/-- A check within an attribute is over when the names are refused, and else asks for the default
network. -/
theorem prepare_within_of_error {query : Query} {session next : Session} {cause : QueryError}
    (refusal : session.fetch query = (.error cause, next)) (noun attr : String) :
    (unique query noun (some attr)).prepare session = (.error cause, next) := by
  simp only [prepare, refusal]

theorem prepare_within_of_ok {query : Query} {session next : Session} {known : Names}
    (answer : session.fetch query = (.ok known, next)) (noun attr : String) :
    (unique query noun (some attr)).prepare session =
      (.ok ⟨known, next.defaultVpc.1.mapError (·.message)⟩, next.defaultVpc.2) := by
  simp only [prepare, answer]

theorem prepare_of_not_needsProvider {check : Check} (quiet : check.needsProvider = false)
    (session : Session) : check.prepare session = (.ok .none, session) := by
  cases check with
  | reference => cases quiet
  | unique => cases quiet
  | _ => rfl

theorem needs_of_not_needsProvider {check : Check} (quiet : check.needsProvider = false)
    (isAnswered : Query → Bool) : check.needs isAnswered = [] := by
  cases check with
  | reference => cases quiet
  | unique => cases quiet
  | _ => rfl

@[simp] theorem provider_prepare (check : Check) (session : Session) :
    (check.prepare session).2.provider = session.provider := by
  cases check with
  | reference query shape noun => rw [prepare_reference, Session.provider_fetch]
  | unique query noun within =>
      cases within with
      | none => rw [prepare_unique, Session.provider_fetch]
      | some attr =>
          have kept := Session.provider_fetch query session
          rcases asked : session.fetch query with ⟨cause | known, next⟩
          · rw [prepare_within_of_error asked]
            rwa [asked] at kept
          · rw [prepare_within_of_ok asked, Session.provider_defaultVpc]
            rwa [asked] at kept
  | _ => rfl

/-- A steady provider teaches a check the same after earlier questions. -/
theorem prepare_after {session : Session} (steady : session.IsSteady) (earlier : List Query)
    (check : Check) :
    check.prepare (session.after earlier) =
      ((check.prepare session).1, (check.prepare session).2.after earlier) := by
  have asked := Session.fetch_after steady earlier
  cases check with
  | reference query shape noun => rw [prepare_reference, prepare_reference, asked]
  | unique query noun within =>
      cases within with
      | none => rw [prepare_unique, prepare_unique, asked]
      | some attr =>
          have kept := steady.fetch query
          have again := asked query
          rcases first : session.fetch query with ⟨cause | known, next⟩
          · rw [first] at again
            rw [prepare_within_of_error again, prepare_within_of_error first]
          · rw [first] at again kept
            rw [prepare_within_of_ok again, prepare_within_of_ok first,
              Session.defaultVpc_after kept]
  | _ => rfl

/-- A check that was preceded by others needs its questions after theirs. -/
theorem prepare_having {provider : Provider} (steady : provider.IsSteady) (needed : List Query)
    (check : Check) :
    (check.prepare (.having provider needed)).2 =
      .having provider (needed ++ check.needs fun query => (provider [] query).isOk) := by
  have asked := Session.fetch_having steady needed
  cases check with
  | reference query shape noun =>
      obtain ⟨answer, first, -⟩ := asked query
      rw [prepare_reference, first, needs]
  | unique query noun within =>
      obtain ⟨answer, first, answered⟩ := asked query
      cases within with
      | none => rw [prepare_unique, first, needs]
      | some attr =>
          cases answer with
          | error cause =>
              rw [prepare_within_of_error first, needs, ← answered]
              rfl
          | ok known =>
              rw [prepare_within_of_ok first, Session.defaultVpc_having steady, needs, ← answered,
                List.append_assoc]
              rfl
  | _ => simp only [prepare, needs, List.append_nil]

end Check

end InfraLint
