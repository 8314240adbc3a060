import Scaffold.Proofs.Inquiries

/-! # Searching registries for a stack

A search without a registry in mind goes through the registries in order and stops at the first whose index could be had
and lists the name. What it passes by is what the registries before that one answer, so that the outcome and what was
asked for are told by these answers: nothing is asked of the registries after it, and only where no index lists the name
does the first failure count. A search in one registry asks that registry alone. Runs that are cancelled are left out,
as they may stop anywhere.
-/

namespace Scaffold

/-- The first item of a name in a list. -/
structure FirstNamed {α : Type} (name : α → String) (wanted : String) (items : List α) (item : α) : Prop where
  named : name item = wanted
  first : ∃ earlier later, items = earlier ++ item :: later ∧ ∀ other ∈ earlier, name other ≠ wanted

section

variable {α : Type} {name : α → String} {wanted : String} {items : List α} {item : α}

theorem find?_eq_some_iff_firstNamed :
    items.find? (fun item => name item = wanted) = some item ↔ FirstNamed name wanted items item := by
  rw [List.find?_eq_some_iff_append]
  constructor
  · rintro ⟨named, earlier, later, cut, others⟩
    exact ⟨by simpa using named, earlier, later, cut, by simpa using others⟩
  · rintro ⟨named, earlier, later, cut, others⟩
    exact ⟨by simpa using named, earlier, later, cut, by simpa using others⟩

theorem find?_eq_none_iff_unnamed :
    items.find? (fun item => name item = wanted) = none ↔ ∀ item ∈ items, name item ≠ wanted := by
  simp

end

/-- An index was had, and it lists a name. -/
def IndexAnswer.Lists (answer : IndexAnswer) (name : String) : Prop :=
  ∃ listed, answer.2 = .ok listed ∧ ∃ stack ∈ listed, stack.name = name

variable {σ : Type} [Storage σ]

theorem Session.Precedes.uncancelled {before after : Session σ} (precedes : before.Precedes after)
    (free : after.isCancelled = false) : before.isCancelled = false := by
  obtain ⟨_, spans⟩ := precedes
  have told := spans.cancelled.symm.trans free
  rw [Bool.or_assoc] at told
  exact (Bool.or_eq_false_iff.mp told).1

namespace Registry

open IndexAnswer (failure?)

variable {registry : Registry} {registries : List Registry} {name : String} {failed? : Option Cause}
  {answers : List IndexAnswer} {session middle after : Session σ}

/-! ## Asking one registry after another -/

theorem index_precedes {answer : Except Cause (List Stack)} (indexed : registry.index.apply session = (answer, after)) :
    session.Precedes after :=
  (registry.index_outside.advances indexed).keepsTo.precedes

theorem poll_precedes (polled : poll registries session = (answers, after)) : session.Precedes after := by
  induction registries generalizing session answers with
  | nil =>
    obtain ⟨_, rfl⟩ := Prod.mk.inj polled
    exact .refl _
  | cons registry rest ih =>
    rcases indexed : registry.index.apply session with ⟨answer, middle⟩
    rcases later : poll rest middle with ⟨others, last⟩
    rw [poll, indexed] at polled
    dsimp only at polled
    rw [later] at polled
    obtain ⟨_, rfl⟩ := Prod.mk.inj polled
    exact (index_precedes indexed).trans (ih later)

/-- In a run that is not cancelled an index is had or fails for a cause of its own, and was asked for. -/
theorem index_of_uncancelled {answer : Except Cause (List Stack)}
    (indexed : registry.index.apply session = (answer, after)) (free : after.isCancelled = false) :
    answer ≠ .error .cancelled ∧ session.Asks [registry.indexPage] after := by
  cases index_inquires indexed with
  | asked asks honest => exact ⟨fun same => by simp [honest same] at free, asks⟩
  | forestalled _ _ cancelled => simp [cancelled] at free

theorem poll_asks (polled : poll registries session = (answers, after)) (free : after.isCancelled = false) :
    session.Asks (registries.map indexPage) after := by
  induction registries generalizing session answers with
  | nil =>
    obtain ⟨_, rfl⟩ := Prod.mk.inj polled
    exact .refl _
  | cons registry rest ih =>
    rcases indexed : registry.index.apply session with ⟨answer, middle⟩
    rcases later : poll rest middle with ⟨others, last⟩
    rw [poll, indexed] at polled
    dsimp only at polled
    rw [later] at polled
    obtain ⟨_, rfl⟩ := Prod.mk.inj polled
    have first := (index_of_uncancelled indexed ((poll_precedes later).uncancelled free)).2
    exact first.trans (ih later)

/-! ## Going through the registries -/

/-- How going through some registries ends, given what failed before: at the first one whose index lists the name, or
after all of them, and then the first failure counts. -/
inductive Sweeps (name : String) (failed? : Option Cause) (registries : List Registry) (session : Session σ) :
    Except Cause (Option (Registry × Stack)) → Session σ → Prop
  | listed (earlier later : List Registry) (registry : Registry) (answers : List IndexAnswer) (asked after : Session σ)
      (listed : List Stack) (stack : Stack) (cut : registries = earlier ++ registry :: later)
      (polled : poll earlier session = (answers, asked)) (passed : ∀ answer ∈ answers, ¬ answer.Lists name)
      (indexed : registry.index.apply asked = (.ok listed, after)) (first : FirstNamed Stack.name name listed stack) :
      Sweeps name failed? registries session (.ok (some (registry, stack))) after
  | failed (answers : List IndexAnswer) (after : Session σ) (cause : Cause)
      (polled : poll registries session = (answers, after)) (passed : ∀ answer ∈ answers, ¬ answer.Lists name)
      (first : (failed? <|> (answers.filterMap failure?).head?) = some cause) :
      Sweeps name failed? registries session (.error cause) after
  | missed (answers : List IndexAnswer) (after : Session σ) (polled : poll registries session = (answers, after))
      (passed : ∀ answer ∈ answers, ¬ answer.Lists name)
      (unfailing : (failed? <|> (answers.filterMap failure?).head?) = none) :
      Sweeps name failed? registries session (.ok none) after

omit [Storage σ] in
/-- A registry that does not list the name is passed by, and its failure is kept unless there was one before. -/
theorem Sweeps.cons {answer : Except Cause (List Stack)} {outcome : Except Cause (Option (Registry × Stack))}
    (indexed : registry.index.apply session = (answer, middle)) (unlisted : ¬ IndexAnswer.Lists (registry, answer) name)
    (sweeps : Sweeps name (failed? <|> failure? (registry, answer)) registries middle outcome after) :
    Sweeps name failed? (registry :: registries) session outcome after := by
  have passes : ∀ {answers : List IndexAnswer}, (∀ answer ∈ answers, ¬ answer.Lists name) →
      ∀ other ∈ (registry, answer) :: answers, ¬ IndexAnswer.Lists other name := fun passed =>
    List.forall_mem_cons.mpr ⟨unlisted, passed⟩
  have polls : ∀ {others : List Registry} {answers : List IndexAnswer} {after : Session σ},
      poll others middle = (answers, after) → poll (registry :: others) session = ((registry, answer) :: answers, after) := by
    intro others answers after polled
    rw [poll, indexed]
    dsimp only
    rw [polled]
  have kept : ∀ answers : List IndexAnswer, (failed? <|> (((registry, answer) :: answers).filterMap failure?).head?) =
      ((failed? <|> failure? (registry, answer)) <|> (answers.filterMap failure?).head?) := by
    intro answers
    rw [List.filterMap_cons]
    cases failed? <;> cases failure? (registry, answer) <;> rfl
  cases sweeps with
  | listed earlier later found answers asked _ listed stack cut polled passed hit first =>
    exact .listed (registry :: earlier) later found _ asked _ listed stack (congrArg (registry :: ·) cut) (polls polled)
      (passes passed) hit first
  | failed answers _ cause polled passed first =>
    exact .failed _ _ cause (polls polled) (passes passed) ((kept answers).trans first)
  | missed answers _ polled passed unfailing =>
    exact .missed _ _ (polls polled) (passes passed) ((kept answers).trans unfailing)

theorem searchFrom_sweeps {outcome : Except Cause (Option (Registry × Stack))}
    (ran : (searchFrom name failed? registries).apply session = (outcome, after)) (free : after.isCancelled = false) :
    Sweeps name failed? registries session outcome after := by
  induction registries generalizing failed? session with
  | nil =>
    unfold searchFrom at ran
    split at ran
    · cases ran
      exact .failed [] _ _ rfl nofun rfl
    · cases ran
      exact .missed [] _ rfl nofun rfl
  | cons registry rest ih =>
    unfold searchFrom at ran
    rw [Run.apply_bind_of_ok (Run.apply_attempt _ _)] at ran
    rcases indexed : registry.index.apply session with ⟨answer, middle⟩
    rw [indexed] at ran
    dsimp only at ran
    split at ran
    · cases ran
      exact absurd rfl (index_of_uncancelled indexed free).1
    · refine .cons indexed ?_ (ih ran)
      rintro ⟨_, impossible, _⟩
      cases impossible
    · split at ran
      · rename_i stack found
        cases ran
        exact .listed [] rest registry [] session _ _ stack rfl rfl nofun indexed (find?_eq_some_iff_firstNamed.mp found)
      · rename_i listed _ missing
        refine .cons indexed ?_ ?_
        · rintro ⟨_, same, stack, member, named⟩
          obtain rfl := Except.ok.inj same
          exact find?_eq_none_iff_unnamed.mp missing stack member named
        · have still : (failed? <|> failure? (registry, .ok listed)) = failed? := by cases failed? <;> rfl
          rw [still]
          exact ih ran

/-! ## Locating a stack -/

/-- What a search for a stack of a name comes to, in all registries or in one that is named, and which indexes it asks
for. -/
inductive Locates (registries : List Registry) (name : String) (session : Session σ) :
    Option String → Except Cause (Registry × Stack) → Session σ → Prop
  /-- The first registry whose index could be had and lists the name, and the first stack of that name in it. -/
  | found (earlier later : List Registry) (registry : Registry) (answers : List IndexAnswer) (asked after : Session σ)
      (listed : List Stack) (stack : Stack) (cut : registries = earlier ++ registry :: later)
      (polled : poll earlier session = (answers, asked)) (passed : ∀ answer ∈ answers, ¬ answer.Lists name)
      (indexed : registry.index.apply asked = (.ok listed, after)) (first : FirstNamed Stack.name name listed stack)
      (asks : session.Asks ((earlier ++ [registry]).map indexPage) after) :
      Locates registries name session none (.ok (registry, stack)) after
  /-- No index that could be had lists the name, and the first failure is told. -/
  | unreachable (answers : List IndexAnswer) (after : Session σ) (cause : Cause)
      (polled : poll registries session = (answers, after)) (passed : ∀ answer ∈ answers, ¬ answer.Lists name)
      (first : (answers.filterMap failure?).head? = some cause)
      (asks : session.Asks (registries.map indexPage) after) :
      Locates registries name session none (.error cause) after
  /-- All indexes could be had, and none lists the name. -/
  | unlisted (answers : List IndexAnswer) (after : Session σ) (polled : poll registries session = (answers, after))
      (passed : ∀ answer ∈ answers, ¬ answer.Lists name) (had : ∀ answer ∈ answers, answer.failure? = none)
      (asks : session.Asks (registries.map indexPage) after) :
      Locates registries name session none (.error (.devfileNotFound name (names registries))) after
  /-- The registry that is named lists the name. -/
  | foundIn (wanted : String) (registry : Registry) (after : Session σ) (listed : List Stack) (stack : Stack)
      (named : FirstNamed Registry.name wanted registries registry)
      (indexed : registry.index.apply session = (.ok listed, after)) (first : FirstNamed Stack.name name listed stack)
      (asks : session.Asks [registry.indexPage] after) :
      Locates registries name session (some wanted) (.ok (registry, stack)) after
  /-- The index of the registry that is named could not be had. -/
  | unreachableIn (wanted : String) (registry : Registry) (after : Session σ) (cause : Cause)
      (named : FirstNamed Registry.name wanted registries registry)
      (indexed : registry.index.apply session = (.error cause, after))
      (asks : session.Asks [registry.indexPage] after) :
      Locates registries name session (some wanted) (.error cause) after
  /-- The registry that is named does not list the name. -/
  | unlistedIn (wanted : String) (registry : Registry) (after : Session σ) (listed : List Stack)
      (named : FirstNamed Registry.name wanted registries registry)
      (indexed : registry.index.apply session = (.ok listed, after)) (missing : ∀ stack ∈ listed, stack.name ≠ name)
      (asks : session.Asks [registry.indexPage] after) :
      Locates registries name session (some wanted) (.error (.devfileNotFound name registry.name)) after
  /-- No registry has the name of the one that is named. -/
  | unknown (wanted : String) (unnamed : ∀ registry ∈ registries, registry.name ≠ wanted) :
      Locates registries name session (some wanted) (.error (.registryNotFound wanted (names registries))) session

theorem names_singleton (registry : Registry) : names [registry] = registry.name := by
  simp [names]

/-- As long as the run is not cancelled, a search for a stack comes to one of the seven things it may come to. -/
theorem locate_locates {wanted? : Option String} {outcome : Except Cause (Registry × Stack)}
    (ran : (locate registries name wanted?).apply session = (outcome, after)) (free : after.isCancelled = false) :
    Locates registries name session wanted? outcome after := by
  cases wanted? with
  | none =>
    rcases Run.bind_cases ran with ⟨cause, rfl, failed⟩ | ⟨found?, middle, swept, ran⟩
    · cases searchFrom_sweeps failed free with
      | failed answers _ _ polled passed first =>
        exact .unreachable answers after cause polled passed first (poll_asks polled free)
    · obtain rfl : middle = after := by
        cases found? <;> exact (Prod.mk.inj ran).2
      cases searchFrom_sweeps swept free with
      | listed earlier later registry answers asked _ listed stack cut polled passed indexed first =>
        cases ran
        have before := poll_asks polled ((index_precedes indexed).uncancelled free)
        have asks := before.trans (index_of_uncancelled indexed free).2
        rw [← List.map_singleton, ← List.map_append] at asks
        exact .found earlier later registry answers asked _ listed stack cut polled passed indexed first asks
      | missed answers _ polled passed unfailing =>
        cases ran
        have had := List.filterMap_eq_nil_iff.mp (List.head?_eq_none_iff.mp unfailing)
        exact .unlisted answers _ polled passed had (poll_asks polled free)
  | some wanted =>
    unfold locate at ran
    dsimp only at ran
    split at ran
    · rename_i unnamed
      cases ran
      exact .unknown wanted (find?_eq_none_iff_unnamed.mp unnamed)
    · rename_i registry found
      have named := find?_eq_some_iff_firstNamed.mp found
      rcases Run.bind_cases ran with ⟨cause, rfl, failed⟩ | ⟨listed, middle, indexed, ran⟩
      · exact .unreachableIn wanted registry after cause named failed (index_of_uncancelled failed free).2
      · split at ran
        · rename_i stack first
          cases ran
          exact .foundIn wanted registry _ listed stack named indexed (find?_eq_some_iff_firstNamed.mp first)
            (index_of_uncancelled indexed free).2
        · rename_i missing
          cases ran
          rw [Registry.missing, names_singleton]
          exact .unlistedIn wanted registry _ listed named indexed (find?_eq_none_iff_unnamed.mp missing)
            (index_of_uncancelled indexed free).2

/-- A registry without an index, one that lists another stack, and two that list the one looked for. -/
def mixedRegistries : List Registry :=
  [⟨"a", "http://a.test"⟩, ⟨"b", "http://b.test"⟩, ⟨"c", "http://c.test"⟩, ⟨"d", "http://c.test"⟩]

/-- A session in which they answer. -/
def mixedSession : Session FileTree :=
  { files := .new ⟨"/app"⟩
    network :=
      { pages :=
          [("http://b.test/index", [.answer 200 "[[\"go\"]]".toUTF8 none true]),
            ("http://c.test/index", [.answer 200 "[[\"java\",\"one\"],[\"java\",\"two\"]]".toUTF8 none true])] } }

/-- The first two registries are passed by, and the first of the two stacks is found in the third. -/
theorem locate_locates_mixed :
    ∃ after, (locate mixedRegistries "java" none).apply mixedSession =
        (.ok (⟨"c", "http://c.test"⟩, { name := "java", displayName := "one" }), after) ∧ after.isCancelled = false ∧
      Locates mixedRegistries "java" mixedSession none
        (.ok (⟨"c", "http://c.test"⟩, { name := "java", displayName := "one" })) after := by
  have told : ((locate mixedRegistries "java" none).apply mixedSession).1 =
      .ok (⟨"c", "http://c.test"⟩, { name := "java", displayName := "one" }) := by
    decide +kernel
  have free : ((locate mixedRegistries "java" none).apply mixedSession).2.isCancelled = false := by
    decide +kernel
  have ran : (locate mixedRegistries "java" none).apply mixedSession = (_, _) := Prod.ext told rfl
  exact ⟨_, ran, free, locate_locates ran free⟩

end Registry

end Scaffold
