import Scaffold.Proofs.Careful
import Scaffold.Proofs.Inquiries
import Scaffold.Proofs.Interactive.Choices
import Scaffold.Proofs.Session.Asking
import Scaffold.Proofs.Session.Parallel

/-! # Choosing from menus

A menu is never empty, and an answer that it does not have fails the run like a refused question. So a selection stops
in one of its menus, or for want of an index or of stacks in it, or comes to the stack that the answers choose.
-/

namespace Scaffold

/-- An event that offers something to choose, if it is a question. -/
def Event.Offers : Event → Prop
  | .question (.select _ items _) => items ≠ []
  | .question (.input _ _) => False
  | _ => True

namespace Interactive

open Run

variable {σ α β : Type} {prompt : String} {label : α → String} {choices : List α} {answer : ScriptedAnswer}
  {rest : List ScriptedAnswer} {session after : Session σ}

/-! ## One menu -/

/-- A menu, which offers its first item. -/
def menu (prompt : String) (items : List String) : Question := .select prompt items 0

/-- An answer that a menu does not have. -/
def outOfRange (prompt : String) (choice : Nat) : Cause :=
  .prompt ("selection " ++ toString choice ++ " out of range for " ++ Text.quoted prompt)

/-- How a menu goes: which of so many choices is made, or why none is. -/
inductive Puts (prompt : String) (items : List String) {count : Nat} (session : Session σ) :
    Except Cause (Fin count) → Session σ → Prop
  /-- The run was cancelled before. -/
  | forestalled (cancelled : session.isCancelled = true) : Puts prompt items session (.error .cancelled) session
  /-- Nobody answers. -/
  | unanswered (reason : String) (free : session.isCancelled = false)
      (unanswered : ∀ answer answers, session.prompter ≠ .scripted (answer :: answers)) :
      Puts prompt items session (.error (.prompt reason)) (session.note (.question (menu prompt items)))
  /-- The question fails. -/
  | failed (answer : ScriptedAnswer) (rest : List ScriptedAnswer) (reason : String) (free : session.isCancelled = false)
      (scripted : session.prompter = .scripted (answer :: rest)) (failure : answer.failure = some reason) :
      Puts prompt items session (.error (.prompt reason)) (session.heard (answer.events (menu prompt items)) rest)
  /-- The question is aborted. -/
  | aborted (answer : ScriptedAnswer) (rest : List ScriptedAnswer) (free : session.isCancelled = false)
      (scripted : session.prompter = .scripted (answer :: rest)) (unfailing : answer.failure = none)
      (missing : answer.choice = none) :
      Puts prompt items session (.error .userAborted) (session.heard (answer.events (menu prompt items)) rest)
  /-- The answer is out of range, which is told before a cancellation. -/
  | outOfRange (answer : ScriptedAnswer) (rest : List ScriptedAnswer) (choice : Nat) (free : session.isCancelled = false)
      (scripted : session.prompter = .scripted (answer :: rest)) (unfailing : answer.failure = none)
      (told : answer.choice = some choice) (beyond : count ≤ choice) :
      Puts prompt items session (.error (outOfRange prompt choice)) (session.heard (answer.events (menu prompt items)) rest)
  /-- The answer cancels the run. -/
  | cancelled (answer : ScriptedAnswer) (rest : List ScriptedAnswer) (choice : Fin count)
      (free : session.isCancelled = false) (scripted : session.prompter = .scripted (answer :: rest))
      (unfailing : answer.failure = none) (told : answer.choice = some choice.val) (cancels : answer.cancels = true) :
      Puts prompt items session (.error .cancelled) (session.heard (answer.events (menu prompt items)) rest)
  | chosen (answer : ScriptedAnswer) (rest : List ScriptedAnswer) (choice : Fin count) (free : session.isCancelled = false)
      (scripted : session.prompter = .scripted (answer :: rest)) (gives : answer.Gives ScriptedAnswer.choice choice.val) :
      Puts prompt items session (.ok choice) (session.heard [.question (menu prompt items)] rest)

theorem Puts.free {items : List String} {count : Nat} {choice : Fin count} (puts : Puts prompt items session (.ok choice) after) :
    after.isCancelled = false := by
  cases puts with
  | chosen _ _ _ free _ _ => exact Session.isCancelled_heard free _

theorem choose_of_inRange (choice : Fin choices.length) (scripted : session.prompter = .scripted (answer :: rest))
    (free : session.isCancelled = false) (unfailing : answer.failure = none) (told : answer.choice = some choice.val) :
    (choose prompt label choices).apply session =
      (if answer.cancels then .error .cancelled else .ok (choices.get choice),
        session.heard (answer.events (menu prompt (choices.map label))) rest) := by
  have valid : choice.val < (choices.map label).length := by simp
  rw [choose, apply_bind, select_eq, asking_of_told scripted free unfailing told, dif_pos valid, apply_bind,
    apply_checkCancelled_heard free]
  cases answer.cancels <;> rfl

theorem choose_of_outOfRange {choice : Nat} (scripted : session.prompter = .scripted (answer :: rest))
    (free : session.isCancelled = false) (unfailing : answer.failure = none) (told : answer.choice = some choice)
    (beyond : choices.length ≤ choice) :
    (choose prompt label choices).apply session =
      (.error (outOfRange prompt choice), session.heard (answer.events (menu prompt (choices.map label))) rest) := by
  have invalid : ¬ choice < (choices.map label).length := by simpa using beyond
  rw [choose, apply_bind, select_eq, asking_of_told scripted free unfailing told, dif_neg invalid]
  rfl

/-- Whoever answers, a menu goes in one of the seven ways. -/
theorem exists_puts (prompt : String) (label : α → String) (choices : List α) (session : Session σ) :
    ∃ outcome after, Puts prompt (choices.map label) session outcome after ∧
      (choose prompt label choices).apply session = (outcome.map choices.get, after) := by
  have stops : ∀ {cause : Cause} {after : Session σ},
      (Run.select prompt (choices.map label)).apply session = (.error cause, after) →
        (choose prompt label choices).apply session = (.error cause, after) := fun refused => apply_bind_of_error refused
  cases free : session.isCancelled with
  | true => exact ⟨_, _, .forestalled free, stops (apply_bind_of_error (apply_checkCancelled_of_cancelled free))⟩
  | false =>
    by_cases unanswered : ∀ answer answers, session.prompter ≠ .scripted (answer :: answers)
    · obtain ⟨reason, refused⟩ := asking_of_unanswered free unanswered
      exact ⟨_, _, .unanswered reason free unanswered, stops refused⟩
    · obtain ⟨answer, rest, scripted⟩ : ∃ answer rest, session.prompter = .scripted (answer :: rest) := by
        simpa using unanswered
      cases failure : answer.failure with
      | some reason =>
        exact ⟨_, _, .failed answer rest reason free scripted failure, stops (asking_of_failure scripted free failure)⟩
      | none =>
        cases told : answer.choice with
        | none =>
          exact ⟨_, _, .aborted answer rest free scripted failure told, stops (asking_of_missing scripted free failure told)⟩
        | some choice =>
          by_cases valid : choice < choices.length
          · have went : (choose prompt label choices).apply session = _ :=
              choose_of_inRange ⟨choice, valid⟩ scripted free failure told
            cases cancels : answer.cancels with
            | true =>
              rw [if_pos cancels] at went
              exact ⟨_, _, .cancelled answer rest ⟨choice, valid⟩ free scripted failure told cancels, went⟩
            | false =>
              have gives : answer.Gives ScriptedAnswer.choice choice := ⟨failure, told, cancels⟩
              rw [gives.events, if_neg (by simp [cancels])] at went
              exact ⟨_, _, .chosen answer rest ⟨choice, valid⟩ free scripted gives, went⟩
          · exact ⟨_, _, .outOfRange answer rest choice free scripted failure told (Nat.not_lt.mp valid),
              choose_of_outOfRange scripted free failure told (Nat.not_lt.mp valid)⟩

theorem exists_puts_of_length {count : Nat} (size : choices.length = count) (prompt : String) (label : α → String)
    (session : Session σ) :
    ∃ (outcome : Except Cause (Fin count)) (after : Session σ), Puts prompt (choices.map label) session outcome after ∧
      (choose prompt label choices).apply session = (outcome.map fun choice => choices.get (choice.cast size.symm), after) := by
  subst size
  exact exists_puts prompt label choices session

/-- A choice is made by an answer that gives it. -/
theorem choose_told (prompt : String) (label : α → String) (choice : Fin choices.length)
    (scripted : session.prompter = .scripted (answer :: rest)) (free : session.isCancelled = false)
    (gives : answer.Gives ScriptedAnswer.choice choice.val) :
    ∃ after, (choose prompt label choices).apply session = (.ok (choices.get choice), after) ∧
      Puts prompt (choices.map label) session (.ok choice) after ∧ after.isCancelled = false ∧
      after.prompter = .scripted rest ∧ session.Alike Eq after := by
  have went : (choose prompt label choices).apply session = _ :=
    choose_of_inRange choice scripted free gives.unfailing gives.told
  rw [gives.events, if_neg (by simp [gives.uncancelled])] at went
  have puts : Puts prompt (choices.map label) session (.ok choice) _ := .chosen answer rest choice free scripted gives
  exact ⟨_, went, puts, puts.free, rfl,
    { files := rfl, network := rfl, cancelled := free.trans puts.free.symm, schedule := rfl, ties := rfl, telemetry := rfl }⟩

/-- After a menu the run stops, or goes on with the choice that was made. -/
theorem bind_choose_cases {next : α → Run σ Cause β} {outcome : Except Cause β}
    (ran : (choose prompt label choices >>= next).apply session = (outcome, after)) :
    (∃ cause, outcome = .error cause ∧
        Puts prompt (choices.map label) session (.error cause : Except Cause (Fin choices.length)) after) ∨
      ∃ choice middle, Puts prompt (choices.map label) session (.ok choice) middle ∧
        (next (choices.get choice)).apply middle = (outcome, after) := by
  obtain ⟨made, middle, puts, went⟩ := exists_puts prompt label choices session
  rw [apply_bind, went] at ran
  cases made with
  | error cause =>
    obtain ⟨rfl, rfl⟩ := Prod.mk.inj ran
    exact .inl ⟨cause, rfl, puts⟩
  | ok choice => exact .inr ⟨choice, middle, puts, ran⟩

section

variable [Storage σ] {items : List String} {count : Nat} {made : Except Cause (Fin count)}

/-- A menu puts its question, may be cancelled, and makes nothing else happen. -/
theorem Puts.advances {allowed : Event → Prop} (puts : Puts prompt items session made after)
    (asks : allowed (.question (menu prompt items))) (cancelled : allowed .cancelled) : session.Advances allowed after := by
  have events : ∀ answer : ScriptedAnswer, ∀ event ∈ answer.events (menu prompt items), event.Consults ∧ allowed event := by
    intro answer event member
    rcases List.mem_cons.mp member with rfl | member
    · exact ⟨trivial, asks⟩
    · obtain ⟨_, rfl⟩ : answer.cancels = true ∧ event = .cancelled := by simpa using member
      exact ⟨trivial, cancelled⟩
  have heard : ∀ (answer : ScriptedAnswer) (rest : List ScriptedAnswer),
      session.Advances allowed (session.heard (answer.events (menu prompt items)) rest) := fun answer _ =>
    ⟨_, Session.leads_heard fun event member => (events answer event member).1,
      fun event member => (events answer event member).2⟩
  cases puts with
  | forestalled _ => exact .refl _
  | unanswered reason _ _ =>
    exact ⟨_, Session.leads_event rfl rfl rfl rfl (Bool.or_false _).symm rfl, List.forall_mem_singleton.mpr asks⟩
  | failed answer rest _ _ _ _ => exact heard answer rest
  | aborted answer rest _ _ _ _ => exact heard answer rest
  | outOfRange answer rest _ _ _ _ _ _ => exact heard answer rest
  | cancelled answer rest _ _ _ _ _ _ => exact heard answer rest
  | chosen answer rest _ _ _ gives => exact gives.events (menu prompt items) ▸ heard answer rest

theorem Puts.asks (puts : Puts prompt items session made after) : session.Asks [] after :=
  (show session.Advances Event.Silent after from puts.advances rfl rfl).keepsTo.asks

theorem Puts.offers (puts : Puts prompt items session made after) (offers : items ≠ []) :
    session.Advances Event.Offers after :=
  puts.advances offers trivial

end

/-! ## Choosing a registry -/

variable {registries : List Registry}

/-- How a registry is come to: it is the only one, or it is chosen. -/
inductive Takes (registries : List Registry) (session : Session σ) (registry : Fin registries.length) : Session σ → Prop
  | only (alone : registries.length = 1) : Takes registries session registry session
  | chosen (reached : Session σ) (several : registries.length ≠ 1)
      (puts : Puts "Select the devfile registry" (registries.map registryLabel) session (.ok registry) reached) :
      Takes registries session registry reached

theorem selectRegistry_of_alone (registry : Fin registries.length) (alone : registries.length = 1) :
    (selectRegistry registries : Run σ Cause Registry) = pure (registries.get registry) := by
  obtain ⟨only, rfl⟩ := List.length_eq_one_iff.mp alone
  obtain rfl : registry = ⟨0, Nat.one_pos⟩ := Subsingleton.elim (α := Fin 1) _ _
  rfl

theorem selectRegistry_of_several (configured : registries ≠ []) (several : registries.length ≠ 1) :
    (selectRegistry registries : Run σ Cause Registry) =
      choose "Select the devfile registry" registryLabel registries := by
  match registries, configured, several with
  | _ :: _ :: _, _, _ => rfl

theorem bind_selectRegistry_cases {next : Registry → Run σ Cause β} {outcome : Except Cause β} (configured : registries ≠ [])
    (ran : (selectRegistry registries >>= next).apply session = (outcome, after)) :
    (∃ cause, outcome = .error cause ∧ registries.length ≠ 1 ∧
        Puts "Select the devfile registry" (registries.map registryLabel) session
          (.error cause : Except Cause (Fin registries.length)) after) ∨
      ∃ registry reached, Takes registries session registry reached ∧
        (next (registries.get registry)).apply reached = (outcome, after) := by
  by_cases alone : registries.length = 1
  · have registry : Fin registries.length := ⟨0, by omega⟩
    rw [selectRegistry_of_alone registry alone] at ran
    exact .inr ⟨registry, session, .only alone, ran⟩
  · rw [selectRegistry_of_several configured alone] at ran
    rcases bind_choose_cases ran with ⟨cause, same, puts⟩ | ⟨registry, reached, puts, ran⟩
    · exact .inl ⟨cause, same, alone, puts⟩
    · exact .inr ⟨registry, reached, .chosen reached alone puts, ran⟩

/-! ## Selecting a stack -/

section

variable [Storage σ] {directory : Path} {registry : Registry} {listed : List Stack}

/-- Select a stack that a registry lists, and stage its devfile. -/
def selectFrom (registry : Registry) (directory : Path) : Run σ Cause Manifest := do
  let listed ← registry.index
  if listed.isEmpty then throw (.devfileNotFound "any stack" registry.name)
  let language ← choose "Select language" id (languages listed)
  let stack ← choose "Select project type" Stack.label (stacksOf language listed)
  registry.stage stack directory

theorem selectManifest_eq (registries : List Registry) (directory : Path) :
    (selectManifest registries directory : Run σ Cause Manifest) =
      (selectRegistry registries >>= fun registry => selectFrom registry directory) := rfl

/-- How a selection ends, whoever answers. -/
inductive SelectionEnds (registries : List Registry) (directory : Path) (session : Session σ) :
    Except Cause Manifest → Session σ → Prop
  /-- No registry is chosen. -/
  | noRegistry (cause : Cause) (after : Session σ) (several : registries.length ≠ 1)
      (puts : Puts "Select the devfile registry" (registries.map registryLabel) session
        (.error cause : Except Cause (Fin registries.length)) after) :
      SelectionEnds registries directory session (.error cause) after
  /-- The index cannot be had. -/
  | noIndex (registry : Fin registries.length) (reached : Session σ) (cause : Cause) (after : Session σ)
      (takes : Takes registries session registry reached)
      (failed : (registries.get registry).index.apply reached = (.error cause, after)) :
      SelectionEnds registries directory session (.error cause) after
  /-- The index is empty. -/
  | noStacks (registry : Fin registries.length) (reached after : Session σ)
      (takes : Takes registries session registry reached)
      (indexed : (registries.get registry).index.apply reached = (.ok [], after)) :
      SelectionEnds registries directory session
        (.error (.devfileNotFound "any stack" (registries.get registry).name)) after
  /-- No language is chosen. -/
  | noLanguage (registry : Fin registries.length) (reached : Session σ) (listed : List Stack) (asked : Session σ)
      (cause : Cause) (after : Session σ) (takes : Takes registries session registry reached)
      (indexed : (registries.get registry).index.apply reached = (.ok listed, asked)) (listing : listed ≠ [])
      (puts : Puts "Select language" (languages listed) asked
        (.error cause : Except Cause (Fin (languages listed).length)) after) :
      SelectionEnds registries directory session (.error cause) after
  /-- No stack of the language is chosen. -/
  | noStack (registry : Fin registries.length) (reached : Session σ) (listed : List Stack) (asked : Session σ)
      (language : Fin (languages listed).length) (spoken : Session σ) (cause : Cause) (after : Session σ)
      (takes : Takes registries session registry reached)
      (indexed : (registries.get registry).index.apply reached = (.ok listed, asked))
      (speaks : Puts "Select language" (languages listed) asked (.ok language) spoken)
      (puts : Puts "Select project type" ((stacksOf ((languages listed).get language) listed).map Stack.label) spoken
        (.error cause : Except Cause (Fin (stacksOf ((languages listed).get language) listed).length)) after) :
      SelectionEnds registries directory session (.error cause) after
  /-- The devfile of the stack that is chosen is asked for and staged. -/
  | selected (registry : Fin registries.length) (reached : Session σ) (listed : List Stack) (asked : Session σ)
      (pick : Pick listed) (spoken picked : Session σ) (outcome : Except Cause Manifest) (after : Session σ)
      (takes : Takes registries session registry reached)
      (indexed : (registries.get registry).index.apply reached = (.ok listed, asked))
      (speaks : Puts "Select language" (languages listed) asked (.ok pick.language) spoken)
      (picks : Puts "Select project type" ((stacksOf ((languages listed).get pick.language) listed).map Stack.label) spoken
        (.ok pick.stack) picked)
      (ran : ((registries.get registry).stage (listed.get pick.position) directory).apply picked = (outcome, after))
      (asks : session.Asks
        [(registries.get registry).indexPage, (registries.get registry).devfilePage (listed.get pick.position).name] after) :
      SelectionEnds registries directory session outcome after

theorem Takes.asks {registry : Fin registries.length} (takes : Takes registries session registry after) :
    session.Asks [] after := by
  cases takes with
  | only _ => exact .refl _
  | chosen _ _ puts => exact puts.asks

theorem selectManifest_ends {outcome : Except Cause Manifest} (configured : registries ≠ [])
    (ran : (selectManifest registries directory).apply session = (outcome, after)) :
    SelectionEnds registries directory session outcome after := by
  rw [selectManifest_eq] at ran
  rcases bind_selectRegistry_cases configured ran with ⟨cause, rfl, several, puts⟩ | ⟨registry, reached, takes, ran⟩
  · exact .noRegistry cause after several puts
  rcases bind_cases ran with ⟨cause, rfl, failed⟩ | ⟨listed, asked, indexed, ran⟩
  · exact .noIndex registry reached cause after takes failed
  by_cases listing : listed = []
  · subst listing
    cases ran
    exact .noStacks registry reached _ takes indexed
  rw [if_neg (by simpa using listing)] at ran
  rcases bind_choose_cases ran with ⟨cause, rfl, puts⟩ | ⟨language, spoken, speaks, ran⟩
  · rw [List.map_id] at puts
    exact .noLanguage registry reached listed asked cause after takes indexed listing puts
  rw [List.map_id] at speaks
  rcases bind_choose_cases ran with ⟨cause, rfl, puts⟩ | ⟨stack, picked, picks, ran⟩
  · exact .noStack registry reached listed asked language spoken cause after takes indexed speaks puts
  · have ran : ((registries.get registry).stage (listed.get (Pick.mk language stack).position) directory).apply picked =
        (outcome, after) := by
      rw [Pick.get_position]
      exact ran
    have asks := (takes.asks.trans (Registry.index_inquires indexed).asks_of_ok).trans_nil
      (speaks.asks.trans_nil picks.asks)
    exact .selected registry reached listed asked ⟨language, stack⟩ spoken picked outcome after takes indexed speaks picks
      ran (asks.trans (Registry.stage_asked picks.free ran))

theorem stage_offers (registry : Registry) (stack : Stack) :
    (registry.stage stack directory : Run σ Cause Manifest).Only Event.Offers :=
  only_bind (fetch_only trivial (fun _ => trivial) trivial trivial) fun _ =>
    only_bind only_checkCancelled fun _ => Manifest.stage_only fun _ => trivial

/-- However a selection ends, no menu in it is empty. -/
theorem SelectionEnds.offers {outcome : Except Cause Manifest} (configured : registries ≠ [])
    (ends : SelectionEnds registries directory session outcome after) : session.Advances Event.Offers after := by
  have labelled : registries.map registryLabel ≠ [] := by simpa using configured
  have takes : ∀ {registry : Fin registries.length} {reached : Session σ}, Takes registries session registry reached →
      session.Advances Event.Offers reached := by
    intro registry reached takes
    cases takes with
    | only _ => exact .refl _
    | chosen _ _ puts => exact puts.offers labelled
  have indexes : ∀ (registry : Registry) {reached asked : Session σ} {answer : Except Cause (List Stack)},
      registry.index.apply reached = (answer, asked) → reached.Advances Event.Offers asked := fun registry _ _ _ ran =>
    Only.advances (registry.index_only trivial (fun _ => trivial) trivial trivial) ran
  have offered : ∀ {listed : List Stack} (language : Fin (languages listed).length),
      (stacksOf ((languages listed).get language) listed).map Stack.label ≠ [] := by
    intro listed language
    simpa using stacksOf_ne_nil (List.get_mem (languages listed) language)
  cases ends with
  | noRegistry _ _ _ puts => exact puts.offers labelled
  | noIndex _ _ _ _ taken failed => exact (takes taken).trans (indexes _ failed)
  | noStacks _ _ _ taken indexed => exact (takes taken).trans (indexes _ indexed)
  | noLanguage _ _ _ _ _ _ taken indexed listing puts =>
    exact ((takes taken).trans (indexes _ indexed)).trans (puts.offers (languages_ne_nil listing))
  | noStack _ _ _ _ language _ _ _ taken indexed speaks puts =>
    exact ((takes taken).trans (indexes _ indexed)).trans
      ((speaks.offers (List.ne_nil_of_length_pos language.pos)).trans (puts.offers (offered language)))
  | selected _ _ _ _ pick _ _ _ _ taken indexed speaks picks ran _ =>
    exact (((takes taken).trans (indexes _ indexed)).trans
      ((speaks.offers (List.ne_nil_of_length_pos pick.language.pos)).trans (picks.offers (offered pick.language)))).trans
        ((stage_offers _ _).advances ran)

/-- A run that is not cancelled by the time the index has come was not cancelled before. -/
theorem free_of_index (uncancelled : (registry.index.apply session).2.isCancelled = false) :
    session.isCancelled = false := by
  cases free : session.isCancelled with
  | true => exact uncancelled ▸ ((registry.index_outside session).keepsTo.isCancelled free).symm
  | false => rfl

/-- A registry answers alike before and after questions, and the answers to further questions are left as they are. -/
theorem index_of_told {reached : Session σ} (alike : session.Alike Eq reached)
    (told : (registry.index.apply session).1 = .ok listed)
    (uncancelled : (registry.index.apply session).2.isCancelled = false) :
    ∃ asked, registry.index.apply reached = (.ok listed, asked) ∧ asked.isCancelled = false ∧
      asked.prompter = reached.prompter ∧ reached.Asks [registry.indexPage] asked := by
  have abreast := registry.index_steady alike
  rcases ran : registry.index.apply reached with ⟨outcome, asked⟩
  rw [ran] at abreast
  obtain rfl : outcome = .ok listed := abreast.outcomes.eq.symm.trans told
  exact ⟨asked, rfl, abreast.alike.cancelled.symm.trans uncancelled, abreast.prompters.2,
    (Registry.index_inquires ran).asks_of_ok⟩

/-- Two answers choose a language and a stack of it. -/
theorem selectFrom_of_pick {speaker picker : ScriptedAnswer} (pick : Pick listed)
    (scripted : session.prompter = .scripted (speaker :: picker :: rest))
    (indexed : ∃ asked, registry.index.apply session = (.ok listed, asked) ∧ asked.isCancelled = false ∧
      asked.prompter = session.prompter ∧ session.Asks [registry.indexPage] asked)
    (speaks : speaker.Gives ScriptedAnswer.choice pick.language.val)
    (picks : picker.Gives ScriptedAnswer.choice pick.stack.val) :
    ∃ picked, picked.isCancelled = false ∧ picked.prompter = .scripted rest ∧
      session.Asks [registry.indexPage] picked ∧
      (selectFrom registry directory).apply session =
        (registry.stage (listed.get pick.position) directory).apply picked := by
  obtain ⟨asked, indexed, uncancelled, kept, asks⟩ := indexed
  have listing : ¬ listed.isEmpty = true := by
    rw [List.isEmpty_iff]
    rintro rfl
    exact pick.position.elim0
  obtain ⟨spoken, speaking, spoke, uncancelled, left, _⟩ :=
    choose_told "Select language" id pick.language (kept.trans scripted) uncancelled speaks
  obtain ⟨picked, picking, chose, uncancelled, left, _⟩ :=
    choose_told "Select project type" Stack.label pick.stack left uncancelled picks
  refine ⟨picked, uncancelled, left, asks.trans_nil (spoke.asks.trans_nil chose.asks), ?_⟩
  rw [selectFrom, apply_bind_of_ok indexed, if_neg listing, apply_bind_of_ok speaking, apply_bind_of_ok picking,
    Pick.get_position]

/-- The answers of a selection come to its stack. -/
theorem selectManifest_of_selection {index : Fin registries.length → List Stack} {script : List ScriptedAnswer}
    (selection : Selection registries index)
    (scripted : session.prompter = .scripted (script ++ rest))
    (answers : List.Forall₂ (fun answer choice => answer.Gives ScriptedAnswer.choice choice) script selection.answers)
    (told : ((registries.get selection.registry).index.apply session).1 = .ok (index selection.registry))
    (uncancelled : ((registries.get selection.registry).index.apply session).2.isCancelled = false) :
    ∃ picked, picked.isCancelled = false ∧ picked.prompter = .scripted rest ∧
      session.Asks [(registries.get selection.registry).indexPage] picked ∧
      (selectManifest registries directory).apply session =
        ((registries.get selection.registry).stage
          ((index selection.registry).get selection.pick.position) directory).apply picked := by
  rw [selectManifest_eq]
  by_cases alone : registries.length = 1
  · rw [Selection.answers, if_pos alone] at answers
    rcases answers with _ | ⟨speaks, _ | ⟨picks, _ | _⟩⟩
    rw [selectRegistry_of_alone selection.registry alone]
    exact selectFrom_of_pick selection.pick scripted (index_of_told ⟨rfl, rfl, rfl, rfl, rfl, rfl⟩ told uncancelled) speaks picks
  · rw [Selection.answers, if_neg alone] at answers
    rcases answers with _ | ⟨chooses, _ | ⟨speaks, _ | ⟨picks, _ | _⟩⟩⟩
    have configured : registries ≠ [] := by
      rintro rfl
      exact selection.registry.elim0
    obtain ⟨reached, choosing, chose, _, left, alike⟩ :=
      choose_told "Select the devfile registry" registryLabel selection.registry scripted (free_of_index uncancelled) chooses
    obtain ⟨picked, uncancelled, remaining, asks, ran⟩ :=
      selectFrom_of_pick selection.pick left (index_of_told alike told uncancelled) speaks picks
    refine ⟨picked, uncancelled, remaining, chose.asks.trans asks, ?_⟩
    rw [selectRegistry_of_several configured alone, apply_bind_of_ok choosing]
    exact ran

end

/-! ## Selecting a starter project -/

section

variable {starters : List Devfile.StarterProject} {devfile : Devfile}

/-- The item for a starter project, or for none. -/
def starterItem (starter? : Option Devfile.StarterProject) : String := (starter?.map starterLabel).getD "none"

/-- The items of the menu of starter projects. -/
def starterItems (starters : List Devfile.StarterProject) : List String := "none" :: starters.map starterLabel

/-- What an item of the menu of starter projects stands for. -/
def starterAt (starters : List Devfile.StarterProject) : Fin (starters.length + 1) → Option Devfile.StarterProject :=
  Fin.cases none fun position => some (starters.get position)

theorem selectStarter_of_none (none : devfile.starterProjects = []) :
    (selectStarter devfile : Run σ Cause (Option Devfile.StarterProject)) = pure .none := by
  rw [selectStarter, none]
  rfl

/-- Whoever answers, the menu of starter projects goes as menus do. -/
theorem selectStarter_puts (declared : devfile.starterProjects ≠ []) (session : Session σ) :
    ∃ outcome after,
      Puts "Which starter project do you want to use?" (starterItems devfile.starterProjects) session outcome after ∧
      (selectStarter devfile).apply session = (outcome.map (starterAt devfile.starterProjects), after) := by
  have size : (none :: devfile.starterProjects.map some).length = devfile.starterProjects.length + 1 := by simp
  have items : (none :: devfile.starterProjects.map some).map starterItem = starterItems devfile.starterProjects := by
    simp [starterItems, starterItem, Function.comp_def]
  have get : ∀ choice, (none :: devfile.starterProjects.map some).get (Fin.cast size.symm choice) =
      starterAt devfile.starterProjects choice := by
    intro choice
    cases choice using Fin.cases with
    | zero => rfl
    | succ position => simp [starterAt]
  obtain ⟨made, after, puts, went⟩ := exists_puts_of_length size "Which starter project do you want to use?" starterItem session
  rw [items] at puts
  refine ⟨made, after, puts, ?_⟩
  rw [selectStarter, if_neg (by simpa using declared)]
  exact went.trans (congrArg (fun value => (made.map value, after)) (funext get))

end

/-! ## All menus -/

/-- The menus on the way to a stack are safe, whoever answers, and complete, whatever the registries list. -/
structure StackMenus (σ : Type) [Storage σ] (registries : List Registry) (directory : Path) : Prop where
  /-- No menu is empty, and a selection stops for a reason in one of them, or for want of an index or of stacks in it, or
  comes to a stack. -/
  safe : ∀ (session after : Session σ) (outcome : Except Cause Manifest),
    (selectManifest registries directory).apply session = (outcome, after) →
      SelectionEnds registries directory session outcome after ∧ session.Advances Event.Offers after
  /-- The answers that the menus have are one to one with the positions in the indexes. -/
  oneToOne : ∀ index : Fin registries.length → List Stack,
    Function.Bijective (fun selection : Selection registries index => selection.target) ∧
      Function.Injective fun selection : Selection registries index => selection.answers
  /-- Such answers are all used, unless the run is cancelled by the time the index has come, and come to the devfile of the
  stack at their position in the registry. -/
  complete : ∀ (index : Fin registries.length → List Stack) (selection : Selection registries index)
    (session after : Session σ) (script rest : List ScriptedAnswer) (outcome : Except Cause Manifest),
    session.prompter = .scripted (script ++ rest) →
    List.Forall₂ (fun answer choice => answer.Gives ScriptedAnswer.choice choice) script selection.answers →
    ((registries.get selection.target.1).index.apply session).1 = .ok (index selection.target.1) →
    ((registries.get selection.target.1).index.apply session).2.isCancelled = false →
    (selectManifest registries directory).apply session = (outcome, after) →
      ∃ picked : Session σ, picked.prompter = .scripted rest ∧
        ((registries.get selection.target.1).stage ((index selection.target.1).get selection.target.2) directory).apply
          picked = (outcome, after) ∧
        session.Asks [(registries.get selection.target.1).indexPage,
          (registries.get selection.target.1).devfilePage ((index selection.target.1).get selection.target.2).name] after

/-- The menu of starter projects offers none of them first and then each by its label. -/
structure StarterMenu (σ : Type) [Storage σ] (devfile : Devfile) : Prop where
  unasked : devfile.starterProjects = [] →
    ∀ session : Session σ, (selectStarter devfile).apply session = (.ok none, session)
  asked : devfile.starterProjects ≠ [] → ∀ session : Session σ, ∃ made after,
    Puts "Which starter project do you want to use?" (starterItems devfile.starterProjects) session made after ∧
      (selectStarter devfile).apply session = (made.map (starterAt devfile.starterProjects), after) ∧
      session.Advances Event.Offers after
  first : starterAt devfile.starterProjects 0 = none
  others : ∀ position : Fin devfile.starterProjects.length,
    starterAt devfile.starterProjects position.succ = some (devfile.starterProjects.get position) ∧
      (starterItems devfile.starterProjects)[position.val + 1]? =
        some (starterLabel (devfile.starterProjects.get position))

/-- With registries configured the menus are complete and safe. -/
theorem menus_complete_and_safe [Storage σ] (configured : registries ≠ []) (directory : Path) (devfile : Devfile) :
    StackMenus σ registries directory ∧ StarterMenu σ devfile := by
  refine ⟨⟨?_, ?_, ?_⟩, ⟨?_, ?_, rfl, ?_⟩⟩
  · intro session after outcome ran
    have ends := selectManifest_ends configured ran
    exact ⟨ends, ends.offers configured⟩
  · exact fun index => ⟨Selection.target_bijective registries index, Selection.answers_injective registries index⟩
  · intro index selection session after script rest outcome scripted answers told uncancelled ran
    obtain ⟨picked, free, left, asks, same⟩ := selectManifest_of_selection selection scripted answers told uncancelled
    have staged := same.symm.trans ran
    exact ⟨picked, left, staged, asks.trans (Registry.stage_asked free staged)⟩
  · intro none session
    rw [selectStarter_of_none none]
    rfl
  · intro declared session
    obtain ⟨made, after, puts, went⟩ := selectStarter_puts declared session
    exact ⟨made, after, puts, went, puts.offers (List.cons_ne_nil _ _)⟩
  · intro position
    refine ⟨rfl, ?_⟩
    simp [starterItems]

/-- An index in which two stacks are the same and one has no language. -/
def twinStacks : List Stack :=
  [{ name := "java", language := "Java" }, { name := "java", language := "Java" }, { name := "go", language := "Other" },
    { name := "sh" }]

/-- Two registries, the second of which answers with that index. -/
def twinRegistries : List Registry := [⟨"a", "http://a.test"⟩, ⟨"b", "http://b.test"⟩]

/-- A session in which it does, and in which the second item of each menu is chosen but the first of the languages. -/
def twinSession : Session (Faulty FileTree) :=
  { files := { inner := .new ⟨"/app"⟩, faults := [], special := [], modes := [] }
    network :=
      { pages :=
          [("http://b.test/index", [.answer 200
            "[[\"java\",\"\",\"\",\"Java\"],[\"java\",\"\",\"\",\"Java\"],[\"go\",\"\",\"\",\"Other\"],[\"sh\"]]".toUTF8
            none true])] }
    prompter := .scripted [{ choice := some 1 }, { choice := some 0 }, { choice := some 1 }] }

/-- The second of the two stacks. -/
def twinSelection : Selection twinRegistries fun _ => twinStacks where
  registry := ⟨1, by decide⟩
  pick :=
    { language := ⟨0, by decide +kernel⟩
      stack := ⟨1, by rw [stacksOf, List.length_mergeSort]; decide +kernel⟩ }

private theorem twinSelection_position : twinSelection.pick.position = ⟨1, by decide⟩ := by
  have places : positionsOf ((languages twinStacks).get twinSelection.pick.language) twinStacks =
      [⟨0, by decide⟩, ⟨1, by decide⟩] := by
    rw [positionsOf, List.mergeSort_of_pairwise (by decide +kernel)]
    decide +kernel
  exact List.get_of_eq places _

/-- The second of two stacks that are the same is chosen, and its devfile is asked for. -/
theorem menus_complete_and_safe_twins :
    twinRegistries ≠ [] ∧ twinSelection.answers = [1, 0, 1] ∧ twinSelection.target = ⟨⟨1, by decide⟩, ⟨1, by decide⟩⟩ ∧
      ((Registry.index ⟨"b", "http://b.test"⟩).apply twinSession).1 = .ok twinStacks ∧
      ((Registry.index ⟨"b", "http://b.test"⟩).apply twinSession).2.isCancelled = false ∧
      twinSession.Asks [.page "http://b.test/index", .page "http://b.test/devfiles/java"]
        ((selectManifest twinRegistries ⟨"/app"⟩).apply twinSession).2 := by
  have configured : twinRegistries ≠ [] := List.cons_ne_nil _ _
  have told : ((Registry.index ⟨"b", "http://b.test"⟩).apply twinSession).1 = .ok twinStacks ∧
      ((Registry.index ⟨"b", "http://b.test"⟩).apply twinSession).2.isCancelled = false := by decide +kernel
  have gives : ∀ choice : Nat, ScriptedAnswer.Gives ScriptedAnswer.choice { choice := some choice } choice :=
    fun _ => ⟨rfl, rfl, rfl⟩
  have answers : List.Forall₂ (fun (answer : ScriptedAnswer) choice => answer.Gives ScriptedAnswer.choice choice)
      [{ choice := some 1 }, { choice := some 0 }, { choice := some 1 }] twinSelection.answers :=
    .cons (gives 1) (.cons (gives 0) (.cons (gives 1) .nil))
  obtain ⟨menus, _⟩ := menus_complete_and_safe (σ := Faulty FileTree) configured ⟨"/app"⟩ { schemaVersion := "2.2.0" }
  rcases ran : (selectManifest twinRegistries ⟨"/app"⟩).apply twinSession with ⟨outcome, after⟩
  obtain ⟨_, _, _, asks⟩ :=
    menus.complete (fun _ => twinStacks) twinSelection twinSession after _ [] outcome rfl answers told.1 told.2 ran
  have name : (twinStacks.get twinSelection.target.2).name = "java" :=
    congrArg (fun position => (twinStacks.get position).name) twinSelection_position
  have index : Registry.indexUrl ⟨"b", "http://b.test"⟩ = "http://b.test/index" := by decide +kernel
  have devfile : Registry.devfileUrl ⟨"b", "http://b.test"⟩ "java" = "http://b.test/devfiles/java" := by decide +kernel
  rw [name] at asks
  refine ⟨configured, rfl, congrArg (Sigma.mk twinSelection.registry) twinSelection_position, told.1, told.2, ?_⟩
  rw [← index, ← devfile]
  exact asks

end Interactive

end Scaffold
