import Mathlib.Data.List.Forall2
import Scaffold.Backend.Interactive
import Scaffold.Files.Tree
import Scaffold.Proofs.Name
import Scaffold.Proofs.Session.Asking

/-! # Asking for a name

The user is asked for a name until an answer is acceptable: a blank one, which stands for the name that is offered, or
one that is a name when it is trimmed. Each other text is turned down with a notice and the same question is put again;
anything but a text ends the dialogue. What comes out of a script of answers is therefore told by its first answer that
is not turned down, and no more questions are put than there are answers, but for one that nobody answers.
-/

namespace Scaffold

theorem Name.validate_eq_error {name : String} {cause : Cause} (refused : validate name = .error cause) :
    ∃ reason, cause = .nameInvalid name reason := by
  unfold validate at refused
  split at refused
  · exact ⟨_, (Except.error.inj refused).symm⟩
  · split at refused
    · cases refused
    · exact ⟨_, (Except.error.inj refused).symm⟩

/-- The question that an event puts. -/
def Event.question? : Event → Option Question
  | .question asked => some asked
  | _ => none

/-- The notice that an event shows. -/
def Event.notice? : Event → Option String
  | .notice message => some message
  | _ => none

namespace Interactive

variable {σ : Type} {offered name : String} {answer : ScriptedAnswer} {script passed rest : List ScriptedAnswer}
  {causes : List Cause} {session after : Session σ} {outcome : Except Cause String}

/-- The name that a text tells. -/
def told (text : String) : String := String.ofList (Text.trim text.toList)

/-- The question for a name. -/
def nameQuestion (offered : String) : Question := .input "Enter component name" offered

/-! ## One answer -/

/-- An answer names the component: a blank text stands for the name that is offered, and any other text is trimmed. -/
inductive Names (offered : String) (answer : ScriptedAnswer) : String → Prop
  | blank (text : String) (gives : answer.Gives ScriptedAnswer.text text) (blank : told text = "") :
      Names offered answer offered
  | filled (text : String) (gives : answer.Gives ScriptedAnswer.text text) (filled : told text ≠ "")
      (valid : Name.validate (told text) = .ok ()) : Names offered answer (told text)

/-- An answer is turned down: it is a text, not blank, that is no name even when it is trimmed. -/
inductive TurnedDown (answer : ScriptedAnswer) : Cause → Prop
  | intro (text reason : String) (gives : answer.Gives ScriptedAnswer.text text) (filled : told text ≠ "")
      (invalid : Name.validate (told text) = .error (.nameInvalid (told text) reason)) :
      TurnedDown answer (.nameInvalid (told text) reason)

/-- An answer names the component, is turned down, or stops the run. -/
theorem answer_cases (offered : String) (answer : ScriptedAnswer) :
    (∃ name, Names offered answer name) ∨ (∃ cause, TurnedDown answer cause) ∨
      ∃ cause, answer.Stops ScriptedAnswer.text cause := by
  rcases answer.gives_or_stops ScriptedAnswer.text with ⟨text, gives⟩ | stops
  · by_cases blank : told text = ""
    · exact .inl ⟨offered, .blank text gives blank⟩
    · cases valid : Name.validate (told text) with
      | ok _ => exact .inl ⟨told text, .filled text gives blank valid⟩
      | error cause =>
        obtain ⟨reason, rfl⟩ := Name.validate_eq_error valid
        exact .inr (.inl ⟨_, .intro text reason gives blank valid⟩)
  · exact .inr (.inr stops)

theorem Names.valid (valid : Name.validate offered = .ok ()) (names : Names offered answer name) :
    Name.validate name = .ok () := by
  cases names with
  | blank _ _ _ => exact valid
  | filled _ _ _ valid => exact valid

/-- What is made of a text, before it is known whether it is a name. -/
theorem answer_eq (offered text : String) :
    (if (Text.trim text.toList).isEmpty then offered else String.ofList (Text.trim text.toList)) =
      if told text = "" then offered else told text := by
  have same : (Text.trim text.toList).isEmpty = true ↔ told text = "" := by
    rw [told, ← String.toList_inj, String.toList_ofList, List.isEmpty_iff]
    rfl
  by_cases blank : told text = ""
  · rw [if_pos (same.mpr blank), if_pos blank]
  · rw [if_neg (mt same.mp blank), if_neg blank, told]

/-- A round begins with the question. -/
theorem askName_of_gives {text : String} {fuel : Nat} (scripted : session.prompter = .scripted (answer :: rest))
    (free : session.isCancelled = false) (gives : answer.Gives ScriptedAnswer.text text) :
    (askName offered (fuel + 1)).apply session =
      (match Name.validate (if told text = "" then offered else told text) with
        | .ok () => pure (if told text = "" then offered else told text)
        | .error cause => do
          Run.notice cause.message
          askName offered fuel : Run σ Cause String).apply
        (session.heard [.question (nameQuestion offered)] rest) := by
  rw [askName, Run.apply_bind_of_ok (Run.input_of_gives scripted free gives)]
  dsimp only
  rw [answer_eq]
  cases Name.validate (if told text = "" then offered else told text) with
  | ok _ => rfl
  | error _ => rfl

theorem askName_of_names {fuel : Nat} (valid : Name.validate offered = .ok ())
    (scripted : session.prompter = .scripted (answer :: rest)) (free : session.isCancelled = false)
    (names : Names offered answer name) :
    (askName offered (fuel + 1)).apply session =
      (.ok name, session.heard [.question (nameQuestion offered)] rest) := by
  cases names with
  | blank text gives blank =>
    rw [askName_of_gives scripted free gives, if_pos blank, valid]
    rfl
  | filled text gives filled valid =>
    rw [askName_of_gives scripted free gives, if_neg filled, valid]
    rfl

/-- After an answer that is turned down the question is put again. -/
theorem askName_of_turnedDown {fuel : Nat} {cause : Cause} (scripted : session.prompter = .scripted (answer :: rest))
    (free : session.isCancelled = false) (turned : TurnedDown answer cause) :
    (askName offered (fuel + 1)).apply session =
      (askName offered fuel).apply
        (session.heard [.question (nameQuestion offered), .notice cause.message] rest) := by
  cases turned with
  | intro text reason gives filled invalid =>
    rw [askName_of_gives scripted free gives, if_neg filled, invalid]
    dsimp only
    rw [Run.notice, Run.apply_bind_of_ok (Run.apply_note _ _)]
    simp [Session.note, Session.heard, Event.cancels]

theorem askName_of_stops {fuel : Nat} {cause : Cause} (scripted : session.prompter = .scripted (answer :: rest))
    (free : session.isCancelled = false) (stops : answer.Stops ScriptedAnswer.text cause) :
    (askName offered (fuel + 1)).apply session =
      (.error cause, session.heard (answer.events (nameQuestion offered)) rest) := by
  rw [askName]
  exact Run.apply_bind_of_error (Run.input_of_stops scripted free stops)

theorem askName_of_exhausted {fuel : Nat} (scripted : session.prompter = .scripted [])
    (free : session.isCancelled = false) :
    (askName offered (fuel + 1)).apply session =
      (.error (.prompt "no scripted answer left"), session.heard [.question (nameQuestion offered)] []) := by
  rw [askName]
  refine Run.apply_bind_of_error ?_
  rw [Run.input_eq, Run.asking_of_exhausted scripted free]
  rfl

/-! ## The whole script -/

/-- What happens while answers are turned down: the question is put and a notice is shown, time and again. -/
def rounds (offered : String) (causes : List Cause) : List Event :=
  causes.flatMap fun cause => [.question (nameQuestion offered), .notice cause.message]

theorem rounds_cancels (offered : String) (causes : List Cause) : (rounds offered causes).any Event.cancels = false := by
  simp [rounds, List.any_flatMap, Event.cancels]

theorem rounds_consults (offered : String) (causes : List Cause) : ∀ event ∈ rounds offered causes, event.Consults := by
  intro event member
  obtain ⟨cause, _, within⟩ := List.mem_flatMap.mp member
  rcases List.mem_pair.mp within with rfl | rfl <;> trivial

theorem questions_rounds (offered : String) (causes : List Cause) :
    (rounds offered causes).filterMap Event.question? = List.replicate causes.length (nameQuestion offered) := by
  induction causes with
  | nil => rfl
  | cons cause causes ih => exact congrArg (nameQuestion offered :: ·) ih

theorem notices_rounds (offered : String) (causes : List Cause) :
    (rounds offered causes).filterMap Event.notice? = causes.map Cause.message := by
  induction causes with
  | nil => rfl
  | cons cause causes ih => exact congrArg (cause.message :: ·) ih

/-- How the dialogue about the name ends: with the first answer that is not turned down, or with the script. -/
inductive NamingEnds (offered : String) (script : List ScriptedAnswer) (session : Session σ) :
    Except Cause String → Session σ → Prop
  /-- The answers before one that names the component are turned down. -/
  | named (passed rest : List ScriptedAnswer) (answer : ScriptedAnswer) (causes : List Cause) (name : String)
      (cut : script = passed ++ answer :: rest) (turned : List.Forall₂ TurnedDown passed causes)
      (names : Names offered answer name) :
      NamingEnds offered script session (.ok name)
        (session.heard (rounds offered causes ++ [.question (nameQuestion offered)]) rest)
  /-- The answers before one that stops the run are turned down. -/
  | stopped (passed rest : List ScriptedAnswer) (answer : ScriptedAnswer) (causes : List Cause) (cause : Cause)
      (cut : script = passed ++ answer :: rest) (turned : List.Forall₂ TurnedDown passed causes)
      (stops : answer.Stops ScriptedAnswer.text cause) :
      NamingEnds offered script session (.error cause)
        (session.heard (rounds offered causes ++ answer.events (nameQuestion offered)) rest)
  /-- All answers are turned down, and nobody answers the last question. -/
  | exhausted (causes : List Cause) (turned : List.Forall₂ TurnedDown script causes) :
      NamingEnds offered script session (.error (.prompt "no scripted answer left"))
        (session.heard (rounds offered causes ++ [.question (nameQuestion offered)]) [])

/-- Answers that are turned down only lead to the answers after them. -/
theorem askName_of_passed {fuel : Nat} (scripted : session.prompter = .scripted (passed ++ rest))
    (free : session.isCancelled = false) (turned : List.Forall₂ TurnedDown passed causes) :
    (askName offered (passed.length + fuel)).apply session =
      (askName offered fuel).apply (session.heard (rounds offered causes) rest) := by
  induction turned generalizing session with
  | nil =>
    have same : session.heard [] rest = session := by
      rw [Session.heard, ← (show session.prompter = .scripted rest from scripted)]
      simp
    rw [rounds, List.flatMap_nil, same, List.length_nil, Nat.zero_add]
  | @cons answer cause passed causes turned _ ih =>
    have first : (askName offered (passed.length + fuel + 1)).apply session = _ :=
      askName_of_turnedDown scripted free turned
    rw [List.length_cons, Nat.add_right_comm, first, ih rfl (by simp [Session.heard, free, Event.cancels]),
      Session.heard_heard]
    rfl

theorem askName_of_namingEnds (valid : Name.validate offered = .ok ()) (scripted : session.prompter = .scripted script)
    (free : session.isCancelled = false) (ends : NamingEnds offered script session outcome after) :
    (askName offered (script.length + 1)).apply session = (outcome, after) := by
  have still : ∀ {causes left}, (session.heard (rounds offered causes) left).isCancelled = false := by
    simp [Session.heard, free, rounds_cancels]
  cases ends with
  | named passed rest answer causes name cut turned names =>
    subst cut
    rw [List.length_append, Nat.add_assoc, askName_of_passed scripted free turned, askName_of_names valid rfl still names,
      Session.heard_heard]
  | stopped passed rest answer causes cause cut turned stops =>
    subst cut
    rw [List.length_append, Nat.add_assoc, askName_of_passed scripted free turned, askName_of_stops rfl still stops,
      Session.heard_heard]
  | exhausted causes turned =>
    rw [← List.append_nil script] at scripted
    rw [askName_of_passed scripted free turned, askName_of_exhausted rfl still, Session.heard_heard]

/-- Every script ends the dialogue in one of the three ways. -/
theorem exists_namingEnds (offered : String) (script : List ScriptedAnswer) (session : Session σ) :
    ∃ outcome after, NamingEnds offered script session outcome after := by
  have cuts : (∃ causes, List.Forall₂ TurnedDown script causes) ∨ ∃ passed answer rest causes,
      script = passed ++ answer :: rest ∧ List.Forall₂ TurnedDown passed causes ∧
        ((∃ name, Names offered answer name) ∨ ∃ cause, answer.Stops ScriptedAnswer.text cause) := by
    induction script with
    | nil => exact .inl ⟨[], .nil⟩
    | cons answer rest ih =>
      rcases answer_cases offered answer with names | ⟨cause, turned⟩ | stops
      · exact .inr ⟨[], answer, rest, [], rfl, .nil, .inl names⟩
      · rcases ih with ⟨causes, all⟩ | ⟨passed, other, left, causes, rfl, before, settles⟩
        · exact .inl ⟨cause :: causes, .cons turned all⟩
        · exact .inr ⟨answer :: passed, other, left, cause :: causes, rfl, .cons turned before, settles⟩
      · exact .inr ⟨[], answer, rest, [], rfl, .nil, .inr stops⟩
  rcases cuts with ⟨causes, turned⟩ | ⟨passed, answer, rest, causes, cut, turned, ⟨name, names⟩ | ⟨cause, stops⟩⟩
  · exact ⟨_, _, .exhausted causes turned⟩
  · exact ⟨_, _, .named passed rest answer causes name cut turned names⟩
  · exact ⟨_, _, .stopped passed rest answer causes cause cut turned stops⟩

/-- The dialogue puts one question alone, at most once for each answer and once more, and shows one notice less. -/
theorem NamingEnds.asked [Storage σ] (ends : NamingEnds offered script session outcome after) :
    ∃ events count, session.Leads events after ∧ count ≤ script.length ∧
      events.filterMap Event.question? = List.replicate (count + 1) (nameQuestion offered) ∧
      (events.filterMap Event.notice?).length = count := by
  have last : ∀ {causes : List Cause} {events : List Event},
      events.filterMap Event.question? = [nameQuestion offered] → events.filterMap Event.notice? = [] →
      ((rounds offered causes ++ events).filterMap Event.question? =
          List.replicate (causes.length + 1) (nameQuestion offered) ∧
        ((rounds offered causes ++ events).filterMap Event.notice?).length = causes.length) := by
    intro causes events questions notices
    simp [List.filterMap_append, questions, notices, questions_rounds, notices_rounds, List.replicate_succ']
  have answered : ∀ answer : ScriptedAnswer,
      (answer.events (nameQuestion offered)).filterMap Event.question? = [nameQuestion offered] ∧
        (answer.events (nameQuestion offered)).filterMap Event.notice? = [] ∧
        ∀ event ∈ answer.events (nameQuestion offered), event.Consults := by
    intro answer
    unfold ScriptedAnswer.events
    cases answer.cancels <;> simp [Event.question?, Event.notice?, Event.Consults]
  have leads : ∀ {causes : List Cause} {events : List Event} {left : List ScriptedAnswer},
      (∀ event ∈ events, event.Consults) →
        session.Leads (rounds offered causes ++ events) (session.heard (rounds offered causes ++ events) left) := by
    intro causes events left consults
    exact Session.leads_heard (List.forall_mem_append.mpr ⟨rounds_consults offered causes, consults⟩)
  cases ends with
  | named passed rest answer causes name cut turned names =>
    refine ⟨_, causes.length, leads (by simp [Event.Consults]), ?_, last rfl rfl⟩
    rw [cut, ← turned.length_eq, List.length_append]
    exact Nat.le_add_right _ _
  | stopped passed rest answer causes cause cut turned stops =>
    obtain ⟨questions, notices, consults⟩ := answered answer
    refine ⟨_, causes.length, leads consults, ?_, last questions notices⟩
    rw [cut, ← turned.length_eq, List.length_append]
    exact Nat.le_add_right _ _
  | exhausted causes turned =>
    exact ⟨_, causes.length, leads (by simp [Event.Consults]), Nat.le_of_eq turned.length_eq.symm, last rfl rfl⟩

/-- With a script of answers the name is the one that the first acceptable answer gives, if only texts that are no names
come before it; the question is always the same, with a name in it that is valid, it is put once more than a notice is
shown, at most once for each answer and once more, and what is returned is a name. -/
theorem chooseName_takes_first_name [Storage σ] (devfile : Devfile) (directory : Path)
    (scripted : session.prompter = .scripted script) (free : session.isCancelled = false)
    (offers : Name.suggest devfile.metadata.name?.toList directory = offered) :
    Name.validate offered = .ok () ∧
      (∀ outcome after, (chooseName devfile directory).apply session = (outcome, after) ↔
        NamingEnds offered script session outcome after) ∧
      ∀ outcome after, (chooseName devfile directory).apply session = (outcome, after) →
        (∃ events count, session.Leads events after ∧ count ≤ script.length ∧
          events.filterMap Event.question? = List.replicate (count + 1) (nameQuestion offered) ∧
          (events.filterMap Event.notice?).length = count) ∧
        ∀ name, outcome = .ok name → Name.validate name = .ok () := by
  have valid : Name.validate offered = .ok () := offers ▸ Name.validate_suggest _ _
  have runs : ∀ {outcome after}, (chooseName devfile directory).apply session = (outcome, after) ↔
      NamingEnds offered script session outcome after := by
    intro outcome after
    have asks : (chooseName devfile directory).apply session = (askName offered (script.length + 1)).apply session := by
      rw [chooseName, Run.apply_bind_of_ok (Run.apply_get _), offers, scripted]
      rfl
    rw [asks]
    refine ⟨fun ran => ?_, askName_of_namingEnds valid scripted free⟩
    obtain ⟨other, last, ends⟩ := exists_namingEnds offered script session
    obtain ⟨rfl, rfl⟩ := Prod.mk.inj ((askName_of_namingEnds valid scripted free ends).symm.trans ran)
    exact ends
  refine ⟨valid, fun _ _ => runs, fun outcome after ran => ⟨(runs.mp ran).asked, ?_⟩⟩
  rintro name rfl
  cases runs.mp ran with
  | named passed rest answer causes _ cut turned names => exact names.valid valid

/-- A user who tries two texts that are no names, gives up with a blank one, and would have gone on. -/
def hesitantAnswers : List ScriptedAnswer :=
  [{ text := some "My Shop" }, { text := some " -shop" }, { text := some "\t " }, { failure := some "gone" }]

/-- A devfile of Node.js. -/
def nodeDevfile : Devfile := { schemaVersion := "2.2.0", metadata := { name? := some "Node.js" } }

/-- A session with this user. -/
def hesitantSession : Session FileTree := { files := .new ⟨"/app"⟩, prompter := .scripted hesitantAnswers }

/-- The name that is offered is taken, after three questions and two notices. -/
theorem chooseName_takes_first_name_hesitant :
    Name.suggest nodeDevfile.metadata.name?.toList ⟨"/app"⟩ = "node-js" ∧
      ∃ after, (chooseName nodeDevfile ⟨"/app"⟩).apply hesitantSession = (.ok "node-js", after) ∧
        NamingEnds "node-js" hesitantAnswers hesitantSession (.ok "node-js") after ∧
        Name.validate "node-js" = .ok () := by
  have offers : Name.suggest nodeDevfile.metadata.name?.toList ⟨"/app"⟩ = "node-js" := by decide +kernel
  have told : ((chooseName nodeDevfile ⟨"/app"⟩).apply hesitantSession).1 = .ok "node-js" := by decide +kernel
  have ran : (chooseName nodeDevfile ⟨"/app"⟩).apply hesitantSession = (_, _) := Prod.ext told rfl
  have scripted : hesitantSession.prompter = .scripted hesitantAnswers := rfl
  obtain ⟨_, runs, names⟩ := chooseName_takes_first_name nodeDevfile ⟨"/app"⟩ scripted rfl offers
  exact ⟨offers, _, ran, (runs _ _).mp ran, (names _ _ ran).2 _ rfl⟩

end Interactive

end Scaffold
