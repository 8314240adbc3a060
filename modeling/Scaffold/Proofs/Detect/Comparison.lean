import Scaffold.Backend.Detection
import Scaffold.Proofs.Detect.BestMatch
import Scaffold.Proofs.Session.Apply

/-! # Comparing registries

Registries are asked for their indexes one after another, and the best match of each is compared with the best so far. Put
together, the indexes that were had are one list, in which each stack comes with its registry. The comparison finds the
best match of that list and the registry that offers it first, whatever registries failed in between; only if nothing
fits is the first failure told.
-/

namespace Scaffold

/-- What a registry answers that is asked for its index. -/
abbrev IndexAnswer := Registry × Except Cause (List Stack)

namespace IndexAnswer

/-- The stacks that a registry offers: none if its index could not be had. -/
def offers (answer : IndexAnswer) : List (Registry × Stack) :=
  match answer.2 with
  | .ok listed => listed.map fun stack => (answer.1, stack)
  | .error _ => []

/-- Why an index could not be had. -/
def failure? (answer : IndexAnswer) : Option Cause :=
  match answer.2 with
  | .ok _ => none
  | .error cause => some cause

end IndexAnswer

/-- What registries answer that are asked for their indexes one after another, and the session after that. -/
def Registry.poll {σ : Type} : List Registry → Session σ → List IndexAnswer × Session σ
  | [], session => ([], session)
  | registry :: rest, session =>
    let (answer, asked) := registry.index.apply session
    let (answers, after) := poll rest asked
    ((registry, answer) :: answers, after)

theorem Registry.poll_registries {σ : Type} (registries : List Registry) (session : Session σ) :
    (poll registries session).1.map Prod.fst = registries := by
  induction registries generalizing session with
  | nil => rfl
  | cons registry rest ih => exact congrArg (registry :: ·) (ih _)

namespace Detection

open IndexAnswer (offers failure?)

variable {signals : Signals} {directory : Path} {answers : List IndexAnswer} {best? : Option Match}

/-! ## Answer by answer -/

/-- The best match after one more answer. -/
def compare (signals : Signals) (best? : Option Match) (answer : IndexAnswer) : Option Match :=
  match answer.2 with
  | .error _ => best?
  | .ok listed =>
    match matchIn? signals answer.1 listed with
    | none => best?
    | some challenger => better best? challenger

theorem compare_error (registry : Registry) (cause : Cause) : compare signals best? (registry, .error cause) = best? := rfl

theorem compare_ok (registry : Registry) (listed : List Stack) :
    compare signals best? (registry, .ok listed) =
      match matchIn? signals registry listed with
      | none => best?
      | some challenger => better best? challenger := rfl

/-- What a comparison ends with: the best match, or else the first failure. -/
def verdict (directory : Path) (best? : Option Match) (failure? : Option Cause) : Except Cause Match :=
  match best?, failure? with
  | some best, _ => .ok best
  | none, some failure => .error failure
  | none, none => .error (.detectionFailed directory)

/-- Comparing registries is comparing their answers, as long as none of them is a cancellation. -/
theorem bestFrom_apply {σ : Type} {registries : List Registry} {session after : Session σ} (signals : Signals)
    (directory : Path) (best? : Option Match) (failed? : Option Cause)
    (polled : Registry.poll registries session = (answers, after))
    (uncancelled : ∀ answer ∈ answers, answer.2 ≠ .error .cancelled) :
    (bestFrom signals directory best? failed? registries).apply session =
      (verdict directory (answers.foldl (compare signals) best?) (failed? <|> (answers.filterMap failure?).head?),
        after) := by
  induction registries generalizing session best? failed? answers with
  | nil =>
    obtain ⟨rfl, rfl⟩ := Prod.mk.inj polled
    unfold bestFrom
    cases best? with
    | some best => rfl
    | none => cases failed? <;> rfl
  | cons registry rest ih =>
    rcases indexed : registry.index.apply session with ⟨cause | listed, asked⟩
    all_goals
      rcases later : Registry.poll rest asked with ⟨others, last⟩
      rw [Registry.poll, indexed] at polled
      dsimp only at polled
      rw [later] at polled
      obtain ⟨rfl, rfl⟩ := Prod.mk.inj polled
      have onward := fun best? failed? => ih best? failed? later fun other member =>
        uncancelled other (List.mem_cons_of_mem _ member)
      rw [bestFrom, Run.apply_bind_of_ok (Run.apply_attempt _ _), indexed, List.foldl_cons]
      dsimp only
    · -- The first failure is kept, whichever answers follow.
      have kept : ((failed? <|> some cause) <|> (others.filterMap failure?).head?) =
          (failed? <|> (List.filterMap failure? ((registry, .error cause) :: others)).head?) := by
        cases failed? <;> rfl
      rw [compare_error, ← kept, ← onward]
      split
      · rename_i same
        cases same
        exact absurd rfl (uncancelled _ List.mem_cons_self)
      · rename_i same
        cases same
        rfl
      · rename_i same
        cases same
    · rw [compare_ok]
      cases matchIn? signals registry listed with
      | none => exact onward _ _
      | some challenger => exact onward _ _

/-! ## All answers at once -/

/-- All stacks that are offered, each with its registry, in the order of the answers. -/
def offered (answers : List IndexAnswer) : List (Registry × Stack) := answers.flatMap offers

/-- A match as a stack with its score. -/
def Match.rated (best : Match) : Stack × Nat := (best.stack, best.score)

/-- The best match so far, and the registry that offers it first. -/
structure Leads (signals : Signals) (offered : List (Registry × Stack)) (best? : Option Match) : Prop where
  best : best?.map Match.rated = signals.bestMatch (offered.map Prod.snd)
  first : ∀ best ∈ best?, offered.find? (Signals.ranksAs signals.score best.rated ∘ Prod.snd) = some (best.registry, best.stack)

theorem matchIn?_rated (signals : Signals) (registry : Registry) (listed : List Stack) :
    (matchIn? signals registry listed).map Match.rated = signals.bestMatch listed := by
  rw [matchIn?, Option.map_map]
  exact Option.map_id_apply

theorem registry_of_matchIn? {registry : Registry} {listed : List Stack} {challenger : Match}
    (found : matchIn? signals registry listed = some challenger) : challenger.registry = registry := by
  obtain ⟨_, _, rfl⟩ := Option.map_eq_some_iff.mp found
  rfl

theorem better_rated (best? : Option Match) (challenger : Match) :
    (better best? challenger).map Match.rated = Signals.better (best?.map Match.rated) challenger.rated := by
  cases best? with
  | none => rfl
  | some best =>
    rw [better, Option.map_some, Signals.better]
    split
    · rename_i ahead
      exact (if_pos ahead).symm
    · rename_i behind
      exact (if_neg behind).symm

/-- The challenger takes the place of the best so far if it beats it, or if there is none. -/
theorem better_cases (best? : Option Match) (challenger : Match) :
    better best? challenger = best? ∨
      better best? challenger = some challenger ∧
        ∀ best ∈ best?, Signals.beats challenger.rated best.rated = true := by
  cases best? with
  | none => exact .inr ⟨rfl, nofun⟩
  | some best =>
    rw [better]
    split
    · rename_i ahead
      exact .inr ⟨rfl, fun _ same => Option.some.inj same ▸ ahead⟩
    · exact .inl rfl

/-- The first stack of a list that ranks as some stack does is offered first, too. -/
theorem find?_offers (registry : Registry) (listed : List Stack) (ranks : Stack → Bool) :
    (offers (registry, .ok listed)).find? (ranks ∘ Prod.snd) =
      (listed.find? ranks).map fun stack => (registry, stack) := by
  rw [offers, List.find?_map]
  rfl

theorem stacks_offers (registry : Registry) (listed : List Stack) :
    (offers (registry, .ok listed)).map Prod.snd = listed := by
  rw [offers, List.map_map]
  exact List.map_id' _

/-- No stack that was offered before ranks as one that beats the best of them. -/
theorem Leads.find?_eq_none {offered : List (Registry × Stack)} {challenger : Match} (leads : Leads signals offered best?)
    (fits : 0 < challenger.rated.2) (ahead : ∀ best ∈ best?, Signals.beats challenger.rated best.rated = true) :
    offered.find? (Signals.ranksAs signals.score challenger.rated ∘ Prod.snd) = none := by
  have settles := Signals.bestBy_settles signals.score (offered.map Prod.snd)
  rw [← Signals.bestMatch_eq, ← leads.best] at settles
  have missing : (offered.map Prod.snd).find? (Signals.ranksAs signals.score challenger.rated) = none := by
    refine settles.find?_eq_none fits ?_
    intro best same
    obtain ⟨earlier, before, rfl⟩ := Option.map_eq_some_iff.mp same
    exact ahead earlier before
  rw [List.find?_map] at missing
  exact Option.map_eq_none_iff.mp missing

/-- One more answer is taken into the comparison. -/
theorem Leads.compare {offered : List (Registry × Stack)} (leads : Leads signals offered best?) (answer : IndexAnswer) :
    Leads signals (offered ++ offers answer) (compare signals best? answer) := by
  obtain ⟨registry, result⟩ := answer
  cases result with
  | error cause =>
    rw [offers, List.append_nil]
    exact leads
  | ok listed =>
    have told := matchIn?_rated signals registry listed
    have all : signals.bestMatch ((offered ++ offers (registry, .ok listed)).map Prod.snd) =
        Signals.rival? (best?.map Match.rated) ((matchIn? signals registry listed).map Match.rated) := by
      rw [List.map_append, stacks_offers, Signals.bestMatch_append, leads.best, told]
    rw [compare_ok]
    cases found : matchIn? signals registry listed with
    | none =>
      rw [found] at all
      refine ⟨all.symm, fun best same => ?_⟩
      rw [List.find?_append, leads.first best same, Option.some_or]
    | some challenger =>
      rw [found] at all told
      have isBest := Signals.bestBy_eq_some_iff.mp ((Signals.bestMatch_eq _ _).symm.trans told.symm)
      refine ⟨(better_rated best? challenger).trans all.symm, fun best same => ?_⟩
      dsimp only at same
      rw [List.find?_append]
      rcases better_cases best? challenger with stays | ⟨replaced, ahead⟩
      · rw [leads.first best (stays ▸ same), Option.some_or]
      · rw [replaced] at same
        obtain rfl := Option.some.inj same
        rw [leads.find?_eq_none isBest.fits ahead, Option.none_or, find?_offers, isBest.first,
          registry_of_matchIn? found]
        rfl

/-- The comparison goes on from the answers that came to all of them. -/
theorem Leads.foldl_compare {seen : List (Registry × Stack)} (leads : Leads signals seen best?)
    (answers : List IndexAnswer) :
    Leads signals (seen ++ offered answers) (answers.foldl (Detection.compare signals) best?) := by
  induction answers generalizing seen best? with
  | nil =>
    rw [offered, List.flatMap_nil, List.append_nil]
    exact leads
  | cons answer rest ih =>
    have step := ih (leads.compare answer)
    rw [List.append_assoc] at step
    exact step

theorem leads_foldl_compare (signals : Signals) (answers : List IndexAnswer) :
    Leads signals (offered answers) (answers.foldl (compare signals) none) := by
  have nothing : Leads signals [] none := ⟨rfl, fun best same => by cases same⟩
  exact nothing.foldl_compare answers

/-- Comparing registries finds the best match of all that they list, and the registry that offers it first, whichever
others failed; where nothing fits, the first failure is told, or that nothing was detected. -/
theorem bestFrom_finds_bestMatch {σ : Type} {registries : List Registry} {session after : Session σ} (directory : Path)
    (polled : Registry.poll registries session = (answers, after))
    (uncancelled : ∀ answer ∈ answers, answer.2 ≠ .error .cancelled) :
    answers.map Prod.fst = registries ∧
      (∀ stack score, signals.bestMatch ((offered answers).map Prod.snd) = some (stack, score) →
        ∃ registry earlier later, (bestFrom signals directory none none registries).apply session =
            (.ok ⟨registry, stack, score⟩, after) ∧
          offered answers = earlier ++ (registry, stack) :: later ∧
            ∀ offer ∈ earlier, ¬ (signals.score offer.2 = score ∧ offer.2.name = stack.name)) ∧
      (signals.bestMatch ((offered answers).map Prod.snd) = none →
        (bestFrom signals directory none none registries).apply session =
          (.error ((answers.filterMap failure?).head?.getD (.detectionFailed directory)), after)) := by
  have ran := bestFrom_apply signals directory none none polled uncancelled
  have leads := leads_foldl_compare signals answers
  generalize answers.foldl (compare signals) none = best? at ran leads
  refine ⟨?_, fun stack score found => ?_, fun missing => ?_⟩
  · have all := Registry.poll_registries registries session
    rwa [polled] at all
  · rw [← leads.best] at found
    obtain ⟨best, rfl, same⟩ := Option.map_eq_some_iff.mp found
    obtain ⟨rfl, rfl⟩ := Prod.mk.inj same
    obtain ⟨_, earlier, later, cut, unlike⟩ := List.find?_eq_some_iff_append.mp (leads.first best rfl)
    refine ⟨best.registry, earlier, later, ran, cut, fun offer member alike => ?_⟩
    have unlike := unlike offer member
    rw [Function.comp_apply, Signals.ranksAs_iff.mpr alike] at unlike
    cases unlike
  · rw [← leads.best] at missing
    obtain rfl := Option.map_eq_none_iff.mp missing
    rw [ran]
    cases (answers.filterMap failure?).head? <;> rfl

/-- Registries of which one has no index and two list a stack of the same name for the same language. -/
def tiedRegistries : List Registry := [⟨"a", "http://a.test"⟩, ⟨"b", "http://b.test"⟩, ⟨"c", "http://c.test"⟩]

/-- A session in which they answer. -/
def tiedSession : Session Unit :=
  { files := ()
    network :=
      { pages :=
          [("http://b.test/index", [.answer 200 "[[\"java\",\"one\",\"\",\"Java\"]]".toUTF8 none true]),
            ("http://c.test/index", [.answer 200 "[[\"java\",\"two\",\"\",\"Java\"]]".toUTF8 none true])] } }

private theorem tiedSession_bestMatch :
    Signals.javaSignals.bestMatch ((offered (Registry.poll tiedRegistries tiedSession).1).map Prod.snd) =
      some ({ name := "java", displayName := "one", language := "Java" }, 10) := by
  decide +kernel

/-- The registry without an index is passed over, and of the other two the first one is taken. -/
theorem bestFrom_finds_bestMatch_tied :
    (∀ answer ∈ (Registry.poll tiedRegistries tiedSession).1, answer.2 ≠ .error .cancelled) ∧
      ∃ registry earlier later,
        ((bestFrom Signals.javaSignals ⟨"/app"⟩ none none tiedRegistries).apply tiedSession).1 =
            .ok ⟨registry, { name := "java", displayName := "one", language := "Java" }, 10⟩ ∧
          offered (Registry.poll tiedRegistries tiedSession).1 =
            earlier ++ (registry, { name := "java", displayName := "one", language := "Java" }) :: later := by
  have uncancelled : ∀ answer ∈ (Registry.poll tiedRegistries tiedSession).1, answer.2 ≠ .error .cancelled := by
    decide +kernel
  obtain ⟨registry, earlier, later, ran, cut, _⟩ :=
    (bestFrom_finds_bestMatch ⟨"/app"⟩ (Prod.eta _) uncancelled).2.1 _ _ tiedSession_bestMatch
  exact ⟨uncancelled, registry, earlier, later, congrArg Prod.fst ran, cut⟩

end Detection

end Scaffold
