import Scaffold.Detect.Signals

/-! # The best match

A stack beats another by a higher score, and of two with the same score by the lesser name. The best match of a list
fits, is beaten by none of the list, and is the first of its score and name; there is none exactly if no stack fits.
What the running comparison keeps is said for two lists one after the other: the best of both is that of the first one,
unless the best of the second one beats it. A single stack is the case of a step of the comparison, and the stacks of a
registry are the case of a comparison of registries. Nothing of this depends on how stacks are scored.
-/

namespace Scaffold.Signals

variable {score : Stack → Nat} {listed left right : List Stack} {one other third best challenger : Stack × Nat}
  {best? challenger? : Option (Stack × Nat)}

/-! ## The order -/

theorem beats_iff :
    beats one other = true ↔ other.2 < one.2 ∨ other.2 = one.2 ∧ one.1.name < other.1.name := by
  simp [beats]

theorem not_beats_iff :
    beats one other = false ↔ one.2 < other.2 ∨ one.2 = other.2 ∧ other.1.name ≤ one.1.name := by
  rw [← Bool.not_eq_true, beats_iff, ← String.not_lt]
  constructor
  · intro unbeaten
    by_cases same : one.2 = other.2
    · exact .inr ⟨same, fun less => unbeaten (.inr ⟨same.symm, less⟩)⟩
    · exact .inl (by omega)
  · rintro (lower | ⟨same, least⟩) (higher | ⟨_, less⟩)
    · omega
    · omega
    · omega
    · exact least less

/-- What beats the one that beats a third beats the third. -/
theorem beats_trans (first : beats one other = true) (second : beats other third = true) : beats one third = true := by
  rw [beats_iff] at *
  rcases first with higher | ⟨same, less⟩
  · exact .inl (by omega)
  · rcases second with higher | ⟨alike, lesser⟩
    · exact .inl (by omega)
    · exact .inr ⟨alike.trans same, String.lt_trans less lesser⟩

/-- What does not beat the one that does not beat a third does not beat the third. -/
theorem not_beats_trans (first : beats one other = false) (second : beats other third = false) :
    beats one third = false := by
  rw [not_beats_iff] at *
  rcases first with lower | ⟨same, least⟩
  · exact .inl (by omega)
  · rcases second with lower | ⟨alike, lesser⟩
    · exact .inl (by omega)
    · exact .inr ⟨same.trans alike, String.le_trans lesser least⟩

theorem not_beats_self (one : Stack × Nat) : beats one one = false :=
  not_beats_iff.mpr (.inr ⟨rfl, String.le_refl _⟩)

/-- Two of which neither beats the other have the same score and name. -/
theorem same_of_not_beats (first : beats one other = false) (second : beats other one = false) :
    one.2 = other.2 ∧ one.1.name = other.1.name := by
  rw [not_beats_iff] at first second
  rcases first with lower | ⟨same, least⟩
  · omega
  · rcases second with lower | ⟨_, lesser⟩
    · omega
    · exact ⟨same, String.le_antisymm lesser least⟩

/-! ## The best of a list -/

/-- A stack with its score. -/
def rated (score : Stack → Nat) (stack : Stack) : Stack × Nat := (stack, score stack)

@[simp] theorem rated_fst (score : Stack → Nat) (stack : Stack) : (rated score stack).1 = stack := rfl

@[simp] theorem rated_snd (score : Stack → Nat) (stack : Stack) : (rated score stack).2 = score stack := rfl

theorem not_beats_rated_iff {stack : Stack} : beats (rated score stack) best = false ↔
    score stack ≤ best.2 ∧ (score stack = best.2 → ¬ stack.name < best.1.name) := by
  rw [not_beats_iff, rated_snd, rated_fst, String.not_lt]
  generalize score stack = count
  constructor
  · rintro (lower | ⟨same, least⟩)
    · exact ⟨by omega, fun same => by omega⟩
    · exact ⟨by omega, fun _ => least⟩
  · rintro ⟨atMost, least⟩
    by_cases same : count = best.2
    · exact .inr ⟨same, least same⟩
    · exact .inl (by omega)

/-- Whether a stack has the score and the name of another. -/
def ranksAs (score : Stack → Nat) (best : Stack × Nat) (stack : Stack) : Bool :=
  score stack = best.2 && stack.name = best.1.name

theorem ranksAs_iff {stack : Stack} :
    ranksAs score best stack = true ↔ score stack = best.2 ∧ stack.name = best.1.name := by
  simp [ranksAs]

/-- A stack that fits, is beaten by none of a list, and is the first one in it of its score and name. -/
structure IsBest (score : Stack → Nat) (listed : List Stack) (best : Stack × Nat) : Prop where
  fits : 0 < best.2
  unbeaten : ∀ stack ∈ listed, beats (rated score stack) best = false
  first : listed.find? (ranksAs score best) = some best.1

theorem IsBest.mem (isBest : IsBest score listed best) : best.1 ∈ listed := List.mem_of_find?_eq_some isBest.first

theorem IsBest.scored (isBest : IsBest score listed best) : score best.1 = best.2 :=
  (ranksAs_iff.mp (List.find?_some isBest.first)).1

theorem IsBest.eq_rated (isBest : IsBest score listed best) : best = rated score best.1 := by
  rw [rated, isBest.scored]

/-- What comparing the stacks of a list comes to: none if no stack fits, and else the best. -/
inductive Settles (score : Stack → Nat) (listed : List Stack) : Option (Stack × Nat) → Prop
  | unfit (zero : ∀ stack ∈ listed, score stack = 0) : Settles score listed none
  | best (best : Stack × Nat) (isBest : IsBest score listed best) : Settles score listed (some best)

/-- A stack that does not fit beats none that does. -/
theorem not_beats_of_unfit {stack : Stack} (unfit : score stack = 0) (fits : 0 < best.2) :
    beats (rated score stack) best = false := by
  rw [not_beats_rated_iff, unfit]
  exact ⟨by omega, fun same => by omega⟩

/-- What beats the best of a list has another score or name than all of it. -/
theorem Settles.find?_eq_none (settles : Settles score listed best?) (fits : 0 < challenger.2)
    (ahead : ∀ best ∈ best?, beats challenger best = true) : listed.find? (ranksAs score challenger) = none := by
  refine List.find?_eq_none.mpr fun stack member alike => ?_
  obtain ⟨scored, named⟩ := ranksAs_iff.mp alike
  cases settles with
  | unfit zero =>
    have unfit := zero stack member
    omega
  | best best isBest =>
    have beaten := beats_iff.mp (ahead best rfl)
    have unbeaten := isBest.unbeaten stack member
    rw [← Bool.not_eq_true, beats_iff, rated, scored, named] at unbeaten
    exact unbeaten beaten

/-- The best of two lists, given the best of each: the first one stays unless it is beaten. -/
def rival? (best? challenger? : Option (Stack × Nat)) : Option (Stack × Nat) :=
  match challenger? with
  | none => best?
  | some challenger => better best? challenger

theorem IsBest.append_left (isBest : IsBest score left best)
    (unbeaten : ∀ stack ∈ right, beats (rated score stack) best = false) :
    IsBest score (left ++ right) best where
  fits := isBest.fits
  unbeaten stack member := (List.mem_append.mp member).elim (isBest.unbeaten stack) (unbeaten stack)
  first := by rw [List.find?_append, isBest.first, Option.some_or]

theorem IsBest.append_right (isBest : IsBest score right challenger) (settles : Settles score left best?)
    (ahead : ∀ best ∈ best?, beats challenger best = true) : IsBest score (left ++ right) challenger where
  fits := isBest.fits
  unbeaten stack member := by
    rcases List.mem_append.mp member with member | member
    · cases settles with
      | unfit zero => exact not_beats_of_unfit (zero stack member) isBest.fits
      | best best before =>
        -- A stack that beat the challenger would beat the best of its own list as well.
        cases beaten : beats (rated score stack) challenger with
        | false => rfl
        | true =>
          have beatsBest := beats_trans beaten (ahead best rfl)
          rw [before.unbeaten stack member] at beatsBest
          cases beatsBest
    · exact isBest.unbeaten stack member
  first := by rw [List.find?_append, settles.find?_eq_none isBest.fits ahead, Option.none_or, isBest.first]

/-- The step of every comparison: from the best of two lists to the best of both. -/
theorem Settles.append (settles : Settles score left best?) (challenge : Settles score right challenger?) :
    Settles score (left ++ right) (rival? best? challenger?) := by
  cases challenge with
  | unfit zero =>
    cases settles with
    | unfit none =>
      exact .unfit fun stack member => (List.mem_append.mp member).elim (none stack) (zero stack)
    | best best isBest =>
      exact .best _ (isBest.append_left fun stack member => not_beats_of_unfit (zero stack member) isBest.fits)
  | best challenger rival =>
    cases best? with
    | none => exact .best _ (rival.append_right settles nofun)
    | some best =>
      rw [rival?, better]
      cases ahead : beats challenger best with
      | true => exact .best _ (rival.append_right settles fun _ same => Option.some.inj same ▸ ahead)
      | false =>
        cases settles with
        | best _ isBest =>
          exact .best _ (isBest.append_left fun stack member => not_beats_trans (rival.unbeaten stack member) ahead)

/-- A single stack that fits is the best of itself. -/
theorem isBest_singleton {stack : Stack} (fits : score stack ≠ 0) :
    IsBest score [stack] (rated score stack) where
  fits := by
    rw [rated_snd]
    exact Nat.pos_of_ne_zero fits
  unbeaten := List.forall_mem_singleton.mpr (not_beats_self _)
  first := by simp [ranksAs]

/-- The best of a list by some score. -/
def bestBy (score : Stack → Nat) (listed : List Stack) : Option (Stack × Nat) :=
  listed.foldl (fun best? stack => if score stack = 0 then best? else better best? (rated score stack)) none

/-- The comparison goes on from the best of what was seen to the best of all, one stack after the other. -/
private theorem settles_foldl {seen : List Stack} (settles : Settles score seen best?) (rest : List Stack) :
    Settles score (seen ++ rest)
      (rest.foldl (fun best? stack => if score stack = 0 then best? else better best? (rated score stack)) best?) := by
  induction rest generalizing seen best? with
  | nil =>
    rw [List.append_nil]
    exact settles
  | cons stack rest ih =>
    rw [List.append_cons, List.foldl_cons]
    refine ih ?_
    by_cases unfit : score stack = 0
    · rw [if_pos unfit]
      exact settles.append (.unfit (List.forall_mem_singleton.mpr unfit))
    · rw [if_neg unfit]
      exact settles.append (.best _ (isBest_singleton unfit))

theorem bestBy_settles (score : Stack → Nat) (listed : List Stack) :
    Settles score listed (bestBy score listed) :=
  settles_foldl (.unfit (List.forall_mem_nil _)) listed

/-! ## There is only one -/

/-- The bests of two lists of the same stacks have the same score and name. -/
theorem IsBest.same (isBest : IsBest score left best) (rival : IsBest score right challenger)
    (members : ∀ stack, stack ∈ left ↔ stack ∈ right) : best.2 = challenger.2 ∧ best.1.name = challenger.1.name := by
  have behind := rival.unbeaten best.1 ((members _).mp isBest.mem)
  have ahead := isBest.unbeaten challenger.1 ((members _).mpr rival.mem)
  rw [← isBest.eq_rated] at behind
  rw [← rival.eq_rated] at ahead
  exact same_of_not_beats behind ahead

theorem IsBest.score_ne_zero (isBest : IsBest score listed best) : score best.1 ≠ 0 := by
  rw [isBest.scored]
  exact Nat.ne_of_gt isBest.fits

theorem bestBy_eq_none_iff : bestBy score listed = none ↔ ∀ stack ∈ listed, score stack = 0 := by
  have settles := bestBy_settles score listed
  generalize bestBy score listed = best? at settles
  cases settles with
  | unfit zero => exact ⟨fun _ => zero, fun _ => rfl⟩
  | best best isBest => exact ⟨nofun, fun zero => absurd (zero _ isBest.mem) isBest.score_ne_zero⟩

theorem bestBy_eq_some_iff : bestBy score listed = some best ↔ IsBest score listed best := by
  have settles := bestBy_settles score listed
  generalize bestBy score listed = best? at settles
  cases settles with
  | unfit zero => exact ⟨nofun, fun isBest => absurd (zero _ isBest.mem) isBest.score_ne_zero⟩
  | best other isBest =>
    refine ⟨fun same => Option.some.inj same ▸ isBest, fun rival => congrArg some ?_⟩
    obtain ⟨scored, named⟩ := isBest.same rival fun _ => Iff.rfl
    have alike : ranksAs score other = ranksAs score best := by
      funext stack
      rw [ranksAs, ranksAs, scored, named]
    have first := isBest.first
    rw [alike, rival.first] at first
    exact Prod.ext (Option.some.inj first).symm scored

theorem Settles.eq_bestBy (settles : Settles score listed best?) : bestBy score listed = best? := by
  cases settles with
  | unfit zero => exact bestBy_eq_none_iff.mpr zero
  | best best isBest => exact bestBy_eq_some_iff.mpr isBest

/-- The best of two lists one after the other. -/
theorem bestBy_append (score : Stack → Nat) (left right : List Stack) :
    bestBy score (left ++ right) = rival? (bestBy score left) (bestBy score right) :=
  ((bestBy_settles score left).append (bestBy_settles score right)).eq_bestBy

/-- What a match is known by: its name and its score. -/
def title (best : Stack × Nat) : String × Nat := (best.1.name, best.2)

/-- The order of the stacks does not matter for the name and the score of the best match. -/
theorem title_bestBy_of_perm (same : left.Perm right) :
    (bestBy score left).map title = (bestBy score right).map title := by
  cases found : bestBy score left with
  | none =>
    have zero := bestBy_eq_none_iff.mp found
    rw [bestBy_eq_none_iff.mpr fun stack member => zero stack (same.mem_iff.mpr member)]
  | some best =>
    have isBest := bestBy_eq_some_iff.mp found
    cases challenged : bestBy score right with
    | none => exact absurd (bestBy_eq_none_iff.mp challenged _ (same.mem_iff.mp isBest.mem)) isBest.score_ne_zero
    | some challenger =>
      obtain ⟨scored, named⟩ := isBest.same (bestBy_eq_some_iff.mp challenged) fun _ => same.mem_iff
      simp only [Option.map_some, title, scored, named]

/-- The best of a list by a score is a stack of it with its score, scores at least as high as all of it, has a name no
greater than those that score as high, and is the first of its score and name. -/
theorem bestBy_eq_some_iff_first {stack : Stack} {count : Nat} : bestBy score listed = some (stack, count) ↔
    0 < count ∧ score stack = count ∧ (∀ other ∈ listed, score other ≤ count) ∧
      (∀ other ∈ listed, score other = count → ¬ other.name < stack.name) ∧
      ∃ earlier later, listed = earlier ++ stack :: later ∧
        ∀ other ∈ earlier, ¬ (score other = count ∧ other.name = stack.name) := by
  rw [bestBy_eq_some_iff]
  have first_iff : listed.find? (ranksAs score (stack, count)) = some stack ↔ score stack = count ∧
      ∃ earlier later, listed = earlier ++ stack :: later ∧
        ∀ other ∈ earlier, ¬ (score other = count ∧ other.name = stack.name) := by
    have unlike : ∀ other, (!ranksAs score (stack, count) other) = true ↔
        ¬ (score other = count ∧ other.name = stack.name) := by
      intro other
      rw [Bool.not_eq_true', ← Bool.not_eq_true, ranksAs_iff]
    rw [List.find?_eq_some_iff_append, ranksAs_iff]
    simp only [unlike, and_true]
  constructor
  · intro isBest
    obtain ⟨scored, first⟩ := first_iff.mp isBest.first
    have unbeaten := fun other member => not_beats_rated_iff.mp (isBest.unbeaten other member)
    exact ⟨isBest.fits, scored, fun other member => (unbeaten other member).1,
      fun other member => (unbeaten other member).2, first⟩
  · rintro ⟨fits, scored, highest, least, first⟩
    exact ⟨fits, fun other member => not_beats_rated_iff.mpr ⟨highest other member, least other member⟩,
      first_iff.mpr ⟨scored, first⟩⟩

/-! ## By how stacks fit -/

/-- The best match is the best by how stacks fit. -/
theorem bestMatch_eq (signals : Signals) (listed : List Stack) : signals.bestMatch listed = bestBy signals.score listed :=
  rfl

/-- The best match of two lists one after the other. -/
theorem bestMatch_append (signals : Signals) (left right : List Stack) :
    signals.bestMatch (left ++ right) = rival? (signals.bestMatch left) (signals.bestMatch right) := by
  simp only [bestMatch_eq, bestBy_append]

/-- The best match of a list is a stack of it with its score. None scores higher, none with the same score has a lesser
name, and it is the first of its score and name; there is none exactly if all score zero. The order of the list does not
matter for the name and the score. -/
theorem bestMatch_greatest (signals : Signals) (listed : List Stack) :
    (signals.bestMatch listed = none ↔ ∀ stack ∈ listed, signals.score stack = 0) ∧
      (∀ stack score, signals.bestMatch listed = some (stack, score) ↔
        0 < score ∧ signals.score stack = score ∧ (∀ other ∈ listed, signals.score other ≤ score) ∧
          (∀ other ∈ listed, signals.score other = score → ¬ other.name < stack.name) ∧
          ∃ earlier later, listed = earlier ++ stack :: later ∧
            ∀ other ∈ earlier, ¬ (signals.score other = score ∧ other.name = stack.name)) ∧
      ∀ ordered, listed.Perm ordered →
        (signals.bestMatch listed).map title = (signals.bestMatch ordered).map title := by
  simp only [bestMatch_eq]
  exact ⟨bestBy_eq_none_iff, fun _ _ => bestBy_eq_some_iff_first, fun _ => title_bestBy_of_perm⟩

/-- What speaks for Java alone. -/
def javaSignals : Signals := { languages := OrderedMap.empty.insert .java 10 }

/-- Stacks of which one does not fit and three are tied, two of them under one name. -/
def tiedStacks : List Stack :=
  [{ name := "go", language := "Go" }, { name := "java-vertx", language := "Java" },
    { name := "java-quarkus", language := "Java", displayName := "first" },
    { name := "java-quarkus", language := "Java", displayName := "second" }]

/-- The first one of the lesser name is taken, and with the stacks in reverse one of the same name and score. -/
theorem bestMatch_greatest_tied :
    (javaSignals.bestMatch tiedStacks).map (fun best => (best.1.displayName, best.2)) = some ("first", 10) ∧
      tiedStacks.Perm tiedStacks.reverse ∧
        (javaSignals.bestMatch tiedStacks).map title = (javaSignals.bestMatch tiedStacks.reverse).map title :=
  ⟨by decide +kernel, tiedStacks.reverse_perm.symm,
    (bestMatch_greatest javaSignals tiedStacks).2.2 _ tiedStacks.reverse_perm.symm⟩

end Scaffold.Signals
