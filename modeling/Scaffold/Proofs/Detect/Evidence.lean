import Scaffold.Detect.Signals

/-! # Scores and evidence

Signals with more in them score every stack at least as high: a language weighs in alone or, as TypeScript does for
JavaScript, by half, and each bonus is given for something that occurs. Whether a stack fits at all is decided by its
language, whatever the frameworks and tags are. All of this is about sums of which nothing is dropped: the score is the
sum as long as that is a number of 32 bits.
-/

namespace Scaffold.Signals

variable {less more : Signals} {language : Language} {stack : Stack}

/-- Everything in some signals is in others as well, the languages with at least their weight. -/
structure AtMost (less more : Signals) : Prop where
  languages : ∀ language weight, less.languages.get? language = some weight →
    ∃ greater, more.languages.get? language = some greater ∧ weight ≤ greater
  frameworks : ∀ framework ∈ less.frameworks.keys, framework ∈ more.frameworks.keys

/-! ## Languages -/

theorem AtMost.weight_le (atMost : less.AtMost more) (language : Language) :
    less.weight language ≤ more.weight language := by
  unfold weight
  cases found : less.languages.get? language with
  | none => exact Nat.zero_le _
  | some weight =>
    obtain ⟨greater, present, heavier⟩ := atMost.languages language weight found
    rw [present]
    exact heavier

theorem AtMost.contains (atMost : less.AtMost more) (present : less.languages.contains language = true) :
    more.languages.contains language = true := by
  obtain ⟨weight, found⟩ := Option.isSome_iff_exists.mp present
  obtain ⟨greater, found, _⟩ := atMost.languages language weight found
  exact Option.isSome_iff_exists.mpr ⟨greater, found⟩

/-- What the languages add up to for a stack, with nothing dropped: the weight of its own, and for JavaScript half the
weight of TypeScript on top. -/
def languageSum (signals : Signals) (stack : Stack) : Nat :=
  match Language.ofLabel? stack.language with
  | none => 0
  | some language => signals.weight language + if language = .javascript then signals.weight .typescript / 2 else 0

theorem languageScore_of_lt {signals : Signals} (small : signals.languageSum stack < UInt32.size) :
    signals.languageScore stack = signals.languageSum stack := by
  unfold languageSum at small ⊢
  unfold languageScore
  cases known : Language.ofLabel? stack.language with
  | none => rfl
  | some language =>
    rw [known] at small
    cases language with
    | javascript => exact Nat.mod_eq_of_lt small
    | _ => rfl

theorem AtMost.languageSum_le (atMost : less.AtMost more) (stack : Stack) :
    less.languageSum stack ≤ more.languageSum stack := by
  unfold languageSum
  cases Language.ofLabel? stack.language with
  | none => exact Nat.le_refl _
  | some language =>
    have own := atMost.weight_le language
    have half := Nat.div_le_div_right (c := 2) (atMost.weight_le .typescript)
    dsimp only
    split <;> omega

theorem languageSum_pos_iff (signals : Signals) (stack : Stack) : 0 < signals.languageSum stack ↔
    (∃ language, Language.ofLabel? stack.language = some language ∧ 0 < signals.weight language) ∨
      (Language.ofLabel? stack.language = some .javascript ∧ 2 ≤ signals.weight .typescript) := by
  unfold languageSum
  cases Language.ofLabel? stack.language with
  | none => simp
  | some language =>
    simp only [Option.some.injEq, exists_eq_left']
    split
    · rename_i same
      subst same
      simp only [true_and]
      omega
    · rename_i other
      simp [other]

/-! ## Bonuses -/

theorem AtMost.namesFramework (atMost : less.AtMost more) {text : List Char}
    (names : less.namesFramework text = true) : more.namesFramework text = true := by
  obtain ⟨framework, member, occurs⟩ := List.any_eq_true.mp names
  exact List.any_eq_true.mpr ⟨framework, atMost.frameworks framework member, occurs⟩

theorem AtMost.tagFits (atMost : less.AtMost more) {tag : String} (fits : less.tagFits tag = true) :
    more.tagFits tag = true := by
  rw [Signals.tagFits, Bool.or_eq_true] at fits ⊢
  refine fits.imp atMost.namesFramework fun seen => ?_
  obtain ⟨language, known, present⟩ := (Option.any_eq_true ..).mp seen
  exact (Option.any_eq_true ..).mpr ⟨language, known, atMost.contains present⟩

/-- What the frameworks and tags add to the score of a stack that fits. -/
def bonus (signals : Signals) (stack : Stack) : Nat :=
  (if signals.namesFramework (Text.lowerAscii (stack.name ++ " " ++ stack.projectType).toList) then frameworkBonus else 0)
    + tagBonus * stack.tags.countP signals.tagFits

theorem AtMost.bonus_le (atMost : less.AtMost more) (stack : Stack) : less.bonus stack ≤ more.bonus stack := by
  refine Nat.add_le_add ?_ (Nat.mul_le_mul_left _ (List.countP_mono_left fun _ _ => atMost.tagFits))
  split
  · rename_i named
    exact Nat.le_of_eq (if_pos (atMost.namesFramework named)).symm
  · exact Nat.zero_le _

/-! ## Scores -/

/-- What the languages and the bonuses of a stack add up to, with nothing dropped. -/
def sum (signals : Signals) (stack : Stack) : Nat := signals.languageSum stack + signals.bonus stack

theorem AtMost.sum_le (atMost : less.AtMost more) (stack : Stack) : less.sum stack ≤ more.sum stack :=
  Nat.add_le_add (atMost.languageSum_le stack) (atMost.bonus_le stack)

/-- The score of a stack that fits is the sum. -/
theorem score_of_lt {signals : Signals} (small : signals.sum stack < UInt32.size) :
    signals.score stack = if signals.languageSum stack = 0 then 0 else signals.sum stack := by
  have languages : signals.languageScore stack = signals.languageSum stack :=
    languageScore_of_lt (Nat.lt_of_le_of_lt (Nat.le_add_right _ _) small)
  unfold score
  dsimp only
  rw [languages]
  split
  · rfl
  · rw [Nat.add_assoc]
    exact Nat.mod_eq_of_lt small

theorem score_pos_iff {signals : Signals} (small : signals.sum stack < UInt32.size) :
    0 < signals.score stack ↔ 0 < signals.languageSum stack := by
  rw [score_of_lt small, sum]
  split <;> omega

/-- As long as the sums are numbers of 32 bits, more evidence never lowers the score of a stack. A stack fits exactly if
its language was seen, or if it is for JavaScript and enough TypeScript was seen; signals and stacks that differ in
nothing but frameworks, tags and names do not differ in that. -/
theorem score_le_of_atMost (signals : Signals) (stack : Stack) :
    (∀ more, signals.AtMost more → more.sum stack < UInt32.size → signals.score stack ≤ more.score stack) ∧
      (signals.sum stack < UInt32.size → (0 < signals.score stack ↔
        (∃ language, Language.ofLabel? stack.language = some language ∧ 0 < signals.weight language) ∨
          (Language.ofLabel? stack.language = some .javascript ∧ 2 ≤ signals.weight .typescript))) ∧
      ∀ (other : Signals) (adorned : Stack), signals.sum stack < UInt32.size → other.sum adorned < UInt32.size →
        other.languages = signals.languages → adorned.language = stack.language →
          (0 < other.score adorned ↔ 0 < signals.score stack) := by
  refine ⟨fun more atMost small => ?_, fun small => (score_pos_iff small).trans (languageSum_pos_iff signals stack),
    fun other adorned small also seen spoken => ?_⟩
  · have sums := atMost.sum_le stack
    have languages := atMost.languageSum_le stack
    rw [score_of_lt (Nat.lt_of_le_of_lt sums small), score_of_lt small]
    split
    · exact Nat.zero_le _
    · rwa [if_neg (by omega)]
  · rw [score_pos_iff small, score_pos_iff also, languageSum_pos_iff, languageSum_pos_iff, spoken]
    simp only [weight, seen]

/-- Two TypeScript sources. -/
def typescriptSignals : Signals := { languages := OrderedMap.empty.insert .typescript 2 }

/-- The same with a package description that names a framework. -/
def reactSignals : Signals :=
  { languages := (OrderedMap.empty.insert .typescript 2).insert .javascript 10
    frameworks := OrderedMap.empty.insert "react" () }

/-- A stack for JavaScript under another label, with tags of both kinds. -/
def reactStack : Stack :=
  { name := "nodejs-react", language := "Node.js", projectType := "React", tags := ["TypeScript", "React", "Pip"] }

/-- Half the TypeScript is enough for a stack to fit, and with the package description it fits better. -/
theorem score_le_of_atMost_typescript :
    typescriptSignals.AtMost reactSignals ∧ typescriptSignals.score reactStack = 6 ∧
      reactSignals.score reactStack = 41 ∧ typescriptSignals.score reactStack ≤ reactSignals.score reactStack := by
  have atMost : typescriptSignals.AtMost reactSignals := by
    refine ⟨fun language weight found => ?_, nofun⟩
    cases language <;> cases found
    exact ⟨2, rfl, Nat.le_refl _⟩
  have small : reactSignals.sum reactStack < UInt32.size := by decide +kernel
  exact ⟨atMost, by decide +kernel, by decide +kernel,
    (score_le_of_atMost typescriptSignals reactStack).1 _ atMost small⟩

end Scaffold.Signals
