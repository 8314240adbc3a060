import Scaffold.Preference
import Scaffold.Proofs.Data.Distinct
import Scaffold.Proofs.Interactive.Menus

/-! # Preferences and those who rely on them

Preferences are accepted exactly if their registries can be searched: there are some, and each has a name of its own.
They are then kept in the order of the file, or are the usual ones if the file has none; a list in which a name comes
again is refused for the first registry that has the name of one before it.

Whoever is given the registries of accepted preferences does not look at this again. The registry that is found under a
name is the only one of that name, flags that name a registry are refused exactly if a search in it would be, and
whoever is asked for a registry has one to choose. So a selection fails for want of stacks only at an index that was had
and is empty.
-/

namespace Scaffold

/-! ## Lists of registries -/

namespace Registry

/-- Registries that can be searched: there are some, and each has a name of its own. -/
structure Searchable (registries : List Registry) : Prop where
  configured : registries ≠ []
  distinct : (registries.map name).Nodup

/-- The first registry of a list that has the name of one before it. -/
inductive FirstRepeat : List Registry → Registry → Prop
  | intro (earlier later : List Registry) (registry : Registry) (apart : (earlier.map name).Nodup)
      (again : registry.name ∈ earlier.map name) : FirstRepeat (earlier ++ registry :: later) registry

variable {registries : List Registry} {registry : Registry}

theorem FirstRepeat.not_distinct (first : FirstRepeat registries registry) : ¬ (registries.map name).Nodup := by
  cases first with
  | intro earlier later _ _ again =>
    rw [List.map_append, List.map_cons]
    exact fun nodup => List.disjoint_of_nodup_append nodup again List.mem_cons_self

end Registry

open Registry (Searchable FirstRepeat)

namespace Preferences

variable {names seen : List String} {name : String} {registries : List Registry} {registry : Registry}

/-- Nothing is told exactly if the names are distinct and new. -/
theorem firstRepeated?_eq_none_iff :
    firstRepeated? seen names = none ↔ names.Nodup ∧ ∀ name ∈ names, name ∉ seen := by
  induction names generalizing seen with
  | nil => simp [firstRepeated?]
  | cons name rest ih =>
    rw [nodup_and_new_cons, ← ih, firstRepeated?]
    by_cases known : name ∈ seen
    · simp [known]
    · simp [known]

/-- A name is told exactly if those before it are distinct and new, and it is not. -/
theorem firstRepeated?_eq_some_iff :
    firstRepeated? seen names = some name ↔
      ∃ earlier later, names = earlier ++ name :: later ∧ (earlier.Nodup ∧ ∀ other ∈ earlier, other ∉ seen) ∧
        (name ∈ seen ∨ name ∈ earlier) := by
  induction names generalizing seen with
  | nil => simp [firstRepeated?]
  | cons first rest ih =>
    unfold firstRepeated?
    split
    · rename_i known
      rw [List.contains_iff_mem] at known
      constructor
      · intro same
        obtain rfl := Option.some.inj same
        exact ⟨[], rest, rfl, ⟨List.nodup_nil, nofun⟩, .inl known⟩
      · rintro ⟨earlier, later, cut, ⟨_, new⟩, _⟩
        cases earlier with
        | nil => rw [(List.cons.inj cut).1]
        | cons other earlier =>
          obtain ⟨rfl, _⟩ := List.cons.inj cut
          exact absurd known (new first List.mem_cons_self)
    · rename_i fresh
      rw [List.contains_iff_mem] at fresh
      rw [ih]
      -- A name that is passed by counts as seen for those after it, and is one of those before the name that is told.
      constructor
      · rintro ⟨earlier, later, rfl, apart, again⟩
        refine ⟨first :: earlier, later, rfl, nodup_and_new_cons.mpr ⟨fresh, apart⟩, ?_⟩
        rcases again with again | again
        · rcases List.mem_cons.mp again with rfl | again
          · exact .inr List.mem_cons_self
          · exact .inl again
        · exact .inr (List.mem_cons_of_mem _ again)
      · rintro ⟨earlier, later, cut, apart, again⟩
        cases earlier with
        | nil =>
          obtain ⟨rfl, _⟩ := List.cons.inj cut
          exact absurd (again.resolve_right List.not_mem_nil) fresh
        | cons other earlier =>
          obtain ⟨rfl, rfl⟩ := List.cons.inj cut
          refine ⟨earlier, later, rfl, (nodup_and_new_cons.mp apart).2, ?_⟩
          rcases again with again | again
          · exact .inl (List.mem_cons_of_mem _ again)
          · rcases List.mem_cons.mp again with rfl | again
            · exact .inl List.mem_cons_self
            · exact .inr again

theorem firstRepeated?_eq_none_iff_nodup : firstRepeated? [] names = none ↔ names.Nodup := by
  rw [firstRepeated?_eq_none_iff]
  simp

/-- The name that is told of some registries is that of the first one that repeats a name. -/
theorem firstRepeated?_eq_some_iff_firstRepeat :
    firstRepeated? [] (registries.map Registry.name) = some name ↔
      ∃ registry, FirstRepeat registries registry ∧ registry.name = name := by
  rw [firstRepeated?_eq_some_iff]
  constructor
  · rintro ⟨earlier, later, cut, ⟨apart, _⟩, again⟩
    obtain ⟨before, rest, rfl, rfl, onward⟩ := List.map_eq_append_iff.mp cut
    obtain ⟨registry, after, rfl, rfl, rfl⟩ := List.map_eq_cons_iff.mp onward
    exact ⟨registry, .intro before after registry apart (again.resolve_left List.not_mem_nil), rfl⟩
  · rintro ⟨registry, ⟨earlier, later, _, apart, again⟩, rfl⟩
    have cut : (earlier ++ registry :: later).map Registry.name =
        earlier.map Registry.name ++ registry.name :: later.map Registry.name := by simp
    exact ⟨_, _, cut, ⟨apart, fun _ _ => List.not_mem_nil⟩, .inr again⟩

/-! ## What a file says -/

section

open Yaml Tree

variable {tree : Tree} {document : Document}

/-- The registries that a tree lists: none if the field is left out or null, else those of the items of a sequence, one
after another. -/
inductive Lists (tree : Tree) : Option (List Registry) → Prop
  | absent (fields : List (String × Tree)) (record : tree.record? = some fields)
      (missing : ∀ value ∈ fields.lookup "registries", value.isMissing? = some true) : Lists tree none
  | listed (fields : List (String × Tree)) (record : tree.record? = some fields) (value : Tree)
      (present : fields.lookup "registries" = some value) (items : List Tree) (sequence : value.items? = some items)
      (registries : List Registry) (each : items.map registryOfTree? = registries.map some) :
      Lists tree (some registries)

theorem lists_of_ofTree? (read : Document.ofTree? tree = some document) : Lists tree document.registries? := by
  simp only [Document.ofTree?, Option.bind_eq_bind, Option.bind_eq_some_iff, Option.pure_def] at read
  obtain ⟨fields, record, read⟩ := read
  split at read
  · cases read
  · obtain ⟨registries?, told, read⟩ := Option.bind_eq_some_iff.mp read
    obtain ⟨timeout?, _, read⟩ := Option.bind_eq_some_iff.mp read
    cases read
    rcases fieldOption?_cases told with ⟨rfl, missing⟩ | ⟨value, registries, rfl, present, listed⟩
    · exact .absent fields record missing
    · obtain ⟨items, sequence, each⟩ := Option.bind_eq_some_iff.mp listed
      exact .listed fields record value present items sequence registries (mapM_eq_some.mp each)

end

/-! ## What is accepted -/

variable {document : Document} {preferences : Preferences} {text : String} {tree : Yaml.Tree}

/-- The registries of the preferences that a file says: those it lists, else the usual one. -/
def Document.chosen (document : Document) : List Registry := document.registries?.getD [defaultRegistry]

/-- What becomes of the preferences that a file says. -/
inductive Judges (document : Document) : Except Problem Preferences → Prop
  | accepted (searchable : Searchable document.chosen) :
      Judges document (.ok ⟨document.chosen, document.timeout?.getD ⟨30, 0⟩⟩)
  | empty (none : document.chosen = []) : Judges document (.error .noRegistry)
  | repeated (registry : Registry) (first : FirstRepeat document.chosen registry) :
      Judges document (.error (.repeatedRegistry registry.name))

theorem ofDocument_judges (document : Document) : Judges document (ofDocument document) := by
  unfold ofDocument
  dsimp only
  split
  · rename_i none
    exact .empty (List.isEmpty_iff.mp none)
  · rename_i configured
    split
    · rename_i repeated
      obtain ⟨registry, first, rfl⟩ := firstRepeated?_eq_some_iff_firstRepeat.mp repeated
      exact .repeated registry first
    · rename_i unrepeated
      have distinct := firstRepeated?_eq_none_iff_nodup.mp unrepeated
      exact .accepted ⟨fun none => configured (List.isEmpty_iff.mpr none), distinct⟩

theorem searchable_chosen_iff :
    Searchable document.chosen ↔ ∀ registries ∈ document.registries?, Searchable registries := by
  have usual : Searchable [defaultRegistry] := ⟨List.cons_ne_nil _ _, List.nodup_singleton _⟩
  unfold Document.chosen
  cases document.registries? with
  | none => simpa using usual
  | some registries => simp

namespace Judges

variable {outcome : Except Problem Preferences}

theorem accepted_iff (judges : Judges document outcome) :
    (∃ preferences, outcome = .ok preferences) ↔ Searchable document.chosen := by
  cases judges with
  | accepted searchable => exact ⟨fun _ => searchable, fun _ => ⟨_, rfl⟩⟩
  | empty none => exact ⟨nofun, fun searchable => absurd none searchable.configured⟩
  | repeated registry first => exact ⟨nofun, fun searchable => absurd searchable.distinct first.not_distinct⟩

theorem eq_of_ok (judges : Judges document (.ok preferences)) :
    preferences = ⟨document.chosen, document.timeout?.getD ⟨30, 0⟩⟩ := by
  cases judges with
  | accepted _ => rfl

theorem eq_of_nil (judges : Judges document outcome) (none : document.chosen = []) : outcome = .error .noRegistry := by
  cases judges with
  | accepted searchable => exact absurd none searchable.configured
  | empty _ => rfl
  | repeated registry first => exact absurd (by simp [none]) first.not_distinct

theorem firstRepeat_of_not_nodup (judges : Judges document outcome)
    (repeats : ¬ (document.chosen.map Registry.name).Nodup) :
    ∃ registry, FirstRepeat document.chosen registry ∧ outcome = .error (.repeatedRegistry registry.name) := by
  cases judges with
  | accepted searchable => exact absurd searchable.distinct repeats
  | empty none => exact absurd (by simp [none]) repeats
  | repeated registry first => exact ⟨registry, first, rfl⟩

end Judges

/-- What a text says is judged. -/
theorem ofText_judges (written : Yaml.Tree.ofText? text.toList = some tree)
    (read : Document.ofTree? tree = some document) : Judges document (ofText text) := by
  unfold ofText
  rw [written, Option.bind_some, read]
  exact ofDocument_judges document

/-- How preferences are come by: they are read from a text, or loaded from a file or for want of one. -/
inductive Accepted : Preferences → Prop
  | parsed (text : String) (preferences : Preferences) (parsing : ofText text = .ok preferences) : Accepted preferences
  | loaded {σ : Type} [Storage σ] (path : Path) (preferences : Preferences) (session after : Session σ)
      (loading : (load path).apply session = (.ok preferences, after)) : Accepted preferences

theorem searchable_of_ofText (parsing : ofText text = .ok preferences) : Searchable preferences.registries := by
  unfold ofText at parsing
  split at parsing
  · cases parsing
  · rename_i document _
    have judged := ofDocument_judges document
    rw [parsing] at judged
    cases judged with
    | accepted searchable => exact searchable

theorem Accepted.searchable (accepted : preferences.Accepted) : Searchable preferences.registries := by
  cases accepted with
  | parsed text _ parsing => exact searchable_of_ofText parsing
  | loaded path _ session after loading =>
    obtain ⟨answer, middle, _, ran⟩ := Run.bind_eq_ok loading
    split at ran
    · split at ran
      · exact searchable_of_ofText (Prod.mk.inj ran).1
      · cases ran
    · split at ran
      · cases ran
        exact ⟨List.cons_ne_nil _ _, List.nodup_singleton _⟩
      · cases ran

end Preferences

/-! ## Flags that name a registry -/

namespace Flags

variable {flags : Flags} {registries : List Registry} {wanted known : String}

/-- Flags that are checked for the registry that they name: nothing before that refuses them. -/
structure ComesToRegistry (flags : Flags) (wanted : String) : Prop where
  fitting : flags.conflict? = none
  named : flags.checkName = .ok ()
  given : flags.devfileRegistry = some wanted

theorem ComesToRegistry.isEmpty (comes : flags.ComesToRegistry wanted) : flags.isEmpty = false := by
  simp [Flags.isEmpty, toList, Flag.all, get?, comes.given]

theorem checkRegistry_eq_registryNotFound_iff :
    flags.checkRegistry registries = .error (.registryNotFound wanted known) ↔
      flags.devfileRegistry = some wanted ∧ Registry.named? registries wanted = none ∧
        known = Registry.names registries := by
  unfold checkRegistry
  cases flags.devfileRegistry with
  | none => simp
  | some name =>
    simp only [Registry.any_eq_isSome_named?, Option.some.injEq]
    cases found : Registry.named? registries name with
    | some registry =>
      refine ⟨nofun, ?_⟩
      rintro ⟨rfl, missing, _⟩
      cases found.symm.trans missing
    | none =>
      constructor
      · intro refused
        cases refused
        exact ⟨rfl, found, rfl⟩
      · rintro ⟨rfl, _, rfl⟩
        rfl

theorem check_eq_registryNotFound_iff :
    flags.check registries = .error (.registryNotFound wanted known) ↔
      flags.ComesToRegistry wanted ∧ Registry.named? registries wanted = none ∧ known = Registry.names registries := by
  rw [check_eq]
  cases fitting : flags.conflict? with
  | some cause =>
    constructor
    · intro refused
      obtain rfl := Except.error.inj refused
      exact absurd (mem_of_conflict? fitting) (by simp)
    · rintro ⟨comes, _⟩
      cases fitting.symm.trans comes.fitting
  | none =>
    cases named : flags.checkName with
    | error cause =>
      obtain ⟨_, _, rfl⟩ := eq_nameInvalid_of_checkName named
      constructor
      · rintro ⟨⟩
      · rintro ⟨comes, _⟩
        cases named.symm.trans comes.named
    | ok _ =>
      dsimp only
      rw [checkRegistry_eq_registryNotFound_iff]
      exact ⟨fun ⟨given, missing⟩ => ⟨⟨fitting, named, given⟩, missing⟩, fun ⟨comes, missing⟩ => ⟨comes.given, missing⟩⟩

end Flags

section

variable {σ : Type} [Storage σ] {session after : Session σ} {registries : List Registry} {wanted known : String}

/-- Validation refuses a registry exactly if flags that come to it name one that is not found. -/
theorem Run.validateFlags_registryNotFound_iff {flags : Flags} {directory : Path} :
    (validateFlags flags directory registries).apply session = (.error (.registryNotFound wanted known), after) ↔
      flags.ComesToRegistry wanted ∧ Registry.named? registries wanted = none ∧ known = Registry.names registries ∧
        after = session := by
  unfold validateFlags
  constructor
  · intro refused
    split at refused
    · cases refused
    · cases checked : flags.check registries with
      | error cause =>
        rw [checked] at refused
        cases refused
        obtain ⟨comes, missing, told⟩ := Flags.check_eq_registryNotFound_iff.mp checked
        exact ⟨comes, missing, told, rfl⟩
      | ok _ =>
        rw [checked] at refused
        have path : (checkDevfilePath flags directory : Run σ Cause Unit).FailsWith
            fun cause => cause ≠ .registryNotFound wanted known := checkDevfilePath_failsWith fun _ => nofun
        exact absurd rfl (path _ _ _ refused)
  · rintro ⟨comes, missing, told, rfl⟩
    have refused := Flags.check_eq_registryNotFound_iff.mpr ⟨comes, missing, told⟩
    rw [if_neg (by simp [comes.isEmpty]), refused]
    rfl

/-- A search in a registry is refused exactly if the registry is not found. -/
theorem Registry.locate_registryNotFound_iff {name : String} :
    (locate registries name (some wanted)).apply session = (.error (.registryNotFound wanted known), after) ↔
      named? registries wanted = none ∧ known = names registries ∧ after = session := by
  constructor
  · intro refused
    cases found : named? registries wanted with
    | some registry =>
      have configured : ∀ other ∈ some wanted, (named? registries other).isSome = true := by simp [found]
      exact absurd ((locate_careful configured name).late _ _ _ refused) nofun
    | none =>
      unfold locate at refused
      simp only [found] at refused
      cases refused
      exact ⟨rfl, rfl, rfl⟩
  · rintro ⟨missing, rfl, rfl⟩
    unfold locate
    simp only [missing]
    rfl

end

/-! ## Having nothing to choose -/

/-- A cause other than that a devfile is listed nowhere. -/
def Cause.OtherThanUnlisted (cause : Cause) : Prop := ∀ name searched, cause ≠ .devfileNotFound name searched

section

variable {σ : Type} [Storage σ] {session after : Session σ} {registries : List Registry} {directory : Path}
  {name searched : String}

theorem Registry.index_otherThanUnlisted (registry : Registry) :
    (registry.index : Run σ Cause (List Stack)).FailsWith Cause.OtherThanUnlisted := by
  refine Run.failsWith_bind (Run.fetch_failsWith (fun _ _ => nofun) fun _ _ _ => nofun) fun _ => ?_
  split
  · exact Run.failsWith_pure _
  · exact Run.failsWith_throw fun _ _ => nofun

theorem Registry.stage_otherThanUnlisted (registry : Registry) (stack : Stack) (directory : Path) :
    (registry.stage stack directory : Run σ Cause Manifest).FailsWith Cause.OtherThanUnlisted := by
  refine Run.failsWith_bind (Run.fetch_failsWith (fun _ _ => nofun) fun _ _ _ => nofun) fun _ =>
    Run.failsWith_bind (Run.checkCancelled_failsWith fun _ _ => nofun) fun _ =>
      Run.failsWith_bind (Run.failsWith_ofExcept fun cause refused => ?_) fun _ =>
        Run.failsWith_bind (Run.failsWith_mapError fun _ _ _ => nofun) fun _ => Run.failsWith_pure _
  obtain ⟨_, rfl⟩ := Manifest.ofContents_eq_error refused
  exact fun _ _ => nofun

namespace Interactive

omit [Storage σ] in
/-- A menu stops a run for what its answer says. -/
theorem Puts.otherThanUnlisted {prompt : String} {items : List String} {count : Nat} {cause : Cause}
    (puts : Puts prompt items session (.error cause : Except Cause (Fin count)) after) : cause.OtherThanUnlisted := by
  cases puts <;> exact fun _ _ => nofun

omit [Storage σ] in
/-- Where registries are configured, one of them is chosen unless its menu stops the run. -/
theorem selectRegistry_otherThanUnlisted (configured : registries ≠ []) :
    (selectRegistry registries : Run σ Cause Registry).FailsWith Cause.OtherThanUnlisted := by
  intro session cause after failed
  rw [← bind_pure (selectRegistry registries)] at failed
  rcases bind_selectRegistry_cases configured failed with ⟨_, same, _, puts⟩ | ⟨_, _, _, ran⟩
  · cases same
    exact puts.otherThanUnlisted
  · cases ran

/-- A selection finds no stack only in an index that was had and is empty. -/
theorem SelectionEnds.emptyIndex
    (ends : SelectionEnds registries directory session (.error (.devfileNotFound name searched)) after) :
    ∃ registry ∈ registries, searched = registry.name ∧ ∃ reached, registry.index.apply reached = (.ok [], after) := by
  cases ends with
  | noRegistry _ _ _ puts => exact absurd rfl (puts.otherThanUnlisted _ _)
  | noIndex _ _ _ _ _ failed => exact absurd rfl (Registry.index_otherThanUnlisted _ _ _ _ failed _ _)
  | noStacks registry reached _ _ indexed => exact ⟨_, List.get_mem _ _, rfl, reached, indexed⟩
  | noLanguage _ _ _ _ _ _ _ _ _ puts => exact absurd rfl (puts.otherThanUnlisted _ _)
  | noStack _ _ _ _ _ _ _ _ _ _ _ puts => exact absurd rfl (puts.otherThanUnlisted _ _)
  | selected _ _ _ _ _ _ _ _ _ _ _ _ _ ran _ =>
    exact absurd rfl (Registry.stage_otherThanUnlisted _ _ _ _ _ _ ran _ _)

end Interactive

end

/-! ## Accepted preferences -/

namespace Preferences

/-- What becomes of a text that writes a preference file. -/
structure Parses (text : String) (tree : Yaml.Tree) (document : Document) : Prop where
  lists : Lists tree document.registries?
  /-- It is accepted exactly if it lists no registries or some that can be searched. -/
  accepted : (∃ preferences, ofText text = .ok preferences) ↔
    ∀ registries ∈ document.registries?, Searchable registries
  /-- The registries that it lists are kept as they are. -/
  kept : ∀ preferences, ofText text = .ok preferences →
    preferences = ⟨document.registries?.getD [defaultRegistry], document.timeout?.getD ⟨30, 0⟩⟩
  empty : document.registries? = some [] → ofText text = .error .noRegistry
  /-- A name that comes again is told of the first registry that repeats one. -/
  repeated : ∀ registries ∈ document.registries?, ¬ (registries.map Registry.name).Nodup →
    ∃ registry, FirstRepeat registries registry ∧ ofText text = .error (.repeatedRegistry registry.name)

/-- What those who are given the registries of some preferences rely on. -/
structure Serves (preferences : Preferences) : Prop where
  searchable : Searchable preferences.registries
  /-- The registry that is found under a name is the only one of that name. -/
  finds : ∀ name, (preferences.registries.filter fun registry => registry.name = name) =
    (Registry.named? preferences.registries name).toList
  /-- Flags that come to a registry are refused for it exactly if it is not found. -/
  validates : ∀ (σ : Type) [Storage σ] (flags : Flags) (directory : Path) (session after : Session σ)
    (wanted known : String),
    (Run.validateFlags flags directory preferences.registries).apply session =
        (.error (.registryNotFound wanted known), after) ↔
      flags.ComesToRegistry wanted ∧ Registry.named? preferences.registries wanted = none ∧
        known = Registry.names preferences.registries ∧ after = session
  /-- A search in a registry is refused for the same reason, in the same words. -/
  locates : ∀ (σ : Type) [Storage σ] (name wanted known : String) (session after : Session σ),
    (Registry.locate preferences.registries name (some wanted)).apply session =
        (.error (.registryNotFound wanted known), after) ↔
      Registry.named? preferences.registries wanted = none ∧
        known = Registry.names preferences.registries ∧ after = session
  /-- There is always a registry to choose. -/
  chooses : ∀ (σ : Type) [Storage σ],
    (Interactive.selectRegistry preferences.registries : Run σ Cause Registry).FailsWith Cause.OtherThanUnlisted
  /-- A selection by questions finds no stack only in an index that was had and is empty, and tells whose it is. -/
  selects : ∀ (σ : Type) [Storage σ] (directory : Path) (session after : Session σ) (name searched : String),
    (Interactive.selectManifest preferences.registries directory).apply session =
        (.error (.devfileNotFound name searched), after) →
      ∃ registry ∈ preferences.registries, searched = registry.name ∧
        ∃ reached, registry.index.apply reached = (.ok [], after)

/-- A preference file is accepted exactly if the registries that it lists, if any, can be searched. They are kept in
order, and of those that cannot be searched it is told why. Whoever is given the registries of accepted preferences can
rely on them. -/
theorem accepted_iff_searchable :
    (∀ (text : String) (tree : Yaml.Tree) (document : Document), Yaml.Tree.ofText? text.toList = some tree →
      Document.ofTree? tree = some document → Parses text tree document) ∧
      ∀ preferences : Preferences, preferences.Accepted → preferences.Serves := by
  constructor
  · intro text tree document written read
    have judged := ofText_judges written read
    have chosen : ∀ registries ∈ document.registries?, document.chosen = registries := fun registries listed => by
      rw [Document.chosen, Option.mem_def.mp listed, Option.getD_some]
    refine ⟨lists_of_ofTree? read, judged.accepted_iff.trans searchable_chosen_iff, ?_, ?_, ?_⟩
    · intro preferences parsing
      rw [parsing] at judged
      exact judged.eq_of_ok
    · exact fun none => judged.eq_of_nil (chosen [] none)
    · intro registries listed repeats
      rw [← chosen registries listed] at repeats ⊢
      exact judged.firstRepeat_of_not_nodup repeats
  · intro preferences accepted
    have searchable := accepted.searchable
    refine ⟨searchable, fun name => filter_name_of_nodup searchable.distinct name, ?_, ?_, ?_, ?_⟩
    · exact fun _ _ _ _ _ _ _ _ => Run.validateFlags_registryNotFound_iff
    · exact fun _ _ _ _ _ _ _ => Registry.locate_registryNotFound_iff
    · exact fun _ _ => Interactive.selectRegistry_otherThanUnlisted searchable.configured
    · intro σ _ directory session after name searched failed
      exact (Interactive.selectManifest_ends searchable.configured failed).emptyIndex

/-- A preference file with two registries and a timeout. -/
def pairText : String :=
  "registries: [\x7bname: b, url: http://b.test\x7d, \x7bname: a, url: http://a.test\x7d]\ntimeout: 5s"

/-- What it says. -/
def pairDocument : Document := ⟨some [⟨"b", "http://b.test"⟩, ⟨"a", "http://a.test"⟩], some ⟨5, 0⟩⟩

/-- A preference file in which two of four registries repeat a name. -/
def repeatedText : String :=
  "registries: [\x7bname: a, url: u\x7d, \x7bname: b, url: v\x7d, \x7bname: b, url: w\x7d, \x7bname: a, url: x\x7d]"

/-- What it says. -/
def repeatedDocument : Document := ⟨some [⟨"a", "u"⟩, ⟨"b", "v"⟩, ⟨"b", "w"⟩, ⟨"a", "x"⟩], none⟩

/-- Two registries are accepted, kept in order and relied on, and flags that name a third one are refused. Of the four
registries the third is the first to repeat a name. -/
theorem accepted_iff_searchable_pair :
    (∃ tree, Yaml.Tree.ofText? pairText.toList = some tree ∧ Document.ofTree? tree = some pairDocument ∧
      Parses pairText tree pairDocument ∧ ofText pairText = .ok ⟨pairDocument.chosen, ⟨5, 0⟩⟩) ∧
    Accepted ⟨pairDocument.chosen, ⟨5, 0⟩⟩ ∧ Serves ⟨pairDocument.chosen, ⟨5, 0⟩⟩ ∧
    (∀ session : Session FileTree,
      (Run.validateFlags { devfile := some "go", devfileRegistry := some "c" } ⟨"/app"⟩ pairDocument.chosen).apply session =
        (.error (.registryNotFound "c" "b, a"), session)) ∧
    ∃ tree, Yaml.Tree.ofText? repeatedText.toList = some tree ∧ Document.ofTree? tree = some repeatedDocument ∧
      Parses repeatedText tree repeatedDocument ∧ ofText repeatedText = .error (.repeatedRegistry "b") ∧
      ∃ registry, FirstRepeat repeatedDocument.chosen registry ∧ registry.name = "b" := by
  obtain ⟨parses, serves⟩ := accepted_iff_searchable
  have pair : (Yaml.Tree.ofText? pairText.toList).bind Document.ofTree? = some pairDocument := by decide +kernel
  have repeated : (Yaml.Tree.ofText? repeatedText.toList).bind Document.ofTree? = some repeatedDocument := by decide +kernel
  obtain ⟨pairTree, pairWritten, pairRead⟩ := Option.bind_eq_some_iff.mp pair
  obtain ⟨repeatedTree, repeatedWritten, repeatedRead⟩ := Option.bind_eq_some_iff.mp repeated
  have kept : ofText pairText = .ok ⟨pairDocument.chosen, ⟨5, 0⟩⟩ := by decide +kernel
  have refused : ofText repeatedText = .error (.repeatedRegistry "b") := by decide +kernel
  have accepted : Accepted ⟨pairDocument.chosen, ⟨5, 0⟩⟩ := .parsed pairText _ kept
  have serving := serves _ accepted
  have pairParses := parses _ _ _ pairWritten pairRead
  have repeatedParses := parses _ _ _ repeatedWritten repeatedRead
  refine ⟨⟨pairTree, pairWritten, pairRead, pairParses, kept⟩, accepted, serving, fun session => ?_, repeatedTree,
    repeatedWritten, repeatedRead, repeatedParses, refused, ?_⟩
  · exact (serving.validates _ _ _ _ _ _ _).mpr ⟨⟨rfl, rfl, rfl⟩, by decide, by decide +kernel, rfl⟩
  · obtain ⟨registry, first, told⟩ := repeatedParses.repeated _ rfl (by decide)
    have same := Problem.repeatedRegistry.inj (Except.error.inj (refused.symm.trans told))
    exact ⟨registry, first, same.symm⟩

end Preferences

end Scaffold
