import Scaffold.Proofs.Decision
import Scaffold.Proofs.Detect.Comparison
import Scaffold.Proofs.Manifest
import Scaffold.Proofs.Session.Inquiries

/-! # What a selection asks for

A backend that selects a manifest asks for the indexes of registries, one after another and none of them twice, and
then for the devfile of the stack that it came to. How far it comes depends on the backend: flags name a place or a
stack, the sources are compared with the stacks of all registries, and the user chooses one registry.
-/

namespace Scaffold

variable {σ : Type} [Storage σ]

namespace Registry

/-- The page of the index. -/
def indexPage (registry : Registry) : Inquiry := .page registry.indexUrl

/-- The page of the devfile of a stack. -/
def devfilePage (registry : Registry) (stack : String) : Inquiry := .page (registry.devfileUrl stack)

variable {registry : Registry} {registries : List Registry} {stack : Stack} {name : String} {directory : Path}
  {session after : Session σ}

theorem index_inquires {outcome : Except Cause (List Stack)} (ran : registry.index.apply session = (outcome, after)) :
    Run.Inquires registry.indexPage session after outcome := by
  rcases Run.bind_cases ran with ⟨cause, rfl, failed⟩ | ⟨contents, middle, fetched, ran⟩
  · cases Run.fetch_inquires failed with
    | asked asks honest => exact .asked asks fun same => honest (by cases same; rfl)
    | forestalled asks same cancelled => exact .forestalled asks (by cases same; rfl) cancelled
  · have asks := (Run.fetch_inquires fetched).asks_of_ok
    split at ran
    · cases ran
      exact .asked asks nofun
    · cases ran
      exact .asked asks nofun

/-- Fetching a devfile and staging it asks for at most the devfile. -/
theorem stage_asks {outcome : Except Cause Manifest}
    (ran : (registry.stage stack directory).apply session = (outcome, after)) :
    session.Asks [] after ∨ session.Asks [registry.devfilePage stack.name] after := by
  rcases Run.bind_cases ran with ⟨_, rfl, failed⟩ | ⟨contents, middle, fetched, ran⟩
  · exact (Run.fetch_inquires failed).asks
  · have stages : ∀ contents origin, (Manifest.stage directory contents origin : Run σ _ _).Silent :=
      fun _ _ => Manifest.stage_only fun _ => rfl
    exact .inr ((Run.fetch_inquires fetched).asks_of_ok.trans_nil
      (Run.Silent.asks (Run.only_bind Run.only_checkCancelled fun _ => stages _ _) ran))

/-- Unless the run was cancelled before, staging the devfile of a stack asks for it. -/
theorem stage_asked {outcome : Except Cause Manifest} (free : session.isCancelled = false)
    (ran : (registry.stage stack directory).apply session = (outcome, after)) :
    session.Asks [registry.devfilePage stack.name] after := by
  rcases Run.bind_cases ran with ⟨_, rfl, failed⟩ | ⟨contents, middle, fetched, ran⟩
  · exact (Run.fetch_asked free failed).1
  · have stages : ∀ contents origin, (Manifest.stage directory contents origin : Run σ _ _).Silent :=
      fun _ _ => Manifest.stage_only fun _ => rfl
    exact (Run.fetch_asked free fetched).1.trans_nil
      (Run.Silent.asks (Run.only_bind Run.only_checkCancelled fun _ => stages _ _) ran)

/-! ## Searching registries for a name -/

/-- The registries that are searched: all of them, or one that is named. -/
def candidates (registries : List Registry) : Option String → List Registry
  | none => registries
  | some wanted => (named? registries wanted).toList

theorem candidates_sublist (registries : List Registry) (wanted? : Option String) :
    (candidates registries wanted?).Sublist registries := by
  cases wanted? with
  | none => exact .refl _
  | some wanted =>
    cases found : named? registries wanted with
    | none => simp [candidates, found]
    | some registry => simpa [candidates, found] using List.mem_of_find?_eq_some found

/-- What a search for a name comes to: the first of some registries are asked for their indexes, each once, and if a
stack was found it is one of that name that the last of them lists. -/
inductive Searches (name : String) (registries : List Registry) (session : Session σ) :
    Option (Registry × Stack) → Session σ → Prop
  | missed (searched : List Registry) (after : Session σ) (among : searched <+: registries)
      (asks : session.Asks (searched.map indexPage) after) : Searches name registries session none after
  | found (opening : List Registry) (registry : Registry) (stack : Stack) (listed : List Stack)
      (asked after : Session σ) (among : opening ++ [registry] <+: registries)
      (asks : session.Asks (opening.map indexPage) asked) (indexed : registry.index.apply asked = (.ok listed, after))
      (member : stack ∈ listed) (named : stack.name = name) :
      Searches name registries session (some (registry, stack)) after

section

variable {found? : Option (Registry × Stack)} {middle : Session σ}

/-- A registry that does not list the name is searched before the others. -/
theorem Searches.cons (first : session.Asks [registry.indexPage] middle)
    (searches : Searches name registries middle found? after) :
    Searches name (registry :: registries) session found? after := by
  cases searches with
  | missed searched _ among asks =>
    exact .missed (registry :: searched) _ (List.cons_prefix_cons.mpr ⟨rfl, among⟩) (first.trans asks)
  | found opening other stack listed asked _ among asks indexed member named =>
    exact .found (registry :: opening) other stack listed asked _ (List.cons_prefix_cons.mpr ⟨rfl, among⟩)
      (first.trans asks) indexed member named

/-- A search may end with the first registry, whether its index was asked for or not. -/
theorem Searches.stop (asks : session.Asks [] after ∨ session.Asks [registry.indexPage] after) :
    Searches name (registry :: registries) session none after := by
  rcases asks with asks | asks
  · exact .missed [] _ List.nil_prefix asks
  · exact .missed [registry] _ (List.cons_prefix_cons.mpr ⟨rfl, List.nil_prefix⟩) asks

/-- A search ends with the first registry if that lists the name. -/
theorem Searches.hit {listed : List Stack} (indexed : registry.index.apply session = (.ok listed, after))
    (first : listed.find? (fun stack => stack.name = name) = some stack) :
    Searches name (registry :: registries) session (some (registry, stack)) after :=
  .found [] registry stack listed session _ (List.cons_prefix_cons.mpr ⟨rfl, List.nil_prefix⟩)
    (.refl _) indexed (List.mem_of_find?_eq_some first)
    (by simpa using List.find?_some first)

end

theorem searchFrom_searches {failure? : Option Cause} {outcome : Except Cause (Option (Registry × Stack))}
    (ran : (searchFrom name failure? registries).apply session = (outcome, after)) :
    Searches name registries session outcome.toOption.join after := by
  induction registries generalizing failure? session with
  | nil =>
    unfold searchFrom at ran
    split at ran <;>
    · cases ran
      exact .missed [] _ List.prefix_rfl (.refl _)
  | cons registry rest ih =>
    unfold searchFrom at ran
    rw [Run.apply_bind_of_ok (Run.apply_attempt _ _)] at ran
    rcases indexed : registry.index.apply session with ⟨answer, middle⟩
    rw [indexed] at ran
    dsimp only at ran
    split at ran
    · cases ran
      exact .stop (index_inquires indexed).asks
    · exact .cons ((index_inquires indexed).asks_of_failed ‹_›) (ih ran)
    · split at ran
      · cases ran
        exact .hit indexed ‹_›
      · exact .cons (index_inquires indexed).asks_of_ok (ih ran)

theorem locate_searches {wanted? : Option String} {outcome : Except Cause (Registry × Stack)}
    (ran : (locate registries name wanted?).apply session = (outcome, after)) :
    Searches name (candidates registries wanted?) session outcome.toOption after := by
  cases wanted? with
  | none =>
    rcases Run.bind_cases ran with ⟨_, rfl, failed⟩ | ⟨found?, middle, searching, ran⟩
    · exact searchFrom_searches failed
    · have searches := searchFrom_searches searching
      split at ran
      · cases ran
        exact searches
      · cases ran
        exact searches
  | some wanted =>
    unfold locate at ran
    dsimp only at ran
    split at ran
    · cases ran
      exact .missed [] _ List.nil_prefix (.refl _)
    · rename_i registry named
      rw [candidates, named, Option.toList_some]
      rcases Run.bind_cases ran with ⟨_, rfl, failed⟩ | ⟨listed, middle, indexed, ran⟩
      · exact .stop (index_inquires failed).asks
      · split at ran
        · cases ran
          exact .hit indexed ‹_›
        · cases ran
          exact .stop (.inr (index_inquires indexed).asks_of_ok)

end Registry

section

variable {registries : List Registry} {flags : Flags} {directory : Path} {session after : Session σ}

/-! ## By flags -/

namespace Flags

/-- What flags ask for on the way to a manifest: the page at a place that is a web address, or the indexes of registries
that are searched for a name and then the devfile of that name in the registry whose index lists it. -/
inductive Asks (flags : Flags) (registries : List Registry) (session : Session σ) : List Inquiry → Prop
  | nothing : Asks flags registries session []
  | page (place : String) (given : flags.devfilePath = some place) (web : Url.isUrl place = true) :
      Asks flags registries session [.page place]
  | searching (name : String) (searched : List Registry) (noPath : flags.devfilePath = none)
      (given : flags.devfile = some name) (among : searched <+: Registry.candidates registries flags.devfileRegistry)
      (inOrder : searched.Sublist registries) :
      Asks flags registries session (searched.map Registry.indexPage)
  | located (name : String) (opening : List Registry) (registry : Registry) (stack : Stack) (listed : List Stack)
      (asked answered : Session σ) (noPath : flags.devfilePath = none) (given : flags.devfile = some name)
      (among : opening ++ [registry] <+: Registry.candidates registries flags.devfileRegistry)
      (inOrder : (opening ++ [registry]).Sublist registries)
      (asks : session.Asks (opening.map Registry.indexPage) asked)
      (indexed : registry.index.apply asked = (.ok listed, answered)) (member : stack ∈ listed)
      (named : stack.name = name) :
      Asks flags registries session ((opening ++ [registry]).map Registry.indexPage ++ [registry.devfilePage name])

theorem Asks.length_le {asked : List Inquiry} (asks : flags.Asks registries session asked) :
    asked.length ≤ registries.length + 1 := by
  cases asks with
  | nothing => exact Nat.zero_le _
  | page _ _ _ => simp
  | searching _ _ _ _ _ inOrder => simpa using Nat.le_succ_of_le inOrder.length_le
  | located _ _ _ _ _ _ _ _ _ _ inOrder _ _ _ _ => simpa using inOrder.length_le

theorem acquire_asks {place : String} {outcome : Except Cause ByteArray}
    (ran : (acquire place directory).apply session = (outcome, after)) :
    session.Asks [] after ∨ Url.isUrl place = true ∧ session.Asks [.page place] after := by
  unfold acquire at ran
  split at ran
  · rename_i web
    exact (Run.fetch_inquires ran).asks.imp_right fun asks => ⟨web, asks⟩
  · exact .inl (Run.Silent.asks (Run.only_mapError (Run.call_looks rfl)).silent ran)

theorem selectManifest_asks {outcome : Except Cause Manifest}
    (ran : (flags.selectManifest registries directory).apply session = (outcome, after)) :
    ∃ asked, session.Asks asked after ∧ flags.Asks registries session asked := by
  unfold selectManifest at ran
  split at ran
  · rename_i place given
    have page : session.Asks [] after ∨ Url.isUrl place = true ∧ session.Asks [.page place] after := by
      rcases Run.bind_cases ran with ⟨_, _, failed⟩ | ⟨contents, middle, acquired, ran⟩
      · exact acquire_asks failed
      · have stages : (Manifest.stage directory contents place : Run σ _ _).Silent := Manifest.stage_only fun _ => rfl
        have silent := Run.Silent.asks (Run.only_bind Run.only_checkCancelled fun _ => stages) ran
        exact (acquire_asks acquired).imp (·.trans_nil silent) (.imp_right (·.trans_nil silent))
    rcases page with asks | ⟨web, asks⟩
    · exact ⟨_, asks, .nothing⟩
    · exact ⟨_, asks, .page place given web⟩
  · rename_i noPath
    split at ran
    · cases ran
      exact ⟨_, .refl _, .nothing⟩
    rename_i name given
    have inOrder : ∀ {searched : List Registry}, searched <+: Registry.candidates registries flags.devfileRegistry →
        searched.Sublist registries := fun among => among.sublist.trans (Registry.candidates_sublist _ _)
    rcases Run.bind_cases ran with ⟨_, rfl, failed⟩ | ⟨⟨registry, stack⟩, middle, found, staging⟩
    · cases Registry.locate_searches failed with
      | missed searched _ among asks => exact ⟨_, asks, .searching name searched noPath given among (inOrder among)⟩
    · cases Registry.locate_searches found with
      | found opening _ _ listed asked _ among asks indexed member named =>
        subst named
        have all : session.Asks ((opening ++ [registry]).map Registry.indexPage) middle := by
          rw [List.map_append]
          exact asks.trans (Registry.index_inquires indexed).asks_of_ok
        rcases Registry.stage_asks staging with still | last
        · exact ⟨_, all.trans_nil still, .searching stack.name _ noPath given among (inOrder among)⟩
        · exact ⟨_, all.trans last, .located stack.name opening registry stack listed asked middle noPath given among
            (inOrder among) asks indexed member rfl⟩

end Flags

/-! ## By the sources -/

namespace Detection

/-- What comparing the stacks of some registries comes to: all are asked for their indexes, each once and in order,
unless the run is cancelled on the way, and the best match is the one from before or that of a registry among them. -/
inductive Compares (best? : Option Match) (registries : List Registry) (session : Session σ) :
    Except Cause Match → Session σ → Prop
  | interrupted (searched : List Registry) (after : Session σ) (among : searched <+: registries)
      (asks : session.Asks (searched.map Registry.indexPage) after) (cancelled : after.isCancelled = true) :
      Compares best? registries session (.error .cancelled) after
  | failed (cause : Cause) (after : Session σ) (asks : session.Asks (registries.map Registry.indexPage) after) :
      Compares best? registries session (.error cause) after
  | matched (best : Match) (after : Session σ) (asks : session.Asks (registries.map Registry.indexPage) after)
      (among : best? = some best ∨ best.registry ∈ registries) : Compares best? registries session (.ok best) after

section

variable {signals : Signals} {best? next? : Option Match} {outcome : Except Cause Match} {registry : Registry}

/-- A registry that is compared before the others. -/
theorem Compares.cons {middle : Session σ} (first : session.Asks [registry.indexPage] middle)
    (kept : ∀ best, next? = some best → best? = some best ∨ best.registry = registry)
    (compares : Compares next? registries middle outcome after) :
    Compares best? (registry :: registries) session outcome after := by
  cases compares with
  | interrupted searched _ among asks cancelled =>
    exact .interrupted (registry :: searched) _ (List.cons_prefix_cons.mpr ⟨rfl, among⟩) (first.trans asks) cancelled
  | failed cause _ asks => exact .failed cause _ (first.trans asks)
  | matched best _ asks among =>
    refine .matched best _ (first.trans asks) ?_
    rcases among with same | member
    · rcases kept best same with before | rfl
      · exact .inl before
      · exact .inr List.mem_cons_self
    · exact .inr (List.mem_cons_of_mem _ member)

theorem bestFrom_compares {failure? : Option Cause}
    (ran : (bestFrom signals directory best? failure? registries).apply session = (outcome, after)) :
    Compares best? registries session outcome after := by
  induction registries generalizing best? failure? session with
  | nil =>
    have nothing := Session.Asks.refl session
    unfold bestFrom at ran
    split at ran
    · cases ran
      exact .matched _ _ nothing (.inl rfl)
    · cases ran
      exact .failed _ _ nothing
    · cases ran
      exact .failed _ _ nothing
  | cons registry rest ih =>
    unfold bestFrom at ran
    rw [Run.apply_bind_of_ok (Run.apply_attempt _ _)] at ran
    rcases indexed : registry.index.apply session with ⟨answer, middle⟩
    rw [indexed] at ran
    have inquires := Registry.index_inquires indexed
    dsimp only at ran
    split at ran
    · cases ran
      obtain ⟨asks | asks, cancelled⟩ := inquires.asks_of_cancelled
      · exact .interrupted [] _ List.nil_prefix asks cancelled
      · exact .interrupted [registry] _ (List.cons_prefix_cons.mpr ⟨rfl, List.nil_prefix⟩) asks cancelled
    · exact .cons (inquires.asks_of_failed ‹_›) (fun _ => .inl) (ih ran)
    · split at ran
      · exact .cons inquires.asks_of_ok (fun _ => .inl) (ih ran)
      · rename_i challenger found
        refine .cons inquires.asks_of_ok (fun best same => ?_) (ih ran)
        rcases better_cases best? challenger with stays | ⟨replaced, _⟩
        · exact .inl (stays.symm.trans same)
        · rw [replaced] at same
          exact .inr (Option.some.inj same ▸ registry_of_matchIn? found)

end

/-- What a search by the sources asks for on the way to a manifest: nothing if the sources cannot be scanned or tell
nothing, and else the indexes of all registries, as long as the run is not cancelled, and then the devfile of the stack
that fits best. -/
inductive Asks (registries : List Registry) (directory : Path) (session after : Session σ) : List Inquiry → Prop
  | unreadable (cause : Cause) (scanned : Session σ)
      (scanning : (Run.scan directory).apply session = (.error cause, scanned)) :
      Asks registries directory session after []
  | unrecognised (signals : Signals) (scanned : Session σ)
      (scanning : (Run.scan directory).apply session = (.ok signals, scanned)) (empty : signals.isEmpty = true) :
      Asks registries directory session after []
  | interrupted (signals : Signals) (scanned : Session σ) (searched : List Registry)
      (scanning : (Run.scan directory).apply session = (.ok signals, scanned)) (telling : signals.isEmpty = false)
      (among : searched <+: registries) (cancelled : after.isCancelled = true) :
      Asks registries directory session after (searched.map Registry.indexPage)
  | compared (signals : Signals) (scanned : Session σ)
      (scanning : (Run.scan directory).apply session = (.ok signals, scanned)) (telling : signals.isEmpty = false) :
      Asks registries directory session after (registries.map Registry.indexPage)
  | detected (signals : Signals) (scanned compared : Session σ) (best : Match)
      (scanning : (Run.scan directory).apply session = (.ok signals, scanned)) (telling : signals.isEmpty = false)
      (comparing : (bestFrom signals directory none none registries).apply scanned = (.ok best, compared))
      (among : best.registry ∈ registries) :
      Asks registries directory session after
        (registries.map Registry.indexPage ++ [best.registry.devfilePage best.stack.name])

theorem Asks.length_le {asked : List Inquiry} (asks : Asks registries directory session after asked) :
    asked.length ≤ registries.length + 1 := by
  cases asks with
  | unreadable _ _ _ | unrecognised _ _ _ _ => exact Nat.zero_le _
  | interrupted _ _ _ _ _ among _ => simpa using Nat.le_succ_of_le among.length_le
  | compared _ _ _ _ | detected _ _ _ _ _ _ _ _ => simp

theorem selectManifest_asks {outcome : Except Cause Manifest}
    (ran : (selectManifest registries directory).apply session = (outcome, after)) :
    ∃ asked, session.Asks asked after ∧ Asks registries directory session after asked := by
  have silent : (Run.scan directory : Run σ Cause Signals).Silent := (Run.scan_looks directory).silent
  rcases Run.bind_cases ran with ⟨cause, rfl, failed⟩ | ⟨signals, scanned, scanning, ran⟩
  · exact ⟨_, silent.asks failed, .unreadable cause after failed⟩
  have nothing := silent.asks scanning
  dsimp only at ran
  split at ran
  · rename_i empty
    cases ran
    exact ⟨_, nothing, .unrecognised signals _ scanning empty⟩
  rename_i telling
  have telling : signals.isEmpty = false := by simpa using telling
  rcases Run.bind_cases ran with ⟨cause, rfl, failed⟩ | ⟨best, compared, comparing, ran⟩
  · cases bestFrom_compares failed with
    | interrupted searched _ among asks cancelled =>
      exact ⟨_, nothing.trans asks, .interrupted signals scanned searched scanning telling among cancelled⟩
    | failed _ _ asks => exact ⟨_, nothing.trans asks, .compared signals scanned scanning telling⟩
  · cases bestFrom_compares comparing with
    | matched _ _ asks among =>
      have all := nothing.trans asks
      rcases Run.bind_cases ran with ⟨_, _, impossible⟩ | ⟨_, told, noticed, ran⟩
      · cases impossible
      have all := all.trans_nil ((Run.notice_consults _).silent.asks noticed)
      rcases Registry.stage_asks ran with still | last
      · exact ⟨_, all.trans_nil still, .compared signals scanned scanning telling⟩
      · exact ⟨_, all.trans last,
          .detected signals scanned compared best scanning telling comparing (among.resolve_left nofun)⟩

end Detection

/-! ## By questions -/

namespace Interactive

/-- What a user's choices ask for on the way to a manifest: the index of the registry that was chosen, and the devfile
of a stack that it lists. -/
inductive Asks (registries : List Registry) (session : Session σ) : List Inquiry → Prop
  | nothing : Asks registries session []
  | index (registry : Registry) (asked : Session σ)
      (chosen : (selectRegistry registries).apply session = (.ok registry, asked)) (among : registry ∈ registries) :
      Asks registries session [registry.indexPage]
  | devfile (registry : Registry) (stack : Stack) (listed : List Stack) (asked answered : Session σ)
      (chosen : (selectRegistry registries).apply session = (.ok registry, asked)) (among : registry ∈ registries)
      (indexed : registry.index.apply asked = (.ok listed, answered)) (member : stack ∈ listed) :
      Asks registries session [registry.indexPage, registry.devfilePage stack.name]

omit [Storage σ] in
theorem Asks.length_le {asked : List Inquiry} (asks : Asks registries session asked) :
    asked.length ≤ registries.length + 1 := by
  cases asks with
  | nothing => exact Nat.zero_le _
  | index _ _ _ _ => simp
  | devfile _ _ _ _ _ _ among _ _ => exact Nat.succ_le_succ (List.length_pos_of_mem among)

omit [Storage σ] in
theorem mem_of_choose {α : Type} {prompt : String} {label : α → String} {choices : List α} {value : α}
    (chosen : (choose prompt label choices).apply session = (.ok value, after)) : value ∈ choices := by
  obtain ⟨_, _, _, returned⟩ := Run.bind_eq_ok chosen
  cases returned
  exact List.get_mem _ _

omit [Storage σ] in
theorem mem_of_selectRegistry {registry : Registry}
    (chosen : (selectRegistry registries).apply session = (.ok registry, after)) : registry ∈ registries := by
  unfold selectRegistry at chosen
  split at chosen
  · cases chosen
  · cases chosen
    exact List.mem_singleton_self _
  · exact mem_of_choose chosen

theorem selectManifest_asks {outcome : Except Cause Manifest}
    (ran : (selectManifest registries directory).apply session = (outcome, after)) :
    ∃ asked, session.Asks asked after ∧ Asks registries session asked := by
  rcases Run.bind_cases ran with ⟨_, _, failed⟩ | ⟨registry, asked, chosen, ran⟩
  · exact ⟨_, (selectRegistry_consults registries).silent.asks failed, .nothing⟩
  have nothing := (selectRegistry_consults registries).silent.asks chosen
  have among := mem_of_selectRegistry chosen
  rcases Run.bind_cases ran with ⟨_, rfl, failed⟩ | ⟨listed, answered, indexed, ran⟩
  · rcases (Registry.index_inquires failed).asks with asks | asks
    · exact ⟨_, nothing.trans asks, .nothing⟩
    · exact ⟨_, nothing.trans asks, .index registry asked chosen among⟩
  have first := nothing.trans (Registry.index_inquires indexed).asks_of_ok
  dsimp only at ran
  split at ran
  · cases ran
    exact ⟨_, first, .index registry asked chosen among⟩
  rcases Run.bind_cases ran with ⟨_, _, failed⟩ | ⟨language, spoken, speaking, ran⟩
  · exact ⟨_, first.trans_nil ((choose_consults _ _ _).silent.asks failed), .index registry asked chosen among⟩
  have first := first.trans_nil ((choose_consults _ _ _).silent.asks speaking)
  rcases Run.bind_cases ran with ⟨_, _, failed⟩ | ⟨stack, picked, picking, ran⟩
  · exact ⟨_, first.trans_nil ((choose_consults _ _ _).silent.asks failed), .index registry asked chosen among⟩
  have first := first.trans_nil ((choose_consults _ _ _).silent.asks picking)
  have member : stack ∈ listed := (List.mem_filter.mp (List.mem_mergeSort.mp (mem_of_choose picking))).1
  rcases Registry.stage_asks ran with still | last
  · exact ⟨_, first.trans_nil still, .index registry asked chosen among⟩
  · exact ⟨_, first.trans last, .devfile registry stack listed asked answered chosen among indexed member⟩

end Interactive

/-! ## Every backend -/

namespace BackendKind

/-- What a backend asks for on the way to a manifest. -/
def Asks (kind : BackendKind) (registries : List Registry) (given : Flags) (directory : Path)
    (session after : Session σ) (asked : List Inquiry) : Prop :=
  match kind with
  | .flags => given.Asks registries session asked
  | .detection => Detection.Asks registries directory session after asked
  | .interactive => Interactive.Asks registries session asked

theorem selectManifest_asks {kind : BackendKind} {outcome : Except Cause Manifest}
    (ran : (kind.selectManifest registries flags directory).apply session = (outcome, after)) :
    ∃ asked, session.Asks asked after ∧ kind.Asks registries flags directory session after asked := by
  cases kind with
  | flags => exact Flags.selectManifest_asks ran
  | detection => exact Detection.selectManifest_asks ran
  | interactive => exact Interactive.selectManifest_asks ran

/-- A backend asks for no more than an index in each registry and a devfile. -/
theorem Asks.length_le {kind : BackendKind} {asked : List Inquiry}
    (asks : kind.Asks registries flags directory session after asked) : asked.length ≤ registries.length + 1 := by
  cases kind with
  | flags => exact Flags.Asks.length_le asks
  | detection => exact Detection.Asks.length_le asks
  | interactive => exact Interactive.Asks.length_le asks

theorem chooseName_silent (kind : BackendKind) (given : Flags) (devfile : Devfile) (directory : Path) :
    (kind.chooseName given devfile directory : Run σ Cause String).Silent := by
  cases kind with
  | flags => exact Run.only_ofExcept _
  | detection => exact Run.only_bind (Run.scan_looks directory).silent fun _ => Run.only_pure _
  | interactive => exact (Interactive.chooseName_consults devfile directory).silent

end BackendKind

end

end Scaffold
