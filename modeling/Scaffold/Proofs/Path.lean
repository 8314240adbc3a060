import Scaffold.Path

/-! # Components of paths

A path is a text, and everything else looks at its components. The lemmas here tell the components of the paths
that are put together from others: of a path below another one, of names between slashes, and of the parent of a
path. Names lead downwards, so that a route that ends with them is followed as it stands.
-/

namespace Scaffold

namespace Text

variable {separator : Char}

theorem split_append_separator (left right : List Char) :
    split separator (left ++ separator :: right) = split separator left ++ split separator right := by
  induction left with
  | nil => simp [split]
  | cons c rest ih =>
    by_cases same : c = separator
    · simp [split, same, ih]
    · obtain ⟨piece, pieces, first⟩ := List.exists_cons_of_ne_nil (split_ne_nil separator rest)
      simp [split, same, ih, first]

/-- A text without the separator is one piece. -/
theorem split_of_not_mem {text : List Char} (free : separator ∉ text) : split separator text = [text] := by
  induction text with
  | nil => rfl
  | cons c rest ih =>
    rw [List.mem_cons, not_or] at free
    simp [split, Ne.symm free.1, ih free.2]

theorem not_mem_of_mem_split {piece text : List Char} (member : piece ∈ split separator text) :
    separator ∉ piece := by
  induction text generalizing piece with
  | nil =>
    obtain rfl : piece = [] := by simpa [split] using member
    exact List.not_mem_nil
  | cons c rest ih =>
    obtain ⟨first, others, cut⟩ := List.exists_cons_of_ne_nil (split_ne_nil separator rest)
    by_cases same : c = separator
    · simp only [split, same, ↓reduceIte, List.mem_cons] at member
      rcases member with rfl | member
      · exact List.not_mem_nil
      · exact ih member
    · simp only [split, same, ↓reduceIte, cut, List.mem_cons] at member
      rcases member with rfl | member
      · rw [List.mem_cons, not_or]
        exact ⟨Ne.symm same, ih (by simp [cut])⟩
      · exact ih (by simp [cut, member])

/-- Cutting finds the pieces again that were put together. -/
theorem split_glue {pieces : List (List Char)} (some : pieces ≠ [])
    (free : ∀ piece ∈ pieces, separator ∉ piece) : split separator (glue separator pieces) = pieces := by
  induction pieces with
  | nil => exact absurd rfl some
  | cons piece rest ih =>
    have first : split separator piece = [piece] := split_of_not_mem (free piece (by simp))
    cases rest with
    | nil => exact first
    | cons next rest =>
      have others := ih (by simp) fun piece member => free piece (by simp [member])
      rw [glue, split_append_separator, first, others]
      rfl

end Text

/-- A text that is a component by itself, and a plain name. -/
def PlainName (name : String) : Prop :=
  '/' ∉ name.toList ∧ PathComponent.ofPiece? name.toList = some (.name name)

namespace Route

/-- The components of a text between slashes, wherever it stands in a path. -/
def ofText (text : List Char) : Route := (Text.split '/' text).filterMap PathComponent.ofPiece?

@[simp] theorem ofText_nil : ofText [] = [] := rfl

/-- A piece between slashes stands for a name or a way up, if for anything. -/
theorem up_or_name_of_ofPiece? {piece : List Char} {component : PathComponent}
    (read : PathComponent.ofPiece? piece = some component) : component = .up ∨ ∃ name, component = .name name := by
  unfold PathComponent.ofPiece? at read
  split at read <;> cases read
  · exact .inl rfl
  · exact .inr ⟨_, rfl⟩

theorem up_or_name_of_mem_ofText {text : List Char} {component : PathComponent} (member : component ∈ ofText text) :
    component = .up ∨ ∃ name, component = .name name := by
  obtain ⟨_, _, read⟩ := List.mem_filterMap.mp member
  exact up_or_name_of_ofPiece? read

theorem root_not_mem_ofText (text : List Char) : PathComponent.root ∉ ofText text := fun member => by
  rcases up_or_name_of_mem_ofText member with impossible | ⟨_, impossible⟩ <;> cases impossible

theorem ofText_append (left right : List Char) : ofText (left ++ '/' :: right) = ofText left ++ ofText right := by
  rw [ofText, Text.split_append_separator, List.filterMap_append]
  rfl

theorem ofText_name {name : String} (plain : PlainName name) : ofText name.toList = [.name name] := by
  simp [ofText, Text.split_of_not_mem plain.1, plain.2]

theorem ofText_names {names : List String} (plain : ∀ name ∈ names, PlainName name) :
    ofText ("/".intercalate names).toList = names.map .name := by
  induction names with
  | nil => rfl
  | cons name rest ih =>
    have first := ofText_name (plain name (by simp))
    cases rest with
    | nil => simpa using first
    | cons next rest =>
      have others := ih fun name member => plain name (by simp [member])
      have text : ("/".intercalate (name :: next :: rest)).toList =
          name.toList ++ '/' :: ("/".intercalate (next :: rest)).toList := by
        simp [String.intercalate_cons_cons]
      rw [text, ofText_append, first, others]
      rfl

theorem parent?_concat_name (route : Route) (name : String) : parent? (route ++ [.name name]) = some route := by
  cases route with
  | nil => rfl
  | cons component rest =>
    have dropped : (component :: rest ++ [PathComponent.name name]).dropLast = component :: rest :=
      List.dropLast_concat
    rw [List.cons_append] at dropped ⊢
    unfold parent?
    split <;> simp_all

theorem normalize_append_names (route : Route) (names : List String) :
    normalize (route ++ names.map .name) = normalize route ++ names.map .name := by
  have follow_names : ∀ opening : Route,
      (names.map PathComponent.name).foldl follow opening = opening ++ names.map .name := by
    induction names with
    | nil => simp
    | cons name rest ih => simp [follow, ih]
  rw [normalize, List.foldl_append, follow_names]
  rfl

/-- What holds of a route and goes up from each route to its parent holds of all ancestors. -/
theorem forall_ancestors (holds : Route → Prop) {route : Route} (self : holds route)
    (up : ∀ {below above}, holds below → parent? below = some above → holds above) :
    ∀ above ∈ route.ancestors, holds above := by
  unfold ancestors
  -- The fuel does not matter: each step up keeps what holds.
  generalize route.length = fuel
  induction fuel generalizing route with
  | zero => simpa [ancestorsFrom] using self
  | succ fuel ih =>
    intro above member
    unfold ancestorsFrom at member
    cases climbed : parent? route with
    | none =>
      simp only [climbed, List.mem_singleton] at member
      exact member ▸ self
    | some parent =>
      simp only [climbed, List.mem_cons] at member
      rcases member with rfl | member
      · exact self
      · exact ih (up self climbed) above member

theorem self_mem_ancestors (route : Route) : route ∈ route.ancestors := by
  unfold ancestors
  cases route.length with
  | zero => simp [ancestorsFrom]
  | succ fuel =>
    unfold ancestorsFrom
    split <;> simp

theorem length_lt_of_parent? {below above : Route} (climbed : below.parent? = some above) : above.length < below.length := by
  unfold parent? at climbed
  split at climbed
  · cases climbed
  · cases climbed
  · rename_i some _
    have positive := List.length_pos_iff.mpr some
    rw [← Option.some.inj climbed, List.length_dropLast]
    omega

theorem length_le_of_mem_ancestors {route above : Route} (member : above ∈ route.ancestors) :
    above.length ≤ route.length :=
  forall_ancestors (fun above => above.length ≤ route.length) (Nat.le_refl _)
    (fun below climbed => Nat.le_trans (Nat.le_of_lt (length_lt_of_parent? climbed)) below) above member

theorem ancestors_concat_name (route : Route) (name : String) :
    ancestors (route ++ [.name name]) = (route ++ [.name name]) :: route.ancestors := by
  unfold ancestors
  rw [List.length_append, List.length_singleton, ancestorsFrom, parent?_concat_name]

theorem append_names_inj {base : Route} {left right : List String} :
    base ++ left.map .name = base ++ right.map .name ↔ left = right := by
  rw [List.append_cancel_left_eq, List.map_inj_right fun _ _ => PathComponent.name.inj]

/-- Above a route that ends with names are those with fewer names, and what is above the rest. -/
theorem mem_ancestors_append_names {base above : Route} {names : List String} :
    above ∈ ancestors (base ++ names.map .name) ↔
      (∃ opening, opening ≠ [] ∧ opening <+: names ∧ above = base ++ opening.map .name) ∨ above ∈ base.ancestors := by
  obtain ⟨reversed, rfl⟩ : ∃ reversed, names = List.reverse reversed := ⟨names.reverse, by simp⟩
  induction reversed with
  | nil =>
    rw [List.reverse_nil, List.map_nil, List.append_nil]
    refine (or_iff_right ?_).symm
    rintro ⟨opening, some, begins, _⟩
    exact some (List.prefix_nil.mp begins)
  | cons last rest ih =>
    rw [List.reverse_cons]
    generalize rest.reverse = names at ih ⊢
    rw [List.map_append, List.map_singleton, ← List.append_assoc, ancestors_concat_name, List.mem_cons, ih]
    constructor
    · rintro (rfl | ⟨opening, some, begins, rfl⟩ | above)
      · exact .inl ⟨names ++ [last], by simp, List.prefix_rfl, by simp⟩
      · exact .inl ⟨opening, some, begins.trans (List.prefix_append ..), rfl⟩
      · exact .inr above
    · rintro (⟨opening, some, begins, rfl⟩ | above)
      · rcases List.prefix_concat_iff.mp begins with rfl | begins
        · exact .inl (by simp)
        · exact .inr (.inl ⟨opening, some, begins, rfl⟩)
      · exact .inr (.inr above)

end Route

namespace Path

theorem isAbsolute_iff {path : Path} : path.isAbsolute = true ↔ ∃ rest, path.text.toList = '/' :: rest := by
  cases text : path.text.toList <;> simp [isAbsolute, text]

theorem components_of_absolute {path : Path} {rest : List Char} (text : path.text.toList = '/' :: rest) :
    path.components = .root :: Route.ofText rest := by
  obtain ⟨piece, pieces, cut⟩ := List.exists_cons_of_ne_nil (Text.split_ne_nil '/' rest)
  simp [components, text, Text.split, cut, Route.ofText]

theorem plainName_of_mem_components {path : Path} {name : String}
    (member : PathComponent.name name ∈ path.components) : PlainName name := by
  -- Every name is one of the pieces between slashes.
  have cut : ∃ piece ∈ Text.split '/' path.text.toList, PathComponent.ofPiece? piece = some (.name name) := by
    unfold components at member
    split at member <;> simp_all
  obtain ⟨piece, between, read⟩ := cut
  have same : String.ofList piece = name := by
    unfold PathComponent.ofPiece? at read
    split at read <;> simp_all
  rw [PlainName, ← same, String.toList_ofList]
  exact ⟨Text.not_mem_of_mem_split between, same ▸ read⟩

/-- Dropping the pieces at the end that stand for no component leaves nothing or ends with one that does. -/
private theorem dropTrailing_cases (pieces : List (List Char)) :
    (dropTrailing pieces = [] ∧ pieces.filterMap PathComponent.ofPiece? = []) ∨
      ∃ opening last component, dropTrailing pieces = opening ++ [last] ∧
        PathComponent.ofPiece? last = some component ∧
        pieces.filterMap PathComponent.ofPiece? = opening.filterMap PathComponent.ofPiece? ++ [component] := by
  obtain ⟨reversed, rfl⟩ : ∃ reversed, pieces = List.reverse reversed := ⟨pieces.reverse, by simp⟩
  rw [dropTrailing, List.reverse_reverse]
  induction reversed with
  | nil => exact .inl ⟨rfl, rfl⟩
  | cons last rest ih =>
    cases read : PathComponent.ofPiece? last with
    | none => simpa [read, List.filterMap_append] using ih
    | some component => exact .inr ⟨rest.reverse, last, component, by simp [read], read, by simp [read]⟩

private theorem mem_of_mem_dropTrailing {piece : List Char} {pieces : List (List Char)}
    (member : piece ∈ dropTrailing pieces) : piece ∈ pieces :=
  List.mem_reverse.mp ((List.dropWhile_sublist _).mem (List.mem_reverse.mp member))

private theorem filterMap_dropTrailing (pieces : List (List Char)) :
    (dropTrailing pieces).filterMap PathComponent.ofPiece? = pieces.filterMap PathComponent.ofPiece? := by
  rcases dropTrailing_cases pieces with ⟨none, same⟩ | ⟨opening, last, component, kept, read, same⟩
  · rw [none, same, List.filterMap_nil]
  · rw [kept, same, List.filterMap_append]
    simp [read]

private theorem dropTrailing_eq_nil {pieces : List (List Char)} :
    dropTrailing pieces = [] ↔ pieces.filterMap PathComponent.ofPiece? = [] := by
  rcases dropTrailing_cases pieces with ⟨none, same⟩ | ⟨opening, last, component, kept, read, same⟩
  · simp [none, same]
  · simp [kept, same]

/-- With the last component go its piece and those behind it. -/
private theorem filterMap_dropLast (pieces : List (List Char)) :
    (dropTrailing (dropTrailing pieces).dropLast).filterMap PathComponent.ofPiece? =
      (pieces.filterMap PathComponent.ofPiece?).dropLast := by
  rw [filterMap_dropTrailing]
  rcases dropTrailing_cases pieces with ⟨none, same⟩ | ⟨opening, last, component, kept, read, same⟩
  · rw [none, same]
    rfl
  · rw [kept, same, List.dropLast_concat, List.dropLast_concat]

private theorem ofText_glue {pieces : List (List Char)} (free : ∀ piece ∈ pieces, '/' ∉ piece) :
    Route.ofText (Text.glue '/' pieces) = pieces.filterMap PathComponent.ofPiece? := by
  cases pieces with
  | nil => rfl
  | cons piece rest => rw [Route.ofText, Text.split_glue (by simp) free]

/-! ## How paths open -/

/-- A path that opens with the current directory. -/
def Dotted (path : Path) : Prop := path.components.head? = some .here

instance (path : Path) : Decidable path.Dotted := inferInstanceAs (Decidable (_ = _))

/-- A path that leads up somewhere or starts at the root. -/
def Escapes (path : Path) : Prop := .up ∈ path.components ∨ .root ∈ path.components

instance (path : Path) : Decidable path.Escapes := inferInstanceAs (Decidable (_ ∨ _))

theorem isAbsolute_iff_root {path : Path} : path.isAbsolute = true ↔ path.components.head? = some .root := by
  constructor
  · intro rooted
    obtain ⟨rest, text⟩ := isAbsolute_iff.mp rooted
    rw [components_of_absolute text]
    rfl
  · intro first
    -- Only an empty piece in front, that is a slash, opens with the root.
    have plain : ∀ pieces : List (List Char), (pieces.filterMap PathComponent.ofPiece?).head? ≠ some .root := by
      intro pieces first
      obtain ⟨piece, _, read⟩ := List.mem_filterMap.mp (List.mem_of_head? first)
      rcases Route.up_or_name_of_ofPiece? read with impossible | ⟨_, impossible⟩ <;> cases impossible
    have joined := Text.glue_split '/' path.text.toList
    unfold components at first
    split at first
    · cases first
    · cases first
    · cases first
    · rename_i pieces some cut
      rw [cut] at joined
      cases pieces with
      | nil => exact absurd rfl some
      | cons next pieces => exact isAbsolute_iff.mpr ⟨_, joined.symm⟩
    · exact absurd first (plain _)

theorem isAbsolute_of_append {base path : Path} {rest : Route} (rooted : base.isAbsolute = true)
    (components : path.components = base.components ++ rest) : path.isAbsolute = true := by
  rw [isAbsolute_iff_root] at rooted ⊢
  rw [components, List.head?_append, rooted, Option.some_or]

/-- A path whose first piece is a component has the components of its pieces. -/
private theorem components_of_first {path : Path} {first : List Char} {pieces : List (List Char)}
    {component : PathComponent} (cut : Text.split '/' path.text.toList = first :: pieces)
    (read : PathComponent.ofPiece? first = some component) :
    path.components = component :: pieces.filterMap PathComponent.ofPiece? := by
  unfold components
  rw [cut]
  split <;> simp_all [PathComponent.ofPiece?]

/-- Only the empty piece and the current directory stand for no component. -/
theorem ofPiece?_eq_none {piece : List Char} :
    PathComponent.ofPiece? piece = none ↔ piece = [] ∨ piece = ['.'] := by
  unfold PathComponent.ofPiece?
  split <;> simp_all

/-! ## Paths that go on -/

/-- A path that goes on after a slash has the components up to it and those of the rest. -/
theorem components_of_slash {base path : Path} {rest : List Char} (some : base.text.toList ≠ [])
    (text : path.text.toList = base.text.toList ++ '/' :: rest) :
    path.components = base.components ++ Route.ofText rest := by
  obtain ⟨first, pieces, cut⟩ := List.exists_cons_of_ne_nil (Text.split_ne_nil '/' base.text.toList)
  have whole : Text.split '/' path.text.toList = first :: (pieces ++ Text.split '/' rest) := by
    rw [text, Text.split_append_separator, cut, List.cons_append]
  cases read : PathComponent.ofPiece? first with
  | some component =>
    rw [components_of_first whole read, components_of_first cut read, List.filterMap_append, Route.ofText,
      List.cons_append]
  | none =>
    rcases ofPiece?_eq_none.mp read with rfl | rfl
    · -- Only the empty text is nothing but an empty piece.
      have onward : pieces ≠ [] := by
        rintro rfl
        exact some ((Text.glue_split '/' base.text.toList).symm.trans (congrArg (Text.glue '/') cut))
      simp [components, cut, whole, onward, Route.ofText]
    · simp [components, cut, whole, Route.ofText]

/-- A path below another one goes on from it, but for a current directory that it opens with. -/
theorem components_join {base path : Path} (below : path.isAbsolute = false) (some : base.text.toList ≠ []) :
    (base.join path).components = base.components ++ Route.ofText path.text.toList := by
  -- A base that ends with a slash takes the path as it stands, any other one gets a slash in between.
  by_cases ended : base.text.toList.getLast? = Option.some '/'
  · obtain ⟨opening, text⟩ := List.getLast?_eq_some_iff.mp ended
    have joined : (base.join path).text.toList = opening ++ '/' :: path.text.toList := by
      simp [join, below, text]
    by_cases root : opening = []
    · subst root
      rw [components_of_absolute joined, components_of_absolute text, Route.ofText_nil]
      rfl
    · have cut : ∀ {path : Path} {rest : List Char}, path.text.toList = opening ++ '/' :: rest →
          path.components = components ⟨String.ofList opening⟩ ++ Route.ofText rest := fun text =>
        components_of_slash (by simpa using root) (by simpa using text)
      rw [cut joined, cut text, Route.ofText_nil, List.append_nil]
  · have joined : (base.join path).text.toList = base.text.toList ++ '/' :: path.text.toList := by
      simp_all [join]
    exact components_of_slash some joined

theorem join_of_empty {base path : Path} (empty : base.text.toList = []) : base.join path = path := by
  unfold join
  split
  · rfl
  · simp_all

/-- Names between slashes have the components of the names. -/
theorem components_intercalate {names : List String} (plain : ∀ name ∈ names, PlainName name) :
    components ⟨"/".intercalate names⟩ = names.map .name := by
  cases names with
  | nil => rfl
  | cons name rest =>
    have first := plain name List.mem_cons_self
    have alone : components ⟨name⟩ = [.name name] :=
      components_of_first (Text.split_of_not_mem first.1) first.2
    cases rest with
    | nil => simpa using alone
    | cons next rest =>
      have some : name.toList ≠ [] := fun empty => by simpa [empty, PathComponent.ofPiece?] using first.2
      have text : ("/".intercalate (name :: next :: rest)).toList =
          name.toList ++ '/' :: ("/".intercalate (next :: rest)).toList := by
        simp [String.intercalate_cons_cons]
      have whole : components ⟨"/".intercalate (name :: next :: rest)⟩ = _ := components_of_slash some text
      rw [whole, alone, Route.ofText_names fun other member => plain other (List.mem_cons_of_mem _ member)]
      rfl

theorem isAbsolute_intercalate {names : List String} (plain : ∀ name ∈ names, PlainName name) :
    isAbsolute ⟨"/".intercalate names⟩ = false := by
  rw [← Bool.not_eq_true, isAbsolute_iff_root, components_intercalate plain]
  cases names <;> simp

/-- A relative path has the components of its text, perhaps after a current directory that it opens with. -/
theorem components_of_relative {path : Path} (below : path.isAbsolute = false) :
    path.components = Route.ofText path.text.toList ∨ path.components = .here :: Route.ofText path.text.toList := by
  have unrooted : path.components.head? ≠ some .root := mt isAbsolute_iff_root.mpr (by simp [below])
  revert unrooted
  unfold components Route.ofText
  split <;> simp_all [PathComponent.ofPiece?]

/-- An absolute path has the root in front only. -/
theorem components_of_rooted {path : Path} (rooted : path.isAbsolute = true) :
    ∃ rest, path.components = .root :: Route.ofText rest :=
  (isAbsolute_iff.mp rooted).imp fun _ => components_of_absolute

theorem root_not_mem_components {path : Path} (below : path.isAbsolute = false) : .root ∉ path.components := by
  rcases components_of_relative below with same | same
  · rw [same]
    exact Route.root_not_mem_ofText _
  · rw [same, List.mem_cons, not_or]
    exact ⟨nofun, Route.root_not_mem_ofText _⟩

/-- A relative path is followed alike from wherever it is taken. -/
theorem normalize_join {base path : Path} (below : path.isAbsolute = false) :
    (base.join path).components.normalize = (base.components ++ path.components).normalize := by
  by_cases empty : base.text.toList = []
  · have nothing : base.components = [] := by simp [components, empty, Text.split]
    rw [join_of_empty empty, nothing, List.nil_append]
  · rw [components_join below empty]
    rcases components_of_relative below with same | same
    · rw [same]
    · rw [same, Route.normalize, Route.normalize, List.foldl_append, List.foldl_append, List.foldl_cons]
      rfl

/-- A path that goes on by names has the components of both. -/
theorem components_join_names (base : Path) {names : List String} (plain : ∀ name ∈ names, PlainName name) :
    (base.join ⟨"/".intercalate names⟩).components = base.components ++ names.map .name := by
  by_cases empty : base.text.toList = []
  · have nothing : base.components = [] := by simp [components, empty, Text.split]
    rw [join_of_empty empty, nothing, List.nil_append, components_intercalate plain]
  · rw [components_join (isAbsolute_intercalate plain) empty, Route.ofText_names plain]

/-! ## Parents and what is below -/

private theorem dropTrailing_begins (pieces : List (List Char)) : dropTrailing pieces <+: pieces := by
  rw [dropTrailing, ← List.reverse_suffix, List.reverse_reverse]
  exact List.dropWhile_suffix _

private theorem dropLast_begins (pieces : List (List Char)) :
    dropTrailing (dropTrailing pieces).dropLast <+: pieces :=
  (dropTrailing_begins _).trans ((List.dropLast_prefix _).trans (dropTrailing_begins pieces))

/-- The parent of a path has all of its components but the last. -/
theorem components_parent? {path parent : Path} (climbed : path.parent? = some parent) :
    parent.components = path.components.dropLast := by
  have free : ∀ {pieces}, (∀ piece ∈ pieces, piece ∈ Text.split '/' path.text.toList) →
      ∀ piece ∈ dropTrailing (dropTrailing pieces).dropLast, '/' ∉ piece := fun among piece member =>
    Text.not_mem_of_mem_split (among piece ((dropLast_begins _).subset member))
  -- The path opens with the current directory, with the root, or with a component among its pieces.
  unfold parent? at climbed
  split at climbed
  · cases climbed
  · rename_i pieces cut
    have within := free fun piece member => cut ▸ List.mem_cons_of_mem ['.'] member
    have opens : path.components = .here :: pieces.filterMap PathComponent.ofPiece? := by simp [components, cut]
    rw [opens]
    split at climbed
    · rename_i nothing
      cases climbed
      rw [← filterMap_dropTrailing, List.isEmpty_iff.mp nothing]
      rfl
    · rename_i some
      rw [List.dropLast_cons_of_ne_nil (mt dropTrailing_eq_nil.mpr (by simpa using some)), ← filterMap_dropLast,
        ← ofText_glue within, ← Option.some.inj climbed]
      dsimp only
      generalize dropTrailing (dropTrailing pieces).dropLast = kept
      cases kept with
      | nil => rfl
      | cons piece rest =>
        have here : components ⟨"."⟩ = [.here] := by decide
        exact (components_of_slash (by decide) (by simp)).trans (congrArg (· ++ _) here)
  · rename_i pieces cut
    have within := free fun piece member => cut ▸ List.mem_cons_of_mem [] member
    split at climbed
    · cases climbed
    · rename_i some
      have onward := mt dropTrailing_eq_nil.mpr (by simpa using some)
      have opens : path.components = .root :: pieces.filterMap PathComponent.ofPiece? := by
        cases pieces with
        | nil => exact absurd rfl onward
        | cons piece rest => simp [components, cut]
      rw [opens, List.dropLast_cons_of_ne_nil onward, ← filterMap_dropLast, ← ofText_glue within,
        ← Option.some.inj climbed]
      exact components_of_absolute (by simp)
  · rename_i dotted slash
    have within := free fun piece member => member
    obtain ⟨first, pieces, cut⟩ := List.exists_cons_of_ne_nil (Text.split_ne_nil '/' path.text.toList)
    cases read : PathComponent.ofPiece? first with
    | none =>
      rcases ofPiece?_eq_none.mp read with rfl | rfl
      · exact (slash _ cut).elim
      · exact (dotted _ cut).elim
    | some component =>
      have opens : path.components = (Text.split '/' path.text.toList).filterMap PathComponent.ofPiece? := by
        rw [components_of_first cut read, cut, List.filterMap_cons_some read]
      rw [opens, ← filterMap_dropLast, ← Option.some.inj climbed]
      dsimp only
      cases kept : dropTrailing (dropTrailing (Text.split '/' path.text.toList)).dropLast with
      | nil => rfl
      | cons piece rest =>
        have begins := dropLast_begins (Text.split '/' path.text.toList)
        rw [kept, cut, List.cons_prefix_cons] at begins
        obtain ⟨rfl, _⟩ := begins
        rw [kept] at within
        rw [components_of_first (by simpa using Text.split_glue (by simp) within) read, List.filterMap_cons_some read]

/-- The parent of a path that goes on by names goes on by all of these names but the last. -/
theorem components_parent_append_names {base path parent : Path} {names : List String} (onward : names ≠ [])
    (components : path.components = base.components ++ names.map .name) (climbed : path.parent? = some parent) :
    parent.components = base.components ++ names.dropLast.map .name := by
  rw [components_parent? climbed, components, List.dropLast_append_of_ne_nil (by simpa using onward), List.map_dropLast]

/-- Pieces put together without those at both ends that stand for nothing have all their components. -/
private theorem components_of_kept {pieces : List (List Char)} (free : ∀ piece ∈ pieces, '/' ∉ piece) :
    components ⟨String.ofList (Text.glue '/' (dropTrailing (pieces.dropWhile fun piece =>
        (PathComponent.ofPiece? piece).isNone)))⟩ = pieces.filterMap PathComponent.ofPiece? := by
  induction pieces with
  | nil => rfl
  | cons piece rest ih =>
    cases read : PathComponent.ofPiece? piece with
    | none => simpa [read] using ih fun other member => free other (List.mem_cons_of_mem _ member)
    | some component =>
      rw [List.dropWhile_cons_of_neg (by simp [read]), ← filterMap_dropTrailing,
        ← ofText_glue fun other member => free other (mem_of_mem_dropTrailing member)]
      have some : dropTrailing (piece :: rest) ≠ [] := by
        rcases dropTrailing_cases (piece :: rest) with ⟨_, impossible⟩ | ⟨_, _, _, kept, _⟩
        · simp [read] at impossible
        · simp [kept]
      obtain ⟨others, kept, _⟩ := (List.prefix_cons_iff.mp (dropTrailing_begins (piece :: rest))).resolve_left some
      have cut := Text.split_glue some fun piece member => free piece (mem_of_mem_dropTrailing member)
      rw [kept] at cut ⊢
      rw [components_of_first (by rwa [String.toList_ofList]) read, Route.ofText, cut, List.filterMap_cons_some read]

/-- A path is cut below a name exactly if it opens with this name. -/
theorem below?_cases (path : Path) (name : String) :
    (∃ rest, path.below? name = some rest ∧ path.components = .name name :: rest.components) ∨
      (path.below? name = none ∧ path.components.head? ≠ some (.name name)) := by
  obtain ⟨first, pieces, cut⟩ := List.exists_cons_of_ne_nil (Text.split_ne_nil '/' path.text.toList)
  unfold below?
  rw [cut]
  dsimp only
  by_cases named : PathComponent.ofPiece? first = some (.name name)
  · rw [if_pos named]
    refine .inl ⟨_, rfl, ?_⟩
    rw [components_of_first cut named, components_of_kept fun piece member =>
      Text.not_mem_of_mem_split (cut ▸ List.mem_cons_of_mem _ member)]
  · rw [if_neg named]
    refine .inr ⟨rfl, ?_⟩
    cases read : PathComponent.ofPiece? first with
    | some component =>
      rw [components_of_first cut read, List.head?_cons, ← read]
      exact named
    | none =>
      unfold components
      rcases ofPiece?_eq_none.mp read with rfl | rfl
      · cases pieces <;> simp [cut]
      · simp [cut]

end Path

end Scaffold
