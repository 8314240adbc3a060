import Scaffold.Data.OrderedMap

/-! # Maps and the order of their keys

Inserting puts a binding where its key belongs, so the keys of a map that was built by inserting increase. Such a map is
the one that its bindings build again, and a binding that is removed again leaves no trace where there was none before.
-/

namespace Scaffold.OrderedMap

variable {κ α : Type} [DecidableEq κ] [LT κ] [DecidableLT κ] {map : OrderedMap κ α} {key : κ}

private theorem filter_place {entries : List (κ × α)} (value : α) (free : find? key entries = none) :
    (place key value entries).filter (fun entry => entry.1 ≠ key) = entries := by
  have filtered : ∀ {others : List (κ × α)}, find? key others = none →
      others.filter (fun entry => entry.1 ≠ key) = others := by
    intro others free
    induction others with
    | nil => rfl
    | cons entry rest ih =>
      by_cases same : entry.1 = key
      · simp [find?, same] at free
      · rw [find?, if_neg same] at free
        rw [List.filter_cons_of_pos (by simp [same]), ih free]
  induction entries with
  | nil => simp [place]
  | cons entry rest ih =>
    obtain ⟨other, bound⟩ := entry
    by_cases same : other = key
    · simp [find?, same] at free
    · have below := filtered free
      rw [find?, if_neg same] at free
      by_cases less : key < other
      · simpa [place, same, less] using below
      · simpa [place, same, less] using ih free

/-- A binding that is removed again leaves no trace where there was none before. -/
theorem erase_insert (value : α) (free : map.get? key = none) : (map.insert key value).erase key = map := by
  rw [erase, insert, filter_place value free]

theorem insertNew_of_bound (value : α) (bound : map.get? key ≠ none) : map.insertNew key value = map := by
  simp [insertNew, contains, Option.isSome_iff_ne_none.mpr bound]

theorem get?_insertNew (value : α) (other : κ) :
    (map.insertNew key value).get? other =
      if key = other then some ((map.get? key).getD value) else map.get? other := by
  cases bound : map.get? key with
  | none =>
    rw [insertNew, contains, bound]
    exact get?_insert map key value other
  | some found =>
    rw [insertNew_of_bound value (by simp [bound])]
    split <;> simp_all

/-- Keys that are bound to one value, unless they are bound already. -/
theorem get?_foldl_insertNew (keys : List κ) (map : OrderedMap κ α) (value : α) (other : κ) :
    (keys.foldl (fun map key => map.insertNew key value) map).get? other =
      if other ∈ keys then some ((map.get? other).getD value) else map.get? other := by
  induction keys generalizing map with
  | nil => simp
  | cons first rest ih =>
    rw [List.foldl_cons, ih, get?_insertNew]
    by_cases same : first = other
    · subst same
      simp
    · simp [same, Ne.symm same]

omit [LT κ] [DecidableLT κ] in
theorem mem_of_get? {value : α} (bound : map.get? key = some value) : (key, value) ∈ map.entries := by
  unfold get? at bound
  generalize map.entries = entries at bound ⊢
  induction entries with
  | nil => cases bound
  | cons entry rest ih =>
    rw [find?] at bound
    split at bound
    · rename_i same
      rw [← same, ← Option.some.inj bound]
      exact List.mem_cons_self
    · exact List.mem_cons_of_mem _ (ih bound)

omit [LT κ] [DecidableLT κ] in
theorem mem_keys_iff : key ∈ map.keys ↔ map.get? key ≠ none := by
  rw [keys, get?]
  induction map.entries with
  | nil => simp [find?]
  | cons entry rest ih =>
    by_cases same : entry.1 = key
    · simp [find?, same]
    · simp only [List.map_cons, List.mem_cons, find?, if_neg same, ih, Ne.symm same, false_or]

theorem mem_keys_insert {value : α} {other : κ} : other ∈ (map.insert key value).keys ↔ other = key ∨ other ∈ map.keys := by
  rw [mem_keys_iff, mem_keys_iff, get?_insert]
  by_cases same : key = other
  · simp [same]
  · simp [same, Ne.symm same]

omit [LT κ] [DecidableLT κ] in
theorem find?_eq_lookup (entries : List (κ × α)) : find? key entries = entries.lookup key := by
  induction entries with
  | nil => rfl
  | cons entry rest ih =>
    rw [find?, List.lookup_cons, ih]
    by_cases same : entry.1 = key
    · simp [same]
    · simp [same, beq_eq_false_iff_ne.mpr (Ne.symm same)]

/-- Of the bindings that build a map, the last one of each key stays. -/
theorem lookup_ofList (bindings : List (κ × α)) (key : κ) :
    (ofList bindings).entries.lookup key = bindings.reverse.lookup key := by
  have onward : ∀ map : OrderedMap κ α,
      (bindings.foldl (fun map entry => map.insert entry.1 entry.2) map).get? key =
        (bindings.reverse.lookup key).or (map.get? key) := by
    induction bindings with
    | nil => exact fun _ => rfl
    | cons entry rest ih =>
      intro map
      rw [List.foldl_cons, ih, get?_insert, List.reverse_cons, List.lookup_append, Option.or_assoc]
      congr 1
      by_cases same : entry.1 = key
      · rw [if_pos same, List.lookup_cons, beq_iff_eq.mpr same.symm, Option.some_or]
      · rw [if_neg same, List.lookup_cons, beq_eq_false_iff_ne.mpr (Ne.symm same), List.lookup_nil, Option.none_or]
  rw [← find?_eq_lookup]
  exact (onward empty).trans (Option.or_none ..)

/-! ## Increasing keys -/

/-- The keys of some bindings increase. -/
def Increasing (entries : List (κ × α)) : Prop := entries.Pairwise fun left right => left.1 < right.1

theorem mem_of_mem_place {entries : List (κ × α)} {value : α} {entry : κ × α} (member : entry ∈ place key value entries) :
    entry = (key, value) ∨ entry ∈ entries := by
  induction entries with
  | nil => exact .inl (List.mem_singleton.mp member)
  | cons first rest ih =>
    rw [place] at member
    split at member
    · rcases List.mem_cons.mp member with rfl | below
      · exact .inl rfl
      · exact .inr (List.mem_cons_of_mem _ below)
    · split at member
      · exact (List.mem_cons.mp member)
      · rcases List.mem_cons.mp member with rfl | below
        · exact .inr List.mem_cons_self
        · exact (ih below).imp_right (List.mem_cons_of_mem _)

theorem mem_of_mem_foldl_insertNew {keys : List κ} {value : α} {entry : κ × α}
    (member : entry ∈ (keys.foldl (fun map key => map.insertNew key value) map).entries) :
    (entry.1 ∈ keys ∧ entry.2 = value) ∨ entry ∈ map.entries := by
  induction keys generalizing map with
  | nil => exact .inr member
  | cons first rest ih =>
    rcases ih member with ⟨among, same⟩ | inserted
    · exact .inl ⟨List.mem_cons_of_mem _ among, same⟩
    · dsimp only [insertNew] at inserted
      split at inserted
      · exact .inr inserted
      · rcases mem_of_mem_place inserted with rfl | below
        · exact .inl ⟨List.mem_cons_self, rfl⟩
        · exact .inr below

variable [LE κ] [Std.LawfulOrderLT κ]

theorem place_last {entries : List (κ × α)} (value : α) (last : ∀ entry ∈ entries, entry.1 < key) :
    place key value entries = entries ++ [(key, value)] := by
  induction entries with
  | nil => rfl
  | cons first rest ih =>
    have less := last first List.mem_cons_self
    rw [place, if_neg (Std.ne_of_lt less), if_neg (Std.not_gt_of_lt less),
      ih fun entry member => last entry (List.mem_cons_of_mem _ member)]
    rfl

omit [DecidableLT κ] in
/-- Where the keys increase, each is bound once. -/
theorem get?_eq_some_iff {value : α} (increasing : Increasing map.entries) :
    map.get? key = some value ↔ (key, value) ∈ map.entries := by
  refine ⟨mem_of_get?, fun member => ?_⟩
  unfold get?
  generalize map.entries = entries at increasing member
  induction entries with
  | nil => cases member
  | cons entry rest ih =>
    obtain ⟨above, below⟩ := List.pairwise_cons.mp increasing
    rcases List.mem_cons.mp member with rfl | later
    · exact if_pos rfl
    · rw [find?, if_neg (Std.ne_of_lt (above _ later))]
      exact ih below later

omit [DecidableEq κ] [DecidableLT κ] in
/-- Bindings with increasing keys are told by what they are. -/
theorem Increasing.eq_of_mem_iff {left right : List (κ × α)} (first : Increasing left) (second : Increasing right)
    (alike : ∀ entry, entry ∈ left ↔ entry ∈ right) : left = right := by
  have nodup : ∀ {entries : List (κ × α)}, Increasing entries → entries.Nodup := fun increasing =>
    increasing.imp fun less same => Std.ne_of_lt less (congrArg Prod.fst same)
  refine List.Perm.eq_of_pairwise ?_ first second ((List.perm_ext_iff_of_nodup (nodup first) (nodup second)).mpr alike)
  exact fun _ _ _ _ less greater => absurd greater (Std.not_gt_of_lt less)

/-- A map whose keys increase is the one that its bindings build. -/
theorem ofList_entries (increasing : Increasing map.entries) : ofList map.entries = map := by
  have onward : ∀ (bindings : List (κ × α)) (map : OrderedMap κ α), Increasing (map.entries ++ bindings) →
      bindings.foldl (fun map entry => map.insert entry.1 entry.2) map = ⟨map.entries ++ bindings⟩ := by
    intro bindings
    induction bindings with
    | nil =>
      intro map _
      rw [List.append_nil, List.foldl_nil]
    | cons entry rest ih =>
      intro map increasing
      have last : ∀ earlier ∈ map.entries, earlier.1 < entry.1 := fun earlier member =>
        (List.pairwise_append.mp increasing).2.2 earlier member entry List.mem_cons_self
      have inserted : (map.insert entry.1 entry.2).entries = map.entries ++ [entry] := place_last entry.2 last
      rw [List.foldl_cons, ih, inserted, List.append_assoc]
      · rfl
      · rw [inserted, List.append_assoc]
        exact increasing
  exact onward map.entries empty increasing

variable [Std.IsLinearOrder κ]

theorem increasing_place {entries : List (κ × α)} (value : α) (increasing : Increasing entries) :
    Increasing (place key value entries) := by
  induction entries with
  | nil => exact List.pairwise_singleton _ _
  | cons first rest ih =>
    obtain ⟨above, below⟩ := List.pairwise_cons.mp increasing
    rw [place]
    split
    · rename_i same
      exact List.pairwise_cons.mpr ⟨fun entry member => same ▸ above entry member, below⟩
    · rename_i different
      split
      · rename_i less
        refine List.pairwise_cons.mpr ⟨fun entry member => ?_, increasing⟩
        rcases List.mem_cons.mp member with rfl | later
        · exact less
        · exact Std.lt_trans less (above entry later)
      · rename_i notLess
        refine List.pairwise_cons.mpr ⟨fun entry member => ?_, ih below⟩
        rcases mem_of_mem_place member with rfl | later
        · exact Std.lt_of_le_of_ne (Std.not_lt.mp notLess) different
        · exact above entry later

theorem increasing_foldl_insertNew {keys : List κ} (value : α) (increasing : Increasing map.entries) :
    Increasing (keys.foldl (fun map key => map.insertNew key value) map).entries := by
  induction keys generalizing map with
  | nil => exact increasing
  | cons first rest ih =>
    refine ih ?_
    dsimp only [insertNew]
    split
    · exact increasing
    · exact increasing_place value increasing

theorem increasing_ofList (bindings : List (κ × α)) : Increasing (ofList bindings).entries := by
  have onward : ∀ map : OrderedMap κ α, Increasing map.entries →
      Increasing (bindings.foldl (fun map entry => map.insert entry.1 entry.2) map).entries := by
    induction bindings with
    | nil => exact fun _ increasing => increasing
    | cons entry rest ih => exact fun map increasing => ih _ (increasing_place entry.2 increasing)
  exact onward empty List.Pairwise.nil

end Scaffold.OrderedMap
