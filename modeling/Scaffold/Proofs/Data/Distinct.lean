/-! # Distinct names

Names are told to be distinct by going through them with those already seen. Where the names of some items are distinct,
the item that is found under a name is the only one of that name.
-/

namespace Scaffold

/-- Names are distinct and new exactly if the first of them is new and the others are distinct and new after it too. -/
theorem nodup_and_new_cons {name : String} {rest seen : List String} :
    ((name :: rest).Nodup ∧ ∀ other ∈ name :: rest, other ∉ seen) ↔
      name ∉ seen ∧ rest.Nodup ∧ ∀ other ∈ rest, other ∉ name :: seen := by
  rw [List.nodup_cons, List.forall_mem_cons]
  constructor
  · rintro ⟨⟨alone, nodup⟩, fresh, others⟩
    refine ⟨fresh, nodup, fun other member => ?_⟩
    rw [List.mem_cons, not_or]
    exact ⟨fun same => alone (same ▸ member), others other member⟩
  · rintro ⟨fresh, nodup, others⟩
    have alone : name ∉ rest := fun member => others name member List.mem_cons_self
    exact ⟨⟨alone, nodup⟩, fresh, fun other member seen => others other member (List.mem_cons_of_mem _ seen)⟩

/-- Where the names of some items are distinct, the one that is found under a name is the only one. -/
theorem filter_name_of_nodup {α : Type} {name : α → String} {items : List α} (nodup : (items.map name).Nodup)
    (wanted : String) :
    items.filter (fun item => name item = wanted) = (items.find? fun item => name item = wanted).toList := by
  induction items with
  | nil => rfl
  | cons item rest ih =>
    obtain ⟨new, nodup⟩ := List.nodup_cons.mp nodup
    by_cases same : name item = wanted
    · have others : rest.filter (fun item => name item = wanted) = [] := by
        refine List.filter_eq_nil_iff.mpr fun other member named => new ?_
        rw [same, ← of_decide_eq_true named]
        exact List.mem_map_of_mem member
      simp [same, others]
    · simpa [same] using ih nodup

end Scaffold
