import Scaffold.Proofs.Name

/-! # Texts that turn into names

A text turns into a name exactly if a letter is left when it is lower-cased. What it turns into is a part of the dashed
text that opens with a letter, does not end with a dash and is not too long, so that it is always accepted; and as no two
dashes follow each other in it, it turns into itself. The name that is suggested is therefore that of the first
candidate with a letter, then that of the directory, then the fallback.
-/

namespace Scaffold

namespace Text

variable {drop : Char → Bool} {text rest : List Char} {c : Char}

/-! ## Ends of texts -/

theorem trimEnd_begins (drop : Char → Bool) (text : List Char) : trimEnd drop text <+: text := by
  rw [trimEnd, ← List.reverse_suffix, List.reverse_reverse]
  exact List.dropWhile_suffix _

theorem trimEnd_cons_of_kept (kept : drop c = false) : trimEnd drop (c :: rest) = c :: trimEnd drop rest := by
  rw [trimEnd, List.reverse_cons, List.dropWhile_append]
  split
  · rename_i nothing
    rw [trimEnd, List.isEmpty_iff.mp nothing, List.dropWhile_cons_of_neg (by simp [kept])]
    rfl
  · rw [List.reverse_append]
    rfl

theorem not_drop_getLast?_trimEnd (drop : Char → Bool) (text : List Char) :
    ∀ c ∈ (trimEnd drop text).getLast?, drop c = false := by
  intro c last
  rw [trimEnd, List.getLast?_reverse] at last
  have first := List.head?_dropWhile_not drop text.reverse
  rwa [last] at first

/-- A text whose ends are kept is not trimmed. -/
theorem dropWhile_of_head (kept : ∀ c ∈ text.head?, drop c = false) : text.dropWhile drop = text := by
  cases text with
  | nil => rfl
  | cons c rest => exact List.dropWhile_cons_of_neg (by simp [kept c rfl])

theorem trimEnd_of_last (kept : ∀ c ∈ text.getLast?, drop c = false) : trimEnd drop text = text := by
  rw [trimEnd, dropWhile_of_head (by simpa using kept), List.reverse_reverse]

theorem trim_of_unblank (kept : ∀ c ∈ text, isBlank c = false) : trim text = text := by
  have start : trimStart isBlank text = text := dropWhile_of_head fun c first => kept c (List.mem_of_head? first)
  rw [trim, start, trimEnd_of_last fun c last => kept c (List.mem_of_getLast? last)]

theorem mem_dropWhile_of_kept (drop : Char → Bool) (kept : drop c = false) (member : c ∈ text) :
    c ∈ text.dropWhile drop := by
  induction text with
  | nil => cases member
  | cons first rest ih =>
    cases dropped : drop first with
    | false => rwa [List.dropWhile_cons_of_neg (by simp [dropped])]
    | true =>
      rw [List.dropWhile_cons_of_pos dropped]
      rcases List.mem_cons.mp member with rfl | later
      · rw [kept] at dropped
        cases dropped
      · exact ih later

/-- Only white space is trimmed. -/
theorem mem_trim_of_unblank (kept : isBlank c = false) (member : c ∈ text) : c ∈ trim text := by
  rw [trim, trimEnd, List.mem_reverse]
  exact mem_dropWhile_of_kept _ kept (List.mem_reverse.mpr (mem_dropWhile_of_kept _ kept member))

theorem mem_of_mem_trim (member : c ∈ trim text) : c ∈ text :=
  List.dropWhile_subset isBlank ((trimEnd_begins _ _).subset member)

theorem CodePoints.exists_of_contains {ranges : CodePoints} (member : ranges.contains c = true) :
    ∃ range ∈ ranges, range.1 ≤ c.toNat ∧ c.toNat ≤ range.2 := by
  induction ranges with
  | nil => cases member
  | cons range rest ih =>
    rw [CodePoints.contains] at member
    split at member
    · exact ⟨range, List.mem_cons_self, by simpa using member, ‹_›⟩
    · obtain ⟨other, among, within⟩ := ih member
      exact ⟨other, List.mem_cons_of_mem _ among, within⟩

end Text

namespace Name

open Text (lowerChar isBlank)

variable {text : List Char} {c : Char} {raw name : String}

/-! ## Characters of names -/

theorem isLetter_iff : isLetter c = true ↔ 'a' ≤ c ∧ c ≤ 'z' := by
  simp [isLetter]

theorem isPlain_iff : isPlain c = true ↔ ('a' ≤ c ∧ c ≤ 'z') ∨ ('0' ≤ c ∧ c ≤ '9') := by
  simp [isPlain, isLetter]

/-- The characters that names are made of. -/
def Allowed (c : Char) : Prop := isPlain c = true ∨ c = '-'

theorem toNat_of_allowed (allowed : Allowed c) :
    c.toNat = 45 ∨ (48 ≤ c.toNat ∧ c.toNat ≤ 57) ∨ (97 ≤ c.toNat ∧ c.toNat ≤ 122) := by
  rcases allowed with plain | rfl
  · rcases isPlain_iff.mp plain with ⟨low, high⟩ | ⟨low, high⟩
    · exact .inr (.inr ⟨low, high⟩)
    · exact .inr (.inl ⟨low, high⟩)
  · exact .inl rfl

/-- Names are in lower case already. -/
theorem lowerChar_of_allowed (allowed : Allowed c) : lowerChar c = [c] := by
  have code := toNat_of_allowed allowed
  have small : ¬ (c.val ≥ 'A'.val ∧ c.val ≤ 'Z'.val) := by
    rintro ⟨low, high⟩
    have low : 65 ≤ c.toNat := low
    have high : c.toNat ≤ 90 := high
    omega
  have same : c.toLower = c := dif_neg small
  rw [lowerChar, if_pos (by omega), same]

theorem flatMap_lowerChar (allowed : ∀ c ∈ text, Allowed c) : text.flatMap lowerChar = text := by
  induction text with
  | nil => rfl
  | cons c rest ih =>
    obtain ⟨first, others⟩ := List.forall_mem_cons.mp allowed
    rw [List.flatMap_cons, lowerChar_of_allowed first, ih others]
    rfl

theorem unblank_of_allowed (allowed : Allowed c) : isBlank c = false := by
  have code := toNat_of_allowed allowed
  rw [← Bool.not_eq_true]
  intro blank
  have ranges : ∀ range ∈ Text.blanks, range.2 < 45 ∨ 122 < range.1 := by decide
  obtain ⟨range, among, low, high⟩ := Text.CodePoints.exists_of_contains blank
  have apart := ranges range among
  omega

/-- White space has no letter in its lower case. -/
theorem unblank_of_letter {letter : Char} (lowered : letter ∈ lowerChar c) (isLetter : isLetter letter = true) :
    isBlank c = false := by
  rw [← Bool.not_eq_true]
  intro blank
  have none : ∀ range ∈ Text.blanks, ∀ code ∈ List.range' range.1 (range.2 + 1 - range.1),
      (lowerChar (Char.ofNat code)).any Name.isLetter = false := by decide +kernel
  obtain ⟨range, among, low, high⟩ := Text.CodePoints.exists_of_contains blank
  have within : c.toNat ∈ List.range' range.1 (range.2 + 1 - range.1) := List.mem_range'_1.mpr (by omega)
  have unlettered := none range among c.toNat within
  rw [Char.ofNat_toNat, List.any_eq_false] at unlettered
  exact unlettered letter lowered isLetter

theorem utf8ByteSize_of_allowed (allowed : ∀ c ∈ text, Allowed c) : (String.ofList text).utf8ByteSize = text.length := by
  induction text with
  | nil => rfl
  | cons c rest ih =>
    obtain ⟨first, others⟩ := List.forall_mem_cons.mp allowed
    have code := toNat_of_allowed first
    have single : c.utf8Size = 1 := Char.utf8Size_eq_one_iff.mpr (show c.toNat ≤ 127 by omega)
    rw [String.ofList_cons, String.utf8ByteSize_append, String.utf8ByteSize_singleton, ih others, single,
      List.length_cons, Nat.add_comm]

/-! ## Dashes -/

theorem allowed_of_mem_dashed (member : c ∈ dashed text) : Allowed c := by
  induction text with
  | nil => cases member
  | cons first rest ih =>
    rw [dashed] at member
    split at member
    · rename_i plain
      rcases List.mem_cons.mp member with rfl | later
      · exact .inl plain
      · exact ih later
    · split at member
      · exact ih member
      · rcases List.mem_cons.mp member with rfl | later
        · exact .inr rfl
        · exact ih later

/-- Letters and digits are kept, and none is added. -/
theorem mem_dashed_iff (plain : isPlain c = true) : c ∈ dashed text ↔ c ∈ text := by
  induction text with
  | nil => rfl
  | cons first rest ih =>
    rw [dashed, List.mem_cons, ← ih]
    split
    · exact List.mem_cons
    · rename_i other
      have apart : c ≠ first := fun same => other (same ▸ plain)
      have noDash : c ≠ '-' := fun same => by
        subst same
        cases plain
      split
      · exact (or_iff_right apart).symm
      · rw [List.mem_cons, or_iff_right apart, or_iff_right noDash]

/-- Two dashes follow each other somewhere. -/
def Doubled (text : List Char) : Prop := ['-', '-'] <:+: text

instance (text : List Char) : Decidable (Doubled text) := inferInstanceAs (Decidable (_ <:+: _))

theorem doubled_cons_iff : Doubled (c :: text) ↔ (c = '-' ∧ text.head? = some '-') ∨ Doubled text := by
  have begins : ['-'] <+: text ↔ text.head? = some '-' := by
    cases text with
    | nil => simp
    | cons first rest => simp [List.cons_prefix_cons, @eq_comm _ '-']
  rw [Doubled, List.infix_cons_iff, List.cons_prefix_cons, begins, @eq_comm _ '-']
  rfl

theorem not_doubled_dashed (text : List Char) : ¬ Doubled (dashed text) := by
  induction text with
  | nil => decide
  | cons c rest ih =>
    rw [dashed]
    split
    · rename_i plain
      rw [doubled_cons_iff, not_or]
      refine ⟨fun ⟨same, _⟩ => ?_, ih⟩
      subst same
      cases plain
    · split
      · exact ih
      · rename_i single
        rw [doubled_cons_iff, not_or]
        exact ⟨fun ⟨_, next⟩ => single next, ih⟩

theorem dashed_eq_self (allowed : ∀ c ∈ text, Allowed c) (single : ¬ Doubled text) : dashed text = text := by
  induction text with
  | nil => rfl
  | cons c rest ih =>
    obtain ⟨first, others⟩ := List.forall_mem_cons.mp allowed
    rw [doubled_cons_iff, not_or] at single
    rw [dashed, ih others single.2]
    rcases first with plain | rfl
    · rw [if_pos plain]
    · rw [if_neg (by decide), if_neg fun next => single.1 ⟨rfl, next⟩]

/-! ## Cutting to size -/

/-- The part of a text that opens with its first letter, is no longer than a name and does not end with a dash. -/
def cut (text : List Char) : List Char :=
  Text.trimEnd (· = '-') ((text.dropWhile fun c => !isLetter c).take maxLength)

theorem sanitize?_eq (raw : String) : sanitize? raw =
    let name := String.ofList (cut (dashed ((Text.trim raw.toList).flatMap lowerChar)))
    if isValid name then some name else none := rfl

theorem cut_within (text : List Char) : cut text <:+: text :=
  ((Text.trimEnd_begins _ _).trans (List.take_prefix _ _)).isInfix.trans (List.dropWhile_suffix _).isInfix

theorem cut_of_unlettered (none : ∀ c ∈ text, isLetter c = false) : cut text = [] := by
  have dropped : (text ++ []).dropWhile (fun c => !isLetter c) = [] :=
    List.dropWhile_append_of_pos fun c member => congrArg (!·) (none c member)
  rw [List.append_nil] at dropped
  rw [cut, dropped]
  rfl

theorem length_cut_le (text : List Char) : (cut text).length ≤ maxLength :=
  Nat.le_trans (Text.trimEnd_begins _ _).length_le (List.length_take_le _ _)

/-- What is cut from a text of allowed characters with a letter has the form of a name. -/
theorem isLabel_cut (allowed : ∀ c ∈ text, Allowed c) (lettered : ∃ c ∈ text, isLetter c = true) :
    isLabel (cut text) = true := by
  have within : ∀ c ∈ cut text, Allowed c := fun c member => allowed c ((cut_within text).subset member)
  -- The text from its first letter on.
  obtain ⟨first, rest, onward, letter⟩ : ∃ first rest,
      text.dropWhile (fun c => !isLetter c) = first :: rest ∧ isLetter first = true := by
    obtain ⟨letter, member, isLetter⟩ := lettered
    have left := Text.mem_dropWhile_of_kept (fun c => !Name.isLetter c) (congrArg (!·) isLetter) member
    have opens := List.head?_dropWhile_not (fun c => !Name.isLetter c) text
    cases dropped : text.dropWhile (fun c => !Name.isLetter c) with
    | nil => simp [dropped] at left
    | cons first rest => exact ⟨first, rest, rfl, by simpa [dropped] using opens⟩
  have noDash : (first = '-' : Bool) = false := by
    rw [decide_eq_false_iff_not]
    rintro rfl
    cases letter
  have opens : cut text = first :: Text.trimEnd (· = '-') (rest.take (maxLength - 1)) := by
    rw [cut, onward, ← Text.trimEnd_cons_of_kept noDash]
    rfl
  obtain ⟨last, ends⟩ : ∃ last, (cut text).getLast? = some last := by
    rw [opens]
    exact ⟨_, List.getLast?_cons⟩
  have kept := Text.not_drop_getLast?_trimEnd _ _ last ends
  have plain : isPlain last = true :=
    (within last (List.mem_of_getLast? ends)).resolve_right (by simpa using kept)
  have each : (cut text).all (fun c => isPlain c || decide (c = '-')) = true := by
    simpa [Allowed] using within
  rw [isLabel, ends, each, opens]
  simp [letter, plain]

/-- A name of the right length is not cut. -/
theorem cut_of_isLabel (isLabel : isLabel text = true) (short : text.length ≤ maxLength) : cut text = text := by
  obtain ⟨⟨opens, ends⟩, _⟩ := by simpa only [Name.isLabel, Bool.and_eq_true] using isLabel
  have first : text.dropWhile (fun c => !isLetter c) = text :=
    Text.dropWhile_of_head fun c member => by simpa [Option.mem_def.mp member] using opens
  rw [cut, first, List.take_of_length_le short]
  refine Text.trimEnd_of_last fun c member => ?_
  have plain : isPlain c = true := by simpa [Option.mem_def.mp member] using ends
  rw [decide_eq_false_iff_not]
  rintro rfl
  cases plain

/-! ## Names -/

/-- A name: 1 to 63 bytes, all of them lower-case letters, digits and dashes, with a letter at the start and no dash at
the end. -/
structure IsName (name : String) : Prop where
  bytes : 1 ≤ name.utf8ByteSize ∧ name.utf8ByteSize ≤ 63
  opens : ∃ c ∈ name.toList.head?, 'a' ≤ c ∧ c ≤ 'z'
  ends : ∃ c ∈ name.toList.getLast?, ('a' ≤ c ∧ c ≤ 'z') ∨ ('0' ≤ c ∧ c ≤ '9')
  made : ∀ c ∈ name.toList, (('a' ≤ c ∧ c ≤ 'z') ∨ ('0' ≤ c ∧ c ≤ '9')) ∨ c = '-'

theorem isLabel_iff : isLabel text = true ↔
    (∃ c ∈ text.head?, isLetter c = true) ∧ (∃ c ∈ text.getLast?, isPlain c = true) ∧ ∀ c ∈ text, Allowed c := by
  simp [isLabel, Allowed, Option.any_eq_true, and_assoc]

theorem validate_eq_ok_iff :
    validate name = .ok () ↔ name.utf8ByteSize ≤ maxLength ∧ isLabel name.toList = true := by
  rw [validate]
  split
  · rename_i long
    simp [Nat.not_le_of_lt long]
  · rename_i short
    split <;> simp_all

theorem validate_eq_ok_iff_isName : validate name = .ok () ↔ IsName name := by
  rw [validate_eq_ok_iff, isLabel_iff]
  simp only [isLetter_iff, isPlain_iff, Allowed]
  constructor
  · rintro ⟨short, opens, ends, made⟩
    have some : name.utf8ByteSize ≠ 0 := by
      rw [Ne, String.utf8ByteSize_eq_zero_iff]
      rintro rfl
      obtain ⟨_, impossible, _⟩ := opens
      cases impossible
    exact ⟨⟨Nat.pos_of_ne_zero some, short⟩, opens, ends, made⟩
  · rintro ⟨bytes, opens, ends, made⟩
    exact ⟨bytes.2, opens, ends, made⟩

theorem allowed_of_validate (valid : validate name = .ok ()) : ∀ c ∈ name.toList, Allowed c :=
  (isLabel_iff.mp (validate_eq_ok_iff.mp valid).2).2.2

/-- A text in the form of a name that is no longer than a name is accepted. -/
theorem validate_of_isLabel (isLabel : isLabel text = true) (short : text.length ≤ maxLength) :
    validate (String.ofList text) = .ok () := by
  rw [validate_eq_ok_iff, utf8ByteSize_of_allowed (isLabel_iff.mp isLabel).2.2, String.toList_ofList]
  exact ⟨short, isLabel⟩

/-! ## Sanitising -/

/-- A text with a letter in its lower case, taken character by character. -/
def Lettered (raw : String) : Prop := ∃ c ∈ raw.toList.flatMap lowerChar, 'a' ≤ c ∧ c ≤ 'z'

instance (raw : String) : Decidable (Lettered raw) := inferInstanceAs (Decidable (∃ _ ∈ _, _))

/-- Neither trimming nor dashing takes a letter away. -/
theorem lettered_iff :
    Lettered raw ↔ ∃ c ∈ dashed ((Text.trim raw.toList).flatMap lowerChar), isLetter c = true := by
  have kept : ∀ letter, isLetter letter = true →
      (letter ∈ dashed ((Text.trim raw.toList).flatMap lowerChar) ↔ letter ∈ raw.toList.flatMap lowerChar) := by
    intro letter isLetter
    have plain : isPlain letter = true := by rw [isPlain, isLetter, Bool.true_or]
    rw [mem_dashed_iff plain, List.mem_flatMap, List.mem_flatMap]
    constructor
    · rintro ⟨c, member, lowered⟩
      exact ⟨c, Text.mem_of_mem_trim member, lowered⟩
    · rintro ⟨c, member, lowered⟩
      exact ⟨c, Text.mem_trim_of_unblank (unblank_of_letter lowered isLetter) member, lowered⟩
  simp only [Lettered, ← isLetter_iff]
  exact exists_congr fun letter => and_congr_left fun isLetter => (kept letter isLetter).symm

/-- What a text with a letter turns into. -/
theorem sanitize?_of_lettered (lettered : Lettered raw) :
    sanitize? raw = some (String.ofList (cut (dashed ((Text.trim raw.toList).flatMap lowerChar)))) := by
  rw [sanitize?_eq]
  refine if_pos (isValid_iff.mpr (validate_of_isLabel ?_ (length_cut_le _)))
  exact isLabel_cut (fun _ => allowed_of_mem_dashed) (lettered_iff.mp lettered)

theorem sanitize?_of_unlettered (unlettered : ¬ Lettered raw) : sanitize? raw = none := by
  have none : ∀ c ∈ dashed ((Text.trim raw.toList).flatMap lowerChar), isLetter c = false := by
    intro c member
    rw [← Bool.not_eq_true]
    exact fun isLetter => unlettered (lettered_iff.mpr ⟨c, member, isLetter⟩)
  rw [sanitize?_eq, cut_of_unlettered none]
  exact if_neg (by decide +kernel)

theorem sanitize?_isSome_iff : (∃ name, sanitize? raw = some name) ↔ Lettered raw := by
  refine ⟨fun ⟨name, made⟩ => ?_, fun lettered => ⟨_, sanitize?_of_lettered lettered⟩⟩
  by_cases lettered : Lettered raw
  · exact lettered
  · rw [sanitize?_of_unlettered lettered] at made
    cases made

theorem not_doubled_of_sanitize? (made : sanitize? raw = some name) : ¬ Doubled name.toList := by
  rw [sanitize?_of_lettered (sanitize?_isSome_iff.mp ⟨name, made⟩), Option.some_inj] at made
  rw [← made, String.toList_ofList]
  exact fun doubled => not_doubled_dashed _ (doubled.trans (cut_within _))

/-- A name in which no two dashes follow each other turns into itself. -/
theorem sanitize?_of_validate (valid : validate name = .ok ()) (single : ¬ Doubled name.toList) :
    sanitize? name = some name := by
  have allowed := allowed_of_validate valid
  obtain ⟨short, isLabel⟩ := validate_eq_ok_iff.mp valid
  have length := utf8ByteSize_of_allowed allowed
  rw [String.ofList_toList] at length
  have trimmed : Text.trim name.toList = name.toList :=
    Text.trim_of_unblank fun c member => unblank_of_allowed (allowed c member)
  have kept : cut (dashed ((Text.trim name.toList).flatMap lowerChar)) = name.toList := by
    rw [trimmed, flatMap_lowerChar allowed, dashed_eq_self allowed single, cut_of_isLabel isLabel (length ▸ short)]
  rw [sanitize?_eq, kept, String.ofList_toList]
  exact if_pos (isValid_iff.mpr valid)

/-- How a name comes to be suggested: from the first candidate with a letter, from the directory if no candidate has
one, and else it is the fallback. -/
inductive Suggests (candidates : List String) (directory : Path) : String → Prop
  | candidate (earlier later : List String) (candidate name : String) (cut : candidates = earlier ++ candidate :: later)
      (passed : ∀ other ∈ earlier, ¬ Lettered other) (lettered : Lettered candidate)
      (made : sanitize? candidate = some name) : Suggests candidates directory name
  | directory (basename name : String) (passed : ∀ other ∈ candidates, ¬ Lettered other)
      (named : directory.fileName? = some basename) (lettered : Lettered basename)
      (made : sanitize? basename = some name) : Suggests candidates directory name
  | fallback (passed : ∀ other ∈ candidates, ¬ Lettered other)
      (unnamed : ∀ basename, directory.fileName? = some basename → ¬ Lettered basename) :
      Suggests candidates directory "my-component"

theorem findSome?_sanitize? {texts : List String} (found : texts.findSome? sanitize? = some name) :
    ∃ earlier candidate later, texts = earlier ++ candidate :: later ∧ (∀ other ∈ earlier, ¬ Lettered other) ∧
      Lettered candidate ∧ sanitize? candidate = some name := by
  obtain ⟨earlier, candidate, later, cut, made, passed⟩ := List.findSome?_eq_some_iff.mp found
  refine ⟨earlier, candidate, later, cut, fun other member lettered => ?_, sanitize?_isSome_iff.mp ⟨name, made⟩, made⟩
  obtain ⟨_, made⟩ := sanitize?_isSome_iff.mpr lettered
  rw [passed other member] at made
  cases made

theorem suggests (candidates : List String) (directory : Path) :
    Suggests candidates directory (suggest candidates directory) := by
  rw [suggest, List.findSome?_append]
  cases found : candidates.findSome? sanitize? with
  | some name =>
    obtain ⟨earlier, candidate, later, cut, passed, lettered, made⟩ := findSome?_sanitize? found
    exact .candidate earlier later candidate name cut passed lettered made
  | none =>
    have passed : ∀ other ∈ candidates, ¬ Lettered other := by
      intro other member lettered
      obtain ⟨_, made⟩ := sanitize?_isSome_iff.mpr lettered
      rw [List.findSome?_eq_none_iff.mp found other member] at made
      cases made
    cases named : directory.fileName? with
    | none => exact .fallback passed (by simp [named])
    | some basename =>
      by_cases lettered : Lettered basename
      · obtain ⟨name, made⟩ := sanitize?_isSome_iff.mpr lettered
        have first : (some basename).toList.findSome? sanitize? = some name := by simp [made]
        rw [first]
        exact .directory basename name passed named lettered made
      · have nothing : (some basename).toList.findSome? sanitize? = none := by
          simp [sanitize?_of_unlettered lettered]
        rw [nothing]
        exact .fallback passed fun other same => Option.some.inj (named.symm.trans same) ▸ lettered

/-- A text turns into a name exactly if it has a letter when it is lower-cased; the name is one, has no two dashes in a
row and turns into itself; a name turns into itself exactly if it has no two dashes in a row. So whatever the candidates,
a name is suggested: that of the first candidate with a letter, else that of the directory, else the fallback. -/
theorem sanitize?_makes_names (raw : String) (candidates : List String) (directory : Path) :
    (validate raw = .ok () ↔ IsName raw) ∧ ((∃ name, sanitize? raw = some name) ↔ Lettered raw) ∧
      (∀ name, sanitize? raw = some name →
        validate name = .ok () ∧ IsName name ∧ ¬ Doubled name.toList ∧ sanitize? name = some name) ∧
      (validate raw = .ok () → (sanitize? raw = some raw ↔ ¬ Doubled raw.toList)) ∧
      validate (suggest candidates directory) = .ok () ∧
        Suggests candidates directory (suggest candidates directory) := by
  refine ⟨validate_eq_ok_iff_isName, sanitize?_isSome_iff, fun name made => ?_, fun valid => ?_,
    validate_suggest candidates directory, suggests candidates directory⟩
  · have valid := validate_of_sanitize? made
    have single := not_doubled_of_sanitize? made
    exact ⟨valid, validate_eq_ok_iff_isName.mp valid, single, sanitize?_of_validate valid single⟩
  · exact ⟨not_doubled_of_sanitize?, sanitize?_of_validate valid⟩

/-- Letters that are not ASCII give names as well: here a dotted capital I, and the sign of the kelvin. -/
theorem sanitize?_makes_names_istanbul :
    sanitize? "42 -- İstanbul_K!" = some "i-stanbul-k" ∧ validate "i-stanbul-k" = .ok () ∧ IsName "i-stanbul-k" ∧
      ¬ Doubled "i-stanbul-k".toList ∧ sanitize? "i-stanbul-k" = some "i-stanbul-k" := by
  have made : sanitize? "42 -- İstanbul_K!" = some "i-stanbul-k" := by decide +kernel
  exact ⟨made, (sanitize?_makes_names _ [] ⟨"/"⟩).2.2.1 _ made⟩

end Name

end Scaffold
