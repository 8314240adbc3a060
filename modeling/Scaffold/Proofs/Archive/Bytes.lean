import Scaffold.Archive.Bytes
import Scaffold.Archive.Entry

/-! # Binary files as lists of bytes

The bytes of a file and of its slices are those of its list of bytes, and entries of archives can be compared by the
bytes that they hold.
-/

namespace Scaffold.Archive

private theorem toListLoop_eq (data : ByteArray) (position : Nat) (read : List UInt8) :
    ByteArray.toList.loop data position read = read.reverse ++ data.data.toList.drop position := by
  fun_induction ByteArray.toList.loop data position read with
  | case1 position read inside ih =>
    have inside : position < data.data.toList.length := inside
    have byte : data.get! position = data.data.toList[position] := getElem!_pos data.data position inside
    rw [ih, List.drop_eq_getElem_cons inside, List.reverse_cons, List.append_assoc, List.singleton_append, byte]
  | case2 position read outside =>
    have outside : data.data.toList.length ≤ position := Nat.le_of_not_lt outside
    rw [List.drop_eq_nil_of_le outside, List.append_nil]

theorem toList_eq (data : ByteArray) : data.toList = data.data.toList := by
  rw [ByteArray.toList, toListLoop_eq, List.reverse_nil, List.nil_append, List.drop_zero]

theorem slice_eq (data : ByteArray) (position length : Nat) :
    slice data position length = ⟨((data.data.toList.drop position).take length).toArray⟩ := by
  rw [slice, ByteArray.ext_iff, ByteArray.data_extract, ← Array.toList_inj, Array.toList_extract]
  simp [List.extract]

theorem Entry.ext_iff_data {left right : Entry} :
    left = right ↔ left.path = right.path ∧ left.isDirectory = right.isDirectory ∧ left.mode? = right.mode? ∧
      left.contents?.map ByteArray.data = right.contents?.map ByteArray.data := by
  cases left
  cases right
  have injective : Function.Injective ByteArray.data := fun _ _ => ByteArray.ext
  simp [(Option.map_injective injective).eq_iff]

instance decidableEqEntry : DecidableEq Entry := fun _ _ => decidable_of_iff _ Entry.ext_iff_data.symm

end Scaffold.Archive
