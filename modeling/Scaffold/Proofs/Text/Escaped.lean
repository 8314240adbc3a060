import Mathlib.Logic.Function.Basic
import Scaffold.Text.Escaped

/-! # No byte is lost

The text that keeps some bytes gives them back, whether they are well-formed or not. So no two byte strings are kept as
the same text.
-/

namespace Scaffold.Text

theorem bytesIn_cons {c : Char} (unmarked : c ≠ mark) (rest : List Char) :
    bytesIn (c :: rest) = String.utf8EncodeChar c ++ bytesIn rest := by
  cases rest with
  | nil => rw [bytesIn, bytesIn, List.append_nil]
  | cons next rest => rw [bytesIn, if_neg (by simp [unmarked])]

theorem bytesIn_mark {next : Char} (belongs : isMarked next = true) (rest : List Char) :
    bytesIn (mark :: next :: rest) = next.toNat.toUInt8 :: bytesIn rest := by
  rw [bytesIn, if_pos (by simp [belongs])]

theorem bytesIn_kept (c : Char) (rest : List Char) :
    bytesIn (kept c ++ rest) = String.utf8EncodeChar c ++ bytesIn rest := by
  unfold kept
  split
  · rename_i same
    subst same
    exact bytesIn_mark rfl rest
  · rename_i unmarked
    exact bytesIn_cons unmarked rest

theorem toNat_ofNat_toNat (byte : UInt8) : (Char.ofNat byte.toNat).toNat = byte.toNat := by
  have small := byte.toNat_lt
  have valid : byte.toNat.isValidChar := .inl (by omega)
  rw [Char.ofNat, dif_pos valid]
  rfl

/-- A byte of the first half is a character of its own. -/
theorem utf8EncodeChar_ofNat {byte : UInt8} (low : byte.toNat < 0x80) :
    String.utf8EncodeChar (Char.ofNat byte.toNat) = [byte] := by
  have same := toNat_ofNat_toNat byte
  have single : (Char.ofNat byte.toNat).utf8Size = 1 := by
    rw [Char.utf8Size_eq_one_iff, UInt32.le_iff_toNat_le]
    exact Nat.le_trans (Nat.le_of_eq same) (by simpa using Nat.le_of_lt_succ low)
  rw [String.utf8EncodeChar_eq_singleton single]
  refine congrArg (fun byte => [byte]) (UInt8.toNat_inj.mp ?_)
  rw [UInt32.toNat_toUInt8]
  exact (congrArg (· % 2 ^ 8) same).trans (Nat.mod_eq_of_lt byte.toNat_lt)

/-- A byte that begins no character is none of the first half. -/
theorem le_of_undecodable {lead : UInt8} {rest : List UInt8}
    (undecodable : (ByteArray.mk (lead :: rest).toArray).utf8DecodeChar? 0 = none) : 0x80 ≤ lead.toNat := by
  by_contra high
  have split : ByteArray.mk (lead :: rest).toArray =
      (String.utf8EncodeChar (Char.ofNat lead.toNat)).toByteArray ++ ByteArray.mk rest.toArray := by
    rw [utf8EncodeChar_ofNat (by omega)]
    apply ByteArray.ext
    apply Array.ext'
    simp
  rw [split, ByteArray.utf8DecodeChar?_utf8EncodeChar_append] at undecodable
  cases undecodable

theorem bytesIn_marked {lead : UInt8} (high : 0x80 ≤ lead.toNat) (rest : List Char) :
    bytesIn (marked lead ++ rest) = lead :: bytesIn rest := by
  have small := lead.toNat_lt
  have same := toNat_ofNat_toNat lead
  have belongs : isMarked (Char.ofNat lead.toNat) = true := by
    rw [isMarked, same]
    simp only [Bool.or_eq_true, Bool.and_eq_true, decide_eq_true_eq]
    exact .inr ⟨high, by omega⟩
  refine (bytesIn_mark belongs rest).trans ?_
  rw [same, Nat.toUInt8_eq, UInt8.ofNat_toNat]

/-- What begins some bytes as a character is the encoding of that character. -/
theorem encoding_append {lead : UInt8} {rest : List UInt8} {c : Char}
    (decoded : (ByteArray.mk (lead :: rest).toArray).utf8DecodeChar? 0 = some c) :
    String.utf8EncodeChar c ++ rest.drop (c.utf8Size - 1) = lead :: rest := by
  obtain ⟨others, whole⟩ := ByteArray.exists_of_utf8DecodeChar?_eq_some decoded
  have listed : lead :: rest = String.utf8EncodeChar c ++ others.data.toList := by
    have listed := congrArg (fun bytes : ByteArray => bytes.data.toList) whole
    simpa using listed
  have length := String.length_utf8EncodeChar c
  have positive := c.utf8Size_pos
  have left : rest.drop (c.utf8Size - 1) = others.data.toList := by
    have dropped := congrArg (List.drop c.utf8Size) listed
    rw [List.drop_left' length] at dropped
    rwa [show c.utf8Size = c.utf8Size - 1 + 1 by omega, List.drop_succ_cons] at dropped
  rw [left, listed]

theorem bytesIn_keepAfter (taken : Nat) (bytes : List UInt8) : bytesIn (keepAfter taken bytes) = bytes.drop taken := by
  induction bytes generalizing taken with
  | nil => cases taken <;> rfl
  | cons lead rest ih =>
    cases taken with
    | succ taken => exact ih taken
    | zero =>
      rw [keepAfter]
      cases decoded : (ByteArray.mk (lead :: rest).toArray).utf8DecodeChar? 0 with
      | none =>
        dsimp only
        rw [bytesIn_marked (le_of_undecodable decoded), ih]
        rfl
      | some c =>
        dsimp only
        rw [bytesIn_kept, ih, encoding_append decoded, List.drop_zero]

/-- The text that keeps some bytes gives them back. -/
theorem toBytes_ofBytes (bytes : List UInt8) : toBytes (ofBytes bytes) = bytes := by
  rw [toBytes, ofBytes, String.toList_ofList, bytesIn_keepAfter, List.drop_zero]

theorem ofBytes_injective : Function.Injective ofBytes :=
  Function.LeftInverse.injective toBytes_ofBytes

end Scaffold.Text
