import Highlighter.Output.Device
import Highlighter.Proofs.Output.Writing

/-!
# Bytes on a device

A device holds the bytes of all that was written, in order, up to what it has room
for, and it fails where that is not all.  Without a limit it holds the bytes of one
text, which can be read from it.
-/

set_option autoImplicit false

namespace Highlighter

theorem Utf8.encode_append (first second : List Char) :
    encode (first ++ second) = encode first ++ encode second := by
  simp [encode]

theorem Utf8.toByteArray_encode (text : List Char) :
    (encode text).toByteArray = (String.ofList text).toByteArray := by
  rw [String.toByteArray_ofList]
  rfl

/-- The bytes of a text can be read as that text again. -/
theorem Utf8.fromUTF8?_encode (text : List Char) :
    String.fromUTF8? (encode text).toByteArray = some (String.ofList text) := by
  rw [toByteArray_encode]
  unfold String.fromUTF8?
  rw [dif_pos (String.ofList text).isValidUTF8]
  rfl

/-! ## Room on a device -/

namespace Device

/-- A device without a limit, or with room for so many bytes, once an output has been written to it,
and its failure if the output was too long. -/
def within (room : Option Nat) (output : List UInt8) : Device × Option FileError :=
  match room with
  | none => (⟨output.toArray, none⟩, none)
  | some room =>
    (⟨(output.take room).toArray, some (room - output.length)⟩,
      if output.length ≤ room then none else some .storageFull)

variable {room : Option Nat} {count : Nat} {output : List UInt8}

theorem within_nil (room : Option Nat) : within room [] = (empty room, none) := by
  cases room <;> simp [within, empty]

theorem within_of_le (fits : output.length ≤ count) :
    within (some count) output = (⟨output.toArray, some (count - output.length)⟩, none) := by
  unfold within
  dsimp only
  rw [List.take_of_length_le fits, if_pos fits]

theorem within_of_lt (full : count < output.length) :
    within (some count) output = (⟨(output.take count).toArray, some 0⟩, some .storageFull) := by
  have nothing : count - output.length = 0 := by omega
  unfold within
  dsimp only
  rw [nothing, if_neg (by omega)]

theorem within_failure_eq_none :
    (within (some count) output).2 = none ↔ output.length ≤ count := by
  by_cases fits : output.length ≤ count
  · simp [within_of_le fits, fits]
  · simp [within_of_lt (by omega : count < output.length), fits]

/-- What comes after a failure makes no difference. -/
theorem within_append (failed : (within room output).2 ≠ none) (bytes : List UInt8) :
    within room (output ++ bytes) = within room output := by
  cases room with
  | none => exact absurd rfl failed
  | some count =>
    rw [ne_eq, within_failure_eq_none, Nat.not_le] at failed
    have longer : count < (output ++ bytes).length := by
      rw [List.length_append]
      omega
    rw [within_of_lt failed, within_of_lt longer, List.take_append_of_le_length (by omega)]

/-- A device that has not failed takes what is written as more of the same output. -/
theorem write_within (taken : (within room output).2 = none) (bytes : List UInt8) :
    (within room output).1.write bytes = within room (output ++ bytes) := by
  cases room with
  | none => simp [within, write]
  | some count =>
    rw [within_failure_eq_none] at taken
    have total : (output ++ bytes).length = output.length + bytes.length := List.length_append
    rw [within_of_le taken]
    unfold write
    dsimp only
    by_cases more : bytes.length ≤ count - output.length
    · rw [if_pos more, within_of_le (by omega), total, Nat.sub_sub]
      simp
    · have cut : (output ++ bytes).take count = output ++ bytes.take (count - output.length) := by
        rw [List.take_append, List.take_of_length_le taken]
      rw [if_neg more, within_of_lt (by omega), cut]
      simp

/-- A device that has failed stays as it is, whatever is written to it. -/
theorem write_within_fst (room : Option Nat) (output bytes : List UInt8) :
    ((within room output).1.write bytes).1 = (within room (output ++ bytes)).1 := by
  by_cases taken : (within room output).2 = none
  · rw [write_within taken]
  · rw [within_append taken]
    cases room with
    | none => exact absurd rfl taken
    | some count =>
      rw [within_failure_eq_none, Nat.not_le] at taken
      rw [within_of_lt taken]
      cases bytes <;> simp [write]

/-- What is put to a device that has not failed is more of the same output. -/
theorem put_within (taken : (within room output).2 = none) (piece : Piece) :
    Output.put (within room output).1 piece
      = within room (output ++ Utf8.encode piece.content) := by
  cases piece with
  | text content => exact write_within taken (Utf8.encode content)
  | flush =>
    have nothing : output ++ Utf8.encode Piece.flush.content = output := List.append_nil output
    rw [nothing]
    exact Prod.ext rfl taken.symm

/-- Pieces that are put one by one come to a device as one output. -/
theorem putAll_within (pieces : List Piece) (taken : (within room output).2 = none) :
    Output.putAll (within room output).1 pieces
      = within room (output ++ Utf8.encode (Piece.contents pieces)) := by
  induction pieces generalizing output with
  | nil =>
    have nothing : Utf8.encode (Piece.contents []) = [] := rfl
    rw [nothing, List.append_nil, Output.putAll, ← taken]
  | cons piece pieces inductionHypothesis =>
    rw [Piece.contents_cons, Utf8.encode_append, ← List.append_assoc, Output.putAll,
      put_within taken]
    rcases result : within room (output ++ Utf8.encode piece.content) with ⟨device, failure⟩
    cases failure with
    | none =>
      have further := @inductionHypothesis (output ++ Utf8.encode piece.content)
      rw [result] at further
      exact further rfl
    | some cause =>
      have failed : (within room (output ++ Utf8.encode piece.content)).2 ≠ none := by
        simp [result]
      rw [within_append failed, result]

/-- The text whose bytes a device holds, if they are the bytes of a text. -/
def text? (device : Device) : Option (List Char) :=
  (String.fromUTF8? device.accepted.toList.toByteArray).map String.toList

end Device

/-! ## Programs that write to a device -/

namespace Writes

variable {α : Type} {program : Writing Device α} {pieces : List Piece} {value : α}

theorem run_empty (writes : Writes program pieces [] value) (room : Option Nat) :
    program.run (Device.empty room)
      = Writing.ended value (Device.within room (Utf8.encode (Piece.contents pieces))) := by
  have taken : (Device.within room []).2 = none := by rw [Device.within_nil]
  have put := Device.putAll_within pieces taken
  rw [Device.within_nil, List.nil_append] at put
  rw [writes.run_eq, put]

/-- What has been written to a device without a limit can be read from it. -/
theorem text (writes : Writes program pieces [] value) :
    ∃ device, program.run (Device.empty none) = (.ok value, device) ∧
      device.text? = some (Piece.contents pieces) := by
  refine ⟨_, writes.run_empty none, ?_⟩
  unfold Device.text?
  dsimp only
  rw [Utf8.fromUTF8?_encode, Option.map_some, String.toList_ofList]

end Writes

end Highlighter
