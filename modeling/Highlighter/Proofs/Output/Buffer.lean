import Highlighter.Proofs.Output.Device

/-!
# Bytes behind a buffer

A buffer parts the bytes of an output into those that it has passed on and those
that it holds, and how it does that does not depend on the device behind it.  A
device that has no room for what is passed on fails in the midst of the output; one
that has no room for what is held fails when the buffer is given up, and then
nobody learns of it.
-/

set_option autoImplicit false

namespace Highlighter

/-- The bytes of an output, parted by a buffer. -/
structure Parted where
  passed : List UInt8
  kept : List UInt8
  deriving DecidableEq, Repr

namespace Parted

def nothing : Parted := ⟨[], []⟩

def whole (parted : Parted) : List UInt8 := parted.passed ++ parted.kept

def flush (parted : Parted) : Parted := ⟨parted.whole, []⟩

/-- Bytes that fill a buffer by themselves are passed on at once. -/
def put (capacity : Nat) (parted : Parted) (bytes : List UInt8) : Parted :=
  if bytes.length < capacity then { parted with kept := parted.kept ++ bytes }
  else ⟨parted.whole ++ bytes, []⟩

def take (capacity : Nat) (parted : Parted) (bytes : List UInt8) : Parted :=
  (if bytes.length ≤ capacity - parted.kept.length then parted else parted.flush).put capacity bytes

def takePiece (capacity : Nat) (parted : Parted) : Piece → Parted
  | .text content => parted.take capacity (Utf8.encode content)
  | .flush => parted.flush

def takeAll (capacity : Nat) (parted : Parted) (pieces : List Piece) : Parted :=
  pieces.foldl (takePiece capacity) parted

variable {capacity : Nat} {parted : Parted}

/-! ## What a buffer does to an output -/

theorem flush_whole (parted : Parted) : parted.flush.whole = parted.whole := by
  simp [flush, whole]

theorem put_whole (bytes : List UInt8) :
    (parted.put capacity bytes).whole = parted.whole ++ bytes := by
  unfold put
  split <;> simp [whole]

theorem put_passed (bytes : List UInt8) : parted.passed <+: (parted.put capacity bytes).passed := by
  unfold put
  split
  · exact List.prefix_rfl
  · exact (List.prefix_append _ _).trans (List.prefix_append _ _)

theorem put_fits {bytes : List UInt8}
    (fits : bytes.length < capacity → parted.kept.length + bytes.length ≤ capacity) :
    (parted.put capacity bytes).kept.length ≤ capacity := by
  unfold put
  split
  · rename_i short
    simpa using fits short
  · exact Nat.zero_le _

theorem take_cases (capacity : Nat) (parted : Parted) (bytes : List UInt8) :
    (bytes.length ≤ capacity - parted.kept.length ∧
        parted.take capacity bytes = parted.put capacity bytes) ∨
      (capacity - parted.kept.length < bytes.length ∧
        parted.take capacity bytes = parted.flush.put capacity bytes) := by
  unfold take
  by_cases spare : bytes.length ≤ capacity - parted.kept.length
  · exact .inl ⟨spare, by rw [if_pos spare]⟩
  · exact .inr ⟨by omega, by rw [if_neg spare]⟩

theorem takePiece_whole (piece : Piece) :
    (parted.takePiece capacity piece).whole = parted.whole ++ Utf8.encode piece.content := by
  cases piece with
  | text content =>
    rcases parted.take_cases capacity (Utf8.encode content) with ⟨-, same⟩ | ⟨-, same⟩
    · rw [takePiece, same, put_whole, Piece.content_text]
    · rw [takePiece, same, put_whole, flush_whole, Piece.content_text]
  | flush =>
    rw [takePiece, flush_whole]
    exact (List.append_nil _).symm

/-- What has been passed on stays so. -/
theorem takePiece_passed (piece : Piece) :
    parted.passed <+: (parted.takePiece capacity piece).passed := by
  have flushed : parted.passed <+: parted.flush.passed := List.prefix_append _ _
  cases piece with
  | text content =>
    rcases parted.take_cases capacity (Utf8.encode content) with ⟨-, same⟩ | ⟨-, same⟩
    · rw [takePiece, same]
      exact put_passed _
    · rw [takePiece, same]
      exact flushed.trans (put_passed _)
  | flush => exact flushed

/-- A buffer never holds more than it has room for. -/
theorem takePiece_fits (fits : parted.kept.length ≤ capacity) (piece : Piece) :
    (parted.takePiece capacity piece).kept.length ≤ capacity := by
  cases piece with
  | text content =>
    rcases parted.take_cases capacity (Utf8.encode content) with ⟨spare, same⟩ | ⟨-, same⟩
    · rw [takePiece, same]
      exact put_fits (by omega)
    · rw [takePiece, same]
      exact put_fits fun short => by simpa [flush] using Nat.le_of_lt short
  | flush => exact Nat.zero_le _

theorem takeAll_whole (pieces : List Piece) :
    (parted.takeAll capacity pieces).whole
      = parted.whole ++ Utf8.encode (Piece.contents pieces) := by
  induction pieces generalizing parted with
  | nil => exact (List.append_nil _).symm
  | cons piece pieces inductionHypothesis =>
    rw [Piece.contents_cons, Utf8.encode_append, ← List.append_assoc, ← takePiece_whole]
    exact inductionHypothesis

theorem takeAll_passed (pieces : List Piece) :
    parted.passed <+: (parted.takeAll capacity pieces).passed := by
  induction pieces generalizing parted with
  | nil => exact List.prefix_rfl
  | cons piece pieces inductionHypothesis =>
    exact (takePiece_passed piece).trans inductionHypothesis

/-! ## What is held at the end -/

theorem takeAll_concat (pieces : List Piece) (piece : Piece) :
    parted.takeAll capacity (pieces ++ [piece])
      = (parted.takeAll capacity pieces).takePiece capacity piece := by
  simp [takeAll]

theorem takeAll_flush (pieces : List Piece) :
    (parted.takeAll capacity (pieces ++ [.flush])).kept = [] := by
  rw [takeAll_concat]
  rfl

/-- A short text that comes last is held. -/
theorem takeAll_text (pieces : List Piece) {content : List Char}
    (short : (Utf8.encode content).length < capacity) :
    (Utf8.encode content).length
      ≤ (parted.takeAll capacity (pieces ++ [.text content])).kept.length := by
  rw [takeAll_concat]
  simp [takePiece, take, put, short]

/-- An output shorter than the buffer is held as a whole, unless it is to be passed on. -/
theorem takeAll_short (pieces : List Piece) (unflushed : .flush ∉ pieces)
    (short : parted.kept.length + (Utf8.encode (Piece.contents pieces)).length < capacity) :
    parted.takeAll capacity pieces
      = { parted with kept := parted.kept ++ Utf8.encode (Piece.contents pieces) } := by
  induction pieces generalizing parted with
  | nil => simp [takeAll, Utf8.encode]
  | cons piece pieces inductionHypothesis =>
    rw [List.mem_cons, not_or] at unflushed
    rw [Piece.contents_cons, Utf8.encode_append, List.length_append] at short
    cases piece with
    | flush => exact absurd rfl unflushed.1
    | text content =>
      rw [Piece.content_text] at short
      have held : parted.take capacity (Utf8.encode content)
          = { parted with kept := parted.kept ++ Utf8.encode content } := by
        unfold take put
        rw [if_pos (by omega), if_pos (by omega)]
      have further := @inductionHypothesis (parted.take capacity (Utf8.encode content))
        unflushed.2 (by rw [held]; simp only [List.length_append]; omega)
      rw [held] at further
      rw [Piece.contents_cons, Piece.content_text, Utf8.encode_append, ← List.append_assoc]
      exact (congrArg (fun later => takeAll capacity later pieces) held).trans further

end Parted

/-! ## Buffers -/

namespace Buffer

/-- Takes bytes that nothing has to make room for. -/
def put (buffer : Buffer) (bytes : List UInt8) : Buffer × Option FileError :=
  if bytes.length < buffer.capacity then
    ({ buffer with held := buffer.held.appendList bytes }, none)
  else
    match buffer.device.write bytes with
    | (device, failure) => ({ buffer with device }, failure)

theorem write_of_spare {buffer : Buffer} {bytes : List UInt8}
    (spare : bytes.length ≤ buffer.capacity - buffer.held.size) :
    buffer.write bytes = buffer.put bytes := by
  simp only [write, if_pos spare]
  rfl

theorem write_of_full {buffer : Buffer} {bytes : List UInt8}
    (full : buffer.capacity - buffer.held.size < bytes.length) :
    buffer.write bytes =
      match buffer.flush with
      | (buffer, none) => buffer.put bytes
      | (buffer, some cause) => (buffer, some cause) := by
  have beyond : ¬ bytes.length ≤ buffer.capacity - buffer.held.size := by omega
  simp only [write, if_neg beyond]
  rcases buffer.flush with ⟨later, failure⟩
  cases failure <;> rfl

/-- A buffer in front of a device with so much room, when an output has come to it. -/
def holding (room : Option Nat) (capacity : Nat) (parted : Parted) : Buffer :=
  ⟨(Device.within room parted.passed).1, parted.kept.toArray, capacity⟩

/-- What has been reached once an output has come: the buffer stands as it should, unless the
device has failed. -/
structure Reached (room : Option Nat) (capacity : Nat) (parted : Parted)
    (reached : Buffer × Option FileError) : Prop where
  device : (reached.1.device, reached.2) = Device.within room parted.passed
  buffer : reached.2 = none → reached.1 = holding room capacity parted

variable {room : Option Nat} {capacity : Nat} {parted : Parted}
  {reached : Buffer × Option FileError}

namespace Reached

theorem of_eq
    (same : reached = (holding room capacity parted, (Device.within room parted.passed).2)) :
    Reached room capacity parted reached := by
  rw [same]
  exact ⟨rfl, fun _ => rfl⟩

/-- A device that has failed stays as it is while more of the output is passed on. -/
theorem of_failed {passed : List UInt8}
    (device : (reached.1.device, reached.2) = Device.within room passed)
    (failed : reached.2 ≠ none) (further : passed <+: parted.passed) :
    Reached room capacity parted reached := by
  obtain ⟨more, rest⟩ := further
  have failure : (Device.within room passed).2 ≠ none := by
    rw [← device]
    exact failed
  refine ⟨?_, fun taken => absurd taken failed⟩
  rw [device, ← rest, Device.within_append failure]

/-- After a buffer has been given up, its device has been offered the whole output. -/
theorem close (reaches : Reached room capacity parted reached) :
    reached.1.close = (Device.within room parted.whole).1 := by
  have device : reached.1.device = (Device.within room parted.passed).1 := by
    rw [← reaches.device]
  have closed : reached.1.close
      = (Device.within room (parted.passed ++ reached.1.held.toList)).1 := by
    rw [← Device.write_within_fst, ← device]
    rfl
  rw [closed]
  by_cases taken : reached.2 = none
  · rw [reaches.buffer taken]
    rfl
  · have failed : (Device.within room parted.passed).2 ≠ none := by
      rw [← reaches.device]
      exact taken
    rw [Parted.whole, Device.within_append failed, Device.within_append failed]

end Reached

section Steps

variable (taken : (Device.within room parted.passed).2 = none)
include taken

theorem flush_holding : (holding room capacity parted).flush
    = (holding room capacity parted.flush, (Device.within room parted.whole).2) := by
  have written := Device.write_within taken parted.kept
  unfold flush holding
  dsimp only
  rw [written]
  rfl

theorem put_holding {bytes : List UInt8} (fits : bytes.length < capacity ∨ parted.kept = []) :
    (holding room capacity parted).put bytes
      = (holding room capacity (parted.put capacity bytes),
          (Device.within room (parted.put capacity bytes).passed).2) := by
  unfold put Parted.put
  by_cases short : bytes.length < capacity
  · simp [holding, short, taken]
  · have nothing := fits.resolve_left short
    have written := Device.write_within taken bytes
    simp [holding, short, written, Parted.whole, nothing]

theorem write_holding (fits : parted.kept.length ≤ capacity) (bytes : List UInt8) :
    Reached room capacity (parted.take capacity bytes)
      ((holding room capacity parted).write bytes) := by
  have held : (holding room capacity parted).held.size = parted.kept.length := rfl
  rcases parted.take_cases capacity bytes with ⟨spare, same⟩ | ⟨full, same⟩
  · have room : bytes.length < capacity ∨ parted.kept = [] := by
      rw [← List.length_eq_zero_iff]
      omega
    rw [same, write_of_spare spare]
    exact .of_eq (put_holding taken room)
  · rw [same, write_of_full full, flush_holding taken]
    cases failure : (Device.within room parted.whole).2 with
    | none => exact .of_eq (put_holding failure (.inr rfl))
    | some cause =>
      have device : ((Device.within room parted.whole).1, some cause)
          = Device.within room parted.whole := by
        rw [← failure]
      have further : parted.flush.passed <+: (parted.flush.put capacity bytes).passed :=
        Parted.put_passed bytes
      exact .of_failed device (Option.some_ne_none cause) further

end Steps

theorem put_piece_holding (fits : parted.kept.length ≤ capacity)
    (taken : (Device.within room parted.passed).2 = none) (piece : Piece) :
    Reached room capacity (parted.takePiece capacity piece)
      (Output.put (holding room capacity parted) piece) := by
  cases piece with
  | text content => exact write_holding taken fits _
  | flush => exact .of_eq (flush_holding taken)

/-- In front of any device a buffer parts an output in the same way. -/
theorem putAll_holding (pieces : List Piece) (fits : parted.kept.length ≤ capacity)
    (taken : (Device.within room parted.passed).2 = none) :
    Reached room capacity (parted.takeAll capacity pieces)
      (Output.putAll (holding room capacity parted) pieces) := by
  induction pieces generalizing parted with
  | nil => exact .of_eq (by rw [Output.putAll, Parted.takeAll, List.foldl_nil, taken])
  | cons piece pieces inductionHypothesis =>
    have step := put_piece_holding fits taken piece
    rw [Output.putAll]
    rcases result : Output.put (holding room capacity parted) piece with ⟨buffer, failure⟩
    rw [result] at step
    cases failure with
    | none =>
      have still : (Device.within room (parted.takePiece capacity piece).passed).2 = none := by
        rw [← step.device]
      have same : buffer = holding room capacity (parted.takePiece capacity piece) :=
        step.buffer rfl
      rw [same]
      exact inductionHypothesis (Parted.takePiece_fits fits piece) still
    | some cause =>
      exact .of_failed step.device (Option.some_ne_none cause) (Parted.takeAll_passed pieces)

/-- The same of a buffer that is new, in front of a device that is empty. -/
theorem putAll_before (room : Option Nat) (pieces : List Piece) :
    Reached room standardCapacity (Parted.nothing.takeAll standardCapacity pieces)
      (Output.putAll (before (.empty room)) pieces) := by
  have start : before (.empty room) = holding room standardCapacity .nothing := by
    rw [holding, Parted.nothing, Device.within_nil]
    rfl
  rw [start]
  apply putAll_holding pieces (Nat.zero_le _)
  rw [Parted.nothing, Device.within_nil]

end Buffer

end Highlighter
