import MonkeySyntax.Text.Hex

/-!
Contract: texts as bytes in the UTF-8 encoding.

Owns:
- the encoding of a text;
- the decoding of bytes, which says where and why it fails when they encode no text;
- the law that decoding undoes encoding.

Does not own: byte order marks, which are characters like others, and line ends.
-/

set_option autoImplicit false

namespace MonkeySyntax

namespace Utf8

/-! ### Encoding -/

/-- The bytes of one code point, as numbers. -/
def encodeCode (code : Nat) : List Nat :=
  if code < 0x80 then [code]
  else if code < 0x800 then [0xC0 + code / 64, 0x80 + code % 64]
  else if code < 0x10000 then
    [0xE0 + code / 4096, 0x80 + code / 64 % 64, 0x80 + code % 64]
  else
    [0xF0 + code / 262144, 0x80 + code / 4096 % 64, 0x80 + code / 64 % 64, 0x80 + code % 64]

/-- The bytes of some characters. -/
def encode (text : List Char) : List UInt8 :=
  text.flatMap fun char => (encodeCode char.toNat).map UInt8.ofNat

/-! ### Decoding -/

/-- Why bytes encode no text. -/
inductive Cause where
  | startByte
  | continuationByte
  | endOfData
deriving DecidableEq, Repr

/-- What a decoder met: the cause, how many bytes stand before the faulty
sequence, and the sequence itself, which breaks off where it goes wrong. -/
structure Fault where
  cause : Cause
  offset : Nat
  sequence : List UInt8
deriving DecidableEq, Repr

/-- A sequence that is not complete: its bytes so far with the latest one first,
how many are missing, the bits so far, and the range of the next byte. -/
structure Pending where
  taken : List UInt8
  missing : Nat
  bits : Nat
  least : Nat
  greatest : Nat
deriving DecidableEq, Repr

/-- The sequence that a first byte begins. The range of the second byte leaves out
codes that need fewer bytes, surrogates, and codes that are too great. -/
def begin? (byte : UInt8) : Option Pending :=
  let value := byte.toNat
  if value < 0x80 then some ⟨[byte], 0, value, 0x80, 0xBF⟩
  else if value < 0xC2 then none
  else if value < 0xE0 then some ⟨[byte], 1, value - 0xC0, 0x80, 0xBF⟩
  else if value = 0xE0 then some ⟨[byte], 2, 0, 0xA0, 0xBF⟩
  else if value = 0xED then some ⟨[byte], 2, 0xD, 0x80, 0x9F⟩
  else if value < 0xF0 then some ⟨[byte], 2, value - 0xE0, 0x80, 0xBF⟩
  else if value = 0xF0 then some ⟨[byte], 3, 0, 0x90, 0xBF⟩
  else if value < 0xF4 then some ⟨[byte], 3, value - 0xF0, 0x80, 0xBF⟩
  else if value = 0xF4 then some ⟨[byte], 3, 4, 0x80, 0x8F⟩
  else none

/-- The sequence with one more byte, when the byte is in range. -/
def Pending.extend? (pending : Pending) (byte : UInt8) : Option Pending :=
  let value := byte.toNat
  if pending.least ≤ value ∧ value ≤ pending.greatest then
    some ⟨byte :: pending.taken, pending.missing - 1, pending.bits * 64 + (value - 0x80),
      0x80, 0xBF⟩
  else none

/-- What a decoder has found so far, with the latest character first, and the
sequence it is in. -/
structure Decoder where
  text : List Char
  offset : Nat
  pending : Option Pending
deriving DecidableEq, Repr

/-- The decoder after a sequence has grown, which ends it if nothing is missing. -/
def Decoder.grown (decoder : Decoder) (pending : Pending) : Decoder :=
  if pending.missing = 0 then
    ⟨Char.ofNat pending.bits :: decoder.text, decoder.offset + pending.taken.length, none⟩
  else { decoder with pending := some pending }

/-- Reads one byte. -/
def Decoder.step (decoder : Decoder) (byte : UInt8) : Except Fault Decoder :=
  match decoder.pending with
  | none =>
      match begin? byte with
      | none => .error ⟨.startByte, decoder.offset, [byte]⟩
      | some pending => .ok (decoder.grown pending)
  | some pending =>
      match pending.extend? byte with
      | none => .error ⟨.continuationByte, decoder.offset, pending.taken.reverse⟩
      | some extended => .ok (decoder.grown extended)

/-- Ends the bytes, which must not break off inside a sequence. -/
def Decoder.finish (decoder : Decoder) : Except Fault (List Char) :=
  match decoder.pending with
  | none => .ok decoder.text.reverse
  | some pending => .error ⟨.endOfData, decoder.offset, pending.taken.reverse⟩

/-- The characters that some bytes encode. -/
def decode (bytes : List UInt8) : Except Fault (List Char) := do
  (← bytes.foldlM Decoder.step ⟨[], 0, none⟩).finish

/-! ### Decoding undoes encoding -/

theorem toNat_ofNat_byte {value : Nat} (small : value < 256) :
    (UInt8.ofNat value).toNat = value := by
  simp [UInt8.toNat_ofNat', Nat.mod_eq_of_lt small]

/-- A first byte that leaves bytes missing opens a sequence. -/
theorem foldlM_begin {byte : UInt8} {pending : Pending} (text : List Char) (offset : Nat)
    (others : List UInt8) (begun : begin? byte = some pending) (unfinished : pending.missing ≠ 0) :
    (byte :: others).foldlM Decoder.step ⟨text, offset, none⟩ =
      others.foldlM Decoder.step ⟨text, offset, some pending⟩ := by
  have stepped : Decoder.step ⟨text, offset, none⟩ byte = .ok ⟨text, offset, some pending⟩ := by
    simp only [Decoder.step, begun, Decoder.grown, if_neg unfinished]
  rw [List.foldlM_cons, stepped]
  rfl

/-- A byte in range takes a sequence further while more bytes are missing. -/
theorem foldlM_extend {taken : List UInt8} {missing bits least greatest value : Nat}
    (text : List Char) (offset : Nat) (others : List UInt8) (small : value < 256)
    (atLeast : least ≤ value) (atMost : value ≤ greatest) :
    (UInt8.ofNat value :: others).foldlM Decoder.step
        ⟨text, offset, some ⟨taken, missing + 2, bits, least, greatest⟩⟩ =
      others.foldlM Decoder.step
        ⟨text, offset, some ⟨UInt8.ofNat value :: taken, missing + 1,
          bits * 64 + (value - 0x80), 0x80, 0xBF⟩⟩ := by
  have stepped : Decoder.step ⟨text, offset, some ⟨taken, missing + 2, bits, least, greatest⟩⟩
      (UInt8.ofNat value) = .ok ⟨text, offset, some ⟨UInt8.ofNat value :: taken, missing + 1,
        bits * 64 + (value - 0x80), 0x80, 0xBF⟩⟩ := by
    simp [Decoder.step, Pending.extend?, toNat_ofNat_byte small, atLeast, atMost, Decoder.grown]
  rw [List.foldlM_cons, stepped]
  rfl

/-- The last byte of a sequence makes it a character. -/
theorem foldlM_last {taken : List UInt8} {bits least greatest value : Nat}
    (text : List Char) (offset : Nat) (others : List UInt8) (small : value < 256)
    (atLeast : least ≤ value) (atMost : value ≤ greatest) :
    (UInt8.ofNat value :: others).foldlM Decoder.step
        ⟨text, offset, some ⟨taken, 1, bits, least, greatest⟩⟩ =
      others.foldlM Decoder.step
        ⟨Char.ofNat (bits * 64 + (value - 0x80)) :: text, offset + (taken.length + 1), none⟩ := by
  have stepped : Decoder.step ⟨text, offset, some ⟨taken, 1, bits, least, greatest⟩⟩
      (UInt8.ofNat value) =
        .ok ⟨Char.ofNat (bits * 64 + (value - 0x80)) :: text, offset + (taken.length + 1),
          none⟩ := by
    simp [Decoder.step, Pending.extend?, toNat_ofNat_byte small, atLeast, atMost, Decoder.grown]
  rw [List.foldlM_cons, stepped]
  rfl

theorem begin?_two : ∀ high < 32, 2 ≤ high → begin? (UInt8.ofNat (0xC0 + high)) =
    some ⟨[UInt8.ofNat (0xC0 + high)], 1, high, 0x80, 0xBF⟩ := by
  decide

theorem begin?_three : ∀ high < 16, begin? (UInt8.ofNat (0xE0 + high)) =
    some ⟨[UInt8.ofNat (0xE0 + high)], 2, high,
      if high = 0 then 0xA0 else 0x80, if high = 0xD then 0x9F else 0xBF⟩ := by
  decide

theorem begin?_four : ∀ high < 5, begin? (UInt8.ofNat (0xF0 + high)) =
    some ⟨[UInt8.ofNat (0xF0 + high)], 3, high,
      if high = 0 then 0x90 else 0x80, if high = 4 then 0x8F else 0xBF⟩ := by
  decide

/-- The bytes of a character lead a decoder over that character. -/
theorem foldlM_encodeCode (char : Char) (text : List Char) (offset : Nat)
    (others : List UInt8) :
    ∃ after, ((encodeCode char.toNat).map UInt8.ofNat ++ others).foldlM Decoder.step
        ⟨text, offset, none⟩ =
      others.foldlM Decoder.step ⟨char :: text, after, none⟩ := by
  have valid : char.toNat < 0xD800 ∨ (0xDFFF < char.toNat ∧ char.toNat < 0x110000) := char.valid
  have whole : Char.ofNat char.toNat = char := Char.ofNat_toNat char
  generalize char.toNat = code at valid whole
  unfold encodeCode
  by_cases one : code < 0x80
  · refine ⟨offset + 1, ?_⟩
    rw [if_pos one]
    have stepped : Decoder.step ⟨text, offset, none⟩ (UInt8.ofNat code) =
        .ok ⟨char :: text, offset + 1, none⟩ := by
      simp [Decoder.step, begin?, Decoder.grown,
        toNat_ofNat_byte (show code < 256 by omega), one, whole]
    rw [List.map_cons, List.cons_append, List.foldlM_cons, stepped]
    rfl
  rw [if_neg one]
  by_cases two : code < 0x800
  · refine ⟨offset + 2, ?_⟩
    rw [if_pos two]
    simp only [List.map_cons, List.map_nil, List.cons_append, List.nil_append]
    rw [foldlM_begin _ _ _ (begin?_two (code / 64) (by omega) (by omega)) (Nat.succ_ne_zero _),
      foldlM_last _ _ _ (by omega) (by omega) (by omega),
      show code / 64 * 64 + (0x80 + code % 64 - 0x80) = code by omega, whole]
    rfl
  rw [if_neg two]
  by_cases three : code < 0x10000
  · refine ⟨offset + 3, ?_⟩
    rw [if_pos three]
    simp only [List.map_cons, List.map_nil, List.cons_append, List.nil_append]
    rw [foldlM_begin _ _ _ (begin?_three (code / 4096) (by omega)) (Nat.succ_ne_zero _),
      foldlM_extend _ _ _ (by omega) (by split <;> omega) (by split <;> omega),
      foldlM_last _ _ _ (by omega) (by omega) (by omega),
      show (code / 4096 * 64 + (0x80 + code / 64 % 64 - 0x80)) * 64
        + (0x80 + code % 64 - 0x80) = code by omega, whole]
    rfl
  · refine ⟨offset + 4, ?_⟩
    rw [if_neg three]
    simp only [List.map_cons, List.map_nil, List.cons_append, List.nil_append]
    rw [foldlM_begin _ _ _ (begin?_four (code / 262144) (by omega)) (Nat.succ_ne_zero _),
      foldlM_extend _ _ _ (by omega) (by split <;> omega) (by split <;> omega),
      foldlM_extend _ _ _ (by omega) (by omega) (by omega),
      foldlM_last _ _ _ (by omega) (by omega) (by omega),
      show ((code / 262144 * 64 + (0x80 + code / 4096 % 64 - 0x80)) * 64
        + (0x80 + code / 64 % 64 - 0x80)) * 64 + (0x80 + code % 64 - 0x80) = code by omega,
      whole]
    rfl

theorem foldlM_encode (chars text : List Char) (offset : Nat) :
    ∃ after, (encode chars).foldlM Decoder.step ⟨text, offset, none⟩ =
      (.ok ⟨chars.reverse ++ text, after, none⟩ : Except Fault Decoder) := by
  induction chars generalizing text offset with
  | nil => exact ⟨offset, rfl⟩
  | cons char chars inductionHypothesis =>
      obtain ⟨behind, ledOver⟩ := foldlM_encodeCode char text offset (encode chars)
      obtain ⟨after, ledOn⟩ := inductionHypothesis (char :: text) behind
      refine ⟨after, ?_⟩
      rw [show encode (char :: chars) =
        (encodeCode char.toNat).map UInt8.ofNat ++ encode chars from rfl, ledOver, ledOn]
      simp

/-- Decoding undoes encoding. -/
theorem decode_encode (text : List Char) : decode (encode text) = .ok text := by
  obtain ⟨after, ledOver⟩ := foldlM_encode text [] 0
  unfold decode
  rw [ledOver]
  simp [bind, Except.bind, Decoder.finish]

/-! ### Faults -/

/-- The wording of a cause. -/
def Cause.message : Cause → String
  | .startByte => "invalid start byte"
  | .continuationByte => "invalid continuation byte"
  | .endOfData => "unexpected end of data"

/-- The message of a fault. A single byte is shown, several ones are only
located. -/
def Fault.message (fault : Fault) : String :=
  let located :=
    match fault.sequence with
    | [byte] =>
        "byte 0x" ++ String.ofList (Hex.digits 2 byte.toNat) ++ " in position "
          ++ toString fault.offset
    | bytes =>
        "bytes in position " ++ toString fault.offset ++ "-"
          ++ toString (fault.offset + bytes.length - 1)
  "'utf-8' codec can't decode " ++ located ++ ": " ++ fault.cause.message

end Utf8

end MonkeySyntax
