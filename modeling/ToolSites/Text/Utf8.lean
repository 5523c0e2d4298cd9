/-!
# UTF-8

Text on disk is a list of bytes. `encode` writes each character in the shortest
form; `decode` accepts exactly such forms and otherwise says where the first
malformed sequence starts, how long it is, and why it is malformed. A malformed
sequence is the longest beginning of a well-formed one, or a single byte that
can start none.
-/

namespace ToolSites.Text.Utf8

/-! ## Writing -/

/-- The bytes of one character. -/
def encodeChar (c : Char) : List UInt8 :=
  let n := c.toNat
  if n < 0x80 then [.ofNat n]
  else if n < 0x800 then [.ofNat (0xC0 + n / 0x40), .ofNat (0x80 + n % 0x40)]
  else if n < 0x10000 then
    [.ofNat (0xE0 + n / 0x1000), .ofNat (0x80 + n / 0x40 % 0x40), .ofNat (0x80 + n % 0x40)]
  else
    [.ofNat (0xF0 + n / 0x40000), .ofNat (0x80 + n / 0x1000 % 0x40),
      .ofNat (0x80 + n / 0x40 % 0x40), .ofNat (0x80 + n % 0x40)]

/-- The bytes of a text. -/
def encode (s : List Char) : List UInt8 := s.flatMap encodeChar

/-! ## Reading -/

/-- Why a sequence of bytes is malformed. -/
inductive Reason
  | startByte
  | continuationByte
  | endOfData
  deriving DecidableEq, Repr

/-- The first malformed sequence of a list of bytes. -/
structure Fault where
  /-- Where the sequence starts. -/
  position : Nat
  /-- Its first byte. -/
  byte : UInt8
  /-- How many bytes belong to it. -/
  length : Nat
  /-- What is wrong with it. -/
  reason : Reason
  deriving DecidableEq, Repr

/-- How many bytes follow a first byte of two and more, the range of the first
of them, and the bits that the first byte contributes. -/
def lead (b : Nat) : Option (Nat × Nat × Nat × Nat) :=
  if 0xC2 ≤ b ∧ b ≤ 0xDF then some (1, 0x80, 0xBF, b - 0xC0)
  else if b = 0xE0 then some (2, 0xA0, 0xBF, 0)
  else if b = 0xED then some (2, 0x80, 0x9F, 0xD)
  else if 0xE1 ≤ b ∧ b ≤ 0xEF then some (2, 0x80, 0xBF, b - 0xE0)
  else if b = 0xF0 then some (3, 0x90, 0xBF, 0)
  else if 0xF1 ≤ b ∧ b ≤ 0xF3 then some (3, 0x80, 0xBF, b - 0xF0)
  else if b = 0xF4 then some (3, 0x80, 0x8F, 4)
  else none

/-- Reads `count` more bytes of a character whose bits so far are `bits` and of
which `seen` bytes were read; the next byte must lie between `lo` and `hi`. -/
def continuation (lo hi : Nat) :
    (count seen bits : Nat) → List UInt8 → Except (Nat × Reason) (Nat × List UInt8)
  | 0, _, bits, rest => .ok (bits, rest)
  | _ + 1, seen, _, [] => .error (seen, .endOfData)
  | count + 1, seen, bits, b :: rest =>
    if lo ≤ b.toNat ∧ b.toNat ≤ hi then
      continuation 0x80 0xBF count (seen + 1) (bits * 0x40 + b.toNat % 0x40) rest
    else .error (seen, .continuationByte)

/-- Reads one character from the first byte `b` and the bytes after it. -/
def decodeChar (b : UInt8) (rest : List UInt8) : Except (Nat × Reason) (Char × List UInt8) :=
  if b.toNat < 0x80 then .ok (.ofNat b.toNat, rest)
  else match lead b.toNat with
    | none => .error (1, .startByte)
    | some (count, lo, hi, bits) =>
      (continuation lo hi count 1 bits rest).map fun (n, rest) => (.ofNat n, rest)

theorem length_continuation {lo hi count seen bits : Nat} {bs rest : List UInt8} {n : Nat}
    (h : continuation lo hi count seen bits bs = .ok (n, rest)) : rest.length ≤ bs.length := by
  induction count generalizing lo hi seen bits bs with
  | zero => simp only [continuation, Except.ok.injEq, Prod.mk.injEq] at h; simp [h.2]
  | succ count ih =>
    cases bs with
    | nil => simp [continuation] at h
    | cons b bs =>
      simp only [continuation] at h
      split at h
      · have := ih h; simp only [List.length_cons]; omega
      · simp at h

theorem length_decodeChar {b : UInt8} {bs rest : List UInt8} {c : Char}
    (h : decodeChar b bs = .ok (c, rest)) : rest.length ≤ bs.length := by
  unfold decodeChar at h
  split at h
  · simp only [Except.ok.injEq, Prod.mk.injEq] at h; simp [h.2]
  · split at h
    · simp at h
    · next count lo hi bits _ =>
      cases hc : continuation lo hi count 1 bits bs with
      | error e => simp [hc, Except.map] at h
      | ok r =>
        obtain ⟨n, r⟩ := r
        simp only [hc, Except.map, Except.ok.injEq, Prod.mk.injEq] at h
        exact h.2 ▸ length_continuation hc

/-- Reads the bytes that start at `position`. -/
def decodeFrom (position : Nat) (bytes : List UInt8) : Except Fault (List Char) :=
  match bytes with
  | [] => .ok []
  | b :: rest =>
    match _h : decodeChar b rest with
    | .error (length, reason) => .error ⟨position, b, length, reason⟩
    | .ok (c, after) =>
      (decodeFrom (position + c.utf8Size) after).map (c :: ·)
termination_by bytes.length
decreasing_by
  have := length_decodeChar _h
  simp only [List.length_cons]
  omega

/-- The characters of a list of bytes. -/
def decode (bytes : List UInt8) : Except Fault (List Char) := decodeFrom 0 bytes

/-! ## Faults in words -/

/-- The reason in words. -/
def Reason.message : Reason → String
  | .startByte => "invalid start byte"
  | .continuationByte => "invalid continuation byte"
  | .endOfData => "unexpected end of data"

/-- The fault in words: a lone byte is shown, longer sequences are located. -/
def Fault.message (f : Fault) : String :=
  let subject :=
    if f.length = 1 then
      "byte 0x" ++ .ofList (Nat.toDigits 16 f.byte.toNat) ++ " in position " ++ toString f.position
    else
      "bytes in position " ++ toString f.position ++ "-" ++ toString (f.position + f.length - 1)
  "'utf-8' codec can't decode " ++ subject ++ ": " ++ f.reason.message

end ToolSites.Text.Utf8
