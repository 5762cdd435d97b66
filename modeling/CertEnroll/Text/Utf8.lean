namespace CertEnroll.Text.Utf8

def encode (s : String) : List UInt8 :=
  s.toByteArray.data.toList

def decode (bytes : List UInt8) : Option String :=
  String.fromUTF8? ⟨bytes.toArray⟩

theorem decode_encode (s : String) : decode (encode s) = some s := by
  unfold decode String.fromUTF8?
  rw [show (⟨(encode s).toArray⟩ : ByteArray) = s.toByteArray by simp [encode], dif_pos s.isValidUTF8]
  rfl

theorem eq_encode_of_decode {bytes : List UInt8} {s : String} (h : decode bytes = some s) :
    bytes = encode s := by
  unfold decode String.fromUTF8? at h
  split at h
  · cases h; rfl
  · cases h

/-- What stands at the front: a character of `size` octets, or octets that cannot be part of one. `cut`
says that the end came before anything was wrong. -/
inductive Piece
  | char (c : Char) (size : Nat)
  | flaw (size : Nat) (cut : Bool)

def isContinuation (b : UInt8) : Bool :=
  0x80 ≤ b.toNat && b.toNat < 0xc0

def shape? (b : UInt8) : Option (Nat × Nat × Nat) :=
  let n := b.toNat
  if 0xc2 ≤ n ∧ n ≤ 0xdf then some (2, 0x80, 0xbf)
  else if n = 0xe0 then some (3, 0xa0, 0xbf)
  else if n = 0xed then some (3, 0x80, 0x9f)
  else if 0xe1 ≤ n ∧ n ≤ 0xef then some (3, 0x80, 0xbf)
  else if n = 0xf0 then some (4, 0x90, 0xbf)
  else if 0xf1 ≤ n ∧ n ≤ 0xf3 then some (4, 0x80, 0xbf)
  else if n = 0xf4 then some (4, 0x80, 0x8f)
  else none

def firstPiece (b : UInt8) (bytes : List UInt8) : Piece :=
  if b.toNat < 0x80 then .char (Char.ofNat b.toNat) 1
  else match shape? b, bytes with
    | none, _ => .flaw 1 false
    | some _, [] => .flaw 1 true
    | some (size, least, most), second :: rest =>
      if second.toNat < least ∨ most < second.toNat then .flaw 1 false
      else
        let more := (rest.take (size - 2)).takeWhile isContinuation
        if more.length = size - 2 then
          let start := b.toNat % Nat.pow 2 (7 - size)
          .char (Char.ofNat ((second :: more).foldl (fun n b => 64 * n + b.toNat % 64) start)) size
        else .flaw (2 + more.length) (rest.length = more.length)

def pieces : Nat → List UInt8 → List Piece
  | 0, _ | _ + 1, [] => []
  | fuel + 1, b :: bytes =>
    let piece := firstPiece b bytes
    let size := match piece with
      | .char _ size | .flaw size _ => size
    piece :: pieces fuel ((b :: bytes).drop size)

def decodeLossy (bytes : List UInt8) : String :=
  String.ofList <| (pieces bytes.length bytes).map fun
    | .char c _ => c
    | .flaw _ _ => '\ufffd'

def flawFrom (offset : Nat) : List Piece → Option String
  | [] => none
  | .char _ size :: rest => flawFrom (offset + size) rest
  | .flaw _ true :: _ => some s!"incomplete utf-8 byte sequence from index {offset}"
  | .flaw size false :: _ => some s!"invalid utf-8 sequence of {size} bytes from index {offset}"

def flaw? (bytes : List UInt8) : Option String :=
  flawFrom 0 (pieces bytes.length bytes)

def size (s : String) : Nat :=
  s.utf8ByteSize

end CertEnroll.Text.Utf8
