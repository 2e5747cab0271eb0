namespace PhotoGrouping.Text.Utf8

def isContinuation (b : UInt8) : Bool :=
  0x80 ≤ b && b ≤ 0xBF

/-- Whether a byte may stand second after a leading byte of a character of three or four bytes. -/
def isSecond (lead b : UInt8) : Bool :=
  if lead = 0xE0 then 0xA0 ≤ b && b ≤ 0xBF
  else if lead = 0xED then 0x80 ≤ b && b ≤ 0x9F
  else if lead = 0xF0 then 0x90 ≤ b && b ≤ 0xBF
  else if lead = 0xF4 then 0x80 ≤ b && b ≤ 0x8F
  else isContinuation b

/-- The six payload bits of a continuation byte, after those already read. -/
def extend (n : Nat) (b : UInt8) : Nat :=
  n * 64 + (b.toNat - 0x80)

/-- One decoded piece: a character, or nothing for a maximal ill-formed run, and how many bytes
beyond the first it takes. -/
structure Piece where
  char? : Option Char
  more : Nat

def firstPiece (b : UInt8) (rest : List UInt8) : Piece :=
  if b < 0x80 then ⟨some (Char.ofNat b.toNat), 0⟩
  else if 0xC2 ≤ b && b ≤ 0xDF then
    match rest with
    | c :: _ =>
      if isContinuation c then ⟨some (Char.ofNat (extend (b.toNat - 0xC0) c)), 1⟩ else ⟨none, 0⟩
    | [] => ⟨none, 0⟩
  else if 0xE0 ≤ b && b ≤ 0xEF then
    match rest with
    | c :: rest =>
      if isSecond b c then
        match rest with
        | d :: _ =>
          if isContinuation d then
            ⟨some (Char.ofNat (extend (extend (b.toNat - 0xE0) c) d)), 2⟩
          else ⟨none, 1⟩
        | [] => ⟨none, 1⟩
      else ⟨none, 0⟩
    | [] => ⟨none, 0⟩
  else if 0xF0 ≤ b && b ≤ 0xF4 then
    match rest with
    | c :: rest =>
      if isSecond b c then
        match rest with
        | d :: rest =>
          if isContinuation d then
            match rest with
            | e :: _ =>
              if isContinuation e then
                ⟨some (Char.ofNat (extend (extend (extend (b.toNat - 0xF0) c) d) e)), 3⟩
              else ⟨none, 2⟩
            | [] => ⟨none, 2⟩
          else ⟨none, 1⟩
        | [] => ⟨none, 1⟩
      else ⟨none, 0⟩
    | [] => ⟨none, 0⟩
  else ⟨none, 0⟩

/-- The bytes as characters, with nothing for each maximal ill-formed run. -/
def pieces : List UInt8 → List (Option Char)
  | [] => []
  | b :: rest =>
    let p := firstPiece b rest
    p.char? :: pieces (rest.drop p.more)
  termination_by bytes => bytes.length
  decreasing_by
    simp only [List.length_drop, List.length_cons]
    omega

/-- The text of the bytes, if all of them are well formed. -/
def decode? (bytes : List UInt8) : Option String :=
  ((pieces bytes).mapM id).map String.ofList

/-- The text of the bytes, with U+FFFD in place of each maximal ill-formed run. -/
def decodeLossy (bytes : List UInt8) : String :=
  String.ofList ((pieces bytes).map (·.getD '\ufffd'))

theorem pieces_nil : pieces [] = [] := by
  rw [pieces]

def encode (s : String) : List UInt8 :=
  s.toUTF8.toList

end PhotoGrouping.Text.Utf8
