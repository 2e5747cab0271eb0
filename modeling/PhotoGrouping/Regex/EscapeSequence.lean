import PhotoGrouping.Regex.Basic
import PhotoGrouping.Regex.Reading

namespace PhotoGrouping.Regex

open Text

/-- The characters that stand for themselves only after a backslash. -/
def metaChars : List Char :=
  ['\\', '.', '+', '*', '?', '(', ')', '|', '[', ']', '{', '}', '^', '$', '#', '&', '-', '~']

/-- Whether a character has a meaning of its own in patterns. -/
def isMeta (c : Char) : Bool :=
  metaChars.contains c

/-- Whether a backslash before a character makes it stand for itself. -/
def isEscapable (c : Char) : Bool :=
  isMeta c || (c.toNat < 128 && !c.isAlphanum && c != '<' && c != '>')

def escapeChars (cs : List Char) : List Char :=
  cs.flatMap fun c => if isMeta c then ['\\', c] else [c]

def escape (s : String) : String :=
  String.ofList (escapeChars s.toList)

/-- What a backslash sequence stands for. -/
inductive EscapeSequence
  | literal (c : Char)
  | set (s : CharClass)
  | look (a : Assertion)
  deriving Repr, DecidableEq

/-- The set that the letter of a class escape names, digits, words and white space being those of
ASCII unless patterns are about Unicode. -/
def perlClass (unicode : Bool) (c : Char) : CharClass :=
  match c with
  | 'd' => if unicode then .digit else .range '0' '9'
  | 's' =>
    if unicode then .blank else .union (.range '\t' '\r') (.single ' ')
  | _ =>
    if unicode then .word
    else .unionOf [.range '0' '9', .range 'A' 'Z', .range 'a' 'z', .single '_']

/-- The members of a set or, if negated, all others; without Unicode a complement would let in
half characters. -/
def negatedClass (f : Flags) (negated : Bool) (s : CharClass) : Except ParseError CharClass :=
  if !negated then .ok s
  else if f.unicode then .ok (.compl s)
  else .error .halfCharacters

/-- A set with the case variants of its members, if case does not count. -/
def Flags.folded (f : Flags) (s : CharClass) : CharClass :=
  if f.caseless then (if f.unicode then .caseless s else .asciiCaseless s) else s

/-- The property that a name has with a value, where a name of no property and a value that it does
not have are told apart. -/
def valuedProperty (name value : List Char) : Except ParseError Property :=
  match Property.valued? name value with
  | some p => .ok p
  | none =>
    if Property.takesValues name then .error .unknownPropertyValue else .error .unknownProperty

/-- The property of a name without a value, which is not denied. -/
def loneProperty (name : List Char) : Except ParseError (Property × Bool) :=
  match Property.named? name with
  | some p => .ok (p, false)
  | none => .error .unknownProperty

/-- The property of a braced name, which may be a name with `!=`, `:` or `=` and a value, and
whether it is denied. -/
def bracedProperty (name : List Char) : Except ParseError (Property × Bool) :=
  let rec splitUnequal : List Char → List Char → Option (List Char × List Char)
    | _, [] => none
    | before, '!' :: '=' :: rest => some (before.reverse, rest)
    | before, c :: rest => splitUnequal (c :: before) rest
  match splitUnequal [] name with
  | some (name, value) => (valuedProperty name value).map (·, true)
  | none =>
    let splitAt? (sep : Char) : Option (List Char × List Char) :=
      if name.contains sep then
        some (name.takeWhile (· != sep), (name.dropWhile (· != sep)).drop 1)
      else none
    match splitAt? ':' <|> splitAt? '=' with
    | some (name, value) => (valuedProperty name value).map (·, false)
    | none => loneProperty name

/-- The set of a property after `\p` or, negated, `\P`. -/
def propertySet (f : Flags) (negated : Bool) (property : Except ParseError (Property × Bool))
    (rest : List Char) : Reading EscapeSequence :=
  if !f.unicode then .error .unicodeNotAllowed
  else match property with
    | .error e => .error e
    | .ok (p, denied) =>
      let s := f.folded (.property p)
      .ok (.set (if negated != denied then .compl s else s), rest)

/-- Reads a property after `\p` or, negated, `\P`: one letter or a name in braces. -/
def readProperty (f : Flags) (negated : Bool) (cs : List Char) : Reading EscapeSequence :=
  match f.skip cs with
  | [] => .error .unfinishedEscape
  | '{' :: cs =>
    match readBraced f false false cs with
    | .error e => .error e
    | .ok (name, rest) => propertySet f negated (bracedProperty name) rest
  | '\\' :: _ => .error .invalidProperty
  | c :: cs => propertySet f negated (loneProperty [c]) (f.skip cs)

/-- The literal with a number. Two plain digits name a byte, which is a character of its own only
up to 127 when patterns are not about Unicode. -/
def numbered (f : Flags) (twoDigits : Bool) (digits rest : List Char) : Reading EscapeSequence :=
  if digits.isEmpty then .error .emptyHex
  else match charOfNumber? (hexNumber digits) with
    | none => .error .noSuchCharacter
    | some c =>
      if !f.unicode && twoDigits && hexNumber digits ≥ 128 then .error .halfCharacters
      else .ok (.literal c, rest)

/-- Reads the number of a character after `\x`, `\u` or `\U`, in so many digits or in braces. -/
def readNumber (f : Flags) (digits : Nat) (cs : List Char) : Reading EscapeSequence :=
  match f.skip cs with
  | [] => .error .unfinishedEscape
  | '{' :: cs =>
    match readBraced f true false cs with
    | .error e => .error e
    | .ok (text, rest) => numbered f false text (f.skip rest)
  | cs =>
    match readHexDigits f digits cs with
    | .error e => .error e
    | .ok (text, rest) => numbered f (digits = 2) text rest

/-- Whether a character may occur in the name of a word edge. -/
def isEdgeChar (c : Char) : Bool :=
  c.isAlpha || c == '-'

def wordEdge? (name : List Char) : Option WordEdge :=
  match String.ofList name with
  | "start" => some .start
  | "end" => some .stop
  | "start-half" => some .startHalf
  | "end-half" => some .stopHalf
  | _ => none

/-- Reads the closing brace of a word edge whose name has been read. -/
def closeWordEdge (name : List Char) : List Char → Reading WordEdge
  | [] => .error .unclosedWordEdge
  | c :: rest =>
    if c == '}' then
      match wordEdge? name with
      | some e => .ok (e, rest)
      | none => .error .unknownWordEdge
    else .error .interruptedWordEdge

/-- Reads a word edge after `\b`: a name in braces, or none when the braces do not hold one. -/
def readWordEdge (f : Flags) (cs : List Char) : Reading WordEdge :=
  match cs with
  | '{' :: rest =>
    match f.skip rest with
    | [] => .error .unfinishedWordEdge
    | c :: rest =>
      if isEdgeChar c then
        closeWordEdge (readWhile f isEdgeChar false (c :: rest)).1
          (readWhile f isEdgeChar false (c :: rest)).2
      else .ok (.either, cs)
  | _ => .ok (.either, cs)

def readEscape (f : Flags) : List Char → Reading EscapeSequence
  | [] => .error .unfinishedEscape
  | c :: cs =>
    let edge (e : WordEdge) : EscapeSequence := .look (.wordEdge e (!f.unicode))
    if c.isDigit then .error .unsupportedBackreference
    else if isEscapable c then .ok (.literal c, cs)
    else match c with
      | 'x' => readNumber f 2 cs
      | 'u' => readNumber f 4 cs
      | 'U' => readNumber f 8 cs
      | 'p' => readProperty f false cs
      | 'P' => readProperty f true cs
      | 'd' | 's' | 'w' => .ok (.set (perlClass f.unicode c), cs)
      | 'D' | 'S' | 'W' =>
        match negatedClass f true (perlClass f.unicode c.toLower) with
        | .error e => .error e
        | .ok s => .ok (.set s, cs)
      | 'a' => .ok (.literal '\x07', cs)
      | 'f' => .ok (.literal '\x0c', cs)
      | 't' => .ok (.literal '\t', cs)
      | 'n' => .ok (.literal '\n', cs)
      | 'r' => .ok (.literal '\r', cs)
      | 'v' => .ok (.literal '\x0b', cs)
      | 'A' => .ok (.look .textStart, cs)
      | 'z' => .ok (.look .textEnd, cs)
      | 'b' =>
        match readWordEdge f cs with
        | .error e => .error e
        | .ok (e, rest) => .ok (edge e, rest)
      | 'B' => .ok (edge .neither, cs)
      | '<' => .ok (edge .start, cs)
      | '>' => .ok (edge .stop, cs)
      | _ => .error .unknownEscape

private theorem numbered_rest {f : Flags} {b : Bool} {digits rest r : List Char}
    {e : EscapeSequence} (h : numbered f b digits rest = .ok (e, r)) : r = rest := by
  unfold numbered at h
  repeat' split at h
  all_goals (cases h <;> rfl)

private theorem propertySet_rest {f : Flags} {b : Bool} {p : Except ParseError (Property × Bool)}
    {rest r : List Char} {e : EscapeSequence} (h : propertySet f b p rest = .ok (e, r)) :
    r = rest := by
  unfold propertySet at h
  repeat' split at h
  all_goals (cases h <;> rfl)

private theorem readNumber_length_le {f : Flags} {n : Nat} {cs r : List Char}
    {e : EscapeSequence} (h : readNumber f n cs = .ok (e, r)) : r.length ≤ cs.length := by
  have hs := f.skip_length_le cs
  unfold readNumber at h
  split at h
  · cases h
  · rename_i cs' hc
    split at h
    · cases h
    · rename_i text rest hb
      have h1 := readBraced_length_le hb
      have h2 := f.skip_length_le rest
      rw [hc, List.length_cons] at hs
      rw [numbered_rest h]
      omega
  · split at h
    · cases h
    · rename_i text rest hv
      have h1 := readHexDigits_length_le hv
      rw [numbered_rest h]
      omega

private theorem readProperty_length_le {f : Flags} {b : Bool} {cs r : List Char}
    {e : EscapeSequence} (h : readProperty f b cs = .ok (e, r)) : r.length ≤ cs.length := by
  have hs := f.skip_length_le cs
  unfold readProperty at h
  split at h
  · cases h
  · rename_i cs' hc
    split at h
    · cases h
    · rename_i name rest hb
      have h1 := readBraced_length_le hb
      rw [hc, List.length_cons] at hs
      rw [propertySet_rest h]
      omega
  · cases h
  · rename_i c cs' _ _ hc
    have h2 := f.skip_length_le cs'
    rw [hc, List.length_cons] at hs
    rw [propertySet_rest h]
    omega

private theorem closeWordEdge_length_le {name cs r : List Char} {e : WordEdge}
    (h : closeWordEdge name cs = .ok (e, r)) : r.length ≤ cs.length := by
  unfold closeWordEdge at h
  split at h
  · cases h
  · split at h
    · split at h
      · cases h
        exact Nat.le_succ _
      · cases h
    · cases h

private theorem readWordEdge_length_le {f : Flags} {cs r : List Char} {e : WordEdge}
    (h : readWordEdge f cs = .ok (e, r)) : r.length ≤ cs.length := by
  unfold readWordEdge at h
  split at h
  · rename_i rest
    have hs := f.skip_length_le rest
    split at h
    · cases h
    · rename_i c rest' hc
      split at h
      · have hw := readWhile_length_le f isEdgeChar false (c :: rest')
        have hclose := closeWordEdge_length_le h
        rw [hc] at hs
        rw [List.length_cons]
        omega
      · cases h
        exact Nat.le_refl _
  · cases h
    exact Nat.le_refl _

/-- Reading a backslash sequence takes at least the character after the backslash. -/
theorem readEscape_length_lt {f : Flags} {cs r : List Char} {e : EscapeSequence}
    (h : readEscape f cs = .ok (e, r)) : r.length < cs.length := by
  cases cs with
  | nil => cases h
  | cons c cs =>
    rw [List.length_cons]
    unfold readEscape at h
    dsimp only at h
    split at h
    · cases h
    · split at h
      · cases h
        exact Nat.lt_succ_self _
      · split at h
        case h_1 => exact Nat.lt_succ_of_le (readNumber_length_le h)
        case h_2 => exact Nat.lt_succ_of_le (readNumber_length_le h)
        case h_3 => exact Nat.lt_succ_of_le (readNumber_length_le h)
        case h_4 => exact Nat.lt_succ_of_le (readProperty_length_le h)
        case h_5 => exact Nat.lt_succ_of_le (readProperty_length_le h)
        case h_20 =>
          split at h
          · cases h
          · rename_i hw
            cases h
            exact Nat.lt_succ_of_le (readWordEdge_length_le hw)
        all_goals try split at h
        all_goals (cases h <;> exact Nat.lt_succ_self _)

end PhotoGrouping.Regex
