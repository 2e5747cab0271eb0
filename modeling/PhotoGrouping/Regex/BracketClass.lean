import PhotoGrouping.Regex.EscapeSequence

namespace PhotoGrouping.Regex

open Text

/-- An operation between the sets of a bracketed class. -/
inductive SetOperation
  | inter
  | diff
  | symmDiff
  deriving Repr, DecidableEq

def SetOperation.apply : SetOperation → CharClass → CharClass → CharClass
  | .inter, s, t => .inter s t
  | .diff, s, t => s.diff t
  | .symmDiff, s, t => s.symmDiff t

/-- A set with the depth to which its text nests. -/
structure ClassMember where
  set : CharClass
  depth : Nat
  deriving Repr, DecidableEq

/-- One open bracket: what it has read since the last operation, and the operation and its first
operand. -/
structure ClassLevel where
  negated : Bool
  pending : Option (SetOperation × ClassMember)
  members : List ClassMember
  deriving Repr, DecidableEq

namespace ClassLevel

def add (l : ClassLevel) (m : ClassMember) : ClassLevel :=
  { l with members := l.members ++ [m] }

/-- The union of the members since the last operation. -/
def operand (l : ClassLevel) : ClassMember :=
  match l.members with
  | [] => ⟨.never, 0⟩
  | [m] => m
  | ms => ⟨.unionOf (ms.map (·.set)), 1 + (ms.map (·.depth)).foldl max 0⟩

/-- The set read so far, with the operation that waits for its second operand carried out. -/
def total (f : Flags) (l : ClassLevel) : ClassMember :=
  match l.pending with
  | none => l.operand
  | some (op, lhs) =>
    let rhs := l.operand
    ⟨op.apply (f.folded lhs.set) (f.folded rhs.set), 1 + max lhs.depth rhs.depth⟩

def operate (f : Flags) (op : SetOperation) (l : ClassLevel) : ClassLevel :=
  { l with pending := some (op, l.total f), members := [] }

def close (f : Flags) (l : ClassLevel) : Except ParseError ClassMember :=
  let m := l.total f
  match negatedClass f l.negated (f.folded m.set) with
  | .error e => .error e
  | .ok s => .ok ⟨s, m.depth + 1⟩

end ClassLevel

/-- The ASCII classes that a name between `[:` and `:]` stands for. -/
def asciiClass? (name : String) : Option CharClass :=
  match name with
  | "alnum" => some (.unionOf [.range '0' '9', .range 'A' 'Z', .range 'a' 'z'])
  | "alpha" => some (.unionOf [.range 'A' 'Z', .range 'a' 'z'])
  | "ascii" => some (.range '\x00' '\x7f')
  | "blank" => some (.unionOf [.single '\t', .single ' '])
  | "cntrl" => some (.unionOf [.range '\x00' '\x1f', .single '\x7f'])
  | "digit" => some (.range '0' '9')
  | "graph" => some (.range '!' '~')
  | "lower" => some (.range 'a' 'z')
  | "print" => some (.range ' ' '~')
  | "punct" => some (.unionOf [.range '!' '/', .range ':' '@', .range '[' '\x60', .range '\x7b' '~'])
  | "space" => some (.unionOf [.range '\t' '\r', .single ' '])
  | "upper" => some (.range 'A' 'Z')
  | "word" => some (.unionOf [.range '0' '9', .range 'A' 'Z', .range 'a' 'z', .single '_'])
  | "xdigit" => some (.unionOf [.range '0' '9', .range 'A' 'F', .range 'a' 'f'])
  | _ => none

theorem isLower_of_asciiClass? {name : List Char} {s : CharClass}
    (h : asciiClass? (String.ofList name) = some s) : ∀ c ∈ name, c.isLower = true := by
  have hname : ∀ t : String, t.toList.all Char.isLower = true → String.ofList name = t →
      ∀ c ∈ name, c.isLower = true := by
    rintro t ht rfl
    rw [String.toList_ofList] at ht
    exact List.all_eq_true.mp ht
  unfold asciiClass? at h
  split at h
  case h_15 => cases h
  all_goals
    rename_i heq
    refine hname _ ?_ heq
    decide

/-- An ASCII class after its opening bracket, if there is one: `:name:]` or `:^name:]`. -/
def asciiClassAt? (cs : List Char) : Option (Bool × CharClass × List Char) :=
  match cs with
  | ':' :: cs =>
    let (negated, cs) := match cs with
      | '^' :: cs => (true, cs)
      | cs => (false, cs)
    match cs.dropWhile (· != ':') with
    | ':' :: ']' :: rest =>
      (asciiClass? (String.ofList (cs.takeWhile (· != ':')))).map (negated, ·, rest)
    | _ => none
  | _ => none

/-- Reads the `-` that open a bracket and stand for themselves. -/
def readDashes (f : Flags) (l : ClassLevel) (cs : List Char) : ClassLevel × List Char :=
  match cs with
  | '-' :: rest => readDashes f (l.add ⟨.single '-', 0⟩) (f.skip rest)
  | _ => (l, cs)
  termination_by cs.length
  decreasing_by
    have := f.skip_length_le rest
    simp only [List.length_cons]
    omega

/-- Reads the front of a bracket after `[`: a negation, then the `-` or the one `]` that stand for
themselves there. -/
def openBracket (f : Flags) (cs : List Char) : ClassLevel × List Char :=
  let (negated, cs) := match f.skip cs with
    | '^' :: cs => (true, f.skip cs)
    | cs => (false, cs)
  match readDashes f ⟨negated, none, []⟩ cs with
  | (l, cs) =>
    match l.members, cs with
    | [], ']' :: cs => (l.add ⟨.single ']', 0⟩, cs)
    | _, _ => (l, cs)

/-- The character that the text after a `-` shows; a comment hides only its sign. -/
def visibleAfterDash (f : Flags) (cs : List Char) : Option Char :=
  if f.verbose then
    let shown := cs.dropWhile isBlank
    let shown := match shown with
      | '#' :: rest => rest.dropWhile isBlank
      | _ => shown
    shown.head? <|> cs.head?
  else cs.head?

/-- Reads one end of a range or a member that is no range, whose first character is given. -/
def readClassAtom (f : Flags) (c : Char) (cs : List Char) : Reading EscapeSequence :=
  if c == '\\' then readEscape f cs else .ok (.literal c, cs)

/-- The character of a class atom that must be a single one; the error says what it is else. -/
def classLiteral (f : Flags) (otherwise : ParseError) : EscapeSequence → Except ParseError Char
  | .literal c => if f.unicode || c.toNat < 128 then .ok c else .error .unicodeNotAllowed
  | _ => .error otherwise

/-- The set of a class atom that is no end of a range. -/
def classAtomSet (f : Flags) : EscapeSequence → Except ParseError CharClass
  | .set s => .ok s
  | e => (classLiteral f .invalidClassMember e).map .single

def classRange (f : Flags) (lo hi : EscapeSequence) : Except ParseError CharClass :=
  match classLiteral f .rangeOfClass lo, classLiteral f .rangeOfClass hi with
  | .ok a, .ok b => if a ≤ b then .ok (.range a b) else .error .reversedRange
  | .error e, _ => .error e
  | _, .error e => .error e

/-- Reads a range or a single member, whose first character is given. -/
def readMember (f : Flags) (c : Char) (cs : List Char) : Reading CharClass :=
  match readClassAtom f c cs with
  | .error e => .error e
  | .ok (lo, rest) =>
    match f.skip rest with
    | [] => .error .unclosedClass
    | '-' :: after =>
      if visibleAfterDash f after == some ']' || visibleAfterDash f after == some '-' then
        (classAtomSet f lo).map (·, '-' :: after)
      else match f.skip after with
        | [] => .error .unclosedClass
        | d :: rest =>
          match readClassAtom f d rest with
          | .error e => .error e
          | .ok (hi, rest) => (classRange f lo hi).map (·, rest)
    | rest => (classAtomSet f lo).map (·, rest)

private theorem map_pair_eq_ok {x : Except ParseError CharClass} {rest r : List Char}
    {s : CharClass} (h : x.map (·, rest) = .ok (s, r)) : r = rest := by
  cases x with
  | error e => cases h
  | ok t => cases h; rfl

private theorem readClassAtom_length_le {f : Flags} {c : Char} {cs r : List Char}
    {e : EscapeSequence} (h : readClassAtom f c cs = .ok (e, r)) : r.length ≤ cs.length := by
  unfold readClassAtom at h
  split at h
  · exact Nat.le_of_lt (readEscape_length_lt h)
  · cases h
    exact Nat.le_refl _

theorem readMember_length_le {f : Flags} {c : Char} {cs r : List Char} {s : CharClass}
    (h : readMember f c cs = .ok (s, r)) : r.length ≤ cs.length := by
  unfold readMember at h
  split at h
  · cases h
  · rename_i lo rest hlo
    have h1 := readClassAtom_length_le hlo
    have h2 := f.skip_length_le rest
    split at h
    · cases h
    · rename_i after ha
      rw [ha, List.length_cons] at h2
      split at h
      · rw [map_pair_eq_ok h, List.length_cons]
        omega
      · have h3 := f.skip_length_le after
        split at h
        · cases h
        · rename_i d rest' hd
          rw [hd, List.length_cons] at h3
          split at h
          · cases h
          · rename_i hi rest'' hhi
            have h4 := readClassAtom_length_le hhi
            rw [map_pair_eq_ok h]
            omega
    · rw [map_pair_eq_ok h]
      omega

theorem readDashes_length_le (f : Flags) (l : ClassLevel) (cs : List Char) :
    (readDashes f l cs).2.length ≤ cs.length := by
  fun_induction readDashes f l cs with
  | case1 l rest ih =>
    have := f.skip_length_le rest
    simp only [List.length_cons]
    omega
  | case2 l cs h => exact Nat.le_refl _

theorem openBracket_length_le (f : Flags) (cs : List Char) :
    (openBracket f cs).2.length ≤ cs.length := by
  have hs := f.skip_length_le cs
  have hn : ∀ (x : Bool × List Char), x.2.length ≤ cs.length →
      (match readDashes f ⟨x.1, none, []⟩ x.2 with
        | (l, cs) =>
          match l.members, cs with
          | [], ']' :: cs => (l.add ⟨.single ']', 0⟩, cs)
          | _, _ => (l, cs)).2.length ≤ cs.length := by
    intro x hx
    have hd := readDashes_length_le f ⟨x.1, none, []⟩ x.2
    cases hr : readDashes f ⟨x.1, none, []⟩ x.2 with
    | mk l rest =>
      rw [hr] at hd
      dsimp only at hd ⊢
      split
      · simp only [List.length_cons] at hd
        dsimp only
        omega
      · dsimp only
        omega
  unfold openBracket
  split
  rename_i negated cs' heq
  refine hn (negated, cs') ?_
  split at heq
  · rename_i cs'' hc
    have h2 := f.skip_length_le cs''
    rw [hc, List.length_cons] at hs
    cases heq
    dsimp only
    omega
  · cases heq
    exact hs

theorem asciiClassAt?_length_le {cs r : List Char} {b : Bool} {s : CharClass}
    (h : asciiClassAt? cs = some (b, s, r)) : r.length ≤ cs.length := by
  unfold asciiClassAt? at h
  split at h
  · rename_i cs'
    split at h
    rename_i negated cs'' heq
    have h1 : cs''.length ≤ cs'.length := by
      split at heq <;> cases heq
      · exact Nat.le_succ _
      · exact Nat.le_refl _
    have h2 := dropWhile_length_le (· != ':') cs''
    split at h
    · rename_i rest hd
      rw [hd] at h2
      simp only [List.length_cons] at h2 ⊢
      cases ha : asciiClass? (String.ofList (cs''.takeWhile (· != ':'))) with
      | none => simp [ha] at h
      | some t =>
        simp only [ha, Option.map_some, Option.some.injEq, Prod.mk.injEq] at h
        rw [← h.2.2]
        omega
    · cases h
  · cases h

/-- Reads on in a bracketed class, given the innermost open bracket and those around it. -/
def readClassBody (f : Flags) (l : ClassLevel) (outer : List ClassLevel) (cs : List Char) :
    Reading ClassMember :=
  match _hc : f.skip cs with
  | [] => .error .unclosedClass
  | '[' :: rest =>
    match _ha : asciiClassAt? rest with
    | some (negated, s, rest') =>
      match negatedClass f negated (f.folded s) with
      | .error e => .error e
      | .ok s => readClassBody f (l.add ⟨s, 0⟩) outer rest'
    | none => readClassBody f (openBracket f rest).1 (l :: outer) (openBracket f rest).2
  | ']' :: rest =>
    match l.close f with
    | .error e => .error e
    | .ok m =>
      match outer with
      | [] => .ok (m, rest)
      | o :: outer => readClassBody f (o.add m) outer rest
  | '&' :: '&' :: rest => readClassBody f (l.operate f .inter) outer rest
  | '-' :: '-' :: rest => readClassBody f (l.operate f .diff) outer rest
  | '~' :: '~' :: rest => readClassBody f (l.operate f .symmDiff) outer rest
  | c :: rest =>
    match _hm : readMember f c rest with
    | .error e => .error e
    | .ok (s, rest') => readClassBody f (l.add ⟨s, 0⟩) outer rest'
  termination_by cs.length
  decreasing_by
    all_goals
      have hs := f.skip_length_le cs
      rw [‹f.skip cs = _›] at hs
      simp only [List.length_cons] at hs
    · have := asciiClassAt?_length_le ‹_›
      omega
    · have := openBracket_length_le f rest
      omega
    · omega
    · omega
    · omega
    · omega
    · have := readMember_length_le ‹_›
      omega

/-- Reads a bracketed class after its opening bracket. -/
def readClass (f : Flags) (cs : List Char) : Reading ClassMember :=
  readClassBody f (openBracket f cs).1 [] (openBracket f cs).2

theorem readClassBody_length_lt {f : Flags} {l : ClassLevel} {outer : List ClassLevel}
    {cs r : List Char} {m : ClassMember} (h : readClassBody f l outer cs = .ok (m, r)) :
    r.length < cs.length := by
  fun_induction readClassBody f l outer cs generalizing m r with
  | case1 => cases h
  | case2 => cases h
  | case3 l outer cs rest hc negated s rest' ha s' hn ih =>
    have hs := f.skip_length_le cs
    have h1 := asciiClassAt?_length_le ha
    have h2 := ih h
    rw [hc, List.length_cons] at hs
    omega
  | case4 l outer cs rest hc ha ih =>
    have hs := f.skip_length_le cs
    have h1 := openBracket_length_le f rest
    have h2 := ih h
    rw [hc, List.length_cons] at hs
    omega
  | case5 => cases h
  | case6 l cs rest hc m' hm =>
    have hs := f.skip_length_le cs
    rw [hc, List.length_cons] at hs
    cases h
    omega
  | case7 l cs rest hc m' hm o outer ih =>
    have hs := f.skip_length_le cs
    have h1 := ih h
    rw [hc, List.length_cons] at hs
    omega
  | case8 l outer cs rest hc ih | case9 l outer cs rest hc ih | case10 l outer cs rest hc ih =>
    have hs := f.skip_length_le cs
    have h1 := ih h
    rw [hc, List.length_cons, List.length_cons] at hs
    omega
  | case11 => cases h
  | case12 l outer cs c rest _ _ _ _ _ hc s rest' hm ih =>
    have hs := f.skip_length_le cs
    have h1 := readMember_length_le hm
    have h2 := ih h
    rw [hc, List.length_cons] at hs
    omega

/-- Reading a bracketed class takes at least its closing bracket. -/
theorem readClass_length_lt {f : Flags} {cs r : List Char} {m : ClassMember}
    (h : readClass f cs = .ok (m, r)) : r.length < cs.length :=
  Nat.lt_of_lt_of_le (readClassBody_length_lt h) (openBracket_length_le f cs)

end PhotoGrouping.Regex
