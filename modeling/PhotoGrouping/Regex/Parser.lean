import PhotoGrouping.Regex.BracketClass
import PhotoGrouping.Text.Alphabet

namespace PhotoGrouping.Regex

open Text

/-- An expression with the depth to which its text nests. -/
structure Node where
  expr : Expr
  depth : Nat
  deriving Repr, DecidableEq

/-- One item of a branch: an expression, or a change of settings, which cannot be repeated. -/
inductive Piece
  | node (n : Node)
  | setting
  deriving Repr, DecidableEq

namespace Piece

def expr? : Piece → Option Expr
  | .node n => some n.expr
  | .setting => none

def depth : Piece → Nat
  | .node n => n.depth
  | .setting => 0

end Piece

/-- A group whose end has not been read: its index if it captures, and what surrounds it. -/
structure OpenGroup where
  index : Option Nat
  flags : Flags
  branch : List Piece
  branches : List Node
  deriving Repr, DecidableEq

/-- What has been read of a pattern: the current branch and the finished branches before it, both
from their ends, and the open groups from the innermost. -/
structure ParseState where
  flags : Flags
  branch : List Piece := []
  branches : List Node := []
  outer : List OpenGroup := []
  captures : Nat := 0
  names : List (List Char) := []
  deriving Repr, DecidableEq

namespace ParseState

/-- The state with a further piece on the current branch. -/
def push (st : ParseState) (p : Piece) : ParseState :=
  { st with branch := p :: st.branch }

/-- The state with a further expression of nesting depth zero. -/
def pushLeaf (st : ParseState) (r : Expr) : ParseState :=
  st.push (.node ⟨r, 0⟩)

def branchNode (st : ParseState) : Node :=
  let deepest := (st.branch.map Piece.depth).foldl max 0
  ⟨Expr.catOf (st.branch.reverse.filterMap Piece.expr?),
    if st.branch.length < 2 then deepest else deepest + 1⟩

/-- The expression of the current group: its branches as alternatives. -/
def groupNode (st : ParseState) : Node :=
  match st.branches with
  | [] => st.branchNode
  | _ :: _ =>
    let all := st.branches.reverse ++ [st.branchNode]
    ⟨Expr.altOf (all.map (·.expr)), (all.map (·.depth)).foldl max 0 + 1⟩

/-- The state after `|`. -/
def nextBranch (st : ParseState) : ParseState :=
  { st with branch := [], branches := st.branchNode :: st.branches }

/-- The state inside a new group, which captures if it has an index. -/
def enter (st : ParseState) (index : Option Nat) (flags : Flags) : ParseState :=
  { st with
    flags := flags, branch := [], branches := [],
    outer := ⟨index, st.flags, st.branch, st.branches⟩ :: st.outer }

def enterCapture (st : ParseState) : ParseState :=
  { st.enter (some (st.captures + 1)) st.flags with captures := st.captures + 1 }

def leave (st : ParseState) : Except ParseError ParseState :=
  match st.outer with
  | [] => .error .unopenedGroup
  | g :: outer =>
    let inner := st.groupNode
    let r := match g.index with
      | some i => .capture i inner.expr
      | none => inner.expr
    .ok { st with
      flags := g.flags, branch := .node ⟨r, inner.depth + 1⟩ :: g.branch,
      branches := g.branches, outer := outer }

/-- Whether the last piece is one that can be repeated. -/
def canRepeat (st : ParseState) : Bool :=
  match st.branch with
  | .node _ :: _ => true
  | _ => false

def repeatLast (st : ParseState) (least : Nat) (most : Option Nat) (greedy : Bool) :
    Except ParseError ParseState :=
  match st.branch with
  | .node n :: rest =>
    .ok { st with
      branch := .node ⟨.rep least most (greedy != st.flags.swapGreed) n.expr, n.depth + 1⟩ :: rest }
  | _ => .error .nothingToRepeat

theorem repeatLast_of_canRepeat_eq_false {st : ParseState} (h : st.canRepeat = false) (least : Nat)
    (most : Option Nat) (greedy : Bool) :
    st.repeatLast least most greedy = .error .nothingToRepeat := by
  unfold canRepeat at h
  unfold repeatLast
  split
  · rename_i n rest hbranch
    rw [hbranch] at h
    cases h
  · rfl

end ParseState

/-- The settings with one of them switched, by its letter. -/
def Flags.switch? (f : Flags) (on : Bool) : Char → Option Flags
  | 'i' => some { f with caseless := on }
  | 'm' => some { f with multiLine := on }
  | 's' => some { f with dotAll := on }
  | 'U' => some { f with swapGreed := on }
  | 'u' => some { f with unicode := on }
  | 'R' => some { f with crlf := on }
  | 'x' => some { f with verbose := on }
  | _ => none

/-- Letters of settings read so far, whether a `-` has switched to turning off, and whether it was
the last character. -/
structure FlagProgress where
  flags : Flags
  letters : List Char := []
  off : Bool := false
  dangling : Bool := false

/-- Reads letters of settings up to `:` or `)`; the answer says whether it was `:`. -/
def readFlags (p : FlagProgress) : List Char → Reading (FlagProgress × Bool)
  | [] => .error .unfinishedFlags
  | c :: cs =>
    if c == ':' || c == ')' then
      if p.dangling then .error .danglingNegation else .ok ((p, c == ':'), cs)
    else if c == '-' then
      if p.off then .error .repeatedNegation
      else readFlags { p with off := true, dangling := true } cs
    else match p.flags.switch? (!p.off) c with
      | none => .error .unknownFlag
      | some flags =>
        if p.letters.contains c then .error .repeatedFlag
        else readFlags { p with flags := flags, letters := c :: p.letters, dangling := false } cs

/-- Whether a character may occur in a group name, as its first character or later. -/
def isNameChar (first : Bool) (c : Char) : Bool :=
  c == '_' || (if first then isAlphabetic c
    else isAlphanumeric c || c == '.' || c == '[' || c == ']')

/-- Reads a group name up to `>`; the flag tells whether the first character is to come. -/
def readName : Bool → List Char → Reading (List Char)
  | _, [] => .error .unfinishedGroupName
  | first, c :: cs =>
    if c == '>' then .ok ([], cs)
    else if isNameChar first c then
      match readName false cs with
      | .error e => .error e
      | .ok (name, rest) => .ok (c :: name, rest)
    else .error .invalidGroupName

def openNamed (st : ParseState) (cs : List Char) : Reading ParseState :=
  match readName true cs with
  | .error e => .error e
  | .ok (name, rest) =>
    if name.isEmpty then .error .emptyGroupName
    else if st.names.contains name then .error .repeatedGroupName
    else .ok ({ st.enterCapture with names := name :: st.names }, rest)

/-- Reads the front of a group, or a change of settings, after `(`. -/
def openGroup (st : ParseState) (cs : List Char) : Reading ParseState :=
  match st.flags.skip cs with
  | '?' :: '=' :: _ | '?' :: '!' :: _ | '?' :: '<' :: '=' :: _ | '?' :: '<' :: '!' :: _ =>
    .error .unsupportedLookAround
  | '?' :: 'P' :: '<' :: rest | '?' :: '<' :: rest => openNamed st rest
  | ['?'] => .error .unclosedGroup
  | '?' :: rest =>
    match readFlags { flags := st.flags } rest with
    | .error e => .error e
    | .ok ((p, true), rest) => .ok (st.enter none p.flags, rest)
    | .ok ((p, false), rest) =>
      if p.letters.isEmpty then .error .nothingToRepeat
      else .ok ({ st with flags := p.flags, branch := .setting :: st.branch }, rest)
  | rest => .ok (st.enterCapture, rest)

/-- Whether a `?` at the front makes a repetition lazy, and the rest. -/
def readLazy : List Char → Bool × List Char
  | '?' :: rest => (true, rest)
  | cs => (false, cs)

/-- Reads the closing brace of a counted repetition whose bounds have been read. -/
def closeBounds (least : Nat) (most : Option Nat) : List Char → Reading (Nat × Option Nat)
  | [] => .error .unclosedCount
  | c :: rest =>
    if c == '}' then
      if most.all (least ≤ ·) then .ok ((least, most), rest) else .error .reversedCount
    else .error .interruptedCount

/-- Reads the upper bound of a counted repetition and its closing brace. -/
def readUpper (f : Flags) (least : Nat) (cs : List Char) : Reading (Nat × Option Nat) :=
  match readCount f cs with
  | (.error e, _) => .error e
  | (.ok most, rest) => closeBounds least (some most) rest

/-- Reads the bounds of a counted repetition behind the lower one, which may be none: that is told
only where something comes behind it. -/
def readMost (f : Flags) (least : Except ParseError Nat) : List Char → Reading (Nat × Option Nat)
  | [] => .error .unclosedCount
  | c :: rest =>
    if c == ',' then
      match f.skip rest, least with
      | [], _ => .error .unclosedCount
      | _, .error e => .error e
      | d :: rest, .ok least =>
        if d == '}' then closeBounds least none (d :: rest)
        else readUpper f least (d :: rest)
    else match least with
      | .error e => .error e
      | .ok least => closeBounds least (some least) (c :: rest)

/-- Reads the bounds of a counted repetition after `{`. -/
def readBounds (f : Flags) (cs : List Char) : Reading (Nat × Option Nat) :=
  match f.skip cs with
  | [] => .error .unclosedCount
  | c :: cs => readMost f (readCount f (c :: cs)).1 (readCount f (c :: cs)).2

/-- Reads a repetition of the last piece after its sign. -/
def readRepeat (st : ParseState) (least : Nat) (most : Option Nat) (cs : List Char) :
    Reading ParseState :=
  (st.repeatLast least most (!(readLazy cs).1)).map (·, (readLazy cs).2)

/-- Reads a counted repetition of the last piece after `{`. -/
def readCounted (st : ParseState) (cs : List Char) : Reading ParseState :=
  if st.canRepeat then
    match readBounds st.flags cs with
    | .error e => .error e
    | .ok ((least, most), rest) => readRepeat st least most (st.flags.skip rest)
  else .error .nothingToRepeat

/-- The expression of a character that stands for itself. -/
def Flags.literal (f : Flags) (c : Char) : Expr :=
  .oneOf (f.folded (.single c))

def Flags.dot (f : Flags) : Except ParseError Expr :=
  if !f.unicode then .error .halfCharacters
  else if f.dotAll then .ok (.oneOf .always)
  else if f.crlf then .ok (.oneOf (.compl (.ofChars ['\r', '\n'])))
  else .ok (.oneOf (.compl (.single '\n')))

def Flags.caret (f : Flags) : Assertion :=
  if f.multiLine then (if f.crlf then .crlfLineStart else .lineStart) else .textStart

def Flags.dollar (f : Flags) : Assertion :=
  if f.multiLine then (if f.crlf then .crlfLineEnd else .lineEnd) else .textEnd

def Flags.escaped (f : Flags) : EscapeSequence → Expr
  | .literal c => f.literal c
  | .set s => .oneOf s
  | .look a => .look a

/-- Reads one item of a pattern, whose first character is given. -/
def readItem (st : ParseState) (c : Char) (cs : List Char) : Reading ParseState :=
  match c with
  | '(' => openGroup st cs
  | ')' => st.leave.map (·, cs)
  | '|' => .ok (st.nextBranch, cs)
  | '[' =>
    match readClass st.flags cs with
    | .error e => .error e
    | .ok (m, rest) => .ok (st.push (.node ⟨.oneOf m.set, m.depth⟩), rest)
  | '?' => readRepeat st 0 (some 1) cs
  | '*' => readRepeat st 0 none cs
  | '+' => readRepeat st 1 none cs
  | '{' => readCounted st cs
  | '\\' =>
    match readEscape st.flags cs with
    | .error e => .error e
    | .ok (e, rest) => .ok (st.pushLeaf (st.flags.escaped e), rest)
  | '.' => st.flags.dot.map fun r => (st.pushLeaf r, cs)
  | '^' => .ok (st.pushLeaf (.look st.flags.caret), cs)
  | '$' => .ok (st.pushLeaf (.look st.flags.dollar), cs)
  | c => .ok (st.pushLeaf (st.flags.literal c), cs)

private theorem map_rest {α : Type} {x : Except ParseError α} {g : α → ParseState}
    {rest r : List Char} {st : ParseState} (h : x.map (fun a => (g a, rest)) = .ok (st, r)) :
    r = rest := by
  cases x with
  | error e => cases h
  | ok t => cases h; rfl

private theorem readLazy_length_le (cs : List Char) : (readLazy cs).2.length ≤ cs.length := by
  unfold readLazy
  split
  · exact Nat.le_succ _
  · exact Nat.le_refl _

private theorem readFlags_length_le {p q : FlagProgress} {b : Bool} {cs r : List Char}
    (h : readFlags p cs = .ok ((q, b), r)) : r.length ≤ cs.length := by
  induction cs generalizing p with
  | nil => cases h
  | cons c cs ih =>
    rw [readFlags] at h
    split at h
    · split at h
      · cases h
      · cases h
        exact Nat.le_succ _
    · split at h
      · split at h
        · cases h
        · exact Nat.le_succ_of_le (ih h)
      · split at h
        · cases h
        · split at h
          · cases h
          · exact Nat.le_succ_of_le (ih h)

private theorem readName_length_le {first : Bool} {cs name r : List Char}
    (h : readName first cs = .ok (name, r)) : r.length ≤ cs.length := by
  induction cs generalizing first name with
  | nil => cases h
  | cons c cs ih =>
    rw [readName] at h
    split at h
    · cases h
      exact Nat.le_succ _
    · split at h
      · split at h
        · cases h
        · rename_i hn
          cases h
          exact Nat.le_succ_of_le (ih hn)
      · cases h

private theorem openNamed_length_le {st st' : ParseState} {cs r : List Char}
    (h : openNamed st cs = .ok (st', r)) : r.length ≤ cs.length := by
  unfold openNamed at h
  split at h
  · cases h
  · rename_i hn
    split at h
    · cases h
    · split at h
      · cases h
      · cases h
        exact readName_length_le hn

private theorem openGroup_length_le {st st' : ParseState} {cs r : List Char}
    (h : openGroup st cs = .ok (st', r)) : r.length ≤ cs.length := by
  have hs := st.flags.skip_length_le cs
  unfold openGroup at h
  split at h
  case h_1 | h_2 | h_3 | h_4 => cases h
  case h_5 rest hc =>
    have h1 := openNamed_length_le h
    simp only [hc, List.length_cons] at hs
    omega
  case h_6 rest hc =>
    have h1 := openNamed_length_le h
    simp only [hc, List.length_cons] at hs
    omega
  case h_7 => cases h
  case h_8 rest _ _ _ _ _ _ _ hc =>
    simp only [hc, List.length_cons] at hs
    split at h
    · cases h
    · rename_i hf
      have h1 := readFlags_length_le hf
      cases h
      omega
    · rename_i hf
      have h1 := readFlags_length_le hf
      split at h
      · cases h
      · cases h
        omega
  case h_9 =>
    cases h
    exact hs

private theorem closeBounds_length_le {least : Nat} {most : Option Nat} {cs r : List Char}
    {b : Nat × Option Nat} (h : closeBounds least most cs = .ok (b, r)) : r.length ≤ cs.length := by
  unfold closeBounds at h
  split at h
  · cases h
  · split at h
    · split at h
      · cases h
        exact Nat.le_succ _
      · cases h
    · cases h

private theorem readUpper_length_le {f : Flags} {least : Nat} {cs r : List Char}
    {b : Nat × Option Nat} (h : readUpper f least cs = .ok (b, r)) : r.length ≤ cs.length := by
  have hm := readCount_length_le f cs
  unfold readUpper at h
  split at h
  · cases h
  · rename_i hcount
    simp only [hcount] at hm
    exact Nat.le_trans (closeBounds_length_le h) hm

private theorem readMost_length_le {f : Flags} {least : Except ParseError Nat} {cs r : List Char}
    {b : Nat × Option Nat} (h : readMost f least cs = .ok (b, r)) : r.length ≤ cs.length := by
  unfold readMost at h
  split at h
  · cases h
  · rename_i c rest
    have hs := f.skip_length_le rest
    split at h
    · split at h
      · cases h
      · cases h
      · rename_i d rest' least hd
        rw [hd] at hs
        rw [List.length_cons]
        split at h
        · have := closeBounds_length_le h
          omega
        · have := readUpper_length_le h
          omega
    · split at h
      · cases h
      · exact closeBounds_length_le h

private theorem readBounds_length_le {f : Flags} {cs r : List Char} {b : Nat × Option Nat}
    (h : readBounds f cs = .ok (b, r)) : r.length ≤ cs.length := by
  have hs := f.skip_length_le cs
  unfold readBounds at h
  split at h
  · cases h
  · rename_i c rest hc
    have h1 := readCount_length_le f (c :: rest)
    have h2 := readMost_length_le h
    rw [hc] at hs
    omega

private theorem readCounted_length_le {st st' : ParseState} {cs r : List Char}
    (h : readCounted st cs = .ok (st', r)) : r.length ≤ cs.length := by
  unfold readCounted at h
  split at h
  · split at h
    · cases h
    · rename_i rest hb
      have h1 := readBounds_length_le hb
      have h2 := st.flags.skip_length_le rest
      have h3 := readLazy_length_le (st.flags.skip rest)
      rw [map_rest h]
      omega
  · cases h

/-- Reading an item never gives text back. -/
theorem readItem_length_le {st st' : ParseState} {c : Char} {cs r : List Char}
    (h : readItem st c cs = .ok (st', r)) : r.length ≤ cs.length := by
  unfold readItem at h
  split at h
  case h_1 => exact openGroup_length_le h
  case h_2 => exact Nat.le_of_eq (congrArg List.length (map_rest h))
  case h_4 =>
    split at h
    · cases h
    · rename_i hm
      cases h
      exact Nat.le_of_lt (readClass_length_lt hm)
  case h_5 | h_6 | h_7 =>
    rw [map_rest h]
    exact readLazy_length_le cs
  case h_8 => exact readCounted_length_le h
  case h_9 =>
    split at h
    · cases h
    · rename_i he
      cases h
      exact Nat.le_of_lt (readEscape_length_lt he)
  case h_10 => exact Nat.le_of_eq (congrArg List.length (map_rest h))
  all_goals (cases h; exact Nat.le_refl _)

def parseFrom (st : ParseState) (cs : List Char) : Except ParseError ParseState :=
  match _hc : st.flags.skip cs with
  | [] => .ok st
  | c :: rest =>
    match _hi : readItem st c rest with
    | .error e => .error e
    | .ok (st', rest') => parseFrom st' rest'
  termination_by cs.length
  decreasing_by
    have h1 := st.flags.skip_length_le cs
    have h2 := readItem_length_le ‹_›
    rw [‹st.flags.skip cs = _›, List.length_cons] at h1
    omega

/-- How deep brackets, groups and repetitions may nest. -/
def maxDepth : Nat := 250

/-- The expression of a pattern that has been read to its end. -/
def ParseState.finish (st : ParseState) : Except ParseError Expr :=
  match st.outer with
  | _ :: _ => .error .unclosedGroup
  | [] =>
    let n := st.groupNode
    if n.depth > maxDepth then .error .tooDeep else .ok n.expr

end PhotoGrouping.Regex
