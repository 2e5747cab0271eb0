import PhotoGrouping.Toml.Reader
import PhotoGrouping.Proofs.Toml.Numbers
import PhotoGrouping.Proofs.Toml.Quotes

namespace PhotoGrouping.Toml

variable {c : Char} {cs rest after : List Char} {key text : String} {v : Value} {d d' : Draft}

/-- Whether a text that stands on a line up to its end, with blanks before it or without, writes a
value. -/
def Writes (text : String) (v : Value) : Prop :=
  ∀ rest, readValue maxNesting (skipBlanks (text.toList ++ '\n' :: rest)) = some (v, '\n' :: rest)

def IsBareKey (key : String) : Prop :=
  key.toList ≠ [] ∧ ∀ c ∈ key.toList, isKeyChar c = true

instance : Decidable (IsBareKey key) :=
  decidable_of_iff (key.toList ≠ [] ∧ key.toList.all isKeyChar = true) (by
    rw [List.all_eq_true, IsBareKey])

/-- Whether reading goes on from one draft to another one over a text. -/
def Draft.Reads (d : Draft) (text : String) (d' : Draft) : Prop :=
  ∀ rest, readLines d (text.toList ++ rest) = readLines d' rest

theorem Draft.Reads.empty (d : Draft) : d.Reads "" d :=
  fun _ => rfl

theorem Draft.Reads.append {text' : String} {d'' : Draft} (h : d.Reads text d')
    (h' : d'.Reads text' d'') : d.Reads (text ++ text') d'' := by
  intro rest
  rw [String.toList_append, List.append_assoc, h, h']

theorem skipBlanks_of_head? (hspace : cs.head? ≠ some ' ') (htab : cs.head? ≠ some '\t') :
    skipBlanks cs = cs := by
  cases cs with
  | nil => rfl
  | cons c cs =>
    have hc : c ≠ ' ' ∧ c ≠ '\t' := ⟨by simpa using hspace, by simpa using htab⟩
    exact List.dropWhile_cons_of_neg (by simp [hc])

/-- A quoted text begins with a quote. -/
theorem quoteAs_eq_cons (style : Style) (cs : List Char) :
    ∃ q ds, quoteAs style cs = q :: ds ∧ (q = '"' ∨ q = '\x27') := by
  cases style with
  | basic => exact ⟨_, _, rfl, Or.inl rfl⟩
  | literal => exact ⟨_, _, rfl, Or.inr rfl⟩
  | multiBasic => exact ⟨_, _, rfl, Or.inl rfl⟩
  | multiLiteral => exact ⟨_, _, rfl, Or.inr rfl⟩

theorem quote_append_eq_cons (s : String) (cs : List Char) :
    ∃ q ds, (quote s).toList ++ cs = q :: ds ∧ (q = '"' ∨ q = '\x27') := by
  obtain ⟨q, ds, heq, hq⟩ := quoteAs_eq_cons (styleOf s.toList) s.toList
  exact ⟨q, ds ++ cs, by rw [quote, String.toList_ofList, heq, List.cons_append], hq⟩

theorem readValue_quote (depth : Nat) (s : String) (rest : List Char) (hbasic : rest.head? ≠ some '"')
    (hliteral : rest.head? ≠ some '\x27') :
    readValue depth ((quote s).toList ++ rest) = some (.string s, rest) := by
  have hread := readQuoted_quoteAs s.toList hbasic hliteral
  obtain ⟨q, ds, heq, hq⟩ := quoteAs_eq_cons (styleOf s.toList) s.toList
  rw [quote, String.toList_ofList]
  rw [heq, List.cons_append] at hread ⊢
  obtain rfl | rfl := hq <;>
  · rw [readValue, readValue.text, hread, Option.map_some]
    dsimp only
    rw [String.ofList_toList]

theorem writes_quote (s : String) : Writes (quote s) (.string s) := by
  intro rest
  obtain ⟨q, ds, heq, hq⟩ := quote_append_eq_cons s ('\n' :: rest)
  rw [skipBlanks_of_head?, readValue_quote _ s _ (by simp) (by simp)]
  all_goals
    rw [heq]
    obtain rfl | rfl := hq <;> simp

theorem writes_scalar (hne : text.toList ≠ []) (hchars : ∀ c ∈ text.toList, isScalarChar c = true)
    (hread : scalar? text.toList = some v) : Writes text v := by
  intro rest
  have hsplit : splitScalar (text.toList ++ '\n' :: rest) = (text.toList, '\n' :: rest) :=
    splitScalar_line hchars
  cases hcs : text.toList with
  | nil => exact absurd hcs hne
  | cons c cs =>
    rw [hcs] at hsplit hread
    have hc := hchars c (hcs ▸ List.mem_cons_self)
    have hother (d : Char) (hd : isScalarChar d = false) (ds es : List Char) : c :: ds ≠ d :: es := by
      rintro heq
      rw [(List.cons.inj heq).1, hd] at hc
      exact Bool.noConfusion hc
    have hblank (d : Char) (hd : isScalarChar d = false) :
        (c :: cs ++ '\n' :: rest).head? ≠ some d := by
      intro heq
      exact hother d hd [] [] (congrArg (fun c => [c]) (Option.some.inj heq))
    rw [skipBlanks_of_head? (hblank ' ' (by decide)) (hblank '\t' (by decide)), List.cons_append]
    rw [List.cons_append] at hsplit
    rw [readValue, hsplit]
    · dsimp only
      rw [hread, Option.map_some]
    · exact fun _ => hother '"' (by decide) _ _
    · exact fun _ => hother '\x27' (by decide) _ _
    · exact fun _ _ _ => hother '[' (by decide) _ _
    · exact fun _ _ _ => hother '\x7b' (by decide) _ _

theorem writes_boolean (b : Bool) : Writes (if b then "true" else "false") (.boolean b) := by
  cases b with
  | false => exact writes_scalar (by decide) (List.all_eq_true.mp (by decide)) (by rfl)
  | true => exact writes_scalar (by decide) (List.all_eq_true.mp (by decide)) (by rfl)

theorem writes_toString {n : Int} (hlow : -9223372036854775808 ≤ n)
    (hhigh : n < 9223372036854775808) :
    Writes (toString n) (.integer n) := by
  refine writes_scalar ?_ (isScalarChar_toString n) (scalar?_toString hlow hhigh)
  rw [toList_toString]
  split_ifs
  · exact Nat.toDigits_ne_nil
  · exact List.cons_ne_nil _ _

theorem skipLines_of_ne (h : c ≠ ' ' ∧ c ≠ '\t' ∧ c ≠ '\n' ∧ c ≠ '\r' ∧ c ≠ '#') :
    skipLines false (c :: cs) = some (c :: cs) := by
  rw [skipLines.eq_def]
  split <;> simp_all

/-- A text in a list, up to the bracket or comma after it. -/
theorem readItems_quote (depth : Nat) (s : String) (cs : List Char)
    (hcs : skipLines false cs = some ((quote s).toList ++ c :: rest)) (hc : c = ']' ∨ c = ',')
    (hlength : rest.length < cs.length) :
    readItems (readValue depth) cs =
      if c = ']' then some ([.string s], rest)
      else (readItems (readValue depth) rest).map fun (vs, rest) => (.string s :: vs, rest) := by
  obtain ⟨q, ds, heq, hq⟩ := quote_append_eq_cons s (c :: rest)
  have hitem := readValue_quote depth s (c :: rest)
    (by obtain rfl | rfl := hc <;> simp) (by obtain rfl | rfl := hc <;> simp)
  have hbracket (es : List Char) : (quote s).toList ++ c :: rest ≠ ']' :: es := by
    rw [heq]
    obtain rfl | rfl := hq <;> simp
  have hafter : skipLines false (c :: rest) = some (c :: rest) := by
    obtain rfl | rfl := hc <;> rfl
  rw [readItems, hcs]
  split
  · next h => cases h
  · next h => exact absurd (Option.some.inj h) (hbracket _)
  · next h =>
    rw [← Option.some.inj h, hitem]
    dsimp only
    rw [hafter]
    obtain rfl | rfl := hc
    · rfl
    · exact if_pos hlength

/-- The items of a list on lines of their own. -/
theorem readItems_lines (depth : Nat) (ss : List String) (rest : List Char) :
    readItems (readValue depth)
        ('\n' :: ((String.join (ss.map fun s => "    " ++ quote s ++ ",\n")).toList ++ ']' :: rest)) =
      some (ss.map .string, rest) := by
  induction ss with
  | nil =>
    rw [readItems]
    rfl
  | cons s ss ih =>
    set after := (String.join (ss.map fun s => "    " ++ quote s ++ ",\n")).toList ++ ']' :: rest
      with hafter
    have hcs : (String.join ((s :: ss).map fun s => "    " ++ quote s ++ ",\n")).toList ++ ']' :: rest =
        ' ' :: ' ' :: ' ' :: ' ' :: ((quote s).toList ++ ',' :: '\n' :: after) := by
      simp [hafter, String.toList_append]
    have hskip : skipLines false
        ('\n' :: ' ' :: ' ' :: ' ' :: ' ' :: ((quote s).toList ++ ',' :: '\n' :: after)) =
          some ((quote s).toList ++ ',' :: '\n' :: after) := by
      obtain ⟨q, ds, heq, hq⟩ := quote_append_eq_cons s (',' :: '\n' :: after)
      rw [heq]
      obtain rfl | rfl := hq <;> rfl
    rw [hcs, readItems_quote depth s _ hskip (Or.inr rfl), if_neg (by decide), ih]
    · rfl
    · simp only [List.length_cons, List.length_append]
      omega

theorem writes_quoteList (ss : List String) : Writes (quoteList ss) (.array (ss.map .string)) := by
  intro rest
  have harray (cs : List Char) {vs : List Value}
      (h : readItems (readValue 78) cs = some (vs, '\n' :: rest)) :
      readValue maxNesting (skipBlanks ('[' :: cs)) = some (.array vs, '\n' :: rest) := by
    rw [skipBlanks_of_head? (by simp) (by simp), maxNesting, readValue, h, Option.map_some]
  match ss with
  | [] =>
    refine harray (']' :: '\n' :: rest) ?_
    rw [readItems]
    rfl
  | [s] =>
    have hskip : skipLines false ((quote s).toList ++ ']' :: '\n' :: rest) =
        some ((quote s).toList ++ ']' :: '\n' :: rest) := by
      obtain ⟨q, ds, heq, hq⟩ := quote_append_eq_cons s (']' :: '\n' :: rest)
      rw [heq]
      obtain rfl | rfl := hq <;> rfl
    have hread := readItems_quote 78 s _ hskip (Or.inl rfl) (by simp; omega)
    have hcs : (quoteList [s]).toList ++ '\n' :: rest =
        '[' :: ((quote s).toList ++ ']' :: '\n' :: rest) := by
      simp [quoteList, String.toList_append]
    rw [hcs]
    exact harray _ hread
  | s :: s' :: ss =>
    have hread := readItems_lines 78 (s :: s' :: ss) ('\n' :: rest)
    have hcs : (quoteList (s :: s' :: ss)).toList ++ '\n' :: rest = '[' :: '\n' ::
        ((String.join ((s :: s' :: ss).map fun s => "    " ++ quote s ++ ",\n")).toList ++
          ']' :: '\n' :: rest) := by
      rw [quoteList]
      · simp only [String.toList_append, List.append_assoc]
        rfl
      · exact List.cons_ne_nil _ _
      · exact fun _ h => List.cons_ne_nil _ _ (List.cons.inj h).2
    rw [hcs]
    exact harray _ hread

theorem IsBareKey.eq_cons (h : IsBareKey key) : ∃ c cs, key.toList = c :: cs ∧ isKeyChar c = true := by
  cases hcs : key.toList with
  | nil => exact absurd hcs h.1
  | cons c cs => exact ⟨c, cs, rfl, h.2 c (hcs ▸ List.mem_cons_self)⟩

theorem ne_of_isKeyChar {d : Char} (h : isKeyChar c = true) (hd : isKeyChar d = false) : c ≠ d :=
  fun heq => by simp [heq, hd] at h

/-- A key without quotes and dots is read up to what follows it. -/
theorem readKey_bare (hkey : IsBareKey key) (n : Nat) (cs : List Char) (hc : isKeyChar c = false)
    (hdot : (skipBlanks (c :: cs)).head? ≠ some '.') :
    readKey (n + 1) (key.toList ++ c :: cs) = some ([key], skipBlanks (c :: cs)) := by
  obtain ⟨d, ds, heq, hd⟩ := hkey.eq_cons
  have hblank : skipBlanks (key.toList ++ c :: cs) = key.toList ++ c :: cs := by
    rw [heq]
    refine skipBlanks_of_head? ?_ ?_
    · simpa using ne_of_isKeyChar hd (d := ' ') (by decide)
    · simpa using ne_of_isKeyChar hd (d := '\t') (by decide)
  have hpart : readKeyPart (key.toList ++ c :: cs) = some (key, c :: cs) := by
    have htake : (key.toList ++ c :: cs).takeWhile isKeyChar = key.toList := by
      rw [List.takeWhile_append_of_pos hkey.2, List.takeWhile_cons_of_neg (by simp [hc]),
        List.append_nil]
    have hdrop : (key.toList ++ c :: cs).dropWhile isKeyChar = c :: cs := by
      rw [List.dropWhile_append_of_pos hkey.2, List.dropWhile_cons_of_neg (by simp [hc])]
    unfold readKeyPart
    split
    · next h =>
      rw [heq] at h
      exact absurd (List.cons.inj h).1 (ne_of_isKeyChar hd (by decide))
    · next h =>
      rw [heq] at h
      exact absurd (List.cons.inj h).1 (ne_of_isKeyChar hd (by decide))
    · dsimp only
      rw [htake, hdrop, if_neg (by simpa using hkey.1), String.ofList_toList]
  rw [readKey, hblank, hpart, Option.bind_eq_bind, Option.bind_some]
  dsimp only
  split
  · next h => exact absurd (by rw [h]; rfl) hdot
  · rfl

theorem IsBareKey.skipLines (h : IsBareKey key) (cs : List Char) :
    skipLines false (key.toList ++ cs) = some (key.toList ++ cs) := by
  obtain ⟨c, ds, heq, hc⟩ := h.eq_cons
  have hne (d : Char) (hd : isKeyChar d = false) : c ≠ d := ne_of_isKeyChar hc hd
  rw [heq, List.cons_append]
  exact skipLines_of_ne ⟨hne ' ' (by decide), hne '\t' (by decide), hne '\n' (by decide),
    hne '\r' (by decide), hne '#' (by decide)⟩

/-- The lines after an entry are read into the draft that it leads to. -/
theorem readLines_of_readEntry (hskip : skipLines false cs = some (c :: rest))
    (hentry : readEntry d (c :: rest) = some (d', after)) (hlength : after.length < cs.length) :
    readLines d cs = readLines d' after := by
  rw [readLines, hskip]
  dsimp only
  rw [hentry]
  exact if_pos hlength

/-- A line adds its value to the table of the draft. -/
theorem reads_line (hkey : IsBareKey key) (hv : Writes text v) (hd : d.put [key] v = some d') :
    d.Reads (line key text) d' := by
  intro rest
  have hcs : (line key text).toList ++ rest =
      key.toList ++ ' ' :: '=' :: ' ' :: (text.toList ++ '\n' :: rest) := by
    simp [line, String.toList_append]
  obtain ⟨c, ds, heq, hc⟩ := hkey.eq_cons
  have hbracket : c ≠ '[' := ne_of_isKeyChar hc (by decide)
  have hpair : readPair (readValue maxNesting)
      (key.toList ++ ' ' :: '=' :: ' ' :: (text.toList ++ '\n' :: rest)) =
        some ([key], v, '\n' :: rest) := by
    have hread := readKey_bare (c := ' ') hkey 78 ('=' :: ' ' :: (text.toList ++ '\n' :: rest))
      (by decide) (by rw [skipBlanks]; simp)
    have hvalue := hv rest
    rw [readPair, maxNesting, hread]
    change (readValue maxNesting (skipBlanks (text.toList ++ '\n' :: rest))).bind _ = _
    rw [hvalue]
    rfl
  have hentry : readEntry d (key.toList ++ ' ' :: '=' :: ' ' :: (text.toList ++ '\n' :: rest)) =
      some (d', rest) := by
    rw [heq, List.cons_append] at hpair ⊢
    rw [readEntry, hpair]
    · simp only [Option.bind_eq_bind, Option.bind_some, hd]
      rfl
    · intro _ h
      exact hbracket (List.cons.inj h).1
    · intro _ h
      exact hbracket (List.cons.inj h).1
  have hskip := hkey.skipLines (' ' :: '=' :: ' ' :: (text.toList ++ '\n' :: rest))
  rw [hcs]
  rw [heq, List.cons_append] at hskip hentry ⊢
  exact readLines_of_readEntry hskip hentry (by simp; omega)

/-- A header begins an element of its array of tables. -/
theorem reads_elementHeader (hkey : IsBareKey key) (hd : d.beginElement [key] = some d') :
    d.Reads (elementHeader key) d' := by
  intro rest
  have hcs : (elementHeader key).toList ++ rest =
      '\n' :: '[' :: '[' :: (key.toList ++ ']' :: ']' :: '\n' :: rest) := by
    simp [elementHeader, String.toList_append]
  have hread := readKey_bare (c := ']') hkey 78 (']' :: '\n' :: rest) (by decide)
    (by rw [skipBlanks]; simp)
  have hheader : readHeader true (key.toList ++ ']' :: ']' :: '\n' :: rest) =
      some ([key], rest) := by
    rw [readHeader, maxNesting, hread]
    rfl
  have hentry : readEntry d ('[' :: '[' :: (key.toList ++ ']' :: ']' :: '\n' :: rest)) =
      some (d', rest) := by
    simp only [readEntry, hheader, Option.bind_eq_bind, Option.bind_some, hd]
    rfl
  rw [hcs]
  exact readLines_of_readEntry rfl hentry (by simp; omega)

end PhotoGrouping.Toml
