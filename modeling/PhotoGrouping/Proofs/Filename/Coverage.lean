import PhotoGrouping.Proofs.Filename.Tokens

namespace PhotoGrouping

open Text Filename

/-- Whether a text is values with gaps of delimiters in front of them, between them and behind them, in
which a gap between two values is empty behind a date with dashes only. The flag says whether the gap
in front may be empty. -/
inductive Spaced : Bool → List (List Char) → List Char → Prop
  | last {tight : Bool} {gap : List Char} (hgap : ∀ c ∈ gap, isDelimiter c = true) :
      Spaced tight [] gap
  | cons {tight : Bool} {gap v cs : List Char} {vs : List (List Char)}
      (hgap : ∀ c ∈ gap, isDelimiter c = true) (htight : gap = [] → tight = true) (hne : v ≠ [])
      (hv : isDashedDate v = true ∨ isSolid v = true) (h : Spaced (isDashedDate v) vs cs) :
      Spaced tight (v :: vs) (gap ++ (v ++ cs))

/-- Whether tokens tell a filename but for the delimiters between them. -/
structure Token.Cover (tokens : List Token) (f : String) : Prop where
  spaced : Spaced true (tokens.map (·.value.toList)) f.toList
  positions : tokens.map (·.position) = List.range tokens.length
  eq_nil_iff : tokens = [] ↔ ∀ c ∈ f.toList, isDelimiter c = true

variable {tight : Bool} {c : Char} {gap v cs : List Char} {vs : List (List Char)}
variable (lookup : String → Option TokenType)

theorem isDelimiter_head?_of_value (hv : isDashedDate v = true ∨ isSolid v = true) :
    ∀ c ∈ v.head?, isDelimiter c = false := by
  intro c hc
  obtain hv | hv := hv
  · have hhead : (v.map isDelimiter).head? = some false := by
      obtain h | h := map_isDelimiter_of_isDashedDate hv
      all_goals
        rw [h]
        decide
    rw [List.head?_map, hc] at hhead
    exact Option.some.inj hhead
  · simpa using List.all_eq_true.mp hv c (List.mem_of_mem_head? hc)

/-- More delimiters in front of a text of values belong to the first gap. -/
theorem Spaced.cons_delimiter (h : Spaced tight vs cs) (hc : isDelimiter c = true) (tight' : Bool) :
    Spaced tight' vs (c :: cs) := by
  cases h with
  | last hgap => exact .last (List.forall_mem_cons.mpr ⟨hc, hgap⟩)
  | cons hgap htight hne hv h =>
    rw [← List.cons_append]
    exact .cons (List.forall_mem_cons.mpr ⟨hc, hgap⟩) (by simp) hne hv h

/-- A gap in front of a text that begins with a delimiter is not empty. -/
theorem Spaced.of_head (h : Spaced tight vs cs) (hcs : ∀ c ∈ cs.head?, isDelimiter c = true)
    (tight' : Bool) : Spaced tight' vs cs := by
  cases h with
  | last hgap => exact .last hgap
  | cons hgap htight hne hv h =>
    refine .cons hgap ?_ hne hv h
    rintro rfl
    rw [List.nil_append, List.head?_append_of_ne_nil _ hne] at hcs
    have hhead := List.head?_eq_some_head hne
    have hd := hcs _ hhead
    rw [isDelimiter_head?_of_value hv _ hhead] at hd
    cases hd

theorem Spaced.concat (h : Spaced tight vs cs) (hc : isDelimiter c = true) (hne : v ≠ [])
    (hv : isSolid v = true) : Spaced tight (vs ++ [v]) (cs ++ c :: v) := by
  induction h with
  | @last tight gap hgap =>
    have hall : ∀ d ∈ gap ++ [c], isDelimiter d = true := by
      intro d hd
      obtain hd | hd := List.mem_append.mp hd
      · exact hgap d hd
      · rw [List.mem_singleton.mp hd, hc]
    have h : Spaced tight [v] ((gap ++ [c]) ++ (v ++ [])) :=
      .cons hall (by simp) hne (Or.inr hv) (.last (by simp))
    simpa using h
  | cons hgap htight hne' hv' h ih => simpa using Spaced.cons hgap htight hne' hv' ih

theorem Spaced.forall_delimiter_iff (h : Spaced tight vs cs) :
    vs = [] ↔ ∀ c ∈ cs, isDelimiter c = true := by
  cases h with
  | last hgap => simpa using hgap
  | @cons _ gap v cs vs hgap htight hne hv h =>
    refine iff_of_false (List.cons_ne_nil v vs) fun hall => ?_
    have hhead := List.head?_eq_some_head hne
    have hd := hall (v.head hne) (by simp [List.head_mem hne])
    rw [isDelimiter_head?_of_value hv _ hhead] at hd
    cases hd

theorem append_of_leadingDate? {date rest : List Char} (h : leadingDate? cs = some (date, rest)) :
    cs = date ++ cs.drop 10 := by
  rw [leadingDate?] at h
  split at h
  · obtain rfl := (Prod.mk.inj (Option.some.inj h)).1
    exact (List.take_append_drop 10 cs).symm
  · cases h

/-- The segments of a text tell it but for the delimiters between them. -/
theorem spaced_segments (cs : List Char) : Spaced true (segments cs) cs := by
  fun_induction segments cs with
  | case1 => exact .last (by simp)
  | case2 c rest date rest' hd ih =>
    have hdate := leadingDate?_dashed hd
    have h : Spaced true (date :: segments ((c :: rest).drop 10))
        ([] ++ (date ++ (c :: rest).drop 10)) :=
      .cons (by simp) (fun _ => rfl) (ne_nil_of_isDashedDate hdate) (Or.inl hdate) (hdate ▸ ih)
    rwa [List.nil_append, ← append_of_leadingDate? hd] at h
  | case3 c rest hd hc ih => exact ih.cons_delimiter hc true
  | case4 c rest hd hc ih =>
    have hrest : ∀ d ∈ (rest.dropWhile (!isDelimiter ·)).head?, isDelimiter d = true := by
      intro d hd
      have hnot := List.head?_dropWhile_not (!isDelimiter ·) rest
      rw [hd] at hnot
      simpa using hnot
    have hsolid : isSolid (c :: rest.takeWhile (!isDelimiter ·)) = true := by
      have hrun : (rest.takeWhile (!isDelimiter ·)).all (!isDelimiter ·) = true :=
        List.all_takeWhile
      rw [isSolid, List.all_cons, hrun]
      simpa using hc
    have h : Spaced true (_ :: segments (rest.dropWhile (!isDelimiter ·)))
        ([] ++ ((c :: rest.takeWhile (!isDelimiter ·)) ++ rest.dropWhile (!isDelimiter ·))) :=
      .cons (by simp) (fun _ => rfl) (List.cons_ne_nil _ _) (Or.inr hsolid) (ih.of_head hrest _)
    rwa [List.nil_append, List.cons_append, List.takeWhile_append_dropWhile] at h

theorem eq_of_splitExtension {stem : List Char} (h : splitExtension cs = (stem, none)) :
    stem = cs := by
  unfold splitExtension at h
  split at h
  · split at h
    · cases (Prod.mk.inj h).2
    · exact (Prod.mk.inj h).1.symm
  · exact (Prod.mk.inj h).1.symm

/-- The last dot is where the two parts of a text meet. -/
theorem append_of_splitLastDot? {front back : List Char}
    (h : splitLastDot? cs = some (front, back)) : cs = front ++ '.' :: back := by
  unfold splitLastDot? at h
  split at h
  · rename_i hdot
    obtain ⟨rfl, rfl⟩ := Prod.mk.inj (Option.some.inj h)
    have hback : '.' ∈ cs.reverse := by simpa using hdot
    obtain ⟨a, b, hcs, ha⟩ := List.eq_append_cons_of_mem hback
    have hrun : ∀ c ∈ a, (c != '.') = true := by
      intro c hc
      rw [bne_iff_ne]
      rintro rfl
      exact ha hc
    rw [hcs, List.dropWhile_append_of_pos hrun, List.takeWhile_append_of_pos hrun]
    rw [← List.reverse_reverse cs, hcs]
    simp
  · cases h

/-- An extension stands behind a dot. -/
theorem append_of_splitExtension {stem ext : List Char}
    (h : splitExtension cs = (stem, some ext)) : cs = stem ++ '.' :: ext := by
  unfold splitExtension at h
  split at h
  · rename_i hsplit
    split at h
    · obtain ⟨rfl, hext⟩ := Prod.mk.inj h
      obtain rfl := Option.some.inj hext
      exact append_of_splitLastDot? hsplit
    · cases (Prod.mk.inj h).2
  · cases (Prod.mk.inj h).2

theorem spaced_tokensBy (f : String) :
    Spaced true ((tokensBy lookup f).map (·.value.toList)) f.toList := by
  cases hsplit : splitExtension f.toList with
  | mk stem extension =>
    cases extension with
    | none =>
      rw [tokensBy_of_no_extension lookup hsplit, values_tokensFromBy, ← eq_of_splitExtension hsplit]
      exact spaced_segments stem
    | some ext =>
      have hext := isExtension_of_splitExtension hsplit
      have hne : ext ≠ [] := by
        rintro rfl
        cases hext
      rw [tokensBy_of_extension lookup hsplit, List.map_append, values_tokensFromBy,
        append_of_splitExtension hsplit]
      have h := (spaced_segments stem).concat (c := '.') (by decide) hne (isSolid_of_isExtension hext)
      simpa [Token.make] using h

/-- Whatever values are given a type of their own, the tokens of a filename tell all of it but the
delimiters. -/
theorem tokens_cover (f : String) :
    (∀ custom, Token.Cover (tokensOf custom f) f) ∧ ∀ lookup, Token.Cover (tokensBy lookup f) f := by
  have hcover (lookup : String → Option TokenType) : Token.Cover (tokensBy lookup f) f := by
    have hspaced := spaced_tokensBy lookup f
    refine ⟨hspaced, positions_tokensBy lookup f, ?_⟩
    rw [← hspaced.forall_delimiter_iff, List.map_eq_nil_iff]
  refine ⟨fun custom => ?_, hcover⟩
  rw [← tokensBy_custom]
  exact hcover _

end PhotoGrouping
