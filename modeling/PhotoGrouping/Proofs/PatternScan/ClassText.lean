import PhotoGrouping.Proofs.PatternScan.Quiet

namespace PhotoGrouping.PatternScan

open Regex Text

variable {c d : Char} {cs rest r t : List Char} {f : Flags} {hides : Bool}

theorem passes_readClassAtom {e : EscapeSequence} (hsign : f.verbose = true → c ≠ '#')
    (h : readClassAtom f c cs = .ok (e, r)) : PassesOver f.verbose (c :: cs) r := by
  unfold readClassAtom at h
  split at h
  · rename_i hc
    obtain rfl := beq_iff_eq.mp hc
    cases cs with
    | nil => cases h
    | cons d cs => exact (passes_readEscape h).any.escape d rfl
  · rename_i hc
    obtain ⟨-, rfl⟩ := Prod.mk.inj (Except.ok.inj h)
    exact (Passes.done cs).plain rfl (by simpa using hc) hsign

theorem passes_readMember {m : CharClass} (hsign : f.verbose = true → c ≠ '#')
    (h : readMember f c cs = .ok (m, r)) : PassesOver f.verbose (c :: cs) r := by
  unfold readMember at h
  split at h
  · cases h
  · rename_i lo after hlo
    have hskip := (passes_readClassAtom hsign hlo).trans (passesOver_skip f after)
    split at h
    · cases h
    · rename_i behind hdash
      rw [hdash] at hskip
      split at h
      · obtain ⟨m', -, heq⟩ := eq_of_map_eq_ok h
        obtain ⟨-, rfl⟩ := Prod.mk.inj heq
        exact hskip
      · have hmore := (hskip.trans (passesOver_cons (by decide) (by decide) behind)).trans
          (passesOver_skip f behind)
        split at h
        · cases h
        · rename_i d tail hd
          rw [hd] at hmore
          split at h
          · cases h
          · rename_i hi back hhi
            obtain ⟨m', -, heq⟩ := eq_of_map_eq_ok h
            obtain ⟨-, rfl⟩ := Prod.mk.inj heq
            have hshown hverbose := (Flags.visible_of_skip hd hverbose).2
            exact hmore.trans (passes_readClassAtom hshown hhi)
    · obtain ⟨m', -, heq⟩ := eq_of_map_eq_ok h
      obtain ⟨-, rfl⟩ := Prod.mk.inj heq
      exact hskip

theorem passes_readDashes (f : Flags) (l : ClassLevel) (cs : List Char) :
    PassesOver f.verbose cs (readDashes f l cs).2 := by
  fun_induction readDashes f l cs with
  | case1 l rest ih =>
    have hsign : PassesOver f.verbose ('-' :: rest) rest := passesOver_cons (by decide) (by decide) rest
    exact (hsign.trans (passesOver_skip f rest)).trans ih
  | case2 l cs => exact .done cs

theorem passes_openBracket (f : Flags) (cs : List Char) :
    PassesOver f.verbose cs (openBracket f cs).2 := by
  have hskip := passesOver_skip f cs
  unfold openBracket
  split
  rename_i negated rest heq
  have hrest : PassesOver f.verbose cs rest := by
    split at heq
    · rename_i after hsign
      obtain ⟨-, rfl⟩ := Prod.mk.inj heq
      rw [hsign] at hskip
      have hopen := hskip.trans (passesOver_cons (by decide) (by decide) after)
      exact hopen.trans (passesOver_skip f after)
    · obtain ⟨-, rfl⟩ := Prod.mk.inj heq
      exact hskip
  have hback := hrest.trans (passes_readDashes f ⟨negated, none, []⟩ rest)
  split
  rename_i l after hread
  rw [hread] at hback
  split
  · rename_i tail _
    exact hback.trans (passesOver_cons (by decide) (by decide) tail)
  · exact hback

theorem passes_asciiClassAt? {negated : Bool} {m : CharClass}
    (h : asciiClassAt? cs = some (negated, m, r)) : PassesOver hides cs r := by
  have hletter : ∀ c : Char, c.isLower = true → isInert c = true := by
    intro c hc
    rw [isInert, isQuiet_of (p := Char.isLower) (by decide) hc, Bool.true_and, bne_iff_ne]
    rintro rfl
    exact absurd hc (by decide)
  have hname {cs : List Char} {s : CharClass} (h : cs.dropWhile (· != ':') = ':' :: ']' :: r)
      (hclass : asciiClass? (String.ofList (cs.takeWhile (· != ':'))) = some s) :
      PassesOver hides cs r := by
    have hlower := isLower_of_asciiClass? hclass
    have hfront : Passes hides isQuiet false (cs.takeWhile (· != ':') ++ ':' :: ']' :: r)
        (':' :: ']' :: r) :=
      passes_append (fun c hc => hletter c (hlower c hc)) _
    rw [← h, List.takeWhile_append_dropWhile, h] at hfront
    exact (hfront.any.trans (passesOver_cons (by decide) (by decide) _)).trans
      (passesOver_cons (by decide) (by decide) r)
  unfold asciiClassAt? at h
  split at h
  · rename_i after
    split at h
    rename_i negated' name heq
    split at h
    · rename_i tail hdrop
      obtain ⟨m', hclass, hm⟩ := Option.map_eq_some_iff.mp h
      obtain ⟨-, hm⟩ := Prod.mk.inj hm
      obtain ⟨-, rfl⟩ := Prod.mk.inj hm
      refine (passesOver_cons (by decide) (by decide) after).trans ?_
      split at heq
      · rename_i back
        obtain ⟨-, rfl⟩ := Prod.mk.inj heq
        exact (passesOver_cons (by decide) (by decide) back).trans (hname hdrop hclass)
      · obtain ⟨-, rfl⟩ := Prod.mk.inj heq
        exact hname hdrop hclass
    · cases h
  · cases h

/-- A bracketed class is read up to a closing bracket. -/
theorem passes_readClassBody {l : ClassLevel} {outer : List ClassLevel} {m : ClassMember}
    (h : readClassBody f l outer cs = .ok (m, r)) : PassesOver f.verbose cs (']' :: r) := by
  fun_induction readClassBody f l outer cs generalizing m r with
  | case1 => cases h
  | case2 => cases h
  | case3 l outer cs rest hc negated s rest' ha s' hn ih =>
    have hskip := passesOver_skip f cs
    rw [hc] at hskip
    have hopen := hskip.trans (passesOver_cons (by decide) (by decide) rest)
    exact (hopen.trans (passes_asciiClassAt? ha)).trans (ih h)
  | case4 l outer cs rest hc ha ih =>
    have hskip := passesOver_skip f cs
    rw [hc] at hskip
    have hopen := hskip.trans (passesOver_cons (by decide) (by decide) rest)
    exact (hopen.trans (passes_openBracket f rest)).trans (ih h)
  | case5 => cases h
  | case6 l cs rest hc m' hm =>
    have hskip := passesOver_skip f cs
    rw [hc] at hskip
    obtain ⟨-, rfl⟩ := Prod.mk.inj (Except.ok.inj h)
    exact hskip
  | case7 l cs rest hc m' hm o outer ih =>
    have hskip := passesOver_skip f cs
    rw [hc] at hskip
    exact (hskip.trans (passesOver_cons (by decide) (by decide) rest)).trans (ih h)
  | case8 l outer cs rest hc ih | case9 l outer cs rest hc ih | case10 l outer cs rest hc ih =>
    have hskip := passesOver_skip f cs
    rw [hc] at hskip
    have hsign := hskip.trans (passesOver_cons (by decide) (by decide) _)
    exact (hsign.trans (passesOver_cons (by decide) (by decide) rest)).trans (ih h)
  | case11 => cases h
  | case12 l outer cs c rest _ _ _ _ _ hc s rest' hm ih =>
    have hskip := passesOver_skip f cs
    rw [hc] at hskip
    have hshown hverbose := (Flags.visible_of_skip hc hverbose).2
    exact (hskip.trans (passes_readMember hshown hm)).trans (ih h)

theorem passes_readClass {m : ClassMember} (h : readClass f cs = .ok (m, r)) :
    PassesOver f.verbose cs (']' :: r) :=
  (passes_openBracket f cs).trans (passes_readClassBody h)

/-- Behind a bracketed class a scan is as it was before it, with what it has counted in the class. -/
theorem countFrom_class {m : ClassMember} (hides : HidesQuietly f.verbose cs (']' :: r))
    (hread : readClass f cs = .ok (m, r)) :
    countFrom {} ('[' :: cs) =
      countFrom { inClass := true } (cs.take (cs.length - r.length)) + countFrom {} r := by
  obtain ⟨t, ht, rfl⟩ := hides.evenly (passes_readClass hread)
  have hopen : countFrom {} ('[' :: (t ++ ']' :: r)) =
      countFrom { inClass := true } (t ++ ']' :: r) := by
    simp [countFrom, State.step]
  have hclosed : (t ++ [']']).foldl State.step { inClass := true } = {} := by
    have heven := ht { inClass := true } rfl
    rw [List.foldl_append, List.foldl_cons, List.foldl_nil, State.step, heven]
    simp
  have hbody : (t ++ ']' :: r).take ((t ++ ']' :: r).length - r.length) = t ++ [']'] := by
    rw [List.append_cons, List.length_append, Nat.add_sub_cancel, List.take_left]
  rw [hopen, hbody, List.append_cons, countFrom_append (by simp), hclosed]

end PhotoGrouping.PatternScan
