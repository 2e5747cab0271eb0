import Mathlib.Data.List.Infix
import Mathlib.Data.List.TakeWhile
import Mathlib.Data.Option.Basic
import PhotoGrouping.Proofs.PatternScan.Passing
import PhotoGrouping.Proofs.Regex.Numbering

namespace PhotoGrouping.PatternScan

open Regex Text

variable {c : Char} {cs rest r t name value : List Char} {f : Flags} {p : Char → Bool}
variable {comment : Bool}

theorem passes_skipHidden (cs : List Char) : Passes true isQuiet comment cs (skipHidden comment cs) := by
  induction cs generalizing comment with
  | nil =>
    cases comment with
    | true => exact .ended
    | false => exact .done []
  | cons c cs ih =>
    cases comment with
    | true => exact ih.comment rfl
    | false =>
      rw [skipHidden]
      split
      · rename_i hblank
        exact ih.blank hblank
      · split
        · rename_i hsign
          obtain rfl := beq_iff_eq.mp hsign
          exact ih.sign rfl
        · exact .done (c :: cs)

theorem passes_skip (f : Flags) (cs : List Char) : Passes f.verbose isQuiet false cs (f.skip cs) := by
  unfold Flags.skip
  split
  · rename_i hverbose
    rw [hverbose]
    exact passes_skipHidden cs
  · exact .done cs

theorem passesOver_skip (f : Flags) (cs : List Char) : PassesOver f.verbose cs (f.skip cs) :=
  (passes_skip f cs).any

theorem passes_dropWhile (hp : ∀ c, p c = true → isBlank c = true) (hides : Bool) (cs : List Char) :
    Passes hides isQuiet false cs (cs.dropWhile p) := by
  induction cs with
  | nil => exact .done []
  | cons c cs ih =>
    rw [List.dropWhile_cons]
    split
    · rename_i hc
      exact ih.blank (hp c hc)
    · exact .done (c :: cs)

theorem isQuiet_of_isHexDigit (h : isHexDigit c = true) : isQuiet c = true :=
  isQuiet_of (p := isHexDigit) (by decide) h

theorem forall_isHexDigit_of_readHexDigits {n : Nat} (h : readHexDigits f n cs = .ok (t, r)) :
    ∀ c ∈ t, isHexDigit c = true := by
  induction n generalizing cs t r with
  | zero =>
    obtain ⟨rfl, -⟩ := Prod.mk.inj (Except.ok.inj h)
    exact List.forall_mem_nil _
  | succ n ih =>
    rw [readHexDigits] at h
    split at h
    · cases h
    · split at h
      · rename_i hdigit
        split at h
        · cases h
        · rename_i u r' hu
          obtain ⟨rfl, -⟩ := Prod.mk.inj (Except.ok.inj h)
          exact List.forall_mem_cons.mpr ⟨hdigit, ih hu⟩
      · cases h

theorem passes_readHexDigits {n : Nat} (h : readHexDigits f n cs = .ok (t, r)) :
    Passes f.verbose isQuiet false cs r := by
  induction n generalizing cs t r with
  | zero =>
    obtain ⟨-, rfl⟩ := Prod.mk.inj (Except.ok.inj h)
    exact passes_skip f cs
  | succ n ih =>
    have hskip := passes_skip f cs
    rw [readHexDigits] at h
    split at h
    · cases h
    · rename_i c rest hc
      rw [hc] at hskip
      split at h
      · rename_i hdigit
        split at h
        · cases h
        · rename_i u r' hu
          obtain ⟨-, rfl⟩ := Prod.mk.inj (Except.ok.inj h)
          have hquiet := isQuiet_of_isHexDigit hdigit
          have hsign hverbose := (Flags.visible_of_skip hc hverbose).2
          exact hskip.trans ((ih hu).plain hquiet (ne_backslash_of_isQuiet hquiet) hsign)
      · cases h

theorem forall_isHexDigit_of_readBraced (h : readBraced f true comment cs = .ok (t, r)) :
    ∀ c ∈ t, isHexDigit c = true := by
  induction cs generalizing comment t r with
  | nil =>
    rw [readBraced] at h
    cases h
  | cons c cs ih =>
    cases comment with
    | true => exact ih h
    | false =>
      rw [readBraced] at h
      split at h
      · exact ih h
      · split at h
        · exact ih h
        · split at h
          · obtain ⟨rfl, -⟩ := Prod.mk.inj (Except.ok.inj h)
            exact List.forall_mem_nil _
          · split at h
            · cases h
            · rename_i hdigit
              split at h
              · cases h
              · rename_i u r' hu
                obtain ⟨rfl, -⟩ := Prod.mk.inj (Except.ok.inj h)
                exact List.forall_mem_cons.mpr ⟨by simpa using hdigit, ih hu⟩

theorem passes_readBraced {hex : Bool} (hcomment : comment = true → f.verbose = true)
    (h : readBraced f hex comment cs = .ok (t, r)) (ht : ∀ c ∈ t, isQuiet c = true) :
    Passes f.verbose isQuiet comment cs r := by
  induction cs generalizing comment t r with
  | nil =>
    rw [readBraced] at h
    cases h
  | cons c cs ih =>
    cases comment with
    | true => exact (ih (fun _ => hcomment rfl) h ht).comment (hcomment rfl)
    | false =>
      rw [readBraced] at h
      split at h
      · rename_i hblank
        exact (ih (fun h => absurd h Bool.false_ne_true) h ht).blank (Bool.and_eq_true_iff.mp hblank).2
      · split at h
        · rename_i hsign
          obtain ⟨hverbose, hsign⟩ := Bool.and_eq_true_iff.mp hsign
          obtain rfl := beq_iff_eq.mp hsign
          exact (ih (fun _ => hverbose) h ht).sign hverbose
        · rename_i hsign
          split at h
          · rename_i hclose
            obtain rfl := beq_iff_eq.mp hclose
            obtain ⟨-, rfl⟩ := Prod.mk.inj (Except.ok.inj h)
            exact (Passes.done cs).cons (by decide) (by decide)
          · split at h
            · cases h
            · split at h
              · cases h
              · rename_i u r' hu
                obtain ⟨rfl, rfl⟩ := Prod.mk.inj (Except.ok.inj h)
                obtain ⟨hc, ht⟩ := List.forall_mem_cons.mp ht
                refine (ih (fun h => absurd h Bool.false_ne_true) hu ht).plain hc
                  (ne_backslash_of_isQuiet hc) fun hverbose => ?_
                simpa [hverbose] using hsign

theorem passes_readWhile (hp : ∀ c, p c = true → isQuiet c = true)
    (hcomment : comment = true → f.verbose = true) (cs : List Char) :
    Passes f.verbose isQuiet comment cs (readWhile f p comment cs).2 := by
  induction cs generalizing comment with
  | nil =>
    rw [readWhile]
    cases comment with
    | true => exact .ended
    | false => exact .done []
  | cons c cs ih =>
    cases comment with
    | true => exact (ih fun _ => hcomment rfl).comment (hcomment rfl)
    | false =>
      rw [readWhile]
      split
      · rename_i hblank
        exact (ih fun h => absurd h Bool.false_ne_true).blank (Bool.and_eq_true_iff.mp hblank).2
      · split
        · rename_i hsign
          obtain ⟨hverbose, hsign⟩ := Bool.and_eq_true_iff.mp hsign
          obtain rfl := beq_iff_eq.mp hsign
          exact (ih fun _ => hverbose).sign hverbose
        · rename_i hsign
          split
          · rename_i hc
            refine (ih fun h => absurd h Bool.false_ne_true).plain (hp c hc)
              (ne_backslash_of_isQuiet (hp c hc)) fun hverbose => ?_
            simpa [hverbose] using hsign
          · exact .done (c :: cs)

theorem passes_readCount (f : Flags) (cs : List Char) :
    Passes f.verbose isQuiet false cs (readCount f cs).2 := by
  have hblank (cs : List Char) : Passes f.verbose isQuiet false cs (cs.dropWhile isBlank) :=
    passes_dropWhile (fun _ h => h) f.verbose cs
  have hdigit : ∀ c : Char, c.isDigit = true → isQuiet c = true :=
    fun c => isQuiet_of (p := Char.isDigit) (by decide)
  have hdigits := (hblank cs).trans
    (passes_readWhile (f := f) hdigit (fun h => absurd h Bool.false_ne_true) _)
  exact (hdigits.trans (hblank _)).trans (passes_skip f _)

theorem passes_closeBounds {hides : Bool} {least : Nat} {most : Option Nat}
    {bounds : Nat × Option Nat} (h : closeBounds least most cs = .ok (bounds, r)) :
    Passes hides isQuiet false cs r := by
  unfold closeBounds at h
  split at h
  · cases h
  · split at h
    · rename_i hclose
      obtain rfl := beq_iff_eq.mp hclose
      split at h
      · obtain ⟨-, rfl⟩ := Prod.mk.inj (Except.ok.inj h)
        exact (Passes.done _).cons (by decide) (by decide)
      · cases h
    · cases h

theorem passes_readUpper {least : Nat} {bounds : Nat × Option Nat}
    (h : readUpper f least cs = .ok (bounds, r)) : Passes f.verbose isQuiet false cs r := by
  have hcount := passes_readCount f cs
  unfold readUpper at h
  split at h
  · cases h
  · rename_i heq
    rw [heq] at hcount
    exact hcount.trans (passes_closeBounds h)

theorem passes_readMost {least : Except ParseError Nat} {bounds : Nat × Option Nat}
    (h : readMost f least cs = .ok (bounds, r)) : Passes f.verbose isQuiet false cs r := by
  unfold readMost at h
  split at h
  · cases h
  · rename_i c rest
    split at h
    · rename_i hcomma
      obtain rfl := beq_iff_eq.mp hcomma
      have hskip := (passes_skip f rest).cons (c := ',') (by decide) (by decide)
      split at h
      · cases h
      · cases h
      · rename_i d rest' least hd
        rw [hd] at hskip
        split at h
        · exact hskip.trans (passes_closeBounds h)
        · exact hskip.trans (passes_readUpper h)
    · split at h
      · cases h
      · exact passes_closeBounds h

theorem passes_readBounds {bounds : Nat × Option Nat} (h : readBounds f cs = .ok (bounds, r)) :
    Passes f.verbose isQuiet false cs r := by
  have hskip := passes_skip f cs
  unfold readBounds at h
  split at h
  · cases h
  · rename_i hc
    rw [hc] at hskip
    exact (hskip.trans (passes_readCount f _)).trans (passes_readMost h)

theorem passes_readLazy (hides : Bool) (cs : List Char) :
    Passes hides isQuiet false cs (readLazy cs).2 := by
  unfold readLazy
  split
  · exact (Passes.done _).cons (by decide) (by decide)
  · exact .done cs

theorem passes_append {hides : Bool} (ht : ∀ c ∈ t, isInert c = true) (rest : List Char) :
    Passes hides isQuiet false (t ++ rest) rest := by
  induction t with
  | nil => exact .done rest
  | cons c t ih =>
    obtain ⟨hc, ht⟩ := List.forall_mem_cons.mp ht
    rw [isInert, Bool.and_eq_true, bne_iff_ne] at hc
    exact (ih ht).cons hc.1 hc.2

/-- The characters that settings at the front of a group are written with. -/
def settingChars : List Char :=
  [':', ')', '-', 'i', 'm', 's', 'U', 'u', 'R', 'x']

theorem mem_settingChars_of_switch? {on : Bool} (h : (f.switch? on c).isSome = true) :
    c ∈ settingChars := by
  unfold Flags.switch? at h
  split at h
  case h_8 => cases h
  all_goals decide

theorem exists_append_of_readFlags {a b : FlagProgress} {colon : Bool}
    (hread : readFlags a cs = .ok ((b, colon), r)) :
    ∃ t, cs = t ++ r ∧ ∀ c ∈ t, c ∈ settingChars := by
  induction cs generalizing a with
  | nil => cases hread
  | cons c cs ih =>
    have hcons (hc : c ∈ settingChars) (htail : ∃ t, cs = t ++ r ∧ ∀ c ∈ t, c ∈ settingChars) :
        ∃ t, c :: cs = t ++ r ∧ ∀ c ∈ t, c ∈ settingChars := by
      obtain ⟨t, rfl, ht⟩ := htail
      exact ⟨c :: t, rfl, List.forall_mem_cons.mpr ⟨hc, ht⟩⟩
    rw [readFlags] at hread
    split at hread
    · rename_i hend
      have hc : c ∈ settingChars := by
        rw [Bool.or_eq_true, beq_iff_eq, beq_iff_eq] at hend
        obtain rfl | rfl := hend <;> decide
      split at hread
      · cases hread
      · obtain ⟨-, rfl⟩ := Prod.mk.inj (Except.ok.inj hread)
        exact hcons hc ⟨[], rfl, fun _ hd => absurd hd List.not_mem_nil⟩
    · split at hread
      · rename_i hminus
        obtain rfl := beq_iff_eq.mp hminus
        split at hread
        · cases hread
        · exact hcons (by decide) (ih hread)
      · split at hread
        · cases hread
        · rename_i flags hswitch
          have hswitched : (a.flags.switch? (!a.off) c).isSome = true := by
            rw [hswitch]
            rfl
          split at hread
          · cases hread
          · exact hcons (mem_settingChars_of_switch? hswitched) (ih hread)

theorem passes_readFlags {hides : Bool} {a b : FlagProgress} {colon : Bool}
    (h : readFlags a cs = .ok ((b, colon), r)) : Passes hides isQuiet false cs r := by
  have hinert : ∀ c ∈ settingChars, isInert c = true := List.all_eq_true.mp (by decide)
  obtain ⟨t, rfl, ht⟩ := exists_append_of_readFlags h
  exact passes_append (fun c hc => hinert c (ht c hc)) r

/-- Characters that are not quiet are left in a loose name. -/
theorem mem_looseName (hc : isQuiet c = false) (h : c ∈ name) :
    c ∈ (Property.looseName name).toList := by
  have hspecial : ((c = '(' ∨ c = '[') ∨ c = ']') ∨ c = '\\' := by
    simpa only [isQuiet, Bool.and_eq_false_iff, bne_eq_false_iff_eq] using hc
  obtain ⟨hkeep, hlower, hletter⟩ : (c.toNat < 128 && c != ' ' && c != '_' && c != '-') = true ∧
      c.toLower = c ∧ c ∉ ['i', 's', 'I', 'S', 'c'] := by
    obtain ((rfl | rfl) | rfl) | rfl := hspecial <;> decide
  have hplain {cs : List Char} (h : c ∈ cs) :
      c ∈ (cs.filter fun c => c.toNat < 128 && c != ' ' && c != '_' && c != '-').map Char.toLower :=
    List.mem_map.mpr ⟨c, List.mem_filter.mpr ⟨h, hkeep⟩, hlower⟩
  have hrest {d e : Char} {rest : List Char} (hd : d ∈ ['i', 's', 'I', 'S', 'c'])
      (he : e ∈ ['i', 's', 'I', 'S', 'c']) (h : c ∈ d :: e :: rest) : c ∈ rest := by
    have hne {d : Char} (hd : d ∈ ['i', 's', 'I', 'S', 'c']) : c ≠ d := by
      intro hcd
      exact hletter (hcd ▸ hd)
    exact List.mem_of_ne_of_mem (hne he) (List.mem_of_ne_of_mem (hne hd) h)
  unfold Property.looseName
  dsimp only
  split
  case h_5 =>
    rw [String.toList_ofList]
    exact hplain h
  all_goals
    have hmem := hplain (hrest (by decide) (by decide) h)
    split
    · rename_i heq
      rw [heq, List.mem_singleton] at hmem
      rw [hmem] at hletter
      exact absurd (by decide) hletter
    · rw [String.toList_ofList]
      exact hmem

theorem quiet_of_looseName {key : String} (hkey : key.toList.all isQuiet = true)
    (h : Property.looseName name = key) (hc : c ∈ name) : isQuiet c = true := by
  by_contra hquiet
  have hmem := mem_looseName (by simpa using hquiet) hc
  rw [h] at hmem
  exact hquiet (List.all_eq_true.mp hkey c hmem)

theorem quiet_of_lookup {table : List (String × Property)} {q : Property}
    (htable : table.all (·.1.toList.all isQuiet) = true)
    (h : table.lookup (Property.looseName name) = some q) (hc : c ∈ name) : isQuiet c = true := by
  obtain ⟨before, after, rfl, -⟩ := List.lookup_eq_some_iff.mp h
  have hkey := List.all_eq_true.mp htable (Property.looseName name, q) (by simp)
  exact quiet_of_looseName hkey rfl hc

theorem quiet_of_script? {q : Property} (h : Property.script? (Property.looseName name) = some q)
    (hc : c ∈ name) : isQuiet c = true := by
  have hscripts : Script.named.all (fun e => e.1.all (·.toList.all isQuiet)) = true := by
    decide +kernel
  obtain ⟨spans, hspans, -⟩ := Option.map_eq_some_iff.mp h
  obtain ⟨e, hfind, -⟩ := Option.map_eq_some_iff.mp hspans
  have hcontains := List.find?_some hfind
  have hname := List.contains_iff_mem.mp hcontains
  have hkeys := List.all_eq_true.mp hscripts e (List.mem_of_find?_eq_some hfind)
  exact quiet_of_looseName (List.all_eq_true.mp hkeys _ hname) rfl hc

theorem quiet_of_categoryNames {q : Property}
    (h : Property.categoryNames.lookup (Property.looseName name) = some q) (hc : c ∈ name) :
    isQuiet c = true :=
  quiet_of_lookup (by decide +kernel) h hc

theorem quiet_of_named? {q : Property} (h : Property.named? name = some q) (hc : c ∈ name) :
    isQuiet c = true := by
  unfold Property.named? at h
  obtain h | ⟨-, h⟩ := (Option.orElse_eq_some _ _ _).mp h
  · exact quiet_of_lookup (by decide +kernel) h hc
  · obtain h | ⟨-, h⟩ := (Option.orElse_eq_some _ _ _).mp h
    · exact quiet_of_categoryNames h hc
    · exact quiet_of_script? h hc

theorem quiet_of_valued? {q : Property} (h : Property.valued? name value = some q) :
    (∀ c ∈ name, isQuiet c = true) ∧ ∀ c ∈ value, isQuiet c = true := by
  unfold Property.valued? at h
  dsimp only at h
  split at h
  case h_5 => cases h
  case h_1 hname | h_2 hname =>
    exact ⟨fun c => quiet_of_looseName (by decide) hname, fun c => quiet_of_categoryNames h⟩
  case h_3 hname | h_4 hname =>
    exact ⟨fun c => quiet_of_looseName (by decide) hname, fun c => quiet_of_script? h⟩

theorem quiet_of_loneProperty {q : Property × Bool} (h : loneProperty name = .ok q) (hc : c ∈ name) :
    isQuiet c = true := by
  unfold loneProperty at h
  split at h
  · rename_i hnamed
    exact quiet_of_named? hnamed hc
  · cases h

theorem quiet_of_valuedProperty {q : Property} (h : valuedProperty name value = .ok q) :
    (∀ c ∈ name, isQuiet c = true) ∧ ∀ c ∈ value, isQuiet c = true := by
  unfold valuedProperty at h
  split at h
  · rename_i hvalued
    exact quiet_of_valued? hvalued
  · split at h
    · cases h
    · cases h

theorem eq_of_splitUnequal {before text : List Char}
    (h : bracedProperty.splitUnequal before text = some (name, value)) :
    before.reverse ++ text = name ++ '!' :: '=' :: value := by
  fun_induction bracedProperty.splitUnequal before text with
  | case1 => cases h
  | case2 before rest =>
    obtain ⟨rfl, rfl⟩ := Prod.mk.inj (Option.some.inj h)
    rfl
  | case3 before c rest _ ih => simpa using ih h

theorem quiet_of_splitAt {sep : Char} {whole : List Char} (hsep : isQuiet sep = true)
    (h : (if whole.contains sep then
      some (whole.takeWhile (· != sep), (whole.dropWhile (· != sep)).drop 1) else none) =
        some (name, value))
    (hname : ∀ c ∈ name, isQuiet c = true) (hvalue : ∀ c ∈ value, isQuiet c = true)
    (hc : c ∈ whole) : isQuiet c = true := by
  split at h
  · obtain ⟨rfl, rfl⟩ := Prod.mk.inj (Option.some.inj h)
    rw [← List.takeWhile_append_dropWhile (p := (· != sep)) (l := whole), List.mem_append] at hc
    obtain hc | hc := hc
    · exact hname c hc
    · have hhead := List.head?_dropWhile_not (· != sep) whole
      cases hrest : whole.dropWhile (· != sep) with
      | nil =>
        rw [hrest] at hc
        cases hc
      | cons d rest =>
        rw [hrest] at hc hhead hvalue
        obtain rfl | hc := List.mem_cons.mp hc
        · have hd : c = sep := by simpa using hhead
          rw [hd]
          exact hsep
        · exact hvalue c hc
  · cases h

/-- A property is named by quiet characters only. -/
theorem quiet_of_bracedProperty {q : Property × Bool} (h : bracedProperty name = .ok q)
    (hc : c ∈ name) : isQuiet c = true := by
  unfold bracedProperty at h
  split at h
  · rename_i front value hsplit
    obtain ⟨p, hp, -⟩ := eq_of_map_eq_ok h
    obtain ⟨hfront, hvalue⟩ := quiet_of_valuedProperty hp
    have hname := eq_of_splitUnequal hsplit
    rw [List.reverse_nil, List.nil_append] at hname
    rw [hname] at hc
    obtain hc | hc := List.mem_append.mp hc
    · exact hfront c hc
    · obtain rfl | hc := List.mem_cons.mp hc
      · decide
      · obtain rfl | hc := List.mem_cons.mp hc
        · decide
        · exact hvalue c hc
  · dsimp only at h
    split at h
    · rename_i front value hsplit
      obtain ⟨p, hp, -⟩ := eq_of_map_eq_ok h
      obtain ⟨hfront, hvalue⟩ := quiet_of_valuedProperty hp
      obtain hsplit | ⟨-, hsplit⟩ := (Option.orElse_eq_some _ _ _).mp hsplit
      · exact quiet_of_splitAt (by decide) hsplit hfront hvalue hc
      · exact quiet_of_splitAt (by decide) hsplit hfront hvalue hc
    · exact quiet_of_loneProperty h hc

theorem eq_of_numbered {twoDigits : Bool} {e : EscapeSequence}
    (h : numbered f twoDigits t rest = .ok (e, r)) : r = rest := by
  unfold numbered at h
  split at h
  · cases h
  · split at h
    · cases h
    · split at h
      · cases h
      · exact (Prod.mk.inj (Except.ok.inj h)).2.symm

theorem passes_readNumber {n : Nat} {e : EscapeSequence} (h : readNumber f n cs = .ok (e, r)) :
    Passes f.verbose isQuiet false cs r := by
  have hskip := passes_skip f cs
  unfold readNumber at h
  split at h
  · cases h
  · rename_i rest hopen
    rw [hopen] at hskip
    split at h
    · cases h
    · rename_i text after hbraced
      obtain rfl := eq_of_numbered h
      have hdigits := forall_isHexDigit_of_readBraced hbraced
      have hbrace := passes_readBraced (fun h => absurd h Bool.false_ne_true) hbraced
        fun c hc => isQuiet_of_isHexDigit (hdigits c hc)
      exact (hskip.trans (hbrace.cons (by decide) (by decide))).trans (passes_skip f after)
  · split at h
    · cases h
    · rename_i hdigits
      obtain rfl := eq_of_numbered h
      exact hskip.trans (passes_readHexDigits hdigits)

theorem eq_of_propertySet {negated : Bool} {property : Except ParseError (Property × Bool)}
    {e : EscapeSequence} (h : propertySet f negated property rest = .ok (e, r)) :
    r = rest ∧ ∃ q, property = .ok q := by
  unfold propertySet at h
  split at h
  · cases h
  · split at h
    · cases h
    · exact ⟨(Prod.mk.inj (Except.ok.inj h)).2.symm, _, rfl⟩

theorem passes_readProperty {negated : Bool} {e : EscapeSequence}
    (h : readProperty f negated cs = .ok (e, r)) : Passes f.verbose isQuiet false cs r := by
  have hskip := passes_skip f cs
  unfold readProperty at h
  split at h
  · cases h
  · rename_i rest hopen
    rw [hopen] at hskip
    split at h
    · cases h
    · rename_i name after hbraced
      obtain ⟨rfl, q, hq⟩ := eq_of_propertySet h
      have hbrace := passes_readBraced (fun h => absurd h Bool.false_ne_true) hbraced
        fun c => quiet_of_bracedProperty hq
      exact hskip.trans (hbrace.cons (by decide) (by decide))
  · cases h
  · rename_i d rest _ _ hopen
    rw [hopen] at hskip
    obtain ⟨rfl, q, hq⟩ := eq_of_propertySet h
    have hd : isQuiet d = true := quiet_of_loneProperty hq (by simp)
    have hsign hverbose := (Flags.visible_of_skip hopen hverbose).2
    exact hskip.trans ((passes_skip f rest).plain hd (ne_backslash_of_isQuiet hd) hsign)

theorem passes_closeWordEdge {hides : Bool} {e : WordEdge} (h : closeWordEdge name cs = .ok (e, r)) :
    Passes hides isQuiet false cs r := by
  unfold closeWordEdge at h
  split at h
  · cases h
  · split at h
    · rename_i hclose
      obtain rfl := beq_iff_eq.mp hclose
      split at h
      · obtain ⟨-, rfl⟩ := Prod.mk.inj (Except.ok.inj h)
        exact (Passes.done _).cons (by decide) (by decide)
      · cases h
    · cases h

theorem passes_readWordEdge {e : WordEdge} (h : readWordEdge f cs = .ok (e, r)) :
    Passes f.verbose isQuiet false cs r := by
  have hedge : ∀ c, isEdgeChar c = true → isQuiet c = true :=
    fun c => isQuiet_of (p := isEdgeChar) (by decide)
  unfold readWordEdge at h
  split at h
  · rename_i rest
    have hskip := (passes_skip f rest).cons (c := '{') (by decide) (by decide)
    split at h
    · cases h
    · rename_i d after hd
      rw [hd] at hskip
      split at h
      · have hname := passes_readWhile (f := f) hedge (fun h => absurd h Bool.false_ne_true) (d :: after)
        exact (hskip.trans hname).trans (passes_closeWordEdge h)
      · obtain ⟨-, rfl⟩ := Prod.mk.inj (Except.ok.inj h)
        exact .done _
  · obtain ⟨-, rfl⟩ := Prod.mk.inj (Except.ok.inj h)
    exact .done _

/-- A backslash sequence has quiet characters behind its first one. -/
theorem passes_readEscape {e : EscapeSequence} (h : readEscape f (c :: cs) = .ok (e, r)) :
    Passes f.verbose isQuiet false cs r := by
  unfold readEscape at h
  dsimp only at h
  split at h
  · cases h
  · split at h
    · obtain ⟨-, rfl⟩ := Prod.mk.inj (Except.ok.inj h)
      exact .done cs
    · split at h
      case h_1 | h_2 | h_3 => exact passes_readNumber h
      case h_4 | h_5 => exact passes_readProperty h
      case h_20 =>
        split at h
        · cases h
        · rename_i hedge
          obtain ⟨-, rfl⟩ := Prod.mk.inj (Except.ok.inj h)
          exact passes_readWordEdge hedge
      case h_9 | h_10 | h_11 =>
        split at h
        · cases h
        · obtain ⟨-, rfl⟩ := Prod.mk.inj (Except.ok.inj h)
          exact .done cs
      case h_24 => cases h
      all_goals
        obtain ⟨-, rfl⟩ := Prod.mk.inj (Except.ok.inj h)
        exact .done cs

end PhotoGrouping.PatternScan
