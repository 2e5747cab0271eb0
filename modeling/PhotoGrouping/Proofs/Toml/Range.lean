import PhotoGrouping.Proofs.Listing.AscendingMap
import PhotoGrouping.Toml.Reader

namespace PhotoGrouping.Toml

/-- Whether a value has 64 bits if it is an integer. -/
def Value.InRange (v : Value) : Prop :=
  ∀ n, v = .integer n → -(Nat.pow 2 63 : Int) ≤ n ∧ n < Nat.pow 2 63

/-- Whether a property holds of every value of an item, those in its tables included. -/
inductive Item.All (p : Value → Prop) : Item → Prop
  | value {v : Value} (h : p v) : All p (.value v)
  | table {implicit dotted : Bool} {entries : List (String × Item)} (h : ∀ e ∈ entries, All p e.2) :
      All p (.table implicit dotted entries)
  | tables {elements : List (List (String × Item))} (h : ∀ es ∈ elements, ∀ e ∈ es, All p e.2) :
      All p (.tables elements)

/-- Whether a property holds of every value in a table. -/
def Entries.All (p : Value → Prop) (es : Entries) : Prop :=
  ∀ e ∈ es, e.2.All p

/-- Whether a property holds of every value in a document that is being read. -/
structure Draft.All (p : Value → Prop) (d : Draft) : Prop where
  root : Entries.All p d.root
  current : Entries.All p d.current

variable {p : Value → Prop} {es es' : Entries} {key : String} {i : Item} {v : Value} {d d' : Draft}

namespace Entries.All

theorem nil : Entries.All p [] := by
  simp [Entries.All]

theorem lookup (h : Entries.All p es) (hi : es.lookup key = some i) : i.All p :=
  h _ (mem_of_lookup_eq_some es key i hi)

theorem append (h : Entries.All p es) (hi : i.All p) : Entries.All p (es ++ [(key, i)]) := by
  intro e he
  obtain he | he := List.mem_append.mp he
  · exact h e he
  · rw [List.mem_singleton.mp he]
    exact hi

theorem replace (h : Entries.All p es) (hi : i.All p) : Entries.All p (es.replace key i) := by
  intro e he
  obtain ⟨e', he', rfl⟩ := List.mem_map.mp he
  split
  · exact hi
  · exact h e' he'

theorem of_table {implicit dotted : Bool} (h : Item.All p (.table implicit dotted es)) :
    Entries.All p es := by
  cases h with
  | table h => exact h

/-- A change of a table somewhere keeps a property of all values if the change itself does. -/
theorem update {α : Type} {q : α → Prop} {dotted b : Bool} {path : List String} {a : α}
    {change : Bool → Entries → Option (α × Entries)}
    (hchange : ∀ b es a es', Entries.All p es → change b es = some (a, es') →
      q a ∧ Entries.All p es')
    (h : Entries.All p es) (heq : Entries.update dotted change path b es = some (a, es')) :
    q a ∧ Entries.All p es' := by
  induction path generalizing b es a es' with
  | nil => exact hchange b es a es' h heq
  | cons key path ih =>
    rw [Entries.update] at heq
    split at heq
    · obtain ⟨⟨a', inner⟩, hinner, hout⟩ := Option.bind_eq_some_iff.mp heq
      obtain ⟨rfl, rfl⟩ := Prod.mk.inj (Option.some.inj hout)
      obtain ⟨ha, hall⟩ := ih nil hinner
      exact ⟨ha, h.append (.table hall)⟩
    · cases heq
    · rename_i implicit madeDotted inner hlookup
      split at heq
      · cases heq
      · obtain ⟨⟨a', inner'⟩, hinner, hout⟩ := Option.bind_eq_some_iff.mp heq
        obtain ⟨rfl, rfl⟩ := Prod.mk.inj (Option.some.inj hout)
        obtain ⟨ha, hall⟩ := ih (of_table (h.lookup hlookup)) hinner
        exact ⟨ha, h.replace (.table hall)⟩
    · rename_i elements hlookup
      cases h.lookup hlookup with
      | tables helements =>
        split at heq
        · cases heq
        · rename_i last before hlast
          obtain ⟨⟨a', last'⟩, hinner, hout⟩ := Option.bind_eq_some_iff.mp heq
          obtain ⟨rfl, rfl⟩ := Prod.mk.inj (Option.some.inj hout)
          have hmem : ∀ es ∈ last :: before, Entries.All p es := by
            intro es hes
            rw [← hlast, List.mem_reverse] at hes
            exact helements es hes
          obtain ⟨ha, hall⟩ := ih (hmem last List.mem_cons_self) hinner
          refine ⟨ha, h.replace (.tables ?_)⟩
          intro es hes
          obtain rfl | hes := List.mem_cons.mp (List.mem_reverse.mp hes)
          · exact hall
          · exact hmem es (List.mem_cons_of_mem last hes)

theorem put {path : List String} (h : Entries.All p es) (hv : p v)
    (heq : es.put path key v = some es') : Entries.All p es' := by
  obtain ⟨⟨a, es₁⟩, hupdate, rfl⟩ := Option.map_eq_some_iff.mp heq
  refine (h.update (q := fun _ => True) ?_ hupdate).2
  intro b es a es' h heq
  split at heq
  · cases heq
  · split at heq
    · cases heq
    · obtain ⟨-, rfl⟩ := Prod.mk.inj (Option.some.inj heq)
      exact ⟨trivial, h.append (.value hv)⟩

end Entries.All

namespace Draft.All

theorem settled (h : d.All p) (heq : d.settled = some es) : Entries.All p es := by
  unfold Draft.settled at heq
  split at heq
  · rw [← Option.some.inj heq]
    exact h.current
  · obtain ⟨⟨a, es₁⟩, hupdate, rfl⟩ := Option.map_eq_some_iff.mp heq
    refine (h.root.update (q := fun _ => True) ?_ hupdate).2
    intro b es a es' hes heq
    split at heq
    · obtain ⟨-, rfl⟩ := Prod.mk.inj (Option.some.inj heq)
      refine ⟨trivial, hes.append ?_⟩
      split
      · exact .tables (List.forall_mem_singleton.mpr h.current)
      · exact .table h.current
    · rename_i elements hlookup
      split at heq
      · obtain ⟨-, rfl⟩ := Prod.mk.inj (Option.some.inj heq)
        refine ⟨trivial, hes.replace (.tables ?_)⟩
        cases hes.lookup hlookup with
        | tables helements =>
          intro es hmem
          obtain hmem | hmem := List.mem_append.mp hmem
          · exact helements es hmem
          · rw [List.mem_singleton.mp hmem]
            exact h.current
      · cases heq
    · split at heq
      · cases heq
      · obtain ⟨-, rfl⟩ := Prod.mk.inj (Option.some.inj heq)
        exact ⟨trivial, hes.replace (.table h.current)⟩
    · cases heq

theorem beginTable {parts : List String} (h : d.All p) (heq : d.beginTable parts = some d') :
    d'.All p := by
  obtain ⟨root, hroot, hrest⟩ := Option.bind_eq_some_iff.mp heq
  obtain ⟨⟨current, root'⟩, hupdate, hout⟩ := Option.bind_eq_some_iff.mp hrest
  obtain rfl := Option.some.inj hout
  have hall := (h.settled hroot).update (q := Entries.All p) ?_ hupdate
  · exact ⟨hall.2, hall.1⟩
  intro b es a es' hes heq
  split at heq
  · obtain ⟨rfl, rfl⟩ := Prod.mk.inj (Option.some.inj heq)
    exact ⟨Entries.All.nil, hes⟩
  · rename_i inner hlookup
    obtain ⟨rfl, rfl⟩ := Prod.mk.inj (Option.some.inj heq)
    exact ⟨Entries.All.of_table (hes.lookup hlookup), fun e he => hes e (List.mem_filter.mp he).1⟩
  · cases heq

theorem beginElement {parts : List String} (h : d.All p) (heq : d.beginElement parts = some d') :
    d'.All p := by
  obtain ⟨root, hroot, hrest⟩ := Option.bind_eq_some_iff.mp heq
  obtain ⟨⟨a, root'⟩, hupdate, hout⟩ := Option.bind_eq_some_iff.mp hrest
  obtain rfl := Option.some.inj hout
  refine ⟨((h.settled hroot).update (q := fun _ => True) ?_ hupdate).2, Entries.All.nil⟩
  intro b es a es' hes heq
  split at heq
  · obtain ⟨-, rfl⟩ := Prod.mk.inj (Option.some.inj heq)
    exact ⟨trivial, hes⟩
  · obtain ⟨-, rfl⟩ := Prod.mk.inj (Option.some.inj heq)
    exact ⟨trivial, hes⟩
  · cases heq

theorem put {parts : List String} (h : d.All p) (hv : p v) (heq : d.put parts v = some d') :
    d'.All p := by
  obtain ⟨current, hcurrent, hout⟩ := Option.bind_eq_some_iff.mp heq
  obtain rfl := Option.some.inj hout
  exact ⟨h.root, h.current.put hv hcurrent⟩

end Draft.All

variable {cs rest : List Char} {n m : Int}

theorem bounds_of_inRange? (h : inRange? m = some n) :
    -(Nat.pow 2 63 : Int) ≤ n ∧ n < Nat.pow 2 63 := by
  unfold inRange? at h
  split at h
  · rename_i hm
    rw [← Option.some.inj h]
    simpa using hm
  · cases h

theorem bounds_of_integer? (h : integer? cs = some n) :
    -(Nat.pow 2 63 : Int) ≤ n ∧ n < Nat.pow 2 63 := by
  unfold integer? at h
  split at h
  all_goals
    obtain ⟨ds, -, h⟩ := Option.bind_eq_some_iff.mp h
    exact bounds_of_inRange? h

theorem inRange_of_scalar? (h : scalar? cs = some v) : v.InRange := by
  have hother {w : Value} (hw : some w = some v) (hne : ∀ n, w ≠ .integer n) : v.InRange := by
    intro n hn
    exact absurd ((Option.some.inj hw).trans hn) (hne n)
  unfold scalar? at h
  split_ifs at h
  · exact hother h (by simp)
  · exact hother h (by simp)
  · exact hother h (by simp)
  · exact hother h (by simp)
  · obtain ⟨n, hn, rfl⟩ := Option.map_eq_some_iff.mp h
    intro m hm
    rw [← Value.integer.inj hm]
    exact bounds_of_integer? hn

/-- A value that is read has 64 bits if it is an integer. -/
theorem inRange_of_readValue {depth : Nat} (h : readValue depth cs = some (v, rest)) :
    v.InRange := by
  have hother {α : Type} {x : Option α} {f : α → Value × List Char}
      (h : x.map f = some (v, rest)) (hne : ∀ a n, (f a).1 ≠ .integer n) : v.InRange := by
    obtain ⟨a, -, ha⟩ := Option.map_eq_some_iff.mp h
    intro n hn
    exact absurd (by rw [ha, hn]) (hne a n)
  unfold readValue at h
  split at h
  · exact hother h (by simp)
  · exact hother h (by simp)
  · exact hother h (by simp)
  · split at h
    · obtain ⟨rfl, -⟩ := Prod.mk.inj (Option.some.inj h)
      intro n hn
      cases hn
    · exact hother h (by simp)
  · obtain ⟨w, hw, heq⟩ := Option.map_eq_some_iff.mp h
    obtain ⟨rfl, -⟩ := Prod.mk.inj heq
    exact inRange_of_scalar? hw

theorem Draft.All.readEntry (h : d.All Value.InRange) (heq : readEntry d cs = some (d', rest)) :
    d'.All Value.InRange := by
  unfold Toml.readEntry at heq
  split at heq
  · obtain ⟨⟨parts, rest'⟩, -, heq⟩ := Option.bind_eq_some_iff.mp heq
    obtain ⟨d₁, hd, hout⟩ := Option.bind_eq_some_iff.mp heq
    obtain ⟨rfl, -⟩ := Prod.mk.inj (Option.some.inj hout)
    exact h.beginElement hd
  · obtain ⟨⟨parts, rest'⟩, -, heq⟩ := Option.bind_eq_some_iff.mp heq
    obtain ⟨d₁, hd, hout⟩ := Option.bind_eq_some_iff.mp heq
    obtain ⟨rfl, -⟩ := Prod.mk.inj (Option.some.inj hout)
    exact h.beginTable hd
  · obtain ⟨⟨parts, v, rest'⟩, hpair, heq⟩ := Option.bind_eq_some_iff.mp heq
    obtain ⟨d₁, hd, heq⟩ := Option.bind_eq_some_iff.mp heq
    obtain ⟨rest₁, -, hout⟩ := Option.bind_eq_some_iff.mp heq
    obtain ⟨rfl, -⟩ := Prod.mk.inj (Option.some.inj hout)
    refine h.put ?_ hd
    obtain ⟨⟨parts', rest₂⟩, -, hpair⟩ := Option.bind_eq_some_iff.mp hpair
    dsimp only at hpair
    split at hpair
    · obtain ⟨⟨w, rest₃⟩, hw, hout⟩ := Option.bind_eq_some_iff.mp hpair
      obtain ⟨-, hout⟩ := Prod.mk.inj (Option.some.inj hout)
      obtain ⟨rfl, -⟩ := Prod.mk.inj hout
      exact inRange_of_readValue hw
    · cases hpair

theorem Draft.All.readLines (h : d.All Value.InRange) (heq : readLines d cs = some d') :
    d'.All Value.InRange := by
  fun_induction Toml.readLines d cs with
  | case1 => cases heq
  | case2 => exact Option.some.inj heq ▸ h
  | case3 => cases heq
  | case4 d cs cs' hskip hne d₁ rest hentry hlt ih => exact ih (h.readEntry hentry) heq
  | case5 => cases heq

theorem Item.All.toValue (h : i.All Value.InRange) : i.toValue.InRange := by
  intro n hn
  cases h with
  | value h => exact h n hn
  | table h => cases hn
  | tables h => cases hn

theorem Entries.All.values (h : Entries.All Value.InRange es) :
    ∀ f ∈ entriesValues es, f.2.InRange := by
  induction es with
  | nil => simp [entriesValues]
  | cons e es ih =>
    obtain ⟨hi, hes⟩ := List.forall_mem_cons.mp h
    exact List.forall_mem_cons.mpr ⟨hi.toValue, ih hes⟩

/-- Every integer that a document gives a key has 64 bits. -/
theorem inRange_of_parse? {text : String} {fields : List (String × Value)}
    (h : parse? text = some fields) : ∀ f ∈ fields, f.2.InRange := by
  obtain ⟨d, hd, h⟩ := Option.bind_eq_some_iff.mp h
  obtain ⟨es, hes, hout⟩ := Option.bind_eq_some_iff.mp h
  obtain rfl := Option.some.inj hout
  have hstart : ({} : Draft).All Value.InRange := ⟨Entries.All.nil, Entries.All.nil⟩
  exact ((hstart.readLines hd).settled hes).values

end PhotoGrouping.Toml
