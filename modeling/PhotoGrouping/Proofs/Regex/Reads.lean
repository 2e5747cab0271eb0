import PhotoGrouping.Proofs.Regex.Parts

namespace PhotoGrouping.Regex

theorem Flags.skip_eq_self {f : Flags} (h : f.verbose = false) (cs : List Char) :
    f.skip cs = cs := by
  simp [Flags.skip, h]

theorem parseFrom_nil {st : ParseState} (h : st.flags.verbose = false) :
    parseFrom st [] = .ok st := by
  rw [parseFrom]
  split
  · rfl
  · rename_i hc
    rw [Flags.skip_eq_self h] at hc
    cases hc

theorem parseFrom_cons {st st' : ParseState} {c : Char} {cs rest : List Char}
    (h : st.flags.verbose = false) (hi : readItem st c cs = .ok (st', rest)) :
    parseFrom st (c :: cs) = parseFrom st' rest := by
  rw [parseFrom]
  split
  · rename_i hc
    rw [Flags.skip_eq_self h] at hc
    cases hc
  · rename_i c' cs' hc
    rw [Flags.skip_eq_self h] at hc
    cases hc
    split
    · rename_i he
      rw [hi] at he
      cases he
    · rename_i ho
      rw [hi] at ho
      cases ho
      rfl

/-- The settings of a pattern that says nothing but whether case counts. -/
def folding (caseless : Bool) : Flags :=
  { caseless := caseless }

namespace ParseState

/-- The state with further expressions on the current branch and a number of groups begun. -/
def extend (st : ParseState) (nodes : List Node) (captures : Nat) : ParseState :=
  { st with branch := nodes.reverse.map .node ++ st.branch, captures := captures }

@[simp] theorem extend_flags (st : ParseState) (nodes : List Node) (m : Nat) :
    (st.extend nodes m).flags = st.flags := rfl

@[simp] theorem extend_captures (st : ParseState) (nodes : List Node) (m : Nat) :
    (st.extend nodes m).captures = m := rfl

theorem extend_extend (st : ParseState) (ns ms : List Node) (m k : Nat) :
    (st.extend ns m).extend ms k = st.extend (ns ++ ms) k := by
  simp [extend]

end ParseState

/-- Among `n` groups begun, a text stands for expressions one after the other whatever surrounds it,
unless a `?` follows, and brings the groups begun to `m`. -/
structure Reads (caseless : Bool) (n : Nat) (t : List Char) (rs : List Expr) (m d : Nat) : Prop where
  head_ne : t.head? ≠ some '?'
  captures : m = n + (rs.map Expr.captureCount).sum
  nodes : ∃ nodes : List Node, nodes.map (·.expr) = rs ∧ (∀ node ∈ nodes, node.depth ≤ d) ∧
    ∀ (st : ParseState) (rest : List Char), st.flags = folding caseless → st.captures = n →
      rest.head? ≠ some '?' → parseFrom st (t ++ rest) = parseFrom (st.extend nodes m) rest

/-- Among `n` groups begun, a text stands for one expression whatever surrounds it. -/
structure ReadsItem (caseless : Bool) (n : Nat) (t : List Char) (r : Expr) (m d : Nat) : Prop where
  head : ∃ c cs, t = c :: cs ∧ c ≠ '?'
  captures : m = n + r.captureCount
  node : ∃ node : Node, node.expr = r ∧ node.depth ≤ d ∧
    ∀ (st : ParseState) (rest : List Char), st.flags = folding caseless → st.captures = n →
      parseFrom st (t ++ rest) = parseFrom (st.extend [node] m) rest

variable {b c : Bool} {n m k d e : Nat} {t u : List Char} {ts : List (List Char)} {r : Expr}
  {rs ss : List Expr} {rss : List (List Expr)}

theorem head?_append_ne {α : Type} {t u : List α} {c : α} (ht : t.head? ≠ some c)
    (hu : u.head? ≠ some c) : (t ++ u).head? ≠ some c := by
  cases t with
  | nil => exact hu
  | cons x t => exact ht

theorem Reads.nil : Reads b n [] [] n d := by
  refine ⟨by simp, rfl, [], rfl, by simp, ?_⟩
  intro st rest _ hn _
  subst hn
  rfl

theorem Reads.append (ht : Reads b n t rs m d) (hu : Reads b m u ss k d) :
    Reads b n (t ++ u) (rs ++ ss) k d := by
  obtain ⟨ht0, htc, ns, hns, hnd, hnr⟩ := ht
  obtain ⟨hu0, huc, ms, hms, hmd, hmr⟩ := hu
  refine ⟨head?_append_ne ht0 hu0, ?_, ns ++ ms, ?_, ?_, ?_⟩
  · rw [huc, htc, List.map_append, List.sum_append, Nat.add_assoc]
  · rw [List.map_append, hns, hms]
  · intro node h
    exact (List.mem_append.mp h).elim (hnd node) (hmd node)
  · intro st rest hf hn hr
    rw [List.append_assoc, hnr st _ hf hn (head?_append_ne hu0 hr),
      hmr _ _ (by simpa using hf) (by simp) hr, ParseState.extend_extend]

theorem Reads.mono (h : Reads b n t rs m d) (hd : d ≤ e) : Reads b n t rs m e := by
  obtain ⟨h0, hc, ns, hns, hnd, hnr⟩ := h
  exact ⟨h0, hc, ns, hns, fun node hn => Nat.le_trans (hnd node hn) hd, hnr⟩

theorem ReadsItem.reads (h : ReadsItem b n t r m d) : Reads b n t [r] m d := by
  obtain ⟨⟨c, cs, ht, hc⟩, hm, node, he, hd, hr⟩ := h
  refine ⟨by simpa [ht] using hc, by simpa using hm, [node], by simp [he], by simpa using hd, ?_⟩
  intro st rest hf hn _
  exact hr st rest hf hn

/-- A text stands for one list of expressions only. -/
theorem Reads.unique (h : Reads b n t rs m d) (h' : Reads b n t ss k e) : rs = ss := by
  obtain ⟨-, -, ns, hns, -, hnr⟩ := h
  obtain ⟨-, -, ms, hms, -, hmr⟩ := h'
  let st : ParseState := { flags := folding b, captures := n }
  have h1 := hnr st [] rfl rfl (by simp)
  have h2 := hmr st [] rfl rfl (by simp)
  rw [parseFrom_nil (by rfl)] at h1 h2
  rw [h1] at h2
  have hb := congrArg ParseState.branch (Except.ok.inj h2)
  simp only [ParseState.extend, st, List.append_nil] at hb
  have hm : ns = ms := by
    rw [← List.reverse_inj]
    exact (List.map_inj_right fun x y hxy => Piece.node.inj hxy).mp hb
  rw [← hns, ← hms, hm]

/-- An item that its first character and those after it make out on their own. -/
theorem readsItem_of_readItem {c : Char} {cs : List Char} (hc : c ≠ '?') (node : Node)
    (he : node.expr = r) (hm : r.captureCount = 0) (hd : node.depth ≤ d)
    (h : ∀ (st : ParseState) (rest : List Char), st.flags = folding b →
      readItem st c (cs ++ rest) = .ok (st.push (.node node), rest)) :
    ReadsItem b n (c :: cs) r n d := by
  refine ⟨⟨c, cs, rfl, hc⟩, by rw [hm, Nat.add_zero], node, he, hd, ?_⟩
  intro st rest hf hn
  subst hn
  exact parseFrom_cons (by rw [hf]; rfl) (h st rest hf)

/-- A text that repeats the item before it. -/
theorem ReadsItem.repeated {q : Char} {s : List Char} {least : Nat} {most : Option Nat}
    (h : ReadsItem b n t r m d)
    (hq : ∀ (st : ParseState) (rest : List Char), st.flags = folding b →
      rest.head? ≠ some '?' →
      readItem st q (s ++ rest) = (st.repeatLast least most true).map (·, rest)) :
    Reads b n (t ++ q :: s) [.rep least most true r] m (d + 1) := by
  obtain ⟨⟨c, cs, ht, hc⟩, hm, node, he, hd, hr⟩ := h
  refine ⟨by simpa [ht] using hc, by simpa [Expr.captureCount] using hm,
    [⟨.rep least most true node.expr, node.depth + 1⟩], by simp [he], by simpa using hd, ?_⟩
  intro st rest hf hn hrest
  have hi := hq (st.extend [node] m) rest (by simpa using hf) hrest
  have hl : (st.extend [node] m).repeatLast least most true =
      .ok (st.extend [⟨.rep least most true node.expr, node.depth + 1⟩] m) := by
    simp [ParseState.repeatLast, ParseState.extend, hf, folding]
  rw [hl] at hi
  rw [List.append_assoc, hr st _ hf hn, List.cons_append]
  exact parseFrom_cons (by simp [hf, folding]) hi

private theorem readRepeat_eq {rest : List Char} (hr : rest.head? ≠ some '?') (st : ParseState)
    (least : Nat) (most : Option Nat) :
    readRepeat st least most rest = (st.repeatLast least most true).map (·, rest) := by
  have hl : readLazy rest = (false, rest) := by
    unfold readLazy
    split
    · exact absurd rfl hr
    · rfl
  simp [readRepeat, hl]

theorem ReadsItem.star (h : ReadsItem b n t r m d) :
    Reads b n (t ++ ['*']) [.rep 0 none true r] m (d + 1) :=
  h.repeated fun st _ _ hr => readRepeat_eq hr st 0 none

theorem ReadsItem.plus (h : ReadsItem b n t r m d) :
    Reads b n (t ++ ['+']) [.rep 1 none true r] m (d + 1) :=
  h.repeated fun st _ _ hr => readRepeat_eq hr st 1 none

theorem ReadsItem.optional (h : ReadsItem b n t r m d) :
    Reads b n (t ++ ['?']) [.rep 0 (some 1) true r] m (d + 1) :=
  h.repeated fun st _ _ hr => readRepeat_eq hr st 0 (some 1)

/-- Where bounds can be read, there is nothing to repeat whatever the bounds are. -/
theorem readCounted_of_readBounds {st : ParseState} {least : Nat} {most : Option Nat}
    {cs rest : List Char} (h : readBounds st.flags cs = .ok ((least, most), rest)) :
    readCounted st cs = readRepeat st least most (st.flags.skip rest) := by
  unfold readCounted
  split
  · rw [h]
  · rename_i hnone
    rw [readRepeat, ParseState.repeatLast_of_canRepeat_eq_false (Bool.eq_false_iff.mpr hnone)]
    rfl

theorem ReadsItem.counted {bounds : List Char} {least : Nat} {most : Option Nat}
    (h : ReadsItem b n t r m d)
    (hb : ∀ rest, readBounds (folding b) (bounds ++ rest) = .ok ((least, most), rest)) :
    Reads b n (t ++ '{' :: bounds) [.rep least most true r] m (d + 1) := by
  apply h.repeated
  intro st rest hf hr
  rw [← readRepeat_eq hr]
  have hbounds := hb rest
  rw [← hf] at hbounds
  have hshown : st.flags.skip rest = rest := Flags.skip_eq_self (by rw [hf]; rfl) rest
  rw [← hshown]
  exact readCounted_of_readBounds (by rw [hshown]; exact hbounds)

private theorem foldl_max_le {l : List Nat} {a : Nat} (ha : a ≤ d) (h : ∀ x ∈ l, x ≤ d) :
    l.foldl max a ≤ d := by
  induction l generalizing a with
  | nil => exact ha
  | cons x l ih =>
    rw [List.foldl_cons]
    exact ih (Nat.max_le.mpr ⟨ha, h x (by simp)⟩) fun y hy => h y (by simp [hy])

theorem ParseState.branchNode_expr {st : ParseState} {nodes : List Node}
    (h : st.branch = (nodes.map .node).reverse) :
    st.branchNode.expr = Expr.catOf (nodes.map (·.expr)) := by
  have hp : (nodes.map Piece.node).filterMap Piece.expr? = nodes.map (·.expr) := by
    rw [List.filterMap_map]
    exact congrFun List.filterMap_eq_map nodes
  simp only [ParseState.branchNode, h, List.reverse_reverse, hp]

theorem ParseState.branchNode_depth_le {st : ParseState} {nodes : List Node}
    (h : st.branch = (nodes.map .node).reverse) (hd : ∀ node ∈ nodes, node.depth ≤ d) :
    st.branchNode.depth ≤ d + 1 := by
  have hm : (st.branch.map Piece.depth).foldl max 0 ≤ d := by
    apply foldl_max_le (Nat.zero_le d)
    intro x hx
    simp only [h, List.map_reverse, List.map_map, List.mem_reverse, List.mem_map] at hx
    obtain ⟨node, hn, rfl⟩ := hx
    exact hd node hn
  simp only [ParseState.branchNode]
  split
  · exact Nat.le_succ_of_le hm
  · exact Nat.succ_le_succ hm

/-- The expression that branches are the alternatives of. -/
def groupOf (branches : List Node) : Node :=
  match branches with
  | [node] => node
  | _ => ⟨Expr.altOf (branches.map (·.expr)), (branches.map (·.depth)).foldl max 0 + 1⟩

theorem ParseState.groupNode_eq_groupOf (st : ParseState) :
    st.groupNode = groupOf (st.branches.reverse ++ [st.branchNode]) := by
  unfold ParseState.groupNode
  split
  · rename_i hb
    simp [hb, groupOf]
  · rename_i node rest hb
    unfold groupOf
    split
    · rename_i hn
      have hl := congrArg List.length hn
      simp [hb] at hl
    · rw [hb]

theorem groupOf_expr (branches : List Node) :
    (groupOf branches).expr = Expr.altOf (branches.map (·.expr)) := by
  unfold groupOf
  split
  · rfl
  · rfl

theorem groupOf_depth_le {branches : List Node} (h : ∀ node ∈ branches, node.depth ≤ d) :
    (groupOf branches).depth ≤ d + 1 := by
  unfold groupOf
  split
  · exact Nat.le_succ_of_le (h _ (by simp))
  · apply Nat.succ_le_succ
    apply foldl_max_le (Nat.zero_le d)
    intro x hx
    obtain ⟨node, hn, rfl⟩ := List.mem_map.mp hx
    exact h node hn

/-- A list of texts, each of which stands for expressions of its own under the same settings. -/
abbrev ReadsEach (caseless : Bool) (n : Nat) (ts : List (List Char)) (rss : List (List Expr))
    (d : Nat) : Prop :=
  List.Forall₂ (fun t rs => Reads caseless n t rs n d) ts rss

private theorem head?_intercalate_ne {rest : List Char} (h : ReadsEach b n ts rss d)
    (hr : rest.head? ≠ some '?') : (['|'].intercalate ts ++ rest).head? ≠ some '?' := by
  cases h with
  | nil => exact hr
  | @cons t _ ts _ ht hts =>
    cases ts with
    | nil =>
      rw [List.intercalate_singleton]
      exact head?_append_ne ht.head_ne hr
    | cons u us =>
      rw [List.intercalate_cons_cons, List.append_assoc, List.append_assoc]
      exact head?_append_ne ht.head_ne (by simp)

/-- Texts with `|` between them stand for one branch each. -/
private theorem parseFrom_branches (h : ReadsEach b n ts rss d) (hne : ts ≠ []) :
    ∃ nodes : List Node, nodes.map (·.expr) = rss.map Expr.catOf ∧
      (∀ node ∈ nodes, node.depth ≤ d + 1) ∧
      ∀ (st : ParseState) (rest : List Char), st.flags = folding b → st.captures = n →
        st.branch = [] → rest.head? ≠ some '?' → ∃ branch branches,
          parseFrom st (['|'].intercalate ts ++ rest) =
            parseFrom { st with branch := branch, branches := branches } rest ∧
          branches.reverse ++ [{ st with branch := branch, branches := branches }.branchNode] =
            st.branches.reverse ++ nodes := by
  induction h with
  | nil => exact absurd rfl hne
  | @cons t rs ts rss ht hts ih =>
    obtain ⟨-, -, ns, hns, hnd, hnr⟩ := ht
    let first : ParseState := { flags := folding b, branch := (ns.map .node).reverse }
    have hexpr : first.branchNode.expr = Expr.catOf rs := by
      rw [ParseState.branchNode_expr (show first.branch = (ns.map .node).reverse from rfl), hns]
    have hdepth : first.branchNode.depth ≤ d + 1 := ParseState.branchNode_depth_le rfl hnd
    cases hts with
    | nil =>
      refine ⟨[first.branchNode], by simp [hexpr], by simpa using hdepth, ?_⟩
      intro st rest hf hn hb hr
      refine ⟨(ns.map .node).reverse, st.branches, ?_, rfl⟩
      rw [List.intercalate_singleton, hnr st rest hf hn hr, ParseState.extend, hb]
      subst hn
      simp
    | @cons u us ts' rss' hu hts' =>
      obtain ⟨nodes, hnodes, hnodesd, hnodesr⟩ := ih (by simp)
      refine ⟨first.branchNode :: nodes, by simp [hexpr, hnodes], ?_, ?_⟩
      · intro node hm
        rcases List.mem_cons.mp hm with rfl | hm
        · exact hdepth
        · exact hnodesd node hm
      · intro st rest hf hn hb hr
        let st' : ParseState := (st.extend ns n).nextBranch
        obtain ⟨branch, branches, hp, hall⟩ := hnodesr st' rest hf rfl rfl hr
        have hfirst : (st.extend ns n).branchNode = first.branchNode := by
          simp [ParseState.branchNode, ParseState.extend, first, hb]
        refine ⟨branch, branches, ?_, ?_⟩
        · rw [List.intercalate_cons_cons, List.append_assoc, List.append_assoc,
            hnr st _ hf hn (by simp), List.singleton_append,
            parseFrom_cons (by simp [hf, folding]) (show readItem _ '|' _ = .ok (st', _) from rfl), hp]
          subst hn
          rfl
        · subst hn
          have hbr : st'.branches = first.branchNode :: st.branches := by
            rw [← hfirst]
            rfl
          rw [hbr, List.reverse_cons, List.append_assoc] at hall
          exact hall

/-- The expression of a group: what it captures under an index, if it has one. -/
def groupExpr (index : Option Nat) (r : Expr) : Expr :=
  match index with
  | some i => .capture i r
  | none => r

private theorem captureCount_alternatives (h : ReadsEach b n ts rss d) :
    (Expr.altOf (rss.map Expr.catOf)).captureCount = 0 := by
  rw [Expr.captureCount_altOf, List.map_map]
  induction h with
  | nil => rfl
  | @cons t rs ts rss ht hts ih =>
    have hc : (Expr.catOf rs).captureCount = 0 := by
      rw [Expr.captureCount_catOf]
      have := ht.captures
      omega
    rw [List.map_cons, List.sum_cons, ih, Function.comp, hc]

/-- Texts with `|` between them in a group, whose front settles the case inside. -/
private theorem readsItem_group (front : List Char) (index : Option Nat)
    (hk : k = n + if index.isSome then 1 else 0)
    (ho : ∀ (st : ParseState) (rest : List Char), st.flags = folding b → st.captures = n →
      rest.head? ≠ some '?' →
      readItem st '(' (front ++ rest) = .ok ({ st.enter index (folding c) with captures := k }, rest))
    (h : ReadsEach c k ts rss d) (hne : ts ≠ []) :
    ReadsItem b n ('(' :: front ++ ['|'].intercalate ts ++ [')'])
      (groupExpr index (Expr.altOf (rss.map Expr.catOf))) k (d + 3) := by
  obtain ⟨nodes, hexpr, hdepth, hread⟩ := parseFrom_branches h hne
  refine ⟨⟨'(', _, rfl, by decide⟩, ?_,
    ⟨groupExpr index (groupOf nodes).expr, (groupOf nodes).depth + 1⟩, ?_,
    Nat.succ_le_succ (groupOf_depth_le hdepth), ?_⟩
  · have hc := captureCount_alternatives h
    cases index with
    | none => simpa [groupExpr, hc] using hk
    | some i => simpa [groupExpr, Expr.captureCount, hc] using hk
  · rw [groupOf_expr, hexpr]
  · intro st rest hf hn
    let inner : ParseState := { st.enter index (folding c) with captures := k }
    obtain ⟨branch, branches, hp, hall⟩ := hread inner (')' :: rest) rfl rfl rfl (by simp)
    have hclose : (['|'].intercalate ts ++ ')' :: rest).head? ≠ some '?' :=
      head?_intercalate_ne h (by simp)
    have hgroup : { inner with branch := branch, branches := branches }.groupNode =
        groupOf nodes := by
      rw [ParseState.groupNode_eq_groupOf, hall]
      rfl
    have hleave : readItem { inner with branch := branch, branches := branches } ')' rest =
        .ok (st.extend [⟨groupExpr index (groupOf nodes).expr, (groupOf nodes).depth + 1⟩] k, rest) := by
      simp only [readItem, ParseState.leave, hgroup]
      rfl
    calc parseFrom st ('(' :: front ++ ['|'].intercalate ts ++ [')'] ++ rest)
        = parseFrom st ('(' :: (front ++ (['|'].intercalate ts ++ ')' :: rest))) := by simp
      _ = parseFrom inner (['|'].intercalate ts ++ ')' :: rest) :=
        parseFrom_cons (by rw [hf]; rfl) (ho st _ hf hn hclose)
      _ = parseFrom _ (')' :: rest) := hp
      _ = parseFrom _ rest := parseFrom_cons rfl hleave

/-- Texts with `|` between them in a capturing group. -/
theorem readsItem_capture (h : ReadsEach b (n + 1) ts rss d) (hne : ts ≠ []) :
    ReadsItem b n ('(' :: ['|'].intercalate ts ++ [')'])
      (.capture (n + 1) (Expr.altOf (rss.map Expr.catOf))) (n + 1) (d + 3) := by
  refine readsItem_group [] (some (n + 1)) rfl ?_ h hne
  intro st rest hf hn hr
  have ho : openGroup st rest = .ok (st.enterCapture, rest) := by
    unfold openGroup
    rw [Flags.skip_eq_self (by rw [hf]; rfl)]
    split
    case h_9 => rfl
    all_goals exact absurd rfl hr
  subst hn
  change openGroup st rest = _
  rw [ho, ← hf]
  rfl

/-- Texts with `|` between them in a group without capture. -/
theorem readsItem_plainGroup (h : ReadsEach b n ts rss d) (hne : ts ≠ []) :
    ReadsItem b n ('(' :: ['?', ':'] ++ ['|'].intercalate ts ++ [')'])
      (Expr.altOf (rss.map Expr.catOf)) n (d + 3) := by
  refine readsItem_group ['?', ':'] none rfl ?_ h hne
  intro st rest hf hn hr
  subst hn
  change openGroup st ('?' :: ':' :: rest) = _
  rw [openGroup, Flags.skip_eq_self (by rw [hf]; rfl), ← hf]
  rfl

/-- Texts with `|` between them in a group without capture in which case does not count. -/
theorem readsItem_caselessGroup (h : ReadsEach true n ts rss d) (hne : ts ≠ []) :
    ReadsItem b n ('(' :: ['?', 'i', ':'] ++ ['|'].intercalate ts ++ [')'])
      (Expr.altOf (rss.map Expr.catOf)) n (d + 3) := by
  refine readsItem_group ['?', 'i', ':'] none rfl ?_ h hne
  intro st rest hf hn hr
  subst hn
  change openGroup st ('?' :: 'i' :: ':' :: rest) = _
  rw [openGroup, Flags.skip_eq_self (by rw [hf]; rfl), hf]
  rfl

/-- A whole text that stands for expressions is a pattern of them, unless it nests too deep. -/
theorem read_of_reads {text : String} (h : Reads b 0 text.toList rs m d) (hd : d < maxDepth) :
    Regex.read text b = .ok ⟨Expr.catOf rs⟩ := by
  obtain ⟨-, -, nodes, hns, hnd, hnr⟩ := h
  let st : ParseState := { flags := folding b }
  have hp : parseFrom st text.toList = .ok (st.extend nodes m) := by
    have h := hnr st [] rfl rfl (by simp)
    rw [List.append_nil] at h
    rw [h]
    exact parseFrom_nil rfl
  have hb : (st.extend nodes m).branch = (nodes.map .node).reverse := by
    simp [ParseState.extend, st]
  have hexpr : (st.extend nodes m).groupNode.expr = Expr.catOf rs := by
    rw [← hns]
    exact ParseState.branchNode_expr hb
  have hdepth : (st.extend nodes m).groupNode.depth ≤ d + 1 :=
    ParseState.branchNode_depth_le hb hnd
  have hfinish : (st.extend nodes m).finish = .ok (Expr.catOf rs) := by
    change (if (st.extend nodes m).groupNode.depth > maxDepth then _ else _) = _
    rw [if_neg (by omega), hexpr]
  have hread : parseFrom { flags := { caseless := b } } text.toList = .ok (st.extend nodes m) := hp
  simp only [read, hread, hfinish]

end PhotoGrouping.Regex
