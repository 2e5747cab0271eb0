import Mathlib.Data.List.DropRight
import PhotoGrouping.Log.Ring

namespace PhotoGrouping

namespace LogRing

variable {r : LogRing} {logged : List String}

/-- Eviction leaves as many of the newest lines as go with one more. -/
theorem evict_eq_rtake (n : Nat) (ls : List String) : evict (n + 1) ls = ls.rtake n := by
  induction ls with
  | nil => simp [evict]
  | cons l ls ih =>
    rw [evict, List.rtake]
    split
    · rename_i hfull
      have hdrop : (l :: ls).length - n = ls.length - n + 1 := by
        rw [List.length_cons] at hfull ⊢
        omega
      rw [ih, hdrop, List.drop_succ_cons, List.rtake]
    · rename_i hfits
      have hdrop : (l :: ls).length - n = 0 := by omega
      rw [hdrop, List.drop_zero]

theorem rtake_rtake_of_le {m n : Nat} (h : m ≤ n) (ls : List String) :
    (ls.rtake n).rtake m = ls.rtake m := by
  rw [List.rtake_eq_reverse_take_reverse, List.rtake_eq_reverse_take_reverse,
    List.rtake_eq_reverse_take_reverse, List.reverse_reverse, List.take_take, Nat.min_eq_left h]

/-- Whether a ring shows the newest of the lines that have been logged. -/
def Shows (r : LogRing) (logged : List String) : Prop :=
  r.lines = logged.rtake r.capacity

theorem Shows.push (h : r.Shows logged) (line : String) : (r.push line).Shows (logged ++ [line]) := by
  obtain ⟨capacity, lines⟩ := r
  have h : lines = logged.rtake capacity := h
  cases capacity with
  | zero =>
    have hnone : lines = [] := by simpa using h
    rw [hnone]
    exact (List.rtake_zero (logged ++ [line])).symm
  | succ n =>
    have hlines : ((⟨n + 1, lines⟩ : LogRing).push line).lines = evict (n + 1) lines ++ [line] := rfl
    have hcapacity : ((⟨n + 1, lines⟩ : LogRing).push line).capacity = n + 1 := rfl
    rw [Shows, hlines, hcapacity, evict_eq_rtake, h, rtake_rtake_of_le (Nat.le_succ n),
      List.rtake_concat_succ]

@[simp] theorem capacity_push (r : LogRing) (line : String) : (r.push line).capacity = r.capacity := by
  unfold LogRing.push
  split <;> rfl

@[simp] theorem capacity_pushAll (r : LogRing) (ls : List String) :
    (r.pushAll ls).capacity = r.capacity := by
  induction ls generalizing r with
  | nil => rfl
  | cons l ls ih => rw [pushAll, List.foldl_cons, ← pushAll, ih, capacity_push]

theorem Shows.pushAll (h : r.Shows logged) (ls : List String) :
    (r.pushAll ls).Shows (logged ++ ls) := by
  induction ls generalizing r logged with
  | nil => simpa [LogRing.pushAll] using h
  | cons l ls ih =>
    have hnext := ih (h.push l)
    rw [List.append_assoc, List.singleton_append] at hnext
    exact hnext

theorem shows_clear (r : LogRing) : r.clear.Shows [] := by
  simp [Shows, clear]

end LogRing

namespace LogBook

variable {b : LogBook} {capacity : Nat} {logged : List String}

def pushes (b : LogBook) : LogStep → List String
  | .push h line => if (b.handles[h]?).isSome then [line] else []
  | .flush w | .drop w => (b.writer? w).elim [] (·.drain.1)
  | _ => []

/-- The lines pushed since the latest clearing, after a step. -/
def loggedAfter (b : LogBook) (logged : List String) (s : LogStep) : List String :=
  match s with
  | .clear h => if (b.handles[h]?).isSome then [] else logged
  | s => logged ++ b.pushes s

/-- The lines pushed since the latest clearing, after several steps. -/
def loggedThrough (b : LogBook) (logged : List String) : List LogStep → List String
  | [] => logged
  | s :: steps => (b.step s).loggedThrough (b.loggedAfter logged s) steps

/-- Whether a book is one ring of a capacity that shows the newest of the lines that have been logged. -/
structure Shows (b : LogBook) (capacity : Nat) (logged : List String) : Prop where
  lines : b.lines = logged.rtake capacity
  handles : ∀ h ∈ b.handles, h.capacity = capacity
  writers : ∀ w, some w ∈ b.writers → w.handle.capacity = capacity

theorem shows_ofHandle (capacity : Nat) : (ofHandle ⟨capacity⟩).Shows capacity [] where
  lines := by simp [ofHandle]
  handles := by simp [ofHandle]
  writers := by simp [ofHandle]

theorem Shows.ring (hb : b.Shows capacity logged) {h : LogHandle} (hh : h.capacity = capacity) :
    (b.ring h).Shows logged := by
  have hlines : (b.ring h).lines = logged.rtake capacity := hb.lines
  rw [LogRing.Shows, hlines, ← hh]
  rfl

/-- What is done with the ring of a handle is done with the ring of all. -/
theorem Shows.setRing (hb : b.Shows capacity logged) {r : LogRing} {after : List String}
    (hr : r.Shows after) (hcapacity : r.capacity = capacity) : (b.setRing r).Shows capacity after where
  lines := by rw [← hcapacity]; exact hr
  handles := hb.handles
  writers := hb.writers

theorem Shows.setWriter (hb : b.Shows capacity logged) (n : Nat) {writer : Option LogWriter}
    (hw : ∀ w, writer = some w → w.handle.capacity = capacity) :
    (b.setWriter n writer).Shows capacity logged where
  lines := hb.lines
  handles := hb.handles
  writers := by
    intro w hmem
    obtain hmem | heq := List.mem_or_eq_of_mem_set hmem
    · exact hb.writers w hmem
    · exact hw w heq.symm

theorem mem_writers_of_writer? {n : Nat} {w : LogWriter} (h : b.writer? n = some w) :
    some w ∈ b.writers := by
  exact List.mem_of_getElem? (Option.join_eq_some_iff.mp h)

theorem handle_drain (w : LogWriter) : w.drain.2.handle = w.handle := by
  unfold LogWriter.drain
  split <;> rfl

theorem Shows.take (hb : b.Shows capacity logged) {w : LogWriter} (hw : w.handle.capacity = capacity) :
    (b.take w).Shows capacity (logged ++ w.drain.1) := by
  refine hb.setRing ((hb.ring hw).pushAll w.drain.1) ?_
  rw [LogRing.capacity_pushAll]
  exact hw

theorem Shows.addHandle (hb : b.Shows capacity logged) {handle : LogHandle}
    (hh : handle.capacity = capacity) :
    Shows { b with handles := b.handles ++ [handle] } capacity logged where
  lines := hb.lines
  handles := by
    intro other hother
    obtain hother | hother := List.mem_append.mp hother
    · exact hb.handles other hother
    · rw [List.mem_singleton.mp hother]
      exact hh
  writers := hb.writers

theorem Shows.addWriter (hb : b.Shows capacity logged) {handle : LogHandle}
    (hh : handle.capacity = capacity) :
    Shows { b with writers := b.writers ++ [some ⟨handle, []⟩] } capacity logged where
  lines := hb.lines
  handles := hb.handles
  writers := by
    intro w hw
    obtain hw | hw := List.mem_append.mp hw
    · exact hb.writers w hw
    · obtain rfl := Option.some.inj (List.mem_singleton.mp hw)
      exact hh

theorem Shows.stepHandle (hb : b.Shows capacity logged) {h : Nat} {f : LogHandle → LogBook}
    {after : List String} (hnone : b.handles[h]? = none → after = logged)
    (hsome : ∀ handle, b.handles[h]? = some handle → handle.capacity = capacity →
      (f handle).Shows capacity after) : (b.stepHandle h f).Shows capacity after := by
  unfold LogBook.stepHandle
  cases hget : b.handles[h]? with
  | none =>
    rw [hnone hget]
    exact hb
  | some handle => exact hsome handle hget (hb.handles handle (List.mem_of_getElem? hget))

theorem Shows.stepWriter (hb : b.Shows capacity logged) {n : Nat} {f : LogWriter → LogBook}
    {after : List String} (hnone : b.writer? n = none → after = logged)
    (hsome : ∀ w, b.writer? n = some w → w.handle.capacity = capacity →
      (f w).Shows capacity after) : (b.stepWriter n f).Shows capacity after := by
  unfold LogBook.stepWriter
  cases hget : b.writer? n with
  | none =>
    rw [hnone hget]
    exact hb
  | some w => exact hsome w hget (hb.writers w (mem_writers_of_writer? hget))

/-- The book keeps showing the newest lines, whatever is done through whichever handle or writer. -/
theorem Shows.step (hb : b.Shows capacity logged) (s : LogStep) :
    (b.step s).Shows capacity (b.loggedAfter logged s) := by
  cases s with
  | clone h =>
    have hlogged : b.loggedAfter logged (.clone h) = logged := List.append_nil logged
    rw [hlogged]
    exact hb.stepHandle (fun _ => rfl) fun handle _ hcapacity => hb.addHandle hcapacity
  | push h line =>
    refine hb.stepHandle (fun hget => by simp [loggedAfter, pushes, hget]) ?_
    intro handle hget hcapacity
    have hlogged : b.loggedAfter logged (.push h line) = logged ++ [line] := by
      simp [loggedAfter, pushes, hget]
    rw [hlogged]
    refine hb.setRing ((hb.ring hcapacity).push line) ?_
    rw [LogRing.capacity_push]
    exact hcapacity
  | clear h =>
    refine hb.stepHandle (fun hget => by simp [loggedAfter, hget]) ?_
    intro handle hget hcapacity
    have hlogged : b.loggedAfter logged (.clear h) = [] := by simp [loggedAfter, hget]
    rw [hlogged]
    exact hb.setRing (LogRing.shows_clear _) hcapacity
  | makeWriter h =>
    have hlogged : b.loggedAfter logged (.makeWriter h) = logged := List.append_nil logged
    rw [hlogged]
    exact hb.stepHandle (fun _ => rfl) fun handle _ hcapacity => hb.addWriter hcapacity
  | write n bytes =>
    have hlogged : b.loggedAfter logged (.write n bytes) = logged := List.append_nil logged
    rw [hlogged]
    refine hb.stepWriter (fun _ => rfl) fun w _ hcapacity => hb.setWriter n ?_
    intro w' hw'
    rw [← Option.some.inj hw']
    exact hcapacity
  | flush n =>
    refine hb.stepWriter (fun hget => by simp [loggedAfter, pushes, hget]) ?_
    intro w hget hcapacity
    have hlogged : b.loggedAfter logged (.flush n) = logged ++ w.drain.1 := by
      simp [loggedAfter, pushes, hget]
    rw [hlogged]
    refine (hb.take hcapacity).setWriter n ?_
    intro w' hw'
    rw [← Option.some.inj hw', handle_drain]
    exact hcapacity
  | drop n =>
    refine hb.stepWriter (fun hget => by simp [loggedAfter, pushes, hget]) ?_
    intro w hget hcapacity
    have hlogged : b.loggedAfter logged (.drop n) = logged ++ w.drain.1 := by
      simp [loggedAfter, pushes, hget]
    rw [hlogged]
    refine (hb.take hcapacity).setWriter n ?_
    intro w' hw'
    cases hw'

theorem Shows.run (hb : b.Shows capacity logged) (steps : List LogStep) :
    (b.run steps).Shows capacity (b.loggedThrough logged steps) := by
  induction steps generalizing b logged with
  | nil => exact hb
  | cons s steps ih => exact ih (hb.step s)

/-- However a ring is used, through any of its clones and writers: each clone shows the last lines that
were pushed since the latest clearing, as many as the capacity allows, and its tail are the last of
these. -/
theorem run_shows_newest (capacity : Nat) (steps : List LogStep) :
    let b := (ofHandle ⟨capacity⟩).run steps
    let logged := (ofHandle ⟨capacity⟩).loggedThrough [] steps
    ∀ h ∈ b.handles,
      (b.ring h).lines <:+ logged ∧ (b.ring h).length = min capacity logged.length ∧
      (b.ring h).length ≤ (b.ring h).capacity ∧ (b.ring h).capacity = capacity ∧
      ∀ n, (b.ring h).tail n <:+ (b.ring h).lines ∧
        ((b.ring h).tail n).length = min n (b.ring h).length := by
  intro b logged h hh
  have hshows : b.Shows capacity logged := (shows_ofHandle capacity).run steps
  have hcapacity : (b.ring h).capacity = capacity := hshows.handles h hh
  have hlines : (b.ring h).lines = logged.drop (logged.length - capacity) := hshows.lines
  have hlength : (b.ring h).length = min capacity logged.length := by
    rw [LogRing.length, hlines, List.length_drop]
    omega
  refine ⟨?_, hlength, ?_, hcapacity, ?_⟩
  · rw [hlines]
    exact List.drop_suffix _ logged
  · rw [hlength, hcapacity]
    exact Nat.min_le_left _ _
  · intro n
    refine ⟨List.drop_suffix _ _, ?_⟩
    rw [LogRing.tail, List.length_drop, LogRing.length]
    omega

/-- Three lines of capacity, for lines pushed through a clone and by two writers. -/
theorem run_shows_newest_shared :
    let steps : List LogStep := [
      .push 0 "lost", .clear 0, .clone 0, .push 1 "a", .makeWriter 1, .makeWriter 0,
      .write 0 (Text.Utf8.encode "b\n\nc"), .write 1 (Text.Utf8.encode "d\n"), .drop 1, .flush 0]
    let b := (ofHandle ⟨3⟩).run steps
    (ofHandle ⟨3⟩).loggedThrough [] steps = ["a", "d", "b", "c"] ∧ b.lines = ["d", "b", "c"] ∧
      ⟨3⟩ ∈ b.handles ∧ (b.ring ⟨3⟩).length = 3 ∧ ((b.ring ⟨3⟩).tail 2).length = 2 := by
  intro steps b
  have hlogged : (ofHandle ⟨3⟩).loggedThrough [] steps = ["a", "d", "b", "c"] := by decide +kernel
  have hlines : b.lines = ["d", "b", "c"] := by decide +kernel
  have hmem : ⟨3⟩ ∈ b.handles := by decide +kernel
  obtain ⟨-, hlength, -, -, htail⟩ := run_shows_newest 3 steps ⟨3⟩ hmem
  have hthree : (b.ring ⟨3⟩).length = 3 := by
    rw [hlength, hlogged]
    rfl
  refine ⟨hlogged, hlines, hmem, hthree, ?_⟩
  rw [(htail 2).2, hthree]
  rfl

end LogBook

end PhotoGrouping
