import PhotoGrouping.Proofs.Log.Window

namespace PhotoGrouping

open Text

/-- The lines in bytes that are read as UTF-8, those that are not blank. -/
def linesIn (bytes : List UInt8) : List String :=
  logLines (Utf8.decodeLossy bytes)

theorem linesIn_nil : linesIn [] = [] := by
  rw [linesIn, Utf8.decodeLossy, Utf8.pieces_nil]
  rfl

namespace LogStep

/-- The writer that a step is a call of. -/
def writer? : LogStep → Option Nat
  | .write w _ | .flush w | .drop w => some w
  | _ => none

/-- The bytes that a step writes through a writer. -/
def bytesTo (n : Nat) : LogStep → List UInt8
  | .write w bytes => if w = n then bytes else []
  | _ => []

end LogStep

/-- The bytes that are written through a writer: a stretch up to each of its flushes, and the one after
the last of these. -/
def stretches (n : Nat) (steps : List LogStep) : List (List UInt8) :=
  (steps.splitOn (.flush n)).map fun stretch => stretch.flatMap (·.bytesTo n)

/-- Stretches of which the first one goes on from bytes that are held back already. -/
def continued (held : List UInt8) (parts : List (List UInt8)) : List (List UInt8) :=
  parts.modifyHead (held ++ ·)

section

variable {n : Nat} {s : LogStep} {held : List UInt8} {parts : List (List UInt8)}

theorem continued_nil (parts : List (List UInt8)) : continued [] parts = parts := by
  cases parts <;> rfl

theorem continued_continued (front back : List UInt8) (parts : List (List UInt8)) :
    continued front (continued back parts) = continued (front ++ back) parts := by
  cases parts <;> simp [continued]

theorem stretches_nil (n : Nat) : stretches n [] = [[]] := rfl

theorem stretches_flush (n : Nat) (steps : List LogStep) :
    stretches n (.flush n :: steps) = [] :: stretches n steps := by
  rw [stretches, List.splitOn_cons_eq_if_modifyHead, if_pos (beq_self_eq_true _)]
  rfl

theorem stretches_cons (h : s ≠ .flush n) (steps : List LogStep) :
    stretches n (s :: steps) = continued (s.bytesTo n) (stretches n steps) := by
  rw [stretches, List.splitOn_cons_eq_if_modifyHead, if_neg (by simpa using h), stretches, continued]
  cases steps.splitOn (.flush n) with
  | nil => rfl
  | cons stretch rest => rfl

theorem stretches_ne_nil (n : Nat) (steps : List LogStep) : stretches n steps ≠ [] := by
  rw [stretches, ne_eq, List.map_eq_nil_iff]
  exact List.splitOn_ne_nil _ steps

end

namespace LogWriter

/-- A writer hands over the lines in what it holds back, and then holds back nothing. -/
theorem drain_eq (w : LogWriter) : w.drain = (linesIn w.pending, { w with pending := [] }) := by
  obtain ⟨handle, pending⟩ := w
  cases pending with
  | nil => rw [linesIn_nil]; rfl
  | cons byte bytes => rfl

end LogWriter

namespace LogBook

variable {b : LogBook} {n : Nat} {w : LogWriter} {handle : LogHandle} {held : List UInt8}
  {s : LogStep} {steps : List LogStep}

/-- The lines that a writer pushes in a step. -/
def pushesOf (b : LogBook) (n : Nat) (s : LogStep) : List String :=
  if s.writer? = some n then b.pushes s else []

/-- The lines that a writer pushes in several steps. -/
def pushedBy (b : LogBook) (n : Nat) : List LogStep → List String
  | [] => []
  | s :: steps => b.pushesOf n s ++ (b.step s).pushedBy n steps

theorem pushedBy_append (b : LogBook) (n : Nat) (steps after : List LogStep) :
    b.pushedBy n (steps ++ after) = b.pushedBy n steps ++ (b.run steps).pushedBy n after := by
  induction steps generalizing b with
  | nil => rfl
  | cons s steps ih =>
    rw [List.cons_append, pushedBy, ih, pushedBy, List.append_assoc]
    rfl

theorem run_append (b : LogBook) (steps after : List LogStep) :
    b.run (steps ++ after) = (b.run steps).run after :=
  List.foldl_append

theorem lt_of_writer? (h : b.writer? n = some w) : n < b.writers.length := by
  have hget : b.writers[n]? = some (some w) := Option.join_eq_some_iff.mp h
  exact (List.getElem?_eq_some_iff.mp hget).1

theorem writer?_setWriter (h : b.writer? n = some w) (writer : Option LogWriter) :
    (b.setWriter n writer).writer? n = writer := by
  rw [writer?, setWriter, List.getElem?_set_self (lt_of_writer? h)]
  rfl

theorem writer?_setWriter_ne {m : Nat} (h : m ≠ n) (b : LogBook) (writer : Option LogWriter) :
    (b.setWriter m writer).writer? n = b.writer? n := by
  rw [writer?, setWriter, List.getElem?_set_ne h]
  rfl

theorem step_of_writer? (h : b.writer? n = some w) (f : LogWriter → LogBook) :
    b.stepWriter n f = f w := by
  rw [stepWriter, h]
  rfl

/-- What is done through handles and other writers leaves a writer as it is. -/
theorem writer?_step_of_ne (h : b.writer? n = some w) (hs : s.writer? ≠ some n) :
    (b.step s).writer? n = some w := by
  cases s with
  | clone k | push k line | clear k =>
    rw [LogBook.step, stepHandle]
    cases b.handles[k]? with
    | none => exact h
    | some handle => exact h
  | makeWriter k =>
    rw [LogBook.step, stepHandle]
    cases b.handles[k]? with
    | none => exact h
    | some handle =>
      have hold : (b.writers ++ [some ⟨handle, []⟩])[n]? = b.writers[n]? :=
        List.getElem?_append_left (lt_of_writer? h)
      rw [writer?, ← hold] at h
      exact h
  | write m bytes | flush m | drop m =>
    have hne : m ≠ n := fun heq => hs (congrArg some heq)
    rw [LogBook.step, stepWriter]
    cases b.writer? m with
    | none => exact h
    | some other => exact (writer?_setWriter_ne hne _ _).trans h

/-- Short of a flush, a writer pushes nothing and holds back what is written through it as well. -/
theorem held_step (h : b.writer? n = some ⟨handle, held⟩) (hflush : s ≠ .flush n)
    (hdrop : s ≠ .drop n) :
    b.pushesOf n s = [] ∧ (b.step s).writer? n = some ⟨handle, held ++ s.bytesTo n⟩ := by
  by_cases hs : s.writer? = some n
  · cases s with
    | clone k | push k line | clear k | makeWriter k => cases hs
    | write m bytes =>
      obtain rfl : m = n := Option.some.inj hs
      refine ⟨ite_self _, ?_⟩
      rw [LogBook.step, step_of_writer? h, writer?_setWriter h, LogStep.bytesTo, if_pos rfl]
      rfl
    | flush m => exact absurd (congrArg LogStep.flush (Option.some.inj hs)) hflush
    | drop m => exact absurd (congrArg LogStep.drop (Option.some.inj hs)) hdrop
  · have hnone : s.bytesTo n = [] := by
      cases s with
      | write m bytes =>
        rw [LogStep.bytesTo, if_neg]
        exact fun heq => hs (congrArg some heq)
      | clone k | push k line | clear k | makeWriter k | flush m | drop m => rfl
    rw [pushesOf, if_neg hs, hnone, List.append_nil]
    exact ⟨rfl, writer?_step_of_ne h hs⟩

theorem pushesOf_flush (h : b.writer? n = some ⟨handle, held⟩) :
    b.pushesOf n (.flush n) = linesIn held := by
  rw [pushesOf, LogStep.writer?, if_pos rfl, pushes, h, Option.elim_some, LogWriter.drain_eq]

theorem pushesOf_drop (h : b.writer? n = some ⟨handle, held⟩) :
    b.pushesOf n (.drop n) = linesIn held :=
  pushesOf_flush h

theorem writer?_flush (h : b.writer? n = some ⟨handle, held⟩) :
    (b.step (.flush n)).writer? n = some ⟨handle, []⟩ := by
  have htake : (b.take ⟨handle, held⟩).writer? n = some ⟨handle, held⟩ := h
  rw [LogBook.step, step_of_writer? h, writer?_setWriter htake, LogWriter.drain_eq]

/-- What a writer pushes in a step of its own goes to the ring that it is for. -/
theorem ring_step (h : b.writer? n = some w) (hs : s.writer? = some n) :
    (b.step s).ring w.handle = (b.ring w.handle).pushAll (b.pushesOf n s) := by
  rw [pushesOf, if_pos hs]
  cases s with
  | clone k | push k line | clear k | makeWriter k => cases hs
  | write m bytes =>
    obtain rfl : m = n := Option.some.inj hs
    rw [LogBook.step, step_of_writer? h]
    rfl
  | flush m | drop m =>
    obtain rfl : m = n := Option.some.inj hs
    rw [LogBook.step, step_of_writer? h, pushes, h, Option.elim_some]
    have hcapacity : ((b.ring w.handle).pushAll w.drain.1).capacity = w.handle.capacity :=
      LogRing.capacity_pushAll _ _
    have hring : (b.take w).ring w.handle =
        ⟨w.handle.capacity, ((b.ring w.handle).pushAll w.drain.1).lines⟩ := rfl
    change (b.take w).ring w.handle = _
    rw [hring, ← hcapacity]

/-- A writer has pushed the lines of the stretches that have come to their end, and holds back the one
that has not. -/
theorem held_run (h : b.writer? n = some ⟨handle, held⟩) (hkept : .drop n ∉ steps) :
    b.pushedBy n steps = (continued held (stretches n steps)).dropLast.flatMap linesIn ∧
      (b.run steps).writer? n =
        (continued held (stretches n steps)).getLast?.map fun held => ⟨handle, held⟩ := by
  induction steps generalizing b held with
  | nil =>
    rw [stretches_nil, continued, List.modifyHead_cons, List.append_nil]
    exact ⟨rfl, h⟩
  | cons s steps ih =>
    have hkept' : LogStep.drop n ∉ steps := fun hs => hkept (List.mem_cons_of_mem s hs)
    have hne := stretches_ne_nil n steps
    by_cases hflush : s = .flush n
    · subst hflush
      obtain ⟨hpushed, hheld⟩ := ih (writer?_flush h) hkept'
      have hparts : continued held (stretches n (.flush n :: steps)) = held :: stretches n steps := by
        rw [stretches_flush, continued, List.modifyHead_cons, List.append_nil]
      rw [continued_nil] at hpushed hheld
      rw [pushedBy, pushesOf_flush h, hpushed, hparts, List.dropLast_cons_of_ne_nil hne,
        List.getLast?_cons_of_ne_nil hne]
      exact ⟨rfl, hheld⟩
    · have hdrop : s ≠ .drop n := fun hs => hkept (hs ▸ List.mem_cons_self)
      obtain ⟨hnone, hnext⟩ := held_step h hflush hdrop
      rw [stretches_cons hflush, continued_continued, pushedBy, hnone, List.nil_append]
      exact ih hnext hkept'

theorem exists_held_step (h : b.writer? n = some ⟨handle, held⟩) (hdrop : s ≠ .drop n) :
    ∃ held, (b.step s).writer? n = some ⟨handle, held⟩ := by
  by_cases hflush : s = .flush n
  · subst hflush
    exact ⟨[], writer?_flush h⟩
  · exact ⟨_, (held_step h hflush hdrop).2⟩

/-- Left to itself, a writer brings all that it pushes to its ring, and nothing else. -/
theorem ring_run (h : b.writer? n = some ⟨handle, held⟩) (hkept : .drop n ∉ steps)
    (hown : ∀ s ∈ steps, s.writer? = some n) :
    (b.run steps).ring handle = (b.ring handle).pushAll (b.pushedBy n steps) := by
  induction steps generalizing b held with
  | nil => rfl
  | cons s steps ih =>
    have hstep := ring_step h (hown s List.mem_cons_self)
    have hdrop : s ≠ .drop n := fun hs => hkept (hs ▸ List.mem_cons_self)
    obtain ⟨held', hnext⟩ := exists_held_step h hdrop
    have hrest := ih hnext (fun hs => hkept (List.mem_cons_of_mem s hs))
      fun s hs => hown s (List.mem_cons_of_mem _ hs)
    rw [hstep] at hrest
    rw [pushedBy, LogRing.pushAll, List.foldl_append]
    exact hrest

/-- A writer that begins with nothing holds back the stretch that has not come to its end. -/
theorem writer?_run (h : b.writer? n = some ⟨handle, []⟩) (hkept : .drop n ∉ steps) :
    (b.run steps).writer? n =
      some ⟨handle, (stretches n steps).getLast (stretches_ne_nil n steps)⟩ := by
  obtain ⟨-, hheld⟩ := held_run h hkept
  rw [continued_nil, List.getLast?_eq_some_getLast (stretches_ne_nil n steps)] at hheld
  exact hheld

/-- A writer that has just been made holds back nothing. -/
theorem writer?_makeWriter {h : Nat} (hhandle : b.handles[h]? = some handle) :
    (b.step (.makeWriter h)).writer? b.writers.length = some ⟨handle, []⟩ := by
  rw [LogBook.step, stepHandle, hhandle, Option.elim_some, writer?, List.getElem?_concat_length]
  rfl

theorem ring_makeWriter (b : LogBook) (h : Nat) (handle : LogHandle) :
    (b.step (.makeWriter h)).ring handle = b.ring handle := by
  rw [LogBook.step, stepHandle]
  cases b.handles[h]? with
  | none => rfl
  | some other => rfl

/-- Whatever is written through a writer and in whatever pieces, the writer pushes the lines of each
stretch between its flushes: those of a stretch that a flush ends at that flush, those of the last one
when it is dropped, and none before. That holds whatever else is done with the buffer in between, and
what the writer pushes in a step comes to the ring in that step; if nothing else is done, the ring gets
these lines and no other. -/
theorem writer_pushes_stretches (b : LogBook) (h : Nat) (handle : LogHandle) (steps : List LogStep)
    (hhandle : b.handles[h]? = some handle) (hkept : .drop b.writers.length ∉ steps) :
    let n := b.writers.length
    let made := b.step (.makeWriter h)
    made.pushedBy n steps = (stretches n steps).dropLast.flatMap linesIn ∧
      made.pushedBy n (steps ++ [.drop n]) = (stretches n steps).flatMap linesIn ∧
      (made.run (steps ++ [.flush n])).pushesOf n (.drop n) = [] ∧
      (∀ front s, front <+: steps → s.writer? = some n →
        (made.run (front ++ [s])).ring handle =
          ((made.run front).ring handle).pushAll ((made.run front).pushesOf n s)) ∧
      ((∀ s ∈ steps, s.writer? = some n) →
        (made.run steps).ring handle =
            (b.ring handle).pushAll ((stretches n steps).dropLast.flatMap linesIn) ∧
          (made.run (steps ++ [.drop n])).ring handle =
            (b.ring handle).pushAll ((stretches n steps).flatMap linesIn)) := by
  intro n made
  have hmade : made.writer? n = some ⟨handle, []⟩ := writer?_makeWriter hhandle
  have hheld := writer?_run hmade hkept
  have hpushed : made.pushedBy n steps = (stretches n steps).dropLast.flatMap linesIn := by
    rw [(held_run hmade hkept).1, continued_nil]
  have hlast : made.pushedBy n (steps ++ [.drop n]) = (stretches n steps).flatMap linesIn := by
    have hdrop : (made.run steps).pushedBy n [.drop n] =
        [(stretches n steps).getLast (stretches_ne_nil n steps)].flatMap linesIn := by
      rw [pushedBy, pushesOf_drop hheld]
      rfl
    rw [pushedBy_append, hpushed, hdrop, ← List.flatMap_append, List.dropLast_append_getLast]
  have hcomes : ∀ front s, front <+: steps → s.writer? = some n →
      (made.run (front ++ [s])).ring handle =
        ((made.run front).ring handle).pushAll ((made.run front).pushesOf n s) := by
    intro front s hfront hs
    have hkept' : LogStep.drop n ∉ front := fun hdrop => hkept (hfront.subset hdrop)
    rw [run_append]
    exact ring_step (writer?_run hmade hkept') hs
  refine ⟨hpushed, hlast, ?_, hcomes, ?_⟩
  · rw [run_append]
    exact (pushesOf_drop (writer?_flush hheld)).trans linesIn_nil
  · intro hown
    have hring := ring_run hmade hkept hown
    rw [ring_makeWriter] at hring
    refine ⟨by rw [hring, hpushed], ?_⟩
    rw [hcomes steps (.drop n) (List.prefix_refl steps) rfl, hring, LogRing.pushAll, LogRing.pushAll,
      LogRing.pushAll, ← List.foldl_append, ← hlast, pushedBy_append, pushedBy, pushedBy,
      List.append_nil]

/-- A character and a line ending are written in two pieces each, and what follows is no UTF-8; a second
flush finds nothing, and the last line goes without an ending. -/
theorem writer_pushes_stretches_split :
    let calls : List LogStep := [
      .write 0 [0x61, 0xC3], .write 0 [0xA9, 0x0D], .write 0 [0x0A, 0x20, 0x0A, 0xFF], .flush 0,
      .flush 0, .write 0 [0x62]]
    let steps : List LogStep := calls.flatMap fun s => [.push 0 "p", .makeWriter 0, s, .write 1 [0x7A]]
    let made := (ofHandle ⟨2⟩).step (.makeWriter 0)
    LogStep.drop 0 ∉ steps ∧
      stretches 0 steps = [[0x61, 0xC3, 0xA9, 0x0D, 0x0A, 0x20, 0x0A, 0xFF], [], [0x62]] ∧
      made.pushedBy 0 steps = ["aé", "\ufffd"] ∧
      made.pushedBy 0 (steps ++ [.drop 0]) = ["aé", "\ufffd", "b"] ∧
      ((made.run (calls ++ [.drop 0])).ring ⟨2⟩).lines = ["\ufffd", "b"] := by
  intro calls steps made
  have hhandle : (ofHandle ⟨2⟩).handles[0]? = some ⟨2⟩ := rfl
  have hkept : LogStep.drop 0 ∉ steps := by decide
  have hparts : stretches 0 steps =
      [[0x61, 0xC3, 0xA9, 0x0D, 0x0A, 0x20, 0x0A, 0xFF], [], [0x62]] := by decide
  have hsame : stretches 0 calls = stretches 0 steps := by decide
  have hended : (stretches 0 steps).dropLast.flatMap linesIn = ["aé", "\ufffd"] := by
    rw [hparts]
    decide +kernel
  have hall : (stretches 0 steps).flatMap linesIn = ["aé", "\ufffd", "b"] := by
    rw [hparts]
    decide +kernel
  obtain ⟨hpushed, hlast, -, -, -⟩ := writer_pushes_stretches (ofHandle ⟨2⟩) 0 ⟨2⟩ steps hhandle hkept
  obtain ⟨-, -, -, -, hown⟩ := writer_pushes_stretches (ofHandle ⟨2⟩) 0 ⟨2⟩ calls hhandle (by decide)
  have hring : (made.run (calls ++ [.drop 0])).ring ⟨2⟩ =
      ((ofHandle ⟨2⟩).ring ⟨2⟩).pushAll ((stretches 0 calls).flatMap linesIn) :=
    (hown (by decide)).2
  refine ⟨hkept, hparts, hpushed.trans hended, hlast.trans hall, ?_⟩
  rw [hring, hsame, hall]
  decide +kernel

end LogBook

end PhotoGrouping
