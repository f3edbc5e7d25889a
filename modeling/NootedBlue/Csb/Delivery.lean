import NootedBlue.Csb.Handlers
import NootedBlue.Semantics.Run

/-! Delivery of the context status buffer. Hardware, driver resets and calls
happen in any order; what is decoded since the last reset is what was written
since then, each entry once and in order. -/
namespace NootedBlue.Csb

open Interaction Transition

/-- A streamer together with the history since the last reset: the streamer as it was then,
what the hardware wrote, and what the calls returned as decoded. -/
structure System where
  streamer : Streamer
  restart : Streamer
  written : List Entry
  decoded : List Entry

inductive Event where
  | write (entry : Entry)
  | reset
  | call

/-- An entry the hardware can write. -/
def Entry.WellFormed (entry : Entry) : Prop :=
  entry.visible = true ∧ ¬ (entry.lo = 0 ∧ entry.hi = 0)

/-- The hardware writes the next entry of the ring, then moves the write
pointer to it. -/
def System.write (s : System) (entry : Entry) : System :=
  { s with
    streamer := { s.streamer with
      page := ⟨Function.update s.streamer.page.entry (s.written.length % entries) entry,
        s.written.length % entries⟩ }
    written := s.written ++ [entry] }

/-- The driver resets both pointers; the hardware restarts at entry 0. The
entries of the page survive. -/
def Streamer.reset (s : Streamer) : Streamer :=
  { s with
    page := { s.page with writePointer := resetPointer }
    stored := resetPointer }

def System.reset (s : System) : System :=
  { streamer := s.streamer.reset
    restart := s.streamer.reset
    written := []
    decoded := [] }

def System.call (driver : Driver) (s : System) : System :=
  let result := wrapProcessContextStatusBuffer.eval driver.respond s.streamer
  { s with streamer := result.2, decoded := s.decoded ++ result.1.map Decoded.entry }

/-- At most five entries are unconsumed at any time, and a reset happens only
when all of them are consumed. -/
def System.step (driver : Driver) (s : System) : Event → System → Prop
  | .write entry, t => entry.WellFormed ∧ s.written.length < s.decoded.length + 5 ∧
      t = s.write entry
  | .reset, t => s.decoded.length = s.written.length ∧ t = s.reset
  | .call, t => t = s.call driver

/-- The streamer after `init`: the page is zeroed and the read pointer has
its reset value. -/
def Streamer.initial (lists : Execlists) : Streamer where
  present := true
  mmio := false
  page := ⟨fun _ => ⟨0, 0⟩, 0⟩
  stored := resetPointer
  lists := lists
  handled := []

def System.initial (lists : Execlists) : System :=
  { streamer := .initial lists
    restart := .initial lists
    written := []
    decoded := [] }

theorem Entry.WellFormed.not_blank {entry : Entry} (h : entry.WellFormed) :
    entry.blank = false := by
  obtain ⟨hVisible, hZero⟩ := h
  simp only [Entry.visible, Bool.and_eq_true, decide_eq_true_eq] at hVisible
  simpa [Entry.blank, hVisible.1] using hZero

/-- The read pointer after `count` entries have been consumed since a reset. -/
def storedAfter (count : Nat) : Nat :=
  if count = 0 then resetPointer else storedBase + (count - 1) % entries

/-- What holds between the events of a run. -/
structure System.Inv (s : System) : Prop where
  present : s.streamer.present = true
  mmio : s.streamer.mmio = false
  consumed : s.decoded <+: s.written
  bounded : s.written.length ≤ s.decoded.length + 5
  stored : s.streamer.stored = storedAfter s.decoded.length
  writePointer : s.written ≠ [] →
    s.streamer.page.writePointer = (s.written.length - 1) % entries
  wellFormed : ∀ entry ∈ s.written, entry.WellFormed
  pending : ∀ k (h : k < s.written.length), s.decoded.length ≤ k →
    s.streamer.page.entry (k % entries) = s.written[k]
  blank : (∀ k < s.written.length, s.decoded.length ≤ k → k % entries ≠ 0) →
    (s.streamer.page.entry 0).blank = true

theorem Inv_initial (lists : Execlists) : (System.initial lists).Inv where
  present := rfl
  mmio := rfl
  consumed := List.prefix_refl _
  bounded := by simp [System.initial]
  stored := rfl
  writePointer := by simp [System.initial]
  wellFormed := by simp [System.initial]
  pending := by simp [System.initial]
  blank := fun _ => rfl

theorem Inv_write {s : System} {entry : Entry} (inv : s.Inv) (hEntry : entry.WellFormed)
    (hRoom : s.written.length < s.decoded.length + 5) : (s.write entry).Inv where
  present := inv.present
  mmio := inv.mmio
  consumed := inv.consumed.trans (List.prefix_append _ _)
  bounded := by simp only [System.write, List.length_append, List.length_singleton]; omega
  stored := inv.stored
  writePointer := by simp [System.write]
  wellFormed := by
    intro other hOther
    rcases List.mem_append.mp hOther with hOld | hNew
    · exact inv.wellFormed other hOld
    · rw [List.mem_singleton.mp hNew]
      exact hEntry
  pending := by
    intro k hLt hLe
    simp only [System.write, List.length_append, List.length_singleton] at hLt
    have hPrefix := inv.consumed.length_le
    by_cases hLast : k = s.written.length
    · subst hLast
      simp [System.write]
    · have hSlot : k % entries ≠ s.written.length % entries := by
        simp only [System.write] at hLe
        unfold entries
        omega
      simp only [System.write, Function.update_of_ne hSlot]
      rw [inv.pending k (by omega) hLe, List.getElem_append_left]
  blank := by
    intro hFree
    simp only [System.write, List.length_append, List.length_singleton] at hFree
    have hPrefix := inv.consumed.length_le
    have hSlot : 0 ≠ s.written.length % entries := (hFree s.written.length (by omega) hPrefix).symm
    simp only [System.write, Function.update_of_ne hSlot]
    exact inv.blank fun k hLt hLe => hFree k (by omega) hLe

theorem Inv_reset {s : System} (inv : s.Inv) (hAll : s.decoded.length = s.written.length) :
    s.reset.Inv where
  present := inv.present
  mmio := inv.mmio
  consumed := List.prefix_refl _
  bounded := by simp [System.reset]
  stored := rfl
  writePointer := by simp [System.reset]
  wellFormed := by simp [System.reset]
  pending := by simp [System.reset]
  blank := fun _ => inv.blank fun k hLt hLe => by omega

/-- The streamer after one entry has been taken from slot `index`. -/
def Streamer.consume (driver : Driver) (s : Streamer) (index : Nat) (entry : Entry) : Streamer :=
  ((consumeEntry index entry).eval driver.respond s).2

theorem setLo_setHi (page : StatusPage) (index : Nat) (lo hi : UInt32) :
    ((page.setLo index lo).setHi index hi).entry = Function.update page.entry index ⟨lo, hi⟩ := by
  simp [StatusPage.setLo, StatusPage.setHi]

/-- A handler works on the execlists only. -/
theorem handleEntry_frame (driver : Driver) (s : Streamer) (entry : Entry) :
    let t := ((handleEntry entry).eval driver.respond s).2
    t.page = s.page ∧ t.stored = s.stored ∧ t.present = s.present ∧ t.mmio = s.mmio := by
  change let t := ((callHandler (entry.action s.lists)).eval driver.respond s).2
    t.page = s.page ∧ t.stored = s.stored ∧ t.present = s.present ∧ t.mmio = s.mmio
  rcases entry.action s.lists with _ | ⟨action, synth, _ | _⟩ <;>
    exact ⟨rfl, rfl, rfl, rfl⟩

theorem consume_eq (driver : Driver) (s : Streamer) (index : Nat) (entry : Entry) :
    s.consume driver index entry = ((handleEntry entry).eval driver.respond
      { s with page := (s.page.setLo index ones).setHi index ones
               stored := storedBase + index }).2 := rfl

theorem consume_page (driver : Driver) (s : Streamer) (index : Nat) (entry : Entry) :
    (s.consume driver index entry).page =
      ⟨Function.update s.page.entry index ⟨ones, ones⟩, s.page.writePointer⟩ := by
  rw [consume_eq, (handleEntry_frame driver _ entry).1]
  exact congrArg (StatusPage.mk · s.page.writePointer) (setLo_setHi s.page index ones ones)

theorem consume_stored (driver : Driver) (s : Streamer) (index : Nat) (entry : Entry) :
    (s.consume driver index entry).stored = storedBase + index :=
  (handleEntry_frame driver _ entry).2.1

theorem consume_mode (driver : Driver) (s : Streamer) (index : Nat) (entry : Entry) :
    (s.consume driver index entry).present = s.present ∧
      (s.consume driver index entry).mmio = s.mmio :=
  (handleEntry_frame driver _ entry).2.2

theorem consume_serves (driver : Driver) (s : Streamer) (index : Nat) (entry : Entry) :
    Serves driver s [entry] (s.consume driver index entry) := by
  rw [consume_eq]
  exact handleEntry_serves driver { s with
    page := (s.page.setLo index ones).setHi index ones
    stored := storedBase + index } entry

theorem awaitEntry_visible (index spins : Nat) (entry : Entry) (hVisible : entry.visible = true) :
    awaitEntry index spins entry = return entry := by
  cases spins with
  | zero => rfl
  | succ spins => simp [awaitEntry, hVisible]

theorem fetchEntry_eval (driver : Driver) (s : Streamer) (index : Nat)
    (hVisible : (s.page.entry index).visible = true) :
    (fetchEntry index).eval driver.respond s = (s.page.entry index, s) := by
  rw [fetchEntry, Program.eval_bind]
  change (awaitEntry index 20 (s.page.entry index)).eval driver.respond s = _
  rw [awaitEntry_visible index 20 _ hVisible]
  rfl

/-- One iteration of the loop, when the slot holds a visible entry. -/
theorem drain_step (driver : Driver) (s : Streamer) (fuel : Nat)
    {readPointer writePointer index : Nat} {entry : Entry} (hNe : readPointer ≠ writePointer)
    (hIndex : nextIndex readPointer = index) (hSlot : s.page.entry index = entry)
    (hVisible : entry.visible = true) :
    (drain (fuel + 1) readPointer writePointer).eval driver.respond s =
      (⟨index, entry⟩ :: ((drain fuel index writePointer).eval driver.respond
          (s.consume driver index entry)).1,
        ((drain fuel index writePointer).eval driver.respond (s.consume driver index entry)).2) := by
  subst hIndex hSlot
  rw [drain, if_neg hNe, Program.eval_bind, fetchEntry_eval driver s _ hVisible]
  simp only [if_pos hVisible, Program.eval_bind]
  rfl

/-- The pending entries of a ring position, in the form the loop returns them. -/
def decodedFrom (position : Nat) : List Entry → List Decoded
  | [] => []
  | entry :: rest => ⟨position % entries, entry⟩ :: decodedFrom (position + 1) rest

theorem decodedFrom_entries (position : Nat) (pending : List Entry) :
    (decodedFrom position pending).map Decoded.entry = pending := by
  induction pending generalizing position with
  | nil => rfl
  | cons entry rest ih => simp [decodedFrom, ih]

/-- The slots of `pending` hold its entries, starting at a ring position. -/
def StatusPage.Holds (page : StatusPage) (position : Nat) (pending : List Entry) : Prop :=
  ∀ i (h : i < pending.length), page.entry ((position + i) % entries) = pending[i]

/-- What the loop leaves behind after it took `count` entries. -/
structure Drained (s t : Streamer) (position count : Nat) : Prop where
  present : t.present = s.present
  mmio : t.mmio = s.mmio
  writePointer : t.page.writePointer = s.page.writePointer
  stored : t.stored = if count = 0 then s.stored else storedBase + (position + count - 1) % entries
  consumed : ∀ i < count, t.page.entry ((position + i) % entries) = ⟨ones, ones⟩
  kept : ∀ slot, (∀ i < count, (position + i) % entries ≠ slot) →
    t.page.entry slot = s.page.entry slot

theorem Drained.refl (s : Streamer) (position : Nat) : Drained s s position 0 where
  present := rfl
  mmio := rfl
  writePointer := rfl
  stored := rfl
  consumed := by simp
  kept := fun _ _ => rfl

theorem nextIndex_mod (position : Nat) : nextIndex ((position + 5) % entries) = position % entries := by
  unfold nextIndex entries
  split <;> omega

theorem Drained.cons {driver : Driver} {s t : Streamer} {position count : Nat} {entry : Entry}
    (rest : Drained (s.consume driver (position % entries) entry) t (position + 1) count)
    (hRoom : count + 1 ≤ 5) : Drained s t position (count + 1) where
  present := rest.present.trans (consume_mode driver s _ entry).1
  mmio := rest.mmio.trans (consume_mode driver s _ entry).2
  writePointer := by rw [rest.writePointer, consume_page]
  stored := by
    rw [rest.stored, consume_stored, if_neg (Nat.succ_ne_zero count)]
    split
    · next hZero => rw [hZero]; rfl
    · congr 2; omega
  consumed := by
    intro i hi
    by_cases hFirst : i = 0
    · subst hFirst
      rw [Nat.add_zero, rest.kept, consume_page]
      · simp
      · intro j hj
        unfold entries
        omega
    · have hIndex : position + i = position + 1 + (i - 1) := by omega
      rw [hIndex]
      exact rest.consumed (i - 1) (by omega)
  kept := by
    intro slot hSlot
    have hFirst : slot ≠ position % entries := by
      have := hSlot 0 (by omega)
      simpa [eq_comm] using this
    rw [rest.kept, consume_page]
    · simp [Function.update_of_ne hFirst]
    · intro i hi
      have := hSlot (i + 1) (by omega)
      rwa [← Nat.add_assoc, Nat.add_right_comm] at this

/-- The loop takes every pending entry in ring order, when all of them are
visible and at most five are pending. -/
theorem drain_pending (driver : Driver) (pending : List Entry) (position fuel : Nat)
    (s : Streamer) (hRoom : pending.length ≤ 5) (hFuel : pending.length ≤ fuel)
    (hHolds : s.page.Holds position pending) (hVisible : ∀ entry ∈ pending, entry.visible = true) :
    let result := (drain fuel ((position + 5) % entries)
      ((position + 5 + pending.length) % entries)).eval driver.respond s
    result.1 = decodedFrom position pending ∧ Drained s result.2 position pending.length ∧
      Serves driver s pending result.2 := by
  induction pending generalizing position fuel s with
  | nil =>
      have hDone : drain fuel ((position + 5) % entries) ((position + 5) % entries) = return [] := by
        cases fuel <;> simp [drain]
      simp only [List.length_nil, Nat.add_zero, hDone]
      exact ⟨rfl, Drained.refl s position, [], (List.append_nil _).symm, .nil _⟩
  | cons entry rest ih =>
      obtain ⟨fuel, rfl⟩ : ∃ f, fuel = f + 1 := ⟨fuel - 1, by simp at hFuel; omega⟩
      simp only [List.length_cons] at hRoom hFuel ⊢
      have hNe : (position + 5) % entries ≠ (position + 5 + (rest.length + 1)) % entries := by
        unfold entries
        omega
      have hSlot : s.page.entry (position % entries) = entry := hHolds 0 (by simp)
      have hStep := drain_step driver s fuel hNe (nextIndex_mod position) hSlot
        (hVisible entry (by simp))
      -- The slots of the remaining entries are other slots than the one just overwritten.
      have hRest : (s.consume driver (position % entries) entry).page.Holds (position + 1) rest := by
        intro i hi
        have hOther : (position + 1 + i) % entries ≠ position % entries := by
          unfold entries
          omega
        rw [consume_page]
        simp only [Function.update_of_ne hOther]
        have := hHolds (i + 1) (by simpa using hi)
        rwa [← Nat.add_assoc, Nat.add_right_comm] at this
      have hInner := ih (position + 1) fuel (s.consume driver (position % entries) entry)
        (by omega) (by omega) hRest (fun e he => hVisible e (List.mem_cons_of_mem _ he))
      have hRead : (position + 1 + 5) % entries = position % entries := by
        unfold entries
        omega
      rw [hRead, show position + 1 + 5 + rest.length = position + 5 + (rest.length + 1) by omega]
        at hInner
      rw [hStep]
      obtain ⟨hDecoded, drained, serves⟩ := hInner
      exact ⟨by rw [decodedFrom, ← hDecoded], drained.cons (by omega),
        (consume_serves driver s _ entry).append serves⟩

/-- After a reset the loop starts before entry 0, unless that one is not new. -/
theorem startPointer_reset (driver : Driver) (s : Streamer) :
    (startPointer (storedAfter 0)).eval driver.respond s =
      (if (s.page.entry 0).blank then none else some 5, s) := by
  change ((if (s.page.entry 0).blank then pure none else pure (some 5) :
    Code (Option Nat)).eval driver.respond s) = _
  split <;> rfl

/-- Otherwise the loop starts at the last entry it took. -/
theorem startPointer_index (count : Nat) (hCount : count ≠ 0) :
    startPointer (storedAfter count) = return some ((count + 5) % entries) := by
  have hRange : storedBase ≤ storedAfter count ∧ storedAfter count < storedBase + entries := by
    unfold storedAfter storedBase entries
    rw [if_neg hCount]
    omega
  rw [startPointer, if_pos hRange]
  congr 2
  unfold storedAfter storedBase entries
  rw [if_neg hCount]
  omega

theorem page_eval (driver : Driver) (s : Streamer) (hPresent : s.present = true)
    (hMmio : s.mmio = false) :
    wrapProcessContextStatusBuffer.eval driver.respond s =
      (startPointer s.stored >>= drainFrom s.page.writePointer).eval driver.respond s := by
  change (if !s.present || s.mmio then _ else processPage : Code (List Decoded)).eval
    driver.respond s = _
  rw [hPresent, hMmio]
  rfl

/-- A call starts the loop one slot before the next entry to take. -/
theorem call_eval (driver : Driver) (s : Streamer) (count : Nat) (hPresent : s.present = true)
    (hMmio : s.mmio = false) (hStored : s.stored = storedAfter count)
    (hNew : count = 0 → (s.page.entry 0).blank = false)
    (hWrite : s.page.writePointer < entries) :
    wrapProcessContextStatusBuffer.eval driver.respond s =
      (drain entries ((count + 5) % entries) s.page.writePointer).eval driver.respond s := by
  have hStart : (startPointer s.stored).eval driver.respond s =
      (some ((count + 5) % entries), s) := by
    rw [hStored]
    by_cases hCount : count = 0
    · subst hCount
      rw [startPointer_reset, hNew rfl]
      rfl
    · rw [startPointer_index count hCount]
      rfl
  rw [page_eval driver s hPresent hMmio, Program.eval_bind, hStart]
  simp only [drainFrom, if_neg (Nat.not_le.mpr hWrite)]

/-- A call that finds nothing new after a reset, or a write pointer that is no
index of the ring, changes nothing. -/
theorem call_idle (driver : Driver) (s : Streamer) (count : Nat) (hPresent : s.present = true)
    (hMmio : s.mmio = false) (hStored : s.stored = storedAfter count)
    (hIdle : (count = 0 ∧ (s.page.entry 0).blank = true) ∨ entries ≤ s.page.writePointer) :
    wrapProcessContextStatusBuffer.eval driver.respond s = ([], s) := by
  have hStart : ((startPointer s.stored).eval driver.respond s).2 = s := by
    rw [hStored]
    by_cases hCount : count = 0
    · subst hCount
      rw [startPointer_reset]
    · rw [startPointer_index count hCount]
      rfl
  rw [page_eval driver s hPresent hMmio, Program.eval_bind, hStart]
  rcases hIdle with ⟨rfl, hBlank⟩ | hWrite
  · rw [hStored, startPointer_reset, hBlank]
    rfl
  · cases ((startPointer s.stored).eval driver.respond s).1 with
    | none => rfl
    | some readPointer =>
        simp only [drainFrom, if_pos hWrite]
        rfl

/-- The entries a call from this system decodes, with their slots. -/
def System.result (driver : Driver) (s : System) : List Decoded :=
  (wrapProcessContextStatusBuffer.eval driver.respond s.streamer).1

/-- A call takes exactly the unread entries, in the order written. -/
theorem call_drains {s : System} (driver : Driver) (inv : s.Inv) :
    s.result driver = decodedFrom s.decoded.length (s.written.drop s.decoded.length) ∧
      Drained s.streamer (s.call driver).streamer s.decoded.length
        (s.written.length - s.decoded.length) ∧
      Serves driver s.streamer (s.written.drop s.decoded.length) (s.call driver).streamer := by
  have hPrefix := inv.consumed.length_le
  by_cases hEmpty : s.written = []
  · have hNone : s.decoded = [] := List.prefix_nil.mp (hEmpty ▸ inv.consumed)
    have hIdle := call_idle driver s.streamer s.decoded.length inv.present inv.mmio inv.stored
      (.inl ⟨by rw [hNone]; rfl, inv.blank (by simp [hEmpty])⟩)
    simp only [System.result, System.call, hIdle, hEmpty, hNone]
    exact ⟨rfl, Drained.refl _ _, [], (List.append_nil _).symm, .nil _⟩
  · have hLength : 0 < s.written.length := List.length_pos_iff.mpr hEmpty
    have hWrite := inv.writePointer hEmpty
    have hCall := call_eval driver s.streamer s.decoded.length inv.present inv.mmio inv.stored
      (fun hZero => by
        have hFirst := inv.pending 0 hLength (by omega)
        rw [Nat.zero_mod] at hFirst
        rw [hFirst]
        exact (inv.wellFormed _ (List.getElem_mem _)).not_blank)
      (by rw [hWrite]; exact Nat.mod_lt _ (by decide))
    have hDrain := drain_pending driver (s.written.drop s.decoded.length) s.decoded.length entries
      s.streamer (by rw [List.length_drop]; have := inv.bounded; omega)
      (by rw [List.length_drop]; have := inv.bounded; unfold entries; omega)
      (by
        intro i hi
        rw [List.length_drop] at hi
        rw [inv.pending _ (by omega) (by omega), List.getElem_drop])
      (fun entry hEntry => (inv.wellFormed entry (List.mem_of_mem_drop hEntry)).1)
    have hPointer : (s.decoded.length + 5 + (s.written.drop s.decoded.length).length) % entries =
        s.streamer.page.writePointer := by
      rw [hWrite, List.length_drop]
      unfold entries
      omega
    rw [hPointer, ← hCall, List.length_drop] at hDrain
    exact hDrain

theorem call_decoded {s : System} (driver : Driver) (inv : s.Inv) :
    (s.call driver).decoded = s.written := by
  change s.decoded ++ (s.result driver).map Decoded.entry = s.written
  rw [(call_drains driver inv).1, decodedFrom_entries]
  obtain ⟨rest, hRest⟩ := inv.consumed
  rw [← hRest, List.drop_left]

theorem Inv_call {s : System} (driver : Driver) (inv : s.Inv) : (s.call driver).Inv := by
  have hPrefix := inv.consumed.length_le
  have hDecoded := call_decoded driver inv
  obtain ⟨-, drained, -⟩ := call_drains driver inv
  exact {
    present := drained.present.trans inv.present
    mmio := drained.mmio.trans inv.mmio
    consumed := by rw [hDecoded]; exact List.prefix_refl _
    bounded := by rw [hDecoded]; exact Nat.le_add_right _ _
    stored := by
      rw [hDecoded, drained.stored, inv.stored]
      split
      · next hSame =>
          congr 1
          omega
      · next hMore =>
          rw [storedAfter, if_neg (by omega), Nat.add_sub_cancel' hPrefix]
    writePointer := fun h => drained.writePointer.trans (inv.writePointer h)
    wellFormed := inv.wellFormed
    pending := by
      intro k hLt hLe
      rw [hDecoded] at hLe
      exact absurd hLt (Nat.not_lt.mpr hLe)
    blank := by
      intro _
      by_cases hSlot : ∃ i < s.written.length - s.decoded.length,
          (s.decoded.length + i) % entries = 0
      · obtain ⟨i, hi, hZero⟩ := hSlot
        rw [← hZero, drained.consumed i hi]
        rfl
      · rw [drained.kept 0 fun i hi hZero => hSlot ⟨i, hi, hZero⟩]
        apply inv.blank
        intro k hLt hLe hZero
        refine hSlot ⟨k - s.decoded.length, by omega, ?_⟩
        rwa [Nat.add_sub_cancel' hLe] }

/-- All that happened to the execlists and the handlers since the last reset is that the
decoded entries were served. -/
def System.Kept (driver : Driver) (s : System) : Prop :=
  Serves driver s.restart s.decoded s.streamer

theorem Kept_call {s : System} {driver : Driver} (inv : s.Inv) (kept : s.Kept driver) :
    (s.call driver).Kept driver := by
  have hSplit := List.prefix_iff_eq_append.mp inv.consumed
  rw [System.Kept, call_decoded driver inv, ← hSplit]
  exact kept.append (call_drains driver inv).2.2

/-- What holds between any two events of any run. -/
theorem Inv_of_runs {driver : Driver} {lists : Execlists} {events : List Event} {s : System}
    (run : Runs (System.step driver) (System.initial lists) events s) :
    s.Inv ∧ s.Kept driver := by
  refine run.invariant (fun s => s.Inv ∧ s.Kept driver) ?_
    ⟨Inv_initial lists, [], rfl, .nil _⟩
  intro s event t hBoth hStep
  obtain ⟨inv, kept⟩ := hBoth
  cases event with
  | write entry =>
      obtain ⟨hEntry, hRoom, rfl⟩ := hStep
      exact ⟨Inv_write inv hEntry hRoom, kept⟩
  | reset =>
      obtain ⟨hAll, rfl⟩ := hStep
      exact ⟨Inv_reset inv hAll, [], (List.append_nil _).symm, .nil _⟩
  | call =>
      rw [show t = s.call driver from hStep]
      exact ⟨Inv_call driver inv, Kept_call inv kept⟩

/-- What a call made now does: it decodes the entries that are unread, each
once and in the order written, hands each of them to the handler it asks for, and
leaves their slots all ones and the read pointer at the last of them. -/
structure System.Delivers (driver : Driver) (s : System) : Prop where
  inOrder : (s.result driver).map Decoded.entry = s.written.drop s.decoded.length
  all : (s.call driver).decoded = s.written
  serves : Serves driver s.streamer (s.written.drop s.decoded.length) (s.call driver).streamer
  slots : ∀ i (h : i < (s.result driver).length),
    (s.result driver)[i].index = (s.decoded.length + i) % entries
  consumed : ∀ d ∈ s.result driver, (s.call driver).streamer.page.entry d.index = ⟨ones, ones⟩
  stored : (s.call driver).streamer.stored = storedAfter s.written.length
  invalid : entries ≤ s.streamer.page.writePointer → (s.call driver).streamer = s.streamer

theorem decodedFrom_length (position : Nat) (pending : List Entry) :
    (decodedFrom position pending).length = pending.length := by
  rw [← List.length_map (f := Decoded.entry), decodedFrom_entries]

theorem decodedFrom_index (position : Nat) (pending : List Entry) (i : Nat)
    (h : i < (decodedFrom position pending).length) :
    (decodedFrom position pending)[i].index = (position + i) % entries := by
  induction pending generalizing position i with
  | nil => simp [decodedFrom] at h
  | cons entry rest ih =>
      cases i with
      | zero => rfl
      | succ i =>
          simp only [decodedFrom, List.getElem_cons_succ]
          rw [ih, Nat.add_right_comm, Nat.add_assoc]

/-- In every order of hardware writes, resets and calls: what was decoded
since the last reset is a prefix of what was written since then, the handlers were
called for these entries and for nothing else, and a call decodes the rest. -/
theorem csb_delivers_in_order (driver : Driver) (lists : Execlists) (events : List Event)
    (s : System) (run : Runs (System.step driver) (System.initial lists) events s) :
    s.decoded <+: s.written ∧ Serves driver s.restart s.decoded s.streamer ∧
      s.Delivers driver := by
  obtain ⟨inv, kept⟩ := Inv_of_runs run
  obtain ⟨hResult, drained, serves⟩ := call_drains driver inv
  refine ⟨inv.consumed, kept, ?_, call_decoded driver inv, serves, ?_, ?_, ?_, ?_⟩
  · rw [hResult, decodedFrom_entries]
  · rw [hResult]
    exact decodedFrom_index _ _
  · intro d hd
    obtain ⟨i, hi, rfl⟩ := List.getElem_of_mem hd
    have hLength := hi
    rw [hResult, decodedFrom_length, List.length_drop] at hLength
    simp only [hResult, decodedFrom_index]
    exact drained.consumed i hLength
  · have h := (Inv_call driver inv).stored
    rwa [call_decoded driver inv] at h
  · intro hInvalid
    have hIdle := call_idle driver s.streamer _ inv.present inv.mmio inv.stored (.inr hInvalid)
    simp [System.call, hIdle]

section Lap

/-- Context 5 runs and waits to run again. -/
def busyLists : Execlists := ⟨fun _ slot => if slot.val = 0 then .context 5 else .null, 0⟩

def ownDriver : Driver := ⟨fun _ _ lists => lists, id⟩

/-- Context 5 becomes active, and goes idle. -/
def comes : Entry := ⟨0x28001, 0x3FF8000⟩
def goes : Entry := ⟨0x3FF8000, 0x28000⟩

/-- Five entries are taken, and then four more are written, from slot 5 on and round the
ring. -/
def lapped : System :=
  let five := (((((System.initial busyLists).write comes).write goes).write comes).write goes).write
    comes
  ((((five.call ownDriver).write goes).write comes).write goes).write comes

theorem runs_write {driver : Driver} {s t : System} {events : List Event} {entry : Entry}
    (run : Runs (System.step driver) s events t) (hEntry : entry.WellFormed)
    (hRoom : t.written.length < t.decoded.length + 5) :
    Runs (System.step driver) s (events ++ [.write entry]) (t.write entry) :=
  run.snoc ⟨hEntry, hRoom, rfl⟩

theorem runs_call {driver : Driver} {s t : System} {events : List Event}
    (run : Runs (System.step driver) s events t) :
    Runs (System.step driver) s (events ++ [.call]) (t.call driver) :=
  run.snoc rfl

theorem runs_lapped : Runs (System.step ownDriver) (System.initial busyLists)
    [.write comes, .write goes, .write comes, .write goes, .write comes, .call, .write goes,
      .write comes, .write goes, .write comes] lapped := by
  have hComes : comes.WellFormed := ⟨by decide, by decide⟩
  have hGoes : goes.WellFormed := ⟨by decide, by decide⟩
  have start : Runs (System.step ownDriver) (System.initial busyLists) [] _ := .nil _
  have two := runs_write (runs_write start hComes (by decide)) hGoes (by decide)
  have five := runs_write (runs_write (runs_write two hComes (by decide)) hGoes (by decide)) hComes
    (by decide)
  have seven := runs_write (runs_write (runs_call five) hGoes (by decide)) hComes (by decide)
  exact runs_write (runs_write seven hGoes (by decide)) hComes (by decide)

/-- The call takes slots 5, 0, 1 and 2, and each entry reaches its handler. -/
theorem csb_delivers_second_lap :
    lapped.Delivers ownDriver ∧
      (lapped.result ownDriver).map Decoded.index = [5, 0, 1, 2] ∧
      (lapped.call ownDriver).streamer.handled = lapped.streamer.handled ++
        [(.activeToIdle, ⟨0x18, 0xA0⟩), (.idleToActive, ⟨1, 0xA0⟩), (.activeToIdle, ⟨0x18, 0xA0⟩),
          (.idleToActive, ⟨1, 0xA0⟩)] ∧
      (lapped.call ownDriver).streamer.stored = 0x12 :=
  ⟨(csb_delivers_in_order ownDriver busyLists _ _ runs_lapped).2.2, by decide, by decide, by decide⟩

end Lap

end NootedBlue.Csb
