import NootedBlue.Csb.Delivery

/-! Visibility of the context status buffer. The two words of an entry and
the write pointer become visible one by one and in any order, also while a
call is under way. The only sign of a new entry is that its words differ from
the ones with which the slot was overwritten. -/
namespace NootedBlue.Csb

open Interaction Transition Relation

/-- An execution that starts with one access. -/
theorem exec_access_iff {State α : Type} {step : State → (op : Access) → op.Answer → State → Prop}
    {op : Access} {next : op.Answer → Code α} {s u : State} {a : α} :
    Exec step (access op >>= next) s a u ↔
      ∃ answer t, step s op answer t ∧ Exec step (next answer) t a u :=
  exec_call_iff

/-- A streamer together with what the hardware has done since the last reset:
the entries it issued, which of their words have landed in the page, how many
the write pointer announces, and how many the driver consumed. -/
structure View where
  streamer : Streamer
  issued : List Entry
  landedLo : Nat → Bool
  landedHi : Nat → Bool
  announced : Nat
  consumed : Nat

namespace View

def page (v : View) : StatusPage := v.streamer.page

def landLo (v : View) (k : Nat) (entry : Entry) : View :=
  { v with
    streamer := { v.streamer with page := v.page.setLo (k % entries) entry.lo }
    landedLo := Function.update v.landedLo k true }

def landHi (v : View) (k : Nat) (entry : Entry) : View :=
  { v with
    streamer := { v.streamer with page := v.page.setHi (k % entries) entry.hi }
    landedHi := Function.update v.landedHi k true }

def announce (v : View) : View :=
  { v with
    streamer := { v.streamer with
      page := { v.page with writePointer := v.announced % entries } }
    announced := v.announced + 1 }

/-- One move of the hardware. It decides on a next entry while at most five
are unconsumed, and then its words and the write pointer follow in any order. -/
inductive Move : View → View → Prop where
  | issue (v : View) (entry : Entry) (hEntry : entry.WellFormed)
      (hRoom : v.issued.length < v.consumed + 5) :
      Move v { v with issued := v.issued ++ [entry] }
  | landLo (v : View) (k : Nat) (entry : Entry) (hIssued : v.issued[k]? = some entry)
      (hNew : v.landedLo k = false) : Move v (v.landLo k entry)
  | landHi (v : View) (k : Nat) (entry : Entry) (hIssued : v.issued[k]? = some entry)
      (hNew : v.landedHi k = false) : Move v (v.landHi k entry)
  | announce (v : View) (hIssued : v.announced < v.issued.length) : Move v v.announce

/-- An access of the driver. It has consumed an entry once it stores the read
pointer. -/
def access (driver : Driver) (v : View) (op : Access) : op.Answer × View :=
  let result := driver.respond v.streamer op
  (result.1, { v with
    streamer := result.2
    consumed := match op with
      | .writeStored _ => v.consumed + 1
      | _ => v.consumed })

/-- An access with hardware moves before it. `allowed` restricts the states in
which the access happens. -/
def Interferes (driver : Driver) (allowed : View → Access → Prop) (s : View) (op : Access)
    (answer : op.Answer) (t : View) : Prop :=
  ∃ m, ReflTransGen Move s m ∧ allowed m op ∧ (answer, t) = m.access driver op

/-- The driver resets both pointers; the hardware restarts at entry 0. Unread
entries stay in the page. -/
def reset (v : View) : View :=
  { streamer := { v.streamer with
      page := { v.page with writePointer := resetPointer }
      stored := resetPointer }
    issued := []
    landedLo := fun _ => false
    landedHi := fun _ => false
    announced := 0
    consumed := 0 }

inductive Event where
  | hardware
  | reset
  | call (decoded : List Decoded)

def step (driver : Driver) (allowed : View → Access → Prop) (s : View) : Event → View → Prop
  | .hardware, t => Move s t
  | .reset, t => t = s.reset
  | .call decoded, t => Exec (Interferes driver allowed) wrapProcessContextStatusBuffer s decoded t

/-- The streamer after `init`: the page is zeroed, so its write pointer already
points at entry 0. -/
def initial (lists : Execlists) : View :=
  { streamer := (System.initial lists).streamer
    issued := []
    landedLo := fun _ => false
    landedHi := fun _ => false
    announced := 1
    consumed := 0 }

/-- The first entry after `init` has not landed at all, in a slot that was
never written. -/
def Untouched (v : View) : Prop :=
  v.consumed = 0 ∧ v.landedLo 0 = false ∧ v.landedHi 0 = false ∧ v.page.entry 0 = ⟨0, 0⟩

/-- The word of the next announced entry has landed, or the slot still holds
the ones of the previous lap in its place. -/
def Guarded (v : View) : Access → Prop
  | .readLo index => v.consumed < v.announced →
      v.landedLo v.consumed = true ∨ (v.page.entry index).lo = ones ∨ v.Untouched
  | .readHi index => v.consumed < v.announced →
      v.landedHi v.consumed = true ∨ (v.page.entry index).hi = ones ∨ v.Untouched
  | _ => True

instance (v : View) : Decidable v.Untouched := inferInstanceAs (Decidable (_ ∧ _))

instance (v : View) : (op : Access) → Decidable (Guarded v op)
  | .readLo _ => inferInstanceAs (Decidable (_ < _ → _ ∨ _ ∨ _))
  | .readHi _ => inferInstanceAs (Decidable (_ < _ → _ ∨ _ ∨ _))
  | .pagePresent | .mmioMode | .original | .readWritePointer | .readStored | .writeStored _
  | .writeLo _ _ | .writeHi _ _ | .delay | .readLists | .handler _ _ => isTrue trivial

/-- What a call is to do: every entry it decodes is the one the hardware
issued for that position, landed with both words; a call that does not find
the next entry leaves the read pointer alone; and one that finds it takes it. -/
structure Faithful (s : View) (decoded : List Decoded) (t : View) : Prop where
  consumed : t.consumed = s.consumed + decoded.length
  fresh : ∀ i (h : i < decoded.length), decoded[i].index = (s.consumed + i) % entries ∧
    t.issued[s.consumed + i]? = some decoded[i].entry ∧
    t.landedLo (s.consumed + i) = true ∧ t.landedHi (s.consumed + i) = true
  stored : t.streamer.stored = storedAfter t.consumed
  waits : ¬ (t.landedLo s.consumed = true ∧ t.landedHi s.consumed = true) →
    decoded = [] ∧ t.streamer.stored = s.streamer.stored
  takes : s.consumed < s.announced → s.landedLo s.consumed = true →
    s.landedHi s.consumed = true → decoded ≠ []

/-- What holds at every access of a call. The first `taken` positions have
been read; their slots may be overwritten, and all others hold what landed. -/
structure InvAt (v : View) (taken : Nat) : Prop where
  present : v.streamer.present = true
  mmio : v.streamer.mmio = false
  taking : v.consumed ≤ taken ∧ taken ≤ v.consumed + 1
  window : v.issued.length ≤ v.consumed + 5
  ahead : taken ≤ v.announced
  announced : v.announced ≤ max v.issued.length 1
  landed : ∀ k < taken, v.landedLo k = true ∧ v.landedHi k = true
  lo : ∀ k, v.landedLo k = true → ∃ entry, v.issued[k]? = some entry ∧
    (taken ≤ k → (v.page.entry (k % entries)).lo = entry.lo)
  hi : ∀ k, v.landedHi k = true → ∃ entry, v.issued[k]? = some entry ∧
    (taken ≤ k → (v.page.entry (k % entries)).hi = entry.hi)
  writePointer : v.page.writePointer =
    if v.announced = 0 then resetPointer else (v.announced - 1) % entries
  stored : v.streamer.stored = storedAfter v.consumed
  wellFormed : ∀ entry ∈ v.issued, entry.WellFormed

/-- Between resets nothing the hardware did is undone. -/
structure Grows (s t : View) : Prop where
  announced : s.announced ≤ t.announced
  issued : s.issued <+: t.issued
  landedLo : ∀ k, s.landedLo k = true → t.landedLo k = true
  landedHi : ∀ k, s.landedHi k = true → t.landedHi k = true

theorem Grows.refl (v : View) : Grows v v :=
  ⟨Nat.le_refl _, List.prefix_refl _, fun _ h => h, fun _ h => h⟩

theorem Grows.trans {s t u : View} (first : Grows s t) (rest : Grows t u) : Grows s u where
  announced := Nat.le_trans first.announced rest.announced
  issued := first.issued.trans rest.issued
  landedLo := fun k h => rest.landedLo k (first.landedLo k h)
  landedHi := fun k h => rest.landedHi k (first.landedHi k h)

theorem Grows.getElem? {s t : View} (grows : Grows s t) {k : Nat} {entry : Entry}
    (h : s.issued[k]? = some entry) : t.issued[k]? = some entry := by
  obtain ⟨rest, hRest⟩ := grows.issued
  rw [← hRest, List.getElem?_append_left (List.getElem?_eq_some_iff.mp h).1]
  exact h

/-- A later moment at which the driver has consumed nothing more. -/
structure Later (s t : View) : Prop extends Grows s t where
  consumed : t.consumed = s.consumed
  untouched : t.Untouched → s.Untouched

theorem Later.refl (v : View) : Later v v :=
  { Grows.refl v with consumed := rfl, untouched := fun h => h }

theorem Later.trans {s t u : View} (first : Later s t) (rest : Later t u) : Later s u :=
  { first.toGrows.trans rest.toGrows with
    consumed := rest.consumed.trans first.consumed
    untouched := fun h => first.untouched (rest.untouched h) }

/-- The entry behind the last consumed one stays landed. -/
theorem Later.next_landed {s t : View} (later : Later s t) (hLo : s.landedLo s.consumed = true)
    (hHi : s.landedHi s.consumed = true) :
    t.landedLo t.consumed = true ∧ t.landedHi t.consumed = true := by
  rw [later.consumed]
  exact ⟨later.landedLo _ hLo, later.landedHi _ hHi⟩

/-- Positions that are unread at the same time have different slots. -/
theorem slot_ne {v : View} {taken j k : Nat} (inv : v.InvAt taken) (hj : taken ≤ j)
    (hk : taken ≤ k) (hjIssued : j < v.issued.length) (hkIssued : k < v.issued.length)
    (hNe : j ≠ k) : j % entries ≠ k % entries := by
  have hWindow := inv.window
  have hTaking := inv.taking.1
  unfold entries
  omega

theorem InvAt.landLo {v : View} {taken k : Nat} {entry : Entry} (inv : v.InvAt taken)
    (hIssued : v.issued[k]? = some entry) (hNew : v.landedLo k = false) :
    (v.landLo k entry).InvAt taken := by
  have hk : taken ≤ k := by
    by_contra hLt
    have := (inv.landed k (Nat.lt_of_not_le hLt)).1
    rw [hNew] at this
    exact Bool.false_ne_true this
  exact { inv with
    landed := by
      intro j hj
      have hOther : j ≠ k := by omega
      simpa [View.landLo, Function.update_of_ne hOther] using inv.landed j hj
    lo := by
      intro j hLanded
      by_cases hSame : j = k
      · subst hSame
        exact ⟨entry, hIssued, fun _ => by simp [View.landLo, View.page, StatusPage.setLo]⟩
      · obtain ⟨other, hOther, hSlot⟩ := inv.lo j
          (by simpa [View.landLo, Function.update_of_ne hSame] using hLanded)
        refine ⟨other, hOther, fun hj => ?_⟩
        have hNe := slot_ne inv hj hk (List.getElem?_eq_some_iff.mp hOther).1
          (List.getElem?_eq_some_iff.mp hIssued).1 hSame
        simpa [View.landLo, View.page, StatusPage.setLo, Function.update_of_ne hNe] using hSlot hj
    hi := by
      intro j hLanded
      obtain ⟨other, hOther, hSlot⟩ := inv.hi j hLanded
      refine ⟨other, hOther, fun hj => ?_⟩
      rw [← hSlot hj]
      by_cases hSame : j % entries = k % entries
      · simp [View.landLo, View.page, StatusPage.setLo, hSame]
      · simp [View.landLo, View.page, StatusPage.setLo, Function.update_of_ne hSame] }

theorem InvAt.landHi {v : View} {taken k : Nat} {entry : Entry} (inv : v.InvAt taken)
    (hIssued : v.issued[k]? = some entry) (hNew : v.landedHi k = false) :
    (v.landHi k entry).InvAt taken := by
  have hk : taken ≤ k := by
    by_contra hLt
    have := (inv.landed k (Nat.lt_of_not_le hLt)).2
    rw [hNew] at this
    exact Bool.false_ne_true this
  exact { inv with
    landed := by
      intro j hj
      have hOther : j ≠ k := by omega
      simpa [View.landHi, Function.update_of_ne hOther] using inv.landed j hj
    lo := by
      intro j hLanded
      obtain ⟨other, hOther, hSlot⟩ := inv.lo j hLanded
      refine ⟨other, hOther, fun hj => ?_⟩
      rw [← hSlot hj]
      by_cases hSame : j % entries = k % entries
      · simp [View.landHi, View.page, StatusPage.setHi, hSame]
      · simp [View.landHi, View.page, StatusPage.setHi, Function.update_of_ne hSame]
    hi := by
      intro j hLanded
      by_cases hSame : j = k
      · subst hSame
        exact ⟨entry, hIssued, fun _ => by simp [View.landHi, View.page, StatusPage.setHi]⟩
      · obtain ⟨other, hOther, hSlot⟩ := inv.hi j
          (by simpa [View.landHi, Function.update_of_ne hSame] using hLanded)
        refine ⟨other, hOther, fun hj => ?_⟩
        have hNe := slot_ne inv hj hk (List.getElem?_eq_some_iff.mp hOther).1
          (List.getElem?_eq_some_iff.mp hIssued).1 hSame
        simpa [View.landHi, View.page, StatusPage.setHi, Function.update_of_ne hNe] using hSlot hj }

theorem InvAt.move {s t : View} {taken : Nat} (inv : s.InvAt taken) (move : Move s t) :
    t.InvAt taken := by
  cases move with
  | issue entry hEntry hRoom =>
      have hAppend : ∀ {k : Nat} {other : Entry}, s.issued[k]? = some other →
          (s.issued ++ [entry])[k]? = some other := fun h => by
        rw [List.getElem?_append_left (List.getElem?_eq_some_iff.mp h).1]
        exact h
      exact { inv with
        window := by simp only [List.length_append, List.length_singleton]; omega
        announced := by
          have := inv.announced
          simp only [List.length_append, List.length_singleton]
          omega
        lo := by
          intro k hLanded
          obtain ⟨other, hOther, hSlot⟩ := inv.lo k hLanded
          exact ⟨other, hAppend hOther, hSlot⟩
        hi := by
          intro k hLanded
          obtain ⟨other, hOther, hSlot⟩ := inv.hi k hLanded
          exact ⟨other, hAppend hOther, hSlot⟩
        wellFormed := by
          intro other hOther
          rcases List.mem_append.mp hOther with hOld | hNew
          · exact inv.wellFormed other hOld
          · rw [List.mem_singleton.mp hNew]
            exact hEntry }
  | landLo k entry hIssued hNew => exact inv.landLo hIssued hNew
  | landHi k entry hIssued hNew => exact inv.landHi hIssued hNew
  | announce hIssued =>
      exact { inv with
        ahead := Nat.le_succ_of_le inv.ahead
        announced := by simp only [View.announce]; omega
        writePointer := by simp [View.announce, View.page] }

/-- While nothing is consumed, only position 0 lands in slot 0. -/
theorem slot_ne_zero {v : View} {taken k : Nat} {entry : Entry} (inv : v.InvAt taken)
    (hNone : v.consumed = 0) (hIssued : v.issued[k]? = some entry) (hk : k ≠ 0) :
    0 ≠ k % entries := by
  have hWindow := inv.window
  have hLength := (List.getElem?_eq_some_iff.mp hIssued).1
  unfold entries
  omega

theorem Later.move {s t : View} {taken : Nat} (inv : s.InvAt taken) (move : Move s t) :
    Later s t := by
  cases move with
  | issue entry hEntry hRoom =>
      exact { Later.refl s with issued := List.prefix_append _ _ }
  | landLo k entry hIssued hNew =>
      refine { Later.refl s with landedLo := ?_, untouched := ?_ }
      · intro j hj
        by_cases hSame : j = k
        · simp [View.landLo, hSame]
        · simpa [View.landLo, Function.update_of_ne hSame] using hj
      · rintro ⟨hNone, hLo, hHi, hEntry⟩
        have hk : 0 ≠ k := fun h => by simp [View.landLo, h] at hLo
        have hSlot := slot_ne_zero inv hNone hIssued hk.symm
        simp only [View.landLo, View.page, StatusPage.setLo, Function.update_of_ne hk,
          Function.update_of_ne hSlot] at hLo hEntry
        exact ⟨hNone, hLo, hHi, hEntry⟩
  | landHi k entry hIssued hNew =>
      refine { Later.refl s with landedHi := ?_, untouched := ?_ }
      · intro j hj
        by_cases hSame : j = k
        · simp [View.landHi, hSame]
        · simpa [View.landHi, Function.update_of_ne hSame] using hj
      · rintro ⟨hNone, hLo, hHi, hEntry⟩
        have hk : 0 ≠ k := fun h => by simp [View.landHi, h] at hHi
        have hSlot := slot_ne_zero inv hNone hIssued hk.symm
        simp only [View.landHi, View.page, StatusPage.setHi, Function.update_of_ne hk,
          Function.update_of_ne hSlot] at hHi hEntry
        exact ⟨hNone, hLo, hHi, hEntry⟩
  | announce hIssued =>
      exact { Later.refl s with announced := Nat.le_succ _ }

/-- Any number of hardware moves between two accesses. -/
theorem InvAt.moves {s t : View} {taken : Nat} (inv : s.InvAt taken)
    (moves : ReflTransGen Move s t) : t.InvAt taken ∧ Later s t := by
  refine invariant_of_moves (fun v => v.InvAt taken ∧ Later s v) ?_ moves
    ⟨inv, Later.refl s⟩
  intro u v hold move
  exact ⟨hold.1.move move, hold.2.trans (Later.move hold.1 move)⟩

/-- Accesses that leave the streamer as it is. -/
def Quiet (op : Access) : Prop :=
  (∀ (driver : Driver) (v : View), (v.access driver op).2 = v)

section Interference

variable {driver : Driver} {s t : View} {taken : Nat}

/-- A quiet access reads the state it ends in. -/
theorem Interferes.quiet {op : Access} {answer : op.Answer} (hQuiet : Quiet op)
    (h : Interferes driver Guarded s op answer t) (inv : s.InvAt taken) :
    t.InvAt taken ∧ Later s t ∧ t.Guarded op ∧ answer = (driver.respond t.streamer op).1 := by
  obtain ⟨m, moves, hGuard, hAnswer⟩ := h
  obtain ⟨hInv, hLater⟩ := inv.moves moves
  have hState : t = m := (congrArg Prod.snd hAnswer).trans (hQuiet driver m)
  subst hState
  exact ⟨hInv, hLater, hGuard, congrArg Prod.fst hAnswer⟩

/-- A word read from the slot of the next position has landed, unless it is
all ones or the position is untouched. -/
theorem readLo_spec {word : UInt32} (inv : s.InvAt s.consumed)
    (h : Interferes driver Guarded s (.readLo (s.consumed % entries)) word t) :
    t.InvAt s.consumed ∧ Later s t ∧ word = (t.page.entry (s.consumed % entries)).lo ∧
      (s.consumed < s.announced → word ≠ ones → t.landedLo s.consumed = true ∨ t.Untouched) := by
  obtain ⟨hInv, hLater, hGuard, hWord⟩ := h.quiet (fun _ _ => rfl) inv
  refine ⟨hInv, hLater, hWord, fun hAhead hNe => ?_⟩
  have hTaken : t.consumed < t.announced := by
    have := hLater.announced
    rw [hLater.consumed]
    omega
  rcases hGuard hTaken with hLanded | hOnes | hUntouched
  · exact .inl (by rwa [hLater.consumed] at hLanded)
  · exact absurd (hWord.trans hOnes) hNe
  · exact .inr hUntouched

theorem readHi_spec {word : UInt32} (inv : s.InvAt s.consumed)
    (h : Interferes driver Guarded s (.readHi (s.consumed % entries)) word t) :
    t.InvAt s.consumed ∧ Later s t ∧ word = (t.page.entry (s.consumed % entries)).hi ∧
      (s.consumed < s.announced → word ≠ ones → t.landedHi s.consumed = true ∨ t.Untouched) := by
  obtain ⟨hInv, hLater, hGuard, hWord⟩ := h.quiet (fun _ _ => rfl) inv
  refine ⟨hInv, hLater, hWord, fun hAhead hNe => ?_⟩
  have hTaken : t.consumed < t.announced := by
    have := hLater.announced
    rw [hLater.consumed]
    omega
  rcases hGuard hTaken with hLanded | hOnes | hUntouched
  · exact .inl (by rwa [hLater.consumed] at hLanded)
  · exact absurd (hWord.trans hOnes) hNe
  · exact .inr hUntouched

/-- What is known of an entry read from the slot of the next position, at
`t`, by a read that began at `s`. -/
structure Fetched (s : View) (entry : Entry) (t : View) : Prop where
  inv : t.InvAt s.consumed
  later : Later s t
  fresh : s.consumed < s.announced → entry.visible = true → ¬ s.Untouched →
    t.landedLo s.consumed = true ∧ t.landedHi s.consumed = true ∧
      t.issued[s.consumed]? = some entry
  found : s.landedLo s.consumed = true → s.landedHi s.consumed = true →
    t.issued[s.consumed]? = some entry
  untouched : t.Untouched → entry = ⟨0, 0⟩

theorem Fetched.after {m : View} {entry : Entry} (later : Later s m)
    (fetched : Fetched m entry t) : Fetched s entry t where
  inv := later.consumed ▸ fetched.inv
  later := later.trans fetched.later
  fresh := fun hAhead hVisible hTouched => by
    rw [← later.consumed]
    have := later.announced
    exact fetched.fresh (by rw [later.consumed]; omega) hVisible fun h => hTouched (later.untouched h)
  found := fun hLo hHi => by
    rw [← later.consumed]
    exact fetched.found (by rw [later.consumed]; exact later.landedLo _ hLo)
      (by rw [later.consumed]; exact later.landedHi _ hHi)
  untouched := fetched.untouched

/-- The low word may be read long before the high word: what landed stays. -/
theorem readEntry_spec {entry : Entry} (inv : s.InvAt s.consumed)
    (run : Exec (Interferes driver Guarded) (readEntry (s.consumed % entries)) s entry t) :
    Fetched s entry t := by
  obtain ⟨lo, m, hLo, run⟩ := exec_access_iff.mp run
  obtain ⟨hi, t', hHi, run⟩ := exec_access_iff.mp run
  obtain ⟨rfl, rfl⟩ := exec_done_iff.mp run
  obtain ⟨invLo, laterLo, rfl, freshLo⟩ := readLo_spec inv hLo
  rw [← laterLo.consumed] at hHi invLo
  obtain ⟨invHi, laterHi, rfl, freshHi⟩ := readHi_spec invLo hHi
  rw [laterLo.consumed] at invLo invHi freshHi
  have hBoth : m.landedLo s.consumed = true → t.landedHi s.consumed = true →
      t.issued[s.consumed]? =
        some ⟨(m.page.entry (s.consumed % entries)).lo, (t.page.entry (m.consumed % entries)).hi⟩ := by
    intro hLandedLo hLandedHi
    obtain ⟨entry, hIssued, hSlot⟩ := invLo.lo _ hLandedLo
    obtain ⟨other, hOther, hSlotHi⟩ := invHi.hi _ hLandedHi
    have hSame : other = entry :=
      Option.some.inj (hOther.symm.trans (laterHi.getElem? hIssued))
    rw [laterLo.consumed, hSlot (Nat.le_refl _), hSlotHi (Nat.le_refl _), hOther, hSame]
  refine ⟨invHi, laterLo.trans laterHi, ?_, ?_, ?_⟩
  · intro hAhead hVisible hTouched
    simp only [Entry.visible, Bool.and_eq_true, decide_eq_true_eq, laterLo.consumed] at hVisible
    have hLanded : m.landedLo s.consumed = true := by
      rcases freshLo hAhead hVisible.1 with hLanded | hUntouched
      · exact hLanded
      · exact absurd (laterLo.untouched hUntouched) hTouched
    have hLandedHi : t.landedHi s.consumed = true := by
      have := laterLo.announced
      rcases freshHi (by omega) hVisible.2 with hLanded | hUntouched
      · exact hLanded
      · exact absurd (laterLo.untouched (laterHi.untouched hUntouched)) hTouched
    exact ⟨laterHi.landedLo _ hLanded, hLandedHi, hBoth hLanded hLandedHi⟩
  · intro hLandedLo hLandedHi
    exact hBoth (laterLo.landedLo _ hLandedLo) (laterHi.landedHi _ (laterLo.landedHi _ hLandedHi))
  · intro hUntouched
    have hBefore := laterHi.untouched hUntouched
    have hZero : s.consumed % entries = 0 := by rw [← laterLo.consumed, hBefore.1]; rfl
    rw [laterLo.consumed, hZero, hBefore.2.2.2, hUntouched.2.2.2]

theorem awaitEntry_spec {spins : Nat} {entry result : Entry} {m : View} (fetched : Fetched s entry m)
    (run : Exec (Interferes driver Guarded) (awaitEntry (s.consumed % entries) spins entry) m
      result t) : Fetched s result t := by
  induction spins generalizing entry m with
  | zero =>
      obtain ⟨rfl, rfl⟩ := exec_done_iff.mp run
      exact fetched
  | succ spins ih =>
      rw [awaitEntry] at run
      split at run
      · obtain ⟨rfl, rfl⟩ := exec_done_iff.mp run
        exact fetched
      · obtain ⟨_, u, hDelay, run⟩ := exec_access_iff.mp run
        obtain ⟨next, w, hRead, run⟩ := exec_bind_iff.mp run
        obtain ⟨hInv, hLater, -, -⟩ := hDelay.quiet (fun _ _ => rfl) fetched.inv
        have hAll := fetched.later.trans hLater
        rw [← hAll.consumed] at hRead hInv
        exact ih ((readEntry_spec hInv hRead).after hAll) run

theorem fetchEntry_spec {entry : Entry} (inv : s.InvAt s.consumed)
    (run : Exec (Interferes driver Guarded) (fetchEntry (s.consumed % entries)) s entry t) :
    Fetched s entry t := by
  obtain ⟨first, m, hRead, hAwait⟩ := exec_bind_iff.mp run
  exact awaitEntry_spec (readEntry_spec inv hRead) hAwait

/-- From the moment its entry is read, a slot is the driver's to overwrite. -/
theorem InvAt.take (inv : s.InvAt s.consumed) (hAhead : s.consumed < s.announced)
    (hLo : s.landedLo s.consumed = true) (hHi : s.landedHi s.consumed = true) :
    s.InvAt (s.consumed + 1) :=
  { inv with
    taking := ⟨Nat.le_succ _, Nat.le_refl _⟩
    ahead := hAhead
    landed := fun k hk => by
      rcases Nat.lt_succ_iff_lt_or_eq.mp hk with hLt | rfl
      · exact inv.landed k hLt
      · exact ⟨hLo, hHi⟩
    lo := fun k hk => by
      obtain ⟨entry, hIssued, hSlot⟩ := inv.lo k hk
      exact ⟨entry, hIssued, fun hLe => hSlot (Nat.le_of_succ_le hLe)⟩
    hi := fun k hk => by
      obtain ⟨entry, hIssued, hSlot⟩ := inv.hi k hk
      exact ⟨entry, hIssued, fun hLe => hSlot (Nat.le_of_succ_le hLe)⟩ }

theorem InvAt.overwrite (inv : s.InvAt (s.consumed + 1)) (slots : Nat → Entry)
    (hSlots : ∀ slot, slot ≠ s.consumed % entries → slots slot = s.page.entry slot) :
    InvAt { s with streamer := { s.streamer with page := ⟨slots, s.page.writePointer⟩ } }
      (s.consumed + 1) := by
  have hOther : ∀ {k : Nat} {entry : Entry}, s.issued[k]? = some entry → s.consumed + 1 ≤ k →
      slots (k % entries) = s.page.entry (k % entries) := by
    intro k entry hIssued hk
    have hLength := (List.getElem?_eq_some_iff.mp hIssued).1
    have hWindow := inv.window
    apply hSlots
    unfold entries
    omega
  exact { inv with
    lo := fun k hk => by
      obtain ⟨entry, hIssued, hSlot⟩ := inv.lo k hk
      refine ⟨entry, hIssued, fun hLe => ?_⟩
      rw [← hSlot hLe]
      exact congrArg Entry.lo (hOther hIssued hLe)
    hi := fun k hk => by
      obtain ⟨entry, hIssued, hSlot⟩ := inv.hi k hk
      refine ⟨entry, hIssued, fun hLe => ?_⟩
      rw [← hSlot hLe]
      exact congrArg Entry.hi (hOther hIssued hLe) }

/-- An access of the driver is not a move of the hardware. -/
theorem Grows.access (v : View) (op : Access) : Grows v (v.access driver op).2 :=
  ⟨Nat.le_refl _, List.prefix_refl _, fun _ h => h, fun _ h => h⟩

theorem writeLo_spec {word : UInt32} {answer : Unit} (inv : s.InvAt (s.consumed + 1))
    (h : Interferes driver Guarded s (.writeLo (s.consumed % entries) word) answer t) :
    t.InvAt (s.consumed + 1) ∧ t.consumed = s.consumed ∧ Grows s t := by
  obtain ⟨m, moves, -, hAnswer⟩ := h
  obtain ⟨hInv, hLater⟩ := inv.moves moves
  obtain rfl : t = _ := congrArg Prod.snd hAnswer
  refine ⟨?_, hLater.consumed, hLater.toGrows.trans (Grows.access m _)⟩
  rw [← hLater.consumed] at hInv ⊢
  exact hInv.overwrite _ fun slot hSlot => Function.update_of_ne hSlot _ _

theorem writeHi_spec {word : UInt32} {answer : Unit} (inv : s.InvAt (s.consumed + 1))
    (h : Interferes driver Guarded s (.writeHi (s.consumed % entries) word) answer t) :
    t.InvAt (s.consumed + 1) ∧ t.consumed = s.consumed ∧ Grows s t := by
  obtain ⟨m, moves, -, hAnswer⟩ := h
  obtain ⟨hInv, hLater⟩ := inv.moves moves
  obtain rfl : t = _ := congrArg Prod.snd hAnswer
  refine ⟨?_, hLater.consumed, hLater.toGrows.trans (Grows.access m _)⟩
  rw [← hLater.consumed] at hInv ⊢
  exact hInv.overwrite _ fun slot hSlot => Function.update_of_ne hSlot _ _

theorem writeStored_spec {answer : Unit} (inv : s.InvAt (s.consumed + 1))
    (h : Interferes driver Guarded s (.writeStored (storedBase + s.consumed % entries)) answer t) :
    t.InvAt t.consumed ∧ t.consumed = s.consumed + 1 ∧ Grows s t := by
  obtain ⟨m, moves, -, hAnswer⟩ := h
  obtain ⟨hInv, hLater⟩ := inv.moves moves
  obtain rfl : t = _ := congrArg Prod.snd hAnswer
  refine ⟨?_, congrArg (· + 1) hLater.consumed, hLater.toGrows.trans (Grows.access m _)⟩
  rw [← hLater.consumed] at hInv ⊢
  exact { hInv with
    taking := ⟨Nat.le_refl _, Nat.le_succ _⟩
    window := Nat.le_trans hInv.window (Nat.le_succ _)
    stored := by simp [View.access, Driver.respond, storedAfter] }

/-- The handlers of the driver leave the buffer alone. -/
theorem handleEntry_spec {entry : Entry} {answer : Unit} (inv : s.InvAt taken)
    (run : Exec (Interferes driver Guarded) (handleEntry entry) s answer t) :
    t.InvAt taken ∧ t.consumed = s.consumed ∧ Grows s t := by
  obtain ⟨lists, m, hLists, run⟩ := exec_access_iff.mp run
  obtain ⟨hInv, hLater, -, -⟩ := hLists.quiet (fun _ _ => rfl) inv
  rcases hAction : entry.action lists with _ | ⟨action, synth, _ | _⟩ <;> rw [hAction] at run
  · obtain ⟨-, rfl⟩ := exec_done_iff.mp run
    exact ⟨hInv, hLater.consumed, hLater.toGrows⟩
  · obtain ⟨-, rfl⟩ := exec_done_iff.mp run
    exact ⟨hInv, hLater.consumed, hLater.toGrows⟩
  · obtain ⟨_, u, ⟨w, moves, -, hAnswer⟩, hDone⟩ := exec_call_iff.mp run
    obtain ⟨-, rfl⟩ := exec_done_iff.mp hDone
    obtain ⟨hHandled, hAfter⟩ := hInv.moves moves
    obtain rfl : t = _ := congrArg Prod.snd hAnswer
    exact ⟨{ hHandled with }, hAfter.consumed.trans hLater.consumed,
      (hLater.trans hAfter).toGrows.trans (Grows.access w _)⟩

theorem consumeEntry_spec {entry : Entry} {answer : Unit} (inv : s.InvAt (s.consumed + 1))
    (run : Exec (Interferes driver Guarded) (consumeEntry (s.consumed % entries) entry) s
      answer t) : t.InvAt t.consumed ∧ t.consumed = s.consumed + 1 ∧ Grows s t := by
  obtain ⟨_, m, hLo, run⟩ := exec_access_iff.mp run
  obtain ⟨_, w, hHi, run⟩ := exec_access_iff.mp run
  obtain ⟨_, u, hStored, run⟩ := exec_access_iff.mp run
  obtain ⟨invLo, hSameLo, growsLo⟩ := writeLo_spec inv hLo
  rw [← hSameLo] at invLo hHi hStored
  obtain ⟨invHi, hSameHi, growsHi⟩ := writeHi_spec invLo hHi
  rw [← hSameHi] at invHi hStored
  obtain ⟨invStored, hOne, growsStored⟩ := writeStored_spec invHi hStored
  obtain ⟨invDone, hSame, growsDone⟩ := handleEntry_spec invStored run
  rw [← hSame] at invDone
  exact ⟨invDone, by omega, ((growsLo.trans growsHi).trans growsStored).trans growsDone⟩

/-- What the loop has done when it stops: the entries it took are those of
the next positions. -/
structure Took (s : View) (decoded : List Decoded) (t : View) : Prop where
  inv : t.InvAt t.consumed
  grows : Grows s t
  consumed : t.consumed = s.consumed + decoded.length
  fresh : ∀ i (h : i < decoded.length), decoded[i].index = (s.consumed + i) % entries ∧
    t.issued[s.consumed + i]? = some decoded[i].entry

theorem Took.nil (inv : t.InvAt t.consumed) (later : Later s t) : Took s [] t :=
  ⟨inv, later.toGrows, later.consumed, fun _ h => absurd h (Nat.not_lt_zero _)⟩

/-- Moves before the loop starts do not matter. -/
theorem Took.after {m : View} {decoded : List Decoded} (later : Later s m)
    (took : Took m decoded t) : Took s decoded t where
  inv := took.inv
  grows := later.toGrows.trans took.grows
  consumed := by rw [took.consumed, later.consumed]
  fresh := by
    rw [← later.consumed]
    exact took.fresh

theorem Took.cons {m : View} {entry : Entry} {rest : List Decoded} (grows : Grows s m)
    (hOne : m.consumed = s.consumed + 1) (hEntry : m.issued[s.consumed]? = some entry)
    (took : Took m rest t) : Took s (⟨s.consumed % entries, entry⟩ :: rest) t where
  inv := took.inv
  grows := grows.trans took.grows
  consumed := by rw [took.consumed, hOne, List.length_cons]; omega
  fresh := by
    intro i hi
    cases i with
    | zero => exact ⟨rfl, took.grows.getElem? hEntry⟩
    | succ i =>
        have hRest := took.fresh i (Nat.lt_of_succ_lt_succ hi)
        rwa [hOne, Nat.add_assoc, Nat.add_comm 1 i] at hRest

/-- A visible entry that was fetched is consumed: the loop is one position further. -/
theorem Fetched.consume {m u : View} {entry : Entry} {answer : Unit} (fetched : Fetched s entry m)
    (hAhead : s.consumed < s.announced) (hVisible : entry.visible = true) (hTouched : ¬ s.Untouched)
    (run : Exec (Interferes driver Guarded) (consumeEntry (s.consumed % entries) entry) m answer u) :
    u.InvAt u.consumed ∧ u.consumed = s.consumed + 1 ∧ Grows s u ∧
      u.issued[s.consumed]? = some entry := by
  obtain ⟨hLo, hHi, hEntry⟩ := fetched.fresh hAhead hVisible hTouched
  have hSame := fetched.later.consumed
  have hMore := fetched.later.announced
  rw [← hSame] at run hLo hHi
  have hTake := (hSame ▸ fetched.inv : m.InvAt m.consumed).take (by omega) hLo hHi
  obtain ⟨invNext, hOne, grows⟩ := consumeEntry_spec hTake run
  rw [hSame] at hOne
  exact ⟨invNext, hOne, fetched.later.toGrows.trans grows, grows.getElem? hEntry⟩

/-- The loop, started behind the last consumed position, up to a position that
the write pointer announced. -/
theorem drain_spec {fuel upTo : Nat} {decoded : List Decoded} (inv : s.InvAt s.consumed)
    (hTouched : ¬ s.Untouched) (hFrom : s.consumed ≤ upTo) (hTo : upTo ≤ s.announced)
    (run : Exec (Interferes driver Guarded)
      (drain fuel ((s.consumed + 5) % entries) ((upTo + 5) % entries)) s decoded t) :
    Took s decoded t ∧ (0 < fuel → s.consumed < upTo → s.landedLo s.consumed = true →
      s.landedHi s.consumed = true → decoded ≠ []) := by
  induction fuel generalizing s decoded with
  | zero =>
      obtain ⟨rfl, rfl⟩ := exec_done_iff.mp run
      exact ⟨Took.nil inv (Later.refl t), fun h => absurd h (Nat.lt_irrefl 0)⟩
  | succ fuel ih =>
      rw [drain] at run
      split at run
      · next hEq =>
          obtain ⟨rfl, rfl⟩ := exec_done_iff.mp run
          refine ⟨Took.nil inv (Later.refl t), fun _ hLt => ?_⟩
          have hWindow := inv.window
          have hAnnounced := inv.announced
          unfold entries at hEq
          omega
      · next hNe =>
          have hLt : s.consumed < upTo := by
            refine Nat.lt_of_le_of_ne hFrom fun hEq => hNe ?_
            rw [hEq]
          rw [nextIndex_mod] at run
          obtain ⟨entry, m, hFetch, run⟩ := exec_bind_iff.mp run
          have fetched := fetchEntry_spec inv hFetch
          have hVisible : s.landedLo s.consumed = true → s.landedHi s.consumed = true →
              entry.visible = true := fun hLo hHi =>
            (fetched.inv.wellFormed entry (List.mem_of_getElem? (fetched.found hLo hHi))).1
          split at run
          · next hVis =>
              obtain ⟨_, u, hConsume, run⟩ := exec_bind_iff.mp run
              obtain ⟨rest, w, hRest, run⟩ := exec_bind_iff.mp run
              obtain ⟨rfl, rfl⟩ := exec_done_iff.mp run
              obtain ⟨invNext, hOne, grows, hEntry⟩ :=
                fetched.consume (by omega) hVis hTouched hConsume
              have hRead : s.consumed % entries = (u.consumed + 5) % entries := by
                rw [hOne]
                unfold entries
                omega
              rw [hRead] at hRest
              have hAhead := grows.announced
              have took := (ih invNext (fun h => absurd h.1 (by omega)) (by omega) (by omega)
                hRest).1
              exact ⟨Took.cons grows hOne hEntry took, fun _ _ _ _ => List.cons_ne_nil _ _⟩
          · next hVis =>
              obtain ⟨rfl, rfl⟩ := exec_done_iff.mp run
              refine ⟨Took.nil (fetched.later.consumed ▸ fetched.inv) fetched.later, ?_⟩
              intro _ _ hLo hHi
              exact absurd (hVisible hLo hHi) hVis

/-- Where the loop starts. It does not start at an untouched position, and it
starts when the next entry was there before. -/
theorem startPointer_spec {start : Option Nat} (inv : s.InvAt s.consumed)
    (run : Exec (Interferes driver Guarded) (startPointer s.streamer.stored) s start t) :
    t.InvAt s.consumed ∧ Later s t ∧
      (∀ readPointer, start = some readPointer →
        readPointer = (s.consumed + 5) % entries ∧ ¬ t.Untouched) ∧
      (s.landedLo s.consumed = true → s.landedHi s.consumed = true → start ≠ none) := by
  rw [inv.stored] at run
  by_cases hFirst : s.consumed = 0
  · rw [hFirst, startPointer, if_neg (by decide)] at run
    obtain ⟨entry, m, hRead, run⟩ := exec_bind_iff.mp run
    have hSlot : (0 : Nat) = s.consumed % entries := by rw [hFirst]; rfl
    rw [hSlot] at hRead
    have fetched := readEntry_spec inv hRead
    split at run
    · next hBlank =>
        obtain ⟨rfl, rfl⟩ := exec_done_iff.mp run
        refine ⟨fetched.inv, fetched.later, fun _ h => absurd h (by simp), fun hLo hHi => ?_⟩
        have hFormed := fetched.inv.wellFormed entry (List.mem_of_getElem? (fetched.found hLo hHi))
        rw [hFormed.not_blank] at hBlank
        exact absurd hBlank Bool.false_ne_true
    · next hBlank =>
        obtain ⟨rfl, rfl⟩ := exec_done_iff.mp run
        refine ⟨fetched.inv, fetched.later, ?_, fun _ _ => Option.some_ne_none _⟩
        intro readPointer hStart
        refine ⟨by rw [← Option.some.inj hStart, hFirst]; rfl, fun hUntouched => hBlank ?_⟩
        rw [fetched.untouched hUntouched]
        rfl
  · rw [startPointer_index _ hFirst] at run
    obtain ⟨rfl, rfl⟩ := exec_done_iff.mp run
    refine ⟨inv, Later.refl t, ?_, fun _ _ => Option.some_ne_none _⟩
    intro readPointer hStart
    exact ⟨(Option.some.inj hStart).symm, fun hUntouched => hFirst hUntouched.1⟩

/-- The write pointer is read before anything else, so it may be behind. -/
theorem processPage_spec {decoded : List Decoded} (inv : s.InvAt s.consumed)
    (run : Exec (Interferes driver Guarded) processPage s decoded t) :
    Took s decoded t ∧ (s.consumed < s.announced → s.landedLo s.consumed = true →
      s.landedHi s.consumed = true → decoded ≠ []) := by
  obtain ⟨writePointer, m, hWrite, run⟩ := exec_access_iff.mp run
  obtain ⟨stored, u, hStored, run⟩ := exec_access_iff.mp run
  obtain ⟨start, w, hStart, run⟩ := exec_bind_iff.mp run
  obtain ⟨invWrite, laterWrite, -, hValue⟩ := hWrite.quiet (fun _ _ => rfl) inv
  obtain rfl : writePointer = m.page.writePointer := hValue
  obtain ⟨invStored, laterStored, -, rfl⟩ := hStored.quiet (fun _ _ => rfl) invWrite
  have hSame : u.consumed = s.consumed := (laterWrite.trans laterStored).consumed
  obtain ⟨invStart, laterStart, hFrom, hFound⟩ := startPointer_spec (hSame ▸ invStored) hStart
  have hLater := (laterWrite.trans laterStored).trans laterStart
  rw [hSame] at invStart hFrom hFound
  have hEmpty : Took s [] w := Took.nil (hLater.consumed ▸ invStart) hLater
  cases start with
  | none =>
      obtain ⟨rfl, rfl⟩ := exec_done_iff.mp run
      refine ⟨hEmpty, fun _ hLo hHi => absurd rfl (hFound ?_ ?_)⟩
      · exact laterStored.landedLo _ (laterWrite.landedLo _ hLo)
      · exact laterStored.landedHi _ (laterWrite.landedHi _ hHi)
  | some readPointer =>
      obtain ⟨rfl, hTouched⟩ := hFrom readPointer rfl
      have hPointer : m.page.writePointer = _ := invWrite.writePointer
      rw [drainFrom] at run
      by_cases hNone : m.announced = 0
      · rw [if_pos hNone] at hPointer
        rw [hPointer, if_pos (by decide)] at run
        obtain ⟨rfl, rfl⟩ := exec_done_iff.mp run
        refine ⟨hEmpty, fun hAhead => ?_⟩
        have := laterWrite.announced
        omega
      · rw [if_neg hNone] at hPointer
        have hUpTo : m.page.writePointer = (m.announced + 5) % entries := by
          rw [hPointer]
          unfold entries
          omega
        have hRange : ¬ m.page.writePointer ≥ entries := by
          rw [hUpTo]
          exact Nat.not_le.mpr (Nat.mod_lt _ (by decide))
        rw [if_neg hRange, hUpTo, ← hLater.consumed] at run
        have hAhead := invWrite.ahead
        have hMore := (laterStored.trans laterStart).announced
        have hSameW := hLater.consumed
        obtain ⟨took, hTakes⟩ := drain_spec (hLater.consumed ▸ invStart) hTouched (by omega) hMore
          run
        refine ⟨took.after hLater, ?_⟩
        intro hLt hLo hHi
        have hBefore := laterWrite.announced
        have hLanded := hLater.next_landed hLo hHi
        exact hTakes (by decide) (by omega) hLanded.1 hLanded.2

/-- One call, with any hardware moves during it. -/
theorem call_spec {decoded : List Decoded} (inv : s.InvAt s.consumed)
    (run : Exec (Interferes driver Guarded) wrapProcessContextStatusBuffer s decoded t) :
    Took s decoded t ∧ s.Faithful decoded t := by
  obtain ⟨present, m, hPresent, run⟩ := exec_access_iff.mp run
  obtain ⟨mmio, u, hMmio, run⟩ := exec_access_iff.mp run
  obtain ⟨invPresent, laterPresent, -, rfl⟩ := hPresent.quiet (fun _ _ => rfl) inv
  obtain ⟨invMmio, laterMmio, -, rfl⟩ := hMmio.quiet (fun _ _ => rfl) invPresent
  have hMode : (!m.streamer.present || u.streamer.mmio) = false := by
    rw [invPresent.present, invMmio.mmio]
    rfl
  change Exec _ (if !m.streamer.present || u.streamer.mmio then _ else processPage) u decoded t at run
  rw [hMode] at run
  have hLater := laterPresent.trans laterMmio
  have hSame := hLater.consumed
  obtain ⟨took, hTakes⟩ := processPage_spec (hSame ▸ invMmio) run
  have hAll := took.after hLater
  refine ⟨hAll, hAll.consumed, ?_, took.inv.stored, ?_, ?_⟩
  · intro i hi
    have hLanded := hAll.inv.landed (s.consumed + i) (by have := hAll.consumed; omega)
    exact ⟨(hAll.fresh i hi).1, (hAll.fresh i hi).2, hLanded⟩
  · intro hMissing
    have hNone : decoded = [] := by
      by_contra hSome
      have hLength := List.length_pos_iff.mpr hSome
      exact hMissing (hAll.inv.landed s.consumed (by have := hAll.consumed; omega))
    subst hNone
    exact ⟨rfl, by rw [hAll.inv.stored, hAll.consumed, inv.stored]; rfl⟩
  · intro hAhead hLo hHi
    have hMore := hLater.announced
    have hLanded := hLater.next_landed hLo hHi
    exact hTakes (by omega) hLanded.1 hLanded.2

end Interference

theorem InvAt_initial (lists : Execlists) : (initial lists).InvAt 0 where
  present := rfl
  mmio := rfl
  taking := ⟨Nat.le_refl 0, Nat.zero_le _⟩
  window := Nat.zero_le _
  ahead := Nat.zero_le _
  announced := Nat.le_refl _
  landed := fun k hk => absurd hk (Nat.not_lt_zero k)
  lo := fun k hk => absurd hk (by simp [initial])
  hi := fun k hk => absurd hk (by simp [initial])
  writePointer := rfl
  stored := rfl
  wellFormed := by simp [initial]

theorem InvAt.reset {v : View} {taken : Nat} (inv : v.InvAt taken) : v.reset.InvAt 0 where
  present := inv.present
  mmio := inv.mmio
  taking := ⟨Nat.le_refl 0, Nat.zero_le _⟩
  window := Nat.zero_le _
  ahead := Nat.zero_le _
  announced := Nat.zero_le _
  landed := fun k hk => absurd hk (Nat.not_lt_zero k)
  lo := fun k hk => absurd hk (by simp [View.reset])
  hi := fun k hk => absurd hk (by simp [View.reset])
  writePointer := rfl
  stored := rfl
  wellFormed := by simp [View.reset]

/-- The invariant holds between any two events of any run. -/
theorem InvAt_of_runs {driver : Driver} {lists : Execlists} {events : List Event} {s : View}
    (run : Runs (step driver Guarded) (initial lists) events s) : s.InvAt s.consumed := by
  refine run.invariant (fun v => v.InvAt v.consumed) ?_ (InvAt_initial lists)
  intro s event t inv hStep
  cases event with
  | hardware =>
      have hSame := (Later.move inv hStep).consumed
      exact hSame ▸ inv.move hStep
  | reset =>
      rw [show t = s.reset from hStep]
      exact inv.reset
  | call decoded => exact (call_spec inv hStep).1.inv

end View

/-- In every run in which each word the driver reads of the next announced
entry has landed, or still is all ones (or the whole slot zero, at the first
entry), a call decodes what the hardware issued and nothing else. -/
theorem csb_decodes_only_landed_entries (driver : Driver) (lists : Execlists)
    (events : List View.Event) (s t : View) (decoded : List Decoded)
    (run : Runs (View.step driver View.Guarded) (View.initial lists) events s)
    (call : View.step driver View.Guarded s (.call decoded) t) : s.Faithful decoded t :=
  (View.call_spec (View.InvAt_of_runs run) call).2

section Scenarios

def quietDriver : Driver := ⟨fun _ _ lists => lists, id⟩

/-- An idle-to-active entry for context 5. -/
def firstEntry : Entry := ⟨0x28001, 0x3FF8000⟩

/-- The same context goes idle. -/
def secondEntry : Entry := ⟨0x3FF8000, 0x28000⟩

def emptyLists : Execlists := ⟨fun _ _ => .null, 0⟩

/-- The first entry has landed; the write pointer of the zeroed page already
announces it. -/
def landedFirst : View :=
  (({ View.initial emptyLists with issued := [firstEntry] }).landLo 0 firstEntry).landHi 0 firstEntry

theorem runs_landedFirst (allowed : View → Access → Prop) :
    Runs (View.step quietDriver allowed) (View.initial emptyLists)
      [.hardware, .hardware, .hardware] landedFirst :=
  .snoc (.snoc (.snoc (.nil _)
    (View.Move.issue _ firstEntry ⟨by decide, by decide⟩ (by decide)))
    (View.Move.landLo _ 0 firstEntry rfl rfl))
    (View.Move.landHi _ 0 firstEntry rfl rfl)

/-- The write pointer announces a second entry, of which nothing has landed. -/
def announcedSecond : View :=
  ({ landedFirst with issued := [firstEntry, secondEntry] }).announce

theorem runs_announcedSecond :
    Runs (View.step quietDriver fun _ _ => True) (View.initial emptyLists)
      [.hardware, .hardware, .hardware, .hardware, .hardware] announcedSecond := by
  have hIssue : View.step quietDriver (fun _ _ => True) landedFirst .hardware
      { landedFirst with issued := [firstEntry, secondEntry] } :=
    View.Move.issue landedFirst secondEntry ⟨by decide, by decide⟩ (by decide)
  exact .snoc (.snoc (runs_landedFirst _) hIssue) (View.Move.announce _ (by decide))

/-- A call with no hardware move during it. -/
def View.result (v : View) : List Decoded × View :=
  wrapProcessContextStatusBuffer.eval (View.access quietDriver) v

theorem access_interferes {allowed : View → Access → Prop} (v : View) (op : Access)
    (hAllowed : allowed v op) :
    View.Interferes quietDriver allowed v op (v.access quietDriver op).1 (v.access quietDriver op).2 :=
  ⟨v, .refl, hAllowed, rfl⟩

/-- A run comes to this state. -/
def View.Reached (v : View) : Prop :=
  ∃ events, Runs (View.step quietDriver View.Guarded) (View.initial emptyLists) events v

theorem View.Reached.move {v w : View} (reached : v.Reached) (move : View.Move v w) : w.Reached := by
  obtain ⟨events, run⟩ := reached
  have hStep : View.step quietDriver View.Guarded v .hardware w := move
  exact ⟨_, run.snoc hStep⟩

theorem call_result {v : View}
    (hMeets : wrapProcessContextStatusBuffer.Meets View.Guarded (View.access quietDriver) v) :
    View.step quietDriver View.Guarded v (.call v.result.1) v.result.2 :=
  exec_eval access_interferes _ v hMeets

theorem View.Reached.call {v : View} (reached : v.Reached)
    (hMeets : wrapProcessContextStatusBuffer.Meets View.Guarded (View.access quietDriver) v) :
    v.result.2.Reached := by
  obtain ⟨events, run⟩ := reached
  exact ⟨_, run.snoc (call_result hMeets)⟩

/-- One more entry, whose low word lands after the write pointer has moved on. -/
def View.deliver (v : View) (entry : Entry) : View :=
  ((({ v with issued := v.issued ++ [entry] } : View).landHi v.issued.length entry).announce).landLo
    v.issued.length entry

theorem View.Reached.deliver {v : View} {entry : Entry} (reached : v.Reached)
    (hEntry : entry.WellFormed) (hRoom : v.issued.length < v.consumed + 5)
    (hAnnounced : v.announced ≤ v.issued.length) (hLo : v.landedLo v.issued.length = false)
    (hHi : v.landedHi v.issued.length = false) : (v.deliver entry).Reached := by
  have hIssued : (v.issued ++ [entry])[v.issued.length]? = some entry := List.getElem?_concat_length
  have hMore : v.announced < (v.issued ++ [entry]).length := by
    rw [List.length_append]
    exact Nat.lt_succ_of_le hAnnounced
  have issued := reached.move (.issue v entry hEntry hRoom)
  have landed := issued.move (.landHi _ v.issued.length entry hIssued hHi)
  have announced := landed.move (.announce _ hMore)
  exact announced.move (.landLo _ v.issued.length entry hIssued hLo)

/-- Five entries, and all of them have landed. -/
def fiveLanded : View :=
  (((landedFirst.deliver secondEntry).deliver firstEntry).deliver secondEntry).deliver firstEntry

/-- They were taken, and two more were announced, the second of them in slot 0 again,
where only its low word has landed. -/
def halfLanded : View :=
  let sixth := fiveLanded.result.2.deliver secondEntry
  (({ sixth with issued := sixth.issued ++ [firstEntry] } : View).announce).landLo 6 firstEntry

/-- A call came too early for the seventh entry, whose high word then landed. -/
def wholeLanded : View := halfLanded.result.2.landHi 6 firstEntry

theorem firstEntry_wellFormed : firstEntry.WellFormed := ⟨by decide, by decide⟩

theorem secondEntry_wellFormed : secondEntry.WellFormed := ⟨by decide, by decide⟩

theorem reached_fiveLanded : fiveLanded.Reached := by
  have first : landedFirst.Reached := ⟨_, runs_landedFirst _⟩
  have two := first.deliver secondEntry_wellFormed (by decide) (by decide) rfl rfl
  have three := two.deliver firstEntry_wellFormed (by decide) (by decide) rfl rfl
  have four := three.deliver secondEntry_wellFormed (by decide) (by decide) rfl rfl
  exact four.deliver firstEntry_wellFormed (by decide) (by decide) rfl rfl

theorem reached_halfLanded : halfLanded.Reached := by
  have taken := reached_fiveLanded.call (by decide +kernel)
  have sixth := taken.deliver secondEntry_wellFormed (by decide +kernel) (by decide +kernel)
    (by decide +kernel) (by decide +kernel)
  have issued := sixth.move (.issue _ firstEntry firstEntry_wellFormed (by decide +kernel))
  have announced := issued.move (.announce _ (by decide +kernel))
  exact announced.move (.landLo _ 6 firstEntry (by decide +kernel) (by decide +kernel))

theorem reached_wholeLanded : wholeLanded.Reached :=
  (reached_halfLanded.call (by decide +kernel)).move
    (.landHi _ 6 firstEntry (by decide +kernel) (by decide +kernel))

/-- The first call takes slot 5 and leaves slot 0, of which it sees one half; the next one
takes it. -/
theorem csb_decodes_once_whole :
    halfLanded.result.1 = [⟨5, secondEntry⟩] ∧
      halfLanded.Faithful halfLanded.result.1 halfLanded.result.2 ∧
      wholeLanded.result.1 = [⟨0, firstEntry⟩] ∧
      wholeLanded.Faithful wholeLanded.result.1 wholeLanded.result.2 := by
  obtain ⟨toHalf, runHalf⟩ := reached_halfLanded
  obtain ⟨toWhole, runWhole⟩ := reached_wholeLanded
  refine ⟨by decide +kernel, ?_, by decide +kernel, ?_⟩
  · exact csb_decodes_only_landed_entries quietDriver emptyLists _ _ _ _ runHalf
      (call_result (by decide +kernel))
  · exact csb_decodes_only_landed_entries quietDriver emptyLists _ _ _ _ runWhole
      (call_result (by decide +kernel))

/-- Without the condition on what the driver reads, a call takes the zeros of a
slot that was never written for the entry that the write pointer announces. -/
theorem csb_decodes_unwritten_slot :
    announcedSecond.result.1 = [⟨0, firstEntry⟩, ⟨1, ⟨0, 0⟩⟩] ∧
      ¬ ∀ (driver : Driver) (lists : Execlists) (events : List View.Event) (s t : View)
        (decoded : List Decoded),
        Runs (View.step driver fun _ _ => True) (View.initial lists) events s →
        View.step driver (fun _ _ => True) s (.call decoded) t → s.Faithful decoded t := by
  have hDecoded : announcedSecond.result.1 = [⟨0, firstEntry⟩, ⟨1, ⟨0, 0⟩⟩] := by decide
  refine ⟨hDecoded, fun hAll => ?_⟩
  have hCall : View.step quietDriver (fun _ _ => True) announcedSecond
      (.call announcedSecond.result.1) announcedSecond.result.2 :=
    exec_eval access_interferes _ announcedSecond (by decide)
  have hFaithful := hAll _ _ _ _ _ _ runs_announcedSecond hCall
  have hLanded := (hFaithful.fresh 1 (by rw [hDecoded]; decide)).2.2.1
  revert hLanded
  decide

end Scenarios

end NootedBlue.Csb
