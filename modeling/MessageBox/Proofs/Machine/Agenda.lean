import Mathlib.Data.List.Basic
import Mathlib.Data.List.Induction
import MessageBox.Proofs.Machine.Fires

/-!
# What is left to do

The agenda of a machine is the list of all instructions on its threads and in its queued tasks. A step
takes the executed instruction off the agenda and puts on it what the instruction leaves in its place and
what it hands on (`Fires.agenda_perm`). A run that takes a task leaves the agenda as it is
(`agenda_takes`), and a panic only shortens it (`agenda_panic`). Facts that hold of every instruction, and
counts of instructions, are carried through runs by these three lemmas.
-/

namespace MessageBox.Machine

open scoped List

/-- The code of every thread. -/
def codes (m : Machine) : List (List Instr) := m.threads.map (·.code)

/-- The instructions that are still to be executed, on threads and in tasks. -/
def agenda (m : Machine) : List Instr := m.codes.flatten ++ m.loop.queue.flatten

/-! ### Codes -/

/-- The code of a thread is found among the codes where the thread is found. -/
lemma codes_getElem? {m : Machine} {t : ThreadId} {th : Thread} (ht : m.threads[t]? = some th) :
    m.codes[t]? = some th.code := by
  simp [codes, ht]

/-- Going to some code replaces the code of one thread. -/
lemma codes_goto (m : Machine) (t : ThreadId) (code : List Instr) :
    (m.goto t code).codes = m.codes.set t code := by
  apply List.ext_getElem?
  intro j
  by_cases hj : t = j
  · subst hj
    by_cases hlt : t < m.threads.length
    · simp [codes, goto, hlt]
    · simp [codes, goto, hlt]
  · simp [codes, goto, hj]

/-- A thread that goes to some code has this code then. -/
lemma codes_goto_self {m : Machine} {t : ThreadId} {code : List Instr} (ht : m.codes[t]? = some code)
    (new : List Instr) : (m.goto t new).codes[t]? = some new := by
  rw [codes_goto, List.getElem?_set_self (List.getElem?_eq_some_iff.1 ht).1]

/-- A thread that goes to some code leaves the code of every other one as it is. -/
lemma codes_goto_other {m : Machine} {t u : ThreadId} (h : t ≠ u) (new : List Instr) :
    (m.goto t new).codes[u]? = m.codes[u]? := by
  rw [codes_goto, List.getElem?_set_ne h]

/-- Falling asleep changes no code. -/
@[simp]
lemma codes_sleep (m : Machine) (t : ThreadId) : (m.sleep t).codes = m.codes := by
  apply List.ext_getElem?
  intro j
  by_cases hj : t = j <;> cases h : m.threads[j]? <;> simp [codes, Machine.sleep, hj, h]

/-- Being roused changes no code. -/
@[simp]
lemma codes_rouse (m : Machine) (t : ThreadId) : (m.rouse t).codes = m.codes := by
  apply List.ext_getElem?
  intro j
  by_cases hj : t = j <;> cases h : m.threads[j]? <;> simp [codes, rouse, hj, h]

/-- Waking the threads that wait for something changes no code. -/
@[simp]
lemma codes_wake (m : Machine) (p : Instr → Bool) : (m.wake p).codes = m.codes := by
  simp only [codes, wake, List.map_map]
  apply List.map_congr_left
  intro th _
  simp only [Function.comp_apply]
  split <;> rfl

/-- A spawned thread comes last with its code. -/
@[simp]
lemma codes_spawn (m : Machine) (name : String) (code : List Instr) :
    (m.spawn name code).codes = m.codes ++ [code] := by
  simp [codes, spawn]

/-- Records of the log change nothing but the history. -/
lemma note_eq (m : Machine) (t : ThreadId) (records : List Log.Record) :
    m.note t records =
      { m with history := m.history ++ (records.map fun r => (t, Event.logged r)).toArray } := by
  induction records generalizing m with
  | nil => simp [note]
  | cons r records ih =>
    have hstep : m.note t (r :: records) = (m.emit t (.logged r)).note t records := rfl
    rw [hstep, ih]
    simp [emit]

/-- What a program is told about its dialog changes nothing but the history. -/
lemma tellProgram_eq (m : Machine) (t : ThreadId) (origin : Origin) (failure : Option ToolkitFailure) :
    m.tellProgram t origin failure =
      { m with
        history := if origin = .program then m.history.push (t, .offered failure) else m.history } := by
  cases origin <;> simp [tellProgram, emit]

/-- Binding a loop settles its owner and changes nothing else. -/
lemma bind_eq {l l' : Loop} {t b} (h : l.bind t = (b, l')) :
    l' = { l with owner := some (l.owner.getD t) } := by
  unfold Loop.bind at h
  split at h
  · next owner ho =>
    cases h
    cases l
    simp_all
  · next ho =>
    cases h
    simp [ho]

/-- A loop that was bound with success belongs to the thread that bound it. -/
lemma bind_true {l l' : Loop} {t} (h : l.bind t = (true, l')) : l'.owner = some t := by
  unfold Loop.bind at h
  split at h
  · next owner ho =>
    simp only [Prod.mk.injEq, beq_iff_eq] at h
    obtain ⟨rfl, rfl⟩ := h
    exact ho
  · cases h
    rfl

/-- The code that an instruction gives to a new thread. -/
inductive Spawns : Instr → List Instr → Prop where
  | fork {body} :
    Spawns (.op (.fork body)) (load body)
  | later {ms body time} :
    Spawns (.op (.later ms body)) (.sleepUntil time :: load body)

/-- The task that an instruction puts into the queue. -/
inductive Posts : Instr → Task → Prop where
  | program {o task} :
    Op.task? o = some task →
    Posts (.op o) task
  | create {c} :
    Posts (.schedule c) [.create c]
  | press {d slot} :
    Posts (.schedulePress d slot) [.pressChosen d slot]

/-- A new thread starts with operations, at most behind a sleep. -/
lemma Spawns.mem {i j : Instr} {code : List Instr} (h : Spawns i code) (hj : j ∈ code) :
    (∃ o, j = .op o) ∨ ∃ time, j = .sleepUntil time := by
  cases h with
  | fork =>
    obtain ⟨o, -, rfl⟩ := mem_load.1 hj
    exact .inl ⟨o, rfl⟩
  | later =>
    rcases List.mem_cons.1 hj with rfl | hj
    · exact .inr ⟨_, rfl⟩
    · obtain ⟨o, -, rfl⟩ := mem_load.1 hj
      exact .inl ⟨o, rfl⟩

/-- Where the instructions go that a firing hands on: nowhere, to a new thread, or to the queue. -/
lemma Fires.placement {m m₁ : Machine} {t i next sent} (h : Fires m t i next sent m₁) :
    (m₁.codes = m.codes ∧ m₁.loop.queue = m.loop.queue ∧ sent = []) ∨
    (m₁.codes = m.codes ++ [sent] ∧ m₁.loop.queue = m.loop.queue ∧ Spawns i sent) ∨
    (m₁.codes = m.codes ∧ m₁.loop.queue = m.loop.queue ++ [sent] ∧ Posts i sent) := by
  cases h with
  | run hb => exact .inl ⟨rfl, by simp [emit, bind_eq hb], rfl⟩
  | nest _ hb => exact .inl ⟨rfl, by simp [emit, bind_eq hb], rfl⟩
  | bind => exact .inl ⟨rfl, by simp [emit, bind_eq (Prod.eta (m.loop.bind t)).symm], rfl⟩
  | fork => exact .inr (.inl ⟨codes_spawn .., rfl, .fork⟩)
  | later => exact .inr (.inl ⟨codes_spawn .., rfl, .later⟩)
  | post ho _ => exact .inr (.inr ⟨rfl, rfl, .program ho⟩)
  | schedule _ _ => exact .inr (.inr ⟨rfl, rfl, .create⟩)
  | schedulePress _ _ =>
    refine .inr (.inr ⟨?_, ?_, .press⟩)
    · simp [tellProgram_eq, enqueue, emit, codes]
    · simp [tellProgram_eq, enqueue, emit]
  | doze => exact .inl ⟨codes_sleep .., rfl, rfl⟩
  | awaitSleep => exact .inl ⟨codes_sleep .., rfl, rfl⟩
  | wakeLoop => exact .inl ⟨codes_wake .., rfl, rfl⟩
  | wakeCall => exact .inl ⟨codes_wake .., rfl, rfl⟩
  | _ => exact .inl (by simp [codes, emit, note_eq, tellProgram_eq, modifyCall, setActive, Loop.signal])

/-- A firing replaces the code of its thread, and no code before that. -/
lemma Fires.code {m m₁ : Machine} {t i next sent code} {u : ThreadId} (h : Fires m t i next sent m₁)
    (ht : m.codes[u]? = some code) : m₁.codes[u]? = some code := by
  obtain ⟨hc, -, -⟩ | ⟨hc, -⟩ | ⟨hc, -⟩ := h.placement
  · rw [hc, ht]
  · have hlt : u < m.codes.length := (List.getElem?_eq_some_iff.1 ht).1
    rw [hc, List.getElem?_append_left hlt, ht]
  · rw [hc, ht]

/-- The code of a thread after a firing: what the firing left, what it was, or what a new thread was
given. -/
lemma Fires.codes_after {m m₁ : Machine} {t i rest next sent code} {u : ThreadId}
    (h : Fires m t i next sent m₁) (ht : m.codes[t]? = some (i :: rest))
    (hu : (m₁.goto t (next ++ rest)).codes[u]? = some code) :
    (u = t ∧ code = next ++ rest) ∨ m.codes[u]? = some code ∨ m.codes[u]? = none ∧ Spawns i code := by
  by_cases hut : t = u
  · subst hut
    rw [codes_goto_self (h.code ht)] at hu
    cases hu
    exact .inl ⟨rfl, rfl⟩
  · rw [codes_goto_other hut] at hu
    obtain ⟨hc, -, -⟩ | ⟨hc, -, hs⟩ | ⟨hc, -, -⟩ := h.placement
    · exact .inr (.inl (hc ▸ hu))
    · rw [hc, List.getElem?_append] at hu
      split at hu
      · exact .inr (.inl hu)
      · next hlt =>
        obtain rfl := List.mem_singleton.1 (List.mem_of_getElem? hu)
        exact .inr (.inr ⟨List.getElem?_eq_none (Nat.le_of_not_lt hlt), hs⟩)
    · exact .inr (.inl (hc ▸ hu))

/-- A task in the queue after a firing was there, or has just been posted. -/
lemma Fires.queue_after {m m₁ : Machine} {t i next sent task} (h : Fires m t i next sent m₁)
    (hq : task ∈ m₁.loop.queue) : task ∈ m.loop.queue ∨ task = sent ∧ Posts i task := by
  obtain ⟨-, he, -⟩ | ⟨-, he, -⟩ | ⟨-, he, hp⟩ := h.placement
  · exact .inl (he ▸ hq)
  · exact .inl (he ▸ hq)
  · rw [he] at hq
    rcases List.mem_append.1 hq with hq | hq
    · exact .inl hq
    · obtain rfl := List.mem_singleton.1 hq
      exact .inr ⟨rfl, hp⟩

/-! ### The agenda -/

/-- What is on the agenda stands in the code of a thread or in a task of the queue. -/
lemma mem_agenda_iff {m : Machine} {i : Instr} :
    i ∈ m.agenda ↔ (∃ (t : ThreadId) (code : List Instr), m.codes[t]? = some code ∧ i ∈ code) ∨
      ∃ task ∈ m.loop.queue, i ∈ task := by
  simp only [agenda, List.mem_append, List.mem_flatten, List.mem_iff_getElem? (l := m.codes)]
  constructor
  · rintro (⟨code, ⟨t, ht⟩, hi⟩ | hq)
    · exact .inl ⟨t, code, ht, hi⟩
    · exact .inr hq
  · rintro (⟨t, code, ht, hi⟩ | hq)
    · exact .inl ⟨code, ⟨t, ht⟩, hi⟩
    · exact .inr hq

/-- Replacing one code changes the agenda by the difference of the two. -/
lemma flatten_set_perm {l : List (List Instr)} {t code} (h : l[t]? = some code) (new : List Instr) :
    (l.set t new).flatten ++ code ~ l.flatten ++ new := by
  induction l generalizing t with
  | nil => simp at h
  | cons a l ih =>
    cases t with
    | zero =>
      simp only [List.getElem?_cons_zero, Option.some.injEq] at h
      subst h
      simp only [List.set_cons_zero, List.flatten_cons, List.append_assoc]
      calc new ++ (l.flatten ++ a) ~ (l.flatten ++ a) ++ new := List.perm_append_comm
        _ ~ (a ++ l.flatten) ++ new := List.Perm.append_right _ List.perm_append_comm
        _ = a ++ (l.flatten ++ new) := List.append_assoc ..
    | succ t =>
      simp only [List.getElem?_cons_succ] at h
      simp only [List.set_cons_succ, List.flatten_cons, List.append_assoc]
      exact List.Perm.append_left a (ih h)

/-- Replacing the code `code` of a thread by `new`, the agenda gets `new` for `code`. -/
lemma agenda_goto {m : Machine} {t code} (ht : m.codes[t]? = some code) (new : List Instr) :
    (m.goto t new).agenda ++ code ~ m.agenda ++ new := by
  have hset := flatten_set_perm ht new
  have hqueue : (m.goto t new).loop.queue = m.loop.queue := rfl
  simp only [agenda, codes_goto, hqueue, List.append_assoc]
  calc (m.codes.set t new).flatten ++ (m.loop.queue.flatten ++ code)
    _ ~ (m.codes.set t new).flatten ++ (code ++ m.loop.queue.flatten) :=
        List.Perm.append_left _ List.perm_append_comm
    _ = ((m.codes.set t new).flatten ++ code) ++ m.loop.queue.flatten := (List.append_assoc ..).symm
    _ ~ (m.codes.flatten ++ new) ++ m.loop.queue.flatten := List.Perm.append_right _ hset
    _ = m.codes.flatten ++ (new ++ m.loop.queue.flatten) := List.append_assoc ..
    _ ~ m.codes.flatten ++ (m.loop.queue.flatten ++ new) := List.Perm.append_left _ List.perm_append_comm

/-- What a firing hands on is put on the agenda. -/
lemma Fires.agenda_sent {m m₁ : Machine} {t i next sent} (h : Fires m t i next sent m₁) :
    m₁.agenda ~ m.agenda ++ sent := by
  obtain ⟨hc, hq, rfl⟩ | ⟨hc, hq, -⟩ | ⟨hc, hq, -⟩ := h.placement
  · simp [agenda, hc, hq]
  · simp only [agenda, hc, hq, List.flatten_append, List.flatten_singleton, List.append_assoc]
    exact List.Perm.append_left _ List.perm_append_comm
  · simp [agenda, hc, hq]

/-- A firing takes its instruction off the agenda and puts on it what the instruction leaves and hands
on. -/
lemma Fires.agenda_perm {m m₁ : Machine} {t i rest next sent} (h : Fires m t i next sent m₁)
    (ht : m.codes[t]? = some (i :: rest)) :
    (m₁.goto t (next ++ rest)).agenda ++ [i] ~ m.agenda ++ (next ++ sent) := by
  have hgoto := agenda_goto (h.code ht) (next ++ rest)
  -- the code behind the instruction stands on both sides
  have hcancel : (m₁.goto t (next ++ rest)).agenda ++ [i] ~ m₁.agenda ++ next := by
    rw [← List.perm_append_right_iff rest]
    simpa [List.append_assoc] using hgoto
  calc (m₁.goto t (next ++ rest)).agenda ++ [i]
    _ ~ m₁.agenda ++ next := hcancel
    _ ~ (m.agenda ++ sent) ++ next := List.Perm.append_right _ h.agenda_sent
    _ = m.agenda ++ (sent ++ next) := List.append_assoc ..
    _ ~ m.agenda ++ (next ++ sent) := List.Perm.append_left _ List.perm_append_comm

/-- A run that takes a task only moves instructions. -/
lemma agenda_takes {m : Machine} {t token rest task queue} (ht : m.codes[t]? = some (.pump token :: rest))
    (hq : m.loop.queue = task :: queue) :
    ((m.taken t task queue).goto t (task ++ .pump token :: rest)).agenda ~ m.agenda := by
  have ht' : (m.taken t task queue).codes[t]? = some (.pump token :: rest) := ht
  have hgoto := agenda_goto ht' (task ++ .pump token :: rest)
  have htask : (m.taken t task queue).agenda ++ task ~ m.agenda := by
    simp only [agenda, taken, emit, codes, hq, List.flatten_cons, List.append_assoc]
    exact List.Perm.append_left _ List.perm_append_comm
  rw [← List.perm_append_right_iff (.pump token :: rest)]
  calc _ ~ (m.taken t task queue).agenda ++ (task ++ .pump token :: rest) := hgoto
    _ = ((m.taken t task queue).agenda ++ task) ++ .pump token :: rest := (List.append_assoc ..).symm
    _ ~ m.agenda ++ .pump token :: rest := List.Perm.append_right _ htask

/-- What a panic leaves is code that stood behind it. -/
lemma unwind_suffix {code : List Instr} {token rethrow rest}
    (h : (unwind code).2 = some (token, rethrow, rest)) : .returned token rethrow :: rest <:+ code := by
  induction code with
  | nil => simp [unwind] at h
  | cons i code ih =>
    unfold unwind at h
    split at h
    · next he => cases he
    · next he =>
      cases he
      exact (ih h).trans (List.suffix_cons ..)
    · next he =>
      cases he
      cases h
      exact List.suffix_rfl
    · next he =>
      cases he
      exact (ih h).trans (List.suffix_cons ..)

/-- The code that a panic leaves to its thread. -/
def caught (rest : List Instr) : List Instr :=
  match (unwind rest).2 with
  | some (_, rethrow, rest) => if rethrow then .op .panic :: rest else rest
  | none => []

/-- What a panic leaves is part of the code it was executed in. -/
lemma caught_sublist (rest : List Instr) : (caught rest).Sublist (.op .panic :: rest) := by
  unfold caught
  split
  · next token rethrow behind h =>
    have hs : behind.Sublist rest := ((List.suffix_cons ..).trans (unwind_suffix h)).sublist
    split
    · exact List.Sublist.cons_cons _ hs
    · exact hs.trans (List.sublist_cons_self ..)
  · exact List.nil_sublist _

/-- A panic cuts the code of its own thread down to what catches it, and leaves the others as they are. -/
lemma codes_panic (m : Machine) (t : ThreadId) (rest : List Instr) :
    (m.panic t rest).codes = m.codes.set t (caught rest) := by
  unfold Machine.panic caught
  cases (unwind rest).2 with
  | some found => exact codes_goto ..
  | none =>
    apply List.ext_getElem?
    intro j
    by_cases hj : t = j
    · subst hj
      by_cases hlt : t < m.threads.length <;> simp [codes, hlt]
    · simp [codes, hj]

/-- A panic changes nothing of the machine but its thread, the depth of the loop and the history. -/
lemma panic_eq (m : Machine) (t : ThreadId) (rest : List Instr) :
    ∃ threads depth history, m.panic t rest =
      { m with threads, loop := { m.loop with depth }, history } ∧
      (history = m.history ∨ ∃ token depth, history = m.history.push (t, .ran token .panicked depth)) := by
  unfold Machine.panic
  dsimp only
  split
  · exact ⟨_, _, _, rfl, .inr ⟨_, _, rfl⟩⟩
  · exact ⟨_, _, _, rfl, .inl rfl⟩

/-- Cutting one of several codes down cuts down what they hold together. -/
lemma flatten_set_sublist {l : List (List Instr)} {t code new} (h : l[t]? = some code)
    (hs : new.Sublist code) : ((l.set t new).flatten).Sublist l.flatten := by
  induction l generalizing t with
  | nil => simp
  | cons a l ih =>
    cases t with
    | zero =>
      simp only [List.getElem?_cons_zero, Option.some.injEq] at h
      subst h
      exact hs.append (List.Sublist.refl _)
    | succ t =>
      simp only [List.getElem?_cons_succ] at h
      exact (List.Sublist.refl a).append (ih h)

/-- A panic only shortens the agenda. -/
lemma agenda_panic {m : Machine} {t rest} (ht : m.codes[t]? = some (.op .panic :: rest)) :
    (m.panic t rest).agenda.Sublist m.agenda := by
  obtain ⟨threads, depth, history, he, -⟩ := panic_eq m t rest
  have hq : (m.panic t rest).loop.queue = m.loop.queue := by rw [he]
  simp only [agenda, codes_panic, hq]
  exact (flatten_set_sublist ht (caught_sublist rest)).append (List.Sublist.refl _)

/-- A panic takes nothing off the agenda but code of its own thread. -/
lemma mem_agenda_panic {m : Machine} {t rest i} (ht : m.codes[t]? = some (.op .panic :: rest))
    (hi : i ∈ m.agenda) : i ∈ (m.panic t rest).agenda ∨ i ∈ .op .panic :: rest := by
  obtain ⟨threads, depth, history, he, -⟩ := panic_eq m t rest
  have hq : (m.panic t rest).loop.queue = m.loop.queue := by rw [he]
  simp only [agenda, codes_panic, hq]
  -- only the code of the thread that panics is cut
  rcases List.mem_append.1 hi with hi | hi
  · obtain ⟨code, hcode, hi⟩ := List.mem_flatten.1 hi
    obtain ⟨u, hu⟩ := List.mem_iff_getElem?.1 hcode
    by_cases hut : t = u
    · subst hut
      rw [ht] at hu
      cases hu
      exact .inr hi
    · refine .inl (List.mem_append_left _ (List.mem_flatten.2 ⟨code, ?_, hi⟩))
      exact List.mem_of_getElem? (by rwa [List.getElem?_set_ne hut])
  · exact .inl (List.mem_append_right _ hi)

end MessageBox.Machine
