import Mathlib.Data.List.Perm.Subperm
import MessageBox.Proofs.Machine.Agenda

/-!
# Runs

A run is a list of moves, and what holds before it and is kept by every move holds after it
(`play_induction`). `Happens` speaks about the moments of a run: the state a move finds, and the move.

All moves but the firing of an instruction are quiet: they leave calls, dialogs and the toolkit alone, and
put nothing on the agenda (`Steps.fires_or_quiet`). What is said of all code, of threads and of queued tasks, is
kept by a move if three of its kinds keep it (`step_throughout`).
-/

namespace MessageBox.Machine

open scoped List

/-- No moves change nothing. -/
lemma play_nil (m : Machine) : m.play [] = m := rfl

/-- The last move of a run is a step from where the moves before it lead. -/
lemma play_concat (m : Machine) (moves : List Move) (mv : Move) :
    m.play (moves ++ [mv]) = (m.play moves).step mv := by
  simp [play]

/-- A run goes on from where its first part leads. -/
lemma play_append (m : Machine) (moves more : List Move) :
    m.play (moves ++ more) = (m.play moves).play more := by
  simp [play]

/-- What every move keeps, every run keeps. -/
lemma play_induction {P : Machine → Prop} {m : Machine} (h : P m)
    (hstep : ∀ m mv, P m → P (m.step mv)) (moves : List Move) : P (m.play moves) := by
  induction moves using List.reverseRecOn with
  | nil => exact h
  | append_singleton moves mv ih =>
    rw [play_concat]
    exact hstep _ mv ih

/-- Some move of a run finds the machine as `P` says. -/
def Happens (m : Machine) (moves : List Move) (P : Machine → Move → Prop) : Prop :=
  ∃ before mv, before ++ [mv] <+: moves ∧ P (m.play before) mv

/-- What happens in a run, with one more move, happened before or happens at that move. -/
lemma happens_concat {m : Machine} {moves : List Move} {mv : Move} {P : Machine → Move → Prop} :
    Happens m (moves ++ [mv]) P ↔ Happens m moves P ∨ P (m.play moves) mv := by
  constructor
  · rintro ⟨before, last, hpre, hP⟩
    rcases List.prefix_concat_iff.1 hpre with he | hpre
    · obtain ⟨rfl, rfl⟩ := List.append_singleton_inj.1 he
      exact .inr hP
    · exact .inl ⟨before, last, hpre, hP⟩
  · rintro (⟨before, last, hpre, hP⟩ | hP)
    · exact ⟨before, last, hpre.trans (List.prefix_append ..), hP⟩
    · exact ⟨moves, mv, List.prefix_rfl, hP⟩

/-- What happens in a run that goes on happens before or after. -/
lemma happens_append {m : Machine} {moves more : List Move} {P : Machine → Move → Prop} :
    Happens m (moves ++ more) P ↔ Happens m moves P ∨ Happens (m.play moves) more P := by
  induction more using List.reverseRecOn with
  | nil =>
    refine ⟨fun h => .inl (by simpa using h), fun h => ?_⟩
    rcases h with h | ⟨before, mv, hpre, -⟩
    · simpa using h
    · simp at hpre
  | append_singleton more mv ih =>
    rw [← List.append_assoc, happens_concat, happens_concat, ih, play_append, or_assoc]

/-- A move executes an instruction: it comes next on a thread that is awake. -/
def Executes (m : Machine) (mv : Move) (i : Instr) : Prop :=
  ∃ t th rest, mv = .exec t ∧ m.threads[t]? = some th ∧ th.code = i :: rest ∧ th.asleep = false

/-- A move that leaves calls, dialogs and toolkit alone and puts nothing on the agenda. -/
structure Quiet (m m' : Machine) : Prop where
  calls : m'.calls = m.calls
  dialogs : m'.dialogs = m.dialogs
  desk : m'.desk = m.desk
  terminal : m'.terminal = m.terminal
  overrides : m'.overrides = m.overrides
  prompts : m'.prompts = m.prompts
  closed : m'.loop.closed = m.loop.closed
  owner : m'.loop.owner = m.loop.owner
  signalled : m'.loop.signalled = m.loop.signalled
  history : m'.history = m.history ∨
    ∃ t e, m'.history = m.history.push (t, e) ∧
      ((∃ task, e = .started task) ∨ ∃ token depth, e = .ran token .panicked depth)
  agenda : m'.agenda <+~ m.agenda
  keeps : ∀ i ∈ m.agenda, i ∈ m'.agenda ∨
    ∃ (t : ThreadId) (rest : List Instr), m.codes[t]? = some (.op .panic :: rest) ∧ i ∈ .op .panic :: rest

/-- A move fires an instruction of the thread it is about, or it is quiet. -/
lemma Steps.fires_at_or_quiet {m m' : Machine} {mv} (h : Steps m mv m') :
    (∃ t i rest next sent m₁, mv = .exec t ∧ m.Executes mv i ∧ m.codes[t]? = some (i :: rest) ∧
      Fires m t i next sent m₁ ∧ m' = m₁.goto t (next ++ rest)) ∨ Quiet m m' := by
  cases h with
  | stuck _ =>
    exact .inr ⟨rfl, rfl, rfl, rfl, rfl, rfl, rfl, rfl, rfl, .inl rfl, List.Subperm.refl _,
      fun _ hi => .inl hi⟩
  | @fires t th i rest next sent m₁ ht hcode hawake hf =>
    exact .inl ⟨t, i, rest, next, sent, m₁, rfl, ⟨t, th, rest, rfl, ht, hcode, hawake⟩,
      hcode ▸ codes_getElem? ht, hf, rfl⟩
  | takes ht hcode _ _ hq =>
    have hcodes := hcode ▸ codes_getElem? ht
    have hperm := agenda_takes hcodes hq
    exact .inr ⟨rfl, rfl, rfl, rfl, rfl, rfl, rfl, rfl, rfl, .inr ⟨_, _, rfl, .inl ⟨_, rfl⟩⟩, hperm.subperm,
      fun _ hi => .inl (hperm.symm.subset hi)⟩
  | @panics t th rest ht hcode _ =>
    have hcodes := hcode ▸ codes_getElem? ht
    obtain ⟨threads, depth, history, he, hh⟩ := panic_eq m t rest
    have hsub := (agenda_panic hcodes).subperm
    have hkeeps := fun i (hi : i ∈ m.agenda) => mem_agenda_panic hcodes hi
    rw [he] at hsub hkeeps ⊢
    refine .inr ⟨rfl, rfl, rfl, rfl, rfl, rfl, rfl, rfl, rfl, ?_, hsub, fun i hi => ?_⟩
    · rcases hh with hh | ⟨token, depth, hh⟩
      · exact .inl hh
      · exact .inr ⟨_, _, hh, .inr ⟨_, _, rfl⟩⟩
    · exact (hkeeps i hi).imp_right fun hi => ⟨t, rest, hcodes, hi⟩
  | @rouse t =>
    have hagenda : (m.rouse t).agenda = m.agenda := by
      simp only [agenda, codes_rouse]
      rfl
    exact .inr ⟨rfl, rfl, rfl, rfl, rfl, rfl, rfl, rfl, rfl, .inl rfl, hagenda ▸ List.Subperm.refl _,
      fun _ hi => .inl (hagenda ▸ hi)⟩
  | pass =>
    exact .inr ⟨rfl, rfl, rfl, rfl, rfl, rfl, rfl, rfl, rfl, .inl rfl, List.Subperm.refl _,
      fun _ hi => .inl hi⟩

/-- A move fires an instruction, or it is quiet. -/
lemma Steps.fires_or_quiet {m m' : Machine} {mv} (h : Steps m mv m') :
    (∃ t i rest next sent m₁, m.Executes mv i ∧ m.codes[t]? = some (i :: rest) ∧
      Fires m t i next sent m₁ ∧ m' = m₁.goto t (next ++ rest)) ∨ Quiet m m' :=
  h.fires_at_or_quiet.imp_left fun ⟨t, i, rest, next, sent, m₁, _, hfired⟩ => ⟨t, i, rest, next, sent, m₁, hfired⟩

/-- An instruction that is executed and never has to wait fires on its thread, if it is neither a run nor a panic. -/
lemma Executes.fires_at {m : Machine} {mv : Move} {i : Instr} (h : m.Executes mv i)
    (hgo : ∀ t rest, m.execInstr t rest i ≠ none) (hrun : ∀ token, i ≠ .pump token)
    (hpanic : i ≠ .op .panic) :
    ∃ t rest next sent m₁, mv = .exec t ∧ m.codes[t]? = some (i :: rest) ∧ Fires m t i next sent m₁ ∧
      m.step mv = m₁.goto t (next ++ rest) := by
  obtain ⟨t, ⟨name, code, asleep, panicked⟩, rest, rfl, ht, rfl, rfl⟩ := h
  cases he : m.execInstr t rest i with
  | none => exact absurd he (hgo t rest)
  | some m' =>
    have hstep : m.step (.exec t) = m' := by simp [step, exec, ht, he]
    rw [hstep]
    obtain ⟨next, sent, m₁, hf, rfl⟩ | ⟨token, task, queue, rfl, -, -, -⟩ | ⟨rfl, -⟩ :=
      execInstr_cases ht rfl he
    · exact ⟨t, rest, next, sent, m₁, rfl, codes_getElem? ht, hf, rfl⟩
    · exact absurd rfl (hrun token)
    · exact absurd rfl hpanic

/-- An instruction that is executed and never has to wait fires, if it is neither a run nor a panic. -/
lemma Executes.fires {m : Machine} {mv : Move} {i : Instr} (h : m.Executes mv i)
    (hgo : ∀ t rest, m.execInstr t rest i ≠ none) (hrun : ∀ token, i ≠ .pump token)
    (hpanic : i ≠ .op .panic) :
    ∃ t rest next sent m₁, m.codes[t]? = some (i :: rest) ∧ Fires m t i next sent m₁ ∧
      m.step mv = m₁.goto t (next ++ rest) := by
  obtain ⟨t, rest, next, sent, m₁, -, hfired⟩ := h.fires_at hgo hrun hpanic
  exact ⟨t, rest, next, sent, m₁, hfired⟩

/-- After a firing the agenda holds what was on it and what the instruction left and handed on. -/
lemma Fires.mem_agenda {m m₁ : Machine} {t i rest next sent j} (h : Fires m t i next sent m₁)
    (ht : m.codes[t]? = some (i :: rest)) (hj : j ∈ (m₁.goto t (next ++ rest)).agenda) :
    j ∈ m.agenda ∨ j ∈ next ∨ j ∈ sent := by
  have hmem : j ∈ m.agenda ++ (next ++ sent) := (h.agenda_perm ht).subset (List.mem_append_left _ hj)
  simpa only [List.mem_append] using hmem

/-- A firing does not take other instructions off the agenda. -/
lemma Fires.agenda_of_mem {m m₁ : Machine} {t i rest next sent j} (h : Fires m t i next sent m₁)
    (ht : m.codes[t]? = some (i :: rest)) (hj : j ∈ m.agenda) :
    j ∈ (m₁.goto t (next ++ rest)).agenda ∨ j = i := by
  have hmem : j ∈ (m₁.goto t (next ++ rest)).agenda ++ [i] :=
    (h.agenda_perm ht).symm.subset (List.mem_append_left _ hj)
  simpa only [List.mem_append, List.mem_singleton] using hmem

/-- What a firing leaves and hands on is on the agenda afterwards. -/
lemma Fires.agenda_of_new {m m₁ : Machine} {t i rest next sent j} (h : Fires m t i next sent m₁)
    (ht : m.codes[t]? = some (i :: rest)) (hj : j ∈ next ∨ j ∈ sent) :
    j ∈ (m₁.goto t (next ++ rest)).agenda := by
  have ht₁ := h.code ht
  have hlt : t < m.codes.length := (List.getElem?_eq_some_iff.1 ht).1
  have hlt₁ : t < m₁.codes.length := (List.getElem?_eq_some_iff.1 ht₁).1
  rw [agenda, codes_goto]
  rcases hj with hj | hj
  · apply List.mem_append_left
    exact List.mem_flatten.2 ⟨_, List.mem_set hlt₁ _, List.mem_append_left _ hj⟩
  · -- what is handed on lies in another thread or in the queue, so the new code does not cover it
    obtain ⟨-, -, rfl⟩ | ⟨hc, -, -⟩ | ⟨-, hq, -⟩ := h.placement
    · cases hj
    · apply List.mem_append_left
      refine List.mem_flatten.2 ⟨sent, ?_, hj⟩
      rw [hc, List.set_append_left _ _ hlt]
      exact List.mem_append_right _ (List.mem_singleton_self _)
    · apply List.mem_append_right
      have hqueue : (m₁.goto t (next ++ rest)).loop.queue = m.loop.queue ++ [sent] := hq
      rw [hqueue]
      exact List.mem_flatten.2 ⟨sent, List.mem_append_right _ (List.mem_singleton_self _), hj⟩

/-- The balance of a kind of instruction over a firing. -/
lemma Fires.countP {m m₁ : Machine} {t i rest next sent} (h : Fires m t i next sent m₁)
    (ht : m.codes[t]? = some (i :: rest)) (p : Instr → Bool) :
    (m₁.goto t (next ++ rest)).agenda.countP p + [i].countP p =
      m.agenda.countP p + (next.countP p + sent.countP p) := by
  have hperm := (h.agenda_perm ht).countP_eq p
  simpa only [List.countP_append] using hperm

/-- What is neither left nor handed on counts for nothing. -/
lemma countP_eq_zero_of_not {p : Instr → Bool} {next sent : List Instr}
    (h : ¬ ∃ j, (j ∈ next ∨ j ∈ sent) ∧ p j = true) : next.countP p = 0 ∧ sent.countP p = 0 := by
  constructor
  · exact List.countP_eq_zero.2 fun j hj hp => h ⟨j, .inl hj, hp⟩
  · exact List.countP_eq_zero.2 fun j hj hp => h ⟨j, .inr hj, hp⟩

/-- What at most one element of a list satisfies, it satisfies at one place. -/
lemma eq_of_countP_le_one {α : Type} {p : α → Bool} {l : List α} (h : l.countP p ≤ 1) {i j : Nat} {a b : α}
    (hi : l[i]? = some a) (hj : l[j]? = some b) (ha : p a = true) (hb : p b = true) : i = j := by
  induction l generalizing i j with
  | nil => simp at hi
  | cons x l ih =>
    have hpos : ∀ {k : Nat} {c}, l[k]? = some c → p c = true → 0 < l.countP p := by
      intro k c hk hc
      exact List.countP_pos_iff.2 ⟨c, List.mem_of_getElem? hk, hc⟩
    rw [List.countP_cons] at h
    cases i with
    | zero =>
      cases j with
      | zero => rfl
      | succ j =>
        simp only [List.getElem?_cons_zero, List.getElem?_cons_succ, Option.some.injEq] at hi hj
        subst hi
        have := hpos hj hb
        simp only [ha, if_true] at h
        omega
    | succ i =>
      cases j with
      | zero =>
        simp only [List.getElem?_cons_zero, List.getElem?_cons_succ, Option.some.injEq] at hi hj
        subst hj
        have := hpos hi ha
        simp only [hb, if_true] at h
        omega
      | succ j =>
        simp only [List.getElem?_cons_succ] at hi hj
        rw [ih (by omega) hi hj]

/-- What stands in the code of a thread is on the agenda. -/
lemma mem_agenda_of_code {m : Machine} {t : ThreadId} {code i} (ht : m.codes[t]? = some code)
    (hi : i ∈ code) : i ∈ m.agenda :=
  List.mem_append_left _ (List.mem_flatten.2 ⟨code, List.mem_of_getElem? ht, hi⟩)

/-- What a move executes is on the agenda. -/
lemma Executes.mem_agenda {m : Machine} {mv : Move} {i : Instr} (h : m.Executes mv i) : i ∈ m.agenda := by
  obtain ⟨t, th, rest, -, ht, hcode, -⟩ := h
  exact mem_agenda_of_code (codes_getElem? ht) (hcode ▸ List.mem_cons_self ..)

/-- What stands in the code of a thread or in a queued task is on the agenda. -/
lemma mem_agenda_of_mem {m : Machine} {code : List Instr} {i : Instr} (hcode : code ∈ m.codes ++ m.loop.queue)
    (hi : i ∈ code) : i ∈ m.agenda := by
  rw [agenda, ← List.flatten_append]
  exact List.mem_flatten.2 ⟨code, hcode, hi⟩

/-- A thread's code is its own: moves of others leave it alone. -/
lemma codes_step_other {m : Machine} {mv : Move} {u : ThreadId} {code : List Instr} (hmv : mv ≠ .exec u)
    (hu : m.codes[u]? = some code) : (m.step mv).codes[u]? = some code := by
  have hs := steps m mv
  generalize m.step mv = m' at hs
  cases hs with
  | stuck _ => exact hu
  | @fires t _ _ _ _ _ _ _ _ _ hf =>
    have htu : t ≠ u := fun h => hmv (h ▸ rfl)
    rw [codes_goto_other htu]
    exact hf.code hu
  | @takes t =>
    have htu : t ≠ u := fun h => hmv (h ▸ rfl)
    rw [codes_goto_other htu]
    exact hu
  | @panics t =>
    have htu : t ≠ u := fun h => hmv (h ▸ rfl)
    rw [codes_panic, List.getElem?_set_ne htu]
    exact hu
  | rouse =>
    rw [codes_rouse]
    exact hu
  | pass => exact hu

/-- Where an instruction in a thread's code comes from: it stood there before, the thread has left it there, it is of
a task that the thread has taken, or the thread is new and begins with it. -/
lemma mem_code_step {m : Machine} {mv : Move} {u : ThreadId} {code : List Instr} {j : Instr}
    (hu : (m.step mv).codes[u]? = some code) (hj : j ∈ code) :
    (∃ old, m.codes[u]? = some old ∧ j ∈ old) ∨
    (∃ i rest next sent m₁, mv = .exec u ∧ m.Executes mv i ∧ m.codes[u]? = some (i :: rest) ∧
      Fires m u i next sent m₁ ∧ m.step mv = m₁.goto u (next ++ rest) ∧ j ∈ next) ∨
    (∃ token rest, m.codes[u]? = some (.pump token :: rest) ∧ ∃ task ∈ m.loop.queue, j ∈ task) ∨
    (∃ o, j = .op o) ∨ ∃ time, j = .sleepUntil time := by
  have hs := steps m mv
  generalize he : m.step mv = m' at hs hu
  cases hs with
  | stuck _ => exact .inl ⟨code, hu, hj⟩
  | @fires t th i rest next sent m₁ hth hcode hawake hf =>
    have ht : m.codes[t]? = some (i :: rest) := hcode ▸ codes_getElem? hth
    rcases hf.codes_after ht hu with ⟨rfl, rfl⟩ | hold | ⟨-, hspawn⟩
    · rcases List.mem_append.1 hj with hnext | hrest
      · exact .inr (.inl ⟨i, rest, next, sent, m₁, rfl, ⟨u, th, rest, rfl, hth, hcode, hawake⟩, ht, hf, rfl, hnext⟩)
      · exact .inl ⟨_, ht, List.mem_cons_of_mem _ hrest⟩
    · exact .inl ⟨code, hold, hj⟩
    · exact .inr (.inr (.inr (hspawn.mem hj)))
  | @takes t th token rest task queue hth hcode _ _ hq =>
    have ht : m.codes[t]? = some (.pump token :: rest) := hcode ▸ codes_getElem? hth
    by_cases htu : t = u
    · subst htu
      rw [codes_goto_self (m := m.taken t task queue) ht] at hu
      cases hu
      rcases List.mem_append.1 hj with htask | hrest
      · exact .inr (.inr (.inl ⟨token, rest, ht, task, hq ▸ List.mem_cons_self .., htask⟩))
      · exact .inl ⟨_, ht, hrest⟩
    · rw [codes_goto_other htu] at hu
      exact .inl ⟨code, hu, hj⟩
  | @panics t th rest hth hcode _ =>
    have ht : m.codes[t]? = some (.op .panic :: rest) := hcode ▸ codes_getElem? hth
    rw [codes_panic] at hu
    by_cases htu : t = u
    · subst htu
      rw [List.getElem?_set_self (List.getElem?_eq_some_iff.1 ht).1] at hu
      cases hu
      exact .inl ⟨_, ht, (caught_sublist rest).subset hj⟩
    · rw [List.getElem?_set_ne htu] at hu
      exact .inl ⟨code, hu, hj⟩
  | rouse =>
    rw [codes_rouse] at hu
    exact .inl ⟨code, hu, hj⟩
  | pass => exact .inl ⟨code, hu, hj⟩

/-- Where a queued task comes from: it was queued before, or an instruction has posted it. -/
lemma mem_queue_step {m : Machine} {mv : Move} {task : Task} (h : task ∈ (m.step mv).loop.queue) :
    task ∈ m.loop.queue ∨ ∃ i, m.Executes mv i ∧ Posts i task := by
  have hs := steps m mv
  generalize m.step mv = m' at hs h
  cases hs with
  | stuck _ => exact .inl h
  | @fires t th i rest next sent m₁ hth hcode hawake hf =>
    exact (hf.queue_after h).imp_right fun ⟨_, hposts⟩ => ⟨i, ⟨t, th, rest, rfl, hth, hcode, hawake⟩, hposts⟩
  | takes _ _ _ _ hq => exact .inl (hq ▸ List.mem_cons_of_mem _ h)
  | @panics t th rest _ _ _ =>
    obtain ⟨threads, depth, history, hpanic, -⟩ := panic_eq m t rest
    rw [hpanic] at h
    exact .inl h
  | rouse => exact .inl h
  | pass => exact .inl h

/-- What is so throughout the threads' codes and the queued tasks is so, in its later form, after a move, if a
firing, the taking of a task and a panic keep it. -/
lemma step_throughout {m : Machine} (mv : Move) {P P' : List Instr → Prop}
    (h : ∀ code ∈ m.codes ++ m.loop.queue, P code) (hkeep : ∀ {code}, P code → P' code)
    (hfires : ∀ {t i rest next sent m₁}, m.Executes mv i → m.codes[t]? = some (i :: rest) →
      Fires m t i next sent m₁ → m.step mv = m₁.goto t (next ++ rest) → P' (next ++ rest) ∧ P' sent)
    (htakes : ∀ {token rest task}, P (.pump token :: rest) → P task → P' (task ++ .pump token :: rest))
    (hpanics : ∀ {rest}, P (.op .panic :: rest) → P' (caught rest)) :
    ∀ code ∈ (m.step mv).codes ++ (m.step mv).loop.queue, P' code := by
  have old : ∀ {t : ThreadId} {code}, m.codes[t]? = some code → P code := fun ht =>
    h _ (List.mem_append_left _ (List.mem_of_getElem? ht))
  have queued : ∀ task ∈ m.loop.queue, P task := fun task ht => h task (List.mem_append_right _ ht)
  -- a move that sets one code and leaves the queue shorter or alone
  have set : ∀ {m' : Machine} {t : ThreadId} {new}, m'.codes = m.codes.set t new → P' new →
      (∀ task ∈ m'.loop.queue, task ∈ m.loop.queue) → ∀ code ∈ m'.codes ++ m'.loop.queue, P' code := by
    intro m' t new hcodes hnew hqueue code hcode
    rcases List.mem_append.1 hcode with hcode | hcode
    · rw [hcodes] at hcode
      rcases List.mem_or_eq_of_mem_set hcode with hcode | rfl
      · exact hkeep (h code (List.mem_append_left _ hcode))
      · exact hnew
    · exact hkeep (queued code (hqueue code hcode))
  have hs := steps m mv
  generalize he : m.step mv = m' at hs
  cases hs with
  | stuck _ => exact fun code hcode => hkeep (h code hcode)
  | @fires t th i rest next sent m₁ hth hcode hawake hf =>
    have ht : m.codes[t]? = some (i :: rest) := hcode ▸ codes_getElem? hth
    obtain ⟨hnext, hsent⟩ := hfires ⟨t, th, rest, rfl, hth, hcode, hawake⟩ ht hf he
    have hcodes : ∀ code ∈ m₁.codes, P' code := by
      intro code hcode
      obtain ⟨hc, -, -⟩ | ⟨hc, -, -⟩ | ⟨hc, -, -⟩ := hf.placement <;> rw [hc] at hcode
      · exact hkeep (h code (List.mem_append_left _ hcode))
      · rcases List.mem_append.1 hcode with hcode | hcode
        · exact hkeep (h code (List.mem_append_left _ hcode))
        · exact List.mem_singleton.1 hcode ▸ hsent
      · exact hkeep (h code (List.mem_append_left _ hcode))
    intro code hcode
    rcases List.mem_append.1 hcode with hcode | hcode
    · rw [codes_goto] at hcode
      rcases List.mem_or_eq_of_mem_set hcode with hcode | rfl
      · exact hcodes code hcode
      · exact hnext
    · rcases hf.queue_after hcode with hold | ⟨rfl, -⟩
      · exact hkeep (queued code hold)
      · exact hsent
  | takes hth hcode _ _ hq =>
    have ht := hcode ▸ codes_getElem? hth
    refine set (codes_goto ..) (htakes (old ht) (queued _ (hq ▸ List.mem_cons_self ..))) ?_
    exact fun task htask => hq ▸ List.mem_cons_of_mem _ htask
  | @panics t th rest hth hcode _ =>
    have ht := hcode ▸ codes_getElem? hth
    refine set (codes_panic ..) (hpanics (old ht)) fun task htask => ?_
    obtain ⟨threads, depth, history, hpanic, -⟩ := panic_eq m t rest
    rwa [hpanic] at htask
  | @rouse t =>
    intro code hcode
    rw [codes_rouse] at hcode
    exact hkeep (h code hcode)
  | pass => exact fun code hcode => hkeep (h code hcode)

end MessageBox.Machine
