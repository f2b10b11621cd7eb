import MessageBox.Proofs.Machine.Loop
import MessageBox.Proofs.Machine.Sound

/-!
# Runs on the control stack

A live run of the loop is a `pump` in the code of its thread, with the task it executes on top of it and what
its caller left behind it below (`Runs`). It goes on until it returns, which needs its token, or until a panic
that nothing on top of it catches unwinds it (`step_runs`, `play_runs`).

Only the thread that owns the loop has runs on its stack, and the report of a run stands right behind it
(`Layered`). `Tidy` says so of a whole machine, and `step_tidy` that it stays so.
-/

namespace MessageBox.Machine

/-! ### Panics -/

/-- A panic that is caught on top of other code does not reach that code. -/
lemma unwind_append_some {top below behind : List Instr} {token rethrow}
    (h : (unwind top).2 = some (token, rethrow, behind)) :
    unwind (top ++ below) = ((unwind top).1, some (token, rethrow, behind ++ below)) := by
  induction top using unwind.induct with
  | case1 => cases h
  | case2 token' top ih =>
    simp only [unwind] at h
    simp only [List.cons_append, unwind, ih h]
  | case3 token' rethrow' top =>
    simp only [unwind, Option.some.injEq, Prod.mk.injEq] at h
    obtain ⟨rfl, rfl, rfl⟩ := h
    rfl
  | case4 i top hpump hreturned ih =>
    rw [unwind] at h
    · simp only [List.cons_append]
      rw [unwind, ih h, unwind] <;> assumption
    · exact hpump
    · exact hreturned

/-- A panic that is not caught on top of other code goes on there. -/
lemma unwind_append_none {top : List Instr} (below : List Instr) (h : (unwind top).2 = none) :
    unwind (top ++ below) = ((unwind top).1 + (unwind below).1, (unwind below).2) := by
  induction top using unwind.induct with
  | case1 => simp [unwind]
  | case2 token top ih =>
    simp only [unwind] at h
    simp only [List.cons_append, unwind, ih h]
    rw [Nat.add_right_comm]
  | case3 token rethrow top => cases h
  | case4 i top hpump hreturned ih =>
    rw [unwind] at h
    · simp only [List.cons_append]
      rw [unwind, ih h, unwind] <;> assumption
    · exact hpump
    · exact hreturned

/-- A panic that is caught in the code on top leaves what is below as it is. -/
lemma caught_append_some {top below behind : List Instr} {token rethrow}
    (h : (unwind top).2 = some (token, rethrow, behind)) : caught (top ++ below) = caught top ++ below := by
  simp only [caught, unwind_append_some h, h]
  split <;> rfl

/-- A panic that nothing on top catches goes on in the code below. -/
lemma caught_append_none {top : List Instr} (below : List Instr) (h : (unwind top).2 = none) :
    caught (top ++ below) = caught below := by
  simp only [caught, unwind_append_none below h]

/-- A live run does not catch a panic. -/
lemma caught_pump (token : Token) (below : List Instr) : caught (.pump token :: below) = caught below := rfl

/-! ### One run -/

/-- A run of the loop is live on a thread: `top` is on top of it, and `below` is what its caller left. -/
def Runs (m : Machine) (t : ThreadId) (token : Token) (below top : List Instr) : Prop :=
  m.codes[t]? = some (top ++ .pump token :: below)

/-- A move in which a run starts. -/
structure Begins (t : ThreadId) (token : Token) (below : List Instr) (m : Machine) (mv : Move) : Prop where
  move : mv = .exec t
  opens : ∃ i after rest, Opens i token after ∧ m.codes[t]? = some (i :: rest) ∧ below = after ++ rest
  after : (m.step mv).Runs t token below []

/-- A move in which a run returns: nothing is on top of it, and its token is signalled. -/
structure Returns (t : ThreadId) (token : Token) (below : List Instr) (m : Machine) (mv : Move) : Prop where
  move : mv = .exec t
  runs : m.Runs t token below []
  signalled : token ∈ m.loop.signalled
  after : (m.step mv).codes[t]? = some below

/-- A move in which a panic unwinds a run: nothing on top of the run catches it. -/
structure Unwinds (t : ThreadId) (token : Token) (below : List Instr) (m : Machine) (mv : Move) : Prop where
  move : mv = .exec t
  runs : ∃ rest, m.Runs t token below (.op .panic :: rest) ∧ (unwind rest).2 = none
  after : (m.step mv).codes[t]? = some (caught below)

/-- The start of a run claims the loop, and is a firing. -/
lemma Begins.enters {m : Machine} {t : ThreadId} {token : Token} {below : List Instr} {mv : Move}
    (h : Begins t token below m mv) :
    ∃ loop, m.loop.bind t = (true, loop) ∧
      (m.step mv).loop = { loop with depth := loop.depth + 1 } ∧
      (m.step mv).trace = m.trace ++ [.entered (loop.depth + 1)] := by
  obtain ⟨rfl, ⟨i, after, rest, ho, ht, rfl⟩, hafter⟩ := h
  rw [Runs] at hafter
  rcases step_exec ht with he | ⟨next, sent, m₁, hf, he⟩ | ⟨_, _, _, rfl, -⟩ | ⟨rfl, -⟩
  · rw [he, ht] at hafter
    have hi : i = .pump token := (List.cons.inj (Option.some.inj hafter)).1
    subst hi
    cases ho
  · rw [he, codes_goto_self (hf.code ht)] at hafter
    have hcode : next ++ rest = .pump token :: (after ++ rest) := Option.some.inj hafter
    have hlen := congrArg List.length hcode
    simp only [List.length_append, List.length_cons] at hlen
    -- what is left is longer than nothing, and it has the run on top
    have started : ¬ Plain next := by
      intro hplain
      cases next with
      | nil =>
        simp only [List.length_nil] at hlen
        omega
      | cons j next =>
        have hj : j = .pump token := (List.cons.inj hcode).1
        have := hplain j (List.mem_cons_self ..)
        rw [hj] at this
        cases this
    obtain ⟨events, hl, htrace⟩ := hf.loopStep
    rw [he]
    show ∃ loop, _ ∧ m₁.loop = _ ∧ m₁.trace = _
    generalize m₁.loop = loop at hl
    cases hl with
    | enter _ hb => exact ⟨_, hb, rfl, htrace⟩
    | post _ _ hplain => exact absurd hplain started
    | other _ hplain => exact absurd hplain started
    | refuse => exact absurd .nil started
    | _ => cases ho
  · cases ho
  · cases ho

/-- A run goes on, returns, or is unwound. -/
lemma step_runs {m : Machine} {t : ThreadId} {token : Token} {below top : List Instr}
    (h : m.Runs t token below top) (mv : Move) :
    (∃ top', (m.step mv).Runs t token below top') ∨ Returns t token below m mv ∨
      Unwinds t token below m mv := by
  by_cases hmv : mv = .exec t
  case neg => exact .inl ⟨top, codes_step_other hmv h⟩
  subst hmv
  cases top with
  | nil =>
    -- the run itself is next: it returns, sleeps, or puts a task on top of it
    rcases step_exec h with he | ⟨next, sent, m₁, hf, he⟩ | ⟨_, task, queue, hi, -, -, he⟩ | ⟨hi, -⟩
    · exact .inl ⟨[], by rw [he]; exact h⟩
    · have hcode : (m.step (.exec t)).codes[t]? = some (next ++ below) := he ▸ codes_goto_self (hf.code h) _
      cases hf with
      | leave hs => exact .inr (.inl ⟨rfl, h, hs, hcode⟩)
      | doze _ _ => exact .inl ⟨[], hcode⟩
      | noCall hi _ => cases hi
      | noOffer hi _ => cases hi
    · cases hi
      have htaken : (m.taken t task queue).codes[t]? = some (.pump token :: below) := h
      exact .inl ⟨task, he ▸ codes_goto_self htaken _⟩
    · cases hi
  | cons i top =>
    -- what is on top changes, and the run stays below it, unless a panic gets through
    have hcodes : m.codes[t]? = some (i :: (top ++ .pump token :: below)) := h
    rcases step_exec hcodes with he | ⟨next, sent, m₁, hf, he⟩ | ⟨inner, task, queue, hi, -, -, he⟩ | ⟨rfl, he⟩
    · exact .inl ⟨i :: top, by rw [he]; exact h⟩
    · refine .inl ⟨next ++ top, ?_⟩
      rw [Runs, he, List.append_assoc]
      exact codes_goto_self (hf.code h) _
    · have htaken : (m.taken t task queue).codes[t]? = some (i :: (top ++ .pump token :: below)) := h
      refine .inl ⟨task ++ .pump inner :: top, ?_⟩
      rw [Runs, he, List.append_assoc]
      exact codes_goto_self htaken _
    · have hlt : t < m.codes.length := (List.getElem?_eq_some_iff.1 h).1
      have hcode : (m.step (.exec t)).codes[t]? = some (caught (top ++ .pump token :: below)) := by
        rw [he, codes_panic, List.getElem?_set_self hlt]
      cases hu : (unwind top).2 with
      | some found => exact .inl ⟨caught top, by rw [Runs, hcode, caught_append_some hu]⟩
      | none =>
        rw [caught_append_none _ hu, caught_pump] at hcode
        exact .inr (.inr ⟨rfl, ⟨top, h, hu⟩, hcode⟩)

/-- Over a run of the machine, a run of the loop goes on, or it has returned, or it was unwound. -/
lemma play_runs {m : Machine} {t : ThreadId} {token : Token} {below top : List Instr}
    (h : m.Runs t token below top) (moves : List Move) :
    (∃ top', (m.play moves).Runs t token below top') ∨ Happens m moves (Returns t token below) ∨
      Happens m moves (Unwinds t token below) := by
  induction moves using List.reverseRecOn with
  | nil => exact .inl ⟨top, h⟩
  | append_singleton moves mv ih =>
    simp only [happens_concat, play_concat]
    rcases ih with ⟨top', h'⟩ | hr | hu
    · rcases step_runs h' mv with hgo | hr | hu
      · exact .inl hgo
      · exact .inr (.inl (.inr hr))
      · exact .inr (.inr (.inr hu))
    · exact .inr (.inl (.inl hr))
    · exact .inr (.inr (.inl hu))

/-- Two runs on one thread: the upper one has ended before the lower one is on top. If a panic has unwound it,
the lower one is still live after that, or was unwound too. -/
lemma ended_above {m : Machine} {t : ThreadId} {inner outer : Token} {below mid top : List Instr}
    (h : m.Runs t inner (mid ++ .pump outer :: below) top) {moves : List Move}
    (houter : (m.play moves).Runs t outer below []) :
    Happens m moves (Returns t inner (mid ++ .pump outer :: below)) ∨
      Happens m moves (fun s mv => Unwinds t inner (mid ++ .pump outer :: below) s mv ∧
        ∃ top', (s.step mv).Runs t outer below top') ∨
      Happens m moves (Unwinds t outer below) := by
  rcases play_runs h moves with ⟨top', h'⟩ | hr | ⟨before, mv, hpre, hu⟩
  · -- the inner run would be part of what is below it
    rw [Runs, houter] at h'
    have hlen := congrArg List.length (Option.some.inj h')
    simp only [List.length_append, List.length_cons, List.nil_append] at hlen
    omega
  · exact .inl hr
  · obtain ⟨rest, hinner, -⟩ := hu.runs
    have hlower : (m.play before).Runs t outer below (.op .panic :: rest ++ .pump inner :: mid) := by
      rw [Runs, hinner]
      simp
    rcases step_runs hlower mv with hlive | hreturns | hunwinds
    · exact .inr (.inl ⟨before, mv, hpre, hu, hlive⟩)
    · have hcode := hreturns.runs
      rw [Runs, hlower] at hcode
      cases hcode
    · exact .inr (.inr ⟨before, mv, hpre, hunwinds⟩)

/-! ### Runs of the machine without a panic -/

/-- Whether a move finds a panic to execute. -/
def findsPanic (m : Machine) : Move → Bool
  | .exec t => m.codes[t]?.any fun code => code.head?.any (· matches .op .panic)
  | _ => false

/-- Whether no move of a run finds a panic to execute. -/
def panicFree (m : Machine) : List Move → Bool
  | [] => true
  | mv :: moves => !m.findsPanic mv && panicFree (m.step mv) moves

/-- A run is only unwound by a panic. -/
lemma Unwinds.findsPanic {m : Machine} {t : ThreadId} {token : Token} {below : List Instr} {mv : Move}
    (h : Unwinds t token below m mv) : m.findsPanic mv = true := by
  obtain ⟨rfl, ⟨rest, hruns, -⟩, -⟩ := h
  have hcode : m.codes[t]? = some (.op .panic :: (rest ++ .pump token :: below)) := hruns
  simp [Machine.findsPanic, hcode]

/-- Nothing that takes a panic happens in a run that finds none. -/
lemma not_happens_of_panicFree {m : Machine} {moves : List Move} {P : Machine → Move → Prop}
    (hP : ∀ s mv, P s mv → s.findsPanic mv = true) (h : m.panicFree moves = true) : ¬ Happens m moves P := by
  induction moves generalizing m with
  | nil =>
    rintro ⟨before, mv, hpre, -⟩
    simp at hpre
  | cons mv moves ih =>
    rw [panicFree, Bool.and_eq_true, Bool.not_eq_true'] at h
    rw [← List.singleton_append, happens_append]
    rintro (hfirst | hlater)
    · rw [← List.nil_append [mv], happens_concat] at hfirst
      obtain ⟨_, _, hpre, -⟩ | hmove := hfirst
      · simp at hpre
      · have hpanic : m.findsPanic mv = true := hP _ _ hmove
        rw [h.1] at hpanic
        cases hpanic
    · exact ih h.2 hlater

/-! ### Layers -/

/-- Code in which every run has behind it what opened it left there. -/
inductive Layered : List Instr → Prop where
  | nil :
    Layered []
  | plain {i rest} :
    i.ofRun = false →
    Layered rest →
    Layered (i :: rest)
  | run {i token after rest} :
    Opens i token after →
    Layered rest →
    Layered (.pump token :: (after ++ rest))

/-- The code of a thread: layers, on top of which a run with a signalled token may be about to report. -/
inductive Stacked (signalled : List Token) : List Instr → Prop where
  | layers {code} :
    Layered code →
    Stacked signalled code
  | report {token rethrow rest} :
    token ∈ signalled →
    Layered rest →
    Stacked signalled (.returned token rethrow :: rest)

/-- Plain code may be put on top of layers. -/
lemma Layered.append {top below : List Instr} (ht : Plain top) (hb : Layered below) :
    Layered (top ++ below) := by
  induction top with
  | nil => exact hb
  | cons i top ih =>
    exact .plain (ht i (List.mem_cons_self ..)) (ih fun j hj => ht j (List.mem_cons_of_mem _ hj))

/-- Plain code is a layer by itself. -/
lemma Layered.of_plain {code : List Instr} (h : Plain code) : Layered code :=
  List.append_nil code ▸ Layered.append h .nil

/-- Layers stay layers when an instruction on top that is not of a run has been executed. -/
lemma Layered.tail {i : Instr} {rest : List Instr} (h : Layered (i :: rest)) (hi : i.ofRun = false) :
    Layered rest := by
  cases h with
  | plain _ h => exact h
  | run => cases hi

/-- A panic leaves layers. -/
lemma Layered.behind {code behind : List Instr} {token rethrow} (h : Layered code)
    (hu : (unwind code).2 = some (token, rethrow, behind)) : Layered behind := by
  induction h with
  | nil => cases hu
  | @plain i rest hi hrest ih =>
    apply ih
    cases i <;> first | exact hu | cases hi
  | @run i _ _ rest ho hrest ih =>
    cases ho with
    | run =>
      cases hu
      exact hrest
    | nest => exact ih hu

/-- What a panic leaves of layers is in layers. -/
lemma Layered.caught {code : List Instr} (h : Layered code) : Layered (caught code) := by
  unfold Machine.caught
  split
  · next hu =>
    split
    · exact .plain rfl (h.behind hu)
    · exact h.behind hu
  · exact .nil

/-- The code of a thread stays stacked as further tokens are signalled. -/
lemma Stacked.mono {signalled signalled' : List Token} {code : List Instr}
    (hs : ∀ {token}, token ∈ signalled → token ∈ signalled') (h : Stacked signalled code) :
    Stacked signalled' code := by
  cases h with
  | layers h => exact .layers h
  | report hmem h => exact .report (hs hmem) h

/-- With no instruction of a run on top, stacked code is in layers. -/
lemma Stacked.layered {signalled : List Token} {i : Instr} {rest : List Instr}
    (h : Stacked signalled (i :: rest)) (hi : i.ofRun = false) : Layered (i :: rest) := by
  cases h with
  | layers h => exact h
  | report => cases hi

/-! ### Tidy machines -/

/-- Runs are on the stack of the owner only, in layers, and tasks have none. -/
structure Tidy (m : Machine) : Prop where
  queue : ∀ task ∈ m.loop.queue, Plain task
  foreign : ∀ {t : ThreadId} {code}, m.codes[t]? = some code → m.loop.owner ≠ some t → Plain code
  stacked : ∀ {t : ThreadId} {code}, m.codes[t]? = some code → Stacked m.loop.signalled code

/-- Who has an instruction of a run in its code owns the loop. -/
lemma Tidy.owner {m : Machine} (hm : m.Tidy) {t : ThreadId} {code i} (ht : m.codes[t]? = some code)
    (hi : i ∈ code) (hr : i.ofRun = true) : m.loop.owner = some t := by
  by_contra hn
  have hplain := hm.foreign ht hn i hi
  rw [hr] at hplain
  cases hplain

/-- A thread on which a run is live owns the loop. -/
lemma Runs.owner {m : Machine} (hm : m.Tidy) {t : ThreadId} {token below top} (h : m.Runs t token below top) :
    m.loop.owner = some t :=
  hm.owner h (List.mem_append_right _ (List.mem_cons_self ..)) rfl

/-- What fires leaves plain code, unless it opens a run or sleeps in one. -/
lemma LoopStep.next {m : Machine} {t i next loop events} (h : LoopStep m t i next loop events) :
    Plain next ∨ loop.owner = some t ∨ i.ofRun = true := by
  cases h with
  | enter _ hb =>
    have howner := bind_true hb
    exact .inr (.inl howner)
  | doze => exact .inr (.inr rfl)
  | post _ _ hn => exact .inl hn
  | other _ hn => exact .inl hn
  | signal | close => exact .inl (.cons rfl .nil)
  | _ => exact .inl .nil

/-- What fires leaves a stack. -/
lemma LoopStep.stacked {m : Machine} {t i next loop events rest} (h : LoopStep m t i next loop events)
    (hs : Stacked m.loop.signalled (i :: rest)) : Stacked m.loop.signalled (next ++ rest) := by
  cases h with
  | enter ho _ => exact .layers (.run ho ((hs.layered ho.plain).tail ho.plain))
  | leave hmem =>
    cases hs with
    | layers hl =>
      cases hl with
      | plain hi _ => cases hi
      | run ho hrest =>
        -- the report of the run is on top now, and the token is signalled
        cases ho with
        | run => exact .report hmem hrest
        | nest => exact .layers (.plain rfl (.plain rfl hrest))
  | doze => exact hs
  | returned =>
    cases hs with
    | layers hl => cases hl with | plain hi _ => cases hi
    | report _ hl => exact .layers hl
  | @post _ _ _ hp _ hn =>
    have hi : i.ofRun = false := by cases hp <;> rfl
    exact .layers (.append hn ((hs.layered hi).tail hi))
  | other hi hn => exact .layers (.append hn ((hs.layered hi).tail hi))
  | signal | close => exact .layers (.plain rfl ((hs.layered rfl).tail rfl))
  | refuse | bind => exact .layers ((hs.layered rfl).tail rfl)

/-- An instruction keeps the runs on the stack of the owner, in layers. -/
lemma Fires.tidy {m m₁ : Machine} {t i rest next sent} (hf : Fires m t i next sent m₁)
    (ht : m.codes[t]? = some (i :: rest)) (hm : m.Tidy) : (m₁.goto t (next ++ rest)).Tidy := by
  obtain ⟨events, hl, -⟩ := hf.loopStep
  have hg : m.Grows (m₁.goto t (next ++ rest)) := hf.grows.trans (grows_goto ..)
  constructor
  case queue =>
    intro task htask
    rcases hf.queue_after htask with hold | ⟨-, hp⟩
    · exact hm.queue task hold
    · exact hp.plain
  case foreign =>
    intro u code hu hforeign
    have hforeign' : m.loop.owner ≠ some u := fun ho => hforeign (hg.owner ho)
    rcases hf.codes_after ht hu with ⟨rfl, rfl⟩ | hold | ⟨-, hsp⟩
    · have hplain := hm.foreign ht hforeign'
      rcases hl.next with hnext | howner | hi
      · intro j hj
        rcases List.mem_append.1 hj with hj | hj
        · exact hnext j hj
        · exact hplain j (List.mem_cons_of_mem _ hj)
      · exact absurd howner hforeign
      · rw [hplain i (List.mem_cons_self ..)] at hi
        cases hi
    · exact hm.foreign hold hforeign'
    · exact hsp.plain
  case stacked =>
    intro u code hu
    rcases hf.codes_after ht hu with ⟨rfl, rfl⟩ | hold | ⟨-, hsp⟩
    · exact (hl.stacked (hm.stacked ht)).mono hg.signalled
    · exact (hm.stacked hold).mono hg.signalled
    · exact .layers (.of_plain hsp.plain)

/-- Giving one thread other code keeps a machine tidy, if the code is layered and plain unless the thread is
the owner. -/
lemma Tidy.set {m m' : Machine} (hm : m.Tidy) {t : ThreadId} {code new : List Instr}
    (ht : m.codes[t]? = some code) (hcodes : m'.codes = m.codes.set t new)
    (howner : m'.loop.owner = m.loop.owner) (hsignalled : m'.loop.signalled = m.loop.signalled)
    (hqueue : ∀ task ∈ m'.loop.queue, task ∈ m.loop.queue) (hnew : Layered new)
    (hplain : m.loop.owner ≠ some t → Plain new) : m'.Tidy := by
  have hlt : t < m.codes.length := (List.getElem?_eq_some_iff.1 ht).1
  have after : ∀ {u : ThreadId} {code}, m'.codes[u]? = some code →
      u = t ∧ code = new ∨ m.codes[u]? = some code := by
    intro u code hu
    rw [hcodes] at hu
    by_cases htu : t = u
    · subst htu
      rw [List.getElem?_set_self hlt] at hu
      cases hu
      exact .inl ⟨rfl, rfl⟩
    · rw [List.getElem?_set_ne htu] at hu
      exact .inr hu
  constructor
  case queue => exact fun task htask => hm.queue task (hqueue task htask)
  case foreign =>
    intro u code hu hforeign
    rw [howner] at hforeign
    rcases after hu with ⟨rfl, rfl⟩ | hold
    · exact hplain hforeign
    · exact hm.foreign hold hforeign
  case stacked =>
    intro u code hu
    rw [hsignalled]
    rcases after hu with ⟨rfl, rfl⟩ | hold
    · exact .layers hnew
    · exact hm.stacked hold

/-- Every move keeps the runs on the stack of the owner, in layers. -/
lemma step_tidy {m : Machine} (mv : Move) (hm : m.Tidy) : (m.step mv).Tidy := by
  have hs := steps m mv
  generalize m.step mv = m' at hs
  cases hs with
  | stuck _ => exact hm
  | fires hth hcode _ hf => exact hf.tidy (hcode ▸ codes_getElem? hth) hm
  | @takes t th token rest task queue hth hcode _ _ hq =>
    have ht : m.codes[t]? = some (.pump token :: rest) := hcode ▸ codes_getElem? hth
    have hlayers : Layered (.pump token :: rest) := by
      cases hm.stacked ht with
      | layers h => exact h
    have htask : Plain task := hm.queue task (hq ▸ List.mem_cons_self ..)
    refine hm.set ht (codes_goto ..) rfl rfl (fun task htask => hq ▸ List.mem_cons_of_mem _ htask)
      (.append htask hlayers) fun hforeign => ?_
    exact absurd (hm.owner ht (List.mem_cons_self ..) rfl) hforeign
  | @panics t th rest hth hcode _ =>
    have ht : m.codes[t]? = some (.op .panic :: rest) := hcode ▸ codes_getElem? hth
    have hlayers : Layered rest := ((hm.stacked ht).layered rfl).tail rfl
    have hloop := loop_panic m t rest
    refine hm.set ht (codes_panic ..) (by rw [hloop]) (by rw [hloop])
      (fun task htask => by rwa [hloop] at htask) hlayers.caught fun hforeign j hj => ?_
    exact hm.foreign ht hforeign j ((caught_sublist rest).subset hj)
  | @rouse t =>
    have hcodes := codes_rouse m t
    exact ⟨hm.queue, fun ht => hm.foreign (hcodes ▸ ht), fun ht => hm.stacked (hcodes ▸ ht)⟩
  | pass => exact ⟨hm.queue, hm.foreign, hm.stacked⟩

/-- On a fresh machine there are no runs yet. -/
lemma Fresh.tidy {m : Machine} (hm : m.Fresh) : m.Tidy where
  queue task htask := by
    obtain ⟨body, rfl⟩ := hm.queue task htask
    exact plain_load body
  foreign ht _ := by
    obtain ⟨body, rfl⟩ := hm.codes _ (List.mem_of_getElem? ht)
    exact plain_load body
  stacked ht := by
    obtain ⟨body, rfl⟩ := hm.codes _ (List.mem_of_getElem? ht)
    exact .layers (.of_plain (plain_load body))

/-- A run of the machine keeps the runs of its loop on the stack of the owner, in layers. -/
lemma play_tidy {m : Machine} (hm : m.Tidy) (moves : List Move) : (m.play moves).Tidy :=
  play_induction hm (fun _ mv h => step_tidy mv h) moves

end MessageBox.Machine
