import MessageBox.Proofs.Machine.Activations

/-!
# Depth

The depth of the loop is the number of live runs on the stack of the thread that owns it (`step_counted`), so
whatever ends a run brings the depth back to what it was before the run started. The loop tells of each start
and each return with the level of the run, and of a panic only where it is caught (`Levels`), so that these
events are well bracketed (`Bracketed`, `play_bracketed`). The whole is `depth_counts_runs`.
-/

namespace MessageBox.Machine

/-- Whether an instruction is a live run. -/
def Instr.isPump : Instr → Bool
  | .pump _ => true
  | _ => false

/-- How many live runs there are in a piece of code. -/
def pumps (code : List Instr) : Nat := code.countP Instr.isPump

/-- How many live runs there are on the stack of the thread that owns the loop. -/
def liveRuns (m : Machine) : Nat := pumps ((m.loop.owner.bind (m.codes[·]?)).getD [])

/-- Whether an event tells of the start of a run, of its return, or of a panic that was caught. -/
def Event.bracket : Event → Bool
  | .entered _ | .left _ | .ran _ .panicked _ => true
  | _ => false

/-- The starts and ends of runs so far, oldest first. -/
def brackets (m : Machine) : List Event := m.trace.filter Event.bracket

/-- Starts and ends of runs that are well bracketed, and the number of runs that are open after them. A panic
closes all runs above the level where it is caught, at least one, and they leave no other trace. -/
inductive Bracketed : List Event → Nat → Prop where
  | start :
    Bracketed [] 0
  | enter {events n} :
    Bracketed events n →
    Bracketed (events ++ [.entered (n + 1)]) (n + 1)
  | leave {events n} :
    Bracketed events (n + 1) →
    Bracketed (events ++ [.left (n + 1)]) n
  | unwind {events n d token} :
    Bracketed events n →
    d < n →
    Bracketed (events ++ [.ran token .panicked d]) d

/-! ### Runs in code -/

/-- Empty code has no live runs. -/
@[simp]
lemma pumps_nil : pumps [] = 0 := rfl

/-- Live runs in two pieces of code are counted apart. -/
@[simp]
lemma pumps_append (a b : List Instr) : pumps (a ++ b) = pumps a + pumps b := List.countP_append

/-- A live run on top is one more. -/
@[simp]
lemma pumps_pump (token : Token) (code : List Instr) : pumps (.pump token :: code) = pumps code + 1 :=
  List.countP_cons_of_pos rfl

/-- Another instruction on top is no live run. -/
lemma pumps_cons {i : Instr} (h : i.isPump = false) (code : List Instr) : pumps (i :: code) = pumps code :=
  List.countP_cons_of_neg (by simp [h])

/-- Plain code has no live runs. -/
lemma Plain.pumps {code : List Instr} (h : Plain code) : pumps code = 0 := by
  refine List.countP_eq_zero.2 fun i hi hp => ?_
  cases i with
  | pump token => cases h _ hi
  | _ => cases hp

/-- What an instruction that opens a run leaves behind it has no live runs. -/
lemma Opens.pumps {i : Instr} {token : Token} {after : List Instr} (h : Opens i token after) :
    pumps after = 0 := by
  cases h <;> rfl

/-- A panic takes as many runs off the stack as it unwinds. -/
lemma unwind_pumps (code : List Instr) : (unwind code).1 + pumps (caught code) = pumps code := by
  induction code using unwind.induct with
  | case1 => rfl
  | case2 token rest ih =>
    rw [pumps_pump, ← ih, caught_pump]
    simp only [unwind]
    omega
  | case3 token rethrow rest =>
    rw [pumps_cons rfl]
    simp only [unwind, caught, Nat.zero_add]
    cases rethrow with
    | false => rfl
    | true => exact pumps_cons rfl rest
  | case4 i rest hpump hreturned ih =>
    have hi : i.isPump = false := by
      cases i with
      | pump token => exact absurd rfl (hpump token)
      | _ => rfl
    have hunwind : unwind (i :: rest) = unwind rest := unwind.eq_4 i rest hpump hreturned
    rw [pumps_cons hi, ← ih, caught, hunwind, caught]

/-- A panic that is caught unwinds at least the run that catches it. -/
lemma Layered.unwind_pos {code : List Instr} {found} (h : Layered code) (hu : (unwind code).2 = some found) :
    0 < (unwind code).1 := by
  induction h with
  | nil => cases hu
  | @plain i rest hi hrest ih =>
    cases i <;> first | exact ih hu | cases hi
  | @run i token after rest ho hrest ih => exact Nat.succ_pos _

/-! ### Counting runs -/

/-- Pieces of plain code are plain together. -/
lemma plain_flatten {codes : List (List Instr)} (h : ∀ code ∈ codes, Plain code) : Plain codes.flatten := by
  intro i hi
  obtain ⟨code, hcode, hi⟩ := List.mem_flatten.1 hi
  exact h code hcode i hi

/-- All live runs are those of the owner. -/
lemma Tidy.liveRuns {m : Machine} (hm : m.Tidy) : m.liveRuns = pumps m.agenda := by
  rw [agenda, pumps_append, (plain_flatten hm.queue).pumps, Nat.add_zero, Machine.liveRuns]
  cases hcode : m.loop.owner.bind (m.codes[·]?) with
  | none =>
    -- nobody owns the loop, or its owner is no thread
    have hplain : Plain m.codes.flatten := by
      refine plain_flatten fun code hmem => ?_
      obtain ⟨u, hu⟩ := List.mem_iff_getElem?.1 hmem
      refine hm.foreign hu fun ho => ?_
      simp [ho, hu] at hcode
    rw [hplain.pumps]
    rfl
  | some code =>
    obtain ⟨t, ho, ht⟩ := Option.bind_eq_some_iff.1 hcode
    have hlt : t < m.codes.length := (List.getElem?_eq_some_iff.1 ht).1
    have hothers : Plain (m.codes.set t []).flatten := by
      refine plain_flatten fun code hmem => ?_
      obtain ⟨u, hu⟩ := List.mem_iff_getElem?.1 hmem
      by_cases htu : t = u
      · subst htu
        rw [List.getElem?_set_self hlt] at hu
        cases hu
        exact .nil
      · rw [List.getElem?_set_ne htu] at hu
        exact hm.foreign hu fun ho' => htu (Option.some.inj (ho.symm.trans ho'))
    have hperm := (flatten_set_perm ht []).countP_eq Instr.isPump
    rw [List.countP_append, List.append_nil] at hperm
    have hzero := hothers.pumps
    rw [pumps] at hzero
    rw [hzero, Nat.zero_add] at hperm
    exact hperm

/-- The depth of the loop is the number of live runs. -/
def Counted (m : Machine) : Prop := m.loop.depth = pumps m.agenda

/-- What fires changes the depth as it changes the number of runs. -/
lemma LoopStep.depth {m : Machine} {t i next loop events} (h : LoopStep m t i next loop events)
    (hpos : i.isPump = true → 0 < m.loop.depth) : loop.depth + pumps [i] = m.loop.depth + pumps next := by
  have plain : ∀ {j : Instr}, j.ofRun = false → pumps [j] = 0 := fun hj => (Plain.cons hj .nil).pumps
  cases h with
  | enter ho hb => rw [plain ho.plain, pumps_pump, ho.pumps, bind_eq hb]
  | leave =>
    have := hpos rfl
    simp only [pumps_pump, pumps_nil]
    omega
  | bind => rw [bind_eq (Prod.eta (m.loop.bind t)).symm]; rfl
  | post hp _ hn =>
    have hi : i.ofRun = false := by cases hp <;> rfl
    rw [plain hi, hn.pumps]
  | other hi hn => rw [plain hi, hn.pumps]
  | _ => rfl

/-- What an instruction hands to a task or a thread is plain. -/
lemma Fires.sent_plain {m m₁ : Machine} {t i next sent} (h : Fires m t i next sent m₁) : Plain sent := by
  obtain ⟨-, -, rfl⟩ | ⟨-, -, hs⟩ | ⟨-, -, hp⟩ := h.placement
  · exact .nil
  · exact hs.plain
  · exact hp.plain

/-- A run on top of a stack is counted. -/
lemma Counted.pos {m : Machine} (hc : m.Counted) {t : ThreadId} {token rest}
    (ht : m.codes[t]? = some (.pump token :: rest)) : 0 < m.loop.depth := by
  rw [hc]
  exact List.countP_pos_iff.2 ⟨.pump token, mem_agenda_of_code ht (List.mem_cons_self ..), rfl⟩

/-- A panic unwinds no more runs than there are. -/
lemma Counted.unwind_le {m : Machine} (hc : m.Counted) {t : ThreadId} {rest}
    (ht : m.codes[t]? = some (.op .panic :: rest)) :
    pumps (m.panic t rest).agenda + (unwind rest).1 = m.loop.depth := by
  have hcut := (flatten_set_perm ht (caught rest)).countP_eq Instr.isPump
  simp only [List.countP_append] at hcut
  have hrest : List.countP Instr.isPump (.op .panic :: rest) = pumps rest := pumps_cons rfl rest
  have hunwind := unwind_pumps rest
  have hqueue : (m.panic t rest).loop.queue = m.loop.queue := by rw [loop_panic]
  rw [hc, agenda, agenda, codes_panic, hqueue, pumps_append, pumps_append]
  simp only [pumps] at hunwind hrest ⊢
  omega

/-- Every move keeps the depth at the number of live runs. -/
lemma step_counted {m : Machine} (mv : Move) (hc : m.Counted) : (m.step mv).Counted := by
  have hs := steps m mv
  generalize m.step mv = m' at hs
  cases hs with
  | stuck _ => exact hc
  | @fires t th i rest next sent m₁ hth hcode _ hf =>
    have ht : m.codes[t]? = some (i :: rest) := hcode ▸ codes_getElem? hth
    obtain ⟨events, hl, -⟩ := hf.loopStep
    -- a run that returns is one of those counted, so the subtraction does not stop at zero
    have hdepth := hl.depth fun hi => by
      cases i with
      | pump token => exact hc.pos ht
      | _ => cases hi
    have hcount := hf.countP ht Instr.isPump
    have hsent := hf.sent_plain.pumps
    show m₁.loop.depth = _
    rw [Counted] at hc
    simp only [pumps] at hdepth hsent hc ⊢
    omega
  | takes hth hcode _ _ hq =>
    have hperm := (agenda_takes (hcode ▸ codes_getElem? hth) hq).countP_eq Instr.isPump
    exact hc.trans hperm.symm
  | @panics t th rest hth hcode _ =>
    have hpanic := hc.unwind_le (hcode ▸ codes_getElem? hth)
    rw [Counted, loop_panic]
    show m.loop.depth - (unwind rest).1 = _
    omega
  | @rouse t =>
    have hagenda : (m.rouse t).agenda = m.agenda := by
      simp only [agenda, codes_rouse]
      rfl
    rw [Counted, hagenda]
    exact hc
  | pass => exact hc

/-- On a fresh machine of depth zero there are no live runs. -/
lemma Fresh.counted {m : Machine} (hm : m.Fresh) (hd : m.loop.depth = 0) : m.Counted := by
  rw [Counted, hd]
  symm
  refine List.countP_eq_zero.2 fun i hi hp => ?_
  obtain ⟨o, rfl⟩ := hm.agenda hi
  cases hp

/-- A run keeps the depth at the number of live runs. -/
lemma play_counted {m : Machine} (hc : m.Counted) (moves : List Move) : (m.play moves).Counted :=
  play_induction hc (fun _ mv h => step_counted mv h) moves

/-- The depth is read off the stack of the owner. -/
lemma Counted.depth {m : Machine} (hc : m.Counted) (hm : m.Tidy) {t : ThreadId} {code}
    (ho : m.loop.owner = some t) (ht : m.codes[t]? = some code) : m.loop.depth = pumps code := by
  have hlive := hm.liveRuns
  rw [Machine.liveRuns, ho, Option.bind_some, ht] at hlive
  rw [hc, ← hlive]
  rfl

/-! ### Levels -/

/-- The depth of the loop counts the runs on top of a live one, the run itself and those below. -/
lemma Runs.depth {m : Machine} (hc : m.Counted) (hm : m.Tidy) {t : ThreadId} {token below top}
    (h : m.Runs t token below top) : m.loop.depth = pumps top + (pumps below + 1) := by
  rw [hc.depth hm (h.owner hm) h, pumps_append, pumps_pump]

/-- The level at which a run starts, and what is told of it. -/
lemma Begins.level {m : Machine} (hc : m.Counted) (hm : m.Tidy) {t : ThreadId} {token below mv}
    (h : Begins t token below m mv) :
    m.loop.depth = pumps below ∧ (m.step mv).loop.depth = pumps below + 1 ∧
      (m.step mv).trace = m.trace ++ [Event.entered (pumps below + 1)] := by
  obtain ⟨loop, hb, hloop, htrace⟩ := h.enters
  have hafter := h.after.depth (step_counted mv hc) (step_tidy mv hm)
  rw [pumps_nil, Nat.zero_add] at hafter
  have hdepth : loop.depth = m.loop.depth := by rw [bind_eq hb]
  have hstep : (m.step mv).loop.depth = loop.depth + 1 := by rw [hloop]
  have hlevel : loop.depth = pumps below := by omega
  exact ⟨hdepth ▸ hlevel, hafter, hlevel ▸ htrace⟩

/-- The level at which a run returns, and what is told of it. -/
lemma Returns.level {m : Machine} (hc : m.Counted) (hm : m.Tidy) {t : ThreadId} {token below mv}
    (h : Returns t token below m mv) :
    m.loop.depth = pumps below + 1 ∧ (m.step mv).loop.depth = pumps below ∧
      (m.step mv).trace = m.trace ++ [Event.left (pumps below + 1)] := by
  have hdepth := h.runs.depth hc hm
  rw [pumps_nil, Nat.zero_add] at hdepth
  obtain ⟨rfl, hruns, hs, hafter⟩ := h
  have howner := (step_grows m (.exec t)).owner (hruns.owner hm)
  refine ⟨hdepth, (step_counted _ hc).depth (step_tidy _ hm) howner hafter, ?_⟩
  have hcode : m.codes[t]? = some (.pump token :: below) := hruns
  -- a move that leaves the run on the stack is none in which it returns
  have stays : m.codes[t]? ≠ some below := by
    rw [hcode]
    intro he
    have hlen := congrArg List.length (Option.some.inj he)
    simp at hlen
  rcases step_exec hcode with he | ⟨next, sent, m₁, hf, he⟩ | ⟨_, _, _, hi, hn, -⟩ | ⟨hi, -⟩
  · exact absurd (he ▸ hafter) stays
  · obtain ⟨events, hl, htrace⟩ := hf.loopStep
    rw [he]
    show m₁.trace = _
    rw [htrace, ← hdepth]
    generalize m₁.loop = loop at hl
    cases hl with
    | leave => rfl
    | doze hn => exact absurd hs hn
    | enter ho _ => cases ho
    | post hp _ _ => cases hp
    | other hi _ => cases hi
  · cases hi
    exact absurd hs hn
  · cases hi

/-- The depth after a panic has unwound a run: what it was before that run, less the runs further down that the
same panic unwinds. -/
lemma Unwinds.level {m : Machine} (hc : m.Counted) (hm : m.Tidy) {t : ThreadId} {token below mv}
    (h : Unwinds t token below m mv) : (m.step mv).loop.depth + (unwind below).1 = pumps below := by
  obtain ⟨rfl, ⟨rest, hruns, -⟩, hafter⟩ := h
  have howner := (step_grows m (.exec t)).owner (hruns.owner hm)
  rw [(step_counted _ hc).depth (step_tidy _ hm) howner hafter, ← unwind_pumps below, Nat.add_comm]

/-- What a move does to the depth, and what is told of it. A start and a return are told with the level of their
run; a panic of the owner is told where it is caught, and it ends the thread if it is not. -/
inductive Levels (m : Machine) (mv : Move) (m' : Machine) : Prop where
  | same :
    m'.brackets = m.brackets →
    m'.loop.depth = m.loop.depth →
    Levels m mv m'
  | enter {t token below} :
    Begins t token below m mv →
    m.loop.depth = pumps below →
    m'.loop.depth = pumps below + 1 →
    m'.brackets = m.brackets ++ [.entered (pumps below + 1)] →
    Levels m mv m'
  | leave {t token below} :
    Returns t token below m mv →
    m.loop.depth = pumps below + 1 →
    m'.loop.depth = pumps below →
    m'.brackets = m.brackets ++ [.left (pumps below + 1)] →
    Levels m mv m'
  | caught {t : ThreadId} {rest token} :
    m.loop.owner = some t →
    m.codes[t]? = some (.op .panic :: rest) →
    m'.loop.depth < m.loop.depth →
    m'.brackets = m.brackets ++ [.ran token .panicked m'.loop.depth] →
    Levels m mv m'
  | ended {t : ThreadId} {rest} :
    m.loop.owner = some t →
    m.codes[t]? = some (.op .panic :: rest) →
    m'.codes[t]? = some [] →
    m'.brackets = m.brackets →
    Levels m mv m'

/-- Events that are added to the trace add their starts and ends of runs. -/
lemma brackets_of_trace {m m' : Machine} {events : List Event} (h : m'.trace = m.trace ++ events) :
    m'.brackets = m.brackets ++ events.filter Event.bracket := by
  rw [brackets, h, List.filter_append, brackets]

/-- What fires and neither starts a run nor ends one leaves the depth alone. -/
lemma LoopStep.level {m : Machine} {t i next loop events} (h : LoopStep m t i next loop events) :
    (∃ token after, Opens i token after ∧ next = .pump token :: after) ∨
    (∃ token, i = .pump token ∧ next = [] ∧ token ∈ m.loop.signalled) ∨
    (loop.depth = m.loop.depth ∧ events.filter Event.bracket = []) := by
  cases h with
  | enter ho _ => exact .inl ⟨_, _, ho, rfl⟩
  | leave hs => exact .inr (.inl ⟨_, rfl, rfl, hs⟩)
  | bind => exact .inr (.inr ⟨by rw [bind_eq (Prod.eta (m.loop.bind t)).symm], rfl⟩)
  | _ => exact .inr (.inr ⟨rfl, rfl⟩)

/-- A panic of plain code unwinds nothing, and nothing catches it. -/
lemma Plain.unwind {code : List Instr} (h : Plain code) : unwind code = (0, none) := by
  have hzero := unwind_pumps code
  rw [h.pumps] at hzero
  refine Prod.ext (by omega) ?_
  cases hu : (Machine.unwind code).2 with
  | none => rfl
  | some found =>
    cases h _ ((unwind_suffix hu).subset (List.mem_cons_self ..))

/-- Every move does to the depth what `Levels` says. -/
lemma step_levels {m : Machine} (mv : Move) (hc : m.Counted) (hm : m.Tidy) : Levels m mv (m.step mv) := by
  have hs := steps m mv
  generalize he : m.step mv = m' at hs
  cases hs with
  | stuck _ => exact .same rfl rfl
  | @fires t th i rest next sent m₁ hth hcode _ hf =>
    have ht : m.codes[t]? = some (i :: rest) := hcode ▸ codes_getElem? hth
    have hafter : (m.step (.exec t)).codes[t]? = some (next ++ rest) := he ▸ codes_goto_self (hf.code ht) _
    obtain ⟨events, hl, htrace⟩ := hf.loopStep
    rw [← he]
    rcases hl.level with ⟨token, after, ho, rfl⟩ | ⟨token, rfl, rfl, hs⟩ | ⟨hdepth, hnone⟩
    · have hbegins : Begins t token (after ++ rest) m (.exec t) := ⟨rfl, ⟨i, after, rest, ho, ht, rfl⟩, hafter⟩
      obtain ⟨hbefore, hlevel, htold⟩ := hbegins.level hc hm
      exact .enter hbegins hbefore hlevel (brackets_of_trace htold)
    · have hreturns : Returns t token rest m (.exec t) := ⟨rfl, ht, hs, hafter⟩
      obtain ⟨hbefore, hlevel, htold⟩ := hreturns.level hc hm
      exact .leave hreturns hbefore hlevel (brackets_of_trace htold)
    · rw [he]
      refine .same ?_ hdepth
      have hbrackets : m₁.brackets = m.brackets ++ events.filter Event.bracket := brackets_of_trace htrace
      rw [hnone, List.append_nil] at hbrackets
      exact hbrackets
  | takes => exact .same ((brackets_of_trace (trace_taken ..)).trans (List.append_nil _)) rfl
  | @panics t th rest hth hcode _ =>
    have ht : m.codes[t]? = some (.op .panic :: rest) := hcode ▸ codes_getElem? hth
    have hdepth : (m.panic t rest).loop.depth = m.loop.depth - (unwind rest).1 := by rw [loop_panic]
    have htold := brackets_of_trace (trace_panic m t rest)
    rw [← hdepth] at htold
    by_cases ho : m.loop.owner = some t
    · cases hu : (unwind rest).2 with
      | none =>
        refine .ended ho ht ?_ ?_
        · have hlt : t < m.codes.length := (List.getElem?_eq_some_iff.1 ht).1
          rw [codes_panic, List.getElem?_set_self hlt, Machine.caught, hu]
        · rw [htold, caughtEvents, hu]
          exact List.append_nil _
      | some found =>
        have hlayers : Layered rest := ((hm.stacked ht).layered rfl).tail rfl
        have hpos := hlayers.unwind_pos hu
        have hle := hc.unwind_le ht
        have hcaught : (m.panic t rest).brackets =
            m.brackets ++ [.ran found.1 .panicked (m.panic t rest).loop.depth] := by
          rw [htold, caughtEvents, hu]
          rfl
        exact .caught ho ht (by omega) hcaught
    · have hnone := Plain.unwind fun j hj => hm.foreign ht ho j (List.mem_cons_of_mem _ hj)
      refine .same ?_ (by rw [hdepth, hnone, Nat.sub_zero])
      rw [htold, caughtEvents, hnone]
      exact List.append_nil _
  | rouse => exact .same rfl rfl
  | pass => exact .same rfl rfl

/-! ### Well bracketed -/

/-- A thread that has ended stays so. -/
lemma step_finished {m : Machine} {t : ThreadId} (mv : Move) (ht : m.codes[t]? = some []) :
    (m.step mv).codes[t]? = some [] := by
  by_cases hmv : mv = .exec t
  · subst hmv
    have hs := steps m (.exec t)
    generalize m.step (.exec t) = m' at hs
    have nothing : ∀ {th i rest}, m.threads[t]? = some th → th.code = i :: rest → False := by
      intro th i rest hth hcode
      rw [codes_getElem? hth, hcode] at ht
      cases ht
    cases hs with
    | stuck _ => exact ht
    | fires hth hcode _ _ => exact (nothing hth hcode).elim
    | takes hth hcode _ _ _ => exact (nothing hth hcode).elim
    | panics hth hcode _ => exact (nothing hth hcode).elim
  · exact codes_step_other hmv ht

/-- What is told of the runs is well bracketed, and the depth is the number of open runs, unless the thread of
the owner has ended. -/
lemma play_bracketed {m : Machine} (hm : m.Fresh) (hd : m.loop.depth = 0) (moves : List Move) :
    ∃ n, Bracketed (m.play moves).brackets n ∧ ((m.play moves).loop.depth = n ∨
      ∃ t, (m.play moves).loop.owner = some t ∧ (m.play moves).codes[t]? = some []) := by
  induction moves using List.reverseRecOn with
  | nil =>
    refine ⟨0, ?_, .inl hd⟩
    have hnothing : (m.play []).brackets = [] := by simp [play_nil, brackets, trace, hm.history]
    rw [hnothing]
    exact .start
  | append_singleton moves mv ih =>
    have hc := play_counted (hm.counted hd) moves
    have htidy := play_tidy hm.tidy moves
    rw [play_concat]
    generalize m.play moves = s at ih hc htidy
    obtain ⟨n, hn, rfl | ⟨u, hu, hcode⟩⟩ := ih
    · cases step_levels mv hc htidy with
      | same hb hd' => exact ⟨_, hb ▸ hn, .inl hd'⟩
      | enter _ hbefore hafter hb =>
        rw [hb, hafter, ← hbefore]
        exact ⟨_, .enter hn, .inl rfl⟩
      | leave _ hbefore hafter hb =>
        rw [hbefore] at hn
        rw [hb, hafter]
        exact ⟨_, .leave hn, .inl rfl⟩
      | caught _ _ hlt hb =>
        rw [hb]
        exact ⟨_, .unwind hn hlt, .inl rfl⟩
      | ended ho _ hcode hb =>
        exact ⟨_, hb ▸ hn, .inr ⟨_, (step_grows s mv).owner ho, hcode⟩⟩
    · -- the owner's thread has ended, and nobody else may run the loop
      have hstays := step_finished mv hcode
      have hu' := (step_grows s mv).owner hu
      have idle : ∀ {t : ThreadId} {i rest}, s.loop.owner = some t →
          s.codes[t]? = some (i :: rest) → False := by
        intro t i rest ho ht
        rw [hu] at ho
        cases ho
        rw [hcode] at ht
        cases ht
      cases step_levels mv hc htidy with
      | same hb _ => exact ⟨n, hb ▸ hn, .inr ⟨u, hu', hstays⟩⟩
      | enter hbegins _ _ _ =>
        have ho := hbegins.after.owner (step_tidy mv htidy)
        obtain ⟨-, ⟨i, after, rest, -, ht, -⟩, -⟩ := hbegins
        rw [hu'] at ho
        cases ho
        exact (idle hu ht).elim
      | leave hreturns _ _ _ => exact (idle (hreturns.runs.owner htidy) hreturns.runs).elim
      | caught ho ht _ _ => exact (idle ho ht).elim
      | ended ho ht _ _ => exact (idle ho ht).elim

/-! ### Depth is the number of live runs -/

/-- A run that is refused leaves the depth as it is. -/
lemma step_refused_run {m : Machine} {t : ThreadId} {i token after rest} (ht : m.codes[t]? = some (i :: rest))
    (ho : Opens i token after) (hb : (m.loop.bind t).1 = false) :
    (m.step (.exec t)).loop.depth = m.loop.depth := by
  rcases step_exec ht with he | ⟨next, sent, m₁, hf, he⟩ | ⟨_, _, _, rfl, -⟩ | ⟨rfl, -⟩
  · rw [he]
  · obtain ⟨events, hl, -⟩ := hf.loopStep
    rw [he]
    show m₁.loop.depth = _
    generalize m₁.loop = loop at hl
    cases hl with
    | enter _ hb' =>
      rw [hb'] at hb
      cases hb
    | leave => cases ho
    | bind => cases ho
    | _ => rfl
  · cases ho
  · cases ho

/-- After a run has started, the depth is greater than before while the run is live, and when it ends the depth
is as before, less the runs further down that the same panic unwinds. -/
lemma Begins.play {m : Machine} (hc : m.Counted) (hm : m.Tidy) {t : ThreadId} {token below mv}
    (h : Begins t token below m mv) (more : List Move) :
    (∃ top, ((m.step mv).play more).Runs t token below top ∧
      m.loop.depth < ((m.step mv).play more).loop.depth) ∨
    Happens (m.step mv) more (fun s mv' => Returns t token below s mv' ∧
      (s.step mv').loop.depth = m.loop.depth) ∨
    Happens (m.step mv) more (fun s mv' => Unwinds t token below s mv' ∧
      (s.step mv').loop.depth + (unwind below).1 = m.loop.depth) := by
  obtain ⟨hbefore, -, -⟩ := h.level hc hm
  have hc' := play_counted (step_counted mv hc)
  have hm' := play_tidy (step_tidy mv hm)
  rw [hbefore]
  rcases play_runs h.after more with ⟨top, hruns⟩ | ⟨before, mv', hpre, hr⟩ | ⟨before, mv', hpre, hu⟩
  · have hdepth := hruns.depth (hc' more) (hm' more)
    exact .inl ⟨top, hruns, by omega⟩
  · exact .inr (.inl ⟨before, mv', hpre, hr, (hr.level (hc' before) (hm' before)).2.1⟩)
  · exact .inr (.inr ⟨before, mv', hpre, hu, hu.level (hc' before) (hm' before)⟩)

/-- On a loop that starts at depth zero, whatever the threads do: the depth is the number of live runs on the
stack of the thread that owns the loop, and no other thread has runs. A refused run leaves the depth alone. A
run that has started is counted until it ends; then the depth is as before its start, whether it returns or a
panic unwinds it, where a panic that passes on also takes off the runs it unwinds further down. The depth never
falls below zero. A start and a return are told with the level of their run, a panic that unwinds runs only
where it is caught, and what is told is well bracketed; the open runs are those counted, unless the owner's
thread has ended. -/
theorem depth_counts_runs {m : Machine} (hm : m.Fresh) (hdepth : m.loop.depth = 0) (moves : List Move) :
    (m.play moves).loop.depth = (m.play moves).liveRuns ∧
    (∀ (t : ThreadId) code, (m.play moves).codes[t]? = some code → (m.play moves).loop.owner ≠ some t →
      pumps code = 0) ∧
    (∀ (t : ThreadId) i token after rest, (m.play moves).codes[t]? = some (i :: rest) → Opens i token after →
      ((m.play moves).loop.bind t).1 = false →
      (m.play (moves ++ [.exec t])).loop.depth = (m.play moves).loop.depth) ∧
    (∀ t token below more, Begins t token below (m.play moves) (.exec t) →
      (∃ top, (m.play (moves ++ [.exec t] ++ more)).Runs t token below top ∧
        (m.play moves).loop.depth < (m.play (moves ++ [.exec t] ++ more)).loop.depth) ∨
      Happens (m.play (moves ++ [.exec t])) more (fun s mv => Returns t token below s mv ∧
        (s.step mv).loop.depth = (m.play moves).loop.depth) ∨
      Happens (m.play (moves ++ [.exec t])) more (fun s mv => Unwinds t token below s mv ∧
        (s.step mv).loop.depth + (unwind below).1 = (m.play moves).loop.depth)) ∧
    (∀ (t : ThreadId) token rest, (m.play moves).codes[t]? = some (.pump token :: rest) →
      0 < (m.play moves).loop.depth) ∧
    (∀ (t : ThreadId) rest, (m.play moves).codes[t]? = some (.op .panic :: rest) →
      (unwind rest).1 ≤ (m.play moves).loop.depth) ∧
    (∀ mv, Levels (m.play moves) mv (m.play (moves ++ [mv]))) ∧
    ∃ n, Bracketed (m.play moves).brackets n ∧ ((m.play moves).loop.depth = n ∨
      ∃ t, (m.play moves).loop.owner = some t ∧ (m.play moves).codes[t]? = some []) := by
  have hc := play_counted (hm.counted hdepth) moves
  have htidy := play_tidy hm.tidy moves
  refine ⟨by rw [htidy.liveRuns, hc], fun t code ht ho => (htidy.foreign ht ho).pumps,
    fun t i token after rest ht ho hb => ?_, fun t token below more h => ?_, fun t token rest ht => hc.pos ht,
    fun t rest ht => ?_, fun mv => ?_, play_bracketed hm hdepth moves⟩
  · rw [play_concat]
    exact step_refused_run ht ho hb
  · rw [play_append, play_concat]
    exact h.play hc htidy more
  · have hle := hc.unwind_le ht
    omega
  · rw [play_concat]
    exact step_levels mv hc htidy

/-- The panic of an inner task passes through two runs, and is caught at the outer one. -/
def panicThrough : Machine :=
  start [[.post [.post [.panic], .run (.named "inner") true], .run (.named "outer") false]] [] .manual

/-- Two runs are live when the inner task panics, and none after the panic was caught. -/
theorem depth_counts_runs_panicThrough :
    (panicThrough.play (List.replicate 8 (.exec 0))).loop.depth = 2 ∧
      (panicThrough.play (List.replicate 10 (.exec 0))).loop.depth = 0 := by
  have hinner : (panicThrough.play (List.replicate 8 (.exec 0))).liveRuns = 2 := rfl
  have houter : (panicThrough.play (List.replicate 10 (.exec 0))).liveRuns = 0 := rfl
  constructor
  · rw [(depth_counts_runs (m := panicThrough) (start_fresh ..) rfl _).1, hinner]
  · rw [(depth_counts_runs (m := panicThrough) (start_fresh ..) rfl _).1, houter]

end MessageBox.Machine
