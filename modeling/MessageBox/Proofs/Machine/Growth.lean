import MessageBox.Proofs.Machine.Run

/-!
# How a machine grows

Calls, offers and events are only ever added. An offer and an event never change, and of a call only its
handoff and its outcome do, in the seven ways that `Changes` lists; a recorded answer stays
(`Grows`, `step_grows`, `play_grows`).
-/

namespace MessageBox.Machine

/-- An element of a list with one more is an old one or the new one. -/
lemma getElem?_concat {α : Type} {l : List α} {a b : α} {j : Nat} (h : (l ++ [a])[j]? = some b) :
    l[j]? = some b ∨ j = l.length ∧ b = a := by
  rw [List.getElem?_append] at h
  split at h
  · exact .inl h
  · have h' := List.getElem?_eq_some_iff.1 h
    simp only [List.length_singleton, List.getElem_singleton] at h'
    obtain ⟨hlt, he⟩ := h'
    exact .inr ⟨by omega, he.symm⟩

/-- A call that is modified is the modified one then. -/
lemma modifyCall_self {m : Machine} {c : CallId} {call : Call} (hc : m.calls[c]? = some call)
    (f : Call → Call) : (m.modifyCall c f).calls[c]? = some (f call) := by
  simp [modifyCall, hc]

/-- The ways in which instructions change a call. -/
inductive Changes (m : Machine) : Instr → CallId → (Call → Call) → Prop where
  | interrupt {p c} :
    m.reach p = some c →
    Changes m (.op (.interrupt p)) c fun call => { call with handoff := call.handoff.interrupt }
  | interruptOnShow {d o p c} :
    m.dialogs[d]? = some o →
    m.terminal = none →
    o.origin ≠ .program →
    m.overrides.interruptOnShow = true →
    m.latest = some p →
    m.reach p = some c →
    Changes m (.present d) c fun call => { call with handoff := call.handoff.interrupt }
  | take {c deadline call} :
    m.calls[c]? = some call →
    Handoff.wait.check deadline m.clock call.handoff = .ready →
    Changes m (.await c deadline) c fun call => { call with handoff := call.handoff.take }
  | clear {c deadline call} :
    m.calls[c]? = some call →
    Handoff.wait.check deadline m.clock call.handoff = .interrupted →
    Changes m (.await c deadline) c fun call => { call with handoff := Handoff.wait.clear call.handoff }
  | complete {c code call} :
    m.calls[c]? = some call →
    call.handoff.value = none →
    Changes m (.complete c code) c fun call => { call with handoff := (call.handoff.complete code).2 }
  | release {c} :
    Changes m (.release c) c fun call => { call with handoff := call.handoff.releaseEmpty }
  | resolve {c outcome call} :
    m.calls[c]? = some call →
    Changes m (.resolve c outcome) c fun call => { call with outcome := some outcome }

/-- A firing leaves the calls alone, adds one, or changes one. -/
lemma Fires.calls {m m₁ : Machine} {t i next sent} (h : Fires m t i next sent m₁) :
    m₁.calls = m.calls ∨
    (∃ p ticket q, i = .op (.ask p ticket) ∧ m.prompts[p]? = some q ∧
      m₁.calls = m.calls ++ [m.newCall t p q ticket]) ∨
    ∃ c f, Changes m i c f ∧ m₁.calls = m.calls.modify c f := by
  cases h with
  | ask hq => exact .inr (.inl ⟨_, _, _, rfl, hq, rfl⟩)
  | interrupt hr => exact .inr (.inr ⟨_, _, .interrupt hr, rfl⟩)
  | presentInterrupt ho ht hp hi hl hr => exact .inr (.inr ⟨_, _, .interruptOnShow ho ht hp hi hl hr, rfl⟩)
  | awaitReady hc hl => exact .inr (.inr ⟨_, _, .take hc hl, rfl⟩)
  | awaitInterrupted hc hl => exact .inr (.inr ⟨_, _, .clear hc hl, rfl⟩)
  | complete hc hv => exact .inr (.inr ⟨_, _, .complete hc hv, rfl⟩)
  | release => exact .inr (.inr ⟨_, _, .release, rfl⟩)
  | resolve hc => exact .inr (.inr ⟨_, _, .resolve hc, rfl⟩)
  | _ => exact .inl (by first | rfl | simp [note_eq, tellProgram_eq, enqueue, emit])

/-- What a call is after a firing: what it was, or what a change made of it. -/
lemma Fires.call_after {m m₁ : Machine} {t i next sent c call} (h : Fires m t i next sent m₁)
    (hc : m.calls[c]? = some call) :
    m₁.calls[c]? = some call ∨ ∃ f, Changes m i c f ∧ m₁.calls[c]? = some (f call) := by
  obtain he | ⟨p, ticket, q, -, -, he⟩ | ⟨c', f, hf, he⟩ := h.calls
  · exact .inl (by rw [he, hc])
  · have hlt : c < m.calls.length := (List.getElem?_eq_some_iff.1 hc).1
    exact .inl (by rw [he, List.getElem?_append_left hlt, hc])
  · by_cases hcc : c' = c
    · subst hcc
      exact .inr ⟨f, hf, by simp [he, hc]⟩
    · exact .inl (by simp [he, hc, hcc])

/-- Where a call after a firing comes from: it was there, or it was made just now. -/
lemma Fires.call_before {m m₁ : Machine} {t i next sent c call'} (h : Fires m t i next sent m₁)
    (hc : m₁.calls[c]? = some call') :
    (∃ call, m.calls[c]? = some call ∧ (call' = call ∨ ∃ f, Changes m i c f ∧ call' = f call)) ∨
    ∃ p ticket q, i = .op (.ask p ticket) ∧ m.prompts[p]? = some q ∧ c = m.calls.length ∧
      call' = m.newCall t p q ticket := by
  obtain he | ⟨p, ticket, q, hi, hq, he⟩ | ⟨c', f, hf, he⟩ := h.calls
  · exact .inl ⟨call', by rw [← he, hc], .inl rfl⟩
  · rcases getElem?_concat (he ▸ hc) with hold | ⟨hlen, hnew⟩
    · exact .inl ⟨call', hold, .inl rfl⟩
    · exact .inr ⟨p, ticket, q, hi, hq, hlen, hnew⟩
  · rw [he, List.getElem?_modify] at hc
    cases hcall : m.calls[c]? with
    | none => simp [hcall] at hc
    | some call =>
      by_cases hcc : c' = c
      · subst hcc
        simp only [hcall, Option.map_eq_map, Option.map_some, if_true, Option.some.injEq] at hc
        exact .inl ⟨call, rfl, .inr ⟨f, hf, hc.symm⟩⟩
      · simp only [hcall, Option.map_eq_map, Option.map_some, hcc, if_false, Option.some.injEq] at hc
        exact .inl ⟨call, rfl, .inl hc.symm⟩

/-- A firing adds at most one offer: a program's own, or that of a call. -/
lemma Fires.dialogs {m m₁ : Machine} {t i next sent} (h : Fires m t i next sent m₁) :
    m₁.dialogs = m.dialogs ∨
    (∃ d, i = .op (.offer d) ∧ m₁.dialogs = m.dialogs ++ [programOffer d]) ∨
    ∃ c call, i = .create c ∧ m.calls[c]? = some call ∧ m₁.dialogs = m.dialogs ++ [call.offer c] := by
  cases h with
  | offer => exact .inr (.inl ⟨_, rfl, rfl⟩)
  | create hc => exact .inr (.inr ⟨_, _, rfl, hc, rfl⟩)
  | _ => exact .inl (by first | rfl | simp [note_eq, tellProgram_eq, enqueue, emit])

/-- Where an offer after a firing comes from. -/
lemma Fires.offer_before {m m₁ : Machine} {t i next sent d o} (h : Fires m t i next sent m₁)
    (hd : m₁.dialogs[d]? = some o) :
    m.dialogs[d]? = some o ∨
    d = m.dialogs.length ∧ ((∃ d', i = .op (.offer d') ∧ o = programOffer d') ∨
      ∃ c call, i = .create c ∧ m.calls[c]? = some call ∧ o = call.offer c) := by
  obtain he | ⟨d', hi, he⟩ | ⟨c, call, hi, hc, he⟩ := h.dialogs
  · exact .inl (by rw [← he, hd])
  · rcases getElem?_concat (he ▸ hd) with hold | ⟨hlen, rfl⟩
    · exact .inl hold
    · exact .inr ⟨hlen, .inl ⟨d', hi, rfl⟩⟩
  · rcases getElem?_concat (he ▸ hd) with hold | ⟨hlen, rfl⟩
    · exact .inl hold
    · exact .inr ⟨hlen, .inr ⟨c, call, hi, hc, rfl⟩⟩

/-- What a firing does to the pending dialogs: nothing, or it adds one, takes one, puts one back, or
dismisses the last one. -/
lemma Fires.pending {m m₁ : Machine} {t i next sent} (h : Fires m t i next sent m₁) :
    m₁.desk.pending = m.desk.pending ∨
    (∃ d, i = .keep d ∧ m₁.desk.pending = m.desk.pending ++ [d]) ∨
    (∃ index slot place d, i = .takePending index slot ∧ m.desk.pending[place]? = some d ∧
      next = [.pressTaken place d slot] ∧ m₁.desk.pending = m.desk.pending.eraseIdx place) ∨
    (∃ place d, i = .putBack place d ∧
      m₁.desk.pending = m.desk.pending.insertIdx (min place m.desk.pending.length) d) ∨
    ∃ d o, m.desk.pending.getLast? = some d ∧ m.dialogs[d]? = some o ∧ o.dialog.cancelable = true ∧
      m₁.desk.pending = m.desk.pending.dropLast := by
  cases h with
  | keep _ => exact .inr (.inl ⟨_, rfl, by simp [tellProgram_eq]⟩)
  | takePending _ hd => exact .inr (.inr (.inl ⟨_, _, _, _, rfl, hd, rfl, rfl⟩))
  | putBack => exact .inr (.inr (.inr (.inl ⟨_, _, rfl, rfl⟩)))
  | dismiss hl ho hc => exact .inr (.inr (.inr (.inr ⟨_, _, hl, ho, hc, rfl⟩)))
  | _ => exact .inl (by first | rfl | simp [note_eq, tellProgram_eq, enqueue, emit])

/-- A firing signals at most one token. -/
lemma Fires.signals {m m₁ : Machine} {t i next sent} (h : Fires m t i next sent m₁) :
    m₁.loop.signalled = m.loop.signalled ∨
    ∃ token, i = .op (.signal token) ∧ m₁.loop.signalled = token :: m.loop.signalled := by
  cases h with
  | signal => exact .inr ⟨_, rfl, rfl⟩
  | run hb => exact .inl (by simp [emit, bind_eq hb])
  | nest _ hb => exact .inl (by simp [emit, bind_eq hb])
  | bind => exact .inl (by simp [emit, bind_eq (Prod.eta (m.loop.bind t)).symm])
  | _ => exact .inl (by first | rfl | simp [note_eq, tellProgram_eq, enqueue, emit])

/-- No instruction changes the overrides. -/
lemma Fires.overrides {m m₁ : Machine} {t i next sent} (h : Fires m t i next sent m₁) :
    m₁.overrides = m.overrides := by
  cases h <;> first | rfl | simp [note_eq, tellProgram_eq, enqueue, emit]

/-- The loop is closed, the responder changed and a failure injected by the operations for that only. -/
lemma Fires.steady {m m₁ : Machine} {t i next sent} (h : Fires m t i next sent m₁) (hclose : i ≠ .op .close)
    (hrespond : ∀ r, i ≠ .op (.respond r)) (hfail : ∀ e, i ≠ .op (.failNext e))
    (hnone : m.desk.failNext = none) :
    m₁.loop.closed = m.loop.closed ∧ m₁.desk.responder = m.desk.responder ∧ m₁.desk.failNext = none := by
  cases h with
  | close => exact absurd rfl hclose
  | respond => exact absurd rfl (hrespond _)
  | failNext => exact absurd rfl (hfail _)
  | run hb => simp [emit, bind_eq hb, hnone]
  | nest _ hb => simp [emit, bind_eq hb, hnone]
  | bind => simp [emit, bind_eq (Prod.eta (m.loop.bind t)).symm, hnone]
  | _ => first | exact ⟨rfl, rfl, hnone⟩ | simp [note_eq, tellProgram_eq, enqueue, emit, hnone]

/-- Of a prompt, only its active call changes. -/
lemma Fires.prompts {m m₁ : Machine} {t i next sent} {p : PromptId} {q : ActivePrompt}
    (h : Fires m t i next sent m₁) (hq : m₁.prompts[p]? = some q) :
    ∃ old, m.prompts[p]? = some old ∧ q.prompt = old.prompt := by
  have kept : ∀ {p'} {active : Option CallId},
      (m.prompts.modify p' fun q => { q with active })[p]? = some q →
        ∃ old, m.prompts[p]? = some old ∧ q.prompt = old.prompt := by
    intro p' active hq
    rw [List.getElem?_modify] at hq
    obtain ⟨old, hold, rfl⟩ := Option.map_eq_some_iff.1 hq
    refine ⟨old, hold, ?_⟩
    split <;> rfl
  cases h with
  | activate _ => exact kept hq
  | deactivate _ => exact kept hq
  | _ => exact ⟨q, by first | exact hq | simpa [note_eq, tellProgram_eq, enqueue, emit] using hq, rfl⟩

/-- Another event than a resolution leaves the resolutions in the history as they are. -/
lemma resolved_push {history : Array (ThreadId × Event)} {t t' : ThreadId} {e : Event} {j : Nat}
    {c : CallId} {ticket o} (he : ∀ c ticket o, e ≠ .resolved c ticket o) :
    (history.push (t, e))[j]? = some (t', Event.resolved c ticket o) ↔
      history[j]? = some (t', Event.resolved c ticket o) := by
  rw [Array.getElem?_push]
  split
  · next hj =>
    subst hj
    simp [he c ticket o]
  · rfl

/-- Records of the log leave the resolutions in the history as they are. -/
lemma resolved_append {history : Array (ThreadId × Event)} {t t' : ThreadId} {j : Nat} {c : CallId} {ticket o}
    (records : List Log.Record) :
    (history ++ (records.map fun r => (t, Event.logged r)).toArray)[j]? =
        some (t', Event.resolved c ticket o) ↔
      history[j]? = some (t', Event.resolved c ticket o) := by
  induction records generalizing history with
  | nil => simp
  | cons r records ih =>
    have hcons : history ++ ((r :: records).map fun r => (t, Event.logged r)).toArray =
        history.push (t, .logged r) ++ (records.map fun r => (t, Event.logged r)).toArray := by simp
    rw [hcons, ih, resolved_push (by simp)]

/-- What a program is told about its dialog leaves the resolutions in the history as they are. -/
lemma resolved_told {history : Array (ThreadId × Event)} {t t' : ThreadId} {j : Nat} {c : CallId} {ticket o}
    (p : Prop) [Decidable p] (failure : Option ToolkitFailure) :
    (if p then history.push (t, .offered failure) else history)[j]? = some (t', Event.resolved c ticket o) ↔
      history[j]? = some (t', Event.resolved c ticket o) := by
  split
  · exact resolved_push (by simp)
  · rfl

/-- A call is resolved by its last instruction only. -/
lemma Fires.resolved {m m₁ : Machine} {t t' i next sent} {j : Nat} {c ticket o} (h : Fires m t i next sent m₁)
    (hj : m₁.history[j]? = some (t', Event.resolved c ticket o)) :
    m.history[j]? = some (t', Event.resolved c ticket o) ∨ i = .resolve c o ∧ j = m.history.size := by
  cases h with
  | resolve hc =>
    simp only [emit, modifyCall, Array.getElem?_push] at hj
    split at hj
    · next hsize =>
      cases hj
      exact .inr ⟨rfl, hsize⟩
    · exact .inl hj
  | _ =>
    exact .inl (by
      first
      | exact hj
      | exact (resolved_push (by simp)).1 hj
      | simpa [emit, note_eq, tellProgram_eq, enqueue, resolved_push, resolved_append, resolved_told]
          using hj)

/-- An instruction only adds to the history. -/
lemma Fires.history_prefix {m m₁ : Machine} {t i next sent} (h : Fires m t i next sent m₁) :
    m.history.toList <+: m₁.history.toList := by
  cases h with
  | acceptFailed => simp only [tellProgram_eq]; split <;> simp
  | keep => simp only [tellProgram_eq]; split <;> simp
  | schedulePress => simp only [tellProgram_eq, enqueue, emit]; split <;> simp [List.append_assoc]
  | schedulePressClosed => simp only [tellProgram_eq]; split <;> simp
  | presentOpen => simp only [tellProgram_eq, emit]; split <;> simp [List.append_assoc]
  | _ => first | exact List.prefix_rfl | simp [emit, note_eq, enqueue, modifyCall]

/-- A call goes on: only its handoff and its outcome may be different, and a recorded answer stays. -/
structure Call.Continues (call call' : Call) : Prop where
  prompt : call'.prompt = call.prompt
  spec : call'.spec = call.spec
  options : call'.options = call.options
  context : call'.context = call.context
  ticket : call'.ticket = call.ticket
  value : ∀ {code}, call.handoff.value = some code → call'.handoff.value = some code

/-- Every call continues itself. -/
lemma Call.Continues.refl (call : Call) : call.Continues call := ⟨rfl, rfl, rfl, rfl, rfl, id⟩

/-- A call that continues a later state of it continues an earlier one. -/
lemma Call.Continues.trans {a b c : Call} (h : a.Continues b) (h' : b.Continues c) : a.Continues c :=
  ⟨h'.prompt.trans h.prompt, h'.spec.trans h.spec, h'.options.trans h.options, h'.context.trans h.context,
    h'.ticket.trans h.ticket, fun hv => h'.value (h.value hv)⟩

/-- A call that an instruction changes is continued. -/
lemma Changes.continues {m : Machine} {i c f call} (h : Changes m i c f) (hc : m.calls[c]? = some call) :
    call.Continues (f call) := by
  cases h with
  | complete hc' hv =>
    rw [hc] at hc'
    cases hc'
    exact ⟨rfl, rfl, rfl, rfl, rfl, fun h => by rw [hv] at h; cases h⟩
  | _ => exact ⟨rfl, rfl, rfl, rfl, rfl, id⟩

/-- A later machine: calls go on, offers and events stay, and nothing that was signalled or claimed is
taken back. -/
structure Grows (m m' : Machine) : Prop where
  calls : ∀ {c : CallId} {call : Call}, m.calls[c]? = some call →
    ∃ call', m'.calls[c]? = some call' ∧ call.Continues call'
  dialogs : ∀ {d : DialogId} {o : Offer}, m.dialogs[d]? = some o → m'.dialogs[d]? = some o
  history : m.history.toList <+: m'.history.toList
  signalled : ∀ {token}, token ∈ m.loop.signalled → token ∈ m'.loop.signalled
  owner : ∀ {t}, m.loop.owner = some t → m'.loop.owner = some t

/-- Every machine grows from itself. -/
lemma Grows.refl (m : Machine) : m.Grows m :=
  ⟨fun {_ call} h => ⟨call, h, .refl call⟩, id, List.prefix_rfl, id, id⟩

/-- What grows from a machine grows from what that one has grown from. -/
lemma Grows.trans {a b c : Machine} (h : a.Grows b) (h' : b.Grows c) : a.Grows c where
  calls hc := by
    obtain ⟨call', hc', hcont⟩ := h.calls hc
    obtain ⟨call'', hc'', hcont'⟩ := h'.calls hc'
    exact ⟨call'', hc'', hcont.trans hcont'⟩
  dialogs hd := h'.dialogs (h.dialogs hd)
  history := h.history.trans h'.history
  signalled hs := h'.signalled (h.signalled hs)
  owner ho := h'.owner (h.owner ho)

/-- A call of the later machine goes on from what it was. -/
lemma Grows.continues {m m' : Machine} (h : m.Grows m') {c : CallId} {call call' : Call}
    (hc : m.calls[c]? = some call) (hc' : m'.calls[c]? = some call') : call.Continues call' := by
  obtain ⟨later, hlater, hcont⟩ := h.calls hc
  cases hc'.symm.trans hlater
  exact hcont

/-- An event stays at its place in the history as the machine grows. -/
lemma Grows.event {m m' : Machine} (h : m.Grows m') {j : Nat} {e} (hj : m.history[j]? = some e) :
    m'.history[j]? = some e := by
  obtain ⟨more, hmore⟩ := h.history
  have hj' : m.history.toList[j]? = some e := by simpa using hj
  have hlt : j < m.history.toList.length := (List.getElem?_eq_some_iff.1 hj').1
  have : m'.history.toList[j]? = some e := by rw [← hmore, List.getElem?_append_left hlt, hj']
  simpa using this

/-- An instruction keeps what is signalled and who owns the loop. -/
lemma Fires.loop_grows {m m₁ : Machine} {t i next sent} (h : Fires m t i next sent m₁) :
    (∀ {token}, token ∈ m.loop.signalled → token ∈ m₁.loop.signalled) ∧
    ∀ {t'}, m.loop.owner = some t' → m₁.loop.owner = some t' := by
  cases h with
  | run hb =>
    constructor
    · intro token hs
      simpa [emit, bind_eq hb] using hs
    · intro t' ho
      simp [emit, bind_eq hb, ho]
  | nest _ hb =>
    constructor
    · intro token hs
      simpa [emit, bind_eq hb] using hs
    · intro t' ho
      simp [emit, bind_eq hb, ho]
  | bind =>
    have hb := bind_eq (Prod.eta (m.loop.bind t)).symm
    constructor
    · intro token hs
      simpa [emit, hb] using hs
    · intro t' ho
      simp [emit, hb, ho]
  | signal =>
    constructor
    · intro token hs
      exact List.mem_cons_of_mem _ hs
    · exact id
  | _ => first | exact ⟨id, id⟩ | simp [note_eq, tellProgram_eq, enqueue, emit]

/-- A machine grows with every firing. -/
lemma Fires.grows {m m₁ : Machine} {t i next sent} (h : Fires m t i next sent m₁) : m.Grows m₁ where
  calls {c call} hc := by
    rcases h.call_after hc with hc' | ⟨f, hf, hc'⟩
    · exact ⟨call, hc', .refl call⟩
    · exact ⟨f call, hc', hf.continues hc⟩
  dialogs {d o} hd := by
    have hlt : d < m.dialogs.length := (List.getElem?_eq_some_iff.1 hd).1
    obtain he | ⟨d', -, he⟩ | ⟨c, call, -, -, he⟩ := h.dialogs
    · rw [he, hd]
    · rw [he, List.getElem?_append_left hlt, hd]
    · rw [he, List.getElem?_append_left hlt, hd]
  history := h.history_prefix
  signalled := h.loop_grows.1
  owner := h.loop_grows.2

/-- A machine grows as a thread goes to some code. -/
lemma grows_goto (m : Machine) (t : ThreadId) (code : List Instr) : m.Grows (m.goto t code) :=
  ⟨(Grows.refl m).calls, id, List.prefix_rfl, id, id⟩

/-- A machine grows by a quiet move. -/
lemma Quiet.grows {m m' : Machine} (h : Quiet m m') : m.Grows m' where
  calls {c call} hc := ⟨call, by rw [h.calls, hc], .refl call⟩
  dialogs hd := by rw [h.dialogs, hd]
  history := by
    rcases h.history with he | ⟨t, e, he, -⟩
    · simp [he]
    · simp [he]
  signalled hs := by rwa [h.signalled]
  owner ho := by rwa [h.owner]

/-- A machine grows with every move. -/
lemma step_grows (m : Machine) (mv : Move) : m.Grows (m.step mv) := by
  rcases (steps m mv).fires_or_quiet with ⟨t, i, rest, next, sent, m₁, -, -, hf, he⟩ | hq
  · rw [he]
    exact hf.grows.trans (grows_goto ..)
  · exact hq.grows

/-- A machine grows over every run. -/
lemma play_grows (m : Machine) (moves : List Move) : m.Grows (m.play moves) :=
  play_induction (P := fun m' => m.Grows m') (.refl m) (fun m' mv h => h.trans (step_grows m' mv)) moves

end MessageBox.Machine
