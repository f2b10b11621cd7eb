import MessageBox.Proofs.Machine.ChosenPress

/-!
# Every way to a button gives its action

The buttons of a prompt's dialog can be pressed by their slots, chosen by a responder of the headless toolkit, or
reached by the keys of a terminal: by a digit, or by the focus and Enter. All of them run one and the same action,
once (`buttons_agree`). For the headless toolkit this is said of the whole way, from the responder's choice over the
task that is posted to the handler that whoever takes the task starts (`Responder.Presses`), and for the terminal both
of the open dialogs (`Terminal.Stack.type`) and of a thread that types the keys (`Types`).
-/

namespace MessageBox

open Terminal

namespace Machine

variable {m : Machine} {t : ThreadId} {s s' s'' : Stack Reaction} {v : View Reaction} {k : Key} {keys : List Key}
  {code rest : List Instr}

/-! ### Keys that a thread types -/

/-- A thread that types some keys at these open dialogs, and runs alone, comes to this code, with these dialogs open
then. -/
def Types (s : Stack Reaction) (keys : List Key) (code : List Instr) (s' : Stack Reaction) : Prop :=
  ∀ (m : Machine) (t : ThreadId) (rest : List Instr), m.terminal = some s →
    m.Ready t (keys.map (fun k => .op (.key k)) ++ rest) →
    ∃ n, (m.alone t n).terminal = some s' ∧ (m.alone t n).Ready t (code ++ rest)

/-- A thread that runs alone for some moves and for some more runs alone for all of them. -/
lemma alone_add (m : Machine) (t : ThreadId) (n k : Nat) : m.alone t (n + k) = (m.alone t n).alone t k := by
  rw [alone, List.replicate_add, play_append]
  rfl

/-- Typing no keys comes to nothing. -/
lemma types_nil (s : Stack Reaction) : Types s [] [] s := fun _ _ _ hs h => ⟨0, hs, h⟩

/-- Keys that come to nothing may be typed before others. -/
lemma Types.append {more : List Key} (hkeys : Types s keys [] s') (hmore : Types s' more code s'') :
    Types s (keys ++ more) code s'' := by
  intro m t rest hs h
  rw [List.map_append, List.append_assoc] at h
  obtain ⟨n, hs', h'⟩ := hkeys m t _ hs h
  obtain ⟨n', hdone⟩ := hmore _ t rest hs' h'
  exact ⟨n + n', by rwa [alone_add]⟩

/-- A key that closes no dialog comes to nothing but the change that it makes to the open dialogs. -/
lemma types_open (hopen : ∀ v slot, (s.route k).1 ≠ .closed v slot) : Types s [k] [] (s.route k).2 := by
  intro m t rest hs h
  have hexec : m.execInstr t rest (.op (.key k)) =
      some (({ m.note t (s.records k) with terminal := some (s.route k).2 }).goto t rest) := by
    simp only [execInstr, execOp, key, hs]
    rfl
  have hthreads : (m.note t (s.records k)).threads = m.threads := by rw [note_eq]
  refine ⟨1, ?_, ?_⟩
  · rw [h.alone_one hexec]
    rfl
  · rw [h.alone_one hexec]
    exact h.goto _ hthreads rest

/-- A thread that acts on a dialog that was closed goes on with the action that follows. -/
lemma Ready.concludes {slot : Option Slot} (h : m.Ready t (.conclude v slot :: rest)) :
    m.alone t 1 =
      (m.note t (v.conclude slot).2).goto t ((v.conclude slot).1.elim [] Reaction.code ++ rest) :=
  h.alone_one rfl

/-- A key that closes a dialog comes to the action that follows. -/
lemma types_closed {slot : Option Slot} (hroute : s.route k = (.closed v slot, s')) :
    Types s [k] ((v.conclude slot).1.elim [] Reaction.code) s' := by
  intro m t rest hs h
  have hkey : m.execInstr t rest (.op (.key k)) =
      some (({ m.note t (s.records k) with terminal := some s' }).goto t (.conclude v slot :: rest)) := by
    simp only [execInstr, execOp, key, hs, hroute]
    rfl
  have hthreads : (m.note t (s.records k)).threads = m.threads := by rw [note_eq]
  have hclosed := h.goto { m.note t (s.records k) with terminal := some s' } hthreads (.conclude v slot :: rest)
  have htwo := (h.alone_succ hkey 1).trans hclosed.concludes
  refine ⟨2, ?_, ?_⟩
  · rw [htwo, note_eq]
    rfl
  · rw [htwo]
    exact hclosed.goto _ (by rw [note_eq]) _

/-! ### Keys typed at a dialog -/

/-- Keys typed at these open dialogs run these actions and leave these dialogs open: the open dialogs route them so, and
a thread that types them comes to the code of the actions. -/
structure KeysRun (s : Stack Reaction) (keys : List Key) (actions : List Reaction) (s' : Stack Reaction) : Prop where
  routed : s.type keys = (actions, s')
  typed : Types s keys (actions.flatMap Reaction.code) s'

/-- A key that presses a button of the innermost dialog runs the action of the button and closes the dialog. -/
lemma keysRun_activate {slot : Slot} {reaction : Reaction} (h : v.handle k = (.activate slot, v))
    (hpress : v.dialog.press slot = .ok reaction) : KeysRun (s.push v) [k] [reaction] s := by
  have hroute : (s.push v).route k = (.closed v (some slot), s) := by simp [Stack.route, h]
  refine ⟨Stack.type_activate h hpress, ?_⟩
  have htypes := types_closed hroute
  rwa [View.conclude, hpress, Option.elim_some, ← List.append_nil (Reaction.code reaction)] at htypes

/-- A key that the innermost dialog ignores runs nothing. -/
lemma keysRun_ignored (h : v.handle k = (.ignored, v)) : KeysRun (s.push v) [k] [] (s.push v) := by
  have hroute : (s.push v).route k = (.unchanged, s.push v) := by simp [Stack.route, h]
  refine ⟨Stack.type_ignored h, ?_⟩
  have htypes := types_open (s := s.push v) (k := k) (by simp [hroute])
  rwa [hroute] at htypes

/-- Keys that move the focus of the innermost dialog run nothing and leave the dialog open. -/
lemma types_moves (hkeys : ∀ k ∈ keys, k.code.movesFocus = true) (hv : v.dialog.buttons ≠ []) :
    Types (s.push v) keys [] (s.push (v.after keys)) := by
  induction keys generalizing v with
  | nil => exact types_nil _
  | cons k keys ih =>
    obtain ⟨hredraw, hdialog⟩ := View.handle_moves (hkeys k (List.mem_cons_self ..)) hv
    have hroute : (s.push v).route k = (.changed, s.push (v.handle k).2) := by
      rw [Stack.route, Stack.top_push]
      simp only
      rw [hredraw]
      simp
    have hkey := types_open (s := s.push v) (k := k) (by simp [hroute])
    rw [hroute] at hkey
    exact hkey.append (ih (fun k' hk' => hkeys k' (List.mem_cons_of_mem _ hk')) (by rwa [hdialog]))

/-- Moving the focus first changes nothing about what a key runs that closes the dialog. -/
lemma KeysRun.after_moves {actions : List Reaction} (h : KeysRun (s.push (v.after keys)) [k] actions s')
    (hkeys : ∀ k ∈ keys, k.code.movesFocus = true) (hv : v.dialog.buttons ≠ []) :
    KeysRun (s.push v) (keys ++ [k]) actions s' where
  routed := (Stack.type_moves [k] hkeys hv).trans h.routed
  typed := (types_moves hkeys hv).append h.typed

/-! ### Buttons that a responder chooses -/

/-- A responder has a button of a dialog pressed. A thread that asks the responder posts the press as a task. A live run
that takes the task goes on with the handler of the button. And whatever comes in between, the press is on its way, was
made, or was refused because the loop is closed, and the dialog is pressed in no other way. -/
structure Responder.Presses (r : Responder) (dialog : Dialog Reaction) (slot : Slot) (reaction : Reaction) :
    Prop where
  posts {m : Machine} {t : ThreadId} {d : DialogId} {origin : Origin} {rest : List Instr} :
    m.desk.responder = r →
    m.dialogs[d]? = some ⟨dialog, origin⟩ →
    m.loop.closed = false →
    m.Ready t (.choose d :: rest) →
    m.alone t 2 =
      (((m.emit t (.pressScheduled d slot dialog.title)).enqueue t [.pressChosen d slot]).tellProgram t origin
        none).goto t (.wakeLoop :: (origin.accepted ++ rest))
  starts {m : Machine} {t : ThreadId} {d : DialogId} {origin : Origin} {token : Token} {queue : List Task}
      {rest : List Instr} :
    m.dialogs[d]? = some ⟨dialog, origin⟩ →
    m.loop.queue = [.pressChosen d slot] :: queue →
    token ∉ m.loop.signalled →
    m.Ready t (.pump token :: rest) →
    m.alone t 2 =
      ((m.taken t [.pressChosen d slot] queue).emit t (.pressed d slot)).goto t
        (reaction.code ++ .pump token :: rest)
  once {m : Machine} {before later : List Move} {mv : Move} {d : DialogId} {origin : Origin} :
    m.Fresh →
    m.terminal = none →
    m.overrides = {} →
    (m.play before).desk.responder = r →
    (m.play before).dialogs[d]? = some ⟨dialog, origin⟩ →
    (m.play before).Executes mv (.choose d) →
    ChosenPress m (before ++ [mv] ++ later) d slot reaction

/-- The button that a responder chooses is the one that it has pressed. -/
lemma Responder.presses_of_choose {r : Responder} {dialog : Dialog Reaction} {slot : Slot} {reaction : Reaction}
    (hchoose : r.choose dialog = some slot) (hpress : dialog.press slot = .ok reaction) :
    r.Presses dialog slot reaction where
  posts hr ho hopen h := h.posts_press ho (hr ▸ hchoose) (hasSlot_of_press hpress) hopen
  starts ho hqueue htoken h := h.takes_press ho hpress hqueue htoken
  once hm hterm hov hr ho hexec := hm.chosenPress hterm hov ho hexec (hr ▸ hchoose) hpress

end Machine

open Machine in
/-- The dialog of a specification cannot be dismissed and has its actions for buttons, in their order. Pressing
the `i`-th button by its slot, having the headless toolkit choose it by its index, typing its digit at whatever
focus, and typing Enter once the focus is on it, all run the action of the code `i + 1`, once, whatever other
dialogs are open below; that code stands for the action of this code, and a digit beyond the actions runs
nothing. -/
theorem buttons_agree (spec : Spec) (onChoice : Nat → Reaction) :
    (spec.dialog onChoice).cancelable = false ∧
    (spec.dialog onChoice).buttons.length = spec.actions.length ∧
    (∀ i : Nat, (spec.dialog onChoice).buttons[i]?.map (·.label) = spec.actions[i]?) ∧
    (∀ i, i < spec.actions.length → ∃ b, (spec.dialog onChoice).buttons[i]? = some b ∧
      (spec.dialog onChoice).press b.slot = .ok (onChoice (i + 1)) ∧
      (Responder.byIndex i).Presses (spec.dialog onChoice) b.slot (onChoice (i + 1)) ∧
      (∀ (below : Stack Reaction) focus key, key.code = .char (Nat.digitChar (i + 1)) →
        KeysRun (below.push ⟨spec.dialog onChoice, focus⟩) [key] [onChoice (i + 1)] below) ∧
      (∀ (below : Stack Reaction) focus keys enter, (∀ k ∈ keys, k.code.movesFocus = true) →
        enter.code = .enter → ((⟨spec.dialog onChoice, focus⟩ : View Reaction).after keys).focus = i →
        KeysRun (below.push ⟨spec.dialog onChoice, focus⟩) (keys ++ [enter]) [onChoice (i + 1)] below) ∧
      ((⟨spec.dialog onChoice, 0⟩ : View Reaction).after (List.replicate i { code := .right })).focus = i ∧
      (Outcome.ofCode (i + 1) spec.actions.length).isAction = true ∧
      (Outcome.ofCode (i + 1) spec.actions.length).code = i + 1) ∧
    ∀ (below : Stack Reaction) focus key digit, spec.actions.length < digit → digit ≤ 9 →
      key.code = .char (Nat.digitChar digit) →
      KeysRun (below.push ⟨spec.dialog onChoice, focus⟩) [key] [] (below.push ⟨spec.dialog onChoice, focus⟩) := by
  have hlength := spec.dialog_length onChoice
  refine ⟨spec.dialog_cancelable onChoice, hlength, fun i => ?_, fun i hi => ?_,
    fun below focus key digit hdigit h9 hk => ?_⟩
  · rw [← List.getElem?_map, spec.dialog_labels]
  · obtain ⟨b, hb, hslot⟩ := spec.dialog_getElem? onChoice hi
    have hpress := spec.dialog_press_ok onChoice hslot
    have h3 : i < 3 := Nat.lt_of_lt_of_le hi spec.actions_le
    refine ⟨b, hb, hpress, Responder.presses_of_choose (spec.dialog_choose onChoice hb) hpress,
      fun below focus key hk => keysRun_activate (View.handle_digit h3 hk hb) hpress,
      fun below focus keys enter hkeys henter hfocus => ?_, ?_, Slot.outcome_of_layout hslot⟩
    · have hne : (spec.dialog onChoice).buttons ≠ [] := by
        intro hnil
        simp [hnil] at hb
      have hdialog := View.after_dialog hkeys (v := ⟨spec.dialog onChoice, focus⟩) hne
      set v := (⟨spec.dialog onChoice, focus⟩ : View Reaction).after keys
      have hfocused : v.dialog.buttons[v.focus]? = some b := by rw [hdialog, hfocus, hb]
      have hpressed : v.dialog.press b.slot = .ok (onChoice (i + 1)) := by rw [hdialog, hpress]
      exact (keysRun_activate (View.handle_enter henter hfocused) hpressed).after_moves hkeys hne
    · rw [View.focus_after_right _ (hlength ▸ hi)]
  · exact keysRun_ignored (View.handle_digit_beyond (by rwa [hlength]) h9 hk)

/-- A question with two answers of one name. -/
def twins : Spec := ⟨"Again", "Go on?", .none, ["Go", "Go"], by decide, by decide⟩

open Machine in
/-- A worker asks the question beside a thread that runs the loop, and the responder answers with the second button. -/
def twinsAsked : Machine := start [[.run .ui false], [.ask 0 (.caller 0)]] [{ spec := twins }] (.byIndex 1)

open Machine in
/-- Of two actions with one label, the second one is reached by the digit 2, by a move to the left and Enter, and by the
responder that chooses the second button, whose press is the only one. -/
theorem buttons_agree_twins :
    (∀ below : Stack Reaction,
      KeysRun (below.push ⟨twins.dialog fun code => .answer 0 code false, 0⟩) [{ code := .char '2' }]
        [.answer 0 2 false] below ∧
      KeysRun (below.push ⟨twins.dialog fun code => .answer 0 code false, 0⟩) [{ code := .left }, { code := .enter }]
        [.answer 0 2 false] below ∧
      KeysRun (below.push ⟨twins.dialog fun code => .answer 0 code false, 0⟩) [{ code := .char '3' }] []
        (below.push ⟨twins.dialog fun code => .answer 0 code false, 0⟩)) ∧
    ∀ later, ChosenPress twinsAsked
      ((.exec 0 :: List.replicate 3 (.exec 1)) ++ List.replicate 5 (.exec 0) ++ [.exec 0] ++ later) 0 .negative
      (.answer 0 2 false) := by
  obtain ⟨-, -, -, hroutes, hbeyond⟩ := buttons_agree twins fun code => .answer 0 code false
  obtain ⟨b, hb, -, hresponder, hdigit, henter, -⟩ := hroutes 1 (by decide)
  cases hb
  refine ⟨fun below => ⟨hdigit below 0 _ rfl,
    henter below 0 [{ code := .left }] _ (by simp [KeyCode.movesFocus]) rfl rfl,
    hbeyond below 0 _ 3 (by decide) (by decide) rfl⟩, fun later => ?_⟩
  exact hresponder.once (start_fresh ..) rfl rfl rfl rfl ⟨0, _, _, rfl, rfl, rfl, rfl⟩

end MessageBox
