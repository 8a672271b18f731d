import Mathlib.Tactic.ByContra
import ShapeForge.Watch

/-!
# No change is lost

A run of a watcher is a list of steps together with the moments that matter: an event is taken off
the queue, or the callback is started.  Once a change was taken, a signal is to come until the
callback is started: the timer is armed, or its signal is under way, or the callback is due.  A
signal is dropped only where the callback is due already, and every signal comes from a change of
its own, so that there are never more callbacks than changes.
-/

namespace ShapeForge.Watcher

/-! ## Runs -/

/-- What a run is remembered by. -/
inductive Moment where
  | taken (event : FileEvent)
  | started (file : String)

/-- What there is to remember of a step. -/
def moments (watcher : Watcher) : WatchStep → List Moment
  | .look => (watcher.queue.head?.map .taken).toList
  | .start => (watcher.due.map .started).toList
  | _ => []

/-- Steps that a watcher takes one after another, and what is remembered of them. -/
inductive Run (first : Watcher) : List WatchStep → List Moment → Watcher → Prop where
  | rest : Run first [] [] first
  | next {steps : List WatchStep} {history : List Moment} {before after : Watcher}
      {step : WatchStep}
      (run : Run first steps history before)
      (possible : before.step? step = some after) :
      Run first (steps ++ [step]) (history ++ before.moments step) after

/-- The ways to take a step. -/
inductive Stepped (watcher : Watcher) : WatchStep → List Moment → Watcher → Prop where
  | arrive (event : FileEvent) :
      Stepped watcher (.arrive event) [] { watcher with queue := watcher.queue ++ [event] }
  | change {event : FileEvent} {rest : List FileEvent}
      (idle : watcher.running = none) (queued : watcher.queue = event :: rest)
      (concerned : watcher.concerns event = true) :
      Stepped watcher .look [.taken event]
        { watcher with queue := rest, timer := some event.path }
  | other {event : FileEvent} {rest : List FileEvent}
      (idle : watcher.running = none) (queued : watcher.queue = event :: rest)
      (unconcerned : watcher.concerns event = false) :
      Stepped watcher .look [.taken event] { watcher with queue := rest }
  | expire {file : String} (armed : watcher.timer = some file) :
      Stepped watcher .expire [] ({ watcher with timer := none }.receive file)
  | lapse {file : String} (armed : watcher.timer = some file) :
      Stepped watcher .lapse [] { watcher with timer := none, late := watcher.late ++ [file] }
  | signal {index : Nat} {file : String} (sent : watcher.late[index]? = some file) :
      Stepped watcher (.signal index) []
        ({ watcher with late := watcher.late.eraseIdx index }.receive file)
  | start {file : String} (idle : watcher.running = none) (isDue : watcher.due = some file) :
      Stepped watcher .start [.started file] { watcher with due := none, running := some file }
  | finish {file : String} (failed : Bool) (isRunning : watcher.running = some file) :
      Stepped watcher (.finish failed) [] { watcher with running := none }

section Histories

variable {watcher first after : Watcher} {history moments : List Moment} {steps : List WatchStep}
  {step : WatchStep}

theorem stepped_of_step? (possible : watcher.step? step = some after) :
    Stepped watcher step (watcher.moments step) after := by
  cases step with
  | arrive event =>
    cases possible
    exact .arrive event
  | look =>
    cases idle : watcher.running with
    | some file => simp [step?, idle] at possible
    | none =>
      cases queued : watcher.queue with
      | nil => simp [step?, queued] at possible
      | cons event rest =>
        cases concerned : watcher.concerns event with
        | true =>
          simp only [step?, idle, queued, concerned, if_true, Option.some.injEq] at possible
          rw [moments, queued, ← possible, ← idle]
          exact .change idle queued concerned
        | false =>
          simp only [step?, idle, queued, concerned, Bool.false_eq_true, if_false,
            Option.some.injEq] at possible
          rw [moments, queued, ← possible, ← idle]
          exact .other idle queued concerned
  | expire =>
    obtain ⟨file, armed, rfl⟩ := Option.map_eq_some_iff.mp possible
    exact .expire armed
  | lapse =>
    obtain ⟨file, armed, rfl⟩ := Option.map_eq_some_iff.mp possible
    exact .lapse armed
  | signal index =>
    obtain ⟨file, sent, rfl⟩ := Option.map_eq_some_iff.mp possible
    exact .signal sent
  | start =>
    cases idle : watcher.running with
    | some file => simp [step?, idle] at possible
    | none =>
      cases isDue : watcher.due with
      | none => simp [step?, isDue] at possible
      | some file =>
        simp only [step?, idle, isDue, Option.some.injEq] at possible
        rw [moments, isDue, ← possible]
        exact .start idle isDue
  | finish failed =>
    obtain ⟨file, isRunning, rfl⟩ := Option.map_eq_some_iff.mp possible
    exact .finish failed isRunning

theorem Stepped.step? (stepped : Stepped watcher step moments after) :
    watcher.step? step = some after ∧ watcher.moments step = moments := by
  cases stepped with
  | arrive event => exact ⟨rfl, rfl⟩
  | change idle queued concerned => simp [Watcher.step?, Watcher.moments, idle, queued, concerned]
  | other idle queued unconcerned =>
    simp [Watcher.step?, Watcher.moments, idle, queued, unconcerned]
  | expire armed => simp [Watcher.step?, Watcher.moments, armed]
  | lapse armed => simp [Watcher.step?, Watcher.moments, armed]
  | signal sent => simp [Watcher.step?, Watcher.moments, sent]
  | start idle isDue => simp [Watcher.step?, Watcher.moments, idle, isDue]
  | finish failed isRunning => simp [Watcher.step?, Watcher.moments, isRunning]

theorem Run.andThen (run : Run first steps history watcher)
    (stepped : Stepped watcher step moments after) :
    Run first (steps ++ [step]) (history ++ moments) after := by
  obtain ⟨possible, rfl⟩ := stepped.step?
  exact run.next possible

/-- What holds at rest and is kept by every step holds after every run. -/
theorem Run.invariant (holds : List WatchStep → List Moment → Watcher → Prop)
    (atRest : holds [] [] first)
    (kept : ∀ {steps history before step moments after}, Run first steps history before →
      holds steps history before → Stepped before step moments after →
        holds (steps ++ [step]) (history ++ moments) after)
    (run : Run first steps history watcher) :
    holds steps history watcher := by
  induction run with
  | rest => exact atRest
  | next run possible ih => exact kept run ih (stepped_of_step? possible)

/-! ## Events in their order -/

theorem Stepped.concerns_eq (stepped : Stepped watcher step moments after) :
    after.concerns = watcher.concerns := by
  cases stepped <;> rfl

/-- A watcher does not change its mind about the files that it watches. -/
theorem Run.concerns_eq (run : Run first steps history watcher) :
    watcher.concerns = first.concerns :=
  run.invariant (fun _ _ reached => reached.concerns = first.concerns) rfl
    fun _ same stepped => stepped.concerns_eq.trans same

def arrivals (steps : List WatchStep) : List FileEvent :=
  steps.filterMap fun
    | .arrive event => some event
    | _ => none

def takings (history : List Moment) : List FileEvent :=
  history.filterMap fun
    | .taken event => some event
    | .started _ => none

/-- Events are taken in the order of their arrival, and none is left out. -/
theorem Run.arrivals_eq (fresh : first.queue = []) (run : Run first steps history watcher) :
    arrivals steps = takings history ++ watcher.queue := by
  refine run.invariant (fun steps history reached =>
    arrivals steps = takings history ++ reached.queue) ?_ ?_
  · exact fresh.symm
  · intro steps history before step moments after _ same stepped
    simp only [arrivals, takings] at same ⊢
    rw [List.filterMap_append, List.filterMap_append, same]
    cases stepped with
    | change _ queued | other _ queued => simp [queued]
    | _ => simp [receive]

/-! ## Signals to come -/

/-- The files of the signals that are to come or have come: of the armed timer, of those under way,
and of the one for which the callback is due. -/
def signals (watcher : Watcher) : List String :=
  watcher.timer.toList ++ watcher.late ++ watcher.due.toList

theorem signals_ne_nil :
    watcher.signals ≠ [] ↔
      watcher.timer ≠ none ∨ watcher.late ≠ [] ∨ watcher.due ≠ none := by
  simp only [signals, ne_eq, List.append_eq_nil_iff, Option.toList_eq_nil_iff, not_and_or, or_assoc]

theorem mem_signals {file : String} :
    file ∈ watcher.signals ↔
      watcher.timer = some file ∨ file ∈ watcher.late ∨ watcher.due = some file := by
  simp [signals]

/-- A signal that arrives adds at most its own file. -/
theorem mem_signals_receive {file sent : String}
    (isSignal : file ∈ (watcher.receive sent).signals) :
    file ∈ watcher.signals ∨ file = sent := by
  rw [mem_signals] at isSignal ⊢
  rcases isSignal with armed | late | isDue
  · exact Or.inl (Or.inl armed)
  · exact Or.inl (Or.inr (Or.inl late))
  · cases old : watcher.due with
    | none =>
      simp only [receive, old, Option.getD_none, Option.some.injEq] at isDue
      exact Or.inr isDue.symm
    | some other =>
      simp only [receive, old, Option.getD_some] at isDue
      exact Or.inl (Or.inr (Or.inr isDue))

/-- A change was taken after which the callback has not been started. -/
def Unanswered (first : Watcher) (history : List Moment) : Prop :=
  ∃ earlier event later, history = earlier ++ .taken event :: later ∧
    first.concerns event = true ∧ ∀ file, .started file ∉ later

theorem unanswered_append {moment : Moment} (unanswered : Unanswered first (history ++ [moment])) :
    (∃ event, moment = .taken event ∧ first.concerns event = true) ∨
      Unanswered first history ∧ ∀ file, moment ≠ .started file := by
  obtain ⟨earlier, event, later, split, concerned, unstarted⟩ := unanswered
  rcases List.eq_nil_or_concat later with rfl | ⟨between, last, rfl⟩
  · obtain ⟨-, same⟩ := List.append_inj' split rfl
    cases same
    exact Or.inl ⟨event, rfl, concerned⟩
  · rw [List.concat_eq_append] at split unstarted
    rw [← List.cons_append, ← List.append_assoc] at split
    obtain ⟨before, same⟩ := List.append_inj' split rfl
    cases same
    refine Or.inr ⟨⟨earlier, event, between, before, concerned, ?_⟩, ?_⟩
    · exact fun file isStarted => unstarted file (List.mem_append_left _ isStarted)
    · rintro file rfl
      exact unstarted file (List.mem_append_right _ List.mem_cons_self)

/-- As long as a change is unanswered, there is a signal for it. -/
theorem Run.signals_ne_nil (run : Run first steps history watcher) :
    Unanswered first history → watcher.signals ≠ [] := by
  refine run.invariant (fun _ history reached =>
    Unanswered first history → reached.signals ≠ []) ?_ ?_
  · rintro ⟨earlier, event, later, split, -⟩
    simp at split
  · intro steps history before step moments after run covered stepped unanswered
    cases stepped with
    | arrive | finish => exact covered (by simpa using unanswered)
    | change => simp [signals]
    | other idle queued unconcerned =>
      rcases unanswered_append unanswered with ⟨event, same, concerned⟩ | ⟨earlier, -⟩
      · cases same
        rw [run.concerns_eq, concerned] at unconcerned
        cases unconcerned
      · exact covered earlier
    | expire | signal | lapse => simp [signals, receive]
    | start idle isDue =>
      rcases unanswered_append unanswered with ⟨event, same, -⟩ | ⟨-, unstarted⟩
      · cases same
      · exact absurd rfl (unstarted _)

/-- Signals are under way only where a timer lapsed. -/
theorem Run.lapse_mem (fresh : first.late = []) (run : Run first steps history watcher) :
    watcher.late ≠ [] → .lapse ∈ steps := by
  refine run.invariant (fun steps _ reached => reached.late ≠ [] → .lapse ∈ steps) ?_ ?_
  · exact absurd fresh
  · intro steps history before step moments after _ lapsed stepped late
    cases stepped with
    | lapse => simp
    | signal sent =>
      refine List.mem_append_left _ (lapsed ?_)
      rintro none
      simp [none] at sent
    | _ => exact List.mem_append_left _ (lapsed late)

/-! ## Callbacks and their changes -/

def starts (history : List Moment) : List String :=
  history.filterMap fun
    | .started file => some file
    | .taken _ => none

/-- Every signal, and every callback, has a change of its own. -/
theorem Run.length_starts_add (fresh : first.signals = []) (run : Run first steps history watcher) :
    (starts history).length + watcher.signals.length ≤
      (takings history).countP first.concerns := by
  refine run.invariant (fun _ history reached =>
    (starts history).length + reached.signals.length ≤
      (takings history).countP first.concerns) ?_ ?_
  · simp [fresh, starts, takings]
  · intro steps history before step moments after run fewer stepped
    simp only [starts, takings] at fewer ⊢
    rw [List.filterMap_append, List.filterMap_append, List.length_append, List.countP_append]
    cases stepped with
    | arrive | finish => simpa [signals] using fewer
    | change idle queued concerned =>
      rw [run.concerns_eq] at concerned
      simp [signals, concerned] at fewer ⊢
      omega
    | other idle queued unconcerned =>
      rw [run.concerns_eq] at unconcerned
      simpa [signals, unconcerned] using fewer
    | expire armed =>
      simp [signals, receive, armed] at fewer ⊢
      omega
    | lapse armed =>
      simp [signals, armed] at fewer ⊢
      omega
    | signal sent =>
      obtain ⟨within, -⟩ := List.getElem?_eq_some_iff.mp sent
      simp [signals, receive, List.length_eraseIdx, within] at fewer ⊢
      omega
    | start idle isDue =>
      simp [signals, isDue] at fewer ⊢
      omega

def Changed (first : Watcher) (history : List Moment) (file : String) : Prop :=
  ∃ event, .taken event ∈ history ∧ first.concerns event = true ∧ event.path = file

/-- A signal after a step was there before, or comes from a change that the step took. -/
theorem Stepped.mem_signals {file : String} (stepped : Stepped watcher step moments after)
    (isSignal : file ∈ after.signals) :
    file ∈ watcher.signals ∨ Changed watcher moments file := by
  cases stepped with
  | arrive | finish | other => exact Or.inl isSignal
  | @change event rest idle queued concerned =>
    rw [Watcher.mem_signals] at isSignal ⊢
    rcases isSignal with armed | old
    · exact Or.inr ⟨event, List.mem_cons_self, concerned, Option.some.inj armed⟩
    · exact Or.inl (Or.inr old)
  | expire armed =>
    left
    rw [Watcher.mem_signals]
    rcases mem_signals_receive isSignal with old | rfl
    · rcases Watcher.mem_signals.mp old with disarmed | others
      · cases disarmed
      · exact Or.inr others
    · exact Or.inl armed
  | lapse armed =>
    left
    rw [Watcher.mem_signals] at isSignal ⊢
    rcases isSignal with disarmed | late | isDue
    · cases disarmed
    · rcases List.mem_append.mp late with old | new
      · exact Or.inr (Or.inl old)
      · rw [List.mem_singleton.mp new]
        exact Or.inl armed
    · exact Or.inr (Or.inr isDue)
  | signal sent =>
    left
    rw [Watcher.mem_signals]
    rcases mem_signals_receive isSignal with old | rfl
    · rcases Watcher.mem_signals.mp old with armed | late | isDue
      · exact Or.inl armed
      · exact Or.inr (Or.inl (List.mem_of_mem_eraseIdx late))
      · exact Or.inr (Or.inr isDue)
    · exact Or.inr (Or.inl (List.mem_of_getElem? sent))
  | start idle isDue =>
    left
    rw [Watcher.mem_signals] at isSignal ⊢
    rcases isSignal with armed | late | emptied
    · exact Or.inl armed
    · exact Or.inr (Or.inl late)
    · cases emptied

/-- A signal is for a file of which a change was taken. -/
theorem Run.changed_of_signal (fresh : first.signals = []) (run : Run first steps history watcher) :
    ∀ file ∈ watcher.signals, Changed first history file := by
  refine run.invariant (fun _ history reached =>
    ∀ file ∈ reached.signals, Changed first history file) ?_ ?_
  · simp [fresh]
  · intro steps history before step moments after run earlier stepped file isSignal
    rcases stepped.mem_signals isSignal with old | ⟨event, isTaken, concerned, ofFile⟩
    · obtain ⟨event, isTaken, concerned⟩ := earlier file old
      exact ⟨event, List.mem_append_left _ isTaken, concerned⟩
    · rw [run.concerns_eq] at concerned
      exact ⟨event, List.mem_append_right _ isTaken, concerned, ofFile⟩

/-- The callback is started for a file of which a change was taken before. -/
theorem Run.changed_of_start (fresh : first.signals = []) (run : Run first steps history watcher) :
    ∀ earlier file later, history = earlier ++ .started file :: later →
      Changed first earlier file := by
  refine run.invariant (fun _ history _ =>
    ∀ earlier file later, history = earlier ++ .started file :: later →
      Changed first earlier file) ?_ ?_
  · simp
  · intro steps history before step moments after run known stepped earlier file later split
    rcases List.eq_nil_or_concat later with rfl | ⟨between, last, rfl⟩
    · -- The callback is started by the last step, which needs it to be due.
      cases stepped with
      | start idle isDue =>
        obtain ⟨rfl, same⟩ := List.append_inj' split rfl
        cases same
        exact run.changed_of_signal fresh _ (mem_signals.mpr (Or.inr (Or.inr isDue)))
      | change | other =>
        obtain ⟨-, same⟩ := List.append_inj' split rfl
        cases same
      | _ => exact known earlier file [] (by simpa using split)
    · rw [List.concat_eq_append, ← List.cons_append, ← List.append_assoc] at split
      cases stepped with
      | start | change | other =>
        exact known earlier file between (List.append_inj' split rfl).1
      | _ => exact known earlier file (between ++ [last]) (by simpa using split)

/-! ## Other events -/

/-- The watcher without the events that do not concern it. -/
def focused (watcher : Watcher) : Watcher :=
  { watcher with queue := watcher.queue.filter watcher.concerns }

/-- Whether a moment is more than the taking of an event that does not concern the watcher. -/
def Moment.matters (watcher : Watcher) : Moment → Bool
  | .taken event => watcher.concerns event
  | .started _ => true

/-- A step goes on as well without the events that do not concern the watcher, or it was only about
such an event. -/
theorem Stepped.focused (stepped : Stepped watcher step moments after) :
    (Stepped watcher.focused step (moments.filter (Moment.matters watcher)) after.focused ∧
        ∀ event, step = .arrive event → watcher.concerns event = true) ∨
      moments.filter (Moment.matters watcher) = [] ∧ after.focused = watcher.focused := by
  cases stepped with
  | arrive event =>
    have queue : (watcher.queue ++ [event]).filter watcher.concerns =
        watcher.focused.queue ++ [event].filter watcher.concerns :=
      List.filter_append ..
    cases concerned : watcher.concerns event with
    | true =>
      rw [List.filter_cons_of_pos concerned, List.filter_nil] at queue
      refine Or.inl ⟨?_, fun other same => WatchStep.arrive.inj same ▸ concerned⟩
      show Stepped watcher.focused (.arrive event) []
        { watcher with queue := (watcher.queue ++ [event]).filter watcher.concerns }
      rw [queue]
      exact .arrive event
    | false =>
      rw [List.filter_cons_of_neg (by simp [concerned]), List.filter_nil,
        List.append_nil] at queue
      refine Or.inr ⟨rfl, ?_⟩
      show { watcher with queue := (watcher.queue ++ [event]).filter watcher.concerns } =
        watcher.focused
      rw [queue]
      rfl
  | @change event rest idle queued concerned =>
    have queue : watcher.focused.queue = event :: rest.filter watcher.concerns := by
      rw [Watcher.focused, queued, List.filter_cons_of_pos concerned]
    have kept : [Moment.taken event].filter (Moment.matters watcher) = [.taken event] := by
      simp [Moment.matters, concerned]
    rw [kept]
    exact Or.inl ⟨.change idle queue concerned, by simp⟩
  | @other event rest idle queued unconcerned =>
    refine Or.inr ⟨?_, ?_⟩
    · simp [Moment.matters, unconcerned]
    · show { watcher with queue := rest.filter watcher.concerns } = watcher.focused
      rw [Watcher.focused, queued, List.filter_cons_of_neg (by simp [unconcerned])]
  | expire armed => exact Or.inl ⟨.expire armed, by simp⟩
  | lapse armed => exact Or.inl ⟨.lapse armed, by simp⟩
  | signal sent => exact Or.inl ⟨.signal sent, by simp⟩
  | start idle isDue => exact Or.inl ⟨.start idle isDue, by simp⟩
  | finish failed isRunning => exact Or.inl ⟨.finish failed isRunning, by simp⟩

/-- Without the events that do not concern a watcher it takes the same changes and starts the same
callbacks. -/
theorem Run.focused (fresh : first.queue = []) (run : Run first steps history watcher) :
    ∃ fewer, (∀ event, .arrive event ∈ fewer → first.concerns event = true) ∧
      Run first fewer (history.filter (Moment.matters first)) watcher.focused := by
  refine run.invariant (fun _ history reached =>
    ∃ fewer, (∀ event, .arrive event ∈ fewer → first.concerns event = true) ∧
      Run first fewer (history.filter (Moment.matters first)) reached.focused) ?_ ?_
  · have same : first.focused = first := by
      simp only [Watcher.focused, fresh, List.filter_nil]
      rw [← fresh]
    refine ⟨[], by simp, ?_⟩
    rw [same]
    exact .rest
  · rintro steps history before step moments after run ⟨fewer, concerned, focused⟩ stepped
    have matters : Moment.matters before = Moment.matters first := by
      funext moment
      cases moment with
      | taken event => exact congrFun run.concerns_eq event
      | started file => rfl
    have withoutOthers := stepped.focused
    rw [matters, run.concerns_eq] at withoutOthers
    rw [List.filter_append]
    rcases withoutOthers with ⟨goesOn, ofArrival⟩ | ⟨nothing, same⟩
    · refine ⟨fewer ++ [step], ?_, focused.andThen goesOn⟩
      intro event isArrival
      rcases List.mem_append.mp isArrival with old | new
      · exact concerned event old
      · exact ofArrival event (List.mem_singleton.mp new).symm
    · rw [nothing, List.append_nil, same]
      exact ⟨fewer, concerned, focused⟩

/-! ## All together -/

/-- Nothing has happened to a watcher. -/
structure Fresh (watcher : Watcher) : Prop where
  queue : watcher.queue = []
  signals : watcher.signals = []

theorem fresh_ofFiles {tree : FileTree} {directory : String} {files : List String}
    (made : ofFiles tree directory files = .ok watcher) :
    Fresh watcher := by
  simp only [ofFiles, bind, Except.bind, pure, Except.pure] at made
  split at made
  · cases made
  · cases made
    exact ⟨rfl, rfl⟩

/-- However events, signals and callbacks are interleaved, no change is lost.  Events are taken in
the order of their arrival.  As long as a change that was taken is not followed by a callback, the
timer is armed, or its signal is under way because it lapsed, or the callback is due; so where
nothing is left to come, a callback was started after every change.  There are never more callbacks
than changes, every callback is for a file that changed before, and events that do not concern the
watcher make no difference. -/
theorem changes_not_lost
    {steps : List WatchStep} {history : List Moment}
    (fresh : Fresh first)
    (run : Run first steps history watcher) :
    arrivals steps = takings history ++ watcher.queue ∧
      (∀ earlier event later, history = earlier ++ .taken event :: later →
        first.concerns event = true → (∀ file, .started file ∉ later) →
          watcher.timer ≠ none ∨ watcher.late ≠ [] ∨ watcher.due ≠ none) ∧
      (watcher.late ≠ [] → .lapse ∈ steps) ∧
      (watcher.timer = none → watcher.late = [] → watcher.due = none →
        ∀ earlier event later, history = earlier ++ .taken event :: later →
          first.concerns event = true → ∃ file, .started file ∈ later) ∧
      (starts history).length ≤ (takings history).countP first.concerns ∧
      (∀ earlier file later, history = earlier ++ .started file :: later →
        ∃ event, .taken event ∈ earlier ∧ first.concerns event = true ∧ event.path = file) ∧
      ∃ fewer, (∀ event, .arrive event ∈ fewer → first.concerns event = true) ∧
        Run first fewer (history.filter (Moment.matters first)) watcher.focused := by
  have covered (earlier : List Moment) (event : FileEvent) (later : List Moment)
      (split : history = earlier ++ .taken event :: later)
      (concerned : first.concerns event = true) (unstarted : ∀ file, .started file ∉ later) :
      watcher.timer ≠ none ∨ watcher.late ≠ [] ∨ watcher.due ≠ none :=
    signals_ne_nil.mp
      (run.signals_ne_nil ⟨earlier, event, later, split, concerned, unstarted⟩)
  have late : first.late = [] := by
    by_contra late
    exact signals_ne_nil.mpr (Or.inr (Or.inl late)) fresh.signals
  refine ⟨run.arrivals_eq fresh.queue, covered, run.lapse_mem late, ?_, ?_,
    run.changed_of_start fresh.signals, run.focused fresh.queue⟩
  · intro disarmed arrived notDue earlier event later split concerned
    by_contra unstarted
    rcases covered earlier event later split concerned (not_exists.mp unstarted) with
      armed | underway | isDue
    · exact armed disarmed
    · exact underway arrived
    · exact isDue notDue
  · exact Nat.le_trans (Nat.le_add_right _ _) (run.length_starts_add fresh.signals)

/-- Take steps one after another, remembering what matters of each. -/
def follow (watcher : Watcher) : List WatchStep → Option (List Moment × Watcher)
  | [] => some ([], watcher)
  | step :: rest => do
    let after ← watcher.step? step
    let (history, last) ← after.follow rest
    return (watcher.moments step ++ history, last)

theorem Run.follow {more : List WatchStep} {later : List Moment} {last : Watcher}
    (run : Run first steps history watcher) (followed : watcher.follow more = some (later, last)) :
    Run first (steps ++ more) (history ++ later) last := by
  induction more generalizing steps history later watcher with
  | nil =>
    cases followed
    simpa using run
  | cons step rest ih =>
    simp only [Watcher.follow, Option.bind_eq_bind, Option.bind_eq_some_iff] at followed
    obtain ⟨after, possible, ⟨behind, reached⟩, goesOn, same⟩ := followed
    cases same
    simpa using ih (run.next possible) goesOn

end Histories

/-! A burst of changes during which a timer lapses, its signal comes after the next change, and the
next signal is dropped; a further change comes while the callback runs, which then fails. -/

namespace Burst

def write : FileEvent := ⟨"/work/model.json", .write⟩

def steps : List WatchStep :=
  [.arrive write, .arrive ⟨"/work/notes.txt", .write⟩, .arrive write, .look, .lapse, .look, .look,
    .signal 0, .expire, .start, .arrive write, .finish true, .look, .expire, .start, .finish false]

def initial : Watcher where
  files := ["/work/model.json"]
  directories := ["/work"]

def history : List Moment :=
  [.taken write, .taken ⟨"/work/notes.txt", .write⟩, .taken write, .started "/work/model.json",
    .taken write, .started "/work/model.json"]

end Burst

open Burst in
theorem changes_not_lost_burst :
    ofFiles {} "/work" ["model.json"] = .ok initial ∧ Run initial steps history initial ∧
      (∀ earlier event later, history = earlier ++ .taken event :: later →
        initial.concerns event = true → ∃ file, .started file ∈ later) ∧
      (starts history).length ≤ (takings history).countP initial.concerns ∧
      ∃ fewer, (∀ event, .arrive event ∈ fewer → initial.concerns event = true) ∧
        Run initial fewer (history.filter (Moment.matters initial)) initial := by
  have made : ofFiles {} "/work" ["model.json"] = .ok initial := rfl
  have run : Run initial steps history initial := Run.rest.follow rfl
  obtain ⟨-, -, -, answered, fewer, -, focused⟩ := changes_not_lost (fresh_ofFiles made) run
  exact ⟨made, run, answered rfl rfl rfl, fewer, focused⟩

end ShapeForge.Watcher
