/-
  Pageflow.Proofs.Traffic — errands that overlap.

  While an errand waits for an answer, a host may send others, answer any of those under way, give
  one up, or change what it lends.  Seen from the process little can happen: an errand is refused,
  visits a free service and leaves again, departs and stays under way, goes on, or arrives.  So at
  any moment the services that run are those that errands under way are addressed to, and no two
  of these are addressed to the same service.  (Starting up is a number of errands, one after the
  other, so it is no errand itself.)

  Main definitions: `Traffic`, `Traffic.Next`, `Traffic.Move` and `Traffic.Sound`.
  Main statements: `next_move`, `sound_of_reaches` and `flights_of_reaches`.
-/
import Pageflow.Proofs.Errands
import Pageflow.Proofs.Requirements

namespace Pageflow.Run

open Pageflow.Flow (IsBuilt Materials Orderly assemble? isBuilt_getD)

/-! ## §1. Traffic. -/

/-- An errand under way: it waits for an answer. -/
structure Flight where
  service : String
  query : Query
  resume : query.Answer → State → Task State (Except HostError Json)

/-- A process and the errands under way. -/
structure Traffic where
  state : State
  flights : List Flight := []

namespace Traffic

/-- The services that errands under way are addressed to. -/
def busy (v : Traffic) : List String := v.flights.map Flight.service

/-- Before any errand is sent. -/
def opening (flow : Flow) : Traffic := { state := initial flow }

/-- The traffic after a stretch of an errand, with the others under way. -/
def after (others : List Flight) (service : String) :
    Task State (Except HostError Json) → Option Traffic
  | .done _ s => some ⟨s, others⟩
  | .endless => none
  | .ask query s resume => some ⟨s, ⟨service, query, resume⟩ :: others⟩

/-- What may happen next, and which service the errand is addressed to that does it. -/
inductive Next (flow : Flow) : Option String → Traffic → Traffic → Prop
  /-- An errand is sent. -/
  | begin {v w : Traffic} (e : Errand)
      (h : after v.flights e.service (e.run flow v.state) = some w) :
      Next flow (some e.service) v w
  /-- One under way gets its answer. -/
  | answer {v w : Traffic} {before behind : List Flight} {f : Flight}
      (hf : v.flights = before ++ f :: behind) (answer : f.query.Answer)
      (h : after (before ++ behind) f.service (f.resume answer v.state) = some w) :
      Next flow (some f.service) v w
  /-- One under way is given up, and its service is free again. -/
  | abandon {v : Traffic} {before behind : List Flight} {f : Flight}
      (hf : v.flights = before ++ f :: behind) :
      Next flow (some f.service) v ⟨v.state.release f.service, before ++ behind⟩
  /-- The host lends something else. -/
  | lend (query : Dict String) (values : Dict (Dict Json)) (files : Dict (Dict String))
      (listener : Listener) (v : Traffic) :
      Next flow none v ⟨{ v.state with query, values, files, listener }, v.flights⟩

/-- Anything that may happen, time after time. -/
abbrev Reaches (flow : Flow) : Traffic → Traffic → Prop :=
  Relation.ReflTransGen fun v w => ∃ who, Next flow who v w

variable {flow : Flow} {v w : Traffic} {who : Option String}

/-! ## §2. What holds of every flight. -/

/-- What holds of all flights holds of any one of them, and of the others. -/
theorem forall_parted {F : Flight → Prop} {flights before behind : List Flight} {f : Flight}
    (hf : flights = before ++ f :: behind) (h : ∀ g ∈ flights, F g) :
    F f ∧ ∀ g ∈ before ++ behind, F g := by
  subst hf
  refine ⟨h f (List.mem_append_right _ List.mem_cons_self), ?_⟩
  intro g hg
  rcases List.mem_append.mp hg with hg | hg
  · exact h g (List.mem_append_left _ hg)
  · exact h g (List.mem_append_right _ (List.mem_cons_of_mem _ hg))

/-- **What holds of every errand when it first waits, and from one wait to the next, holds of all
errands under way.** -/
theorem flights_of_next {F : Flight → Prop}
    (start : ∀ e s q t k, Errand.run flow e s = .ask q t k → F ⟨e.service, q, k⟩)
    (onward : ∀ f answer s q t k, F f → f.resume answer s = .ask q t k → F ⟨f.service, q, k⟩)
    (hv : ∀ f ∈ v.flights, F f) (h : Next flow who v w) : ∀ f ∈ w.flights, F f := by
  -- the flights are those that were, without the one that acted, or with it where it waits now
  have arrived : ∀ {task : Task State (Except HostError Json)} {rest : List Flight}
      {service : String}, after rest service task = some w → (∀ g ∈ rest, F g) →
      (∀ q t k, task = .ask q t k → F ⟨service, q, k⟩) → ∀ f ∈ w.flights, F f := by
    intro task rest service h hrest hask
    cases task with
    | done _ s =>
      obtain rfl := Option.some.inj h
      exact hrest
    | endless => contradiction
    | ask q s k =>
      obtain rfl := Option.some.inj h
      exact List.forall_mem_cons.mpr ⟨hask q s k rfl, hrest⟩
  cases h with
  | begin e h => exact arrived h hv fun q t k => start e v.state q t k
  | @answer _ _ _ _ f hf answer h =>
    obtain ⟨own, rest⟩ := forall_parted hf hv
    exact arrived h rest fun q t k => onward f answer v.state q t k own
  | abandon hf => exact (forall_parted hf hv).2
  | lend => exact hv

theorem flights_of_reaches {F : Flight → Prop}
    (start : ∀ e s q t k, Errand.run flow e s = .ask q t k → F ⟨e.service, q, k⟩)
    (onward : ∀ f answer s q t k, F f → f.resume answer s = .ask q t k → F ⟨f.service, q, k⟩)
    (hv : ∀ f ∈ v.flights, F f) (h : Reaches flow v w) : ∀ f ∈ w.flights, F f := by
  induction h with
  | refl => exact hv
  | tail _ next ih =>
    obtain ⟨_, next⟩ := next
    exact flights_of_next start onward ih next

/-! ## §3. Moves. -/

/-- The states differ at most in what the host lends and in what is shown. -/
def Idle (s t : State) : Prop :=
  t = { s with
    query := t.query
    values := t.values
    files := t.files
    listener := t.listener
    displays := t.displays }

/-- What happens next, seen from the process. -/
inductive Move (flow : Flow) : Option String → Traffic → Traffic → Prop
  /-- An errand is refused, or the host lends something. -/
  | idle {who : Option String} {v : Traffic} {t : State} (h : Idle v.state t) :
      Move flow who v ⟨t, v.flights⟩
  /-- An errand is let in, and ends at once. -/
  | visit {v : Traffic} {t : State} {service name : String}
      (known : (flow.service? service).isSome = true) (free : v.state.running? service = none)
      (h : Finished flow service (v.state.occupy service name) t) :
      Move flow (some service) v ⟨t, v.flights⟩
  /-- An errand is let in, and waits. -/
  | depart {v : Traffic} {t : State} {f : Flight} {name : String}
      (known : (flow.service? f.service).isSome = true)
      (free : v.state.running? f.service = none)
      (h : Held flow f.service (v.state.occupy f.service name) t) :
      Move flow (some f.service) v ⟨t, f :: v.flights⟩
  /-- An errand under way goes on, and waits again. -/
  | proceed {v : Traffic} {t : State} {before behind : List Flight} {f g : Flight}
      (hf : v.flights = before ++ f :: behind) (same : g.service = f.service)
      (h : Held flow f.service v.state t) :
      Move flow (some f.service) v ⟨t, g :: (before ++ behind)⟩
  /-- An errand under way ends, or is given up. -/
  | arrive {v : Traffic} {t : State} {before behind : List Flight} {f : Flight}
      (hf : v.flights = before ++ f :: behind) (h : Finished flow f.service v.state t) :
      Move flow (some f.service) v ⟨t, before ++ behind⟩

/-- The errand will go on while its service is held, and then release it. -/
def Proceeds (flow : Flow) (f : Flight) : Prop :=
  ∀ answer s, (f.resume answer s).Passes (Held flow f.service) (Finished flow f.service) s

theorem idle_told (e : Errand) (failure : HostError) (s : State) : Idle s (e.told failure s) := by
  cases e <;> rfl

theorem proceeds_of_run (ho : Orderly flow) {e : Errand} {s t : State} {q : Query}
    {k : q.Answer → State → Task State (Except HostError Json)}
    (h : e.run flow s = .ask q t k) : Proceeds flow ⟨e.service, q, k⟩ := by
  cases hw : e.work? flow with
  | error failure =>
    rw [Errand.run_of_unknown hw] at h
    contradiction
  | ok found =>
    obtain ⟨name, work⟩ := found
    cases hs : s.running? e.service with
    | some other =>
      rw [Errand.run_of_busy hw hs] at h
      contradiction
    | none =>
      have passes := e.passes ho hw hs
      rw [h] at passes
      exact passes.2

theorem proceeds_of_resume {f : Flight} {s t : State} {answer : f.query.Answer} {q : Query}
    {k : q.Answer → State → Task State (Except HostError Json)} (hf : Proceeds flow f)
    (h : f.resume answer s = .ask q t k) : Proceeds flow ⟨f.service, q, k⟩ := by
  have passes := hf answer s
  rw [h] at passes
  exact passes.2

/-- **Whatever happens next is a move.** -/
theorem next_move (ho : Orderly flow) (hv : ∀ f ∈ v.flights, Proceeds flow f)
    (h : Next flow who v w) : Move flow who v w := by
  cases h with
  | begin e h =>
    cases hw : e.work? flow with
    | error failure =>
      rw [Errand.run_of_unknown hw] at h
      obtain rfl := Option.some.inj h
      exact .idle (idle_told e failure _)
    | ok found =>
      obtain ⟨name, work⟩ := found
      have known := Errand.isSome_service?_of_work? hw
      cases hs : v.state.running? e.service with
      | some other =>
        rw [Errand.run_of_busy hw hs] at h
        obtain rfl := Option.some.inj h
        exact .idle (idle_told e _ _)
      | none =>
        -- it is let in, and has ended, or waits for its first answer
        have passes := e.passes ho hw hs
        cases ht : e.run flow v.state with
        | done outcome t =>
          rw [ht] at h passes
          obtain rfl := Option.some.inj h
          exact .visit known hs passes
        | endless =>
          rw [ht] at h
          contradiction
        | ask q t k =>
          rw [ht] at h passes
          obtain rfl := Option.some.inj h
          exact .depart (f := ⟨e.service, q, k⟩) known hs passes.1
  | @answer _ _ _ _ f hf answer h =>
    have passes : (f.resume answer v.state).Passes _ _ _ :=
      hv f (hf ▸ List.mem_append_right _ List.mem_cons_self) answer v.state
    cases ht : f.resume answer v.state with
    | done outcome t =>
      rw [ht] at h passes
      obtain rfl := Option.some.inj h
      exact .arrive hf passes
    | endless =>
      rw [ht] at h
      contradiction
    | ask q t k =>
      rw [ht] at h passes
      obtain rfl := Option.some.inj h
      exact .proceed (g := ⟨f.service, q, k⟩) hf rfl passes.1
  | abandon hf => exact .arrive hf ⟨v.state, .refl, .inl rfl⟩
  | lend => exact .idle rfl

/-! ## §4. Which services run. -/

/-- These services run, each listed once, and no others. -/
structure Occupied (s : State) (names : List String) : Prop where
  nodup : names.Nodup
  running : ∀ name, (s.running? name).isSome = true ↔ name ∈ names

namespace Occupied

variable {s t : State} {names rest : List String} {service name : String}

theorem congr (h : Occupied s names) (same : t.runs = s.runs) : Occupied t names where
  nodup := h.nodup
  running other := by
    rw [State.running?_congr same]
    exact h.running other

theorem perm (h : Occupied s names) (hp : names.Perm rest) : Occupied s rest where
  nodup := hp.nodup h.nodup
  running other := (h.running other).trans hp.mem_iff

theorem occupy (h : Occupied s names) (known : (s.service? service).isSome = true)
    (free : s.running? service = none) : Occupied (s.occupy service name) (service :: names) where
  nodup := by
    refine List.nodup_cons.mpr ⟨?_, h.nodup⟩
    rw [← h.running, free]
    simp
  running other := by
    rw [State.running?_occupy known, List.mem_cons, ← h.running]
    split
    next ho => simp [ho]
    next ho => simp [ho]

theorem release (h : Occupied s (service :: rest)) : Occupied (s.release service) rest where
  nodup := (List.nodup_cons.mp h.nodup).2
  running other := by
    have absent := (List.nodup_cons.mp h.nodup).1
    rw [State.running?_release]
    split
    next ho => simp [ho, absent]
    next ho =>
      rw [h.running, List.mem_cons]
      simp [ho]

end Occupied

/-- What is true of all traffic of a flow. -/
structure Sound (flow : Flow) (v : Traffic) : Prop where
  /-- The services of the state are those of the flow. -/
  known : ∀ name, (v.state.service? name).isSome = (flow.service? name).isSome
  /-- The services that run are those that errands under way are addressed to. -/
  occupied : Occupied v.state v.busy
  proceeds : ∀ f ∈ v.flights, Proceeds flow f
  /-- With nothing under way the store of the run is empty. -/
  rested : v.flights = [] → v.state.scratch.values = []

/-- Any errand under way may be listed first. -/
theorem busy_perm {before behind : List Flight} {f : Flight}
    (hf : v.flights = before ++ f :: behind) :
    v.busy.Perm (f.service :: (before ++ behind).map Flight.service) := by
  rw [busy, hf]
  exact List.perm_middle.map Flight.service

theorem sound_opening (flow : Flow) : Sound flow (opening flow) where
  known name := by
    unfold opening initial State.service? Flow.service?
    split <;> simp
  occupied := by
    refine ⟨List.nodup_nil, fun name => ?_⟩
    show ((initial flow).running? name).isSome = true ↔ name ∈ []
    simp [running?_initial]
  proceeds := by
    intro f hf
    exact absurd hf (List.not_mem_nil)
  rested _ := rfl

theorem runs_of_finished {s t : State} {service : String} (h : Finished flow service s t) :
    ∃ u : State, u.runs = s.runs ∧ t.runs = (u.release service).runs ∧ t.scratch.values = [] := by
  obtain ⟨u, held, rfl | ⟨message, rfl⟩⟩ := h
  · exact ⟨u, runs_held held, rfl, rfl⟩
  · exact ⟨u, runs_held held, rfl, rfl⟩

/-- **Traffic stays sound, whatever happens next.** -/
theorem sound_of_next (ho : Orderly flow) (hv : Sound flow v) (next : Next flow who v w) :
    Sound flow w := by
  have proceeds : ∀ f ∈ w.flights, Proceeds flow f :=
    flights_of_next (fun _ _ _ _ _ => proceeds_of_run ho) (fun _ _ _ _ _ _ => proceeds_of_resume)
      hv.proceeds next
  cases next_move ho hv.proceeds next with
  | @idle _ _ t h =>
    have runs : t.runs = v.state.runs := by rw [h]; rfl
    have scratch : t.scratch = v.state.scratch := by rw [h]
    refine ⟨?_, hv.occupied.congr runs, proceeds, ?_⟩
    · exact fun name => (State.isSome_service?_congr runs name).trans (hv.known name)
    · intro hf
      rw [scratch]
      exact hv.rested hf
  | @visit _ t service name known free h =>
    -- the service was free, and is free again
    obtain ⟨u, hu, ht, empty⟩ := runs_of_finished h
    have runs : t.runs = v.state.runs := ht.trans (State.runs_release free hu)
    refine ⟨?_, hv.occupied.congr runs, proceeds, fun _ => empty⟩
    exact fun name => (State.isSome_service?_congr runs name).trans (hv.known name)
  | @depart _ t f name known free h =>
    have runs := runs_held h
    have here : (v.state.service? f.service).isSome = true := (hv.known _).trans known
    refine ⟨?_, (hv.occupied.occupy here free).congr runs, proceeds, ?_⟩
    · intro other
      rw [State.isSome_service?_congr runs, ← hv.known]
      exact State.isSome_service?_setRunning ..
    · intro hf
      contradiction
  | @proceed _ t before behind f g hf same h =>
    have runs := runs_held h
    refine ⟨?_, (hv.occupied.congr runs).perm ?_, proceeds, ?_⟩
    · exact fun name => (State.isSome_service?_congr runs name).trans (hv.known name)
    · show v.busy.Perm (g.service :: (before ++ behind).map Flight.service)
      rw [same]
      exact busy_perm hf
    · intro hf
      contradiction
  | @arrive _ t before behind f hf h =>
    obtain ⟨u, hu, ht, empty⟩ := runs_of_finished h
    refine ⟨?_, (((hv.occupied.perm (busy_perm hf)).congr hu).release).congr ht, proceeds,
      fun _ => empty⟩
    intro name
    rw [State.isSome_service?_congr ht, ← hv.known, ← State.isSome_service?_congr hu]
    exact State.isSome_service?_setRunning ..

/-- **All traffic of a flow is sound.** -/
theorem sound_of_reaches (ho : Orderly flow) (hv : Sound flow v) (h : Reaches flow v w) :
    Sound flow w := by
  induction h with
  | refl => exact hv
  | tail _ next ih =>
    obtain ⟨_, next⟩ := next
    exact sound_of_next ho ih next

/-- **While an errand is under way, whatever is sent to the same service is refused.** -/
theorem refused (ho : Orderly flow) (hv : Sound flow v) {e : Errand} (hk : e.IsKnown flow)
    (busy : e.service ∈ v.busy) :
    e.run flow v.state = .done e.rejected (e.told (.alreadyRunning e.service) v.state) := by
  obtain ⟨name, work, hw⟩ := Errand.work?_of_isKnown ho hk
  obtain ⟨other, hother⟩ := Option.isSome_iff_exists.mp ((hv.occupied.running _).mpr busy)
  exact Errand.run_of_busy hw hother

/-! ## §5. Traffic, one errand at a time. -/

/-- The traffic after an errand is sent. -/
def send (flow : Flow) (e : Errand) (v : Traffic) : Option Traffic :=
  after v.flights e.service (e.run flow v.state)

/-- The traffic after an answer to the errand that was the last to act. -/
def reply (environment : Task.Environment Unit) (v : Traffic) : Option Traffic :=
  match v.flights with
  | [] => none
  | f :: others => after others f.service (f.resume (environment f.query ()).1 v.state)

/-- The traffic after some acts: an errand is sent, or else the last to act is answered. -/
def acted (flow : Flow) (environment : Task.Environment Unit) :
    List (Option Errand) → Traffic → Option Traffic
  | [], v => some v
  | some e :: acts, v => (send flow e v).bind (acted flow environment acts)
  | none :: acts, v => (reply environment v).bind (acted flow environment acts)

theorem next_of_send {e : Errand} (h : send flow e v = some w) : Next flow (some e.service) v w :=
  .begin e h

theorem next_of_reply {environment : Task.Environment Unit} (h : reply environment v = some w) :
    Next flow v.busy.head? v w := by
  unfold reply at h
  cases hf : v.flights with
  | nil =>
    rw [hf] at h
    contradiction
  | cons f others =>
    rw [hf] at h
    have last : v.busy.head? = some f.service := by simp [busy, hf]
    rw [last]
    have first : v.flights = [] ++ f :: others := hf
    exact .answer first _ h

theorem reaches_of_acted {environment : Task.Environment Unit} :
    ∀ {acts : List (Option Errand)} {v : Traffic}, acted flow environment acts v = some w →
      Reaches flow v w
  | [], v, h => by
      obtain rfl := Option.some.inj h
      exact .refl
  | some e :: acts, v, h => by
      obtain ⟨u, hu, h⟩ := Option.bind_eq_some_iff.mp h
      exact .head ⟨_, next_of_send hu⟩ (reaches_of_acted h)
  | none :: acts, v, h => by
      obtain ⟨u, hu, h⟩ := Option.bind_eq_some_iff.mp h
      exact .head ⟨_, next_of_reply hu⟩ (reaches_of_acted h)

/-! ## §6. A market. -/

/-- A market with a shop and a bank.  The shop counts its stock: it keeps the result for the run,
waits, and looks at it again.  The bank looks at what the run has kept, and reports to the
process.  The process has the shop loaded. -/
def marketProcess : Document.Process where
  services := [
    ("shop",
      { activities := [
          ("count",
            { moduleFunction := some "count"
              storeResult := some { scope := .activity, key := "tally" }
              subActivities := [("pause",
                { moduleFunction := some "wait"
                  subActivities := [("review",
                    { moduleFunction := some "echo"
                      parameters := [("value",
                        { store := some { scope := .activity, key := "tally" } })] })] })] }),
          ("load",
            { moduleFunction := some "count", storeResult := some { key := "stock" } })] }),
    ("bank",
      { activities := [
          ("peek",
            { moduleFunction := some "echo"
              parameters := [("value",
                { store := some { scope := .activity, key := "tally" } })] }),
          ("report",
            { moduleFunction := some "count"
              storeResult := some { scope := .process, key := "report" } })] })]
  common :=
    { activities := [("again", .reference { serviceName := "shop", activityName := "load" })] }

def marketMaterials : Materials where
  functions := [("count", ⟨"market", "count", []⟩), ("wait", ⟨"market", "wait", []⟩),
    ("echo", ⟨"market", "echo", ["value"]⟩)]
  bridges := []

/-- The flow of the market: to count, to pause, to review and to load; to peek and to report; to
load again. -/
def marketFlow : Flow := (assemble? marketMaterials {} marketProcess).value.getD default

theorem marketFlow_isBuilt : IsBuilt marketMaterials {} marketProcess marketFlow :=
  isBuilt_getD (by decide +kernel)

/-- Counting gives 7, and every other function its first argument. -/
def marketAnswers : Task.Environment Unit
  | .call f arguments, _ =>
    (.ok (.value (if f.name = "count" then .integer 7 else arguments.headD .null)), ())
  | q, world => nullAnswers q world

/-- The market after some acts. -/
def marketAfter (acts : List (Option Errand)) : Option Traffic :=
  acted marketFlow marketAnswers acts (opening marketFlow)

end Traffic

end Pageflow.Run
