/-
  Pageflow.Proofs.Rejection — what becomes of errands to a service that runs.

  They are refused one after the other, and leave nothing behind but the alerts of refused
  external calls.  Nothing that a run does depends on what was shown before.  So the errand under
  way cannot tell whether others were refused while it waited: it asks the same questions, gives
  the same result, and leaves the same state but for these alerts.

  Main definitions: `Aside`, `Traffic.outcomes` and `Traffic.finishAmong`.
  Main statements: `aside_unseen` and `refused_errands_are_harmless`.
-/
import Pageflow.Proofs.Alike
import Pageflow.Proofs.Traffic

namespace Pageflow

/-! ## §1. Tasks that end. -/

namespace Task

variable {σ α ω : Type}

theorem Passes.terminates {R E : σ → σ → Prop} :
    ∀ {t : Task σ α} {s : σ}, t.Passes R E s → t.Terminates
  | .done _ _, _, _ => trivial
  | .endless, _, h => h
  | .ask _ _ _, _, h => fun answer t => (h.2 answer t).terminates

/-- A task that ends gives a value, whoever answers. -/
theorem Terminates.finish (environment : Environment ω) :
    ∀ {t : Task σ α} (world : ω), t.Terminates →
      ∃ a s world', t.finish environment world = (some (a, s), world')
  | .done a s, world, _ => ⟨a, s, world, rfl⟩
  | .endless, _, h => h.elim
  | .ask q s _, world, h =>
    (h (environment q world).1 s).finish environment (environment q world).2

end Task

namespace Run

open Document (processService)
open Pageflow.Flow (Activity IsBuilt Materials Orderly)

/-! ## §2. What is shown is not seen. -/

/-- The state with something else shown. -/
def State.showing (s : State) (shown : List Display) : State := { s with displays := shown }

/-- A change that does not depend on what is shown, and shows nothing. -/
def Aloof (f : State → State) : Prop :=
  ∀ s shown, f (s.showing shown) = (f s).showing shown ∧ (f s).displays = s.displays

theorem Aloof.comp {f g : State → State} (hf : Aloof f) (hg : Aloof g) :
    Aloof fun s => f (g s) := by
  intro s shown
  constructor
  · show f (g (s.showing shown)) = (f (g s)).showing shown
    rw [(hg s shown).1, (hf (g s) shown).1]
  · exact (hf (g s) shown).2.trans (hg s shown).2

theorem aloof_modifyService (service : String) (f : ServiceState → ServiceState) :
    Aloof fun s => s.modifyService service f := by
  intro s shown
  unfold State.modifyService State.showing
  split
  · exact ⟨rfl, rfl⟩
  · cases hs : s.services.get? service <;> simp [hs]

theorem aloof_modifyStore (scope : Document.StoreScope) (service : String) (f : Store → Store) :
    Aloof fun s => s.modifyStore scope service f := by
  intro s shown
  have inService := fun name => aloof_modifyService name
    (fun state => { state with store := f state.store }) s shown
  cases scope with
  | activity => exact ⟨rfl, rfl⟩
  | process => exact inService _
  | service => exact inService _

theorem aloof_emit (event : Event) : Aloof (State.emit event) := by
  intro s shown
  cases h : s.listener <;> simp [State.emit, State.showing, h, Journal.write]

theorem aloof_mark (place : Nat) (stage : Stage) : Aloof (State.mark place stage) :=
  fun _ _ => ⟨rfl, rfl⟩

theorem aloof_settle (place : Nat) (a : Activity) (result : Json) :
    Aloof (State.settle place a result) := by
  have stored : Aloof fun s => s.storeResult a result := by
    intro s shown
    unfold State.storeResult
    split
    · exact ⟨rfl, rfl⟩
    split
    · exact ⟨rfl, rfl⟩
    · exact aloof_modifyStore _ _ _ s shown
  exact (aloof_mark place (.settled result)).comp stored

theorem aloof_complete (place : Nat) (a : Activity) (result : Json) :
    Aloof (State.complete place a result) := by
  have recorded : Aloof (State.recordExecuted a.executed) := by
    have remembered : Aloof fun s =>
        { s with executed := State.remember a.executed s.executed } := fun _ _ => ⟨rfl, rfl⟩
    exact (aloof_emit ⟨.completed, a.executed⟩).comp remembered
  unfold State.complete
  cases a.isGenerated with
  | true => exact aloof_mark place (.completed result)
  | false => exact recorded.comp (aloof_mark place (.completed result))

theorem aloof_release (service : String) : Aloof (State.release service) := by
  intro s shown
  obtain ⟨same, still⟩ :=
    aloof_modifyService service (fun state => { state with running := none }) s shown
  refine ⟨?_, still⟩
  unfold State.release
  simp only at same
  rw [same]
  rfl

/-- What is shown may be shown before or after such a change. -/
theorem Aloof.display {f : State → State} (hf : Aloof f) (d : Display) (s : State) :
    f (s.display d) = (f s).display d := by
  calc f (s.display d) = (f s).showing (s.displays ++ [d]) := (hf s _).1
    _ = (f s).showing ((f s).displays ++ [d]) := by rw [(hf s s.displays).2]

/-! ## §3. Alerts in between. -/

/-- What the user is told when an external call is refused because its service runs. -/
def refusal (c : ExternalCall) : Display := .alert (callError c (.alreadyRunning c.service)).message

/-- The second list is the first with alerts of refused calls to the service in between. -/
inductive Told (service : String) : List Display → List Display → Prop
  | nil : Told service [] []
  | shown {l m : List Display} (d : Display) (h : Told service l m) :
      Told service (d :: l) (d :: m)
  | refused {l m : List Display} (c : ExternalCall) (hc : c.service = service)
      (h : Told service l m) : Told service l (refusal c :: m)

namespace Told

variable {service : String} {l m l' m' : List Display}

theorem refl : ∀ l, Told service l l
  | [] => .nil
  | d :: l => .shown d (refl l)

theorem append (h : Told service l m) (h' : Told service l' m') :
    Told service (l ++ l') (m ++ m') := by
  induction h with
  | nil => exact h'
  | shown d _ ih => exact .shown d ih
  | refused c hc _ ih => exact .refused c hc ih

end Told

/-- The states differ only in what is shown, and there only by alerts of refused calls. -/
def Aside (service : String) (s t : State) : Prop :=
  ∃ shown, Told service s.displays shown ∧ t = s.showing shown

variable {service : String} {s t : State}

theorem aside_refl (service : String) (s : State) : Aside service s s :=
  ⟨s.displays, .refl _, rfl⟩

theorem Aside.map {f : State → State} (hf : Aloof f) (h : Aside service s t) :
    Aside service (f s) (f t) := by
  obtain ⟨shown, told, rfl⟩ := h
  refine ⟨shown, ?_, (hf s shown).1⟩
  rw [(hf s shown).2]
  exact told

theorem Aside.display (d : Display) (h : Aside service s t) :
    Aside service (s.display d) (t.display d) := by
  obtain ⟨shown, told, rfl⟩ := h
  exact ⟨shown ++ [d], told.append (.refl [d]), rfl⟩

/-- **Nothing that a run does depends on what is shown.** -/
theorem aside_unseen (service : String) : Unseen (fun _ _ => True) (Aside service) where
  look := by
    rintro s _ ⟨shown, _, rfl⟩
    exact ⟨rfl, rfl, rfl, rfl, fun _ _ _ => rfl⟩
  executed := by
    rintro s _ ⟨shown, _, rfl⟩
    rfl
  running := by
    rintro s _ ⟨shown, _, rfl⟩
    rfl
  note n _ _ h := h.map fun _ _ => ⟨rfl, rfl⟩
  display d _ _ h := h.display d
  mark place stage _ _ h := h.map (aloof_mark place stage)
  settle place a result _ _ h := h.map (aloof_settle place a result)
  insert name ui _ _ h := (h.map (aloof_modifyService name _)).display _
  complete place a result _ _ h := h.map (aloof_complete place a result)
  failed e _ _ h := h.map (aloof_emit ⟨.failed, e⟩)
  occupy service name _ _ h := h.map (aloof_modifyService service _)
  release service _ _ h := h.map (aloof_release service)

/-! ## §4. Errands are blind. -/

variable {flow : Flow} {R : State → State → Prop}

/-- **An errand is blind to what no service sees.** -/
theorem Errand.blind (ho : Orderly flow) (h : Unseen (fun _ _ => True) R) (e : Errand) :
    Blind R (e.run flow) := by
  have closed := blind_closed R
  have parts := hostParts_blind ho h
  cases e with
  | activity service name shows => exact executeActivity_closed closed parts service name shows
  | sequence service name =>
    exact closed.bind (executeSequence_closed closed parts service name)
      fun results => closed.pure _
  | call c => exact externalCall_closed ho h.showing parts c

/-- The errand from where it waits. -/
def Flight.task (f : Flight) (s : State) : Task State (Except HostError Json) :=
  .ask f.query s f.resume

/-- The errand goes on alike from related states. -/
def Flight.IsBlind (R : State → State → Prop) (f : Flight) : Prop :=
  ∀ answer s t, R s t → (f.resume answer s).Alike R (f.resume answer t)

theorem isBlind_of_ask {service : String} {q : Query} {t : State}
    {k : q.Answer → State → Task State (Except HostError Json)} {x : Task State _}
    (hx : x.Alike R x) (h : x = .ask q t k) : Flight.IsBlind R ⟨service, q, k⟩ := by
  rw [h] at hx
  cases hx with
  | ask _ _ rest => exact rest

namespace Traffic

variable {v w : Traffic} {f : Flight}

/-- **All errands under way are blind.** -/
theorem isBlind_of_reaches (ho : Orderly flow) (h : Unseen (fun _ _ => True) R)
    (refl : ∀ s, R s s) (hv : Reaches flow (opening flow) v) : ∀ f ∈ v.flights, f.IsBlind R := by
  refine flights_of_reaches ?_ ?_ (fun _ hf => absurd hf List.not_mem_nil) hv
  · intro e s q t k he
    exact isBlind_of_ask (e.blind ho h s s (refl s)) he
  · intro f answer s q t k hf he
    exact isBlind_of_ask (hf answer s s (refl s)) he

/-! ## §5. Errands that are over at once. -/

/-- The outcomes of errands that are sent one after the other, if each is over at once, and the
state after them. -/
def outcomes (flow : Flow) : List Errand → State → Option (List (Except HostError Json) × State)
  | [], s => some ([], s)
  | e :: rest, s =>
    match e.run flow s with
    | .done outcome t => (outcomes flow rest t).map fun (others, u) => (outcome :: others, u)
    | _ => none

/-- They are addressed to the service, and name activities or sequences that it has. -/
def AddressedTo (flow : Flow) (service : String) (errands : List Errand) : Prop :=
  ∀ e ∈ errands, e.service = service ∧ e.IsKnown flow

/-- What the user is told of an errand to a service that runs. -/
def rejection? : Errand → Option Display
  | .call c => some (refusal c)
  | _ => none

theorem told_rejected (e : Errand) (s : State) : e.told (.alreadyRunning e.service) s
    = s.showing (s.displays ++ (rejection? e).toList) := by
  cases e with
  | call c => rfl
  | _ => simp [Errand.told, rejection?, State.showing]

/-- **All errands to a service that runs are refused**, and only alerts are shown. -/
theorem outcomes_of_busy (ho : Orderly flow) {service : String} :
    ∀ {errands : List Errand} {s : State}, AddressedTo flow service errands →
      (s.running? service).isSome = true →
      outcomes flow errands s = some (errands.map Errand.rejected,
        s.showing (s.displays ++ errands.filterMap rejection?))
  | [], s, _, _ => by simp [outcomes, State.showing]
  | e :: rest, s, addressed, busy => by
      obtain ⟨here, known⟩ := addressed e List.mem_cons_self
      obtain ⟨name, work, hw⟩ := e.work?_of_isKnown ho known
      have hother : ∃ other, s.running? e.service = some other := by
        rw [here]
        exact Option.isSome_iff_exists.mp busy
      obtain ⟨other, hother⟩ := hother
      have first := Errand.run_of_busy hw hother
      rw [told_rejected] at first
      -- the service still runs when the next one is sent
      have others := outcomes_of_busy ho (fun e he => addressed e (List.mem_cons_of_mem _ he))
        (show ((s.showing (s.displays ++ (rejection? e).toList)).running? service).isSome = true
          from busy)
      simp only [outcomes, first, others, Option.map_some, List.map_cons, Option.some.injEq,
        Prod.mk.injEq, true_and]
      cases he : rejection? e <;> simp [he, State.showing]

theorem aside_rejected {service : String} {errands : List Errand} {s t : State}
    (addressed : AddressedTo flow service errands) (h : Aside service s t) :
    Aside service s (t.showing (t.displays ++ errands.filterMap rejection?)) := by
  have alerts : Told service [] (errands.filterMap rejection?) := by
    induction errands with
    | nil => exact .nil
    | cons e rest ih =>
      have others := ih fun e he => addressed e (List.mem_cons_of_mem _ he)
      cases e with
      | call c => exact .refused c (addressed _ List.mem_cons_self).1 others
      | _ => exact others
  obtain ⟨shown, told, rfl⟩ := h
  refine ⟨shown ++ errands.filterMap rejection?, ?_, rfl⟩
  have both := told.append alerts
  rwa [List.append_nil] at both

/-! ## §6. The errand that is under way. -/

/-- Runs a task to its end; errands are sent each time it waits, before it gets its answer. -/
def finishAmong {α ω : Type} (flow : Flow) (environment : Task.Environment ω) :
    Task State α → List (List Errand) → ω → Option (α × State) × ω
  | .done a s, _, world => (some (a, s), world)
  | .endless, _, world => (none, world)
  | .ask q s resume, visits, world =>
    let s := ((outcomes flow (visits.headD []) s).map Prod.snd).getD s
    let (answer, world) := environment q world
    finishAmong flow environment (resume answer s) visits.tail world

/-- **A task whose service is held until it ends does not notice errands to that service.** -/
theorem finishAmong_eq {α ω : Type} (ho : Orderly flow) {service : String}
    (environment : Task.Environment ω) {x y : Task State α} (alike : x.Alike (Aside service) y) :
    ∀ {u : State} {visits : List (List Errand)} {world world' : ω} {a : α} {s : State},
      y.Passes (Held flow service) (Finished flow service) u →
      (u.running? service).isSome = true →
      (∀ errands ∈ visits, AddressedTo flow service errands) →
      x.finish environment world = (some (a, s), world') →
      ∃ t, finishAmong flow environment y visits world = (some (a, t), world')
        ∧ Aside service s t := by
  induction alike with
  | done b h =>
    intro u visits world world' a s _ _ _ hx
    obtain ⟨hb, rfl⟩ := Prod.mk.inj hx
    obtain ⟨rfl, rfl⟩ := Prod.mk.inj (Option.some.inj hb)
    exact ⟨_, rfl, h⟩
  | endless =>
    intro u visits world world' a s passes
    exact passes.elim
  | @ask q s t resume resume' h rest ih =>
    intro u visits world world' a s' passes busy addressed hx
    have running : (t.running? service).isSome = true := by
      rw [State.running?_congr (runs_held passes.1)]
      exact busy
    -- the errands that are sent while this one waits
    have sent : AddressedTo flow service (visits.headD []) := by
      cases visits with
      | nil =>
        intro e he
        contradiction
      | cons errands _ => exact addressed errands List.mem_cons_self
    have refused := outcomes_of_busy ho sent running
    simp only [finishAmong, refused, Option.map_some, Option.getD_some]
    refine ih _ _ _ (aside_rejected sent h) (passes.2 _ _) running ?_ hx
    intro errands he
    exact addressed errands (List.mem_of_mem_tail he)

/-! ## §7. Harmless errands. -/

variable {m : Materials} {page : Document.Page} {process : Document.Process}

/-- **Errands to a service that runs are harmless.**  While an errand waits, any others to its
service fail because that runs.  They leave the state as it is, but for the alerts of external
calls.  And whenever and however often others are sent while it waits, the errand ends with the
result with which it ends without them, and in the same state but for these alerts. -/
theorem refused_errands_are_harmless (hb : IsBuilt m page process flow)
    (hv : Reaches flow (opening flow) v) (hf : f ∈ v.flights) :
    (∀ errands, AddressedTo flow f.service errands →
      outcomes flow errands v.state = some (errands.map Errand.rejected,
        { v.state with displays := v.state.displays ++ errands.filterMap rejection? }))
    ∧ ∀ {ω : Type} (environment : Task.Environment ω) (world : ω) (visits : List (List Errand)),
      (∀ errands ∈ visits, AddressedTo flow f.service errands) →
      ∃ result s t world',
        (f.task v.state).finish environment world = (some (result, s), world')
        ∧ finishAmong flow environment (f.task v.state) visits world
          = (some (result, t), world')
        ∧ Aside f.service s t := by
  have ho := hb.orderly
  have sound := sound_of_reaches ho (sound_opening flow) hv
  have busy : (v.state.running? f.service).isSome = true :=
    (sound.occupied.running _).mpr (List.mem_map.mpr ⟨f, hf, rfl⟩)
  refine ⟨fun errands addressed => outcomes_of_busy ho addressed busy, ?_⟩
  intro ω environment world visits addressed
  have passes : (f.task v.state).Passes (Held flow f.service) (Finished flow f.service) v.state :=
    ⟨.refl, sound.proceeds f hf⟩
  have blind := isBlind_of_reaches ho (aside_unseen f.service) (aside_refl f.service) hv f hf
  have alike : (f.task v.state).Alike (Aside f.service) (f.task v.state) :=
    .ask f.query (aside_refl _ _) blind
  -- it ends by itself; and among others it goes the same way, step by step
  obtain ⟨result, s, world', hs⟩ := passes.terminates.finish environment world
  obtain ⟨t, ht, aside⟩ := finishAmong_eq ho environment alike passes busy addressed hs
  exact ⟨result, s, t, world', hs, ht, aside⟩

/-- While the shop counts it can neither be loaded nor called, and then counts on. -/
theorem refused_errands_are_harmless_market :
    ∃ v f, marketAfter [some (.activity "shop" "count" true)] = some v ∧ v.flights = [f]
      ∧ f.service = "shop"
      ∧ outcomes marketFlow [.activity "shop" "load" true,
          .call { service := "shop", activity := "load" }] v.state
        = some ([.error (.alreadyRunning "shop"),
            .error (.externalCall "shop" "load" (.alreadyRunning "shop"))],
          { v.state with displays := v.state.displays ++
            [.alert "Service-activity shop:load failed: Activity already running"] })
      ∧ ∃ result s t world',
        (f.task v.state).finish marketAnswers () = (some (result, s), world')
        ∧ finishAmong marketFlow marketAnswers (f.task v.state)
            [[], [.call { service := "shop", activity := "load" }]] ()
          = (some (result, t), world')
        ∧ Aside "shop" s t := by
  have counting : (marketAfter [some (.activity "shop" "count" true)]).map busy
      = some ["shop"] := by decide +kernel
  obtain ⟨v, hv, hbusy⟩ := Option.map_eq_some_iff.mp counting
  obtain ⟨f, hf, service⟩ := List.map_eq_singleton_iff.mp hbusy
  have known : ∀ e : Errand, e = .activity "shop" "load" true
      ∨ e = .call { service := "shop", activity := "load" } →
      e.service = f.service ∧ e.IsKnown marketFlow := by
    rw [service]
    rintro e (rfl | rfl)
    · exact ⟨rfl, by decide +kernel⟩
    · exact ⟨rfl, by decide +kernel⟩
  obtain ⟨refused, harmless⟩ := refused_errands_are_harmless marketFlow_isBuilt
    (reaches_of_acted hv) (f := f) (by simp [hf])
  refine ⟨v, f, hv, hf, service, ?_, ?_⟩
  · exact refused [.activity "shop" "load" true, .call { service := "shop", activity := "load" }]
      fun e he => known e (by simpa using he)
  · obtain ⟨result, s, t, world', hs, ht, aside⟩ := harmless marketAnswers ()
      [[], [.call { service := "shop", activity := "load" }]] (by
        intro errands he e hm
        refine known e (.inr ?_)
        rcases List.mem_pair.mp he with rfl | rfl
        · contradiction
        · exact List.mem_singleton.mp hm)
    rw [service] at aside
    exact ⟨result, s, t, world', hs, ht, aside⟩

end Traffic

end Run

end Pageflow
