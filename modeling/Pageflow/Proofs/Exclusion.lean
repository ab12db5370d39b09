/-
  Pageflow.Proofs.Exclusion — one errand at a time for each service.

  No two errands under way are addressed to the same service: whatever else is sent to it is
  refused.  An errand to a declared service reaches only activities of that service, and writes
  only its store, that of the process and that of the run.  So while an errand is under way, no
  errand to another declared service runs an activity of its service or writes its store.

  An errand to the process is not kept out like that.  A reference leads it to an activity of a
  declared service, whether that service runs or not.  And the store of the process is open to
  all.

  Main definition: `KeepsTo`.
  Main statements: `keepsTo_held` and `one_errand_per_service`.
-/
import Pageflow.Proofs.Traffic

namespace Pageflow.Run

open Document (processService)
open Pageflow.Flow (Activity IsBuilt Materials Orderly)

/-! ## §1. Keeping to a service. -/

/-- Only activities of the service reach a stage, and the stores of other declared services stay
as they are. -/
structure KeepsTo (flow : Flow) (service : String) (s t : State) : Prop where
  trail : ∃ new, t.trail = s.trail ++ new ∧
    ∀ mark ∈ new, ∃ a, flow.arena[mark.place]? = some a ∧ a.service = service
  entry : ∀ other key, other ≠ service → other ≠ processService →
    t.entry (some other) key = s.entry (some other) key

variable {flow : Flow} {service name : String} {s t : State}

theorem keepsTo_of_same (htrail : t.trail = s.trail)
    (hentry : ∀ name key, t.entry (some name) key = s.entry (some name) key) :
    KeepsTo flow service s t where
  trail := ⟨[], by rw [htrail, List.append_nil], by simp⟩
  entry other key _ _ := hentry other key

theorem keepsTo_chained (flow : Flow) (service : String) :
    Task.Chained (KeepsTo flow service) where
  refl _ := keepsTo_of_same rfl fun _ _ => rfl
  trans h h' := by
    obtain ⟨new, hnew, own⟩ := h.trail
    obtain ⟨more, hmore, own'⟩ := h'.trail
    refine ⟨⟨new ++ more, ?_, List.forall_mem_append.mpr ⟨own, own'⟩⟩, ?_⟩
    · rw [hmore, hnew, List.append_assoc]
    · intro other key ho hp
      rw [h'.entry other key ho hp, h.entry other key ho hp]

/-- An activity of the service writes no store of another declared service. -/
theorem not_writes_of_own (hs : service ≠ processService) {other key : String}
    (ho : other ≠ service) (hp : other ≠ processService) {m : Mark} (own : Own flow service m) :
    ¬ Writes flow s (some other) key m := by
  rintro ⟨a, target, _, ha, _, _, _, hwho, _⟩
  obtain ⟨b, hb, hservice⟩ := own
  obtain rfl := Option.some.inj (ha.symm.trans hb)
  obtain hservice | hservice := hservice
  · -- its scopes name the store of the run, that of the process, or its own
    unfold State.owner at hwho
    rw [hservice] at hwho
    split at hwho
    · contradiction
    · exact hp (Option.some.inj hwho)
    · split at hwho
      · exact ho (Option.some.inj hwho)
      · exact hp (Option.some.inj hwho)
  · exact hs hservice

/-- **What is done while a declared service is held keeps to it.** -/
theorem keepsTo_held (hs : service ≠ processService) (h : Held flow service s t) :
    KeepsTo flow service s t := by
  obtain ⟨new, accounts, own⟩ := recorded_held h
  refine ⟨⟨new, accounts.trail, ?_⟩, ?_⟩
  · intro mark hm
    obtain ⟨a, ha, here | process⟩ := own mark hm
    · exact ⟨a, ha, here⟩
    · exact absurd process hs
  · intro other key ho hp
    have unwritten : lastWritten flow s (some other) key new = none :=
      lastWritten_eq_none fun m hm => not_writes_of_own hs ho hp (own m hm)
    rw [accounts.entry, unwritten, Option.none_or]

theorem keepsTo_occupy (s : State) (name : String) :
    KeepsTo flow service s (s.occupy service name) :=
  keepsTo_of_same (State.trail_occupy ..) fun other key => by
    have same := (sameEntries_occupy s service name).entry
    exact congrFun (congrFun same (some other)) key

theorem keepsTo_finished (hs : service ≠ processService) (h : Finished flow service s t) :
    KeepsTo flow service s t := by
  obtain ⟨u, held, ht⟩ := h
  have released : KeepsTo flow service u (u.release service) :=
    keepsTo_of_same (State.trail_release ..) (entry_release u service).2
  have done := (keepsTo_chained flow service).trans (keepsTo_held hs held) released
  obtain rfl | ⟨message, rfl⟩ := ht
  · exact done
  · exact (keepsTo_chained flow service).trans done (keepsTo_of_same rfl fun _ _ => rfl)

theorem keepsTo_idle (h : Traffic.Idle s t) : KeepsTo flow service s t := by
  refine keepsTo_of_same ?_ ?_
  · rw [h]
  · intro name key
    rw [h]
    rfl

/-- No activity of the service reaches a stage, and its store stays as it is. -/
structure Spared (flow : Flow) (service : String) (s t : State) : Prop where
  trail : ∃ new, t.trail = s.trail ++ new ∧
    ∀ mark ∈ new, ∃ a, flow.arena[mark.place]? = some a ∧ a.service ≠ service
  entry : ∀ key, t.entry (some service) key = s.entry (some service) key

theorem Spared.trans {s t u : State} (h : Spared flow service s t)
    (h' : Spared flow service t u) : Spared flow service s u := by
  obtain ⟨new, hnew, others⟩ := h.trail
  obtain ⟨more, hmore, others'⟩ := h'.trail
  refine ⟨⟨new ++ more, ?_, List.forall_mem_append.mpr ⟨others, others'⟩⟩, ?_⟩
  · rw [hmore, hnew, List.append_assoc]
  · exact fun key => (h'.entry key).trans (h.entry key)

/-- Whoever keeps to another service spares this one. -/
theorem KeepsTo.spared {other : String} {s t : State} (h : KeepsTo flow other s t)
    (ho : service ≠ other) (hs : service ≠ processService) : Spared flow service s t where
  trail := by
    obtain ⟨new, hnew, own⟩ := h.trail
    refine ⟨new, hnew, fun mark hm => ?_⟩
    obtain ⟨a, ha, hservice⟩ := own mark hm
    exact ⟨a, ha, fun he => ho (he.symm.trans hservice)⟩
  entry key := h.entry service key ho hs

/-! ## §2. Traffic. -/

namespace Traffic

variable {v w : Traffic} {who : Option String}

/-- **What an errand to a declared service does keeps to that service.** -/
theorem keepsTo_move (hs : service ≠ processService) (h : Move flow (some service) v w) :
    KeepsTo flow service v.state w.state := by
  cases h with
  | idle h => exact keepsTo_idle h
  | visit _ _ h =>
    exact (keepsTo_chained flow service).trans (keepsTo_occupy _ _) (keepsTo_finished hs h)
  | depart _ _ h =>
    exact (keepsTo_chained flow _).trans (keepsTo_occupy _ _) (keepsTo_held hs h)
  | proceed _ _ h => exact keepsTo_held hs h
  | arrive _ h => exact keepsTo_finished hs h

/-- Any number of things happen that neither an errand to the service does nor one to the
process. -/
def Elsewhere (flow : Flow) (service : String) : Traffic → Traffic → Prop :=
  Relation.ReflTransGen fun v w =>
    ∃ who, who ≠ some service ∧ who ≠ some processService ∧ Next flow who v w

/-- **What errands to other declared services do spares a service**, time after time. -/
theorem spared_of_elsewhere (ho : Orderly flow) (hs : service ≠ processService)
    (hv : Sound flow v) (h : Elsewhere flow service v w) :
    Sound flow w ∧ Spared flow service v.state w.state := by
  induction h with
  | refl => exact ⟨hv, ⟨[], by simp, by simp⟩, fun _ => rfl⟩
  | @tail u w _ next ih =>
    obtain ⟨sound, spared⟩ := ih
    obtain ⟨who, hother, hprocess, next⟩ := next
    refine ⟨sound_of_next ho sound next, spared.trans ?_⟩
    have move := next_move ho sound.proceeds next
    cases who with
    | some other =>
      have keeps := keepsTo_move (fun he => hprocess (congrArg some he)) move
      exact keeps.spared (fun he => hother (congrArg some he.symm)) hs
    | none =>
      cases move with
      | idle h =>
        have keeps : KeepsTo flow processService _ _ := keepsTo_idle h
        exact keeps.spared hs hs

/-! ## §3. One errand at a time. -/

variable {m : Materials} {page : Document.Page} {process : Document.Process}

/-- **One errand at a time for each service.**  However errands overlap, at most one of those
under way is addressed to a given service, and whatever else is sent to that service is refused:
it fails and changes nothing, but that the user is told of an external call.  An errand that is
addressed to a declared service runs only activities of that service, and writes no store of
another declared service.  So whatever happens elsewhere, no activity of a declared service is
run and its store stays as it is, unless an errand to that service or to the process acts. -/
theorem one_errand_per_service (hb : IsBuilt m page process flow)
    (hv : Reaches flow (opening flow) v) :
    v.busy.Nodup
    ∧ (∀ e : Errand, e.IsKnown flow → e.service ∈ v.busy → e.run flow v.state
        = .done e.rejected (e.told (.alreadyRunning e.service) v.state))
    ∧ (∀ service w, service ≠ processService → Next flow (some service) v w →
        KeepsTo flow service v.state w.state)
    ∧ ∀ service w, service ≠ processService → Elsewhere flow service v w →
        Spared flow service v.state w.state := by
  have ho := hb.orderly
  -- all four follow from what is true of all traffic
  have sound := sound_of_reaches ho (sound_opening flow) hv
  refine ⟨sound.occupied.nodup, fun e => refused ho sound, ?_, ?_⟩
  · intro service w hs next
    exact keepsTo_move hs (next_move ho sound.proceeds next)
  · intro service w hs elsewhere
    exact (spared_of_elsewhere ho hs sound elsewhere).2

/-- While the shop counts it cannot be loaded, and what the bank does keeps to the bank. -/
theorem one_errand_per_service_market :
    ∃ v w, marketAfter [some (.activity "shop" "count" true)] = some v
      ∧ v.busy = ["shop"] ∧ v.busy.Nodup
      ∧ Errand.run marketFlow (.activity "shop" "load" true) v.state
        = .done (.error (.alreadyRunning "shop")) v.state
      ∧ send marketFlow (.activity "bank" "report" true) v = some w
      ∧ KeepsTo marketFlow "bank" v.state w.state
      ∧ Spared marketFlow "shop" v.state w.state := by
  have counting : (marketAfter [some (.activity "shop" "count" true)]).map busy
      = some ["shop"] := by decide +kernel
  have reported : ((marketAfter [some (.activity "shop" "count" true)]).bind
      (send marketFlow (.activity "bank" "report" true))).isSome = true := by decide +kernel
  obtain ⟨v, hv, busy⟩ := Option.map_eq_some_iff.mp counting
  obtain ⟨w, hw⟩ := Option.isSome_iff_exists.mp reported
  rw [hv, Option.bind_some] at hw
  obtain ⟨alone, refused, keeps, spared⟩ :=
    one_errand_per_service marketFlow_isBuilt (reaches_of_acted hv)
  have next : Next marketFlow (some "bank") v w := next_of_send hw
  refine ⟨v, w, hv, busy, alone, ?_, hw, ?_, ?_⟩
  · refine refused (.activity "shop" "load" true) (by decide +kernel) ?_
    simp [busy, Errand.service]
  · exact keeps "bank" w (by decide) next
  · exact spared "shop" w (by decide) (.single ⟨_, by decide, by decide, next⟩)

/-- While the shop counts, a reference of the process leads to an activity of the shop, and its
result is stored there.  While the process runs, the bank stores a result with the process. -/
theorem services_entered_while_they_run :
    IsBuilt marketMaterials {} marketProcess marketFlow
    ∧ (∃ v w a, Reaches marketFlow (opening marketFlow) v
      ∧ Next marketFlow (some processService) v w
      ∧ v.busy = [processService, "shop"] ∧ w.busy = ["shop"]
      ∧ marketFlow.arena[3]? = some a ∧ a.service = "shop"
      ∧ ⟨3, .settled (.integer 7)⟩ ∉ v.state.trail ∧ ⟨3, .settled (.integer 7)⟩ ∈ w.state.trail
      ∧ v.state.entry (some "shop") "stock" = none
      ∧ w.state.entry (some "shop") "stock" = some (.integer 7))
    ∧ ∃ v w, Reaches marketFlow (opening marketFlow) v ∧ Next marketFlow (some "bank") v w
      ∧ v.busy = ["bank", processService] ∧ w.busy = [processService]
      ∧ v.state.entry (some processService) "report" = none
      ∧ w.state.entry (some processService) "report" = some (.integer 7) := by
  refine ⟨marketFlow_isBuilt, ?_, ?_⟩
  · have load : (marketFlow.arena[3]?).map Activity.service = some "shop" := by decide +kernel
    have before : (marketAfter [some (.activity "shop" "count" true),
        some (.activity processService "again" true)]).map (fun v => (v.busy,
          decide (⟨3, .settled (.integer 7)⟩ ∈ v.state.trail), v.state.entry (some "shop") "stock"))
        = some ([processService, "shop"], false, none) := by decide +kernel
    have behind : ((marketAfter [some (.activity "shop" "count" true),
        some (.activity processService "again" true)]).bind (reply marketAnswers)).map
          (fun w => (w.busy, decide (⟨3, .settled (.integer 7)⟩ ∈ w.state.trail),
            w.state.entry (some "shop") "stock"))
        = some (["shop"], true, some (.integer 7)) := by decide +kernel
    obtain ⟨a, ha, service⟩ := Option.map_eq_some_iff.mp load
    obtain ⟨v, hv, h⟩ := Option.map_eq_some_iff.mp before
    rw [hv, Option.bind_some] at behind
    obtain ⟨w, hw, h'⟩ := Option.map_eq_some_iff.mp behind
    simp only [Prod.mk.injEq, decide_eq_true_eq, decide_eq_false_iff_not] at h h'
    have next : Next marketFlow v.busy.head? v w := next_of_reply hw
    rw [h.1, List.head?_cons] at next
    exact ⟨v, w, a, reaches_of_acted hv, next, h.1, h'.1, ha, service, h.2.1, h'.2.1, h.2.2,
      h'.2.2⟩
  · have before : (marketAfter [some (.activity processService "again" true),
        some (.activity "bank" "report" true)]).map (fun v => (v.busy,
          v.state.entry (some processService) "report"))
        = some (["bank", processService], none) := by decide +kernel
    have behind : ((marketAfter [some (.activity processService "again" true),
        some (.activity "bank" "report" true)]).bind (reply marketAnswers)).map
          (fun w => (w.busy, w.state.entry (some processService) "report"))
        = some ([processService], some (.integer 7)) := by decide +kernel
    obtain ⟨v, hv, h⟩ := Option.map_eq_some_iff.mp before
    rw [hv, Option.bind_some] at behind
    obtain ⟨w, hw, h'⟩ := Option.map_eq_some_iff.mp behind
    simp only [Prod.mk.injEq] at h h'
    have next : Next marketFlow v.busy.head? v w := next_of_reply hw
    rw [h.1, List.head?_cons] at next
    exact ⟨v, w, reaches_of_acted hv, next, h.1, h'.1, h.2, h'.2⟩

end Traffic

end Pageflow.Run
