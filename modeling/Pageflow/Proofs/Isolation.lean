/-
  Pageflow.Proofs.Isolation — the store that lives as long as a run.

  There is one such store, whoever runs, and it is emptied whenever an errand ends.  So as long as
  nobody else is let in, an errand reads from it what it has written itself, and leaves nothing to
  others.  But an errand that is let in at another service while this one waits reads what this
  one has written, and takes it away when it ends.

  Main definitions: `Undisturbed` and `During`.
  Main statement: `undisturbed_errand_reads_its_own_values`.
-/
import Pageflow.Proofs.Stored
import Pageflow.Proofs.Traffic

namespace Pageflow

/-- A value, or the part of it at a path; `null` if there is none. -/
def Json.partAt (value : Json) : Option String → Json
  | none => value
  | some path => (value.select path).getD .null

theorem Store.readAt_eq (store : Store) (key : String) (path : Option String) :
    store.readAt key path = ((store.get? key).getD .null).partAt path := by
  cases path <;> rfl

namespace Run.Traffic

open Pageflow.Flow (IsBuilt Materials Orderly)

/-! ## §1. An errand that only waits for answers. -/

/-- An errand to the service acts and stays under way, or something is refused, or the host lends
something; time after time. -/
def Undisturbed (flow : Flow) (service : String) : Traffic → Traffic → Prop :=
  Relation.ReflTransGen fun v w => service ∈ w.busy ∧
    ∃ who, Next flow who v w ∧ (who = some service ∨ Idle v.state w.state)

/-- The states that an errand goes through after it is sent, if it is let in and undisturbed. -/
inductive During (flow : Flow) (e : Errand) (v : Traffic) : State → Prop
  /-- It has not waited yet. -/
  | first {name : String} {work : Run State HostError Json} {u : State}
      (hw : e.work? flow = .ok (name, work)) (free : e.service ∉ v.busy)
      (h : Held flow e.service (v.state.occupy e.service name) u) : During flow e v u
  /-- It has waited, and nobody else was let in. -/
  | later {w x : Traffic} {u : State} (hs : send flow e v = some w) (free : e.service ∉ v.busy)
      (waits : e.service ∈ w.busy) (alone : Undisturbed flow e.service w x)
      (h : Held flow e.service x.state u) : During flow e v u

variable {flow : Flow} {service : String} {s t u : State} {v w : Traffic}

theorem recorded_idle (h : Idle s t) : Recorded flow (Own flow service) s t := by
  rw [h]
  exact recorded_of_same rfl ⟨rfl, rfl⟩

theorem recorded_occupied {name : String} (h : Held flow service (s.occupy service name) t) :
    Recorded flow (Own flow service) s t := by
  have started : Recorded flow (Own flow service) s (s.occupy service name) :=
    recorded_of_same (State.trail_occupy ..) (sameEntries_occupy s service name)
  exact (recorded_chained flow _).trans started (recorded_held h)

/-- **An errand that is under way after it has acted** has gone on from where it was, or has been
let in; or another one was refused. -/
theorem recorded_of_next (ho : Orderly flow) (hv : Sound flow v) (waits : service ∈ w.busy)
    (next : Next flow (some service) v w) : Recorded flow (Own flow service) v.state w.state := by
  cases next_move ho hv.proceeds next with
  | idle h => exact recorded_idle h
  | visit _ free _ =>
    -- it would have left again
    have running := (hv.occupied.running _).mpr waits
    rw [free] at running
    contradiction
  | depart _ _ h => exact recorded_occupied h
  | proceed _ _ h => exact recorded_held h
  | @arrive _ _ before behind f hf _ =>
    -- it was the only one at its service
    have once := (busy_perm hf).nodup_iff.mp hv.occupied.nodup
    exact absurd waits (List.nodup_cons.mp once).1

theorem recorded_of_undisturbed (ho : Orderly flow) (hv : Sound flow v)
    (h : Undisturbed flow service v w) :
    Sound flow w ∧ Recorded flow (Own flow service) v.state w.state := by
  have chained := recorded_chained flow (Own flow service)
  induction h with
  | refl => exact ⟨hv, chained.refl v.state⟩
  | tail _ step ih =>
    obtain ⟨sound, recorded⟩ := ih
    obtain ⟨waits, who, next, acts⟩ := step
    refine ⟨sound_of_next ho sound next, chained.trans recorded ?_⟩
    obtain rfl | idle := acts
    · exact recorded_of_next ho sound waits next
    · exact recorded_idle idle

/-- **As long as nobody else is let in, an errand alone adds marks and writes.** -/
theorem recorded_during (ho : Orderly flow) (hv : Sound flow v) {e : Errand}
    (h : During flow e v u) : Recorded flow (Own flow e.service) v.state u := by
  have chained := recorded_chained flow (Own flow e.service)
  cases h with
  | first _ _ h => exact recorded_occupied h
  | later hs _ waits alone h =>
    have next := next_of_send hs
    have sent := recorded_of_next ho hv waits next
    obtain ⟨_, since⟩ := recorded_of_undisturbed ho (sound_of_next ho hv next) alone
    exact chained.trans (chained.trans sent since) (recorded_held h)

/-! ## §2. What it reads. -/

variable {m : Materials} {page : Document.Page} {process : Document.Process}

/-- **An errand that is not disturbed reads its own values.**  When nothing is under way, the
store of the run is empty.  From when an errand is sent until it ends, while nobody else is let
in, the trail grows only by what it does itself.  And whatever it reads of the store of the run
is what it last wrote under that key itself, or else what was there when it was sent. -/
theorem undisturbed_errand_reads_its_own_values (hb : IsBuilt m page process flow)
    (hv : Reaches flow (opening flow) v) :
    (v.flights = [] → ∀ key, v.state.entry none key = none)
    ∧ ∀ e u, During flow e v u → ∃ new, u.trail = v.state.trail ++ new
      ∧ (∀ mark ∈ new, Own flow e.service mark)
      ∧ ∀ make a before key path, ∃ t, sourceValue make a before (.store .activity key path) u
        = .done (.ok ((((lastWritten flow u none key new).or
            (v.state.entry none key)).getD .null).partAt path)) t := by
  have ho := hb.orderly
  have sound := sound_of_reaches ho (sound_opening flow) hv
  constructor
  · intro landed key
    show v.state.scratch.values.get? key = none
    rw [sound.rested landed]
    rfl
  · intro e u during
    obtain ⟨new, accounts, own⟩ := recorded_during ho sound during
    refine ⟨new, accounts.trail, own, ?_⟩
    intro make a before key path
    obtain ⟨t, ht⟩ := readStore_eq (ε := ExecutionError) u.scratch key path u
    refine ⟨t, ht.trans ?_⟩
    have entry : u.scratch.get? key = _ := accounts.entry none key
    rw [Store.readAt_eq, entry, lastWritten_congr accounts.owner]

/-- The shop counts, and waits in its pause; it cannot be loaded meanwhile.  There it would read
what it has counted. -/
theorem undisturbed_errand_reads_its_own_values_market :
    ∃ v w x, send marketFlow (.activity "shop" "count" true) (opening marketFlow) = some v
      ∧ reply marketAnswers v = some w ∧ send marketFlow (.activity "shop" "load" true) w = some x
      ∧ During marketFlow (.activity "shop" "count" true) (opening marketFlow) x.state
      ∧ ∀ make a before, ∃ t, sourceValue make a before (.store .activity "tally" none) x.state
        = .done (.ok (.integer 7)) t := by
  have sent : (send marketFlow (.activity "shop" "count" true) (opening marketFlow)).map busy
      = some ["shop"] := by decide +kernel
  have waiting : ((send marketFlow (.activity "shop" "count" true) (opening marketFlow)).bind
      (reply marketAnswers)).map busy = some ["shop"] := by decide +kernel
  have refused : (((send marketFlow (.activity "shop" "count" true) (opening marketFlow)).bind
      (reply marketAnswers)).bind (send marketFlow (.activity "shop" "load" true))).map
        (fun x => (x.busy, lastWritten marketFlow x.state none "tally" x.state.trail))
      = some (["shop"], some (.integer 7)) := by decide +kernel
  obtain ⟨v, hv, atShop⟩ := Option.map_eq_some_iff.mp sent
  rw [hv, Option.bind_some] at waiting refused
  obtain ⟨w, hw, stays⟩ := Option.map_eq_some_iff.mp waiting
  rw [hw, Option.bind_some] at refused
  obtain ⟨x, hx, h⟩ := Option.map_eq_some_iff.mp refused
  obtain ⟨still, written⟩ := Prod.mk.inj h
  have answered : Next marketFlow v.busy.head? v w := next_of_reply hw
  rw [atShop, List.head?_cons] at answered
  have during : During marketFlow (.activity "shop" "count" true) (opening marketFlow) x.state := by
    refine .later hv (by simp [opening, busy]) (by simp [atShop, Errand.service]) ?_ .refl
    refine .tail (.single ⟨?_, _, answered, .inl rfl⟩) ⟨?_, _, next_of_send hx, .inl rfl⟩
    · simp [stays, Errand.service]
    · simp [still, Errand.service]
  refine ⟨v, w, x, hv, hw, hx, during, ?_⟩
  intro make a before
  obtain ⟨empty, reads⟩ := undisturbed_errand_reads_its_own_values marketFlow_isBuilt .refl
  obtain ⟨new, hnew, _, value⟩ := reads _ _ during
  obtain ⟨t, ht⟩ := value make a before "tally" none
  -- the trail was empty when it was sent, so all marks are its own
  obtain rfl : x.state.trail = new := hnew
  rw [written, Option.some_or] at ht
  exact ⟨t, ht⟩

/-- The shop has counted to 7 and waits; the bank is let in, sees the 7, and ends.  After that the
shop reads nothing, though nobody else has written there. -/
theorem bank_sees_and_empties_the_store_of_the_shop :
    IsBuilt marketMaterials {} marketProcess marketFlow
    ∧ ∃ v u w x, marketAfter [some (.activity "shop" "count" true), none] = some v
      ∧ v.busy = ["shop"] ∧ v.state.entry none "tally" = some (.integer 7)
      ∧ send marketFlow (.activity "bank" "peek" true) v = some u
      ∧ reply marketAnswers u = some w ∧ w.busy = ["shop"]
      ∧ ⟨4, .settled (.integer 7)⟩ ∈ w.state.trail
      ∧ lastWritten marketFlow w.state none "tally" w.state.trail = some (.integer 7)
      ∧ (∀ make a before, ∃ t, sourceValue make a before (.store .activity "tally" none) w.state
        = .done (.ok .null) t)
      ∧ (reply marketAnswers w).bind (reply marketAnswers) = some x
      ∧ x.busy = [] ∧ ⟨2, .settled .null⟩ ∈ x.state.trail := by
  have counted : (marketAfter [some (.activity "shop" "count" true), none]).map
      (fun v => (v.busy, v.state.entry none "tally"))
      = some (["shop"], some (.integer 7)) := by decide +kernel
  have peeked : ((marketAfter [some (.activity "shop" "count" true), none]).bind fun v =>
      (send marketFlow (.activity "bank" "peek" true) v).bind (reply marketAnswers)).map
        (fun w => (w.busy, decide (⟨4, .settled (.integer 7)⟩ ∈ w.state.trail)))
      = some (["shop"], true) := by decide +kernel
  have emptied : ((marketAfter [some (.activity "shop" "count" true), none]).bind fun v =>
      (send marketFlow (.activity "bank" "peek" true) v).bind (reply marketAnswers)).map
        (fun w => (lastWritten marketFlow w.state none "tally" w.state.trail,
          w.state.entry none "tally")) = some (some (.integer 7), none) := by decide +kernel
  have reviewed : ((marketAfter [some (.activity "shop" "count" true), none]).bind fun v =>
      (send marketFlow (.activity "bank" "peek" true) v).bind fun u =>
        (reply marketAnswers u).bind fun w =>
          (reply marketAnswers w).bind (reply marketAnswers)).map
        (fun x => (x.busy, decide (⟨2, .settled .null⟩ ∈ x.state.trail)))
      = some ([], true) := by decide +kernel
  obtain ⟨v, hv, atPause⟩ := Option.map_eq_some_iff.mp counted
  rw [hv, Option.bind_some] at peeked emptied reviewed
  obtain ⟨w, hw, atShop⟩ := Option.map_eq_some_iff.mp peeked
  rw [hw] at emptied
  obtain ⟨u, hu, hw⟩ := Option.bind_eq_some_iff.mp hw
  rw [hu, Option.bind_some, hw, Option.bind_some] at reviewed
  obtain ⟨x, hx, atEnd⟩ := Option.map_eq_some_iff.mp reviewed
  simp only [Prod.mk.injEq, decide_eq_true_eq] at atPause atShop atEnd
  obtain ⟨written, gone⟩ := Prod.mk.inj (Option.some.inj emptied)
  refine ⟨marketFlow_isBuilt, v, u, w, x, hv, atPause.1, atPause.2, hu, hw, atShop.1, atShop.2,
    written, ?_, hx, atEnd.1, atEnd.2⟩
  intro make a before
  obtain ⟨t, ht⟩ := readStore_eq (ε := ExecutionError) w.state.scratch "tally" none w.state
  refine ⟨t, ht.trans ?_⟩
  have missing : w.state.scratch.get? "tally" = none := gone
  rw [Store.readAt_eq, missing]
  rfl

end Run.Traffic

end Pageflow
