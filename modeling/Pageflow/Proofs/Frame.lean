/-
  Pageflow.Proofs.Frame — what a run of an activity leaves alone.

  A run of an activity starts makers of values, the target if it is a reference, and what stands
  below the activity or below that target.  Makers store nothing.  So an entry of a store changes
  only if one of the others settles its result there, the last such result is what the entry then
  holds, and no entry ever goes.

  Main definitions: `Below`, `Covers` and `Framed`.
  Main statements: `covers_or_makerAt_of_calls` and `store_frame`.
-/
import Pageflow.Proofs.Stored

namespace Pageflow

/-! ## §1. What stands below. -/

namespace Flow

/-- The activity at place `k` is a sub-activity of the one at place `h`. -/
def HasSub (flow : Flow) (h k : Nat) : Prop :=
  ∃ a, flow.arena[h]? = some a ∧ k ∈ a.subActivities

/-- The activity at place `k` is the one at place `h` or stands somewhere below it. -/
abbrev Below (flow : Flow) : Nat → Nat → Prop := Relation.ReflTransGen flow.HasSub

/-- The activity at place `k` stands below the one at place `h`, or below its target. -/
def Covers (flow : Flow) (h k : Nat) : Prop :=
  flow.Below h k ∨ ∃ a t, flow.arena[h]? = some a ∧ a.target? = some t ∧ flow.Below t k

variable {flow : Flow} {h k l : Nat}

theorem covers_refl (flow : Flow) (h : Nat) : flow.Covers h h := .inl .refl

theorem covers_of_hasSub (hk : flow.Covers h k) (hl : flow.HasSub k l) : flow.Covers h l := by
  rcases hk with below | ⟨a, t, ha, ht, below⟩
  · exact .inl (below.tail hl)
  · exact .inr ⟨a, t, ha, ht, below.tail hl⟩

/-- What stands below another activity is no reference. -/
theorem isReference_of_hasSub (ho : Orderly flow) (hk : flow.HasSub h k) {b : Activity}
    (hb : flow.arena[k]? = some b) : b.isReference = false := by
  obtain ⟨a, ha, hk⟩ := hk
  obtain ⟨_, b', hb', declared, _⟩ := (ho.placed h a ha).sub k hk
  obtain rfl := Option.some.inj (hb.symm.trans hb')
  exact declared.isReference

/-- Among those that an activity covers only itself may be a reference. -/
theorem eq_of_covers_isReference (ho : Orderly flow) (hk : flow.Covers h k) {b : Activity}
    (hb : flow.arena[k]? = some b) (hr : b.isReference = true) : k = h := by
  rcases hk with below | ⟨a, t, ha, ht, below⟩
  · rcases below.cases_tail with rfl | ⟨_, _, last⟩
    · rfl
    · exact absurd (isReference_of_hasSub ho last hb) (by simp [hr])
  · -- a target is no reference either
    obtain ⟨_, b', hb', declared, _⟩ := (ho.placed h a ha).target t ht
    rcases below.cases_tail with rfl | ⟨_, _, last⟩
    · obtain rfl := Option.some.inj (hb.symm.trans hb')
      exact absurd declared.isReference (by simp [hr])
    · exact absurd (isReference_of_hasSub ho last hb) (by simp [hr])

end Flow

namespace Run

open Pageflow.Flow (Activity IsBuilt IsMaker Materials Orderly)

variable {flow : Flow} {place : Nat} {s t : State}

/-- **Whatever is called below an activity is covered by it, or makes values.** -/
theorem covers_or_makerAt_of_calls (ho : Orderly flow) {h k : Nat}
    (hh : flow.Covers place h ∨ MakerAt flow h) (hc : flow.Calls h k) :
    flow.Covers place k ∨ MakerAt flow k := by
  rcases hh with covered | maker
  · obtain ⟨a, ha, hk⟩ := hc
    rcases Flow.Activity.mem_callees.mp hk with hk | hk | hk
    · exact .inr (makerAt_of_mem_makers ho ha hk)
    · -- only the activity itself has a target
      have own := Flow.eq_of_covers_isReference ho covered ha
        (Flow.Activity.isReference_of_target?_eq_some hk)
      subst own
      exact .inl (.inr ⟨a, k, ha, hk, .refl⟩)
    · exact .inl (Flow.covers_of_hasSub covered ⟨a, ha, hk⟩)
  · exact .inr (makerAt_of_calls ho maker hc)

/-! ## §2. The stores after a run. -/

/-- A maker writes nothing. -/
theorem not_makerAt_of_writes {who : Option String} {key : String} {m : Mark}
    (h : Writes flow s who key m) : ¬ MakerAt flow m.place := by
  rintro ⟨b, hb, maker⟩
  obtain ⟨a, target, _, ha, _, _, hstore, _⟩ := h
  obtain rfl := Option.some.inj (ha.symm.trans hb)
  rw [maker.storeResult] at hstore
  contradiction

/-- What the activity at this place, by these marks, has done to the stores. -/
structure Framed (flow : Flow) (place : Nat) (new : List Mark) (s t : State) : Prop where
  trail : t.trail = s.trail ++ new
  /-- The stores are those of the same services. -/
  owner : t.owner = s.owner
  /-- An entry changes only if an activity that is covered writes it. -/
  changed : ∀ who key, t.entry who key ≠ s.entry who key →
    ∃ m ∈ new, Writes flow s who key m ∧ flow.Covers place m.place
  /-- What is written last is what the entry holds. -/
  last : ∀ who key earlier m later result, new = earlier ++ m :: later →
    Writes flow s who key m → m.stage = .settled result →
    (∀ m' ∈ later, ¬ Writes flow s who key m') → t.entry who key = some result
  /-- No entry goes. -/
  lasting : ∀ who key, (s.entry who key).isSome = true → (t.entry who key).isSome = true

theorem framed_of_accounts {new : List Mark} (accounts : Accounts flow new s t)
    (whose : ∀ m ∈ new, flow.Covers place m.place ∨ MakerAt flow m.place) :
    Framed flow place new s t where
  trail := accounts.trail
  owner := accounts.owner
  changed who key h := by
    by_contra none
    push Not at none
    -- if nobody who is covered writes the entry, nobody does
    refine h ?_
    rw [accounts.entry, lastWritten_eq_none, Option.none_or]
    intro m hm writes
    rcases whose m hm with covered | maker
    · exact none m hm writes covered
    · exact not_makerAt_of_writes writes maker
  last who key earlier m later result hnew writes stage h := by
    rw [accounts.entry, hnew, lastWritten_eq_some writes stage h, Option.some_or]
  lasting who key h := by
    rw [accounts.entry, Option.isSome_or, h, Bool.or_true]

theorem execute_framed (ho : Orderly flow) (hlt : place < flow.arena.length)
    (before : Inherited) (shows : Bool) :
    (execute flow place before shows).Within
      (Steps flow fun m => flow.Covers place m.place ∨ MakerAt flow m.place) :=
  execute_within ho (fun _ _ => covers_or_makerAt_of_calls ho) (fun _ _ h => h) place hlt
    (.inl (Flow.covers_refl flow place)) before shows

theorem framed_of_steps
    (steps : Steps flow (fun m => flow.Covers place m.place ∨ MakerAt flow m.place) s t) :
    ∃ new, Framed flow place new s t := by
  obtain ⟨new, accounts, whose⟩ := recorded_steps steps
  exact ⟨new, framed_of_accounts accounts whose⟩

variable {m : Materials} {page : Document.Page} {process : Document.Process}

/-- **What a run leaves alone.**  Whatever a run of an activity of a built flow comes to, an entry
of a store has changed only if an activity that is no reference, and that is the activity itself,
stands below it, or stands below its target, has settled its result there.  The entry then holds
the result that was settled there last, and no entry is gone.  If others act while the run waits,
this holds of each stretch of the run. -/
theorem store_frame (hb : IsBuilt m page process flow) (hlt : place < flow.arena.length)
    (before : Inherited) (shows : Bool) (s : State) :
    (∀ outcome t, (execute flow place before shows s).Ends outcome t →
      ∃ new, Framed flow place new s t)
    ∧ (execute flow place before shows s).Within
      (fun s t => ∃ new, Framed flow place new s t) s := by
  have run := execute_framed hb.orderly hlt before shows s
  constructor
  · intro outcome t ends
    exact framed_of_steps (Task.ends_of_within (steps_noting flow _).toChained run ends)
  · exact run.mono fun s t => framed_of_steps

/-! ## §3. The shop. -/

/-- What loading the shop again comes to if functions give 7. -/
def reloadedShop : Option (Except ActivityFailure Json × State) :=
  ((execute shopFlow 3 {} true (initial shopFlow)).finish sevenAnswers ()).1

/-- In the shop only loading keeps its result: in the stock. -/
theorem stock_of_writes_shop {who : Option String} {key : String} {m : Mark}
    (h : Writes shopFlow (initial shopFlow) who key m) : who = some "shop" ∧ key = "stock" := by
  have slots : ∀ a ∈ shopFlow.arena, ∀ slot ∈ (initial shopFlow).slot? a,
      slot = (some "shop", "stock") := by decide +kernel
  obtain ⟨a, target, _, ha, _, hr, hstore, hwho, hkey⟩ := h
  have slot : (initial shopFlow).slot? a = some (who, key) :=
    State.slot?_eq_some.mpr ⟨hr, target, hstore, hwho, hkey⟩
  exact Prod.mk.inj (slots a (List.mem_of_getElem? ha) _ slot)

/-- To load the shop again from the process changes its stock, and nothing else. -/
theorem store_frame_shop :
    ∃ t, (execute shopFlow 3 {} true (initial shopFlow)).Ends (.ok (.integer 7)) t
      ∧ t.entry (some "shop") "stock" = some (.integer 7)
      ∧ ∀ who key, ¬ (who = some "shop" ∧ key = "stock") →
          t.entry who key = (initial shopFlow).entry who key := by
  have outcome : (reloadedShop.map fun r => (r.1, r.2.entry (some "shop") "stock"))
      = some (.ok (.integer 7), some (.integer 7)) := by decide +kernel
  obtain ⟨⟨result, t⟩, ht, hr⟩ := Option.map_eq_some_iff.mp outcome
  obtain ⟨rfl, stock⟩ : result = .ok (.integer 7) ∧ _ := Prod.mk.inj hr
  have ends := Task.ends_of_finish sevenAnswers (Prod.ext ht rfl)
  obtain ⟨frames, _⟩ :=
    store_frame shopFlow_isBuilt (by decide +kernel : 3 < _) {} true (initial shopFlow)
  obtain ⟨new, frame⟩ := frames _ t ends
  refine ⟨t, ends, stock, ?_⟩
  intro who key other
  by_contra changed
  obtain ⟨m, _, writes, _⟩ := frame.changed who key changed
  exact other (stock_of_writes_shop writes)

end Run

end Pageflow
