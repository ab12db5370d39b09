/-
  Pageflow.Proofs.Chains — chains of references, and where they lead.

  A reference takes the parameters of its target, and the target may be a reference as well.  What
  references lead to is found hop by hop, and there are three ways for a chain to go on:

      reference → reference → function      it ends,
      reference → reference → nothing       it breaks off,
      reference → reference → reference …   it goes in a circle.

  Only as many hops are made as there are activities.  A chain with more hops comes to a place
  twice, and a chain that comes to a place twice never ends.  So the search always ends, and it
  does not give up on a chain that would have come to an end.

  Main definitions: `Strategy.Reaches`, `Breaks`, `Circles` and `Search.Ends`.
  Main statement: `references_are_followed`.
-/
import Mathlib.Data.Fintype.Pigeonhole
import Pageflow.Proofs.Places

namespace Pageflow.Flow

variable {arena : List Activity}

namespace Strategy

variable {s t u next : Strategy} {m n hops : Nat}

/-! ## §1. Chains. -/

/-- What one hop leads to: the strategy of the target of a reference, if the target is there and
is active. -/
def next? (arena : List Activity) (s : Strategy) : Option Strategy :=
  s.target?.bind fun target => (arena[target]?).bind Activity.strategy

/-- So many hops lead from a strategy to another one. -/
inductive Reaches (arena : List Activity) : Nat → Strategy → Strategy → Prop
  | here {s : Strategy} : Reaches arena 0 s s
  | hop {hops : Nat} {s next t : Strategy} : s.next? arena = some next →
      Reaches arena hops next t → Reaches arena (hops + 1) s t

/-- The chain breaks off at a reference whose target is missing or inactive. -/
def Breaks (arena : List Activity) (s : Strategy) : Prop :=
  ∃ hops target, Reaches arena hops s (.reference target)
    ∧ (arena[target]? = none ∨ ∃ a, arena[target]? = some a ∧ a.isActive = false)

/-- The chain goes in a circle: it leads to one place twice. -/
def Circles (arena : List Activity) (s : Strategy) : Prop :=
  ∃ m n target, m < n ∧ Reaches arena m s (.reference target)
    ∧ Reaches arena n s (.reference target)

theorem next?_reference_eq_none {target : Nat} : (reference target).next? arena = none
    ↔ arena[target]? = none ∨ ∃ a, arena[target]? = some a ∧ a.isActive = false := by
  show (arena[target]?).bind Activity.strategy = none ↔ _
  cases arena[target]? with
  | none => simp
  | some a => simp [Activity.isActive]

theorem next?_of_not_isReference (h : s.isReference = false) : s.next? arena = none := by
  cases s with
  | reference target => contradiction
  | function _ | remote _ | capability _ => rfl

/-- A chain stops only at what is no reference and at a reference whose target is missing or
inactive. -/
theorem last_cases (h : s.next? arena = none) : s.isReference = false
    ∨ ∃ target, s = .reference target
      ∧ (arena[target]? = none ∨ ∃ a, arena[target]? = some a ∧ a.isActive = false) := by
  cases s with
  | reference target => exact .inr ⟨target, rfl, next?_reference_eq_none.mp h⟩
  | function _ | remote _ | capability _ => exact .inl rfl

/-- Whoever makes a hop is a reference to a place in the list. -/
theorem exists_target_of_next? (h : s.next? arena = some next) :
    ∃ target < arena.length, s = .reference target := by
  obtain ⟨target, ht, hnext⟩ := Option.bind_eq_some_iff.mp h
  obtain ⟨a, ha, _⟩ := Option.bind_eq_some_iff.mp hnext
  refine ⟨target, (List.getElem?_eq_some_iff.mp ha).1, ?_⟩
  cases s with
  | reference k => rw [Option.some.inj ht]
  | function _ | remote _ | capability _ => contradiction

namespace Reaches

theorem trans (first : Reaches arena m s t) (second : Reaches arena n t u) :
    Reaches arena (m + n) s u := by
  induction first with
  | here => rwa [Nat.zero_add]
  | hop step _ ih =>
    rw [Nat.succ_add]
    exact .hop step (ih second)

/-- A way can be parted after any of its hops. -/
theorem exists_between : ∀ {m : Nat} {s : Strategy}, Reaches arena (m + n) s u →
    ∃ t, Reaches arena m s t ∧ Reaches arena n t u
  | 0, s, h => ⟨s, .here, by rwa [Nat.zero_add] at h⟩
  | m + 1, s, h => by
    rw [Nat.succ_add] at h
    cases h with
    | hop step rest =>
      obtain ⟨t, before, after⟩ := exists_between rest
      exact ⟨t, .hop step before, after⟩

/-- Hops have no choice. -/
theorem unique (h : Reaches arena n s t) (h' : Reaches arena n s u) : t = u := by
  induction h with
  | here =>
    cases h' with
    | here => rfl
  | hop step _ ih =>
    cases h' with
    | hop step' rest' =>
      obtain rfl := Option.some.inj (step.symm.trans step')
      exact ih rest'

/-- Every hop of a way leaves from a strategy on it. -/
theorem exists_hop (h : Reaches arena n s u) (less : m < n) :
    ∃ t next, Reaches arena m s t ∧ t.next? arena = some next := by
  obtain ⟨k, rfl⟩ := Nat.exists_eq_add_of_lt less
  obtain ⟨t, before, after⟩ := exists_between (m := m) (n := k + 1) h
  cases after with
  | hop step _ => exact ⟨t, _, before, step⟩

/-- No chain goes on behind its last strategy. -/
theorem le_of_last (h : Reaches arena n s t) (last : t.next? arena = none)
    (h' : Reaches arena m s u) : m ≤ n := by
  by_contra further
  obtain ⟨t', next, before, step⟩ := h'.exists_hop (Nat.lt_of_not_le further)
  obtain rfl := h.unique before
  rw [last] at step
  contradiction

end Reaches

/-! ## §2. Long chains. -/

/-- A chain stops within so many hops or makes all of them. -/
theorem stops_or_reaches (arena : List Activity) (n : Nat) (s : Strategy) :
    (∃ m t, Reaches arena m s t ∧ t.next? arena = none) ∨ ∃ t, Reaches arena n s t := by
  -- induction on the hops, for all strategies at once: a hop leads from one to another
  induction n generalizing s with
  | zero => exact .inr ⟨s, .here⟩
  | succ n ih =>
    cases step : s.next? arena with
    | none => exact .inl ⟨0, s, .here, step⟩
    | some next =>
      rcases ih next with ⟨m, t, way, last⟩ | ⟨t, way⟩
      · exact .inl ⟨m + 1, t, .hop step way, last⟩
      · exact .inr ⟨t, .hop step way⟩

/-- **A chain with more hops than there are activities goes in a circle.**  Each hop leaves from a
reference to a place in the list, and there are more hops than places. -/
theorem Reaches.circles (h : Reaches arena n s t) (long : arena.length < n) :
    s.Circles arena := by
  have visits : ∀ i : Fin n, ∃ target : Fin arena.length,
      Reaches arena i s (.reference target) := by
    intro i
    obtain ⟨r, next, before, step⟩ := h.exists_hop i.isLt
    obtain ⟨target, inside, rfl⟩ := exists_target_of_next? step
    exact ⟨⟨target, inside⟩, before⟩
  choose place visited using visits
  -- two of the visits are to one place
  obtain ⟨i, j, apart, same⟩ :=
    Fintype.exists_ne_map_eq_of_card_lt place (by simpa using long)
  have again : Reaches arena j s (.reference (place i)) := same ▸ visited j
  rcases Nat.lt_or_gt_of_ne (Fin.val_ne_of_ne apart) with less | greater
  · exact ⟨i, j, place i, less, visited i, again⟩
  · exact ⟨j, i, place i, greater, again, visited i⟩

/-- **A chain in a circle goes on for ever.** -/
theorem Circles.exists_reaches (h : s.Circles arena) (n : Nat) : ∃ t, Reaches arena n s t := by
  obtain ⟨i, j, target, less, first, second⟩ := h
  -- the way from the first visit to the second one leads back to where it starts
  obtain ⟨d, rfl⟩ := Nat.exists_eq_add_of_lt less
  obtain ⟨r, before, around⟩ := Reaches.exists_between (m := i) (n := d + 1) second
  obtain rfl := first.unique before
  have turns : ∀ k, Reaches arena (k * (d + 1)) (.reference target) (.reference target) := by
    intro k
    induction k with
    | zero => rw [Nat.zero_mul]; exact .here
    | succ k ih => rw [Nat.succ_mul]; exact ih.trans around
  -- after `n` turns at least `n` hops are made
  have far := first.trans (turns n)
  obtain ⟨k, hk⟩ : ∃ k, i + n * (d + 1) = n + k :=
    ⟨i + n * d, by rw [Nat.mul_succ]; omega⟩
  obtain ⟨t, way, _⟩ := (hk ▸ far).exists_between
  exact ⟨t, way⟩

/-- A chain that stops does so within as many hops as there are activities. -/
theorem Reaches.le_length (h : Reaches arena n s t) (last : t.next? arena = none) :
    n ≤ arena.length := by
  by_contra long
  have circles : s.Circles arena := h.circles (Nat.lt_of_not_le long)
  obtain ⟨u, further⟩ := circles.exists_reaches (n + 1)
  have := h.le_of_last last further
  omega

/-! ## §3. The names that are found. -/

theorem ownParameterNames_of_next? (h : s.next? arena = some next) :
    s.ownParameterNames = [] := by
  obtain ⟨target, _, rfl⟩ := exists_target_of_next? h
  rfl

theorem follow_zero (s : Strategy) : s.follow arena 0 = s.ownParameterNames := by
  cases s <;> rfl

/-- With a hop left the search goes on as far as the chain does. -/
theorem follow_succ (s : Strategy) : s.follow arena (hops + 1)
    = (s.next? arena).elim s.ownParameterNames fun next => next.follow arena hops := by
  cases s with
  | reference target =>
    rw [follow, next?, target?, Option.bind_some]
    cases (arena[target]?).bind Activity.strategy <;> rfl
  | function _ | remote _ | capability _ => rfl

theorem follow_of_next? (h : s.next? arena = some next) :
    s.follow arena (hops + 1) = next.follow arena hops := by
  rw [follow_succ, h]
  rfl

/-- The names of the last strategy of a chain are its own. -/
theorem follow_of_last (h : s.next? arena = none) :
    s.follow arena hops = s.ownParameterNames := by
  cases hops with
  | zero => exact follow_zero s
  | succ hops => rw [follow_succ, h]; rfl

/-- Hops that are made are not made again. -/
theorem follow_of_reaches (h : Reaches arena n s t) :
    s.follow arena (n + hops) = t.follow arena hops := by
  induction h with
  | here => rw [Nat.zero_add]
  | hop step _ ih => rw [Nat.succ_add, follow_of_next? step, ih]

/-- **A chain that stops is followed to its last strategy**, however long it is. -/
theorem parameterNames_of_last (h : Reaches arena n s t) (last : t.next? arena = none) :
    s.parameterNames arena = t.ownParameterNames := by
  obtain ⟨hops, enough⟩ := Nat.exists_eq_add_of_le (h.le_length last)
  rw [parameterNames, enough, follow_of_reaches h, follow_of_last last]

/-- A chain in a circle is left without names: where the search gives up it is at a reference. -/
theorem parameterNames_of_circles (h : s.Circles arena) : s.parameterNames arena = [] := by
  obtain ⟨u, further⟩ := h.exists_reaches (arena.length + 1)
  obtain ⟨t, next, way, step⟩ := further.exists_hop (Nat.lt_succ_self _)
  show s.follow arena (arena.length + 0) = []
  rw [follow_of_reaches way, follow_zero, ownParameterNames_of_next? step]

end Strategy

/-! ## §4. The search, round by round.

`Strategy.follow` is given the hops that are left.  Here the hops are counted as they are made, and
nothing else keeps the search from going on. -/

/-- A search for parameters: the strategy it looks at, and how many hops led there. -/
structure Search where
  current : Strategy
  hops : Nat := 0

namespace Search

variable {x : Search} {names others : List String} {m n : Nat}

/-- One round.  The search ends with the names that it finds, or makes one hop more.  A hop too
many ends it without names. -/
def round (arena : List Activity) (x : Search) : List String ⊕ Search :=
  match x.current with
  | .reference target =>
    match (arena[target]?).bind Activity.strategy with
    | some next =>
      if x.hops + 1 ≤ arena.length then .inr ⟨next, x.hops + 1⟩ else .inl []
    | none => .inl []
  | s => .inl s.ownParameterNames

/-- The search ends in so many rounds, with these names. -/
inductive Ends (arena : List Activity) : Nat → Search → List String → Prop
  | last {x : Search} {names : List String} : x.round arena = .inl names → Ends arena 1 x names
  | more {rounds : Nat} {x y : Search} {names : List String} : x.round arena = .inr y →
      Ends arena rounds y names → Ends arena (rounds + 1) x names

theorem round_eq (x : Search) : x.round arena
    = (x.current.next? arena).elim (.inl x.current.ownParameterNames) fun next =>
        if x.hops + 1 ≤ arena.length then .inr ⟨next, x.hops + 1⟩ else .inl [] := by
  obtain ⟨s, hops⟩ := x
  cases s with
  | reference target =>
    simp only [round, Strategy.next?, Strategy.target?, Option.bind_some]
    cases (arena[target]?).bind Activity.strategy <;> rfl
  | function _ | remote _ | capability _ => rfl

/-- Rounds have no choice. -/
theorem Ends.unique (h : Ends arena m x names) (h' : Ends arena n x others) :
    m = n ∧ names = others := by
  induction h generalizing n with
  | last found =>
    cases h' with
    | last found' => exact ⟨rfl, Sum.inl.inj (found.symm.trans found')⟩
    | more goes => rw [found] at goes; contradiction
  | more goes _ ih =>
    cases h' with
    | last found => rw [goes] at found; contradiction
    | more goes' rest =>
      obtain rfl := Sum.inr.inj (goes.symm.trans goes')
      obtain ⟨rfl, same⟩ := ih rest
      exact ⟨rfl, same⟩

/-- **The search ends**, from wherever it stands, and finds what the hops that are left lead to. -/
theorem exists_ends (left : Nat) (x : Search) (room : x.hops + left = arena.length) :
    ∃ rounds ≤ left + 1, Ends arena rounds x (x.current.follow arena left) := by
  -- induction on the hops that are left, which each round that goes on lowers by one
  induction left generalizing x with
  | zero =>
    have full : ¬ x.hops + 1 ≤ arena.length := by omega
    refine ⟨1, Nat.le_refl 1, .last ?_⟩
    rw [Strategy.follow_zero, round_eq]
    cases step : x.current.next? arena with
    | none => rfl
    | some next =>
      rw [Option.elim_some, if_neg full, Strategy.ownParameterNames_of_next? step]
  | succ left ih =>
    rw [Strategy.follow_succ]
    cases step : x.current.next? arena with
    | none =>
      have found : x.round arena = .inl x.current.ownParameterNames := by
        rw [round_eq, step, Option.elim_none]
      exact ⟨1, by omega, .last found⟩
    | some next =>
      have free : x.hops + 1 ≤ arena.length := by omega
      have goes : x.round arena = .inr ⟨next, x.hops + 1⟩ := by
        rw [round_eq, step, Option.elim_some, if_pos free]
      have room' : x.hops + 1 + left = arena.length := by omega
      obtain ⟨rounds, few, ends⟩ := ih ⟨next, x.hops + 1⟩ room'
      exact ⟨rounds + 1, by omega, .more goes ends⟩

end Search

/-! ## §5. Main statement. -/

/-- **References are followed to their end, and no further.**  The search for the parameters of a
strategy ends, in at most one round more than there are activities.  If hops lead to a strategy
that is no reference, however many they are, the parameters are those of that strategy.  And there
are none just if the chain breaks off at a missing or an inactive activity, goes in a circle, or
ends at a strategy without parameters. -/
theorem references_are_followed (arena : List Activity) (s : Strategy) :
    (∃ rounds ≤ arena.length + 1, ∀ n names,
      Search.Ends arena n { current := s } names
        ↔ n = rounds ∧ names = s.parameterNames arena)
    ∧ (∀ hops t, s.Reaches arena hops t → t.isReference = false →
        s.parameterNames arena = t.ownParameterNames)
    ∧ (s.parameterNames arena = [] ↔
        s.Breaks arena ∨ s.Circles arena
        ∨ ∃ hops t, s.Reaches arena hops t ∧ t.isReference = false
            ∧ t.ownParameterNames = []) := by
  refine ⟨?_, ?_, ?_, ?_⟩
  · obtain ⟨rounds, few, ends⟩ :=
      Search.exists_ends arena.length { current := s } (Nat.zero_add _)
    refine ⟨rounds, few, fun n names => ⟨fun ends' => ends'.unique ends, ?_⟩⟩
    rintro ⟨rfl, rfl⟩
    exact ends
  · intro hops t way kind
    exact Strategy.parameterNames_of_last way (Strategy.next?_of_not_isReference kind)
  · intro nothing
    rcases Strategy.stops_or_reaches arena (arena.length + 1) s with ⟨m, t, way, last⟩ | ⟨t, way⟩
    · have own : t.ownParameterNames = [] :=
        (Strategy.parameterNames_of_last way last).symm.trans nothing
      rcases Strategy.last_cases last with kind | ⟨target, rfl, lost⟩
      · exact .inr (.inr ⟨m, t, way, kind, own⟩)
      · exact .inl ⟨m, target, way, lost⟩
    · exact .inr (.inl (way.circles (Nat.lt_succ_self _)))
  · rintro (⟨hops, target, way, lost⟩ | circles | ⟨hops, t, way, kind, own⟩)
    · exact Strategy.parameterNames_of_last way (Strategy.next?_reference_eq_none.mpr lost)
    · exact Strategy.parameterNames_of_circles circles
    · rw [Strategy.parameterNames_of_last way (Strategy.next?_of_not_isReference kind), own]

/-! ## §6. A relay and a roundabout. -/

/-- A function that fetches so many members of a team. -/
def fetchMembers : Strategy := .function ⟨"teams", "fetch", ["team", "limit"]⟩

/-- The function and two references in a row that lead to it. -/
def relay : List Activity :=
  [{ name := "fetch", title := "Fetch", service := "teams", strategy := some fetchMembers },
    { name := "again", title := "Again", service := "process", strategy := some (.reference 0) },
    { name := "renew", title := "Renew", service := "process", strategy := some (.reference 1) }]

/-- Two references to each other. -/
def roundabout : List Activity :=
  [{ name := "ask", title := "Ask", service := "process", strategy := some (.reference 1) },
    { name := "tell", title := "Tell", service := "process", strategy := some (.reference 0) }]

/-- A reference to the last activity of the relay needs as many hops as there are activities, and
all of them are made.  There is nothing behind the relay, and no way out of the roundabout. -/
theorem references_are_followed_relay :
    (Strategy.reference 2).Reaches relay relay.length fetchMembers
    ∧ fetchMembers.isReference = false
    ∧ (Strategy.reference 2).parameterNames relay = ["team", "limit"]
    ∧ (Strategy.reference 3).parameterNames relay = []
    ∧ (Strategy.reference 0).parameterNames roundabout = [] := by
  have way : (Strategy.reference 2).Reaches relay relay.length fetchMembers :=
    .hop rfl (.hop rfl (.hop rfl .here))
  obtain ⟨_, names, _⟩ := references_are_followed relay (.reference 2)
  obtain ⟨_, _, missing⟩ := references_are_followed relay (.reference 3)
  obtain ⟨_, _, circle⟩ := references_are_followed roundabout (.reference 0)
  refine ⟨way, rfl, names _ _ way rfl, ?_, ?_⟩
  · exact missing.mpr (.inl ⟨0, 3, .here, .inl rfl⟩)
  · exact circle.mpr (.inr (.inl ⟨0, 2, 0, by omega, .here, .hop rfl (.hop rfl .here)⟩))

end Pageflow.Flow
